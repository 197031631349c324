/-
# Theory.Ranges — ranges handed out by a counter that wraps

A counter modulo `m` hands out a range of values and moves on to its end.  As
long as no more than `m` values were handed out in all, no value was handed out
twice (`handedOut_apart`), wherever the counter started and however often it
wrapped.  A step may also be wasted: its values count as handed out and nobody
holds them.
-/
import Mathlib.Data.Nat.ModEq
import Mathlib.Data.List.Pairwise
import Mathlib.Tactic.Common

namespace NoxSsh.Theory

set_option autoImplicit false

/-- `size` consecutive values from `start` on. -/
structure Span where
  start : Nat
  size : Nat
  deriving DecidableEq, Repr

namespace Span

/-- The values of a span, counted modulo `m`. -/
def Has (m : Nat) (s : Span) (value : Nat) : Prop := ∃ i < s.size, value = (s.start + i) % m

/-- No value belongs to both. -/
def Apart (m : Nat) (s t : Span) : Prop := ∀ value, s.Has m value → ¬ t.Has m value

/-- Spans that lie one after the other within `m` values do not meet. -/
theorem apart_of_le {m base : Nat} {s t : Span} {a b : Nat} (first : s.start % m = (base + a) % m)
    (second : t.start % m = (base + b) % m) (order : a + s.size ≤ b) (room : b + t.size ≤ a + m) : Apart m s t := by
  rintro value ⟨i, inside, rfl⟩ ⟨j, inside', same⟩
  have left : (s.start + i) % m = (base + (a + i)) % m := by
    rw [Nat.add_mod, first, ← Nat.add_mod, Nat.add_assoc]
  have right : (t.start + j) % m = (base + (b + j)) % m := by
    rw [Nat.add_mod, second, ← Nat.add_mod, Nat.add_assoc]
  have meet : a + i ≡ b + j [MOD m] := by
    apply Nat.ModEq.add_left_cancel' base
    exact left.symm.trans (same.trans right)
  have gap : m ∣ (b + j) - (a + i) := (Nat.modEq_iff_dvd' (by omega)).1 meet
  have short := Nat.le_of_dvd (by omega) gap
  omega

end Span

/-- Every span of the list starts where a counter modulo `m` stands that was at
`base` and has moved over the spans before it. -/
def HandedOut (m : Nat) : Nat → List Span → Prop
  | _, [] => True
  | base, s :: spans => s.start % m = base % m ∧ HandedOut m (base + s.size) spans

def total (spans : List Span) : Nat := (spans.map Span.size).sum

@[simp] theorem total_nil : total [] = 0 := rfl

@[simp] theorem total_cons (s : Span) (spans : List Span) : total (s :: spans) = s.size + total spans := by
  simp [total]

@[simp] theorem total_append (a b : List Span) : total (a ++ b) = total a + total b := by
  simp [total]

theorem handedOut_append {m base : Nat} {a b : List Span} :
    HandedOut m base (a ++ b) ↔ HandedOut m base a ∧ HandedOut m (base + total a) b := by
  induction a generalizing base with
  | nil => simp [HandedOut]
  | cons s a ih => simp only [List.cons_append, HandedOut, ih, total_cons, and_assoc, Nat.add_assoc]

/-- Only the value of the counter matters. -/
theorem handedOut_congr {m : Nat} {spans : List Span} : ∀ {base base' : Nat}, base % m = base' % m →
    HandedOut m base spans → HandedOut m base' spans := by
  induction spans with
  | nil => exact fun _ _ => trivial
  | cons s spans ih =>
      rintro base base' same ⟨here, rest⟩
      refine ⟨here.trans same, ih ?_ rest⟩
      rw [Nat.add_mod, same, ← Nat.add_mod]

/-- Where each later span starts. -/
theorem handedOut_mem {m base : Nat} {spans : List Span} (issued : HandedOut m base spans) {t : Span}
    (mem : t ∈ spans) : ∃ b, t.start % m = (base + b) % m ∧ b + t.size ≤ total spans := by
  induction spans generalizing base with
  | nil => simp at mem
  | cons s spans ih =>
      obtain ⟨here, rest⟩ := issued
      rcases List.mem_cons.1 mem with rfl | later
      · exact ⟨0, here, by simp⟩
      · obtain ⟨b, starts, fits⟩ := ih rest later
        refine ⟨s.size + b, by rw [starts, Nat.add_assoc], ?_⟩
        rw [total_cons]
        omega

/-- **No value twice.** -/
theorem handedOut_apart {m base : Nat} {spans : List Span} (issued : HandedOut m base spans)
    (few : total spans ≤ m) : spans.Pairwise (Span.Apart m) := by
  induction spans generalizing base with
  | nil => exact List.Pairwise.nil
  | cons s spans ih =>
      obtain ⟨here, rest⟩ := issued
      rw [total_cons] at few
      apply List.Pairwise.cons _ (ih rest (by omega))
      intro t mem
      obtain ⟨b, starts, fits⟩ := handedOut_mem rest mem
      apply Span.apart_of_le (a := 0) (b := s.size + b) here
      · rw [starts, Nat.add_assoc]
      · omega
      · omega

end NoxSsh.Theory
