/-
# Theory.Iterate — a function that takes a state to the next, as long as there is one

The states it comes to from `s` are in an order, `iterate next s 0`, `iterate next s 1`, ….
It comes to an end if a rank never goes up and goes down again and again
(`iterate_ends`); that it goes down again and again is only asked of a sequence without an end.
-/
import Mathlib.Logic.Basic
import Mathlib.Tactic.Common

namespace NoxSsh.Theory

set_option autoImplicit false

section Iterate

variable {σ : Type} (next : σ → Option σ) (s : σ)

/-- The state after `n` steps, if there are that many. -/
def iterate : Nat → Option σ
  | 0 => some s
  | n + 1 => (iterate n).bind next

def Visits (t : σ) : Prop := ∃ n, iterate next s n = some t

variable {next s} {t u : σ}

theorem visits_start : Visits next s s := ⟨0, rfl⟩

theorem iterate_succ {n : Nat} (here : iterate next s n = some t) : iterate next s (n + 1) = next t := by
  rw [iterate, here, Option.bind_some]

theorem Visits.step (visits : Visits next s t) (step : next t = some u) : Visits next s u := by
  obtain ⟨n, here⟩ := visits
  exact ⟨n + 1, (iterate_succ here).trans step⟩

/-- What holds at the start and is kept by the steps from where it came holds wherever it comes. -/
theorem Visits.invariant {I : σ → Prop} (visits : Visits next s t) (start : I s)
    (keeps : ∀ t u, Visits next s t → I t → next t = some u → I u) : I t := by
  obtain ⟨n, here⟩ := visits
  induction n generalizing t with
  | zero =>
      obtain rfl := Option.some.inj here
      exact start
  | succ n ih =>
      rw [iterate, Option.bind_eq_some_iff] at here
      obtain ⟨before, there, step⟩ := here
      exact keeps before t ⟨n, there⟩ (ih there) step

variable {rank : σ → Nat} {Drop : σ → Prop}

theorem rank_le (down : ∀ t u, Visits next s t → next t = some u → rank u ≤ rank t) {n m : Nat} (le : n ≤ m)
    (first : iterate next s n = some t) (last : iterate next s m = some u) : rank u ≤ rank t := by
  induction le generalizing u with
  | refl =>
      obtain rfl := Option.some.inj (first.symm.trans last)
      exact Nat.le_refl _
  | @step m _ ih =>
      rw [iterate, Option.bind_eq_some_iff] at last
      obtain ⟨before, there, step⟩ := last
      exact Nat.le_trans (down before u ⟨m, there⟩ step) (ih there)

/-- A sequence along which a rank never goes up, and without an end goes down again and again,
has an end. -/
theorem iterate_ends (down : ∀ t u, Visits next s t → next t = some u → rank u ≤ rank t)
    (drops : ∀ t u, Visits next s t → Drop t → next t = some u → rank u < rank t)
    (again : (∀ n, iterate next s n ≠ none) → ∀ n, ∃ m t, n ≤ m ∧ iterate next s m = some t ∧ Drop t) :
    ∃ t, Visits next s t ∧ next t = none := by
  by_contra never
  have goesOn : ∀ n, iterate next s n ≠ none := by
    intro n
    induction n with
    | zero => simp [iterate]
    | succ n ih =>
        obtain ⟨t, here⟩ := Option.ne_none_iff_exists'.1 ih
        rw [iterate_succ here]
        exact fun ends => never ⟨t, ⟨n, here⟩, ends⟩
  have bounded : ∀ r n t, iterate next s n = some t → rank t ≤ r → False := by
    intro r
    induction r with
    | zero =>
        intro n t here low
        obtain ⟨m, u, le, there, drop⟩ := again goesOn n
        obtain ⟨v, step⟩ := Option.ne_none_iff_exists'.1 (goesOn (m + 1))
        have less := drops u v ⟨m, there⟩ drop (by rw [← iterate_succ there, step])
        have before := rank_le down le here there
        omega
    | succ r ih =>
        intro n t here low
        obtain ⟨m, u, le, there, drop⟩ := again goesOn n
        obtain ⟨v, step⟩ := Option.ne_none_iff_exists'.1 (goesOn (m + 1))
        have less := drops u v ⟨m, there⟩ drop (by rw [← iterate_succ there, step])
        have before := rank_le down le here there
        exact ih (m + 1) v step (by omega)
  exact bounded (rank s) 0 s rfl (Nat.le_refl _)

end Iterate

end NoxSsh.Theory
