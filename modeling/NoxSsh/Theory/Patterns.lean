/-
# Theory.Patterns — patterns with wildcards, and the words of a text

A text fills a pattern if it falls into parts, one for each symbol: anything where any
number of elements may stand, one element, or an element that counts as the same.  The
rules take the pattern apart at its first symbol.

A word is what stands between two separators and has none in it; the words are what is left
of the split text without its empty pieces (`mem_words_iff`).
-/
import Mathlib.Data.List.Forall2

namespace NoxSsh.Theory

set_option autoImplicit false

/-! ## Patterns -/

/-- A symbol of a pattern. -/
inductive Symbol (α : Type) where
  | many
  | one
  | exactly (a : α)

section Filling

variable {α : Type} (same : α → α → Prop)

/-- What may stand for a symbol. -/
def StandsFor : Symbol α → List α → Prop
  | .many, _ => True
  | .one, part => part.length = 1
  | .exactly a, part => ∃ b, same a b ∧ part = [b]

/-- The text is the pattern with each symbol replaced. -/
def Fills (pattern : List (Symbol α)) (text : List α) : Prop :=
  ∃ parts, List.Forall₂ (StandsFor same) pattern parts ∧ parts.flatten = text

variable {same} {pattern : List (Symbol α)} {text : List α}

theorem fills_nil : Fills same [] text ↔ text = [] := by
  simp [Fills, eq_comm]

/-- The first symbol stands for a first part, the others for the rest. -/
theorem fills_cons {symbol : Symbol α} :
    Fills same (symbol :: pattern) text ↔ ∃ part rest, StandsFor same symbol part ∧ Fills same pattern rest ∧ part ++ rest = text := by
  constructor
  · rintro ⟨parts, stand, is⟩
    obtain ⟨part, others, first, later, rfl⟩ := List.forall₂_cons_left_iff.1 stand
    exact ⟨part, others.flatten, first, ⟨others, later, rfl⟩, is⟩
  · rintro ⟨part, rest, first, ⟨others, later, rfl⟩, is⟩
    exact ⟨part :: others, .cons first later, is⟩

/-- Anything may be passed over. -/
theorem fills_many : Fills same (.many :: pattern) text ↔ ∃ rest, rest <:+ text ∧ Fills same pattern rest := by
  rw [fills_cons]
  constructor
  · rintro ⟨part, rest, -, fills, rfl⟩
    exact ⟨rest, List.suffix_append part rest, fills⟩
  · rintro ⟨rest, ⟨part, is⟩, fills⟩
    exact ⟨part, rest, trivial, fills, is⟩

theorem fills_one : Fills same (.one :: pattern) text ↔ ∃ a rest, text = a :: rest ∧ Fills same pattern rest := by
  rw [fills_cons]
  constructor
  · rintro ⟨part, rest, single, fills, rfl⟩
    obtain ⟨a, rfl⟩ := List.length_eq_one_iff.1 single
    exact ⟨a, rest, rfl, fills⟩
  · rintro ⟨a, rest, rfl, fills⟩
    exact ⟨[a], rest, rfl, fills, rfl⟩

theorem fills_exactly {a : α} :
    Fills same (.exactly a :: pattern) text ↔ ∃ b rest, text = b :: rest ∧ same a b ∧ Fills same pattern rest := by
  rw [fills_cons]
  constructor
  · rintro ⟨part, rest, ⟨b, alike, rfl⟩, fills, rfl⟩
    exact ⟨b, rest, rfl, alike, fills⟩
  · rintro ⟨b, rest, rfl, alike, fills⟩
    exact ⟨[b], rest, ⟨b, alike, rfl⟩, fills, rfl⟩

end Filling

/-! ## Words -/

section Words

variable {α : Type} (isSep : α → Bool)

/-- A piece between two separators, or between one and an end. -/
structure IsPiece (text piece : List α) : Prop where
  stands : ∃ before after, text = before ++ piece ++ after ∧ (∀ a ∈ before.getLast?, isSep a = true) ∧
    ∀ a ∈ after.head?, isSep a = true
  whole : ∀ a ∈ piece, isSep a = false

/-- A piece that is not empty. -/
def IsWord (text word : List α) : Prop := IsPiece isSep text word ∧ word ≠ []

variable {isSep} {text piece word : List α}

theorem none_before {before : List α} (whole : ∀ a ∈ before, isSep a = false)
    (left : ∀ a ∈ before.getLast?, isSep a = true) : before = [] := by
  by_contra some_
  have sep := left _ (List.getLast?_eq_some_getLast some_)
  rw [whole _ (List.getLast_mem some_)] at sep
  cases sep

theorem none_after {after : List α} (whole : ∀ a ∈ after, isSep a = false)
    (right : ∀ a ∈ after.head?, isSep a = true) : after = [] := by
  by_contra some_
  have sep := right _ (List.head?_eq_some_head some_)
  rw [whole _ (List.head_mem some_)] at sep
  cases sep

/-- A text without separators is one piece. -/
theorem isPiece_whole (whole : ∀ a ∈ text, isSep a = false) : IsPiece isSep text piece ↔ piece = text := by
  constructor
  · rintro ⟨⟨before, after, rfl, left, right⟩, -⟩
    have noBefore := none_before (fun a mem => whole a (by simp [mem])) left
    have noAfter := none_after (fun a mem => whole a (by simp [mem])) right
    simp [noBefore, noAfter]
  · rintro rfl
    exact ⟨⟨[], [], by simp, by simp, by simp⟩, whole⟩

/-- A separator ends the first piece. -/
theorem isPiece_append_cons {first rest : List α} {sep : α} (whole : ∀ a ∈ first, isSep a = false)
    (is : isSep sep = true) : IsPiece isSep (first ++ sep :: rest) piece ↔ piece = first ∨ IsPiece isSep rest piece := by
  constructor
  · rintro ⟨⟨before, after, splits, left, right⟩, inside⟩
    rw [List.append_assoc, List.append_eq_append_iff] at splits
    rcases splits with ⟨more, rfl, splits⟩ | ⟨more, rfl, splits⟩
    · cases more with
      | cons a more =>
          -- it begins behind the separator
          obtain ⟨rfl, later⟩ := List.cons.inj splits
          refine .inr ⟨⟨more, after, by rw [List.append_assoc]; exact later, fun a mem => left a ?_, right⟩, inside⟩
          cases more with
          | nil => simp at mem
          | cons b more => simpa [List.getLast?_append] using mem
      | nil =>
          left
          rw [List.append_nil] at left
          cases piece with
          | nil => exact (none_before whole left).symm
          | cons a piece =>
              obtain ⟨rfl, -⟩ := List.cons.inj splits
              rw [inside sep (by simp)] at is
              cases is
    · -- it begins within the first
      left
      obtain rfl := none_before (fun a mem => whole a (by simp [mem])) left
      rw [List.nil_append] at whole ⊢
      rw [List.append_eq_append_iff] at splits
      rcases splits with ⟨gone, rfl, ended⟩ | ⟨gone, rfl, ended⟩
      · have ends : gone = [] := by
          apply none_after fun a mem => whole a (by simp [mem])
          intro a mem
          apply right a
          rw [ended]
          cases gone with
          | nil => simp at mem
          | cons b gone => simpa using mem
        simp [ends]
      · cases gone with
        | nil => simp
        | cons a gone =>
            obtain ⟨rfl, -⟩ := List.cons.inj ended
            rw [inside sep (by simp)] at is
            cases is
  · rintro (rfl | ⟨⟨before, after, rfl, left, right⟩, inside⟩)
    · exact ⟨⟨[], sep :: rest, by simp, by simp, by simpa using is⟩, whole⟩
    · refine ⟨⟨first ++ sep :: before, after, by simp, fun a mem => ?_, right⟩, inside⟩
      cases before with
      | nil =>
          obtain rfl : sep = a := by simpa using mem
          exact is
      | cons b before => exact left a (by simpa [List.getLast?_append] using mem)

theorem mem_splitOnP_iff : piece ∈ text.splitOnP isSep ↔ IsPiece isSep text piece := by
  induction size : text.length using Nat.strongRecOn generalizing text with
  | _ n ih =>
    cases found : text.find? isSep with
    | none =>
        have none : ∀ a ∈ text, isSep a = false := by simpa using found
        rw [List.splitOnP_eq_singleton none, List.mem_singleton, isPiece_whole none]
    | some sep =>
        obtain ⟨is, first, rest, rfl, whole⟩ := List.find?_eq_some_iff_append.1 found
        have fresh : ∀ a ∈ first, isSep a = false := by simpa using whole
        have shorter : rest.length < n := by
          rw [← size, List.length_append, List.length_cons]
          omega
        rw [List.splitOnP_append_cons_of_forall_mem fresh sep is, List.mem_cons, isPiece_append_cons fresh is,
          ih rest.length shorter rfl]

/-- The words are the pieces that are not empty. -/
theorem mem_words_iff : word ∈ (text.splitOnP isSep).filter (· ≠ []) ↔ IsWord isSep text word := by
  simp [IsWord, mem_splitOnP_iff, and_comm]

end Words

end NoxSsh.Theory
