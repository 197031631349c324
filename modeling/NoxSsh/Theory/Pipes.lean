/-
# Theory.Pipes — two bounded pipes and a process that copies one to the other

A process reads a pipe of `A` bytes and writes what it read to a pipe of `B`.  Somebody else
writes the first and reads the second; a write that finds no room is refused only when nothing
can move any more, with both pipes full (`BothFull`).

What was written and not read again is in the pipes (`conserves`), so nothing is ever refused
while there is less of it than the pipes hold (`refused_full`).
-/
import NoxSsh.Theory.Machine

namespace NoxSsh.Theory

set_option autoImplicit false

structure Pipes (α : Type) where
  input : List α
  output : List α

/-- What can be seen of the pipes from outside. -/
inductive PipeAct (α : Type) where
  | write (bytes : List α)
  | read (bytes : List α)
  | refuse
  deriving DecidableEq

section Pipes

variable {α : Type} (A B : Nat)

inductive PipeMove : Pipes α → List (PipeAct α) → Pipes α → Prop
  | copy (byte : α) (input output : List α) (room : output.length < B) :
      PipeMove ⟨byte :: input, output⟩ [] ⟨input, output ++ [byte]⟩
  | write (bytes input output : List α) (room : input.length + bytes.length ≤ A) :
      PipeMove ⟨input, output⟩ [.write bytes] ⟨input ++ bytes, output⟩
  | read (bytes input output : List α) : PipeMove ⟨input, bytes ++ output⟩ [.read bytes] ⟨input, output⟩
  | refuse (input output : List α) (full : input.length = A) (blocked : output.length = B) :
      PipeMove ⟨input, output⟩ [.refuse] ⟨input, output⟩

/-- Nothing can be written and nothing copied. -/
def BothFull (p : Pipes α) : Prop := p.input.length = A ∧ p.output.length = B

/-- The pipes are `p` after these acts, with some copying in between. -/
abbrev PipeRun (acts : List (PipeAct α)) (p : Pipes α) : Prop := Path (PipeMove A B) ⟨[], []⟩ acts p

def PipeAct.put : PipeAct α → Nat
  | write bytes => bytes.length
  | _ => 0

def PipeAct.got : PipeAct α → Nat
  | read bytes => bytes.length
  | _ => 0

def bytesPut : List (PipeAct α) → Nat
  | [] => 0
  | act :: acts => act.put + bytesPut acts

def bytesGot : List (PipeAct α) → Nat
  | [] => 0
  | act :: acts => act.got + bytesGot acts

@[simp] theorem bytesPut_append (a b : List (PipeAct α)) : bytesPut (a ++ b) = bytesPut a + bytesPut b := by
  induction a with
  | nil => simp [bytesPut]
  | cons act acts ih => simp only [List.cons_append, bytesPut, ih, Nat.add_assoc]

@[simp] theorem bytesGot_append (a b : List (PipeAct α)) : bytesGot (a ++ b) = bytesGot a + bytesGot b := by
  induction a with
  | nil => simp [bytesGot]
  | cons act acts ih => simp only [List.cons_append, bytesGot, ih, Nat.add_assoc]

@[simp] theorem bytesPut_single (a : PipeAct α) : bytesPut [a] = a.put := by simp [bytesPut]

@[simp] theorem bytesGot_single (a : PipeAct α) : bytesGot [a] = a.got := by simp [bytesGot]

variable {A B} {acts : List (PipeAct α)} {p : Pipes α}

/-- What went in and did not come out is in the pipes. -/
theorem conserves (run : PipeRun A B acts p) : bytesPut acts = bytesGot acts + p.input.length + p.output.length := by
  apply run.invariant (I := fun acts p => bytesPut acts = bytesGot acts + p.input.length + p.output.length)
  · rfl
  · intro acts p new q kept move
    cases move with
    | copy byte input output =>
        simp only [List.length_cons] at kept
        simp only [List.append_nil, List.length_append, List.length_singleton]
        omega
    | write bytes input output =>
        dsimp only at kept
        simp only [bytesPut_append, bytesGot_append, bytesPut_single, bytesGot_single, PipeAct.put, PipeAct.got,
          List.length_append]
        omega
    | read bytes input output =>
        simp only [List.length_append] at kept
        simp only [bytesPut_append, bytesGot_append, bytesPut_single, bytesGot_single, PipeAct.put, PipeAct.got]
        omega
    | refuse => simpa [PipeAct.put, PipeAct.got] using kept

/-- Where a write was refused both pipes were full. -/
theorem refused_full (run : PipeRun A B acts p) :
    Each (fun before a => a = .refuse → ∃ q, PipeRun A B before q ∧ BothFull A B q) acts := by
  apply And.right (a := PipeRun A B acts p)
  apply run.invariant (I := fun acts p => PipeRun A B acts p ∧
    Each (fun before a => a = .refuse → ∃ q, PipeRun A B before q ∧ BothFull A B q) acts)
  · exact ⟨.nil _, each_nil _⟩
  · rintro acts p new q ⟨run, each⟩ move
    refine ⟨run.snoc move, each_append.2 ⟨each, ?_⟩⟩
    cases move with
    | copy => exact each_nil _
    | write | read => exact each_cons.2 ⟨(fun is => by cases is), each_nil _⟩
    | refuse input output full blocked =>
        refine each_cons.2 ⟨fun _ => ⟨⟨input, output⟩, ?_, full, blocked⟩, each_nil _⟩
        rw [List.append_nil]
        exact run

end Pipes

end NoxSsh.Theory
