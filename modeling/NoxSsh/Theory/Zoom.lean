/-
# Theory.Zoom — a program on a part of a larger state

A library works on a state of its own, and the application around it has more: files, a
terminal, what it has done so far.  `zoom part m` runs the library's program `m` on its part of
the application's state and hands the application what came back, a value or the code of a
failure, which the application may go on from.

What the program does to its part it does to the whole (`always_zoom`), what can be seen
beside the part stays as it is (`zoom_beside`), and a triple about the part is one about the
whole (`triple_zoom`).
-/
import NoxSsh.Theory.Proc

namespace NoxSsh.Theory

set_option autoImplicit false

/-- A part of a state that can be read and replaced. -/
structure Facet (τ σ : Type) where
  get : τ → σ
  set : σ → τ → τ
  get_set : ∀ s t, get (set s t) = s
  set_get : ∀ t, set (get t) t = t

namespace Facet

variable {τ σ : Type}

/-- What is seen of the whole beside the part. -/
def Beside {γ : Type} (part : Facet τ σ) (view : τ → γ) : Prop := ∀ s t, view (part.set s t) = view t

end Facet

namespace Proc

variable {ε ε' τ σ α β : Type}

/-- Run `m` on a part of the state; a failure of it is a value. -/
def zoom (part : Facet τ σ) (m : Proc ε σ α) : Proc ε' τ (Except ε α) := ⟨fun t =>
  match m.run (part.get t) with
  | (.ok a, s) => (.ok (.ok a), part.set s t)
  | (.err e, s) => (.ok (.error e), part.set s t)
  | (.stuck, s) => (.stuck, part.set s t)⟩

section Zoom

variable {part : Facet τ σ} {m : Proc ε σ α} {t : τ} {s : σ}

theorem zoom_ok {a : α} (ran : m.run (part.get t) = (.ok a, s)) :
    (zoom part m : Proc ε' τ _).run t = (.ok (.ok a), part.set s t) := by
  rw [zoom]
  dsimp only
  rw [ran]

theorem zoom_err {e : ε} (ran : m.run (part.get t) = (.err e, s)) :
    (zoom part m : Proc ε' τ _).run t = (.ok (.error e), part.set s t) := by
  rw [zoom]
  dsimp only
  rw [ran]

theorem zoom_state (t : τ) : ((zoom part m : Proc ε' τ _).run t).2 = part.set (m.run (part.get t)).2 t := by
  rw [zoom]
  dsimp only
  rcases m.run (part.get t) with ⟨o, s⟩
  cases o <;> rfl

/-- The program fails inside only. -/
theorem zoom_never_fails (t : τ) (e : ε') : ((zoom part m : Proc ε' τ _).run t).1 ≠ .err e := by
  rw [zoom]
  dsimp only
  rcases m.run (part.get t) with ⟨o, s⟩
  cases o <;> simp

/-- A relation between the parts is one between the wholes. -/
theorem always_zoom {R : σ → σ → Prop} {S : τ → τ → Prop} (always : Always R m)
    (whole : ∀ t s, R (part.get t) s → S t (part.set s t)) : Always S (zoom part m : Proc ε' τ _) := by
  intro t
  rw [zoom_state]
  exact whole t _ (always _)

theorem zoom_beside {γ : Type} {view : τ → γ} (beside : part.Beside view) (t : τ) :
    view ((zoom part m : Proc ε' τ _).run t).2 = view t := by
  rw [zoom_state]
  exact beside _ _

/-- A triple about the part, from every whole with `P`, is one about the whole. -/
theorem triple_zoom {P : τ → Prop} {Q : Except ε α → τ → Prop} {E : Option ε' → τ → Prop}
    (triple : ∀ t, P t → Triple (fun s => s = part.get t) m (fun a s => Q (.ok a) (part.set s t))
      fun e s => match e with
        | some e => Q (.error e) (part.set s t)
        | none => E none (part.set s t)) :
    Triple P (zoom part m) Q E := by
  constructor
  intro t holds
  have post := (triple t holds).ends (part.get t) rfl
  rw [zoom]
  dsimp only
  revert post
  rcases m.run (part.get t) with ⟨o, s⟩
  cases o <;> exact id

end Zoom

end Proc

end NoxSsh.Theory
