/-
# Theory.Machine — labelled machines, their histories, and programs that follow one

A machine is a relation `Move` from a state over a list of observations to a
state.  A `Path` is a finite run of it with everything observed on the way; what
every move carries over, every path carries over (`Path.invariant`).

`Each` speaks about a history one observation at a time, knowing what went
before it.

A program with states of its own *follows* a machine if every run of it can be
told as a path: `Follows` is the triple for that, `Along` the relation between
two of its states.  The program's states are seen through `abs` and what was
observed up to a state through `seen`.
-/
import NoxSsh.Theory.Proc

namespace NoxSsh.Theory

set_option autoImplicit false

/-! ## Paths -/

section Paths

variable {σ ο : Type} {Move : σ → List ο → σ → Prop}

inductive Path (Move : σ → List ο → σ → Prop) : σ → List ο → σ → Prop
  | nil (s : σ) : Path Move s [] s
  | snoc {s t u : σ} {seen new : List ο} (before : Path Move s seen t) (move : Move t new u) :
      Path Move s (seen ++ new) u

theorem Path.single {s t : σ} {new : List ο} (move : Move s new t) : Path Move s new t :=
  (Path.nil s).snoc move

theorem Path.trans {s t u : σ} {seen seen' : List ο} (first : Path Move s seen t)
    (second : Path Move t seen' u) : Path Move s (seen ++ seen') u := by
  induction second with
  | nil => simpa using first
  | snoc before move ih =>
      rw [← List.append_assoc]
      exact ih.snoc move

/-- What holds at the start and is kept by every move holds along every path. -/
theorem Path.invariant {I : List ο → σ → Prop} {s t : σ} {seen : List ο} (path : Path Move s seen t)
    (start : I [] s) (step : ∀ {seen t new u}, I seen t → Move t new u → I (seen ++ new) u) : I seen t := by
  induction path with
  | nil => exact start
  | snoc before move ih => exact step ih move

end Paths

/-! ## Histories -/

section Histories

variable {ο : Type}

/-- Every observation has `Q`, which may ask what was observed before it. -/
def Each (Q : List ο → ο → Prop) (seen : List ο) : Prop :=
  ∀ before o after, seen = before ++ o :: after → Q before o

@[simp] theorem each_nil (Q : List ο → ο → Prop) : Each Q [] := by
  intro before o after is
  simp at is

theorem each_cons {Q : List ο → ο → Prop} {o : ο} {seen : List ο} :
    Each Q (o :: seen) ↔ Q [] o ∧ Each (fun before x => Q (o :: before) x) seen := by
  constructor
  · intro each
    refine ⟨each [] o seen rfl, fun before x after is => each (o :: before) x after ?_⟩
    rw [is, List.cons_append]
  · rintro ⟨first, rest⟩ before x after is
    cases before with
    | nil =>
        obtain ⟨rfl, -⟩ := List.cons.inj is
        exact first
    | cons y before =>
        obtain ⟨rfl, same⟩ := List.cons.inj is
        exact rest before x after same

theorem each_append {Q : List ο → ο → Prop} {a b : List ο} :
    Each Q (a ++ b) ↔ Each Q a ∧ Each (fun before x => Q (a ++ before) x) b := by
  induction a generalizing Q with
  | nil => simp
  | cons o a ih =>
      rw [List.cons_append, each_cons, each_cons, ih, and_assoc]
      rfl

theorem Each.mono {Q Q' : List ο → ο → Prop} {seen : List ο} (each : Each Q seen)
    (weaker : ∀ before o, Q before o → Q' before o) : Each Q' seen :=
  fun before o after is => weaker before o (each before o after is)

end Histories

/-! ## Books

An observer who notes down `enter b o` at every observation can be asked, before
each one, whether `Q` holds of the notes so far and of what is coming. -/

section Books

variable {β ο σ : Type} (enter : β → ο → β) (Q : β → ο → Prop)

def Audit : β → List ο → Prop
  | _, [] => True
  | b, o :: seen => Q b o ∧ Audit (enter b o) seen

variable {enter Q}

instance decidableAudit [∀ b o, Decidable (Q b o)] : ∀ (b : β) (seen : List ο), Decidable (Audit enter Q b seen)
  | _, [] => .isTrue trivial
  | b, o :: seen => @instDecidableAnd _ _ _ (decidableAudit (enter b o) seen)

theorem audit_append {b : β} {a c : List ο} :
    Audit enter Q b (a ++ c) ↔ Audit enter Q b a ∧ Audit enter Q (a.foldl enter b) c := by
  induction a generalizing b with
  | nil => simp [Audit]
  | cons o a ih => simp [Audit, ih, and_assoc]

/-- An audit looks at every observation, with the notes on what went before it. -/
theorem audit_iff_each {b : β} {seen : List ο} :
    Audit enter Q b seen ↔ Each (fun before o => Q (before.foldl enter b) o) seen := by
  induction seen generalizing b with
  | nil => simp [Audit]
  | cons o seen ih =>
      rw [Audit, each_cons, ih]
      rfl

theorem Audit.mono {Q' : β → ο → Prop} {b : β} {seen : List ο} (audit : Audit enter Q b seen)
    (weaker : ∀ b o, Q b o → Q' b o) : Audit enter Q' b seen := by
  induction seen generalizing b with
  | nil => trivial
  | cons o seen ih => exact ⟨weaker _ _ audit.1, ih audit.2⟩

theorem Audit.and {Q' : β → ο → Prop} {b : β} {seen : List ο} (audit : Audit enter Q b seen)
    (audit' : Audit enter Q' b seen) : Audit enter (fun b o => Q b o ∧ Q' b o) b seen := by
  induction seen generalizing b with
  | nil => trivial
  | cons o seen ih => exact ⟨⟨audit.1, audit'.1⟩, ih audit.2 audit'.2⟩

/-- If every move keeps the books in order and bears an audit, a whole path does. -/
theorem Path.audit {Move : σ → List ο → σ → Prop} {K : β → σ → Prop} {b : β} {s t : σ} {seen : List ο}
    (path : Path Move s seen t) (start : K b s)
    (step : ∀ {b s new t}, K b s → Move s new t → Audit enter Q b new ∧ K (new.foldl enter b) t) :
    Audit enter Q b seen ∧ K (seen.foldl enter b) t := by
  refine path.invariant (I := fun seen t => Audit enter Q b seen ∧ K (seen.foldl enter b) t) ⟨trivial, start⟩ ?_
  intro seen t new u so move
  have one := step so.2 move
  exact ⟨audit_append.2 ⟨so.1, one.1⟩, by rw [List.foldl_append]; exact one.2⟩

end Books

/-! ## Responses -/

section Responses

variable {σ ο : Type} {Move : σ → List ο → σ → Prop}

/-- What holds of an observation, of what went before and what came after it: each
move brings it about for what it shows, and keeps it for what was shown before. -/
theorem Path.response {K : List ο → σ → Prop} {R : List ο → ο → List ο → σ → Prop} {s t : σ} {seen : List ο}
    (path : Path Move s seen t) (start : K [] s)
    (keeps : ∀ {seen t new u}, K seen t → Move t new u → K (seen ++ new) u)
    (fresh : ∀ {seen t new u before o after}, K seen t → Move t new u → new = before ++ o :: after →
      R (seen ++ before) o after u)
    (later : ∀ {seen t new u before o after}, K seen t → Move t new u → seen = before ++ o :: after →
      R before o after t → R before o (after ++ new) u) :
    ∀ before o after, seen = before ++ o :: after → R before o after t := by
  suffices both : K seen t ∧ ∀ before o after, seen = before ++ o :: after → R before o after t from both.2
  refine path.invariant (I := fun seen t => K seen t ∧
    ∀ before o after, seen = before ++ o :: after → R before o after t) ⟨start, by simp⟩ ?_
  intro seen t new u so move
  refine ⟨keeps so.1 move, fun before o after is => ?_⟩
  -- the observation is one of the old or one of the new ones
  rcases List.append_eq_append_iff.1 is with ⟨more, rfl, rest⟩ | ⟨more, split, rest⟩
  · exact fresh so.1 move rest
  · cases more with
    | nil =>
        rw [List.append_nil] at split
        obtain rfl := split
        have here := @fresh _ _ _ _ [] _ _ so.1 move (by simpa using rest.symm)
        rwa [List.append_nil] at here
    | cons x more =>
        obtain ⟨rfl, rfl⟩ := List.cons.inj rest
        exact later so.1 move split (so.2 _ _ _ split)

end Responses

/-! ## Programs that follow a machine -/

section Following

variable {ε σ α β γ φ ο : Type}

/-- A machine over phases and abstract states, and how a program's states show them. -/
structure Follower (σ γ φ ο : Type) where
  Move : φ × γ → List ο → φ × γ → Prop
  abs : σ → γ
  seen : σ → List ο

variable (F : Follower σ γ φ ο)

/-- From `s` in phase `p` the machine has a path to `s'` in phase `p'` over what
was observed in between. -/
def Along (p : φ) (s : σ) (q : φ) (t : σ) : Prop :=
  ∃ new, F.seen t = F.seen s ++ new ∧ Path F.Move (p, F.abs s) new (q, F.abs t)

/-- Started in phase `p`, `m` follows the machine to some phase that goes with how
it ended. -/
def Follows (p : φ) (m : Proc ε σ α) (Q : Outcome ε α → φ → σ → Prop) (s : σ) : Prop :=
  ∃ q, Along F p s q (m.run s).2 ∧ Q (m.run s).1 q (m.run s).2

variable {F}

/-- Nothing was observed and the abstract state is the same. -/
theorem along_quiet {s t : σ} (p : φ) (silent : F.seen t = F.seen s) (same : F.abs t = F.abs s) :
    Along F p s p t := by
  refine ⟨[], by simp [silent], ?_⟩
  rw [same]
  exact Path.nil _

theorem along_refl (p : φ) (s : σ) : Along F p s p s := along_quiet p rfl rfl

theorem along_move {p q : φ} {s t : σ} {new : List ο} (observed : F.seen t = F.seen s ++ new)
    (move : F.Move (p, F.abs s) new (q, F.abs t)) : Along F p s q t :=
  ⟨new, observed, Path.single move⟩

theorem Along.trans {p q r : φ} {s t u : σ} (first : Along F p s q t)
    (second : Along F q t r u) : Along F p s r u := by
  obtain ⟨new, observed, path⟩ := first
  obtain ⟨new', observed', path'⟩ := second
  exact ⟨new ++ new', by rw [observed', observed, List.append_assoc], path.trans path'⟩

variable {p : φ} {m : Proc ε σ α} {k : α → Proc ε σ β} {s t : σ}

theorem follows_of_run {Q : Outcome ε α → φ → σ → Prop} {o : Outcome ε α} {q : φ}
    (ran : m.run s = (o, t)) (along : Along F p s q t) (post : Q o q t) : Follows F p m Q s := by
  refine ⟨q, ?_, ?_⟩
  · rw [ran]
    exact along
  · rw [ran]
    exact post

/-- What comes before a program is part of its path. -/
theorem Follows.after {m' : Proc ε σ α} {Q : Outcome ε α → φ → σ → Prop} {q : φ}
    (follows : Follows F q m Q t) (along : Along F p s q t) (same : m'.run s = m.run t) :
    Follows F p m' Q s := by
  obtain ⟨r, more, post⟩ := follows
  rw [← same] at more post
  exact ⟨r, along.trans more, post⟩

theorem Follows.mono {Q Q' : Outcome ε α → φ → σ → Prop} (follows : Follows F p m Q s)
    (weaker : ∀ o q t, Q o q t → Q' o q t) : Follows F p m Q' s := by
  obtain ⟨q, along, post⟩ := follows
  exact ⟨q, along, weaker _ _ _ post⟩

/-- A sequence: a value goes on, a failure and a wait stay as they are. -/
theorem Follows.bind {Q : Outcome ε α → φ → σ → Prop} {R : Outcome ε β → φ → σ → Prop}
    (first : Follows F p m Q s)
    (second : ∀ a q t, m.run s = (.ok a, t) → Q (.ok a) q t → Follows F q (k a) R t)
    (fails : ∀ e q t, Q (.err e) q t → R (.err e) q t)
    (waits : ∀ q t, Q .stuck q t → R .stuck q t) : Follows F p (m >>= k) R s := by
  obtain ⟨q, along, post⟩ := first
  cases ran : m.run s with
  | mk o t =>
      rw [ran] at along post
      cases o with
      | ok a =>
          obtain ⟨r, along', post'⟩ := second a q t ran post
          refine ⟨r, ?_, ?_⟩
          · rw [Proc.bind_ok ran]
            exact along.trans along'
          · rw [Proc.bind_ok ran]
            exact post'
      | err e =>
          have whole : (m >>= k).run s = (.err e, t) := Proc.bind_err ran
          exact follows_of_run whole along (fails e q t post)
      | stuck =>
          have whole : (m >>= k).run s = (.stuck, t) := by rw [Proc.bind_run, ran]
          exact follows_of_run whole along (waits q t post)

/-- A failure goes by another code. -/
theorem Follows.failAs {Q : Outcome ε α → φ → σ → Prop} (follows : Follows F p m Q s) (e : ε)
    (renamed : ∀ e' q t, Q (.err e') q t → Q (.err e) q t) : Follows F p (Proc.failAs e m) Q s := by
  obtain ⟨q, along, post⟩ := follows
  cases ran : m.run s with
  | mk o t =>
      rw [ran] at along post
      cases o with
      | ok a => exact follows_of_run (Proc.failAs_ok ran) along post
      | err e' => exact follows_of_run (Proc.failAs_err ran) along (renamed e' q t post)
      | stuck =>
          have whole : (Proc.failAs e m).run s = (.stuck, t) := by rw [Proc.failAs_run, ran]
          exact follows_of_run whole along post

/-- A failure becomes a value. -/
theorem Follows.attempt {Q : Outcome ε α → φ → σ → Prop} (follows : Follows F p m Q s) :
    Follows F p (Proc.attempt m) (fun o q t => match o with
      | .ok (some a) => Q (.ok a) q t
      | .ok none => ∃ e, Q (.err e) q t
      | .err _ => False
      | .stuck => Q .stuck q t) s := by
  obtain ⟨q, along, post⟩ := follows
  cases ran : m.run s with
  | mk o t =>
      rw [ran] at along post
      have whole : (Proc.attempt m).run s = _ := Proc.attempt_run m s
      rw [ran] at whole
      cases o with
      | ok a => exact follows_of_run whole along post
      | err e => exact follows_of_run whole along ⟨e, post⟩
      | stuck => exact follows_of_run whole along post

end Following

end NoxSsh.Theory
