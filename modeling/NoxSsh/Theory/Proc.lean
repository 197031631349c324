/-
# Theory.Proc — stateful programs that return, fail with a code, or are still running

A `Proc ε σ α` takes a state to an outcome and a state.  The outcome is a value,
an error code, or `stuck`: the program has not come back, because it waits for
input nobody has supplied or because its loop bound was reached.  The state is
kept in all three cases, so a property of every finite prefix of a run is a
property of the final state over all inputs and all bounds.

The rules come in two kinds.

* `Keeps I m` and `Always R m` speak about the state alone, whatever the outcome:
  an invariant, and a reflexive-transitive relation between start and end.
* `Returns late m Q s` says that `m` comes back from `s` with a value and a state
  in `Q`, unless it failed with an excuse.

Nothing here knows what the state is or which codes there are.
-/
import Mathlib.Logic.Basic
import Mathlib.Tactic.Common

namespace NoxSsh.Theory

set_option autoImplicit false

/-- How a run ends: a value, an error code, or not yet. -/
inductive Outcome (ε α : Type) where
  | ok (value : α)
  | err (code : ε)
  | stuck
  deriving DecidableEq

structure Proc (ε σ α : Type) where
  run : σ → Outcome ε α × σ

namespace Proc

variable {ε σ α β : Type}

instance : Monad (Proc ε σ) where
  pure a := ⟨fun s => (.ok a, s)⟩
  bind m k := ⟨fun s =>
    match m.run s with
    | (.ok a, s') => (k a).run s'
    | (.err e, s') => (.err e, s')
    | (.stuck, s') => (.stuck, s')⟩

/-! ## Primitives -/

def state : Proc ε σ σ := ⟨fun s => (.ok s, s)⟩

def update (f : σ → σ) : Proc ε σ Unit := ⟨fun s => (.ok (), f s)⟩

def fail (e : ε) : Proc ε σ α := ⟨fun s => (.err e, s)⟩

/-- Wait for something that never comes. -/
def stall : Proc ε σ α := ⟨fun s => (.stuck, s)⟩

/-- Go on if `c` holds, else fail with `e`. -/
def ensure (c : Prop) [Decidable c] (e : ε) : Proc ε σ Unit := if c then pure () else fail e

/-- The value of a partial computation, or the code `e`. -/
def lift (e : ε) : Option α → Proc ε σ α
  | some a => pure a
  | none => fail e

/-- Run `m` and report every failure of it as `e`. -/
def failAs (e : ε) (m : Proc ε σ α) : Proc ε σ α := ⟨fun s =>
  match m.run s with
  | (.err _, s') => (.err e, s')
  | r => r⟩

/-- Run `m` and go on whether it succeeded or not; its code is dropped. -/
def attempt (m : Proc ε σ α) : Proc ε σ (Option α) := ⟨fun s =>
  match m.run s with
  | (.ok a, s') => (.ok (some a), s')
  | (.err _, s') => (.ok none, s')
  | (.stuck, s') => (.stuck, s')⟩

/-- Run `m`, then `after` with whether it returned, and end as `m` did. -/
def ending (m : Proc ε σ α) (after : Bool → σ → σ) : Proc ε σ α := ⟨fun s =>
  match m.run s with
  | (.ok a, s') => (.ok a, after true s')
  | (.err e, s') => (.err e, after false s')
  | (.stuck, s') => (.stuck, s')⟩

/-! ## Running a sequence step by step -/

section Run

variable {s s' : σ} {m : Proc ε σ α} {k : α → Proc ε σ β} {a : α} {e e' : ε}

@[simp] theorem pure_run (a : α) (s : σ) : (pure a : Proc ε σ α).run s = (.ok a, s) := rfl

@[simp] theorem state_run (s : σ) : (state : Proc ε σ σ).run s = (.ok s, s) := rfl

@[simp] theorem update_run (f : σ → σ) (s : σ) : (update f : Proc ε σ Unit).run s = (.ok (), f s) := rfl

@[simp] theorem fail_run (e : ε) (s : σ) : (fail e : Proc ε σ α).run s = (.err e, s) := rfl

@[simp] theorem stall_run (s : σ) : (stall : Proc ε σ α).run s = (.stuck, s) := rfl

theorem bind_run (m : Proc ε σ α) (k : α → Proc ε σ β) (s : σ) :
    (m >>= k).run s = match m.run s with
      | (.ok a, s') => (k a).run s'
      | (.err e, s') => (.err e, s')
      | (.stuck, s') => (.stuck, s') := rfl

theorem bind_ok (ran : m.run s = (.ok a, s')) : (m >>= k).run s = (k a).run s' := by
  rw [bind_run, ran]

theorem bind_err (ran : m.run s = (.err e, s')) : (m >>= k).run s = (.err e, s') := by
  rw [bind_run, ran]

/-- A sequence that returned, taken apart. -/
theorem bind_inv {b : β} (ran : (m >>= k).run s = (.ok b, s')) :
    ∃ a t, m.run s = (.ok a, t) ∧ (k a).run t = (.ok b, s') := by
  rw [bind_run] at ran
  revert ran
  rcases m.run s with ⟨o, t⟩
  cases o with
  | ok a => exact fun ran => ⟨a, t, rfl, ran⟩
  | err e => simp
  | stuck => simp

/-- A program whose failures were renamed returned, so the program did. -/
theorem failAs_inv (ran : (failAs e m).run s = (.ok a, s')) : m.run s = (.ok a, s') := by
  revert ran
  rw [failAs]
  dsimp only
  rcases m.run s with ⟨o, t⟩
  cases o <;> simp

theorem failAs_bind_inv {b : β} (ran : (failAs e m >>= k).run s = (.ok b, s')) :
    ∃ a t, m.run s = (.ok a, t) ∧ (k a).run t = (.ok b, s') := by
  obtain ⟨a, t, first, second⟩ := bind_inv ran
  exact ⟨a, t, failAs_inv first, second⟩

theorem lift_bind_inv {o : Option α} {b : β} (ran : (lift e o >>= k).run s = (.ok b, s')) :
    ∃ a, o = some a ∧ (k a).run s = (.ok b, s') := by
  cases o with
  | none => simp [lift, fail, bind_run] at ran
  | some a => exact ⟨a, rfl, ran⟩

theorem ensure_bind_inv {c : Prop} [Decidable c] {k : Unit → Proc ε σ β} {b : β}
    (ran : (ensure c e >>= k).run s = (.ok b, s')) : c ∧ (k ()).run s = (.ok b, s') := by
  unfold ensure at ran
  split at ran
  · exact ⟨‹c›, ran⟩
  · simp [fail, bind_run] at ran

theorem lift_inv {o : Option α} (ran : (lift e o : Proc ε σ α).run s = (.ok a, s')) :
    o = some a ∧ s' = s := by
  cases o with
  | none => simp [lift, fail] at ran
  | some b => simpa [lift, pure, eq_comm] using ran

@[simp] theorem pure_bind_run (a : α) (k : α → Proc ε σ β) (s : σ) :
    (pure a >>= k).run s = (k a).run s := rfl

@[simp] theorem state_bind_run (k : σ → Proc ε σ β) (s : σ) :
    (state >>= k).run s = (k s).run s := rfl

@[simp] theorem update_bind_run (f : σ → σ) (k : Unit → Proc ε σ β) (s : σ) :
    (update f >>= k).run s = (k ()).run (f s) := rfl

@[simp] theorem fail_bind_run (e : ε) (k : α → Proc ε σ β) (s : σ) :
    (fail e >>= k).run s = (.err e, s) := rfl

theorem ensure_bind_pos {c : Prop} [Decidable c] (holds : c) (e : ε) (k : Unit → Proc ε σ β) (s : σ) :
    (ensure c e >>= k).run s = (k ()).run s := by
  rw [ensure, if_pos holds, pure_bind_run]

theorem ensure_bind_neg {c : Prop} [Decidable c] (fails : ¬ c) (e : ε) (k : Unit → Proc ε σ β) (s : σ) :
    (ensure c e >>= k).run s = (.err e, s) := by
  rw [ensure, if_neg fails, fail_bind_run]

@[simp] theorem lift_some (e : ε) (a : α) : (lift e (some a) : Proc ε σ α) = pure a := rfl

@[simp] theorem lift_none (e : ε) : (lift e none : Proc ε σ α) = fail e := rfl

theorem failAs_run (e : ε) (m : Proc ε σ α) (s : σ) :
    (failAs e m).run s = match m.run s with
      | (.err _, s') => (.err e, s')
      | r => r := rfl

theorem failAs_state (e : ε) (m : Proc ε σ α) (s : σ) : ((failAs e m).run s).2 = (m.run s).2 := by
  rw [failAs_run]
  rcases m.run s with ⟨o, s'⟩
  cases o <;> rfl

theorem attempt_run (m : Proc ε σ α) (s : σ) :
    (attempt m).run s = match m.run s with
      | (.ok a, s') => (.ok (some a), s')
      | (.err _, s') => (.ok none, s')
      | (.stuck, s') => (.stuck, s') := rfl

theorem attempt_ok (ran : m.run s = (.ok a, s')) : (attempt m).run s = (.ok (some a), s') := by
  rw [attempt_run, ran]

theorem ending_run (m : Proc ε σ α) (after : Bool → σ → σ) (s : σ) :
    (ending m after).run s = match m.run s with
      | (.ok a, s') => (.ok a, after true s')
      | (.err e, s') => (.err e, after false s')
      | (.stuck, s') => (.stuck, s') := rfl

theorem failAs_ok (ran : m.run s = (.ok a, s')) : (failAs e m).run s = (.ok a, s') := by
  rw [failAs_run, ran]

theorem failAs_err (ran : m.run s = (.err e', s')) : (failAs e m).run s = (.err e, s') := by
  rw [failAs_run, ran]

/-- The first half of a sequence may be replaced by one that runs as it. -/
theorem bind_congr_run {m' : Proc ε σ α} {s s' : σ} (same : m.run s = m'.run s') (k : α → Proc ε σ β) :
    (m >>= k).run s = (m' >>= k).run s' := by
  rw [bind_run, bind_run, same]

theorem bind_assoc_run {γ : Type} (m : Proc ε σ α) (k : α → Proc ε σ β) (l : β → Proc ε σ γ) :
    (m >>= k) >>= l = m >>= fun a => k a >>= l := by
  have : ∀ s, ((m >>= k) >>= l).run s = (m >>= fun a => k a >>= l).run s := by
    intro s
    simp only [bind_run]
    rcases m.run s with ⟨o, s'⟩
    cases o <;> rfl
  exact congrArg Proc.mk (funext this)

end Run

/-! ## Runs that return -/

/-- From `s`, `m` returns a value with `Q`, or it fails in a state that has the
excuse `late`.  It does not hang. -/
def Returns (late : σ → Prop) (m : Proc ε σ α) (Q : α → σ → Prop) (s : σ) : Prop :=
  match m.run s with
  | (.ok a, s') => Q a s'
  | (.err _, s') => late s'
  | (.stuck, _) => False

section Returns

variable {late : σ → Prop} {m : Proc ε σ α} {k : α → Proc ε σ β} {s s' : σ}

theorem returns_of_run {Q : α → σ → Prop} {a : α} (ran : m.run s = (.ok a, s')) (post : Q a s') :
    Returns late m Q s := by
  rw [Returns, ran]
  exact post

theorem returns_of_err {Q : α → σ → Prop} {e : ε} (ran : m.run s = (.err e, s')) (excuse : late s') :
    Returns late m Q s := by
  rw [Returns, ran]
  exact excuse

/-- Without the excuse there is a value. -/
theorem Returns.ok {Q : α → σ → Prop} (returns : Returns late m Q s) (punctual : ¬ late (m.run s).2) :
    ∃ a s', m.run s = (.ok a, s') ∧ Q a s' := by
  revert returns punctual
  rw [Returns]
  rcases m.run s with ⟨o, s'⟩
  cases o with
  | ok a => exact fun post _ => ⟨a, s', rfl, post⟩
  | err e => exact fun excuse punctual => absurd excuse punctual
  | stuck => exact fun never _ => never.elim

theorem Returns.mono {Q Q' : α → σ → Prop} (returns : Returns late m Q s)
    (weaker : ∀ a s', Q a s' → Q' a s') : Returns late m Q' s := by
  revert returns
  rw [Returns, Returns]
  rcases m.run s with ⟨o, s'⟩
  cases o with
  | ok a => exact weaker a s'
  | err e => exact id
  | stuck => exact id

theorem Returns.bind {P : α → σ → Prop} {Q : β → σ → Prop} (first : Returns late m P s)
    (second : ∀ a s', P a s' → Returns late (k a) Q s') : Returns late (m >>= k) Q s := by
  revert first
  rw [Returns, Returns, bind_run]
  rcases m.run s with ⟨o, s'⟩
  cases o with
  | ok a => exact second a s'
  | err e => exact id
  | stuck => exact id

/-- The first part of a sequence ran. -/
theorem returns_bind_of_run {Q : β → σ → Prop} {a : α} (ran : m.run s = (.ok a, s')) (rest : Returns late (k a) Q s') :
    Returns late (m >>= k) Q s := by
  rw [Returns, bind_ok ran]
  exact rest

theorem Returns.failAs {Q : α → σ → Prop} (returns : Returns late m Q s) (e : ε) :
    Returns late (failAs e m) Q s := by
  revert returns
  rw [Returns, Returns, failAs_run]
  rcases m.run s with ⟨o, s'⟩
  cases o <;> exact id

theorem returns_ensure_bind {c : Prop} [Decidable c] {k : Unit → Proc ε σ β} {Q : β → σ → Prop}
    (holds : c) (e : ε) (rest : Returns late (k ()) Q s) : Returns late (ensure c e >>= k) Q s := by
  rw [Returns, ensure_bind_pos holds]
  exact rest

theorem returns_lift_bind {o : Option α} {a : α} {Q : β → σ → Prop} (is : o = some a) (e : ε)
    (rest : Returns late (k a) Q s) : Returns late (lift e o >>= k) Q s := by
  subst is
  exact rest

theorem Returns.excused {late' : σ → Prop} {Q : α → σ → Prop} (returns : Returns late m Q s)
    (more : ∀ s', late s' → late' s') : Returns late' m Q s := by
  revert returns
  rw [Returns, Returns]
  rcases m.run s with ⟨o, s'⟩
  cases o with
  | ok a => exact id
  | err e => exact more s'
  | stuck => exact id

/-- From `s`, `m` comes to run as `next` from some state with `Q`, or it ends in a
state that has the excuse `late`. -/
def Continues (late : σ → Prop) (m next : Proc ε σ α) (Q : σ → Prop) (s : σ) : Prop :=
  (∃ s', Q s' ∧ m.run s = next.run s') ∨ late (m.run s).2

theorem continues_here {Q : σ → Prop} (post : Q s) : Continues late m m Q s := .inl ⟨s, post, rfl⟩

/-- A program runs as another one. -/
theorem continues_of_run {m' next : Proc ε σ α} {Q : σ → Prop} (same : m.run s = m'.run s')
    (rest : Continues late m' next Q s') : Continues late m next Q s := by
  rw [Continues, same]
  exact rest

theorem Continues.trans {middle next : Proc ε σ α} {P Q : σ → Prop} (first : Continues late m middle P s)
    (second : ∀ s', P s' → Continues late middle next Q s') : Continues late m next Q s := by
  rcases first with ⟨s', post, same⟩ | excuse
  · exact continues_of_run same (second s' post)
  · exact .inr excuse

theorem Continues.mono {next : Proc ε σ α} {P Q : σ → Prop} (continues : Continues late m next P s)
    (weaker : ∀ s', P s' → Q s') : Continues late m next Q s :=
  continues.trans fun s' post => continues_here (weaker s' post)

theorem Returns.continues {P : α → σ → Prop} {next : Proc ε σ β} {Q : σ → Prop} (first : Returns late m P s)
    (second : ∀ a s', P a s' → Continues late (k a) next Q s') : Continues late (m >>= k) next Q s := by
  revert first
  rw [Returns, Continues, bind_run]
  rcases m.run s with ⟨o, s'⟩
  cases o with
  | ok a => exact second a s'
  | err e => exact .inr
  | stuck => exact False.elim

/-- An excused failure that is caught is excused still if nothing of note follows. -/
theorem Returns.attempt_continues {P : α → σ → Prop} {next : Proc ε σ β} {Q : σ → Prop}
    {k : Option α → Proc ε σ β} (first : Returns late m P s)
    (second : ∀ a s', P a s' → Continues late (k (some a)) next Q s')
    (caught : ∀ s', late s' → late ((k none).run s').2) : Continues late (attempt m >>= k) next Q s := by
  revert first
  rw [Returns, Continues, bind_run, attempt_run]
  rcases m.run s with ⟨o, s'⟩
  cases o with
  | ok a => exact second a s'
  | err e => exact fun excuse => .inr (caught s' excuse)
  | stuck => exact False.elim

theorem continues_ensure_bind {c : Prop} [Decidable c] {k : Unit → Proc ε σ β} {next : Proc ε σ β} {Q : σ → Prop}
    (holds : c) (e : ε) (rest : Continues late (k ()) next Q s) : Continues late (ensure c e >>= k) next Q s :=
  continues_of_run (ensure_bind_pos holds e k s) rest

theorem continues_lift_bind {o : Option α} {a : α} {next : Proc ε σ β} {Q : σ → Prop} (is : o = some a) (e : ε)
    (rest : Continues late (k a) next Q s) : Continues late (lift e o >>= k) next Q s := by
  subst is
  exact rest

end Returns

/-! ## Programs that come back -/

/-- From every state `m` comes back, with a value or a code. -/
def Settles (m : Proc ε σ α) : Prop := ∀ s, (m.run s).1 ≠ .stuck

section Settles

variable {m : Proc ε σ α} {k : α → Proc ε σ β}

theorem settles_pure (a : α) : Settles (pure a : Proc ε σ α) := fun _ => by simp

theorem settles_fail (e : ε) : Settles (fail e : Proc ε σ α) := fun _ => by simp

theorem settles_bind (first : Settles m) (second : ∀ a, Settles (k a)) : Settles (m >>= k) := by
  intro s
  have back := first s
  rw [bind_run]
  revert back
  rcases m.run s with ⟨o, s'⟩
  cases o with
  | ok a => exact fun _ => second a s'
  | err e => exact fun _ => by simp
  | stuck => exact fun back => absurd rfl back

theorem settles_ensure (c : Prop) [Decidable c] (e : ε) : Settles (ensure c e : Proc ε σ Unit) := by
  unfold ensure
  split
  · exact settles_pure ()
  · exact settles_fail e

theorem settles_lift (e : ε) (o : Option α) : Settles (lift e o : Proc ε σ α) := by
  cases o with
  | none => exact settles_fail e
  | some a => exact settles_pure a

theorem settles_ite {c : Prop} [Decidable c] {m' : Proc ε σ α} (yes : Settles m) (no : Settles m') :
    Settles (if c then m else m') := by
  split
  · exact yes
  · exact no

theorem settles_failAs (e : ε) (first : Settles m) : Settles (failAs e m) := by
  intro s
  have back := first s
  rw [failAs_run]
  revert back
  rcases m.run s with ⟨o, s'⟩
  cases o <;> simp

theorem settles_attempt (first : Settles m) : Settles (attempt m) := by
  intro s
  have back := first s
  rw [attempt_run]
  revert back
  rcases m.run s with ⟨o, s'⟩
  cases o <;> simp

end Settles

/-! ## Programs with one code for every failure -/

/-- Whatever fails in `m` is reported as `e`. -/
def Blames (e : ε) (m : Proc ε σ α) : Prop := ∀ s e', (m.run s).1 = .err e' → e' = e

section Blames

variable {e : ε} {m : Proc ε σ α} {k : α → Proc ε σ β}

/-- A program that does not fail. -/
theorem blames_of_ok (fine : ∀ s, ∃ a, (m.run s).1 = .ok a) : Blames e m := by
  intro s e' is
  obtain ⟨a, ok⟩ := fine s
  rw [ok] at is
  cases is

theorem blames_pure (a : α) : Blames e (pure a : Proc ε σ α) := blames_of_ok fun _ => ⟨a, rfl⟩

theorem blames_fail : Blames e (fail e : Proc ε σ α) := fun _ _ is => (Outcome.err.inj is).symm

theorem blames_stall : Blames e (stall : Proc ε σ α) := fun _ _ is => by cases is

theorem blames_bind (first : Blames e m) (second : ∀ a, Blames e (k a)) : Blames e (m >>= k) := by
  intro s e' is
  have blame := first s
  rw [bind_run] at is
  revert is blame
  rcases m.run s with ⟨o, s'⟩
  intro is blame
  cases o with
  | ok a => exact second a s' e' is
  | err e'' => exact blame e' (congrArg Outcome.err (Outcome.err.inj is))
  | stuck => cases is

theorem blames_ite {c : Prop} [Decidable c] {m' : Proc ε σ α} (yes : Blames e m) (no : Blames e m') :
    Blames e (if c then m else m') := by
  split
  · exact yes
  · exact no

theorem blames_ensure (c : Prop) [Decidable c] : Blames e (ensure c e : Proc ε σ Unit) := by
  unfold ensure
  exact blames_ite (blames_pure ()) blames_fail

theorem blames_lift (o : Option α) : Blames e (lift e o : Proc ε σ α) := by
  cases o with
  | none => exact blames_fail
  | some a => exact blames_pure a

theorem blames_failAs (m : Proc ε σ α) : Blames e (failAs e m) := by
  intro s e' is
  rw [failAs_run] at is
  revert is
  rcases m.run s with ⟨o, s'⟩
  cases o <;> simp [eq_comm]

theorem blames_attempt (m : Proc ε σ α) : Blames e (attempt m) := by
  intro s e' is
  rw [attempt_run] at is
  revert is
  rcases m.run s with ⟨o, s'⟩
  cases o <;> simp

end Blames

/-! ## Invariants -/

/-- `m` keeps `I`, however it ends. -/
def Keeps (I : σ → Prop) (m : Proc ε σ α) : Prop := ∀ s, I s → I (m.run s).2

/-- `m` relates the state it starts in to the one it ends in, however it ends. -/
def Always (R : σ → σ → Prop) (m : Proc ε σ α) : Prop := ∀ s, R s (m.run s).2

/-- The relations a sequence of steps can be measured by. -/
structure StepOrder (R : σ → σ → Prop) : Prop where
  refl : ∀ s, R s s
  trans : ∀ {s t u}, R s t → R t u → R s u

section Always

variable {R : σ → σ → Prop} (pre : StepOrder R) {m : Proc ε σ α} {k : α → Proc ε σ β}

include pre

theorem always_pure (a : α) : Always R (pure a : Proc ε σ α) := fun s => pre.refl s

theorem always_fail (e : ε) : Always R (fail e : Proc ε σ α) := fun s => pre.refl s

theorem always_stall : Always R (stall : Proc ε σ α) := fun s => pre.refl s

theorem always_bind (first : Always R m) (second : ∀ a, Always R (k a)) : Always R (m >>= k) := by
  intro s
  have h := first s
  rw [bind_run]
  revert h
  rcases m.run s with ⟨o, s'⟩
  cases o with
  | ok a => exact fun h => pre.trans h (second a s')
  | err e => exact id
  | stuck => exact id

/-- The rest of a sequence may use how the first part ran. -/
theorem always_bind_ran (first : Always R m)
    (second : ∀ s a s', m.run s = (.ok a, s') → R s' ((k a).run s').2) : Always R (m >>= k) := by
  intro s
  have h := first s
  rw [bind_run]
  revert h
  cases ran : m.run s with
  | mk o s' =>
      cases o with
      | ok a => exact fun h => pre.trans h (second s a s' ran)
      | err e => exact id
      | stuck => exact id

theorem always_ensure (c : Prop) [Decidable c] (e : ε) :
    Always R (ensure c e : Proc ε σ Unit) := by
  unfold ensure
  split
  · exact always_pure pre ()
  · exact always_fail pre e

theorem always_lift (e : ε) (o : Option α) : Always R (lift e o : Proc ε σ α) := by
  cases o with
  | none => exact always_fail pre e
  | some a => exact always_pure pre a

/-- The rest of a sequence may use what was lifted. -/
theorem always_lift_bind {o : Option α} (e : ε) (rest : ∀ a, o = some a → Always R (k a)) :
    Always R (lift e o >>= k) := by
  cases o with
  | none => exact always_fail pre e
  | some a => exact rest a rfl

/-- The rest of a sequence may use what was ensured. -/
theorem always_ensure_bind {c : Prop} [Decidable c] {k : Unit → Proc ε σ β} (e : ε)
    (rest : c → Always R (k ())) : Always R (ensure c e >>= k) := by
  intro s
  by_cases holds : c
  · rw [ensure_bind_pos holds]
    exact rest holds s
  · rw [ensure_bind_neg holds]
    exact pre.refl s

omit pre in
theorem always_ite {c : Prop} [Decidable c] {m' : Proc ε σ α} (yes : Always R m) (no : Always R m') :
    Always R (if c then m else m') := by
  split
  · exact yes
  · exact no

omit pre in
theorem always_failAs (e : ε) (first : Always R m) : Always R (failAs e m) := by
  intro s
  have h := first s
  rw [failAs_run]
  revert h
  rcases m.run s with ⟨o, s'⟩
  cases o <;> exact id

omit pre in
theorem always_attempt (first : Always R m) : Always R (attempt m) := by
  intro s
  have h := first s
  rw [attempt_run]
  revert h
  rcases m.run s with ⟨o, s'⟩
  cases o <;> exact id

theorem always_ending (first : Always R m) {after : Bool → σ → σ} (last : ∀ done s, R s (after done s)) :
    Always R (ending m after) := by
  intro s
  have h := first s
  rw [ending_run]
  revert h
  rcases m.run s with ⟨o, s'⟩
  cases o with
  | ok a => exact fun h => pre.trans h (last true s')
  | err e => exact fun h => pre.trans h (last false s')
  | stuck => exact id

end Always

theorem always_mono {R R' : σ → σ → Prop} {m : Proc ε σ α} (first : Always R m)
    (weaker : ∀ s s', R s s' → R' s s') : Always R' m :=
  fun s => weaker _ _ (first s)

theorem always_update {R : σ → σ → Prop} {f : σ → σ} (step : ∀ s, R s (f s)) :
    Always R (update f : Proc ε σ Unit) := step

theorem always_ran {R : σ → σ → Prop} {m : Proc ε σ α} {o : Outcome ε α} {s s' : σ}
    (ran : m.run s = (o, s')) (always : Always R m) : R s s' := by
  have h := always s
  rwa [ran] at h

/-- Keeping an invariant is the one-sided case of a relation between states. -/
theorem keeps_of_always {R : σ → σ → Prop} {I : σ → Prop} {m : Proc ε σ α} (first : Always R m)
    (carries : ∀ s s', R s s' → I s → I s') : Keeps I m :=
  fun s holds => carries _ _ (first s) holds

/-! ## From one condition to another -/

/-- From a state with `P`, `m` ends in a state with `Q`, however it ends. -/
def Leads (P Q : σ → Prop) (m : Proc ε σ α) : Prop := ∀ s, P s → Q (m.run s).2

section Leads

variable {P Q R : σ → Prop} {m : Proc ε σ α} {k : α → Proc ε σ β}

theorem Leads.mono {P' Q' : σ → Prop} (leads : Leads P Q m) (stronger : ∀ s, P' s → P s)
    (weaker : ∀ s, Q s → Q' s) : Leads P' Q' m :=
  fun s holds => weaker _ (leads s (stronger s holds))

/-- A sequence that may end in the middle. -/
theorem leads_bind (first : Leads P Q m) (second : ∀ a, Leads Q R (k a)) (ended : ∀ s, Q s → R s) :
    Leads P R (m >>= k) := by
  intro s holds
  have half := first s holds
  rw [bind_run]
  revert half
  rcases m.run s with ⟨o, s'⟩
  cases o with
  | ok a => exact second a s'
  | err e => exact ended s'
  | stuck => exact ended s'

theorem leads_ite {c : Prop} [Decidable c] {m' : Proc ε σ α} (yes : Leads P Q m) (no : Leads P Q m') :
    Leads P Q (if c then m else m') := by
  split
  · exact yes
  · exact no

theorem leads_failAs (e : ε) (leads : Leads P Q m) : Leads P Q (failAs e m) := by
  intro s holds
  rw [failAs_state]
  exact leads s holds

theorem leads_attempt (leads : Leads P Q m) : Leads P Q (attempt m) := by
  intro s holds
  have half := leads s holds
  rw [attempt_run]
  revert half
  rcases m.run s with ⟨o, s'⟩
  cases o <;> exact id

end Leads

/-! ## Triples -/

/-- What an end of a program means: a value with `Q`, or a break with `E`, which is
told the code, or that there is none because the program has not come back. -/
def Post (Q : α → σ → Prop) (E : Option ε → σ → Prop) : Outcome ε α × σ → Prop
  | (.ok a, s) => Q a s
  | (.err e, s) => E (some e) s
  | (.stuck, s) => E none s

/-- From a state with `P`, `m` returns a value with `Q` or breaks off with `E`. -/
structure Triple (P : σ → Prop) (m : Proc ε σ α) (Q : α → σ → Prop) (E : Option ε → σ → Prop) : Prop where
  ends : ∀ s, P s → Post Q E (m.run s)

section Triple

variable {P P' R : σ → Prop} {m : Proc ε σ α} {k : α → Proc ε σ β} {Q Q' : α → σ → Prop}
  {E E' : Option ε → σ → Prop} {T : β → σ → Prop}

theorem Post.mono {r : Outcome ε α × σ} (post : Post Q E r) (weaker : ∀ a s, Q a s → Q' a s)
    (excused : ∀ e s, E e s → E' e s) : Post Q' E' r := by
  rcases r with ⟨o, s⟩
  cases o with
  | ok a => exact weaker a s post
  | err e => exact excused (some e) s post
  | stuck => exact excused none s post

theorem Triple.mono (triple : Triple P m Q E) (stronger : ∀ s, P' s → P s) (weaker : ∀ a s, Q a s → Q' a s)
    (excused : ∀ e s, E e s → E' e s) : Triple P' m Q' E' :=
  ⟨fun s holds => (triple.ends s (stronger s holds)).mono weaker excused⟩

theorem triple_bind (first : Triple P m Q E) (second : ∀ a, Triple (Q a) (k a) T E) : Triple P (m >>= k) T E := by
  constructor
  intro s holds
  have post := first.ends s holds
  rw [bind_run]
  revert post
  rcases m.run s with ⟨o, s'⟩
  cases o with
  | ok a => exact (second a).ends s'
  | err e => exact id
  | stuck => exact id

theorem triple_pure (a : α) (post : ∀ s, P s → Q a s) : Triple P (pure a : Proc ε σ α) Q E := ⟨post⟩

theorem triple_fail (e : ε) (post : ∀ s, P s → E (some e) s) : Triple P (fail e : Proc ε σ α) Q E := ⟨post⟩

theorem triple_stall (post : ∀ s, P s → E none s) : Triple P (stall : Proc ε σ α) Q E := ⟨post⟩

theorem triple_update {f : σ → σ} {Q : Unit → σ → Prop} (post : ∀ s, P s → Q () (f s)) :
    Triple P (update f : Proc ε σ Unit) Q E := ⟨post⟩

/-- What was read of the state is known from there on. -/
theorem triple_state_bind {k : σ → Proc ε σ β} (rest : ∀ s, P s → Triple (fun t => t = s) (k s) T E) :
    Triple P (state >>= k) T E :=
  ⟨fun s holds => (rest s holds).ends s rfl⟩

theorem triple_ensure_bind {c : Prop} [Decidable c] {k : Unit → Proc ε σ β} (e : ε)
    (post : ∀ s, P s → E (some e) s) (rest : c → Triple P (k ()) T E) : Triple P (ensure c e >>= k) T E := by
  by_cases true : c
  · constructor
    intro s holds
    rw [ensure_bind_pos true]
    exact (rest true).ends s holds
  · constructor
    intro s holds
    rw [ensure_bind_neg true]
    exact post s holds

theorem triple_lift_bind {o : Option α} (e : ε) (post : ∀ s, P s → E (some e) s)
    (rest : ∀ a, o = some a → Triple P (k a) T E) : Triple P (lift e o >>= k) T E := by
  cases o with
  | none => exact ⟨post⟩
  | some a => exact rest a rfl

/-- What is known of the state apart from an invariant is known of the rest. -/
theorem triple_given {c : Prop} (rest : c → Triple P m Q E) : Triple (fun s => P s ∧ c) m Q E :=
  ⟨fun s both => (rest both.2).ends s both.1⟩

theorem triple_ite {c : Prop} [Decidable c] {m' : Proc ε σ α} (yes : c → Triple P m Q E)
    (no : ¬ c → Triple P m' Q E) : Triple P (if c then m else m') Q E := by
  split
  · exact yes ‹_›
  · exact no ‹_›

theorem triple_ensure {c : Prop} [Decidable c] {Q : Unit → σ → Prop} (e : ε) (post : ∀ s, P s → E (some e) s)
    (rest : c → ∀ s, P s → Q () s) : Triple P (ensure c e : Proc ε σ Unit) Q E :=
  triple_ite (fun holds => triple_pure () (rest holds)) fun _ => triple_fail e post

theorem triple_failAs (e : ε) (triple : Triple P m Q E) (excused : ∀ e' s, E (some e') s → E (some e) s) :
    Triple P (failAs e m) Q E := by
  constructor
  intro s holds
  have post := triple.ends s holds
  rw [failAs_run]
  revert post
  rcases m.run s with ⟨o, s'⟩
  cases o with
  | ok a => exact id
  | err e' => exact excused e' s'
  | stuck => exact id

theorem triple_attempt {Q : Option α → σ → Prop} (triple : Triple P m (fun a => Q (some a)) E)
    (failed : ∀ e s, E (some e) s → Q none s) : Triple P (attempt m) Q E := by
  constructor
  intro s holds
  have post := triple.ends s holds
  rw [attempt_run]
  revert post
  rcases m.run s with ⟨o, s'⟩
  cases o with
  | ok a => exact id
  | err e => exact failed e s'
  | stuck => exact id

theorem Triple.and {U : α → σ → Prop} {E' : Option ε → σ → Prop} (first : Triple P m Q E) (second : Triple P' m U E') :
    Triple (fun s => P s ∧ P' s) m (fun a s => Q a s ∧ U a s) fun e s => E e s ∧ E' e s := by
  constructor
  intro s both
  have one := first.ends s both.1
  have two := second.ends s both.2
  revert one two
  rcases m.run s with ⟨o, s'⟩
  cases o <;> exact fun one two => ⟨one, two⟩

/-- What holds however a program ends. -/
theorem Triple.leads (triple : Triple P m (fun _ => R) fun _ => R) : Leads P R m := by
  intro s holds
  have post := triple.ends s holds
  revert post
  rcases m.run s with ⟨o, s'⟩
  cases o <;> exact id

end Triple

/-! ## Staying within an invariant -/

/-- A program that broke off: `I` after a code, `S` if it has not come back. -/
def Breaks (I S : σ → Prop) (e : Option ε) : σ → Prop :=
  match e with
  | some _ => I
  | none => S

/-- From `I`, `m` comes back in `I`, with a value or a code; where it has not come
back it is in `S`. -/
abbrev Stays (I S : σ → Prop) (m : Proc ε σ α) : Prop := Triple I m (fun _ => I) (Breaks I S)

section Stays

variable {P I S : σ → Prop} {R : σ → σ → Prop} {m : Proc ε σ α} {k : α → Proc ε σ β} {Q : α → σ → Prop}
  {T : β → σ → Prop}

theorem Triple.failAs {e : ε} (triple : Triple P m Q (Breaks I S)) : Triple P (failAs e m) Q (Breaks I S) :=
  triple_failAs e triple fun _ _ => id

theorem stays_pure (a : α) : Stays I S (pure a : Proc ε σ α) := ⟨fun _ => id⟩

theorem stays_fail (e : ε) : Stays I S (fail e : Proc ε σ α) := ⟨fun _ => id⟩

theorem stays_stall (weaker : ∀ s, I s → S s) : Stays I S (stall : Proc ε σ α) := ⟨weaker⟩

theorem stays_bind (first : Stays I S m) (second : ∀ a, Stays I S (k a)) : Stays I S (m >>= k) :=
  triple_bind first second

theorem stays_ite {c : Prop} [Decidable c] {m' : Proc ε σ α} (yes : Stays I S m) (no : Stays I S m') :
    Stays I S (if c then m else m') :=
  triple_ite (fun _ => yes) fun _ => no

theorem stays_ensure_bind {c : Prop} [Decidable c] {k : Unit → Proc ε σ β} {e : ε}
    (rest : c → Triple I (k ()) T (Breaks I S)) : Triple I (ensure c e >>= k) T (Breaks I S) :=
  triple_ensure_bind e (fun _ => id) rest

theorem stays_ensure (c : Prop) [Decidable c] (e : ε) : Stays I S (ensure c e : Proc ε σ Unit) :=
  stays_ite (stays_pure ()) (stays_fail e)

theorem stays_lift_bind {o : Option α} {e : ε} (rest : ∀ a, o = some a → Triple I (k a) T (Breaks I S)) :
    Triple I (lift e o >>= k) T (Breaks I S) :=
  triple_lift_bind e (fun _ => id) rest

theorem stays_attempt (stays : Stays I S m) : Stays I S (attempt m) :=
  triple_attempt stays fun _ _ => id

/-- A caught failure is a value like another. -/
theorem Triple.caught {J : σ → Prop} {Q : Option α → σ → Prop} (triple : Triple P m (fun a => Q (some a)) (Breaks I S))
    (failed : ∀ s, I s → Q none s) : Triple P (attempt m) Q (Breaks J S) := by
  constructor
  intro s holds
  have post := triple.ends s holds
  rw [attempt_run]
  revert post
  rcases m.run s with ⟨o, s'⟩
  cases o with
  | ok a => exact id
  | err e => exact failed s'
  | stuck => exact id

theorem stays_of_keeps (weaker : ∀ s, I s → S s) (keeps : Keeps I m) : Stays I S m := by
  constructor
  intro s holds
  have post := keeps s holds
  revert post
  rcases m.run s with ⟨o, s'⟩
  cases o with
  | ok a => exact id
  | err e => exact id
  | stuck => exact weaker s'

/-- A step within a relation that carries the invariant. -/
theorem stays_of_always (weaker : ∀ s, I s → S s) (first : Always R m) (carries : ∀ s s', R s s' → I s → I s') :
    Stays I S m :=
  stays_of_keeps weaker (keeps_of_always first carries)

theorem Stays.keeps (stays : Stays I I m) : Keeps I m := by
  intro s holds
  have post := stays.ends s holds
  revert post
  rcases m.run s with ⟨o, s'⟩
  cases o <;> exact id

/-- An invariant inside a weaker one. -/
theorem Triple.under {J : σ → Prop} {Q : α → σ → Prop} (triple : Triple P m Q (Breaks J S)) (weaker : ∀ s, J s → I s) :
    Triple P m Q (Breaks I S) := by
  apply triple.mono (fun _ => id) (fun _ _ => id)
  intro e s
  cases e with
  | some e => exact weaker s
  | none => exact id

theorem Triple.stays_and {J S' : σ → Prop} (first : Stays I S m) (second : Stays J S' m) :
    Stays (fun s => I s ∧ J s) S m := by
  apply (Triple.and first second).mono (fun _ => id) (fun _ _ => id)
  intro e s both
  cases e with
  | some e => exact both
  | none => exact both.1

end Stays

end Proc

end NoxSsh.Theory
