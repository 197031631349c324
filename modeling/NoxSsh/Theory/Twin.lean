/-
# Theory.Twin — one program, or two, from two related states

`Twins R m m'` says that from states with `R` the two programs end alike: with equal
values, with equal codes, or both not at all, and in states with `R` again.  The rules
take a pair of sequences apart at the same place, so that a run from a state with
something left over in it is compared with a run from a clean one part by part.
`TwinUnless X` lets the second program off where it ends with the excuse `X`.

Nothing here knows what the states are.
-/
import NoxSsh.Theory.Proc

namespace NoxSsh.Theory.Proc

set_option autoImplicit false

/-- Two ends of programs: the same value with `Q`, the same code with `E`, or both open
with `E`. -/
def Alike {ε σ τ α : Type} (Q : α → σ → τ → Prop) (E : σ → τ → Prop) : Outcome ε α × σ → Outcome ε α × τ → Prop
  | (.ok a, s), (.ok b, t) => a = b ∧ Q a s t
  | (.err e, s), (.err f, t) => e = f ∧ E s t
  | (.stuck, s), (.stuck, t) => E s t
  | _, _ => False

/-- From states with `P` the two programs end alike, unless the second one ends with `X`. -/
structure TwinUnless {ε σ τ α : Type} (X : τ → Prop) (P : σ → τ → Prop) (m : Proc ε σ α) (m' : Proc ε τ α)
    (Q : α → σ → τ → Prop) (E : σ → τ → Prop) : Prop where
  runs : ∀ s t, P s t → X (m'.run t).2 ∨ Alike Q E (m.run s) (m'.run t)

/-- From states with `P` the two programs end alike. -/
abbrev Twin {ε σ τ α : Type} (P : σ → τ → Prop) (m : Proc ε σ α) (m' : Proc ε τ α) (Q : α → σ → τ → Prop)
    (E : σ → τ → Prop) : Prop := TwinUnless (fun _ => False) P m m' Q E

/-- The two programs keep a relation between their states and end alike. -/
abbrev Twins {ε σ τ α : Type} (R : σ → τ → Prop) (m : Proc ε σ α) (m' : Proc ε τ α) : Prop :=
  Twin R m m' (fun _ => R) R

section Twin

variable {ε σ τ α β : Type} {X : τ → Prop} {P R E E' : σ → τ → Prop} {Q Q' : α → σ → τ → Prop} {T : β → σ → τ → Prop}
  {m : Proc ε σ α} {m' : Proc ε τ α} {k : α → Proc ε σ β} {k' : α → Proc ε τ β}

theorem Alike.mono {r : Outcome ε α × σ} {r' : Outcome ε α × τ} (alike : Alike Q E r r')
    (weaker : ∀ a s t, Q a s t → Q' a s t) (broken : ∀ s t, E s t → E' s t) : Alike Q' E' r r' := by
  rcases r with ⟨o, s⟩
  rcases r' with ⟨o', t⟩
  cases o <;> cases o' <;> try exact alike.elim
  · exact ⟨alike.1, weaker _ s t alike.2⟩
  · exact ⟨alike.1, broken s t alike.2⟩
  · exact broken s t alike

theorem twin_of_alike (alike : ∀ s t, P s t → Alike Q E (m.run s) (m'.run t)) : Twin P m m' Q E :=
  ⟨fun s t related => .inr (alike s t related)⟩

theorem TwinUnless.alike (twin : Twin P m m' Q E) (s : σ) (t : τ) (related : P s t) :
    Alike Q E (m.run s) (m'.run t) := (twin.runs s t related).resolve_left id

theorem TwinUnless.unless (twin : Twin P m m' Q E) : TwinUnless X P m m' Q E :=
  ⟨fun s t related => .inr (twin.alike s t related)⟩

theorem TwinUnless.mono {P' : σ → τ → Prop} (twin : TwinUnless X P m m' Q E) (stronger : ∀ s t, P' s t → P s t)
    (weaker : ∀ a s t, Q a s t → Q' a s t) (broken : ∀ s t, E s t → E' s t) : TwinUnless X P' m m' Q' E' :=
  ⟨fun s t related => (twin.runs s t (stronger s t related)).imp id fun alike => alike.mono weaker broken⟩

/-- What is known of the second run besides. -/
theorem TwinUnless.ran {R : α → τ → Prop} (twin : Twin P m m' Q E) (right : ∀ t a t', m'.run t = (.ok a, t') → R a t') :
    Twin P m m' (fun a s t => Q a s t ∧ R a t) E := by
  apply twin_of_alike
  intro s t related
  have alike := twin.alike s t related
  have right := right t
  revert alike right
  rcases m.run s with ⟨o, s'⟩
  rcases m'.run t with ⟨o', t'⟩
  cases o <;> cases o' <;> try exact fun alike => alike.elim
  · rintro ⟨rfl, post⟩ right
    exact ⟨rfl, post, right _ _ rfl⟩
  · exact fun alike _ => alike
  · exact fun alike _ => alike

theorem twin_bind (first : Twin P m m' Q E) (second : ∀ a, TwinUnless X (Q a) (k a) (k' a) T E) :
    TwinUnless X P (m >>= k) (m' >>= k') T E := by
  constructor
  intro s t related
  have alike := first.alike s t related
  rw [bind_run, bind_run]
  revert alike
  rcases m.run s with ⟨o, s'⟩
  rcases m'.run t with ⟨o', t'⟩
  cases o <;> cases o' <;> try exact False.elim
  · rintro ⟨rfl, post⟩
    exact (second _).runs s' t' post
  · exact .inr
  · exact .inr

/-- The excuse may be in either part, if the second program does not take it back. -/
theorem twinUnless_bind (first : TwinUnless X P m m' Q E) (second : ∀ a, TwinUnless X (Q a) (k a) (k' a) T E)
    (kept : ∀ a, Always (fun t t' => X t → X t') (k' a)) : TwinUnless X P (m >>= k) (m' >>= k') T E := by
  constructor
  intro s t related
  have first := first.runs s t related
  rw [bind_run, bind_run]
  revert first
  rcases m'.run t with ⟨o', t'⟩
  rintro (excused | alike)
  · left
    cases o' with
    | ok b => exact kept b t' excused
    | err e => exact excused
    | stuck => exact excused
  · revert alike
    rcases m.run s with ⟨o, s'⟩
    cases o <;> cases o' <;> try exact False.elim
    · rintro ⟨rfl, post⟩
      exact (second _).runs s' t' post
    · exact .inr
    · exact .inr

/-- Either the run brings the excuse, or what brings it is not the case. -/
theorem twinUnless_cases {C : τ → Prop} (excused : ∀ t, C t → X (m'.run t).2)
    (rest : TwinUnless X (fun s t => P s t ∧ ¬ C t) m m' Q E) : TwinUnless X P m m' Q E := by
  constructor
  intro s t related
  by_cases now : C t
  · exact .inl (excused t now)
  · exact rest.runs s t ⟨related, now⟩

theorem twin_pure (a : α) (post : ∀ s t, P s t → Q a s t) :
    TwinUnless X P (pure a : Proc ε σ α) (pure a : Proc ε τ α) Q E :=
  ⟨fun s t related => .inr ⟨rfl, post s t related⟩⟩

theorem twin_fail (e : ε) (broken : ∀ s t, P s t → E s t) :
    TwinUnless X P (fail e : Proc ε σ α) (fail e : Proc ε τ α) Q E :=
  ⟨fun s t related => .inr ⟨rfl, broken s t related⟩⟩

theorem twin_stall (broken : ∀ s t, P s t → E s t) :
    TwinUnless X P (stall : Proc ε σ α) (stall : Proc ε τ α) Q E :=
  ⟨fun s t related => .inr (broken s t related)⟩

theorem twin_update {f : σ → σ} {g : τ → τ} {Q : Unit → σ → τ → Prop} (post : ∀ s t, P s t → Q () (f s) (g t)) :
    TwinUnless X P (update f : Proc ε σ Unit) (update g : Proc ε τ Unit) Q E :=
  ⟨fun s t related => .inr ⟨rfl, post s t related⟩⟩

theorem twin_ite {c c' : Prop} [Decidable c] [Decidable c'] {n : Proc ε σ α} {n' : Proc ε τ α} (same : c ↔ c')
    (yes : c → c' → TwinUnless X P m m' Q E) (no : ¬ c → ¬ c' → TwinUnless X P n n' Q E) :
    TwinUnless X P (if c then m else n) (if c' then m' else n') Q E := by
  by_cases holds : c
  · rw [if_pos holds, if_pos (same.1 holds)]
    exact yes holds (same.1 holds)
  · have fails : ¬ c' := fun holds' => holds (same.2 holds')
    rw [if_neg holds, if_neg fails]
    exact no holds fails

theorem twin_ensure_bind {c c' : Prop} [Decidable c] [Decidable c'] {k : Unit → Proc ε σ β} {k' : Unit → Proc ε τ β}
    (e : ε) (same : c ↔ c') (broken : ∀ s t, P s t → E s t) (rest : c → c' → TwinUnless X P (k ()) (k' ()) T E) :
    TwinUnless X P (ensure c e >>= k) (ensure c' e >>= k') T E := by
  by_cases holds : c
  · constructor
    intro s t related
    rw [ensure_bind_pos holds, ensure_bind_pos (same.1 holds)]
    exact (rest holds (same.1 holds)).runs s t related
  · have fails : ¬ c' := fun holds' => holds (same.2 holds')
    constructor
    intro s t related
    rw [ensure_bind_neg holds, ensure_bind_neg fails]
    exact .inr ⟨rfl, broken s t related⟩

theorem twin_lift_bind {o o' : Option α} (e : ε) (same : o = o') (broken : ∀ s t, P s t → E s t)
    (rest : ∀ a, o = some a → TwinUnless X P (k a) (k' a) T E) :
    TwinUnless X P (lift e o >>= k) (lift e o' >>= k') T E := by
  subst same
  cases o with
  | none => exact ⟨fun s t related => .inr ⟨rfl, broken s t related⟩⟩
  | some a => exact rest a rfl

theorem TwinUnless.failAs (e : ε) (twin : TwinUnless X P m m' Q E) :
    TwinUnless X P (failAs e m) (failAs e m') Q E := by
  constructor
  intro s t related
  have run := twin.runs s t related
  rw [failAs_run, failAs_run]
  revert run
  rcases m.run s with ⟨o, s'⟩
  rcases m'.run t with ⟨o', t'⟩
  rintro (excused | alike)
  · left
    cases o' <;> exact excused
  · right
    revert alike
    cases o <;> cases o' <;> try exact False.elim
    · exact id
    · exact fun alike => ⟨rfl, alike.2⟩
    · exact id

theorem twin_attempt (twin : TwinUnless X P m m' (fun _ => R) R) :
    TwinUnless X P (attempt m) (attempt m') (fun _ => R) R := by
  constructor
  intro s t related
  have run := twin.runs s t related
  rw [attempt_run, attempt_run]
  revert run
  rcases m.run s with ⟨o, s'⟩
  rcases m'.run t with ⟨o', t'⟩
  rintro (excused | alike)
  · left
    cases o' <;> exact excused
  · right
    revert alike
    cases o <;> cases o' <;> try exact False.elim
    · exact fun alike => ⟨congrArg some alike.1, alike.2⟩
    · exact fun alike => ⟨rfl, alike.2⟩
    · exact id

theorem twin_ending {after : Bool → σ → σ} {after' : Bool → τ → τ} (twin : TwinUnless X P m m' Q E)
    (excused : ∀ done t, X t → X (after' done t)) (last : ∀ a s t, Q a s t → Q a (after true s) (after' true t))
    (broken : ∀ s t, E s t → E (after false s) (after' false t)) :
    TwinUnless X P (ending m after) (ending m' after') Q E := by
  constructor
  intro s t related
  have run := twin.runs s t related
  rw [ending_run, ending_run]
  revert run
  rcases m.run s with ⟨o, s'⟩
  rcases m'.run t with ⟨o', t'⟩
  rintro (excuse | alike)
  · left
    cases o' with
    | ok a => exact excused true t' excuse
    | err e => exact excused false t' excuse
    | stuck => exact excuse
  · right
    revert alike
    cases o <;> cases o' <;> try exact False.elim
    · rintro ⟨rfl, post⟩
      exact ⟨rfl, last _ s' t' post⟩
    · exact fun alike => ⟨alike.1, broken s' t' alike.2⟩
    · exact id

end Twin

/-! ## Programs that keep a relation -/

section Twins

variable {ε σ τ α β : Type} {R : σ → τ → Prop} {m : Proc ε σ α} {m' : Proc ε τ α} {k : α → Proc ε σ β} {k' : α → Proc ε τ β}

theorem twins_pure (a : α) : Twins R (pure a : Proc ε σ α) (pure a : Proc ε τ α) := twin_pure a fun _ _ => id

theorem twins_fail (e : ε) : Twins R (fail e : Proc ε σ α) (fail e : Proc ε τ α) := twin_fail e fun _ _ => id

theorem twins_stall : Twins R (stall : Proc ε σ α) (stall : Proc ε τ α) := twin_stall fun _ _ => id

theorem twins_bind (first : Twins R m m') (second : ∀ a, Twins R (k a) (k' a)) : Twins R (m >>= k) (m' >>= k') :=
  twin_bind first second

theorem twins_ite {c c' : Prop} [Decidable c] [Decidable c'] {n : Proc ε σ α} {n' : Proc ε τ α} (same : c ↔ c')
    (yes : Twins R m m') (no : Twins R n n') : Twins R (if c then m else n) (if c' then m' else n') :=
  twin_ite same (fun _ _ => yes) fun _ _ => no

theorem twins_ensure_bind {c c' : Prop} [Decidable c] [Decidable c'] {k : Unit → Proc ε σ β} {k' : Unit → Proc ε τ β}
    (e : ε) (same : c ↔ c') (rest : c → c' → Twins R (k ()) (k' ())) :
    Twins R (ensure c e >>= k) (ensure c' e >>= k') :=
  twin_ensure_bind e same (fun _ _ => id) rest

theorem twins_lift (e : ε) {o o' : Option α} (same : o = o') :
    Twins R (lift e o : Proc ε σ α) (lift e o' : Proc ε τ α) := by
  subst same
  cases o with
  | none => exact twins_fail e
  | some a => exact twins_pure a

theorem twins_lift_bind {o o' : Option α} (e : ε) (same : o = o') (rest : ∀ a, o = some a → Twins R (k a) (k' a)) :
    Twins R (lift e o >>= k) (lift e o' >>= k') :=
  twin_lift_bind e same (fun _ _ => id) rest

end Twins

end NoxSsh.Theory.Proc
