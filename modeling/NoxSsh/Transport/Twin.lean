/-
# Transport.Twin — two runs of a party, from contexts that differ

Two hosts are `Twinned` if the same is on its way to both, they are about to ask the
outside the same question, and what an observer makes of their traces is the same;
their contexts are related by a relation `R` that need not be equality.  Moving packets
keeps twins twins as long as `R` makes the lanes the same in all that is read of them
(`Mirrored`): the keys of a lane that does not encrypt may differ.
-/
import NoxSsh.Theory.Twin
import NoxSsh.Transport.Packet

namespace NoxSsh.Transport

open Theory Proc Wire

set_option autoImplicit false

structure Twinned {π β : Type} (R : π → π → Prop) (seen : Event × π → β) (h h' : Host π) : Prop where
  self : R h.self h'.self
  tick : h.tick = h'.tick
  inbox : h.inbox = h'.inbox
  trace : h.trace.map seen = h'.trace.map seen

/-- The event is seen alike whichever of the two contexts it is recorded with. -/
def Shown {π β : Type} (R : π → π → Prop) (seen : Event × π → β) (e : Event) : Prop :=
  ∀ p q, R p q → seen (e, p) = seen (e, q)

section Primitives

variable {π α β γ : Type} {R R' : π → π → Prop} {seen : Event × π → β} {E : Host π → Host π → Prop}

theorem Twinned.mono {h h' : Host π} (twinned : Twinned R seen h h') (weaker : ∀ p q, R p q → R' p q) :
    Twinned R' seen h h' :=
  ⟨weaker _ _ twinned.self, twinned.tick, twinned.inbox, twinned.trace⟩

theorem twin_self_bind {k k' : π → Prog π α} {Q : α → Host π → Host π → Prop}
    (rest : ∀ p q, R p q → Twin (Twinned R seen) (k p) (k' q) Q E) :
    Twin (Twinned R seen) (self >>= k) (self >>= k') Q E :=
  ⟨fun h h' twinned => (rest h.self h'.self twinned.self).runs h h' twinned⟩

/-- The contexts that were read are the contexts there are. -/
theorem twin_self_exact_bind {k k' : π → Prog π α} {Q : α → Host π → Host π → Prop}
    (rest : ∀ p q, R p q → Twin (Twinned (fun p' q' => p' = p ∧ q' = q) seen) (k p) (k' q) Q E) :
    Twin (Twinned R seen) (self >>= k) (self >>= k') Q E :=
  ⟨fun h h' twinned => (rest h.self h'.self twinned.self).runs h h'
    ⟨⟨rfl, rfl⟩, twinned.tick, twinned.inbox, twinned.trace⟩⟩

theorem twin_modify {f g : π → π} (post : ∀ p q, R p q → R' (f p) (g q)) :
    Twin (Twinned R seen) (modify f) (modify g) (fun _ => Twinned R' seen) E :=
  twin_of_alike fun _ _ twinned => ⟨rfl, post _ _ twinned.self, twinned.tick, twinned.inbox, twinned.trace⟩

theorem twins_modify {f g : π → π} (post : ∀ p q, R p q → R (f p) (g q)) :
    Twins (Twinned R seen) (modify f) (modify g) := twin_modify post

/-- A stretch on which more is known of the contexts. -/
theorem twin_within {R'' : π → π → Prop} {m m' : Prog π α} (twins : Twins (Twinned R' seen) m m')
    (start : ∀ p q, R p q → R' p q) (after : ∀ p q, R' p q → R'' p q) :
    Twin (Twinned R seen) m m' (fun _ => Twinned R'' seen) (Twinned R'' seen) :=
  twins.mono (fun _ _ twinned => twinned.mono start) (fun _ _ _ twinned => twinned.mono after)
    fun _ _ twinned => twinned.mono after

theorem Twinned.log {h h' : Host π} (twinned : Twinned R seen h h') {e : Event} (shown : Shown R seen e) :
    Twinned R seen { h with trace := h.trace ++ [(e, h.self)] } { h' with trace := h'.trace ++ [(e, h'.self)] } := by
  have same : (h.trace ++ [(e, h.self)]).map seen = (h'.trace ++ [(e, h'.self)]).map seen := by
    rw [List.map_append, List.map_append, twinned.trace, List.map_singleton, List.map_singleton,
      shown _ _ twinned.self]
  exact ⟨twinned.self, twinned.tick, twinned.inbox, same⟩

theorem twin_log {e : Event} (shown : Shown R seen e) :
    Twin (Twinned R seen) (log e) (log e) (fun _ => Twinned R seen) E :=
  twin_of_alike fun _ _ twinned => ⟨rfl, twinned.log shown⟩

theorem twin_ask (answers : Nat → α) :
    Twin (Twinned R seen) (ask answers) (ask answers) (fun _ => Twinned R seen) E := by
  apply twin_of_alike
  intro h h' twinned
  exact ⟨congrArg answers twinned.tick, twinned.self, congrArg (· + 1) twinned.tick, twinned.inbox, twinned.trace⟩

theorem twins_takeInbox (env : Env) (len : Nat) : Twins (Twinned R seen) (takeInbox env len) (takeInbox env len) := by
  apply twin_of_alike
  intro h h' twinned
  obtain ⟨p, t, inbox, trace⟩ := h
  obtain ⟨p', t', inbox', trace'⟩ := h'
  obtain rfl : t = t' := twinned.tick
  obtain rfl : inbox = inbox' := twinned.inbox
  unfold takeInbox
  dsimp only
  split
  · exact ⟨rfl, twinned.self, rfl, rfl, twinned.trace⟩
  · split
    · exact twinned
    · exact ⟨rfl, twinned.self, rfl, rfl, twinned.trace⟩

theorem twins_recvCb {looked : Option Nat} (shown : Shown R seen (.receiving looked)) (env : Env) (len : Nat) :
    Twins (Twinned R seen) (recvCb env looked len) (recvCb env looked len) :=
  twins_bind (twin_log shown) fun _ => twins_takeInbox env len

theorem twins_sendCb (shown : ∀ bytes, Shown R seen (.wire bytes)) (env : Env) (data : List UInt8) :
    Twins (Twinned R seen) (sendCb env data) (sendCb env data) := by
  rw [sendCb]
  apply twins_bind (twin_ask _)
  intro upTo
  apply twins_ite Iff.rfl (twins_pure 0)
  exact twins_bind (twin_log (shown _)) fun _ => twins_pure _

theorem twin_byInbox {X : Host π → Prop} {loop loop' : Nat → Prog π α} {Q : α → Host π → Host π → Prop}
    (each : ∀ turns, TwinUnless X (Twinned R seen) (loop turns) (loop' turns) Q E) :
    TwinUnless X (Twinned R seen) (byInbox loop) (byInbox loop') Q E := by
  constructor
  intro h h' twinned
  show X ((loop' (h'.inbox.length + 1)).run h').2 ∨
    Alike _ _ ((loop (h.inbox.length + 1)).run h) ((loop' (h'.inbox.length + 1)).run h')
  rw [twinned.inbox]
  exact (each _).runs h h' twinned

end Primitives

/-! ## Moving bytes -/

section Loops

variable {π β : Type} {R : π → π → Prop} {seen : Event × π → β} {env : Env} {check check' : Prog π (Option Nat)}

theorem twins_sendAllWith (wire : ∀ bytes, Shown R seen (.wire bytes)) (checks : Twins (Twinned R seen) check check')
    (data : List UInt8) : Twins (Twinned R seen) (sendAllWith env check data) (sendAllWith env check' data) := by
  have loop : ∀ turns data, Twins (Twinned R seen) (sendLoop env check turns data) (sendLoop env check' turns data) := by
    intro turns
    induction turns with
    | zero =>
        intro data
        cases data with
        | nil => exact twins_pure ()
        | cons c data => exact twins_stall
    | succ turns ih =>
        intro data
        cases data with
        | nil => exact twins_pure ()
        | cons c data =>
            apply twins_bind checks
            intro _
            apply twins_bind (twins_sendCb wire env _)
            intro sent
            exact twins_ite Iff.rfl (twins_fail _) (ih _)
  exact loop data.length data

theorem twins_recvExactWith (overflow : Shown R seen .overflow) (receiving : ∀ looked, Shown R seen (.receiving looked))
    (checks : Twins (Twinned R seen) check check') (len room : Nat) :
    Twins (Twinned R seen) (recvExactWith env check len room) (recvExactWith env check' len room) := by
  have loop : ∀ turns data,
      Twins (Twinned R seen) (recvLoop env check len room turns data) (recvLoop env check' len room turns data) := by
    intro turns
    induction turns with
    | zero =>
        intro data
        exact twins_ite Iff.rfl twins_stall (twins_pure data)
    | succ turns ih =>
        intro data
        rw [recvLoop, recvLoop]
        apply twins_ite Iff.rfl _ (twins_pure data)
        apply twins_bind checks
        intro looked
        apply twins_bind (twins_recvCb (receiving looked) env _)
        intro got
        apply twins_ite Iff.rfl (twins_fail _)
        apply twins_ite Iff.rfl _ (ih _)
        exact twins_bind (twin_log overflow) fun _ => twins_stall
  exact loop len []

theorem twins_recvLineWith (receiving : ∀ looked, Shown R seen (.receiving looked))
    (checks : Twins (Twinned R seen) check check') (outLen : Nat) :
    Twins (Twinned R seen) (recvLineWith env check outLen) (recvLineWith env check' outLen) := by
  have line : ∀ turns out, Twins (Twinned R seen) (lineLoop env check (outLen - 1) turns out)
      (lineLoop env check' (outLen - 1) turns out) := by
    intro turns
    induction turns with
    | zero => exact fun _ => twins_stall
    | succ turns ih =>
        intro out
        rw [lineLoop, lineLoop]
        apply twins_ite Iff.rfl _ (twins_pure out)
        apply twins_bind checks
        intro looked
        apply twins_bind (twins_recvCb (receiving looked) env 1)
        intro got
        cases got with
        | nil => exact twins_fail _
        | cons ch _ =>
            apply twins_ite Iff.rfl (twins_pure out)
            exact twins_ite Iff.rfl (ih _) (ih _)
  have discard : ∀ turns, Twins (Twinned R seen) (discardLoop env turns) (discardLoop env turns) := by
    intro turns
    induction turns with
    | zero => exact twins_stall
    | succ turns ih =>
        apply twins_bind (twins_recvCb (receiving none) env 1)
        intro got
        cases got with
        | nil => exact twins_fail _
        | cons ch _ => exact twins_ite Iff.rfl (twins_pure ()) ih
  apply twins_bind (twin_byInbox fun turns => line turns [])
  intro out
  apply twins_ite Iff.rfl _ (twins_pure _)
  exact twins_bind (twin_byInbox discard) fun _ => twins_pure []

end Loops

/-! ## Packets -/

/-- All that is read of the two lanes is the same. -/
structure Lane.Matches (lane lane' : Lane) : Prop where
  encrypted : lane.encrypted = lane'.encrypted
  keyed : lane.encrypted = true → lane = lane'

/-- Related contexts have lanes that match, and stay related as packets move. -/
structure Mirrored {π : Type} (R : π → π → Prop) (side : Side π) (account : Nat → π → π) : Prop where
  lane : ∀ p q, R p q → (side.lane p).Matches (side.lane q)
  uncounted : ∀ n p, side.lane (account n p) = side.lane p
  setCounter : ∀ counter p q, R p q → R (side.setCounter counter p) (side.setCounter counter q)
  bumpSeq : ∀ p q, R p q → R (side.bumpSeq p) (side.bumpSeq q)
  account : ∀ n p q, R p q → R (account n p) (account n q)

section Packets

variable {π β : Type} {R : π → π → Prop} {seen : Event × π → β} {noxtls : Noxtls} {side : Side π}
  {account : Nat → π → π}

theorem twins_sendPacketWith (mirrored : Mirrored R side account) (macs : ∀ message tag, Shown R seen (.macComputed message tag))
    {fillRandom : Nat → Prog π (List UInt8)} {sendAll : List UInt8 → Prog π Unit}
    {writeSealed : List UInt8 → List UInt8 → Prog π Unit}
    (fills : ∀ len, Twins (Twinned R seen) (fillRandom len) (fillRandom len))
    (sends : ∀ data, Twins (Twinned R seen) (sendAll data) (sendAll data))
    (writes : ∀ enc mac, Twins (Twinned R seen) (writeSealed enc mac) (writeSealed enc mac)) (payload : List UInt8) :
    Twins (Twinned R seen) (sendPacketWith noxtls side fillRandom sendAll writeSealed account payload)
      (sendPacketWith noxtls side fillRandom sendAll writeSealed account payload) := by
  rw [sendPacketWith]
  apply twin_self_bind
  intro p q related
  have matched := mirrored.lane p q related
  dsimp only
  rw [matched.encrypted]
  apply twins_ensure_bind _ Iff.rfl
  intro _ _
  apply twins_bind (fills _)
  intro padding
  apply twin_ite Iff.rfl
  · intro encrypted _
    have same : side.lane p = side.lane q := matched.keyed (matched.encrypted.trans encrypted)
    rw [same]
    apply twins_lift_bind _ rfl
    intro mac _
    apply twins_bind (twin_log (macs _ _))
    intro _
    apply twins_lift_bind _ rfl
    intro enc _
    apply twins_bind (twins_modify (mirrored.setCounter _))
    intro _
    apply twins_bind ((writes enc mac).failAs _)
    intro _
    apply twins_bind (twins_modify mirrored.bumpSeq)
    intro _
    exact twins_modify (mirrored.account _)
  · intro _ _
    apply twins_bind (sends _)
    intro _
    exact twins_modify mirrored.bumpSeq

/-- Related, and with the same lane. -/
def SameLane {π : Type} (R : π → π → Prop) (side : Side π) (p q : π) : Prop := R p q ∧ side.lane p = side.lane q

theorem Mirrored.sameLane (mirrored : Mirrored R side account) : Mirrored (SameLane R side) side account where
  lane p q related := by
    rw [related.2]
    exact ⟨rfl, fun _ => rfl⟩
  uncounted := mirrored.uncounted
  setCounter counter p q related := by
    refine ⟨mirrored.setCounter counter p q related.1, ?_⟩
    rw [side.lane_setCounter, side.lane_setCounter, related.2]
  bumpSeq p q related := by
    refine ⟨mirrored.bumpSeq p q related.1, ?_⟩
    rw [Side.bumpSeq, Side.bumpSeq, side.lane_setSeq, side.lane_setSeq, related.2]
  account n p q related := by
    refine ⟨mirrored.account n p q related.1, ?_⟩
    rw [mirrored.uncounted, mirrored.uncounted, related.2]

theorem twins_openWith (mirrored : Mirrored R side account) (macs : ∀ message tag, Shown R seen (.macAccepted message tag))
    {recvExact : Nat → Nat → Prog π (List UInt8)}
    (reads : ∀ R' : π → π → Prop, (∀ p q, R' p q → R p q) → ∀ len room,
      Twins (Twinned R' seen) (recvExact len room) (recvExact len room)) (payloadMax : Nat) :
    Twins (Twinned R seen) (openWith noxtls side recvExact account payloadMax)
      (openWith noxtls side recvExact account payloadMax) := by
  have reads' := reads R fun _ _ => id
  have keyed := reads (SameLane R side) fun _ _ => And.left
  have same := mirrored.sameLane
  rw [openWith]
  apply twin_self_exact_bind
  intro p q related
  have matched := mirrored.lane p q related
  rw [matched.encrypted]
  apply twin_ite Iff.rfl
  · intro encrypted _
    have start : ∀ p' q', p' = p ∧ q' = q → SameLane R side p' q' := by
      rintro _ _ ⟨rfl, rfl⟩
      exact ⟨related, matched.keyed (matched.encrypted.trans encrypted)⟩
    apply twin_within _ start fun _ _ => And.left
    apply twins_bind ((keyed _ _).failAs _)
    intro first
    apply twin_self_bind
    intro p₁ q₁ related₁
    rw [related₁.2]
    apply twins_lift_bind _ rfl
    intro head _
    apply twins_bind (twins_modify (same.setCounter _))
    intro _
    apply twins_ensure_bind _ Iff.rfl
    intro _ _
    apply twins_bind ((keyed _ _).failAs _)
    intro rest
    apply twin_self_bind
    intro p₂ q₂ related₂
    rw [related₂.2]
    apply twins_lift_bind _ rfl
    intro tail _
    apply twins_bind (twins_modify (same.setCounter _))
    intro _
    apply twins_bind ((keyed _ _).failAs _)
    intro mac
    apply twin_self_bind
    intro p₃ q₃ related₃
    rw [related₃.2]
    apply twins_lift_bind _ rfl
    intro computed _
    apply twins_ensure_bind _ Iff.rfl
    intro _ _
    apply twins_bind (twin_log fun p q related => macs _ _ p q related.1)
    intro _
    apply twins_bind (twins_modify same.bumpSeq)
    intro _
    apply twins_bind (twins_modify (same.account _))
    intro _
    exact twins_lift _ rfl
  · intro _ _
    have start : ∀ p' q', p' = p ∧ q' = q → R p' q' := by
      rintro _ _ ⟨rfl, rfl⟩
      exact related
    apply twin_within _ start fun _ _ => id
    apply twins_bind ((reads' 4 4).failAs _)
    intro header
    apply twins_ensure_bind _ Iff.rfl
    intro _ _
    apply twins_bind ((reads' _ _).failAs _)
    intro packet
    apply twins_lift_bind _ rfl
    intro payload _
    apply twins_bind (twins_modify mirrored.bumpSeq)
    intro _
    exact twins_pure payload

theorem twins_recvPacketWith (mirrored : Mirrored R side account)
    (macs : ∀ message tag, Shown R seen (.macAccepted message tag)) (received : ∀ payload, Shown R seen (.received payload))
    {recvExact : Nat → Nat → Prog π (List UInt8)}
    (reads : ∀ R' : π → π → Prop, (∀ p q, R' p q → R p q) → ∀ len room,
      Twins (Twinned R' seen) (recvExact len room) (recvExact len room)) (payloadMax : Nat) :
    Twins (Twinned R seen) (recvPacketWith noxtls side recvExact account payloadMax)
      (recvPacketWith noxtls side recvExact account payloadMax) := by
  apply twins_bind (twins_openWith mirrored macs reads payloadMax)
  intro payload
  exact twins_bind (twin_log (received payload)) fun _ => twins_pure payload

end Packets

/-! ## Side by side, until a bad event -/

/-- The relation `Quiet` of programs of which only this is known: they forget no event. -/
abbrev Growing {π α : Type} (m : Prog π α) : Prop := Always (Quiet (fun _ => True) fun _ => ()) m

/-- An event of the trace is a bad one. -/
def Met {π : Type} (bad : Event × π → Prop) (h : Host π) : Prop := ∃ e ∈ h.trace, bad e

/-- From contexts with `P` the two programs do and show the same, unless the second one
comes to a bad event; and it forgets no event. -/
structure Abreast {π β α : Type} (bad : Event × π → Prop) (seen : Event × π → β) (P : π → π → Prop) (m m' : Prog π α)
    (Q : α → π → π → Prop) (E : π → π → Prop) : Prop where
  twins : TwinUnless (Met bad) (Twinned P seen) m m' (fun a => Twinned (Q a) seen) (Twinned E seen)
  grows : Growing m'

section Abreast

variable {π α β γ : Type} {bad : Event × π → Prop} {seen : Event × π → γ} {P R E E' : π → π → Prop}
  {Q Q' : α → π → π → Prop} {T : β → π → π → Prop} {m m' : Prog π α} {k k' : α → Prog π β}

theorem Met.grows {h h' : Host π} (met : Met bad h) {view : π → γ} {ok : Event → Prop} (quiet : Quiet ok view h h') :
    Met bad h' := by
  obtain ⟨-, new, grown, -⟩ := quiet
  obtain ⟨e, member, isBad⟩ := met
  refine ⟨e, ?_, isBad⟩
  rw [grown]
  exact List.mem_append_left _ member

theorem Growing.keeps (grows : Growing m) : Always (fun h h' => Met bad h → Met bad h') m :=
  always_mono grows fun _ _ quiet met => met.grows quiet

theorem Abreast.mono {P' : π → π → Prop} (abreast : Abreast bad seen P m m' Q E) (stronger : ∀ p q, P' p q → P p q)
    (weaker : ∀ a p q, Q a p q → Q' a p q) (broken : ∀ p q, E p q → E' p q) : Abreast bad seen P' m m' Q' E' where
  twins := abreast.twins.mono (fun _ _ twinned => twinned.mono stronger) (fun a _ _ twinned => twinned.mono (weaker a))
    fun _ _ twinned => twinned.mono broken
  grows := abreast.grows

/-- Programs that keep a relation, and no event is bad. -/
theorem abreast_of_twins (twins : Twins (Twinned R seen) m m') (grows : Growing m') :
    Abreast bad seen R m m' (fun _ => R) R := ⟨twins.unless, grows⟩

theorem abreast_bind (first : Abreast bad seen P m m' Q E) (second : ∀ a, Abreast bad seen (Q a) (k a) (k' a) T E) :
    Abreast bad seen P (m >>= k) (m' >>= k') T E where
  twins := twinUnless_bind first.twins (fun a => (second a).twins) fun a => (second a).grows.keeps
  grows := always_bind (quiet_order _ _) first.grows fun a => (second a).grows

theorem abreast_pure (a : α) (post : ∀ p q, P p q → Q a p q) :
    Abreast bad seen P (pure a : Prog π α) (pure a) Q E where
  twins := twin_pure a fun _ _ twinned => twinned.mono post
  grows := always_pure (quiet_order _ _) a

theorem abreast_fail (e : NetnoxReturn) (broken : ∀ p q, P p q → E p q) :
    Abreast bad seen P (fail e : Prog π α) (fail e) Q E where
  twins := twin_fail e fun _ _ twinned => twinned.mono broken
  grows := always_fail (quiet_order _ _) e

theorem abreast_stall (broken : ∀ p q, P p q → E p q) : Abreast bad seen P (stall : Prog π α) stall Q E where
  twins := twin_stall fun _ _ twinned => twinned.mono broken
  grows := always_stall (quiet_order _ _)

theorem abreast_ite {c c' : Prop} [Decidable c] [Decidable c'] {n n' : Prog π α} (same : c ↔ c')
    (yes : Abreast bad seen P m m' Q E) (no : Abreast bad seen P n n' Q E) :
    Abreast bad seen P (if c then m else n) (if c' then m' else n') Q E where
  twins := twin_ite same (fun _ _ => yes.twins) fun _ _ => no.twins
  grows := always_ite yes.grows no.grows

theorem abreast_ensure_bind {c c' : Prop} [Decidable c] [Decidable c'] {k k' : Unit → Prog π β} (e : NetnoxReturn)
    (same : c ↔ c') (broken : ∀ p q, P p q → E p q) (rest : Abreast bad seen P (k ()) (k' ()) T E) :
    Abreast bad seen P (ensure c e >>= k) (ensure c' e >>= k') T E where
  twins := twin_ensure_bind e same (fun _ _ twinned => twinned.mono broken) fun _ _ => rest.twins
  grows := always_ensure_bind (quiet_order _ _) e fun _ => rest.grows

/-- The rest may use what was ensured. -/
theorem abreast_ensured_bind {c c' : Prop} [Decidable c] [Decidable c'] {k k' : Unit → Prog π β} (e : NetnoxReturn)
    (same : c ↔ c') (broken : ∀ p q, P p q → E p q) (rest : c' → Abreast bad seen P (k ()) (k' ()) T E) :
    Abreast bad seen P (ensure c e >>= k) (ensure c' e >>= k') T E where
  twins := twin_ensure_bind e same (fun _ _ twinned => twinned.mono broken) fun _ holds => (rest holds).twins
  grows := always_ensure_bind (quiet_order _ _) e fun holds => (rest holds).grows

theorem abreast_lift_bind {o : Option α} (e : NetnoxReturn) (broken : ∀ p q, P p q → E p q)
    (rest : ∀ a, o = some a → Abreast bad seen P (k a) (k' a) T E) :
    Abreast bad seen P (lift e o >>= k) (lift e o >>= k') T E where
  twins := twin_lift_bind e rfl (fun _ _ twinned => twinned.mono broken) fun a is => (rest a is).twins
  grows := always_lift_bind (quiet_order _ _) e fun a is => (rest a is).grows

theorem Abreast.failAs (e : NetnoxReturn) (abreast : Abreast bad seen P m m' Q E) :
    Abreast bad seen P (failAs e m) (failAs e m') Q E where
  twins := abreast.twins.failAs e
  grows := always_failAs e abreast.grows

theorem abreast_attempt (abreast : Abreast bad seen P m m' (fun _ => R) R) :
    Abreast bad seen P (attempt m) (attempt m') (fun _ => R) R where
  twins := twin_attempt abreast.twins
  grows := always_attempt abreast.grows

/-- Each context is related to itself, so every rest is one of a related context. -/
theorem abreast_self_bind {k k' : π → Prog π β} (reflexive : ∀ q, P q q)
    (rest : ∀ p q, P p q → Abreast bad seen P (k p) (k' q) T E) :
    Abreast bad seen P (self >>= k) (self >>= k') T E where
  twins := ⟨fun h h' twinned => (rest h.self h'.self twinned.self).twins.runs h h' twinned⟩
  grows := always_bind (quiet_order _ _) always_self fun q => (rest q q (reflexive q)).grows

/-- The contexts that were read are the contexts there are. -/
theorem abreast_self_exact_bind {k k' : π → Prog π β} (reflexive : ∀ q, P q q)
    (rest : ∀ p q, P p q → Abreast bad seen (fun p' q' => p' = p ∧ q' = q) (k p) (k' q) T E) :
    Abreast bad seen P (self >>= k) (self >>= k') T E where
  twins := ⟨fun h h' twinned => (rest h.self h'.self twinned.self).twins.runs h h'
    ⟨⟨rfl, rfl⟩, twinned.tick, twinned.inbox, twinned.trace⟩⟩
  grows := always_bind (quiet_order _ _) always_self fun q => (rest q q (reflexive q)).grows

/-- What was ensured of the contexts is known of them. -/
theorem abreast_guard_bind {c : π → Prop} [∀ p, Decidable (c p)] {k k' : Unit → Prog π β} (e : NetnoxReturn)
    (same : ∀ p q, P p q → (c p ↔ c q)) (broken : ∀ p q, P p q → E p q)
    (rest : Abreast bad seen (fun p q => P p q ∧ c q) (k ()) (k' ()) T E) :
    Abreast bad seen P (self >>= fun p => ensure (c p) e >>= k) (self >>= fun q => ensure (c q) e >>= k') T E where
  twins := by
    constructor
    intro h h' twinned
    rw [self_bind_run, self_bind_run]
    by_cases holds : c h'.self
    · rw [ensure_bind_pos ((same _ _ twinned.self).2 holds), ensure_bind_pos holds]
      exact rest.twins.runs h h' ⟨⟨twinned.self, holds⟩, twinned.tick, twinned.inbox, twinned.trace⟩
    · rw [ensure_bind_neg fun holds' => holds ((same _ _ twinned.self).1 holds'), ensure_bind_neg holds]
      exact .inr ⟨rfl, twinned.mono broken⟩
  grows := always_bind (quiet_order _ _) always_self fun _ => always_ensure_bind (quiet_order _ _) e fun _ => rest.grows

theorem abreast_ask (answers : Nat → α) : Abreast bad seen P (ask answers) (ask answers) (fun _ => P) E where
  twins := (twin_ask answers).unless
  grows := always_ask answers

theorem abreast_log {e : Event} (shown : Shown P seen e) : Abreast bad seen P (log e) (log e) (fun _ => P) E where
  twins := (twin_log shown).unless
  grows := always_log trivial

theorem abreast_modify {f : π → π} (post : ∀ p q, P p q → R (f p) (f q)) :
    Abreast bad seen P (modify f) (modify f) (fun _ => R) E where
  twins := (twin_modify post).unless
  grows := always_modify fun _ => rfl

/-- Each context is replaced by one of its own. -/
theorem abreast_replace {f g : π → π} (post : ∀ p q, P p q → R (f p) (g q)) :
    Abreast bad seen P (modify f) (modify g) (fun _ => R) E where
  twins := (twin_modify post).unless
  grows := always_modify fun _ => rfl

/-- If the event is not a bad one, the rest may rely on that. -/
theorem abreast_log_bind {e : Event} {k k' : Unit → Prog π β} (shown : Shown P seen e)
    (rest : Abreast bad seen (fun p q => P p q ∧ ¬ bad (e, q)) (k ()) (k' ()) T E) :
    Abreast bad seen P (log e >>= k) (log e >>= k') T E where
  twins := by
    constructor
    intro h h' twinned
    have logged := twinned.log shown
    by_cases isBad : bad (e, h'.self)
    · left
      have met : Met bad { h' with trace := h'.trace ++ [(e, h'.self)] } := ⟨(e, h'.self), by simp, isBad⟩
      exact rest.grows.keeps _ met
    · exact rest.twins.runs _ _ ⟨⟨logged.self, isBad⟩, logged.tick, logged.inbox, logged.trace⟩
  grows := always_bind (quiet_order _ _) (always_log trivial) fun _ => rest.grows

theorem abreast_byInbox {loop loop' : Nat → Prog π α} (each : ∀ turns, Abreast bad seen P (loop turns) (loop' turns) Q E) :
    Abreast bad seen P (byInbox loop) (byInbox loop') Q E where
  twins := twin_byInbox fun turns => (each turns).twins
  grows := fun h => (each (h.inbox.length + 1)).grows h

theorem abreast_leaving {event : Bool → Event} (abreast : Abreast bad seen P m m' Q E)
    (shown : ∀ done (R' : π → π → Prop), Shown R' seen (event done)) :
    Abreast bad seen P (leaving event m) (leaving event m') Q E where
  twins := by
    apply twin_ending abreast.twins
    · intro done h met
      have grown : Quiet (fun _ => True) (fun _ => ()) h { h with trace := h.trace ++ [(event done, h.self)] } :=
        always_log trivial h
      exact met.grows grown
    · exact fun a h h' twinned => twinned.log (shown true _)
    · exact fun h h' twinned => twinned.log (shown false _)
  grows := always_ending (quiet_order _ _) abreast.grows fun done h => always_log trivial h

end Abreast

end NoxSsh.Transport
