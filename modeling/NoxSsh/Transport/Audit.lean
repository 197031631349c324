/-
# Transport.Audit — what a trace proves about packets, whatever the network does

`Transport.Packet` says what the packet routines do on live sockets between
parties in step.  Here nothing is assumed of the network: the inbox holds any
bytes and any callback may fail.

* Which events the routines can record and what they leave alone
  (`always_sendPacketWith`, `always_recvPacketWith`).
* What a call that succeeded must have done (`sendPacketWith_ok`, `openWith_ok`):
  exactly one MAC was computed, respectively accepted, over the sequence number
  and the packet, and the sequence number went up by one.
-/
import NoxSsh.Transport.Packet

namespace NoxSsh.Transport

open Theory Proc Wire

set_option autoImplicit false

/-! ## Reading a trace -/

def Event.computed? : Event → Option (List UInt8 × List UInt8)
  | .macComputed message tag => some (message, tag)
  | _ => none

def Event.accepted? : Event → Option (List UInt8 × List UInt8)
  | .macAccepted message tag => some (message, tag)
  | _ => none

def Event.received? : Event → Option (List UInt8)
  | .received payload => some payload
  | _ => none

def Event.sending? : Event → Option (List UInt8)
  | .sending payload => some payload
  | _ => none

def Event.sent? : Event → Option (List UInt8)
  | .sent payload => some payload
  | _ => none

theorem plumbing_computed : Plumbing fun e => e.computed? = none := ⟨fun _ => rfl, rfl, rfl⟩

theorem plumbing_received : Plumbing fun e => e.received? = none := ⟨fun _ => rfl, rfl, rfl⟩

/-- The events of a trace that `f` picks out, in order. -/
def pick {π β : Type} (f : Event → Option β) (trace : List (Event × π)) : List β :=
  trace.filterMap fun e => f e.1

@[simp] theorem pick_nil {π β : Type} (f : Event → Option β) : pick f ([] : List (Event × π)) = [] := rfl

@[simp] theorem pick_append {π β : Type} (f : Event → Option β) (a b : List (Event × π)) :
    pick f (a ++ b) = pick f a ++ pick f b := by
  simp [pick]

@[simp] theorem pick_single {π β : Type} (f : Event → Option β) (e : Event) (p : π) :
    pick f [(e, p)] = (f e).toList := by
  cases h : f e <;> simp [pick, h]

theorem pick_eq_nil {π β : Type} {f : Event → Option β} {trace : List (Event × π)}
    (none : ∀ e ∈ trace, f e.1 = none) : pick f trace = [] := by
  simp only [pick, List.filterMap_eq_nil_iff]
  exact none

theorem mem_pick {π β : Type} {f : Event → Option β} {trace : List (Event × π)} {b : β} :
    b ∈ pick f trace ↔ ∃ e ∈ trace, f e.1 = some b := by
  simp [pick]

/-- A quiet step none of whose events `f` picks. -/
theorem Quiet.silent {π β γ : Type} {f : Event → Option β} {view : π → γ} {h h' : Host π}
    (quiet : Quiet (fun e => f e = none) view h h') :
    view h'.self = view h.self ∧ ∃ new, h'.trace = h.trace ++ new ∧ pick f new = [] := by
  obtain ⟨same, new, grown, kept⟩ := quiet
  exact ⟨same, new, grown, pick_eq_nil fun e he => (kept e he).1⟩

/-! ## Checking each event against those before it -/

/-- An element of two lists in a row, with what stands before it, is in one of them. -/
theorem split_append {α : Type} {old new before after : List α} {x : α}
    (is : old ++ new = before ++ x :: after) :
    (∃ rest, old = before ++ x :: rest) ∨ ∃ more, before = old ++ more ∧ new = more ++ x :: after := by
  rcases List.append_eq_append_iff.1 is with ⟨more, rfl, later⟩ | ⟨rest, rfl, first⟩
  · exact .inr ⟨more, rfl, later⟩
  · cases rest with
    | nil => exact .inr ⟨[], by simp, by simpa using first.symm⟩
    | cons y rest =>
        obtain ⟨rfl, -⟩ := List.cons.inj first
        exact .inl ⟨rest, rfl⟩

/-- Each event passes `check`, which sees the events before it. -/
def Audited {π : Type} (check : List (Event × π) → Event × π → Prop) (trace : List (Event × π)) : Prop :=
  ∀ before e after, trace = before ++ e :: after → check before e

section Audited

variable {π : Type} {check : List (Event × π) → Event × π → Prop} {old new : List (Event × π)}

theorem audited_nil : Audited check [] := by
  intro before e after is
  simp at is

theorem Audited.append (first : Audited check old)
    (second : ∀ more e after, new = more ++ e :: after → check (old ++ more) e) : Audited check (old ++ new) := by
  intro before e after is
  rcases split_append is with ⟨rest, here⟩ | ⟨more, rfl, here⟩
  · exact first before e rest here
  · exact second more e after here

theorem Audited.snoc (first : Audited check old) {e : Event × π} (last : check old e) :
    Audited check (old ++ [e]) := by
  apply first.append
  intro more e' after is
  cases more with
  | nil =>
      obtain ⟨rfl, -⟩ := List.cons.inj is
      rwa [List.append_nil]
  | cons x more => simp at is

end Audited

/-! ## What the routines may record -/

section Quiet

variable {π γ : Type} {noxtls : Noxtls} {side : Side π} {ok : Event → Prop} {view : π → γ}
  {fillRandom : Nat → Prog π (List UInt8)} {sendAll : List UInt8 → Prog π Unit}
  {writeSealed : List UInt8 → List UInt8 → Prog π Unit} {recvExact : Nat → Nat → Prog π (List UInt8)}
  {account : Nat → π → π}

theorem always_sendPacketWith {R : Host π → Host π → Prop} (plain : Plain R)
    (macs : ∀ m t, Always R (log (.macComputed m t) : Prog π Unit))
    (counter : ∀ c, Always R (modify (side.setCounter c))) (seq : ∀ n, Always R (modify (side.setSeq n)))
    (counts : ∀ n, Always R (modify (account n))) (fills : ∀ n, Always R (fillRandom n))
    (sends : ∀ data, Always R (sendAll data)) (writes : ∀ enc mac, Always R (writeSealed enc mac))
    (payload : List UInt8) :
    Always R (sendPacketWith noxtls side fillRandom sendAll writeSealed account payload) := by
  have order := plain.toStepOrder
  have advance : Always R (modify side.bumpSeq) := fun h => seq _ h
  refine always_bind order plain.self fun p => ?_
  refine always_bind order (always_ensure order _ _) fun _ => ?_
  refine always_bind order (fills _) fun padding => ?_
  refine always_ite ?_ ?_
  · refine always_bind order (always_lift order _ _) fun mac => ?_
    refine always_bind order (macs _ _) fun _ => ?_
    refine always_bind order (always_lift order _ _) fun enc => ?_
    refine always_bind order (counter _) fun _ => ?_
    refine always_bind order (always_failAs _ (writes _ _)) fun _ => ?_
    exact always_bind order advance fun _ => counts _
  · exact always_bind order (sends _) fun _ => advance

theorem settles_sendPacketWith (fills : ∀ n, Settles (fillRandom n)) (sends : ∀ data, Settles (sendAll data))
    (writes : ∀ enc mac, Settles (writeSealed enc mac)) (payload : List UInt8) :
    Settles (sendPacketWith noxtls side fillRandom sendAll writeSealed account payload) := by
  refine settles_bind settles_self fun p => ?_
  refine settles_bind (settles_ensure _ _) fun _ => ?_
  refine settles_bind (fills _) fun padding => ?_
  refine settles_ite ?_ ?_
  · refine settles_bind (settles_lift _ _) fun mac => ?_
    refine settles_bind (settles_log _) fun _ => ?_
    refine settles_bind (settles_lift _ _) fun enc => ?_
    refine settles_bind (settles_modify _) fun _ => ?_
    refine settles_bind (settles_failAs _ (writes _ _)) fun _ => ?_
    exact settles_bind (settles_modify _) fun _ => settles_modify _
  · exact settles_bind (sends _) fun _ => settles_modify _

theorem always_openWith {R : Host π → Host π → Prop} (plain : Plain R)
    (macs : ∀ m t, Always R (log (.macAccepted m t) : Prog π Unit))
    (counter : ∀ c, Always R (modify (side.setCounter c))) (seq : ∀ n, Always R (modify (side.setSeq n)))
    (counts : ∀ n, Always R (modify (account n))) (reads : ∀ len room, Always R (recvExact len room))
    (payloadMax : Nat) : Always R (openWith noxtls side recvExact account payloadMax) := by
  have order := plain.toStepOrder
  have advance : Always R (modify side.bumpSeq) := fun h => seq _ h
  refine always_bind order plain.self fun p => ?_
  refine always_ite ?_ ?_
  · refine always_bind order (always_failAs _ (reads _ _)) fun first => ?_
    refine always_bind order plain.self fun p => ?_
    refine always_bind order (always_lift order _ _) fun head => ?_
    refine always_bind order (counter _) fun _ => ?_
    refine always_bind order (always_ensure order _ _) fun _ => ?_
    refine always_bind order (always_failAs _ (reads _ _)) fun rest => ?_
    refine always_bind order plain.self fun p => ?_
    refine always_bind order (always_lift order _ _) fun tail => ?_
    refine always_bind order (counter _) fun _ => ?_
    refine always_bind order (always_failAs _ (reads _ _)) fun mac => ?_
    refine always_bind order plain.self fun p => ?_
    refine always_bind order (always_lift order _ _) fun computed => ?_
    refine always_bind order (always_ensure order _ _) fun _ => ?_
    refine always_bind order (macs _ _) fun _ => ?_
    refine always_bind order advance fun _ => ?_
    exact always_bind order (counts _) fun _ => always_lift order _ _
  · refine always_bind order (always_failAs _ (reads _ _)) fun header => ?_
    refine always_bind order (always_ensure order _ _) fun _ => ?_
    refine always_bind order (always_failAs _ (reads _ _)) fun packet => ?_
    refine always_bind order (always_lift order _ _) fun payload => ?_
    exact always_bind order advance fun _ => always_pure order _

theorem always_recvPacketWith {R : Host π → Host π → Prop} (plain : Plain R)
    (macs : ∀ m t, Always R (log (.macAccepted m t) : Prog π Unit))
    (received : ∀ p, Always R (log (.received p) : Prog π Unit))
    (counter : ∀ c, Always R (modify (side.setCounter c))) (seq : ∀ n, Always R (modify (side.setSeq n)))
    (counts : ∀ n, Always R (modify (account n))) (reads : ∀ len room, Always R (recvExact len room))
    (payloadMax : Nat) : Always R (recvPacketWith noxtls side recvExact account payloadMax) := by
  have order := plain.toStepOrder
  refine always_bind order (always_openWith plain macs counter seq counts reads payloadMax) fun payload => ?_
  exact always_bind order (received _) fun _ => always_pure order _

theorem unpack_le {payloadMax : Nat} {body payload : List UInt8}
    (unpacks : unpack payloadMax body = some payload) : payload.length ≤ payloadMax := by
  unfold unpack at unpacks
  cases body with
  | nil => simp at unpacks
  | cons padding body =>
      dsimp only at unpacks
      split at unpacks
      · simp at unpacks
      · split at unpacks
        · simp at unpacks
        · obtain rfl := Option.some.inj unpacks
          rw [List.length_take]
          omega

/-- No payload is longer than the buffer it was received into. -/
theorem openWith_le {h h' : Host π} {payloadMax : Nat} {payload : List UInt8}
    (ran : (openWith noxtls side recvExact account payloadMax).run h = (.ok payload, h')) :
    payload.length ≤ payloadMax := by
  rw [openWith, self_bind_run] at ran
  split at ran
  · obtain ⟨first, h₁, -, ran⟩ := bind_inv ran
    rw [self_bind_run] at ran
    obtain ⟨head, -, ran⟩ := lift_bind_inv ran
    rw [modify_bind_run] at ran
    obtain ⟨-, ran⟩ := ensure_bind_inv ran
    obtain ⟨rest, h₂, -, ran⟩ := bind_inv ran
    rw [self_bind_run] at ran
    obtain ⟨tail, -, ran⟩ := lift_bind_inv ran
    rw [modify_bind_run] at ran
    obtain ⟨mac, h₃, -, ran⟩ := bind_inv ran
    rw [self_bind_run] at ran
    obtain ⟨computed, -, ran⟩ := lift_bind_inv ran
    obtain ⟨-, ran⟩ := ensure_bind_inv ran
    rw [log_bind_run, modify_bind_run, modify_bind_run] at ran
    exact unpack_le (lift_inv ran).1
  · obtain ⟨header, h₁, -, ran⟩ := bind_inv ran
    obtain ⟨-, ran⟩ := ensure_bind_inv ran
    obtain ⟨packet, h₂, -, ran⟩ := bind_inv ran
    obtain ⟨opened, unpacks, ran⟩ := lift_bind_inv ran
    rw [modify_bind_run, pure_run] at ran
    obtain ⟨same, -⟩ := Prod.mk.inj ran
    obtain rfl := Outcome.ok.inj same
    exact unpack_le unpacks

/-- A receive: quiet, and then one `received` record or none. -/
theorem recvPacketWith_cases (noxtls : Noxtls) (macs : ∀ m t, ok (.macAccepted m t))
    (counter : ∀ c p, view (side.setCounter c p) = view p) (seq : ∀ n p, view (side.setSeq n p) = view p)
    (counts : ∀ n p, view (account n p) = view p)
    (reads : ∀ len room, Always (Quiet ok view) (recvExact len room)) (payloadMax : Nat) (h : Host π) :
    (∃ payload h', (recvPacketWith noxtls side recvExact account payloadMax).run h =
        (.ok payload, { h' with trace := h'.trace ++ [(.received payload, h'.self)] }) ∧
      payload.length ≤ payloadMax ∧ Quiet ok view h h') ∨
    (∃ o h', (recvPacketWith noxtls side recvExact account payloadMax).run h = (o, h') ∧
      (∀ payload, o ≠ .ok payload) ∧ Quiet ok view h h') := by
  have quiet : Quiet ok view h ((openWith noxtls side recvExact account payloadMax).run h).2 :=
    always_openWith (quiet_plain ok view) (fun m t => always_log (macs m t)) (fun c => always_modify (counter c))
      (fun n => always_modify (seq n)) (fun n => always_modify (counts n)) reads payloadMax h
  rw [recvPacketWith, bind_run]
  revert quiet
  cases ran : (openWith noxtls side recvExact account payloadMax).run h with
  | mk o h' =>
      intro quiet
      cases o with
      | ok payload => exact .inl ⟨payload, h', rfl, openWith_le ran, quiet⟩
      | err e => exact .inr ⟨.err e, h', rfl, by simp, quiet⟩
      | stuck => exact .inr ⟨.stuck, h', rfl, by simp, quiet⟩

end Quiet

/-! ## What success proves -/

section Success

variable {π : Type} {noxtls : Noxtls} {side : Side π}
  {fillRandom : Nat → Prog π (List UInt8)} {sendAll : List UInt8 → Prog π Unit}
  {writeSealed : List UInt8 → List UInt8 → Prog π Unit} {recvExact : Nat → Nat → Prog π (List UInt8)}
  {account : Nat → π → π}

/-- An encrypted lane that let one more packet pass: the same keys, the next number. -/
structure OneOn (before after : Lane) : Prop where
  encrypted : after.encrypted = true
  seq : after.seq = wrap32 (before.seq + 1)

/-- From `h` to `h'` one MAC was computed: over the lane's number and the padded payload. -/
def MacsOne (side : Side π) (payload : List UInt8) (h h' : Host π) : Prop :=
  OneOn (side.lane h.self) (side.lane h'.self) ∧ ∃ padding mac new,
    4 ≤ padding.length ∧ padding.length < 256 ∧ h'.trace = h.trace ++ new ∧
    pick Event.computed? new = [((side.lane h.self).macMessage (plainPacket payload padding), mac)]

/-- From `h` to `h'` one payload was received, and one MAC accepted: over the lane's number
and the packet the payload is from. -/
def OpensOne (side : Side π) (payloadMax : Nat) (payload : List UInt8) (h h' : Host π) : Prop :=
  OneOn (side.lane h.self) (side.lane h'.self) ∧ ∃ plain mac new,
    unpack payloadMax (plain.drop 4) = some payload ∧ h'.trace = h.trace ++ new ∧
    pick Event.received? new = [payload] ∧
    pick Event.accepted? new = [((side.lane h.self).macMessage plain, mac)]

/-- From `h` to `h'` nothing was received. -/
def OpensNone (h h' : Host π) : Prop := ∃ new, h'.trace = h.trace ++ new ∧ pick Event.received? new = []

/-- From `h`, `recv` returns a payload whose packet was accepted, or returns nothing. -/
def Opens (side : Side π) (payloadMax : Nat) (recv : Prog π (List UInt8)) (h : Host π) : Prop :=
  (∃ payload h', recv.run h = (.ok payload, h') ∧ OpensOne side payloadMax payload h h') ∨
  (∃ o h', recv.run h = (o, h') ∧ (∀ payload, o ≠ .ok payload) ∧ OpensNone h h')

/-- A successful send under encryption computed one MAC. -/
theorem sendPacketWith_ok (counts : ∀ n p, side.lane (account n p) = side.lane p)
    (fills : ∀ n h h' padding, (fillRandom n).run h = (.ok padding, h') →
      padding.length = n ∧ h'.self = h.self ∧ h'.trace = h.trace)
    (writes : ∀ enc mac h h', (writeSealed enc mac).run h = (.ok (), h') →
      h'.self = h.self ∧ ∃ new, h'.trace = h.trace ++ new ∧ pick Event.computed? new = [])
    {h h' : Host π} {payload : List UInt8} (encrypted : (side.lane h.self).encrypted = true)
    (ran : (sendPacketWith noxtls side fillRandom sendAll writeSealed account payload).run h = (.ok (), h')) :
    MacsOne side payload h h' := by
  rw [sendPacketWith, self_bind_run] at ran
  obtain ⟨-, ran⟩ := ensure_bind_inv ran
  obtain ⟨padding, h₁, filled, ran⟩ := bind_inv ran
  obtain ⟨length, self₁, trace₁⟩ := fills _ _ _ _ filled
  obtain ⟨four, nineteen, -⟩ := paddingLen_spec (side.lane h.self).encrypted payload.length
  rw [← length] at four nineteen
  rw [if_pos encrypted] at ran
  obtain ⟨mac, -, ran⟩ := lift_bind_inv ran
  rw [log_bind_run] at ran
  obtain ⟨enc, -, ran⟩ := lift_bind_inv ran
  rw [modify_bind_run] at ran
  obtain ⟨_, h₂, wrote, ran⟩ := failAs_bind_inv ran
  obtain ⟨self₂, new, trace₂, silent⟩ := writes _ _ _ _ wrote
  rw [modify_bind_run, modify_run] at ran
  obtain ⟨-, rfl⟩ := Prod.mk.inj ran
  dsimp only at self₂ trace₂ ⊢
  have lane : side.lane (side.bumpSeq h₂.self) =
      { side.lane h₂.self with seq := wrap32 ((side.lane h₂.self).seq + 1) } := side.lane_setSeq _ _
  refine ⟨⟨?_, ?_⟩, padding, mac,
    [(.macComputed ((side.lane h.self).macMessage (plainPacket payload padding)) mac, h₁.self)] ++ new,
    four, by omega, ?_, ?_⟩
  · rw [counts, lane, self₂, side.lane_setCounter, self₁]
    exact encrypted
  · rw [counts, lane, self₂, side.lane_setCounter, self₁]
  · rw [trace₂, trace₁, List.append_assoc]
  · rw [pick_append, silent, pick_single]
    rfl

theorem Took.self {rest : List UInt8} {h h' : Host π} (took : Took rest h h') : h'.self = h.self := by
  obtain ⟨_, _, rfl, -⟩ := took
  rfl

/-- Reading accepts no MAC. -/
theorem Took.unaccepted {rest : List UInt8} {h h' : Host π} (took : Took rest h h') :
    ∃ new, h'.trace = h.trace ++ new ∧ pick Event.accepted? new = [] := by
  obtain ⟨_, new, rfl, calls⟩ := took
  refine ⟨new, rfl, pick_eq_nil fun e he => ?_⟩
  obtain ⟨-, looked, is⟩ := calls e he
  rw [is]
  rfl

/-- A packet opened under encryption had its MAC accepted over the receiver's own
sequence number. -/
theorem openWith_ok (counts : ∀ n p, side.lane (account n p) = side.lane p)
    (takes : ∀ len room h h' got, (recvExact len room).run h = (.ok got, h') → Took h'.inbox h h')
    {h h' : Host π} {payloadMax : Nat} {payload : List UInt8}
    (encrypted : (side.lane h.self).encrypted = true)
    (ran : (openWith noxtls side recvExact account payloadMax).run h = (.ok payload, h')) :
    OneOn (side.lane h.self) (side.lane h'.self) ∧ ∃ plain mac new,
      unpack payloadMax (plain.drop 4) = some payload ∧ h'.trace = h.trace ++ new ∧
      pick Event.accepted? new = [((side.lane h.self).macMessage plain, mac)] := by
  rw [openWith, self_bind_run, if_pos encrypted] at ran
  obtain ⟨first, h₁, got₁, ran⟩ := failAs_bind_inv ran
  have took₁ := takes _ _ _ _ _ got₁
  rw [self_bind_run] at ran
  obtain ⟨head, -, ran⟩ := lift_bind_inv ran
  rw [modify_bind_run] at ran
  obtain ⟨-, ran⟩ := ensure_bind_inv ran
  obtain ⟨rest, h₂, got₂, ran⟩ := failAs_bind_inv ran
  have took₂ := takes _ _ _ _ _ got₂
  rw [self_bind_run] at ran
  obtain ⟨tail, -, ran⟩ := lift_bind_inv ran
  rw [modify_bind_run] at ran
  obtain ⟨mac, h₃, got₃, ran⟩ := failAs_bind_inv ran
  have took₃ := takes _ _ _ _ _ got₃
  rw [self_bind_run] at ran
  obtain ⟨computed, -, ran⟩ := lift_bind_inv ran
  obtain ⟨-, ran⟩ := ensure_bind_inv ran
  rw [log_bind_run, modify_bind_run, modify_bind_run] at ran
  obtain ⟨unpacks, rfl⟩ := lift_inv ran
  -- nothing but the counter changed on the way to the MAC
  have lane₃ : side.lane h₃.self = { side.lane h.self with counter := (side.lane h₃.self).counter } := by
    rw [took₃.self, side.lane_setCounter, took₂.self, side.lane_setCounter, took₁.self]
  obtain ⟨new₁, grown₁, silent₁⟩ := took₁.unaccepted
  obtain ⟨new₂, grown₂, silent₂⟩ := took₂.unaccepted
  obtain ⟨new₃, grown₃, silent₃⟩ := took₃.unaccepted
  have trace₃ : h₃.trace = h.trace ++ (new₁ ++ new₂ ++ new₃) := by
    rw [grown₃, grown₂, grown₁]
    simp only [List.append_assoc]
  have silent : pick Event.accepted? (new₁ ++ new₂ ++ new₃) = [] := by
    rw [pick_append, pick_append, silent₁, silent₂, silent₃]
    rfl
  have seq₃ : (side.lane h₃.self).seq = (side.lane h.self).seq := by rw [lane₃]
  have lane : side.lane (side.bumpSeq h₃.self) =
      { side.lane h₃.self with seq := wrap32 ((side.lane h₃.self).seq + 1) } := side.lane_setSeq _ _
  dsimp only
  refine ⟨⟨?_, ?_⟩, head ++ tail, mac,
    new₁ ++ new₂ ++ new₃ ++ [(.macAccepted ((side.lane h₃.self).macMessage (head ++ tail)) mac, h₃.self)], unpacks, ?_, ?_⟩
  · rw [counts, lane, lane₃]
    exact encrypted
  · rw [counts, lane, seq₃]
  · rw [trace₃, List.append_assoc]
  · rw [pick_append, silent, pick_single]
    simp only [Event.accepted?, Lane.macMessage, seq₃, Option.toList, List.nil_append]

/-- Whatever the network delivers under encryption. -/
theorem recvPacketWith_any (counts : ∀ n p, side.lane (account n p) = side.lane p)
    (takes : ∀ len room h h' got, (recvExact len room).run h = (.ok got, h') → Took h'.inbox h h')
    (reads : ∀ len room, Always (Quiet (fun e => e.received? = none) fun _ => ()) (recvExact len room))
    {h : Host π} {payloadMax : Nat} (encrypted : (side.lane h.self).encrypted = true) :
    Opens side payloadMax (recvPacketWith noxtls side recvExact account payloadMax) h := by
  have quiet : Always (Quiet (fun e => e.received? = none) fun _ => ())
      (openWith noxtls side recvExact account payloadMax) := by
    refine always_openWith (quiet_plain _ _) (fun _ _ => always_log rfl) ?_ ?_ ?_ reads payloadMax
    all_goals exact fun _ => always_modify fun _ => rfl
  obtain ⟨-, new, grown, silent⟩ := (quiet h).silent
  rw [Opens, recvPacketWith, bind_run]
  revert grown
  cases ran : (openWith noxtls side recvExact account payloadMax).run h with
  | mk o h' =>
      intro grown
      dsimp only at grown
      cases o with
      | ok payload =>
          obtain ⟨oneOn, plain, mac, new', unpacks, grown', accepted⟩ :=
            openWith_ok counts takes encrypted ran
          obtain rfl : new = new' := List.append_cancel_left (grown.symm.trans grown')
          refine .inl ⟨payload, _, rfl, oneOn, plain, mac, new ++ [(.received payload, h'.self)], unpacks,
            ?_, ?_, ?_⟩
          · dsimp only
            rw [grown, List.append_assoc]
          · rw [pick_append, silent, pick_single]
            rfl
          · rw [pick_append, accepted, pick_single]
            rfl
      | err e => exact .inr ⟨.err e, h', rfl, by simp, new, grown, silent⟩
      | stuck => exact .inr ⟨.stuck, h', rfl, by simp, new, grown, silent⟩

end Success

end NoxSsh.Transport
