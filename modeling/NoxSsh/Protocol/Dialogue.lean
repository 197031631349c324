/-
# Protocol.Dialogue — what a live party says and hears

A party is `Awaiting` payloads if they are on their way to it, sealed in a lane that
its receiving lane is in step with.  It has `Said` payloads if it put them on the wire
as frames sealed in its sending lane.  What one party said is what its peer awaits,
so a statement about each party's half of a dialogue is a statement about both.

Sending and receiving touch nothing of a context but its lanes, and of a server's its
deadlines and byte counts (`core`).
-/
import NoxSsh.Client.Kex
import NoxSsh.Server.Serve

namespace NoxSsh.Protocol

open Theory Proc Wire Transport

set_option autoImplicit false

/-! ## Saying and hearing -/

section Sides

variable {π : Type}

/-- These payloads, and behind them `rest`, are on the way to the party; they end in the lane `last`. -/
structure Awaiting (noxtls : Noxtls) (out into : Side π) (last : Lane) (payloads : List (List UInt8))
    (rest : List UInt8) (h : Host π) : Prop where
  block : HasBlock (out.lane h.self)
  sealed : ∃ sender frames, Sealed noxtls sender payloads frames last ∧ InStep sender (into.lane h.self) ∧
    h.inbox = frames.flatten ++ rest

/-- From `h` to `h'` the party put these payloads on the wire, sealed in its sending lane. -/
def Said (noxtls : Noxtls) (out : Side π) (payloads : List (List UInt8)) (h h' : Host π) : Prop :=
  ∃ frames new, Sealed noxtls (out.lane h.self) payloads frames (out.lane h'.self) ∧ h'.trace = h.trace ++ new ∧
    wireOf new = frames.flatten

theorem sealed_append {noxtls : Noxtls} {lane middle last : Lane} {payloads more frames frames' : List (List UInt8)}
    (first : Sealed noxtls lane payloads frames middle) (second : Sealed noxtls middle more frames' last) :
    Sealed noxtls lane (payloads ++ more) (frames ++ frames') last := by
  induction first with
  | nil => exact second
  | cons small length seals _ ih => exact .cons small length seals (ih second)

variable {noxtls : Noxtls} {out into : Side π} {h h' h'' : Host π} {payloads more : List (List UInt8)}

theorem Said.trans (first : Said noxtls out payloads h h') (second : Said noxtls out more h' h'') :
    Said noxtls out (payloads ++ more) h h'' := by
  obtain ⟨frames, new, sealed, grown, wire⟩ := first
  obtain ⟨frames', new', sealed', grown', wire'⟩ := second
  refine ⟨frames ++ frames', new ++ new', sealed_append sealed sealed', by rw [grown', grown, List.append_assoc], ?_⟩
  rw [wireOf_append, wire, wire', List.flatten_append]

/-- Nothing went out and the sending lane is the same. -/
theorem said_nothing (same : out.lane h'.self = out.lane h.self) {new : List (Event × π)}
    (grown : h'.trace = h.trace ++ new) (silent : wireOf new = []) : Said noxtls out [] h h' :=
  ⟨[], new, same ▸ .nil _, grown, silent⟩

theorem Moved.said {rest : List UInt8} {p : π} (moved : Moved [] rest p h h') (same : out.lane p = out.lane h.self) :
    Said noxtls out [] h h' := by
  obtain ⟨new, grown, wire⟩ := moved.grown
  exact said_nothing (by rw [moved.self, same]) grown wire

end Sides

/-! ## A leg of a dialogue -/

section Legs

variable {π : Type}

/-- From `h` to `h'` the party said these payloads; `left` is still on the way to it, and its
context is `p` but for what packets change. -/
structure Leg (noxtls : Noxtls) (out into : Side π) (core : π → π) (said : List (List UInt8)) (last : Lane)
    (left : List (List UInt8)) (rest : List UInt8) (p : π) (h h' : Host π) : Prop where
  said : Said noxtls out said h h'
  awaiting : Awaiting noxtls out into last left rest h'
  same : core h'.self = core p

/-- An update of a context that packets do not see, and that does not see packets. -/
structure Apart (out into : Side π) (core f : π → π) : Prop where
  out : ∀ p, out.lane (f p) = out.lane p
  into : ∀ p, into.lane (f p) = into.lane p
  passes : ∀ p, core (f p) = core (f (core p))

variable {noxtls : Noxtls} {out into : Side π} {core : π → π} {said more left left' : List (List UInt8)}
  {last last' : Lane} {rest rest' : List UInt8} {p q : π} {h h' h'' : Host π}

theorem Leg.start (awaiting : Awaiting noxtls out into last left rest h) (same : core h.self = core p) :
    Leg noxtls out into core [] last left rest p h h :=
  ⟨said_nothing rfl (List.append_nil _).symm rfl, awaiting, same⟩

theorem Leg.then (first : Leg noxtls out into core said last left rest p h h')
    (second : Leg noxtls out into core more last' left' rest' h'.self h' h'') :
    Leg noxtls out into core (said ++ more) last' left' rest' p h h'' :=
  ⟨first.said.trans second.said, second.awaiting, second.same.trans first.same⟩

/-- A step that moves no bytes. -/
theorem Leg.step (leg : Leg noxtls out into core said last left rest p h h') (inbox : h''.inbox = h'.inbox)
    {new : List (Event × π)} (grown : h''.trace = h'.trace ++ new) (silent : wireOf new = [])
    (outLane : out.lane h''.self = out.lane h'.self) (intoLane : into.lane h''.self = into.lane h'.self)
    (same : core h''.self = core q) : Leg noxtls out into core said last left rest q h h'' := by
  obtain ⟨block, sender, frames, sealed, step, is⟩ := leg.awaiting
  refine ⟨?_, ⟨by rwa [outLane], sender, frames, sealed, by rwa [intoLane], inbox.trans is⟩, same⟩
  have whole := leg.said.trans (said_nothing outLane grown silent)
  rwa [List.append_nil] at whole

theorem Leg.modified (leg : Leg noxtls out into core said last left rest p h h') {f : π → π}
    (apart : Apart out into core f) :
    Leg noxtls out into core said last left rest (f p) h { h' with self := f h'.self } := by
  have same : core (f h'.self) = core (f p) := by rw [apart.passes, leg.same, ← apart.passes]
  have inbox : ({ h' with self := f h'.self } : Host π).inbox = h'.inbox := rfl
  exact leg.step inbox (List.append_nil _).symm rfl (apart.out _) (apart.into _) same

theorem Leg.logged (leg : Leg noxtls out into core said last left rest p h h') {e : Event} (silent : e.wireBytes = []) :
    Leg noxtls out into core said last left rest p h { h' with trace := h'.trace ++ [(e, h'.self)] } :=
  leg.step rfl rfl (by rw [wireOf_single, silent]) rfl rfl leg.same

theorem Leg.asked (leg : Leg noxtls out into core said last left rest p h h') :
    Leg noxtls out into core said last left rest p h { h' with tick := h'.tick + 1 } :=
  leg.step rfl (List.append_nil _).symm rfl rfl rfl leg.same

section Steps

variable {α : Type} {late : Host π → Prop} {Q : α → Host π → Prop} {k : Unit → Prog π α}

theorem log_leg (leg : Leg noxtls out into core said last left rest p h h') {e : Event} (silent : e.wireBytes = [])
    (more : ∀ h'', Leg noxtls out into core said last left rest p h h'' → Returns late (k ()) Q h'') :
    Returns late (log e >>= k) Q h' := more _ (leg.logged silent)

theorem modify_leg (leg : Leg noxtls out into core said last left rest p h h') {f : π → π} (apart : Apart out into core f)
    (more : ∀ h'', Leg noxtls out into core said last left rest (f p) h h'' → Returns late (k ()) Q h'') :
    Returns late (modify f >>= k) Q h' := more _ (leg.modified apart)

end Steps

end Legs

end NoxSsh.Protocol

/-! ## The client -/

namespace NoxSsh.Client

open Theory Proc Wire Transport Protocol

/-- The context without its lanes' counters. -/
def core (c : Client) : Client := { c with c2sCounter := [], s2cCounter := [], sendSeq := 0, recvSeq := 0 }

@[simp] theorem core_sendStep (n : Nat) (c : Client) : core (sendSide.step uncounted n c) = core c := by
  unfold Side.step
  split <;> rfl

@[simp] theorem core_recvStep (n : Nat) (c : Client) : core (recvSide.step uncounted n c) = core c := by
  unfold Side.step
  split <;> rfl

@[simp] theorem sendLane_recvStep (n : Nat) (c : Client) :
    sendSide.lane (recvSide.step uncounted n c) = sendSide.lane c := by
  unfold Side.step
  split <;> rfl

@[simp] theorem recvLane_sendStep (n : Nat) (c : Client) :
    recvSide.lane (sendSide.step uncounted n c) = recvSide.lane c := by
  unfold Side.step
  split <;> rfl

/-- What the core shows is the same if the core is. -/
theorem eq_of_core {γ : Type} {view : Client → γ} (shown : ∀ c, view (core c) = view c) {c c' : Client}
    (same : core c' = core c) : view c' = view c := by
  rw [← shown c', same, shown]

abbrev Awaiting (noxtls : Noxtls) := Protocol.Awaiting noxtls sendSide recvSide

abbrev Said (noxtls : Noxtls) := Protocol.Said noxtls sendSide

abbrev Leg (noxtls : Noxtls) := Protocol.Leg noxtls sendSide recvSide core

abbrev Apart := Protocol.Apart sendSide recvSide core

section Live

variable {noxtls : Noxtls} {env : Env} {last : Lane} {payloads : List (List UInt8)} {rest : List UInt8} {h h' : Host Client}

/-- What is awaited does not change if lanes and inbox do not. -/
theorem Awaiting.keep (awaiting : Awaiting noxtls last payloads rest h) (inbox : h'.inbox = h.inbox)
    (sendLane : sendSide.lane h'.self = sendSide.lane h.self) (recvLane : recvSide.lane h'.self = recvSide.lane h.self) :
    Awaiting noxtls last payloads rest h' := by
  obtain ⟨block, sender, frames, sealed, step, is⟩ := awaiting
  exact ⟨by rwa [sendLane], sender, frames, sealed, by rwa [recvLane], inbox.trans is⟩

/-- A payload is said, and what is awaited is awaited still. -/
theorem says_live (sha : noxtls.shaInit = true) (ctr : CtrMode noxtls) (live : Live env) {payload : List UInt8}
    (nonempty : payload ≠ []) (small : payload.length ≤ 34980) (awaiting : Awaiting noxtls last payloads rest h) :
    Returns Late (sendPacket noxtls env payload) (fun _ h' => Said noxtls [payload] h h' ∧
      Awaiting noxtls last payloads rest h' ∧ core h'.self = core h.self) h := by
  apply (sendPacket_live sha ctr live.send nonempty small awaiting.block).mono
  rintro _ h' ⟨padding, bytes, sent⟩
  have lane := sendSide.lane_step uncounted (fun _ _ => rfl) (plainPacket payload padding).length h.self
  rw [← sent.moved.self] at lane
  obtain ⟨new, grown, wire⟩ := sent.moved.grown
  refine ⟨⟨[bytes], new, ?_, grown, by simpa using wire⟩, ?_, by rw [sent.moved.self, core_sendStep]⟩
  · exact .cons small sent.length sent.seals (lane ▸ .nil _)
  · obtain ⟨block, sender, frames, sealed, step, inbox⟩ := awaiting
    refine ⟨lane ▸ block.after _, sender, frames, sealed, ?_, sent.moved.inbox.trans inbox⟩
    rw [sent.moved.self, recvLane_sendStep]
    exact step

/-- The first of the payloads on the way is received. -/
theorem hears_live (ctr : CtrMode noxtls) (live : Live env) {payload : List UInt8} {payloadMax : Nat}
    (fits : payload.length ≤ payloadMax) (awaiting : Awaiting noxtls last (payload :: payloads) rest h) :
    Returns Late (recvInto noxtls env payloadMax) (fun got h' => (∃ stale, got = (payload, memOf payload stale)) ∧
      Said noxtls [] h h' ∧ Awaiting noxtls last payloads rest h' ∧ core h'.self = core h.self) h := by
  obtain ⟨block, sender, frames, sealed, step, inbox⟩ := awaiting
  cases sealed with
  | @cons _ _ _ padding bytes _ frames small length seals later =>
      have next : h.inbox = bytes ++ (frames.flatten ++ rest) := by
        rw [inbox, List.flatten_cons, List.append_assoc]
      apply (recvPacket_live ctr live.recv step small fits length seals next).bind
      rintro got h₁ ⟨is, moved⟩
      rw [is]
      have lane := recvSide.lane_step uncounted (fun _ _ => rfl) (plainPacket payload padding).length h.self
      rw [← moved.self] at lane
      apply returns_of_run (show _ = (_, { h₁ with tick := h₁.tick + 1 }) from rfl)
      refine ⟨⟨_, rfl⟩, ?_, ⟨?_, _, frames, later, ?_, moved.inbox⟩, ?_⟩
      · obtain ⟨new, grown, wire⟩ := moved.grown
        exact said_nothing (by rw [moved.self, sendLane_recvStep]) grown wire
      · rw [moved.self, sendLane_recvStep]
        exact block
      · rw [lane]
        exact step.after _
      · rw [moved.self, core_recvStep]

/-- A message that is waited for, and stands first among the payloads on the way. -/
theorem waits_live (ctr : CtrMode noxtls) (live : Live env) {payload : List UInt8} {number a b : UInt8} {outMax : Nat}
    (heads : payload.head? = some number) (expected : number = a ∨ number = b) (other : number ≠ 20)
    (fits : payload.length ≤ outMax) (short : outMax ≤ maxPacketLen)
    (awaiting : Awaiting noxtls last (payload :: payloads) rest h) :
    Returns Late (waitForMessage noxtls env a b outMax) (fun got h' =>
      (∃ stale, got = (payload, memOf payload stale)) ∧ Said noxtls [] h h' ∧ Awaiting noxtls last payloads rest h' ∧
      core h'.self = core h.self) h := by
  have loop : ∀ handle turns, Returns Late (waitLoop noxtls env handle a b outMax (turns + 1)) (fun got h' =>
      (∃ stale, got = (payload, memOf payload stale)) ∧ Said noxtls [] h h' ∧ Awaiting noxtls last payloads rest h' ∧
      core h'.self = core h.self) h := by
    intro handle turns
    rw [waitLoop]
    apply ((hears_live ctr live (by omega) awaiting).failAs _).bind
    rintro _ h₁ ⟨⟨stale, rfl⟩, said, awaiting₁, same⟩
    dsimp only
    rw [heads]
    dsimp only
    rw [if_neg other, if_pos expected]
    apply returns_ensure_bind fits
    apply returns_of_run (show _ = (_, { h₁ with tick := h₁.tick + 1 }) from rfl)
    exact ⟨⟨_, rfl⟩, said, awaiting₁.keep rfl rfl rfl, same⟩
  have turns : (waitForMessage noxtls env a b outMax).run h =
      (waitNested noxtls env (h.inbox.length + 1) a b outMax).run h := rfl
  have nested : waitNested noxtls env (h.inbox.length + 1) a b outMax =
      waitLoop noxtls env (handleWith noxtls env (performWith noxtls env (waitNested noxtls env h.inbox.length))) a b outMax
        (31 + 1) := rfl
  rw [Returns, turns, nested]
  exact loop _ 31

end Live

section Legs

variable {noxtls : Noxtls} {env : Env} {said left : List (List UInt8)} {payload : List UInt8} {last : Lane}
  {rest : List UInt8} {c : Client} {h h' : Host Client}

theorem says_leg (sha : noxtls.shaInit = true) (ctr : CtrMode noxtls) (live : Live env) (nonempty : payload ≠ [])
    (small : payload.length ≤ 34980) (leg : Leg noxtls said last left rest c h h') :
    Returns Late (sendPacket noxtls env payload)
      (fun _ h'' => Leg noxtls (said ++ [payload]) last left rest c h h'') h' :=
  (says_live sha ctr live nonempty small leg.awaiting).mono
    fun _ _ ⟨said, awaiting, same⟩ => leg.then ⟨said, awaiting, same⟩

theorem hears_leg (ctr : CtrMode noxtls) (live : Live env) {payloadMax : Nat} (fits : payload.length ≤ payloadMax)
    (leg : Leg noxtls said last (payload :: left) rest c h h') :
    Returns Late (recvInto noxtls env payloadMax) (fun got h'' => (∃ stale, got = (payload, memOf payload stale)) ∧
      Leg noxtls said last left rest c h h'') h' := by
  apply (hears_live ctr live fits leg.awaiting).mono
  rintro _ h'' ⟨is, silent, awaiting, same⟩
  have whole := leg.then ⟨silent, awaiting, same⟩
  rw [List.append_nil] at whole
  exact ⟨is, whole⟩

theorem waits_leg (ctr : CtrMode noxtls) (live : Live env) {number a b : UInt8} {outMax : Nat}
    (heads : payload.head? = some number) (expected : number = a ∨ number = b) (other : number ≠ 20)
    (fits : payload.length ≤ outMax) (short : outMax ≤ maxPacketLen)
    (leg : Leg noxtls said last (payload :: left) rest c h h') :
    Returns Late (waitForMessage noxtls env a b outMax) (fun got h'' => (∃ stale, got = (payload, memOf payload stale)) ∧
      Leg noxtls said last left rest c h h'') h' := by
  apply (waits_live ctr live heads expected other fits short leg.awaiting).mono
  rintro _ h'' ⟨is, silent, awaiting, same⟩
  have whole := leg.then ⟨silent, awaiting, same⟩
  rw [List.append_nil] at whole
  exact ⟨is, whole⟩

end Legs

end NoxSsh.Client

/-! ## The server -/

namespace NoxSsh.Server

open Theory Proc Wire Transport Protocol

/-- The context without its lanes' counters, its packet deadlines and its byte counts. -/
def core (s : Server) : Server :=
  { s with
    c2sCounter := []
    s2cCounter := []
    sendSeq := 0
    recvSeq := 0
    packetDeadlineMs := 0
    sendDeadlineMs := 0
    encryptedBytesSent := 0
    encryptedBytesRecv := 0 }

@[simp] theorem core_sendStep (n now : Nat) (s : Server) : core (sendSide.step countSent n (armSend now s)) = core s := by
  obtain ⟨deadline, is⟩ := armSend_is now s
  rw [is]
  unfold Side.step
  split <;> rfl

@[simp] theorem core_recvStep (n now : Nat) (s : Server) : core (recvSide.step countRecv n (armRecv now s)) = core s := by
  obtain ⟨deadline, is⟩ := armRecv_is now s
  rw [is]
  unfold Side.step
  split <;> rfl

@[simp] theorem sendLane_recvStep (n now : Nat) (s : Server) :
    sendSide.lane (recvSide.step countRecv n (armRecv now s)) = sendSide.lane s := by
  obtain ⟨deadline, is⟩ := armRecv_is now s
  rw [is]
  unfold Side.step
  split <;> rfl

@[simp] theorem recvLane_sendStep (n now : Nat) (s : Server) :
    recvSide.lane (sendSide.step countSent n (armSend now s)) = recvSide.lane s := by
  obtain ⟨deadline, is⟩ := armSend_is now s
  rw [is]
  unfold Side.step
  split <;> rfl

/-- What the core shows is the same if the core is. -/
theorem eq_of_core {γ : Type} {view : Server → γ} (shown : ∀ s, view (core s) = view s) {s s' : Server}
    (same : core s' = core s) : view s' = view s := by
  rw [← shown s', same, shown]

abbrev Awaiting (noxtls : Noxtls) := Protocol.Awaiting noxtls sendSide recvSide

abbrev Said (noxtls : Noxtls) := Protocol.Said noxtls sendSide

abbrev Leg (noxtls : Noxtls) := Protocol.Leg noxtls sendSide recvSide core

abbrev Apart := Protocol.Apart sendSide recvSide core

/-- What ends a connection besides its packets: a deadline, or the rekey limit. -/
def Spent (h : Host Server) : Prop := Late h ∨ rekeyDue h.self = true

section Live

variable {noxtls : Noxtls} {env : Env} {last : Lane} {payloads : List (List UInt8)} {rest : List UInt8} {h h' : Host Server}

theorem Awaiting.keep (awaiting : Awaiting noxtls last payloads rest h) (inbox : h'.inbox = h.inbox)
    (sendLane : sendSide.lane h'.self = sendSide.lane h.self) (recvLane : recvSide.lane h'.self = recvSide.lane h.self) :
    Awaiting noxtls last payloads rest h' := by
  obtain ⟨block, sender, frames, sealed, step, is⟩ := awaiting
  exact ⟨by rwa [sendLane], sender, frames, sealed, by rwa [recvLane], inbox.trans is⟩

/-- A payload is said in time, and what is awaited is awaited still. -/
theorem speaks_live (sha : noxtls.shaInit = true) (ctr : CtrMode noxtls) (live : Live env) {payload : List UInt8}
    (nonempty : payload ≠ []) (small : payload.length ≤ 34980) (awaiting : Awaiting noxtls last payloads rest h) :
    Returns Late (sendPacket noxtls env payload) (fun _ h' => Said noxtls [payload] h h' ∧
      Awaiting noxtls last payloads rest h' ∧ core h'.self = core h.self) h := by
  apply (sendPacket_live sha ctr live.send live.random nonempty small awaiting.block).mono
  rintro _ h' ⟨padding, bytes, now, length, seals, moved⟩
  have lane := sendSide.lane_step countSent (fun _ _ => rfl) (plainPacket payload padding).length (armSend now h.self)
  rw [← moved.self, lane_armSend] at lane
  obtain ⟨new, grown, wire⟩ := moved.grown
  refine ⟨⟨[bytes], new, ?_, grown, by simpa using wire⟩, ?_, by rw [moved.self, core_sendStep]⟩
  · exact .cons small length seals (lane ▸ .nil _)
  · obtain ⟨block, sender, frames, sealed, step, inbox⟩ := awaiting
    refine ⟨lane ▸ block.after _, sender, frames, sealed, ?_, moved.inbox.trans inbox⟩
    rw [moved.self, recvLane_sendStep]
    exact step

theorem says_live (sha : noxtls.shaInit = true) (ctr : CtrMode noxtls) (live : Live env) {payload : List UInt8}
    (nonempty : payload ≠ []) (small : payload.length ≤ 34980) (awaiting : Awaiting noxtls last payloads rest h) :
    Returns Spent (sendPacket noxtls env payload) (fun _ h' => Said noxtls [payload] h h' ∧
      Awaiting noxtls last payloads rest h' ∧ core h'.self = core h.self) h :=
  (speaks_live sha ctr live nonempty small awaiting).excused fun _ => .inl

theorem hears_live (ctr : CtrMode noxtls) (live : Live env) {payload : List UInt8} {payloadMax : Nat}
    (fits : payload.length ≤ payloadMax) (awaiting : Awaiting noxtls last (payload :: payloads) rest h) :
    Returns Late (recvInto noxtls env payloadMax) (fun got h' => (∃ stale, got = (payload, memOf payload stale)) ∧
      Said noxtls [] h h' ∧ Awaiting noxtls last payloads rest h' ∧ core h'.self = core h.self) h := by
  obtain ⟨block, sender, frames, sealed, step, inbox⟩ := awaiting
  cases sealed with
  | @cons _ _ _ padding bytes _ frames small length seals later =>
      have next : h.inbox = bytes ++ (frames.flatten ++ rest) := by
        rw [inbox, List.flatten_cons, List.append_assoc]
      apply (recvPacket_live ctr live.recv step small fits length seals next).bind
      rintro got h₁ ⟨is, now, moved⟩
      rw [is]
      have lane := recvSide.lane_step countRecv (fun _ _ => rfl) (plainPacket payload padding).length
        (armRecv now h.self)
      rw [← moved.self, lane_armRecv] at lane
      apply returns_of_run (show _ = (_, { h₁ with tick := h₁.tick + 1 }) from rfl)
      refine ⟨⟨_, rfl⟩, ?_, ⟨?_, _, frames, later, ?_, moved.inbox⟩, ?_⟩
      · obtain ⟨new, grown, wire⟩ := moved.grown
        exact said_nothing (by rw [moved.self, sendLane_recvStep]) grown wire
      · rw [moved.self, sendLane_recvStep]
        exact block
      · rw [lane]
        exact step.after _
      · rw [moved.self, core_recvStep]

/-- What the loop does after a turn. -/
def proceed (noxtls : Noxtls) (env : Env) (sessionTurns turns : Nat) : Next → Prog Server Unit
  | .done => pure ()
  | .again closeDeadlineMs => serveLoop noxtls env sessionTurns turns closeDeadlineMs

/-- A turn of the dispatch loop on the first of the payloads on the way: it runs as the
handler of that payload. -/
theorem turn_live (ctr : CtrMode noxtls) (live : Live env) {payload : List UInt8} (nonempty : payload ≠ [])
    (fits : payload.length ≤ maxPacketLen) {sessionTurns turns : Nat} {next : Prog Server Unit} {Q : Host Server → Prop}
    (awaiting : Awaiting noxtls last (payload :: payloads) rest h)
    (handled : ∀ stale h₁, Said noxtls [] h h₁ → Awaiting noxtls last payloads rest h₁ → core h₁.self = core h.self →
      Continues Spent (dispatch noxtls env sessionTurns 0 payload (memOf payload stale) >>=
        proceed noxtls env sessionTurns turns) next Q h₁) :
    Continues Spent (serveLoop noxtls env sessionTurns (turns + 1) 0) next Q h := by
  rw [serveLoop]
  apply continues_of_run (log_bind_run h _ _)
  have served : Said noxtls [] h { h with trace := h.trace ++ [(.serving 0, h.self)] } := said_nothing rfl rfl rfl
  have awaiting₀ : Awaiting noxtls last (payload :: payloads) rest { h with trace := h.trace ++ [(.serving 0, h.self)] } :=
    awaiting.keep rfl rfl rfl
  show Continues Spent (serveTurn noxtls env sessionTurns 0 >>= _) next Q _
  rw [serveTurn, bind_assoc_run]
  have hears : Returns Spent (recvInto noxtls env maxPacketLen) _ _ := (hears_live ctr live fits awaiting₀).excused fun _ => .inl
  apply hears.attempt_continues
  · rintro _ h₁ ⟨⟨stale, rfl⟩, said, awaiting₁, same⟩
    dsimp only
    rw [if_neg nonempty, bind_assoc_run]
    apply continues_of_run (self_bind_run h₁ _)
    rw [bind_assoc_run]
    by_cases due : rekeyDue h₁.self = true
    · right
      rw [ensure_bind_neg (by simp [due])]
      exact .inr due
    · apply continues_ensure_bind (by simpa using due)
      exact handled stale h₁ (served.trans said) awaiting₁ same
  · exact fun _ => id

/-- A handler that comes back, and the next turn. -/
theorem goOn_live {handler : Prog Server Unit} {P : Host Server → Prop} {sessionTurns turns closeDeadlineMs : Nat}
    (returns : Returns Spent handler (fun _ => P) h) :
    Continues Spent (goOn closeDeadlineMs handler >>= proceed noxtls env sessionTurns turns)
      (serveLoop noxtls env sessionTurns turns closeDeadlineMs) P h := by
  rw [goOn, bind_assoc_run]
  apply returns.continues
  intro _ s' post
  exact continues_here post

end Live

section Legs

variable {noxtls : Noxtls} {env : Env} {said left : List (List UInt8)} {payload : List UInt8} {last : Lane}
  {rest : List UInt8} {s : Server} {h h' : Host Server}

theorem says_leg (sha : noxtls.shaInit = true) (ctr : CtrMode noxtls) (live : Live env) (nonempty : payload ≠ [])
    (small : payload.length ≤ 34980) (leg : Leg noxtls said last left rest s h h') :
    Returns Late (sendPacket noxtls env payload)
      (fun _ h'' => Leg noxtls (said ++ [payload]) last left rest s h h'') h' :=
  (speaks_live sha ctr live nonempty small leg.awaiting).mono
    fun _ _ ⟨said, awaiting, same⟩ => leg.then ⟨said, awaiting, same⟩

theorem hears_leg (ctr : CtrMode noxtls) (live : Live env) {payloadMax : Nat} (fits : payload.length ≤ payloadMax)
    (leg : Leg noxtls said last (payload :: left) rest s h h') :
    Returns Late (recvInto noxtls env payloadMax) (fun got h'' => (∃ stale, got = (payload, memOf payload stale)) ∧
      Leg noxtls said last left rest s h h'') h' := by
  apply (hears_live ctr live fits leg.awaiting).mono
  rintro _ h'' ⟨is, silent, awaiting, same⟩
  have whole := leg.then ⟨silent, awaiting, same⟩
  rw [List.append_nil] at whole
  exact ⟨is, whole⟩

end Legs

end NoxSsh.Server

/-! ## Two parties in step -/

namespace NoxSsh.Protocol

open Theory Proc Wire Transport

/-- The last lane depends on how long the payloads are, not on their padding. -/
theorem sealed_last {noxtls : Noxtls} {lane last last' : Lane} {payloads frames frames' : List (List UInt8)}
    (one : Sealed noxtls lane payloads frames last) (other : Sealed noxtls lane payloads frames' last') : last = last' := by
  induction one generalizing frames' with
  | nil =>
      cases other
      rfl
  | cons _ length _ _ ih =>
      cases other with
      | cons _ length' _ rest' =>
          apply ih
          rw [length_plainPacket, length, ← length', ← length_plainPacket]
          exact rest'

/-- The two contexts can talk: the lanes are in step both ways. -/
structure Paired (c : Client) (s : Server) : Prop where
  toServer : InStep (Client.sendSide.lane c) (Server.recvSide.lane s)
  toClient : InStep (Server.sendSide.lane s) (Client.recvSide.lane c)

/-- An inbox that begins with these payloads, sealed in the lane, however they are padded. -/
def OnTheWay (noxtls : Noxtls) (lane : Lane) (payloads : List (List UInt8)) (rest inbox : List UInt8) : Prop :=
  ∃ frames last, Sealed noxtls lane payloads frames last ∧ inbox = frames.flatten ++ rest

/-- Any payloads can be, in a cipher lane. -/
theorem onTheWay_sealAll {noxtls : Noxtls} (sha : noxtls.shaInit = true) (ctr : CtrMode noxtls) (rest : List UInt8) :
    ∀ (payloads : List (List UInt8)) (lane : Lane), HasBlock lane → (∀ p ∈ payloads, p.length ≤ 34980) →
      OnTheWay noxtls lane payloads rest (sealAll noxtls lane payloads ++ rest) := by
  intro payloads
  induction payloads with
  | nil => exact fun lane _ _ => ⟨[], lane, .nil lane, rfl⟩
  | cons payload payloads ih =>
      intro lane block small
      obtain ⟨bytes, seals⟩ : ∃ bytes, sealPacket noxtls lane (plainPacket payload (zeros (paddingLen lane.encrypted
          payload.length))) = some bytes := by
        unfold sealPacket
        split
        · rename_i encrypted
          obtain ⟨stream, law⟩ := id ctr
          rw [law _ _ _ (block encrypted)]
          simp [hmacSha256, sha]
        · exact ⟨_, rfl⟩
      obtain ⟨frames, last, sealed, is⟩ := ih (lane.after _) (block.after _) fun p hp =>
        small p (List.mem_cons_of_mem _ hp)
      refine ⟨bytes :: frames, last, .cons (small payload List.mem_cons_self) (by simp [zeros]) seals sealed, ?_⟩
      simp only [sealAll]
      rw [seals, Option.getD_some, List.append_assoc, is, List.flatten_cons, List.append_assoc]

/-- What one party says in a dialogue is on the way to the other. -/
structure Meet (noxtls : Noxtls) (requests replies : List (List UInt8)) (restC restS : List UInt8) (c : Host Client)
    (s : Host Server) : Prop where
  paired : Paired c.self s.self
  requests : OnTheWay noxtls (Client.sendSide.lane c.self) requests restS s.inbox
  replies : OnTheWay noxtls (Server.sendSide.lane s.self) replies restC c.inbox

section Meet

variable {noxtls : Noxtls} {requests replies : List (List UInt8)} {restC restS : List UInt8} {c c' : Host Client}
  {s s' : Host Server}

/-- The lanes a dialogue ends in. -/
theorem Meet.awaiting (meet : Meet noxtls requests replies restC restS c s) : ∃ lastC lastS,
    Client.Awaiting noxtls lastS replies restC c ∧ Server.Awaiting noxtls lastC requests restS s ∧
    ∀ c' s', Client.Said noxtls requests c c' → Server.Said noxtls replies s s' →
      Client.Awaiting noxtls lastS [] restC c' → Server.Awaiting noxtls lastC [] restS s' →
      Paired c'.self s'.self ∧ c'.inbox = restC ∧ s'.inbox = restS := by
  obtain ⟨⟨toServer, toClient⟩, ⟨framesC, lastC, sealedC, inboxS⟩, framesS, lastS, sealedS, inboxC⟩ := meet
  refine ⟨lastC, lastS, ⟨toServer.hasBlock, _, framesS, sealedS, toClient, inboxC⟩,
    ⟨toClient.hasBlock, _, framesC, sealedC, toServer, inboxS⟩, ?_⟩
  rintro c' s' ⟨_, _, saidC, -, -⟩ ⟨_, _, saidS, -, -⟩ ⟨-, _, _, ⟨⟩, stepC, endC⟩ ⟨-, _, _, ⟨⟩, stepS, endS⟩
  rw [sealed_last sealedC saidC] at stepS
  rw [sealed_last sealedS saidS] at stepC
  exact ⟨⟨stepS, stepC⟩, by simpa using endC, by simpa using endS⟩

end Meet

end NoxSsh.Protocol
