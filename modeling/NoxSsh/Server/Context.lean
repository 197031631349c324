/-
# Server.Context — the server context and its packet functions

`Server` is `netnox_ssh_server_t` without the transport callbacks.  Whether
`publickey_allowed_cb` is set is a flag; what it answers is the environment's.

Every loop of the server over a callback looks at the clock first.  `sendExpired`
and `recvExpired` are the two conditions, and each look is a `Gate` whose excuse
is that the run is no longer in time.
-/
import NoxSsh.Transport.Audit

namespace NoxSsh

open Theory Proc Wire Transport

set_option autoImplicit false

structure Server where
  transportFd : Int
  clientIdent : List UInt8
  serverIdent : List UInt8
  hostEd25519Sk : List UInt8
  hostEd25519Pk : List UInt8
  hostKeyReady : Bool
  publickeyAllowedCb : Bool
  authenticatedUser : List UInt8
  authAttempts : Nat
  sessionStarted : Bool
  handshakeDeadlineMs : Nat
  packetDeadlineMs : Nat
  sendDeadlineMs : Nat
  wantPty : Bool
  term : List UInt8
  ptyCols : Nat
  ptyRows : Nat
  ptyWidth : Nat
  ptyHeight : Nat
  connected : Bool
  kexinitExchanged : Bool
  userauthServiceReady : Bool
  connectionServiceReady : Bool
  authenticated : Bool
  channelOpen : Bool
  keyExchangeComplete : Bool
  localChannelId : Nat
  remoteChannelId : Nat
  localWindowSize : Nat
  remoteWindowSize : Nat
  remoteMaxPacketSize : Nat
  kexinitClientPayload : List UInt8
  kexinitServerPayload : List UInt8
  sessionId : List UInt8
  sessionIdLen : Nat
  sharedSecretRaw : List UInt8
  c2sIv : List UInt8
  s2cIv : List UInt8
  c2sKey : List UInt8
  s2cKey : List UInt8
  c2sMacKey : List UInt8
  s2cMacKey : List UInt8
  sendSeq : Nat
  recvSeq : Nat
  c2sCounter : List UInt8
  s2cCounter : List UInt8
  encryptedBytesSent : Nat
  encryptedBytesRecv : Nat
  rekeyThresholdBytes : Nat
  deriving DecidableEq, Repr

namespace Server

/-- `netnox_ssh_server_init`. -/
def init : Server where
  transportFd := -1
  clientIdent := []
  serverIdent := ascii "SSH-2.0-noxsshd_0.1"
  hostEd25519Sk := zeros 32
  hostEd25519Pk := zeros 32
  hostKeyReady := false
  publickeyAllowedCb := false
  authenticatedUser := []
  authAttempts := 0
  sessionStarted := false
  handshakeDeadlineMs := 0
  packetDeadlineMs := 0
  sendDeadlineMs := 0
  wantPty := false
  term := []
  ptyCols := 0
  ptyRows := 0
  ptyWidth := 0
  ptyHeight := 0
  connected := false
  kexinitExchanged := false
  userauthServiceReady := false
  connectionServiceReady := false
  authenticated := false
  channelOpen := false
  keyExchangeComplete := false
  localChannelId := 0
  remoteChannelId := 0
  localWindowSize := 0
  remoteWindowSize := 0
  remoteMaxPacketSize := 0
  kexinitClientPayload := []
  kexinitServerPayload := []
  sessionId := zeros 32
  sessionIdLen := 0
  sharedSecretRaw := zeros 32
  c2sIv := zeros 16
  s2cIv := zeros 16
  c2sKey := zeros 16
  s2cKey := zeros 16
  c2sMacKey := zeros 32
  s2cMacKey := zeros 32
  sendSeq := 0
  recvSeq := 0
  c2sCounter := zeros 16
  s2cCounter := zeros 16
  encryptedBytesSent := 0
  encryptedBytesRecv := 0
  rekeyThresholdBytes := 256 * 1024 * 1024

/-- `netnox_ssh_server_set_identification`. -/
def setIdentification (serverIdent : List UInt8) (s : Server) : Except NetnoxReturn Server :=
  (copyString 256 serverIdent).map fun ident => { s with serverIdent := ident }

/-- `netnox_ssh_server_set_host_ed25519_seed`. -/
def setHostEd25519Seed (noxtls : Noxtls) (seed : List UInt8) (s : Server) : Except NetnoxReturn Server :=
  match noxtls.ed25519PublicKey seed with
  | none => .error .failed
  | some pk => .ok { s with hostEd25519Sk := seed, hostEd25519Pk := pk, hostKeyReady := true }

/-! ## The lanes -/

/-- Server to client. -/
def sendSide : Side Server where
  lane s := ⟨s.keyExchangeComplete, s.s2cKey, s.s2cMacKey, s.s2cCounter, s.sendSeq⟩
  setCounter counter s := { s with s2cCounter := counter }
  setSeq seq s := { s with sendSeq := seq }
  lane_setCounter _ _ := rfl
  lane_setSeq _ _ := rfl
  setCounter_setCounter _ _ _ := rfl

/-- Client to server. -/
def recvSide : Side Server where
  lane s := ⟨s.keyExchangeComplete, s.c2sKey, s.c2sMacKey, s.c2sCounter, s.recvSeq⟩
  setCounter counter s := { s with c2sCounter := counter }
  setSeq seq s := { s with recvSeq := seq }
  lane_setCounter _ _ := rfl
  lane_setSeq _ _ := rfl
  setCounter_setCounter _ _ _ := rfl

def countSent (n : Nat) (s : Server) : Server :=
  { s with encryptedBytesSent := wrap64 (s.encryptedBytesSent + n) }

def countRecv (n : Nat) (s : Server) : Server :=
  { s with encryptedBytesRecv := wrap64 (s.encryptedBytesRecv + n) }

/-! ## The functions -/

/-- Ten seconds for the next packet out. -/
def armSend (now : Nat) (s : Server) : Server := { s with sendDeadlineMs := wrap64 (now + 10000) }

/-- Ten seconds for the next packet in. -/
def armRecv (now : Nat) (s : Server) : Server := { s with packetDeadlineMs := wrap64 (now + 10000) }

/-- Only a deadline changes; which one it is, does not matter to what follows. -/
theorem armSend_is (now : Nat) (s : Server) : ∃ deadline, armSend now s = { s with sendDeadlineMs := deadline } :=
  ⟨_, rfl⟩

theorem armRecv_is (now : Nat) (s : Server) : ∃ deadline, armRecv now s = { s with packetDeadlineMs := deadline } :=
  ⟨_, rfl⟩

@[simp] theorem lane_armSend (now : Nat) (s : Server) :
    sendSide.lane (armSend now s) = sendSide.lane s := by
  obtain ⟨deadline, is⟩ := armSend_is now s
  rw [is]
  rfl

@[simp] theorem lane_armRecv (now : Nat) (s : Server) :
    recvSide.lane (armRecv now s) = recvSide.lane s := by
  obtain ⟨deadline, is⟩ := armRecv_is now s
  rw [is]
  rfl

/-- `UINT64_MAX`, what `srv_now_ms` returns when the clock fails. -/
def clockFailed : Nat := 18446744073709551615

/-- The handshake deadline counts until a session has started. -/
def handshakeExpired (s : Server) (now : Nat) : Bool :=
  !s.sessionStarted && s.handshakeDeadlineMs ≠ 0 && now > s.handshakeDeadlineMs

def sendExpired (s : Server) (now : Nat) : Bool :=
  now = clockFailed || (s.sendDeadlineMs ≠ 0 && now > s.sendDeadlineMs) || handshakeExpired s now

def recvExpired (s : Server) (now : Nat) : Bool :=
  now = clockFailed || (s.packetDeadlineMs ≠ 0 && now > s.packetDeadlineMs) || handshakeExpired s now

/-- `recv_line` has a look of its own: no test for a failed clock or a deadline of zero. -/
def lineExpired (s : Server) (now : Nat) : Bool := now > s.handshakeDeadlineMs

section Functions

variable (noxtls : Noxtls) (env : Env)

/-- Look at the clock before a callback. -/
def deadline (expired : Server → Nat → Bool) : Prog Server (Option Nat) := do
  let now ← ask env.clock
  if expired (← self) now then do
    log .expired
    fail .failed
  else pure (some now)

def sendAll (data : List UInt8) : Prog Server Unit := sendAllWith env (deadline env sendExpired) data

def recvExact (len room : Nat) : Prog Server (List UInt8) :=
  recvExactWith env (deadline env recvExpired) len room

def recvLine (outLen : Nat) : Prog Server (List UInt8) :=
  recvLineWith env (deadline env lineExpired) outLen

/-- `getrandom` until the buffer is full, or a failure. -/
def fillRandom (len : Nat) : Prog Server (List UInt8) := do
  let bytes ← ask env.getrandom
  match bytes with
  | none => fail .failed
  | some bytes => pure (slice bytes 0 len)

def writeSealed (enc mac : List UInt8) : Prog Server Unit := do
  sendAll env enc
  sendAll env mac

/-- `srv_send_packet`. -/
def sendPacket (payload : List UInt8) : Prog Server Unit := do
  ensure (payload ≠ []) .badParam
  log (.sending payload)
  let now ← ask env.clock
  modify (armSend now)
  sendPacketWith noxtls sendSide (fillRandom env) (sendAll env) (writeSealed env) countSent payload
  log (.sent payload)

/-- `srv_recv_packet`. -/
def recvPacket (payloadMax : Nat) : Prog Server (List UInt8) := do
  let now ← ask env.clock
  modify (armRecv now)
  recvPacketWith noxtls recvSide (recvExact env) countRecv payloadMax

/-- A payload and the buffer it stands in. -/
def recvInto (payloadMax : Nat) : Prog Server (List UInt8 × Mem) := do
  let payload ← recvPacket noxtls env payloadMax
  let rest ← ask env.stale
  pure (payload, memOf payload rest)

end Functions

/-! ## Live sockets -/

section Live

variable {noxtls : Noxtls} {env : Env}

/-- The excuse of a server: a deadline passed. -/
def Late (h : Host Server) : Prop := ¬ InTime h.trace

theorem gate_deadline (expired : Server → Nat → Bool) : Gate Late (deadline env expired) := by
  intro h
  by_cases past : expired h.self (env.clock h.tick) = true
  · have ran : (deadline env expired).run h =
        (.err .failed, { h with tick := h.tick + 1, trace := h.trace ++ [(.expired, h.self)] }) := by
      rw [deadline, bind_ok (ask_run h env.clock), bind_ok (self_run _), if_pos past]
      rfl
    refine returns_of_err ran ?_
    intro inTime
    exact inTime (.expired, h.self) (by simp) rfl
  · have ran : (deadline env expired).run h =
        (.ok (some (env.clock h.tick)), { h with tick := h.tick + 1 }) := by
      rw [deadline, bind_ok (ask_run h env.clock), bind_ok (self_run _), if_neg past]
      rfl
    exact returns_of_run ran ⟨h.tick + 1, rfl⟩

theorem sendAll_live (alive : ∀ t, 0 < env.send t) (data : List UInt8) (h : Host Server) :
    Returns Late (sendAll env data) (fun _ h' => Moved data h.inbox h.self h h') h :=
  (sendAllWith_live alive (gate_deadline _) data h).mono fun _ _ wrote => wrote.moved

theorem recvExact_live (alive : ∀ t, 0 < env.recv t) (len room : Nat) (h : Host Server)
    (next rest : List UInt8) (fits : len ≤ room) (whole : next.length = len)
    (inbox : h.inbox = next ++ rest) :
    Returns Late (recvExact env len room)
      (fun got h' => got = next ∧ Moved [] rest h.self h h') h :=
  (recvExactWith_live alive (gate_deadline _) fits inbox whole).mono
    fun _ _ ⟨got, took⟩ => ⟨got, took.moved⟩

theorem fillRandom_live (random : ∀ t, env.getrandom t ≠ none) (len : Nat) (h : Host Server) :
    Returns Late (fillRandom env len)
      (fun padding h' => padding.length = len ∧ Moved [] h.inbox h.self h h') h := by
  obtain ⟨bytes, answer⟩ := Option.ne_none_iff_exists'.1 (random h.tick)
  have ran : (fillRandom env len).run h = (.ok (slice bytes 0 len), { h with tick := h.tick + 1 }) := by
    rw [fillRandom, bind_ok (ask_run h env.getrandom), answer]
    rfl
  exact returns_of_run ran ⟨length_slice _ 0 len, rfl, rfl, [], by simp, rfl⟩

theorem writeSealed_live (alive : ∀ t, 0 < env.send t) (enc mac : List UInt8) (h : Host Server) :
    Returns Late (writeSealed env enc mac) (fun _ h' => Moved (enc ++ mac) h.inbox h.self h h') h := by
  refine (sendAll_live alive enc h).bind ?_
  intro _ h₁ moved₁
  refine (sendAll_live alive mac h₁).mono ?_
  intro _ h₂ moved₂
  rw [moved₁.self, moved₁.inbox] at moved₂
  exact moved₁.trans moved₂

theorem returns_clock {α : Type} {k : Nat → Prog Server α} {Q : α → Host Server → Prop} {h : Host Server}
    (rest : ∀ now, Returns Late (k now) Q { h with tick := h.tick + 1 }) :
    Returns Late (ask env.clock >>= k) Q h := rest (env.clock h.tick)

/-- One payload of the server goes out as one frame, under a new send deadline. -/
theorem sendPacket_live (sha : noxtls.shaInit = true) (ctr : CtrMode noxtls)
    (alive : ∀ t, 0 < env.send t) (random : ∀ t, env.getrandom t ≠ none) {h : Host Server}
    {payload : List UInt8} (nonempty : payload ≠ []) (small : payload.length ≤ 34980)
    (block : h.self.keyExchangeComplete = true → h.self.s2cCounter.length = 16) :
    Returns Late (sendPacket noxtls env payload)
      (fun _ h' => ∃ padding bytes now,
        padding.length = paddingLen h.self.keyExchangeComplete payload.length ∧
        sealPacket noxtls (sendSide.lane h.self) (plainPacket payload padding) = some bytes ∧
        Moved bytes h.inbox (sendSide.step countSent (plainPacket payload padding).length
          (armSend now h.self)) h h') h := by
  rw [sendPacket]
  refine returns_ensure_bind nonempty _ ((returns_log rfl).bind ?_)
  intro _ h₁ moved₁
  refine returns_clock fun now => ?_
  refine (returns_modify _).bind ?_
  intro _ h₂ moved₂
  have before : h₂.self = armSend now h.self := by rw [moved₂.self, moved₁.self]
  refine (sendPacketWith_live (h := h₂) sha ctr (fun n h => fillRandom_live random n h)
    (fun data h => sendAll_live alive data h) (fun enc mac h => writeSealed_live alive enc mac h)
    (by rw [before, lane_armSend]; exact block) small).bind ?_
  rintro _ h₃ ⟨padding, bytes, sent⟩
  have length := sent.length
  have seals := sent.seals
  rw [before, lane_armSend] at length seals
  refine (returns_log rfl).mono ?_
  intro _ h₄ moved₄
  have start : Moved [] h₁.inbox h₂.self h₁ h₂ := ⟨rfl, moved₂.inbox, moved₂.grown⟩
  have whole := ((moved₁.trans start).trans sent.moved).trans moved₄
  refine ⟨padding, bytes, now, length, seals, ?_, ?_, by simpa using whole.grown⟩
  · rw [whole.self, sent.moved.self, before]
  · rw [whole.inbox, sent.moved.inbox, moved₂.inbox, moved₁.inbox]

/-- A server in step with the sealing lane gets the payload of the next frame. -/
theorem recvPacket_live (ctr : CtrMode noxtls) (alive : ∀ t, 0 < env.recv t) {h : Host Server}
    {sender : Lane} {payload padding bytes rest : List UInt8} {payloadMax : Nat}
    (step : InStep sender (recvSide.lane h.self))
    (small : payload.length ≤ 34980) (fits : payload.length ≤ payloadMax)
    (length : padding.length = paddingLen sender.encrypted payload.length)
    (sealed : sealPacket noxtls sender (plainPacket payload padding) = some bytes)
    (inbox : h.inbox = bytes ++ rest) :
    Returns Late (recvPacket noxtls env payloadMax)
      (fun got h' => got = payload ∧ ∃ now,
        Moved [] rest (recvSide.step countRecv (plainPacket payload padding).length
          (armRecv now h.self)) h h') h := by
  rw [recvPacket]
  refine returns_clock fun now => ?_
  refine (returns_modify _).bind ?_
  intro _ h₁ moved₁
  have before : h₁.self = armRecv now h.self := moved₁.self
  refine (recvPacketWith_live (h := h₁) ctr (fun len room h next rest fits whole inbox =>
    recvExact_live alive len room h next rest fits whole inbox)
    (by rw [before, lane_armRecv]; exact step) small fits length sealed (by rw [moved₁.inbox]; exact inbox)).mono ?_
  rintro _ h₂ ⟨rfl, moved₂⟩
  have start : Moved [] h.inbox h₁.self h h₁ := ⟨rfl, moved₁.inbox, moved₁.grown⟩
  have whole := start.trans moved₂
  refine ⟨rfl, now, ?_, whole.inbox, by simpa using whole.grown⟩
  rw [whole.self, before]

end Live

/-! ## Any sockets -/

/-- A part of the context that moving packets does not touch. -/
structure Passive {γ : Type} (view : Server → γ) : Prop where
  sendCounter : ∀ counter s, view (sendSide.setCounter counter s) = view s
  sendSeq : ∀ n s, view (sendSide.setSeq n s) = view s
  armSend : ∀ now s, view (armSend now s) = view s
  countSent : ∀ n s, view (countSent n s) = view s
  recvCounter : ∀ counter s, view (recvSide.setCounter counter s) = view s
  recvSeq : ∀ n s, view (recvSide.setSeq n s) = view s
  armRecv : ∀ now s, view (armRecv now s) = view s
  countRecv : ∀ n s, view (countRecv n s) = view s

/-- The same about the fields themselves, whatever the deadlines are. -/
theorem Passive.of_fields {γ : Type} {view : Server → γ}
    (sendCounter : ∀ counter s, view (sendSide.setCounter counter s) = view s)
    (sendSeq : ∀ n s, view (sendSide.setSeq n s) = view s)
    (sendDeadline : ∀ deadline s, view { s with sendDeadlineMs := deadline } = view s)
    (sent : ∀ n s, view { s with encryptedBytesSent := n } = view s)
    (recvCounter : ∀ counter s, view (recvSide.setCounter counter s) = view s)
    (recvSeq : ∀ n s, view (recvSide.setSeq n s) = view s)
    (recvDeadline : ∀ deadline s, view { s with packetDeadlineMs := deadline } = view s)
    (received : ∀ n s, view { s with encryptedBytesRecv := n } = view s) : Passive view :=
  ⟨sendCounter, sendSeq, fun _ _ => sendDeadline _ _, fun _ _ => sent _ _, recvCounter, recvSeq,
    fun _ _ => recvDeadline _ _, fun _ _ => received _ _⟩

section Any

variable {γ : Type} {noxtls : Noxtls} {env : Env} {ok : Event → Prop} {view : Server → γ}

theorem always_deadline (expired : ok .expired) (test : Server → Nat → Bool) :
    Always (Quiet ok view) (deadline env test) := by
  have order := quiet_order ok view
  refine always_bind order (always_ask _) fun now => always_bind order always_self fun s => ?_
  refine always_ite ?_ (always_pure order _)
  exact always_bind order (always_log expired) fun _ => always_fail order _

theorem always_sendAll (plumbing : Plumbing ok) (data : List UInt8) :
    Always (Quiet ok view) (sendAll env data) :=
  always_sendAllWith (quiet_plain ok view) (fun bytes => always_log (plumbing.wire bytes))
    (always_deadline plumbing.expired _) data

theorem always_recvExact (plumbing : Plumbing ok) (receiving : ∀ looked, ok (.receiving looked))
    (len room : Nat) : Always (Quiet ok view) (recvExact env len room) :=
  always_recvExactWith (quiet_plain ok view) (always_log plumbing.overflow)
    (always_checked (quiet_plain ok view) (fun looked => always_log (receiving looked))
      (always_deadline plumbing.expired _)) len room

theorem always_recvLine (plumbing : Plumbing ok) (receiving : ∀ looked, ok (.receiving looked))
    (outLen : Nat) : Always (Quiet ok view) (recvLine env outLen) :=
  always_recvLineWith (quiet_plain ok view) (fun looked => always_log (receiving looked))
    (always_deadline plumbing.expired _) outLen

theorem always_fillRandom (n : Nat) : Always (Quiet ok view) (fillRandom env n) := by
  have order := quiet_order ok view
  refine always_bind order (always_ask _) fun bytes => ?_
  cases bytes with
  | none => exact always_fail order _
  | some bytes => exact always_pure order _

theorem always_writeSealed (plumbing : Plumbing ok) (enc mac : List UInt8) :
    Always (Quiet ok view) (writeSealed env enc mac) :=
  always_bind (quiet_order ok view) (always_sendAll plumbing _) fun _ => always_sendAll plumbing _

theorem always_sealing (background : Background ok) (passive : Passive view) (payload : List UInt8) :
    Always (Quiet ok view) (sendPacketWith noxtls sendSide (fillRandom env) (sendAll env) (writeSealed env) countSent
      payload) :=
  always_sendPacketWith (quiet_plain ok view) (fun m t => always_log (background.macComputed m t))
    (fun c => always_modify (passive.sendCounter c)) (fun n => always_modify (passive.sendSeq n))
    (fun n => always_modify (passive.countSent n)) always_fillRandom (always_sendAll background.toPlumbing)
    (always_writeSealed background.toPlumbing) payload

/-- Sending leaves everything but the sending lane, its deadline and its byte count alone. -/
theorem always_sendPacket (background : Background ok) (passive : Passive view) (payload : List UInt8)
    (sending : ok (.sending payload)) (sent : ok (.sent payload)) :
    Always (Quiet ok view) (sendPacket noxtls env payload) := by
  have order := quiet_order ok view
  refine always_bind order (always_ensure order _ _) fun _ => ?_
  refine always_bind order (always_log sending) fun _ => ?_
  refine always_bind order (always_ask _) fun now => ?_
  refine always_bind order (always_modify (passive.armSend now)) fun _ => ?_
  refine always_bind order ?_ fun _ => always_log sent
  exact always_sealing background passive payload

theorem settles_sendAll (data : List UInt8) : Settles (sendAll env data) := by
  refine settles_sendAllWith ?_ data
  refine settles_bind (settles_ask _) fun now => settles_bind settles_self fun s => ?_
  exact settles_ite (settles_bind (settles_log _) fun _ => settles_fail _) (settles_pure _)

theorem settles_fillRandom (n : Nat) : Settles (fillRandom env n) := by
  refine settles_bind (settles_ask _) fun bytes => ?_
  cases bytes with
  | none => exact settles_fail _
  | some bytes => exact settles_pure _

/-- A send comes back. -/
theorem settles_sendPacket (payload : List UInt8) : Settles (sendPacket noxtls env payload) := by
  refine settles_bind (settles_ensure _ _) fun _ => ?_
  refine settles_bind (settles_log _) fun _ => ?_
  refine settles_bind (settles_ask _) fun now => ?_
  refine settles_bind (settles_modify _) fun _ => ?_
  refine settles_bind (settles_sendPacketWith settles_fillRandom settles_sendAll ?_ payload) fun _ => settles_log _
  exact fun enc mac => settles_bind (settles_sendAll enc) fun _ => settles_sendAll mac

/-- A send that succeeded is recorded. -/
theorem sendPacket_sent {payload : List UInt8} {h h' : Host Server}
    (ran : (sendPacket noxtls env payload).run h = (.ok (), h')) : payload ∈ pick Event.sent? h'.trace := by
  rw [sendPacket] at ran
  obtain ⟨-, ran⟩ := ensure_bind_inv ran
  rw [log_bind_run, ask_bind_run, modify_bind_run] at ran
  obtain ⟨_, h₁, -, ran⟩ := bind_inv ran
  rw [log_run, Prod.mk.injEq] at ran
  rw [← ran.2, pick_append]
  exact List.mem_append_right _ (by simp [Event.sent?])

/-- Receiving leaves everything but the receiving lane, its deadline and its byte count alone. -/
theorem always_recvPacket (background : Background ok) (passive : Passive view)
    (hearing : Hearing ok) (payloadMax : Nat) :
    Always (Quiet ok view) (recvPacket noxtls env payloadMax) := by
  have order := quiet_order ok view
  refine always_bind order (always_ask _) fun now => ?_
  refine always_bind order (always_modify (passive.armRecv now)) fun _ => ?_
  exact always_recvPacketWith (quiet_plain ok view) (fun m t => always_log (background.macAccepted m t))
    (fun p => always_log (hearing.received p)) (fun c => always_modify (passive.recvCounter c))
    (fun n => always_modify (passive.recvSeq n)) (fun n => always_modify (passive.countRecv n))
    (always_recvExact background.toPlumbing hearing.receiving) payloadMax

/-- A receive: quiet, and then one `received` record or none. -/
theorem recvInto_cases (noxtls : Noxtls) (env : Env) (background : Background ok)
    (receiving : ∀ looked, ok (.receiving looked)) (passive : Passive view) (payloadMax : Nat)
    (h : Host Server) :
    (∃ payload rest h' t, (recvInto noxtls env payloadMax).run h = (.ok (payload, memOf payload rest),
        { h' with tick := t, trace := h'.trace ++ [(.received payload, h'.self)] }) ∧
      payload.length ≤ payloadMax ∧ Quiet ok view h h') ∨
    (∃ o h', (recvInto noxtls env payloadMax).run h = (o, h') ∧ (∀ a, o ≠ .ok a) ∧ Quiet ok view h h') := by
  have order := quiet_order ok view
  have armed : Quiet ok view h
      { h with tick := h.tick + 1, self := armRecv (env.clock h.tick) h.self } :=
    ⟨passive.armRecv _ _, [], by simp, by simp⟩
  have reads : ∀ len room, Always (Quiet ok view) (recvExact env len room) :=
    always_recvExact background.toPlumbing receiving
  have cases := recvPacketWith_cases noxtls background.macAccepted passive.recvCounter
    passive.recvSeq passive.countRecv reads payloadMax
    { h with tick := h.tick + 1, self := armRecv (env.clock h.tick) h.self }
  rw [recvInto, recvPacket, bind_run, ask_bind_run, modify_bind_run]
  rcases cases with ⟨payload, h', ran, short, quiet⟩ | ⟨o, h', ran, failed, quiet⟩
  · refine .inl ⟨payload, env.stale h'.tick, h', h'.tick + 1, ?_, short, order.trans armed quiet⟩
    rw [ran]
    rfl
  · rw [ran]
    cases o with
    | ok payload => exact absurd rfl (failed payload)
    | err e => exact .inr ⟨.err e, h', rfl, by simp, order.trans armed quiet⟩
    | stuck => exact .inr ⟨.stuck, h', rfl, by simp, order.trans armed quiet⟩

end Any

end Server

end NoxSsh
