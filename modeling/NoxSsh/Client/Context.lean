/-
# Client.Context — the client context and its packet functions

`Client` is `netnox_ssh_client_t` without the callbacks, which are the
environment's, and without `itf`, which nothing reads.  A C string field is the
bytes before its terminator; a buffer with a length field next to it is the list
of its used bytes.  `pending_newkeys` is only ever cleared, so that it is empty is
a field of the structure.  `session_id` keeps its length field: the hash is written into
the buffer before the signature over it is checked, the length only afterwards.

The client has no deadlines.  Its sealed packets go out in one write when the
whole fits 128 bytes and in several otherwise; the bytes are the same
(`writeSealed_live`).
-/
import NoxSsh.Transport.Audit

namespace NoxSsh

open Theory Proc Wire Transport

set_option autoImplicit false

structure Client where
  clientIdent : List UInt8
  serverIdent : List UInt8
  username : List UInt8
  host : List UInt8
  password : List UInt8
  ed25519PrivateKey : List UInt8
  ed25519PublicKey : List UInt8
  hasEd25519Key : Bool
  port : Nat
  connected : Bool
  kexinitExchanged : Bool
  userauthServiceReady : Bool
  connectionServiceReady : Bool
  authenticated : Bool
  channelOpen : Bool
  keyExchangeComplete : Bool
  localChannelId : Nat
  remoteChannelId : Nat
  localWindowSize : Nat
  remoteWindowSize : Nat
  remoteMaxPacketSize : Nat
  kexinitClientPayload : List UInt8
  kexinitServerPayload : List UInt8
  serverHostKeyBlob : List UInt8
  serverHostKeyFingerprint : List UInt8
  serverHostKeyReady : Bool
  sessionId : List UInt8
  sessionIdLen : Nat
  sharedSecretRaw : List UInt8
  c2sIv : List UInt8
  s2cIv : List UInt8
  c2sKey : List UInt8
  s2cKey : List UInt8
  c2sMacKey : List UInt8
  s2cMacKey : List UInt8
  sendSeq : Nat
  recvSeq : Nat
  c2sCounter : List UInt8
  s2cCounter : List UInt8
  pendingNewkeys : List UInt8
  /-- The source clears this buffer and never fills it. -/
  nonePending : pendingNewkeys = []
  remoteExitStatusValid : Bool
  remoteExitStatus : Nat
  deriving DecidableEq, Repr

namespace Client

theorem nothing_pending : ([] : List UInt8) = [] := rfl

/-- `netnox_ssh_client_init`; a port of zero is the default port. -/
def init (port : Nat) : Client where
  clientIdent := ascii "SSH-2.0-noxssh_0.1"
  serverIdent := []
  username := []
  host := []
  password := []
  ed25519PrivateKey := zeros 32
  ed25519PublicKey := zeros 32
  hasEd25519Key := false
  port := if port = 0 then 22 else port
  connected := false
  kexinitExchanged := false
  userauthServiceReady := false
  connectionServiceReady := false
  authenticated := false
  channelOpen := false
  keyExchangeComplete := false
  localChannelId := 0
  remoteChannelId := 0
  localWindowSize := 0
  remoteWindowSize := 0
  remoteMaxPacketSize := 0
  kexinitClientPayload := []
  kexinitServerPayload := []
  serverHostKeyBlob := []
  serverHostKeyFingerprint := zeros 32
  serverHostKeyReady := false
  sessionId := zeros 32
  sessionIdLen := 0
  sharedSecretRaw := zeros 32
  c2sIv := zeros 16
  s2cIv := zeros 16
  c2sKey := zeros 16
  s2cKey := zeros 16
  c2sMacKey := zeros 32
  s2cMacKey := zeros 32
  sendSeq := 0
  recvSeq := 0
  c2sCounter := zeros 16
  s2cCounter := zeros 16
  pendingNewkeys := []
  nonePending := nothing_pending
  remoteExitStatusValid := false
  remoteExitStatus := 0

/-- `netnox_ssh_client_set_identification`. -/
def setIdentification (clientIdent : List UInt8) (c : Client) : Except NetnoxReturn Client :=
  (copyString 256 clientIdent).map fun ident => { c with clientIdent := ident }

/-! ## The lanes -/

/-- Client to server. -/
def sendSide : Side Client where
  lane c := ⟨c.keyExchangeComplete, c.c2sKey, c.c2sMacKey, c.c2sCounter, c.sendSeq⟩
  setCounter counter c := { c with c2sCounter := counter }
  setSeq seq c := { c with sendSeq := seq }
  lane_setCounter _ _ := rfl
  lane_setSeq _ _ := rfl
  setCounter_setCounter _ _ _ := rfl

/-- Server to client. -/
def recvSide : Side Client where
  lane c := ⟨c.keyExchangeComplete, c.s2cKey, c.s2cMacKey, c.s2cCounter, c.recvSeq⟩
  setCounter counter c := { c with s2cCounter := counter }
  setSeq seq c := { c with recvSeq := seq }
  lane_setCounter _ _ := rfl
  lane_setSeq _ _ := rfl
  setCounter_setCounter _ _ _ := rfl

/-- The client counts no bytes. -/
def uncounted : Nat → Client → Client := fun _ c => c

/-! ## The functions -/

section Functions

variable (noxtls : Noxtls) (env : Env)

def sendAll (data : List UInt8) : Prog Client Unit := sendAllWith env (pure none) data

def recvExact (len room : Nat) : Prog Client (List UInt8) := recvExactWith env (pure none) len room

def recvLine (outLen : Nat) : Prog Client (List UInt8) := recvLineWith env (pure none) outLen

/-- `rand() & 0xFF` for each byte; it cannot fail. -/
def fillRandom (len : Nat) : Prog Client (List UInt8) := do
  let bytes ← ask env.rand
  pure (slice bytes 0 len)

/-- Send a pending NEWKEYS packet on its own. -/
def flushPending : Prog Client Unit := do
  let pending := (← self).pendingNewkeys
  if 0 < pending.length then do
    sendAll env pending
    modify fun c => { c with pendingNewkeys := [], nonePending := nothing_pending }
  else pure ()

/-- The write paths of an encrypted packet: pending NEWKEYS, ciphertext and MAC
in one buffer of 128 bytes if they fit, else the pending NEWKEYS first and then
ciphertext and MAC together or apart. -/
def writeSealed (enc mac : List UInt8) : Prog Client Unit := do
  let pending := (← self).pendingNewkeys
  if pending.length + (enc.length + mac.length) ≤ 128 then do
    modify fun c => { c with pendingNewkeys := [], nonePending := nothing_pending }
    sendAll env (pending ++ enc ++ mac)
  else do
    flushPending env
    if enc.length + mac.length ≤ 128 then sendAll env (enc ++ mac)
    else do
      sendAll env enc
      sendAll env mac

/-- `netnox_ssh_send_packet`. -/
def sendPacket (payload : List UInt8) : Prog Client Unit := do
  ensure (payload ≠ []) .badParam
  log (.sending payload)
  sendPacketWith noxtls sendSide (fillRandom env) (sendAll env) (writeSealed env) uncounted payload
  log (.sent payload)

/-- `netnox_ssh_recv_packet`. -/
def recvPacket (payloadMax : Nat) : Prog Client (List UInt8) :=
  recvPacketWith noxtls recvSide (recvExact env) uncounted payloadMax

end Functions

/-! ## Live sockets -/

section Live

variable {noxtls : Noxtls} {env : Env}

/-- The client has no excuse. -/
def Late (_ : Host Client) : Prop := False

theorem sendAll_live (alive : ∀ t, 0 < env.send t) (data : List UInt8) (h : Host Client) :
    Returns Late (sendAll env data) (fun _ h' => Moved data h.inbox h.self h h') h :=
  (sendAllWith_live alive (gate_pure Late) data h).mono fun _ _ wrote => wrote.moved

theorem recvExact_live (alive : ∀ t, 0 < env.recv t) (len room : Nat) (h : Host Client)
    (next rest : List UInt8) (fits : len ≤ room) (whole : next.length = len)
    (inbox : h.inbox = next ++ rest) :
    Returns Late (recvExact env len room)
      (fun got h' => got = next ∧ Moved [] rest h.self h h') h :=
  (recvExactWith_live alive (gate_pure Late) fits inbox whole).mono
    fun _ _ ⟨got, took⟩ => ⟨got, took.moved⟩

theorem fillRandom_live (len : Nat) (h : Host Client) :
    Returns Late (fillRandom env len)
      (fun padding h' => padding.length = len ∧ Moved [] h.inbox h.self h h') h :=
  returns_of_run rfl ⟨length_slice _ 0 len, rfl, rfl, [], by simp, rfl⟩

/-- Whichever path is taken, ciphertext and MAC go out one after the other. -/
theorem writeSealed_live (alive : ∀ t, 0 < env.send t) (enc mac : List UInt8) (h : Host Client) :
    Returns Late (writeSealed env enc mac) (fun _ h' => Moved (enc ++ mac) h.inbox h.self h h') h := by
  have none := h.self.nonePending
  have flushed : (flushPending env).run h = (.ok (), h) := by
    rw [flushPending, self_bind_run, none]
    rfl
  rw [writeSealed]
  refine returns_self_bind ?_
  simp only [none, List.length_nil, Nat.zero_add, List.nil_append]
  split
  · refine (returns_modify _).bind ?_
    intro _ h₁ moved₁
    refine (sendAll_live alive _ h₁).mono ?_
    intro _ h₂ moved₂
    have same : { h.self with pendingNewkeys := [], nonePending := nothing_pending } = h.self := by
      simp only [← none]
    rw [moved₁.self, same, moved₁.inbox] at moved₂
    exact moved₁.trans moved₂
  · -- with nothing pending the second fitting test is the first one again
    rw [Returns, bind_ok flushed]
    refine (sendAll_live alive _ h).bind ?_
    intro _ h₁ moved₁
    refine (sendAll_live alive _ h₁).mono ?_
    intro _ h₂ moved₂
    rw [moved₁.self, moved₁.inbox] at moved₂
    exact moved₁.trans moved₂

/-- One payload of the client goes out as one frame. -/
theorem sendPacket_live (sha : noxtls.shaInit = true) (ctr : CtrMode noxtls)
    (alive : ∀ t, 0 < env.send t) {h : Host Client} {payload : List UInt8} (nonempty : payload ≠ [])
    (small : payload.length ≤ 34980)
    (block : h.self.keyExchangeComplete = true → h.self.c2sCounter.length = 16) :
    Returns Late (sendPacket noxtls env payload)
      (fun _ h' => ∃ padding bytes, SentFrame noxtls sendSide uncounted payload padding bytes h h') h := by
  rw [sendPacket]
  refine returns_ensure_bind nonempty _ ((returns_log rfl).bind ?_)
  intro _ h₁ moved₁
  refine (sendPacketWith_live (h := h₁) sha ctr (fun n h => fillRandom_live n h)
    (fun data h => sendAll_live alive data h) (fun enc mac h => writeSealed_live alive enc mac h)
    (by rw [moved₁.self]; exact block) small).bind ?_
  rintro _ h₂ ⟨padding, bytes, sent⟩
  refine (returns_log rfl).mono ?_
  intro _ h₃ moved₃
  have whole := (moved₁.trans sent.moved).trans moved₃
  refine ⟨padding, bytes, by simpa [moved₁.self] using sent.length,
    by simpa [moved₁.self] using sent.seals, ?_, ?_, by simpa using whole.grown⟩
  · rw [whole.self, sent.moved.self, moved₁.self]
  · rw [whole.inbox, sent.moved.inbox, moved₁.inbox]

/-- A client in step with the sealing lane gets the payload of the next frame. -/
theorem recvPacket_live (ctr : CtrMode noxtls) (alive : ∀ t, 0 < env.recv t) {h : Host Client}
    {sender : Lane} {payload padding bytes rest : List UInt8} {payloadMax : Nat}
    (step : InStep sender (recvSide.lane h.self))
    (small : payload.length ≤ 34980) (fits : payload.length ≤ payloadMax)
    (length : padding.length = paddingLen sender.encrypted payload.length)
    (sealed : sealPacket noxtls sender (plainPacket payload padding) = some bytes)
    (inbox : h.inbox = bytes ++ rest) :
    Returns Late (recvPacket noxtls env payloadMax)
      (fun got h' => got = payload ∧
        Moved [] rest (recvSide.step uncounted (plainPacket payload padding).length h.self) h h') h :=
  recvPacketWith_live ctr (fun len room h next rest fits whole inbox =>
    recvExact_live alive len room h next rest fits whole inbox) step small fits length sealed inbox

end Live

/-! ## Any sockets -/

/-- A part of the context that moving packets does not touch. -/
structure Passive {γ : Type} (view : Client → γ) : Prop where
  sendCounter : ∀ counter c, view (sendSide.setCounter counter c) = view c
  sendSeq : ∀ n c, view (sendSide.setSeq n c) = view c
  recvCounter : ∀ counter c, view (recvSide.setCounter counter c) = view c
  recvSeq : ∀ n c, view (recvSide.setSeq n c) = view c

section Any

variable {γ : Type} {noxtls : Noxtls} {env : Env} {ok : Event → Prop} {view : Client → γ}

theorem always_sendAll (plumbing : Plumbing ok) (data : List UInt8) :
    Always (Quiet ok view) (sendAll env data) :=
  always_sendAllWith (quiet_plain ok view) (fun bytes => always_log (plumbing.wire bytes))
    (always_pure (quiet_order ok view) none) data

theorem always_recvExact (plumbing : Plumbing ok) (receiving : ∀ looked, ok (.receiving looked))
    (len room : Nat) : Always (Quiet ok view) (recvExact env len room) :=
  always_recvExactWith (quiet_plain ok view) (always_log plumbing.overflow)
    (always_checked (quiet_plain ok view) (fun looked => always_log (receiving looked))
      (always_pure (quiet_order ok view) none)) len room

theorem always_recvLine (receiving : ∀ looked, ok (.receiving looked)) (outLen : Nat) :
    Always (Quiet ok view) (recvLine env outLen) :=
  always_recvLineWith (quiet_plain ok view) (fun looked => always_log (receiving looked))
    (always_pure (quiet_order ok view) none) outLen

theorem always_fillRandom (n : Nat) : Always (Quiet ok view) (fillRandom env n) :=
  always_bind (quiet_order ok view) (always_ask _) fun _ => always_pure (quiet_order ok view) _

theorem always_writeSealed (plumbing : Plumbing ok) (enc mac : List UInt8) :
    Always (Quiet ok view) (writeSealed env enc mac) := by
  have order := quiet_order ok view
  have clear : Always (Quiet ok view)
      (modify fun c : Client => { c with pendingNewkeys := [], nonePending := nothing_pending }) := by
    refine always_modify fun c => congrArg view ?_
    simp only [← c.nonePending]
  refine always_bind order always_self fun c => always_ite ?_ ?_
  · exact always_bind order clear fun _ => always_sendAll plumbing _
  · refine always_bind order (always_bind order always_self fun c => ?_) fun _ => ?_
    · refine always_ite ?_ (always_pure order ())
      exact always_bind order (always_sendAll plumbing _) fun _ => clear
    · refine always_ite (always_sendAll plumbing _) ?_
      exact always_bind order (always_sendAll plumbing _) fun _ => always_sendAll plumbing _

/-- Sending leaves everything but the sending lane alone. -/
theorem always_sendPacket (background : Background ok) (passive : Passive view) (payload : List UInt8)
    (sending : ok (.sending payload)) (sent : ok (.sent payload)) :
    Always (Quiet ok view) (sendPacket noxtls env payload) := by
  have order := quiet_order ok view
  refine always_bind order (always_ensure order _ _) fun _ => ?_
  refine always_bind order (always_log sending) fun _ => ?_
  refine always_bind order ?_ fun _ => always_log sent
  exact always_sendPacketWith (quiet_plain ok view) (fun m t => always_log (background.macComputed m t))
    (fun c => always_modify (passive.sendCounter c)) (fun n => always_modify (passive.sendSeq n))
    (fun _ => always_modify fun _ => rfl) always_fillRandom (always_sendAll background.toPlumbing)
    (always_writeSealed background.toPlumbing) payload

/-- Receiving leaves everything but the receiving lane alone. -/
theorem always_recvPacket (background : Background ok) (passive : Passive view)
    (hearing : Hearing ok) (payloadMax : Nat) :
    Always (Quiet ok view) (recvPacket noxtls env payloadMax) :=
  always_recvPacketWith (quiet_plain ok view) (fun m t => always_log (background.macAccepted m t))
    (fun p => always_log (hearing.received p)) (fun c => always_modify (passive.recvCounter c))
    (fun n => always_modify (passive.recvSeq n)) (fun _ => always_modify fun _ => rfl)
    (always_recvExact background.toPlumbing hearing.receiving) payloadMax

end Any

end Client

end NoxSsh
