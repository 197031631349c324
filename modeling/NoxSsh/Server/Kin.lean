/-
# Server.Kin — a used server beside a fresh one

After `netnox_ssh_server_reset` a context still holds what an earlier connection left
in the fields that the reset does not mention.  `Kin known s t` relates such a context
to a fresh one: all other fields are the same, and so are those of the leftover fields
that `known` lists, because the second connection has written them by now, or because
the first one never did.

Every part of `serve_one` keeps two servers kin, and each says which of the leftover
fields it reads.
-/
import NoxSsh.Transport.Twin
import NoxSsh.Server.Rekey

namespace NoxSsh.Server

open Theory Proc Wire Transport

set_option autoImplicit false

/-! ## What is seen of a server -/

/-- The terminal a session is given, if one was asked for. -/
def terminal (s : Server) : Option Pty :=
  if s.wantPty then some ⟨s.term, s.ptyCols, s.ptyRows, s.ptyWidth, s.ptyHeight⟩ else none

/-- What is seen of an event: the event and, where a session starts, its terminal. -/
def display (e : Event × Server) : Event × Option Pty :=
  (e.1, match e.1 with
    | .sessionStarted _ => terminal e.2
    | _ => none)

/-! ## The relation -/

/-- What the application set before the server serves. -/
def given (s : Server) : Setup where
  transportFd := s.transportFd
  serverIdent := s.serverIdent
  hostEd25519Sk := s.hostEd25519Sk
  hostEd25519Pk := s.hostEd25519Pk
  hostKeyReady := s.hostKeyReady
  publickeyAllowedCb := s.publickeyAllowedCb
  rekeyThresholdBytes := s.rekeyThresholdBytes

/-- What no connection changes: the settings, and the server's own channel number. -/
structure Rooted (setup : Setup) (s : Server) : Prop where
  given : given s = setup
  ownChannel : s.localChannelId = 0

/-- The settings, and which of the leftover fields are the same. -/
structure Common where
  setup : Setup
  /-- The terminal, if there is one. -/
  terminal : Prop
  /-- The server's window. -/
  window : Prop
  /-- What a CHANNEL_OPEN says. -/
  opened : Prop
  kexinit : Prop
  session : Prop
  keys : Prop
  /-- The keys are in use. -/
  secure : Prop

structure Kin (known : Common) (s t : Server) : Prop where
  transportFd : s.transportFd = t.transportFd
  clientIdent : s.clientIdent = t.clientIdent
  serverIdent : s.serverIdent = t.serverIdent
  hostEd25519Sk : s.hostEd25519Sk = t.hostEd25519Sk
  hostEd25519Pk : s.hostEd25519Pk = t.hostEd25519Pk
  hostKeyReady : s.hostKeyReady = t.hostKeyReady
  publickeyAllowedCb : s.publickeyAllowedCb = t.publickeyAllowedCb
  authenticatedUser : s.authenticatedUser = t.authenticatedUser
  authAttempts : s.authAttempts = t.authAttempts
  sessionStarted : s.sessionStarted = t.sessionStarted
  handshakeDeadlineMs : s.handshakeDeadlineMs = t.handshakeDeadlineMs
  packetDeadlineMs : s.packetDeadlineMs = t.packetDeadlineMs
  sendDeadlineMs : s.sendDeadlineMs = t.sendDeadlineMs
  connected : s.connected = t.connected
  kexinitExchanged : s.kexinitExchanged = t.kexinitExchanged
  userauthServiceReady : s.userauthServiceReady = t.userauthServiceReady
  connectionServiceReady : s.connectionServiceReady = t.connectionServiceReady
  authenticated : s.authenticated = t.authenticated
  channelOpen : s.channelOpen = t.channelOpen
  keyExchangeComplete : s.keyExchangeComplete = t.keyExchangeComplete
  localChannelId : s.localChannelId = t.localChannelId
  given : given t = known.setup
  ownChannel : t.localChannelId = 0
  sendSeq : s.sendSeq = t.sendSeq
  recvSeq : s.recvSeq = t.recvSeq
  encryptedBytesSent : s.encryptedBytesSent = t.encryptedBytesSent
  encryptedBytesRecv : s.encryptedBytesRecv = t.encryptedBytesRecv
  rekeyThresholdBytes : s.rekeyThresholdBytes = t.rekeyThresholdBytes
  terminal : known.terminal → terminal s = terminal t
  window : known.window ∨ known.opened → s.localWindowSize = t.localWindowSize
  opened : known.opened → s.remoteChannelId = t.remoteChannelId ∧ s.remoteWindowSize = t.remoteWindowSize ∧
    s.remoteMaxPacketSize = t.remoteMaxPacketSize
  unopened : ¬ known.opened → t.channelOpen = false ∧ t.remoteMaxPacketSize = 0
  kexinit : known.kexinit → s.kexinitClientPayload = t.kexinitClientPayload ∧
    s.kexinitServerPayload = t.kexinitServerPayload
  session : known.session → s.sessionId = t.sessionId ∧ s.sessionIdLen = t.sessionIdLen ∧
    s.sharedSecretRaw = t.sharedSecretRaw
  keys : known.keys → s.c2sKey = t.c2sKey ∧ s.c2sMacKey = t.c2sMacKey ∧ s.c2sCounter = t.c2sCounter ∧
    s.s2cKey = t.s2cKey ∧ s.s2cMacKey = t.s2cMacKey ∧ s.s2cCounter = t.s2cCounter
  unkeyed : ¬ known.keys → t.keyExchangeComplete = false
  secure : known.secure → t.keyExchangeComplete = true

section Kin

variable {known : Common} {s t : Server}

theorem Kin.rooted (kin : Kin known s t) : Rooted known.setup t := ⟨kin.given, kin.ownChannel⟩

/-- Where a channel is open it was opened in this connection. -/
theorem Kin.isOpened (kin : Kin known s t) (isOpen : t.channelOpen = true) : known.opened := by
  by_contra unopened
  have closed := (kin.unopened unopened).1
  rw [closed] at isOpen
  cases isOpen

/-- Where packets are encrypted the keys are of this connection. -/
theorem Kin.isKeyed (kin : Kin known s t) (complete : t.keyExchangeComplete = true) : known.keys := by
  by_contra unkeyed
  have clear := kin.unkeyed unkeyed
  rw [clear] at complete
  cases complete

theorem Kin.sendDeadline (kin : Kin known s t) (deadline : Nat) :
    Kin known { s with sendDeadlineMs := deadline } { t with sendDeadlineMs := deadline } :=
  { kin with sendDeadlineMs := rfl }

theorem Kin.packetDeadline (kin : Kin known s t) (deadline : Nat) :
    Kin known { s with packetDeadlineMs := deadline } { t with packetDeadlineMs := deadline } :=
  { kin with packetDeadlineMs := rfl }

theorem mirrored_sendSide (known : Common) : Mirrored (Kin known) sendSide countSent where
  lane s t kin := by
    refine ⟨kin.keyExchangeComplete, fun encrypted => ?_⟩
    have complete : s.keyExchangeComplete = true := encrypted
    obtain ⟨-, -, -, key, macKey, counter⟩ := kin.keys (kin.isKeyed (kin.keyExchangeComplete.symm.trans complete))
    simp only [sendSide, kin.keyExchangeComplete, key, macKey, counter, kin.sendSeq]
  uncounted _ _ := rfl
  setCounter counter s t kin := by
    refine { kin with keys := fun keyed => ?_ }
    obtain ⟨key, macKey, own, key', macKey', -⟩ := kin.keys keyed
    exact ⟨key, macKey, own, key', macKey', rfl⟩
  bumpSeq s t kin := { kin with sendSeq := congrArg (fun seq => wrap32 (seq + 1)) kin.sendSeq }
  account n s t kin := { kin with encryptedBytesSent := by simp only [countSent, kin.encryptedBytesSent] }

theorem mirrored_recvSide (known : Common) : Mirrored (Kin known) recvSide countRecv where
  lane s t kin := by
    refine ⟨kin.keyExchangeComplete, fun encrypted => ?_⟩
    have complete : s.keyExchangeComplete = true := encrypted
    obtain ⟨key, macKey, counter, -⟩ := kin.keys (kin.isKeyed (kin.keyExchangeComplete.symm.trans complete))
    simp only [recvSide, kin.keyExchangeComplete, key, macKey, counter, kin.recvSeq]
  uncounted _ _ := rfl
  setCounter counter s t kin := by
    refine { kin with keys := fun keyed => ?_ }
    obtain ⟨key, macKey, -, others⟩ := kin.keys keyed
    exact ⟨key, macKey, rfl, others⟩
  bumpSeq s t kin := { kin with recvSeq := congrArg (fun seq => wrap32 (seq + 1)) kin.recvSeq }
  account n s t kin := { kin with encryptedBytesRecv := by simp only [countRecv, kin.encryptedBytesRecv] }

end Kin

/-! ## Packets -/

section Packets

variable {known : Common} {noxtls : Noxtls} {env : Env} {R : Server → Server → Prop}

/-- Of every event but the start of a session only the event is seen. -/
theorem shown_other {e : Event} (other : ∀ command, e ≠ .sessionStarted command) : Shown R display e := by
  intro s t _
  cases e with
  | sessionStarted command => exact absurd rfl (other command)
  | _ => rfl

theorem background_shown : Background (Shown R display) where
  wire _ := shown_other (by simp)
  expired := shown_other (by simp)
  overflow := shown_other (by simp)
  macComputed _ _ := shown_other (by simp)
  macAccepted _ _ := shown_other (by simp)

theorem hearing_shown : Hearing (Shown R display) where
  receiving _ := shown_other (by simp)
  received _ := shown_other (by simp)

theorem twins_deadline {expired : Server → Nat → Bool} (same : ∀ s t now, R s t → expired s now = expired t now) :
    Twins (Twinned R display) (deadline env expired) (deadline env expired) := by
  rw [deadline]
  apply twins_bind (twin_ask _)
  intro now
  apply twin_self_bind
  intro s t related
  apply twins_ite (by rw [same s t now related])
  · exact twins_bind (twin_log (shown_other (by simp))) fun _ => twins_fail _
  · exact twins_pure _

theorem Kin.handshakeExpired {s t : Server} (kin : Kin known s t) (now : Nat) :
    Server.handshakeExpired s now = Server.handshakeExpired t now := by
  simp only [Server.handshakeExpired, kin.sessionStarted, kin.handshakeDeadlineMs]

theorem twins_sendAll (within : ∀ s t, R s t → Kin known s t) (data : List UInt8) :
    Twins (Twinned R display) (sendAll env data) (sendAll env data) := by
  apply twins_sendAllWith background_shown.wire
  apply twins_deadline
  intro s t now related
  have kin := within s t related
  simp only [sendExpired, kin.sendDeadlineMs, kin.handshakeExpired]

theorem twins_recvExact (within : ∀ s t, R s t → Kin known s t) (len room : Nat) :
    Twins (Twinned R display) (recvExact env len room) (recvExact env len room) := by
  apply twins_recvExactWith background_shown.overflow hearing_shown.receiving
  apply twins_deadline
  intro s t now related
  have kin := within s t related
  simp only [recvExpired, kin.packetDeadlineMs, kin.handshakeExpired]

theorem twins_recvLine (outLen : Nat) :
    Twins (Twinned (Kin known) display) (recvLine env outLen) (recvLine env outLen) := by
  apply twins_recvLineWith hearing_shown.receiving
  apply twins_deadline
  intro s t now kin
  simp only [lineExpired, kin.handshakeDeadlineMs]

theorem twins_fillRandom (len : Nat) : Twins (Twinned R display) (fillRandom env len) (fillRandom env len) := by
  rw [fillRandom]
  apply twins_bind (twin_ask _)
  intro bytes
  cases bytes with
  | none => exact twins_fail _
  | some bytes => exact twins_pure _

theorem twins_sendPacket (payload : List UInt8) :
    Twins (Twinned (Kin known) display) (sendPacket noxtls env payload) (sendPacket noxtls env payload) := by
  have sends : ∀ data, Twins (Twinned (Kin known) display) (sendAll env data) (sendAll env data) :=
    twins_sendAll fun _ _ => id
  rw [sendPacket]
  apply twins_ensure_bind _ Iff.rfl
  intro _ _
  apply twins_bind (twin_log (shown_other (e := .sending payload) (by simp)))
  intro _
  apply twins_bind (twin_ask _)
  intro now
  apply twins_bind (twins_modify fun s t kin => kin.sendDeadline _)
  intro _
  apply twins_bind
  · apply twins_sendPacketWith (mirrored_sendSide known) background_shown.macComputed twins_fillRandom sends
    exact fun enc mac => twins_bind (sends enc) fun _ => sends mac
  · exact fun _ => twin_log (shown_other (by simp))

theorem twins_recvPacket (payloadMax : Nat) :
    Twins (Twinned (Kin known) display) (recvPacket noxtls env payloadMax) (recvPacket noxtls env payloadMax) := by
  rw [recvPacket]
  apply twins_bind (twin_ask _)
  intro now
  apply twins_bind (twins_modify fun s t kin => kin.packetDeadline _)
  intro _
  exact twins_recvPacketWith (mirrored_recvSide known) background_shown.macAccepted hearing_shown.received
    (fun R' within => twins_recvExact within) payloadMax

theorem twins_recvInto (payloadMax : Nat) :
    Twins (Twinned (Kin known) display) (recvInto noxtls env payloadMax) (recvInto noxtls env payloadMax) := by
  apply twins_bind (twins_recvPacket payloadMax)
  intro payload
  apply twins_bind (twin_ask _)
  exact fun rest => twins_pure _

end Packets

/-! ## The handshake -/

/-- Only what is seen is the same, and what no connection changes. -/
abbrev Loose (setup : Setup) : Host Server → Host Server → Prop := Twinned (fun _ t => Rooted setup t) display

section Handshake

variable {known : Common} {noxtls : Noxtls} {env : Env} {R : Server → Server → Prop} {α : Type}

theorem loosen {h h' : Host Server} (twinned : Twinned (Kin known) display h h') : Loose known.setup h h' :=
  twinned.mono fun _ _ kin => kin.rooted

/-- Where it ends with a failure the leftover fields do not matter any more. -/
theorem twin_loose {m m' : Prog Server α} (twins : Twins (Twinned (Kin known) display) m m') :
    Twin (Twinned (Kin known) display) m m' (fun _ => Twinned (Kin known) display) (Loose known.setup) :=
  twins.mono (fun _ _ => id) (fun _ _ _ => id) fun _ _ => loosen

theorem twins_buildKexinit : Twins (Twinned R display) (buildKexinit env) (buildKexinit env) := by
  apply twins_bind ((twins_fillRandom 16).failAs _)
  exact fun cookie => twins_lift _ rfl

/-- Both KEXINIT payloads are new. -/
theorem twin_exchangeKexinit :
    Twin (Twinned (Kin known) display) (exchangeKexinit noxtls env) (exchangeKexinit noxtls env)
      (fun _ => Twinned (Kin { known with kexinit := True }) display) (Loose known.setup) := by
  rw [exchangeKexinit]
  apply twin_self_bind
  intro s t kin
  apply twin_ensure_bind _ (by rw [kin.connected]) fun _ _ => loosen
  intro _ _
  apply twin_bind (twin_loose ((twins_recvInto maxPacketLen).failAs _))
  rintro ⟨rx, m⟩
  apply twin_ensure_bind _ Iff.rfl fun _ _ => loosen
  intro _ _
  apply twin_ensure_bind _ Iff.rfl fun _ _ => loosen
  intro _ _
  apply twin_bind (Q := fun _ => Twinned (fun s t => Kin known s t ∧ s.kexinitClientPayload = t.kexinitClientPayload) display)
  · apply twin_modify
    intro s t kin
    refine ⟨{ kin with kexinit := fun same => ?_ }, rfl⟩
    exact ⟨rfl, (kin.kexinit same).2⟩
  · have rooted : ∀ h h', Twinned (fun s t => Kin known s t ∧ s.kexinitClientPayload = t.kexinitClientPayload) display h h' →
        Loose known.setup h h' := fun _ _ twinned => twinned.mono fun _ _ both => both.1.rooted
    intro _
    apply twin_ensure_bind _ Iff.rfl rooted
    intro _ _
    apply twin_bind ((twins_buildKexinit.failAs _).mono (fun _ _ => id) (fun _ _ _ => id) rooted)
    intro tx
    apply twin_ensure_bind _ Iff.rfl rooted
    intro _ _
    apply twin_bind (Q := fun _ => Twinned (Kin { known with kexinit := True }) display)
    · apply twin_modify
      rintro s t ⟨kin, client⟩
      exact { kin with kexinit := fun _ => ⟨client, rfl⟩ }
    · intro _
      apply twin_loose
      apply twins_bind ((twins_sendPacket tx).failAs _)
      exact fun _ => twins_modify fun s t kin => { kin with kexinitExchanged := rfl }

/-- The session identifier and the secret are new. -/
theorem twin_replyTo (kexinit : known.kexinit) (clientPub : List UInt8) :
    Twin (Twinned (Kin known) display) (replyTo noxtls env clientPub) (replyTo noxtls env clientPub)
      (fun _ => Twinned (Kin { known with session := True }) display) (Loose known.setup) := by
  rw [replyTo]
  apply twin_bind (twin_loose ((twins_fillRandom 32).failAs _))
  intro seed
  apply twin_lift_bind _ rfl fun _ _ => loosen
  intro serverPub _
  apply twin_lift_bind _ rfl fun _ _ => loosen
  intro secret _
  apply twin_self_bind
  intro s t kin
  obtain ⟨client, server⟩ := kin.kexinit kexinit
  rw [kin.hostEd25519Pk, kin.clientIdent, kin.serverIdent, client, server, kin.hostEd25519Sk]
  apply twin_lift_bind _ rfl fun _ _ => loosen
  intro hostBlob _
  apply twin_lift_bind _ rfl fun _ _ => loosen
  intro exchangeHash _
  apply twin_bind (Q := fun _ => Twinned (Kin { known with session := True }) display)
  · exact twin_modify fun s t kin => { kin with session := fun _ => ⟨rfl, rfl, rfl⟩ }
  · intro _
    apply twin_loose
    apply twins_lift_bind _ rfl
    intro signature _
    apply twins_lift_bind _ rfl
    exact fun sigWire _ => twins_lift _ rfl

/-- The keys are new. -/
theorem twin_deriveKeys (session : known.session) :
    Twin (Twinned (Kin known) display) (deriveKeys noxtls env) (deriveKeys noxtls env)
      (fun _ => Twinned (Kin { known with keys := True }) display) (Loose known.setup) := by
  rw [deriveKeys]
  apply twin_self_bind
  intro s t kin
  obtain ⟨id, idLen, secret⟩ := kin.session session
  rw [id, idLen, secret]
  apply twin_ensure_bind _ Iff.rfl fun _ _ => loosen
  intro _ _
  apply twin_lift_bind _ rfl fun _ _ => loosen
  intro keys _
  apply twin_modify
  intro s t kin
  exact { kin with keys := fun _ => ⟨rfl, rfl, rfl, rfl, rfl, rfl⟩, unkeyed := fun never => absurd trivial never }

theorem twin_performCurve25519Kex (kexinit : known.kexinit) :
    Twin (Twinned (Kin known) display) (performCurve25519Kex noxtls env) (performCurve25519Kex noxtls env)
      (fun _ => Twinned (Kin { known with session := True, keys := True, secure := True }) display)
      (Loose known.setup) := by
  rw [performCurve25519Kex]
  apply twin_self_bind
  intro s t kin
  rw [kin.kexinitExchanged, kin.hostKeyReady]
  apply twin_ensure_bind _ Iff.rfl fun _ _ => loosen
  intro _ _
  apply twin_bind (twin_loose ((twins_recvInto 2048).failAs _))
  rintro ⟨init, m⟩
  apply twin_ensure_bind _ Iff.rfl fun _ _ => loosen
  intro _ _
  apply twin_lift_bind _ rfl fun _ _ => loosen
  rintro ⟨clientPub, off⟩ _
  apply twin_ensure_bind _ Iff.rfl fun _ _ => loosen
  intro _ _
  apply twin_bind (twin_replyTo kexinit _)
  intro reply
  apply twin_bind (twin_loose ((twins_sendPacket reply).failAs _))
  intro _
  apply twin_bind (twin_loose ((twins_sendPacket [21]).failAs _))
  intro _
  apply twin_bind (twin_loose ((twins_recvInto 64).failAs _))
  rintro ⟨rx, m'⟩
  apply twin_ensure_bind _ Iff.rfl fun _ _ => loosen
  intro _ _
  apply twin_bind ((twin_deriveKeys trivial).failAs _)
  intro _
  apply twin_modify
  intro s t kin
  exact { kin with keyExchangeComplete := rfl, unkeyed := fun never => absurd trivial never, secure := fun _ => rfl }

theorem twins_readIdent : ∀ lines, Twins (Twinned (Kin known) display) (readIdent env lines) (readIdent env lines) := by
  intro lines
  induction lines with
  | zero => exact twins_pure ()
  | succ lines ih =>
      rw [readIdent]
      apply twins_bind ((twins_recvLine 256).failAs _)
      intro line
      apply twins_ite Iff.rfl _ ih
      cases copyString 256 line with
      | error e => exact twins_fail _
      | ok ident => exact twins_modify fun s t kin => { kin with clientIdent := rfl }

/-- After the handshake everything it has to do with is of this connection. -/
theorem twin_handshakeToEncrypted :
    Twin (Twinned (Kin known) display) (handshakeToEncrypted noxtls env) (handshakeToEncrypted noxtls env)
      (fun _ => Twinned (Kin { known with kexinit := True, session := True, keys := True, secure := True }) display)
      (Loose known.setup) := by
  rw [handshakeToEncrypted]
  apply twin_self_bind
  intro s t kin
  apply twin_ensure_bind _ (by rw [kin.hostKeyReady]) fun _ _ => loosen
  intro _ _
  apply twin_bind (twin_loose (twins_readIdent _))
  intro _
  apply twin_self_bind
  intro s t kin
  rw [kin.clientIdent, kin.serverIdent]
  apply twin_ensure_bind _ Iff.rfl fun _ _ => loosen
  intro _ _
  apply twin_bind (twin_loose ((twins_sendAll (fun _ _ => id) _).failAs _))
  intro _
  apply twin_bind (twin_loose (twins_modify (f := setConnected) (g := setConnected) fun s t kin => { kin with connected := rfl }))
  intro _
  apply twin_bind (twin_exchangeKexinit.failAs _)
  intro _
  exact (twin_performCurve25519Kex trivial).failAs _

end Handshake

/-! ## Messages -/

section Messages

variable {known : Common} {noxtls : Noxtls} {env : Env} {s t : Server}

theorem twins_sendBuilt (built : Option (List UInt8)) :
    Twins (Twinned (Kin known) display) (sendBuilt noxtls env built) (sendBuilt noxtls env built) := by
  apply twins_lift_bind _ rfl
  exact fun payload _ => twins_sendPacket payload

theorem twins_sendChannelMessage (opened : known.opened) (max : Nat) (number : UInt8) :
    Twins (Twinned (Kin known) display) (sendChannelMessage noxtls env max number)
      (sendChannelMessage noxtls env max number) := by
  apply twin_self_bind
  intro s t kin
  rw [(kin.opened opened).1]
  exact twins_sendBuilt _

theorem twins_sendExitStatus (opened : known.opened) (status : Nat) :
    Twins (Twinned (Kin known) display) (sendExitStatus noxtls env status) (sendExitStatus noxtls env status) := by
  apply twin_self_bind
  intro s t kin
  rw [(kin.opened opened).1]
  exact twins_sendBuilt _

theorem Kin.maxChunk (kin : Kin known s t) (opened : known.opened) : Server.maxChunk s = Server.maxChunk t := by
  simp only [Server.maxChunk, (kin.opened opened).2.2]

theorem Kin.setRemoteWindow (kin : Kin known s t) (n : Nat) :
    Kin known (Server.setRemoteWindow n s) (Server.setRemoteWindow n t) :=
  { kin with opened := fun opened => ⟨(kin.opened opened).1, rfl, (kin.opened opened).2.2⟩ }

theorem twins_sendChannelDataChunk (opened : known.opened) (data : List UInt8) :
    Twins (Twinned (Kin known) display) (sendChannelDataChunk noxtls env data) (sendChannelDataChunk noxtls env data) := by
  rw [sendChannelDataChunk]
  apply twins_ensure_bind _ Iff.rfl
  intro _ _
  apply twin_self_bind
  intro s t kin
  dsimp only
  rw [kin.maxChunk opened, (kin.opened opened).1, (kin.opened opened).2.1]
  apply twins_lift_bind _ rfl
  intro payload _
  apply twins_ensure_bind _ Iff.rfl
  intro _ _
  apply twins_bind (twins_modify fun s t kin => kin.setRemoteWindow _)
  exact fun _ => twins_sendPacket payload

theorem Kin.setLocalWindow (kin : Kin known s t) (n : Nat) :
    Kin known (Server.setLocalWindow n s) (Server.setLocalWindow n t) :=
  { kin with window := fun _ => rfl }

theorem twins_maybeWindowAdjust (near : known.window ∨ known.opened) :
    Twins (Twinned (Kin known) display) (maybeWindowAdjust noxtls env) (maybeWindowAdjust noxtls env) := by
  apply twin_self_bind
  intro s t kin
  rw [kin.window near, kin.localChannelId]
  apply twins_ite Iff.rfl (twins_pure ())
  apply twins_lift_bind _ rfl
  intro payload _
  apply twins_bind (twins_modify fun s t kin => kin.setLocalWindow _)
  exact fun _ => twins_sendPacket payload

theorem twins_handleGlobalRequest (payload : List UInt8) (m : Mem) :
    Twins (Twinned (Kin known) display) (handleGlobalRequest noxtls env payload m)
      (handleGlobalRequest noxtls env payload m) := by
  rw [handleGlobalRequest]
  apply twins_ensure_bind _ Iff.rfl
  intro _ _
  apply twins_lift_bind _ rfl
  intro wantReply _
  exact twins_ite Iff.rfl (twins_sendPacket [82]) (twins_pure ())

theorem twins_closeChannel :
    Twins (Twinned (Kin known) display) (modify (setChannelOpen false)) (modify (setChannelOpen false)) := by
  apply twins_modify
  intro s t kin
  exact { kin with channelOpen := rfl, unopened := fun unopened => ⟨rfl, (kin.unopened unopened).2⟩ }

/-- A CLOSE is answered with the client's channel, where a channel is open. -/
theorem twins_handleChannelEnd (payload : List UInt8) (m : Mem) :
    Twins (Twinned (Kin known) display) (handleChannelEnd noxtls env payload m)
      (handleChannelEnd noxtls env payload m) := by
  rw [handleChannelEnd]
  apply twin_self_bind
  intro s t kin
  rw [kin.localChannelId, kin.channelOpen]
  apply twins_ensure_bind _ Iff.rfl
  intro _ _
  apply twin_ite Iff.rfl
  · intro closes _
    apply twins_bind ((twins_sendChannelMessage (kin.isOpened closes.2) 32 97).failAs _)
    exact fun _ => twins_closeChannel
  · exact fun _ _ => twins_pure ()

theorem twins_beginCloseWait (deadlineMs : Nat) {R : Server → Server → Prop} :
    Twins (Twinned R display) (beginCloseWait env deadlineMs) (beginCloseWait env deadlineMs) := by
  apply twins_ite Iff.rfl (twins_pure deadlineMs)
  apply twins_bind (twin_ask _)
  intro now
  apply twins_ensure_bind _ Iff.rfl
  exact fun _ _ => twins_pure _

end Messages

/-! ## A session -/

section Session

variable {known : Common} {noxtls : Noxtls} {env : Env} {s t : Server}

theorem Kin.wantPty (kin : Kin known s t) (same : known.terminal) : s.wantPty = t.wantPty := by
  have given := kin.terminal same
  unfold Server.terminal at given
  cases wants : s.wantPty <;> cases wants' : t.wantPty <;> simp [wants, wants'] at given ⊢

theorem Kin.rekeyDue (kin : Kin known s t) : Server.rekeyDue s = Server.rekeyDue t := by
  simp only [Server.rekeyDue, kin.rekeyThresholdBytes, kin.encryptedBytesSent, kin.encryptedBytesRecv]

theorem Kin.readCap (kin : Kin known s t) (opened : known.opened) : Server.readCap s = Server.readCap t := by
  simp only [Server.readCap, (kin.opened opened).2.1, (kin.opened opened).2.2]

theorem Kin.sessionData (kin : Kin known s t) (opened : known.opened) (payload : List UInt8) (m : Mem) :
    Server.sessionData s payload m = Server.sessionData t payload m := by
  simp only [Server.sessionData, kin.localChannelId, kin.window (.inr opened)]

theorem Kin.adjustedWindow (kin : Kin known s t) (opened : known.opened) (payload : List UInt8) (m : Mem) :
    Server.adjustedWindow s payload m = Server.adjustedWindow t payload m := by
  simp only [Server.adjustedWindow, kin.localChannelId, (kin.opened opened).2.1]

theorem Kin.terminalRequestOk (kin : Kin known s t) (payload : List UInt8) (m : Mem) :
    Server.terminalRequestOk s payload m = Server.terminalRequestOk t payload m := by
  simp only [Server.terminalRequestOk, kin.localChannelId]

theorem twins_writeChild (note : List UInt8 → Event) (quiet : ∀ bytes command, note bytes ≠ .sessionStarted command) :
    ∀ turns data, Twins (Twinned (Kin known) display) (writeChild env note turns data) (writeChild env note turns data) := by
  intro turns
  induction turns with
  | zero =>
      intro data
      cases data with
      | nil => exact twins_pure true
      | cons c data => exact twins_stall
  | succ turns ih =>
      intro data
      cases data with
      | nil => exact twins_pure true
      | cons c data =>
          rw [writeChild]
          apply twins_bind (twin_ask _)
          intro upTo
          apply twins_ite Iff.rfl
          · exact twins_bind (twin_log (shown_other (e := .childRefused) (by simp))) fun _ => twins_pure false
          · exact twins_bind (twin_log (shown_other (quiet _))) fun _ => ih _

theorem twins_orBreak {m m' : Prog Server Unit} (twins : Twins (Twinned (Kin known) display) m m') :
    Twins (Twinned (Kin known) display) (orBreak m) (orBreak m') := by
  apply twins_bind (twin_attempt twins)
  intro done
  cases done with
  | none => exact twins_pure _
  | some _ => exact twins_pure _

theorem twins_sessionPacket (terminal : known.terminal) (opened : known.opened) (payload : List UInt8) (m : Mem) :
    Twins (Twinned (Kin known) display) (sessionPacket noxtls env payload m) (sessionPacket noxtls env payload m) := by
  unfold sessionPacket
  apply twin_self_bind
  intro s t kin
  rw [kin.sessionData opened, kin.adjustedWindow opened, kin.terminalRequestOk, kin.wantPty terminal,
    kin.window (.inr opened)]
  split
  · exact twins_pure _
  · exact twins_orBreak (twins_handleGlobalRequest payload m)
  · cases sessionData t payload m with
    | none => exact twins_pure _
    | some data =>
        apply twins_bind (twins_writeChild .childInput (by simp) _ _)
        intro wrote
        apply twins_ite Iff.rfl _ (twins_pure _)
        apply twins_bind (twins_modify fun s t kin => kin.setLocalWindow _)
        exact fun _ => twins_orBreak (twins_maybeWindowAdjust (.inr opened))
  · cases adjustedWindow t payload m with
    | none => exact twins_pure _
    | some window =>
        apply twins_bind (twins_modify fun s t kin => kin.setRemoteWindow window)
        exact fun _ => twins_pure _
  · apply twins_bind (twin_attempt (twins_handleChannelEnd payload m))
    intro done
    cases done with
    | none => exact twins_pure _
    | some _ =>
        apply twins_ite Iff.rfl _ (twins_pure _)
        exact twins_bind (twins_writeChild (fun _ => .childEot) (by simp) _ _) fun _ => twins_pure _
  · apply twins_bind (twin_attempt (twins_handleChannelEnd payload m))
    intro done
    cases done with
    | none => exact twins_pure _
    | some _ => exact twins_pure _
  · exact twins_pure _
  · apply twins_ite Iff.rfl _ (twins_pure _)
    exact twins_ite Iff.rfl (twins_pure _) (twins_pure _)
  · exact twins_pure _

theorem twins_sessionOutput (opened : known.opened) (child : Child) :
    Twins (Twinned (Kin known) display) (sessionOutput noxtls env child) (sessionOutput noxtls env child) := by
  apply twins_bind (twin_ask _)
  intro answer
  cases answer with
  | bytes output =>
      apply twin_self_bind
      intro s t kin
      dsimp only
      rw [kin.readCap opened]
      apply twins_ite Iff.rfl (twins_pure _)
      apply twins_bind (twin_log (shown_other (e := .childOutput _) (by simp)))
      intro _
      apply twins_bind (twin_attempt (twins_sendChannelDataChunk opened _))
      intro done
      cases done with
      | none => exact twins_pure _
      | some _ => exact twins_pure _
  | eof => exact twins_pure _
  | again => exact twins_pure _
  | error => exact twins_pure _

theorem twins_reapChild (child : Child) :
    Twins (Twinned (Kin known) display) (reapChild env child) (reapChild env child) := by
  apply twins_ite Iff.rfl _ (twins_pure _)
  apply twins_bind (twin_ask _)
  intro answer
  cases answer with
  | none => exact twins_pure _
  | some status => exact twins_bind (twin_log (shown_other (e := .childReaped status) (by simp))) fun _ => twins_pure _

theorem twins_sessionReap (opened : known.opened) (child : Child) :
    Twins (Twinned (Kin known) display) (sessionReap noxtls env child) (sessionReap noxtls env child) := by
  apply twins_bind (twins_reapChild child)
  intro reaped
  dsimp only
  split
  · apply twins_bind
    · apply twin_attempt
      apply twins_bind (twins_sendExitStatus opened _)
      intro _
      exact twins_bind (twins_sendChannelMessage opened _ _) fun _ => twins_sendChannelMessage opened _ _
    · intro done
      cases done with
      | none => exact twins_pure _
      | some _ => exact twins_bind twins_closeChannel fun _ => twins_pure _
  · exact twins_pure _

theorem twins_sessionChild (opened : known.opened) (child : Child) (ready : Bool) :
    Twins (Twinned (Kin known) display) (sessionChild noxtls env child ready) (sessionChild noxtls env child ready) := by
  apply twins_ite Iff.rfl _ (twins_sessionReap opened child)
  apply twin_self_bind
  intro s t kin
  rw [kin.readCap opened]
  apply twins_ite Iff.rfl (twins_pure _)
  apply twins_bind (twins_sessionOutput opened child)
  intro child
  cases child with
  | none => exact twins_pure _
  | some child => exact twins_sessionReap opened child

theorem twins_sessionTurn (terminal : known.terminal) (opened : known.opened) (child : Child) :
    Twins (Twinned (Kin known) display) (sessionTurn noxtls env child) (sessionTurn noxtls env child) := by
  apply twin_self_bind
  intro s t kin
  rw [kin.rekeyDue, (kin.opened opened).2.1]
  apply twins_ite Iff.rfl (twins_pure _)
  apply twins_bind (twin_ask _)
  intro answer
  cases answer with
  | interrupted => exact twins_pure _
  | error => exact twins_pure _
  | timeout => exact twins_ite Iff.rfl (twins_sessionChild opened child false) (twins_pure _)
  | ready transport output =>
      apply twins_ite Iff.rfl (twins_pure _)
      apply twins_ite Iff.rfl _ (twins_sessionChild opened child _)
      apply twins_bind (twin_attempt (twins_recvInto maxPacketLen))
      intro got
      match got with
      | none => exact twins_pure _
      | some (payload, m) =>
          apply twins_bind (twins_sessionPacket terminal opened payload m)
          intro broken
          cases broken with
          | some peerClosed => exact twins_pure _
          | none =>
              apply twins_bind (twin_log (shown_other (e := .sessionGoesOn) (by simp)))
              exact fun _ => twins_sessionChild opened child _

theorem twins_sessionLoop (terminal : known.terminal) (opened : known.opened) :
    ∀ turns child, Twins (Twinned (Kin known) display) (sessionLoop noxtls env turns child)
      (sessionLoop noxtls env turns child) := by
  intro turns
  induction turns with
  | zero => exact fun _ => twins_stall
  | succ turns ih =>
      intro child
      apply twins_bind (twins_sessionTurn terminal opened child)
      intro turn
      cases turn with
      | again child => exact ih child
      | complete => exact twins_pure ()
      | broken peerClosed =>
          apply twins_bind twins_closeChannel
          exact fun _ => twins_ite Iff.rfl (twins_pure ()) (twins_fail _)

theorem twins_runSessionUnix (terminal : known.terminal) (opened : known.opened) (turns : Nat)
    (command : Option (List UInt8)) :
    Twins (Twinned (Kin known) display) (runSessionUnix noxtls env turns command) (runSessionUnix noxtls env turns command) := by
  have starts : Shown (Kin known) display (.sessionStarted command) :=
    fun s t kin => congrArg (Prod.mk (Event.sessionStarted command)) (kin.terminal terminal)
  apply twin_self_bind
  intro s t kin
  rw [kin.transportFd, kin.authenticatedUser]
  apply twins_ensure_bind _ Iff.rfl
  intro _ _
  apply twins_bind (twin_log starts)
  intro _
  apply twins_bind (twins_modify fun s t kin => { kin with sessionStarted := rfl })
  intro _
  apply twins_bind (twin_ask _)
  intro forked
  apply twins_ensure_bind _ Iff.rfl
  exact fun _ _ => twins_sessionLoop terminal opened turns _

end Session

end NoxSsh.Server
