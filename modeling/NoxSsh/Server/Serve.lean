/-
# Server.Serve — user authentication and the dispatch loop

`serveOne` is `netnox_ssh_server_serve_one`: the handshake and then packet after
packet, with the close deadline as the only variable of the loop.  A turn either
goes on with a deadline, or the server is done; a failure ends the connection too.
-/
import NoxSsh.Server.Kex
import NoxSsh.Server.Channel

namespace NoxSsh.Server

open Theory Proc Wire Transport

set_option autoImplicit false

/-! ## Updates of the context -/

def setHandshakeDeadline (deadlineMs : Nat) (s : Server) : Server :=
  { s with handshakeDeadlineMs := deadlineMs }

def setUserauthReady (s : Server) : Server := { s with userauthServiceReady := true }

def setConnectionReady (s : Server) : Server := { s with connectionServiceReady := true }

def countAttempt (s : Server) : Server := { s with authAttempts := s.authAttempts + 1 }

/-- The login: the user's name and the flags that open the connection protocol. -/
def setAuthenticated (user : List UInt8) (s : Server) : Server :=
  { s with authenticatedUser := user, authenticated := true, connectionServiceReady := true }

def setRemoteLimits (window maxPacket : Nat) (s : Server) : Server :=
  { s with remoteWindowSize := window, remoteMaxPacketSize := if maxPacket ≠ 0 then maxPacket else 32768 }

structure Pty where
  term : List UInt8
  cols : Nat
  rows : Nat
  width : Nat
  height : Nat
  deriving DecidableEq, Repr

def setPty (pty : Pty) (s : Server) : Server :=
  { s with
    term := pty.term
    ptyCols := pty.cols
    ptyRows := pty.rows
    ptyWidth := pty.width
    ptyHeight := pty.height
    wantPty := true }

/-! ## Requests as they are read -/

/-- Read on only if `c` holds. -/
def require (c : Prop) [Decidable c] : Option Unit := if c then some () else none

theorem require_bind {α : Type} {c : Prop} [Decidable c] {k : Unit → Option α} {a : α} :
    (require c >>= k) = some a ↔ c ∧ k () = some a := by
  unfold require
  split <;> simp_all

/-- A public key request up to the key: who, whether it is signed, the key and its
blob, and where the signed part ends. -/
structure PublickeyRequest where
  user : List UInt8
  signed : Bool
  keyBlob : List UInt8
  key : List UInt8
  reqLen : Nat
  deriving DecidableEq, Repr

/-- Everything the source checks before it asks `publickey_allowed_cb`. -/
def readPublickey (hasCallback : Bool) (m : Mem) (plen : Nat) (user : View) (off : Nat) :
    Option PublickeyRequest := do
  require (user.len ≠ 0 ∧ user.len < 65 ∧ 0 ∉ user.bytes m ∧ hasCallback = true ∧ off < plen)
  let signedFlag := m off
  require (signedFlag ≤ 1)
  let (alg, off) ← payloadReadStringView m plen (off + 1)
  let (keyBlob, off) ← payloadReadStringView m plen off
  require (alg.bytes m = algEd25519)
  let blob := m.at keyBlob.start
  let (blobAlg, blobOff) ← payloadReadStringView blob keyBlob.len 0
  let (key, blobOff) ← payloadReadStringView blob keyBlob.len blobOff
  require (blobOff = keyBlob.len ∧ blobAlg.bytes blob = algEd25519 ∧ key.len = 32)
  some ⟨user.bytes m, signedFlag = 1, keyBlob.bytes m, key.bytes blob, off⟩

/-- The signature, which must end the packet. -/
def readSignature (m : Mem) (plen off : Nat) : Option (List UInt8) := do
  let (sigBlob, off) ← payloadReadStringView m plen off
  require (off = plen)
  let blob := m.at sigBlob.start
  let (sigAlg, sigOff) ← payloadReadStringView blob sigBlob.len 0
  let (sig, sigOff) ← payloadReadStringView blob sigBlob.len sigOff
  require (sigOff = sigBlob.len ∧ sigAlg.bytes blob = algEd25519 ∧ sig.len = 64)
  some (sig.bytes blob)

/-- What a user signs: the session identifier as a string, then the request. -/
def toSign (s : Server) (m : Mem) (reqLen : Nat) : List UInt8 :=
  be32 s.sessionIdLen ++ s.sessionId.take s.sessionIdLen ++ slice m 0 reqLen

/-- A `pty-req` after its want-reply byte. -/
def readPty (m : Mem) (plen off : Nat) : Option Pty := do
  let (term, off) ← payloadReadStringView m plen off
  require (term.len < 65 ∧ 0 ∉ term.bytes m)
  let (cols, off) ← payloadReadU32 m plen off
  let (rows, off) ← payloadReadU32 m plen off
  let (width, off) ← payloadReadU32 m plen off
  let (height, off) ← payloadReadU32 m plen off
  let (_, off) ← payloadReadStringView m plen off
  require (off = plen)
  some ⟨term.bytes m, cols, rows, width, height⟩

/-- The command of an `exec` after its want-reply byte. -/
def readCommand (m : Mem) (plen off : Nat) : Option (List UInt8) := do
  let (cmd, off) ← payloadReadStringView m plen off
  require (cmd.len ≤ 512 ∧ 0 ∉ cmd.bytes m ∧ off = plen)
  some (cmd.bytes m)

/-- How a turn of `serve_one` ends, if it does not fail. -/
inductive Next where
  | again (closeDeadlineMs : Nat)
  | done
  deriving DecidableEq, Repr

/-- What `srv_wait_close_packet` answers. -/
inductive CloseWait where
  | readable
  | retry
  | over
  | error
  deriving DecidableEq, Repr

section Functions

variable (noxtls : Noxtls) (env : Env)

/-! ## User authentication -/

/-- The public key method, once the callback has allowed the key. -/
def checkSignature (p : List UInt8) (m : Mem) (req : PublickeyRequest) : Prog Server Unit := do
  if req.signed then
    match readSignature m p.length req.reqLen with
    | none => sendUserauthFailure noxtls env false
    | some sig => do
        let memory ← ask env.malloc
        ensure (memory = true) .failed
        if noxtls.ed25519Verify req.key (toSign (← self) m req.reqLen) sig then do
          modify (setAuthenticated req.user)
          sendUserauthSuccess noxtls env
        else sendUserauthFailure noxtls env false
  else if req.reqLen ≠ p.length then sendUserauthFailure noxtls env false
  else sendUserauthPkOk noxtls env algEd25519 req.keyBlob

/-- The public key method. -/
def publickeyAuth (p : List UInt8) (m : Mem) (user : View) (off : Nat) : Prog Server Unit := do
  match readPublickey (← self).publickeyAllowedCb m p.length user off with
  | none => sendUserauthFailure noxtls env false
  | some req => do
      let allowed ← ask fun t => env.publickeyAllowed t req.user req.key
      log (.keyAllowed req.user req.key allowed)
      if allowed then checkSignature noxtls env p m req
      else sendUserauthFailure noxtls env false

/-- `srv_handle_userauth_request`. -/
def handleUserauthRequest (p : List UInt8) (m : Mem) : Prog Server Unit := do
  ensure (2 ≤ p.length ∧ p.head? = some 50) .failed
  let (user, off) ← lift .failed (payloadReadStringView m p.length 1)
  let (service, off) ← lift .failed (payloadReadStringView m p.length off)
  let (method, off) ← lift .failed (payloadReadStringView m p.length off)
  if service.bytes m ≠ ascii "ssh-connection" then sendUserauthFailure noxtls env false
  else if method.bytes m = ascii "publickey" then publickeyAuth noxtls env p m user off
  else sendUserauthFailure noxtls env false

/-! ## Dispatch -/

/-- SERVICE_REQUEST. -/
def serviceRequest (payload : List UInt8) (m : Mem) : Prog Server Unit := do
  let (svc, _) ← lift .failed (payloadReadStringView m payload.length 1)
  let s ← self
  if svc.bytes m = ascii "ssh-userauth" then do
    modify setUserauthReady
    failAs .failed (sendServiceAccept noxtls env "ssh-userauth")
  else if s.authenticated = true ∧ svc.bytes m = ascii "ssh-connection" then do
    modify setConnectionReady
    failAs .failed (sendServiceAccept noxtls env "ssh-connection")
  else fail .failed

/-- USERAUTH_REQUEST: one user per connection, six attempts. -/
def userauthRequest (payload : List UInt8) (m : Mem) : Prog Server Unit := do
  let s ← self
  ensure (s.userauthServiceReady = true) .failed
  ensure (s.authenticated = false) .failed
  modify countAttempt
  ensure ((← self).authAttempts ≤ 6) .failed
  failAs .failed (handleUserauthRequest noxtls env payload m)

/-- CHANNEL_OPEN: a session channel, one at a time, none once the connection is closing. -/
def channelOpenRequest (closeDeadlineMs : Nat) (payload : List UInt8) (m : Mem) : Prog Server Unit := do
  ensure (closeDeadlineMs = 0) .failed
  let s ← self
  ensure (s.authenticated = true ∧ s.connectionServiceReady = true) .failed
  let (typ, off) ← lift .failed (payloadReadStringView m payload.length 1)
  let (sender, off) ← lift .failed (payloadReadU32 m payload.length off)
  let (clientInitWin, off) ← lift .failed (payloadReadU32 m payload.length off)
  let (clientMaxPkt, _) ← lift .failed (payloadReadU32 m payload.length off)
  ensure (typ.bytes m = ascii "session") .failed
  ensure (s.channelOpen = false ∧ 128 ≤ clientMaxPkt) .failed
  modify (setRemoteLimits clientInitWin clientMaxPkt)
  failAs .failed (sendChannelOpenConfirmation noxtls env sender)
  modify (setChannelOpen true)

/-- Refuse a channel request if an answer is wanted; whether it goes out is not asked. -/
def refuse (wantReply : Bool) : Prog Server Unit := do
  if wantReply then do
    let _ ← attempt (sendChannelFailure noxtls env)
    pure ()
  else pure ()

/-- Confirm a channel request if an answer is wanted. -/
def confirm (wantReply : Bool) : Prog Server Unit :=
  if wantReply then failAs .failed (sendChannelSuccess noxtls env) else pure ()

/-- Run a session for a channel request and start the close wait. -/
def runAndClose (turns : Nat) (wantReply : Bool) (command : Option (List UInt8)) (closeDeadlineMs : Nat) :
    Prog Server Nat := do
  confirm noxtls env wantReply
  failAs .failed (runSessionUnix noxtls env turns command)
  failAs .failed (beginCloseWait env closeDeadlineMs)

/-- CHANNEL_REQUEST on the open channel, after its want-reply byte.  The result is
the close deadline. -/
def channelRequestBody (turns closeDeadlineMs : Nat) (payload : List UInt8) (m : Mem) (req : View)
    (off : Nat) : Prog Server Nat := do
  let wantReply : Bool := m off ≠ 0
  let s ← self
  if req.bytes m = ascii "pty-req" then
    match (if s.wantPty then none else readPty m payload.length (off + 1)) with
    | none => do
        refuse noxtls env wantReply
        pure closeDeadlineMs
    | some pty => do
        modify (setPty pty)
        confirm noxtls env wantReply
        pure closeDeadlineMs
  else if req.bytes m = ascii "exec" then
    match readCommand m payload.length (off + 1) with
    | none => do
        refuse noxtls env wantReply
        pure closeDeadlineMs
    | some command => runAndClose noxtls env turns wantReply (some command) closeDeadlineMs
  else if req.bytes m = ascii "shell" then
    if off + 1 ≠ payload.length then do
      refuse noxtls env wantReply
      pure closeDeadlineMs
    else runAndClose noxtls env turns wantReply none closeDeadlineMs
  else do
    -- `subsystem` is read and refused, `sftp` or not, and every other request is refused
    refuse noxtls env wantReply
    pure closeDeadlineMs

/-- CHANNEL_REQUEST. -/
def channelRequest (turns closeDeadlineMs : Nat) (payload : List UInt8) (m : Mem) : Prog Server Nat := do
  let s ← self
  if s.channelOpen = false then pure closeDeadlineMs
  else do
    let (chan, off) ← lift .failed (payloadReadU32 m payload.length 1)
    if chan ≠ s.localChannelId then pure closeDeadlineMs
    else do
      let (req, off) ← lift .failed (payloadReadStringView m payload.length off)
      ensure (off < payload.length) .failed
      channelRequestBody noxtls env turns closeDeadlineMs payload m req off

/-- Data that does not fit the window is not charged to it. -/
def chargeWindow (s : Server) (len : Nat) : Prog Server Unit :=
  if s.localWindowSize ≥ len then modify (setLocalWindow (s.localWindowSize - len)) else pure ()

/-- CHANNEL_DATA outside a session: counted against the window and dropped. -/
def channelData (payload : List UInt8) (m : Mem) : Prog Server Unit := do
  let s ← self
  let (recipient, off) ← lift .failed (payloadReadU32 m payload.length 1)
  if recipient ≠ s.localChannelId then pure ()
  else do
    let (dat, _) ← lift .failed (payloadReadStringView m payload.length off)
    chargeWindow s dat.len
    let _ ← attempt (maybeWindowAdjust noxtls env)
    pure ()

/-- CHANNEL_EOF and CHANNEL_CLOSE. -/
def channelEnd (closeDeadlineMs : Nat) (payload : List UInt8) (m : Mem) : Prog Server Nat := do
  failAs .failed (handleChannelEnd noxtls env payload m)
  if payload.head? = some 97 then failAs .failed (beginCloseWait env closeDeadlineMs)
  else pure closeDeadlineMs

/-- Go on with the same deadline. -/
def goOn (closeDeadlineMs : Nat) (m : Prog Server Unit) : Prog Server Next := do
  m
  pure (.again closeDeadlineMs)

/-- Go on with the deadline that comes out. -/
def goOnWith (m : Prog Server Nat) : Prog Server Next := do
  let closeDeadlineMs ← m
  pure (.again closeDeadlineMs)

/-- The `switch` of `serve_one`. -/
def dispatch (turns closeDeadlineMs : Nat) (payload : List UInt8) (m : Mem) : Prog Server Next :=
  match payload.head? with
  | none => pure (.again closeDeadlineMs)
  | some 1 => pure .done
  | some 2 => pure (.again closeDeadlineMs)
  | some 7 => pure (.again closeDeadlineMs)
  | some 80 => goOn closeDeadlineMs (failAs .failed (handleGlobalRequest noxtls env payload m))
  | some 5 => goOn closeDeadlineMs (serviceRequest noxtls env payload m)
  | some 50 => goOn closeDeadlineMs (userauthRequest noxtls env payload m)
  | some 90 => goOn closeDeadlineMs (channelOpenRequest noxtls env closeDeadlineMs payload m)
  | some 98 => goOnWith (channelRequest noxtls env turns closeDeadlineMs payload m)
  | some 94 => goOn closeDeadlineMs (channelData noxtls env payload m)
  | some 96 => goOnWith (channelEnd noxtls env closeDeadlineMs payload m)
  | some 97 => goOnWith (channelEnd noxtls env closeDeadlineMs payload m)
  | some _ => pure (.again closeDeadlineMs)

/-- `srv_wait_close_packet`. -/
def waitClosePacket (deadlineMs : Nat) : Prog Server CloseWait := do
  let now ← ask env.clock
  let s ← self
  if now = clockFailed ∨ s.transportFd < 0 then pure .error
  else if now ≥ deadlineMs then pure .over
  else do
    match ← ask env.poll with
    | .interrupted => pure .retry
    | .error => pure .error
    | .timeout => pure .over
    | .ready transport _ =>
        if transport.pollin then pure .readable
        else if transport.pollhup then pure .over
        else pure .error

/-- Before a packet: wait for it only if the connection is closing. -/
def packetReady (closeDeadlineMs : Nat) : Prog Server CloseWait :=
  if closeDeadlineMs ≠ 0 then waitClosePacket env closeDeadlineMs else pure .readable

/-- Receive a packet and dispatch it; a failed receive ends the loop, and so does
the rekey limit. -/
def serveTurn (turns closeDeadlineMs : Nat) : Prog Server Next := do
  match ← attempt (recvInto noxtls env maxPacketLen) with
  | none => pure .done
  | some (payload, m) => do
      if payload = [] then pure (.again closeDeadlineMs)
      else do
        ensure (rekeyDue (← self) = false) .failed
        dispatch noxtls env turns closeDeadlineMs payload m

/-- The loop of `serve_one`. -/
def serveLoop (sessionTurns : Nat) : Nat → Nat → Prog Server Unit
  | 0, _ => stall
  | turns + 1, closeDeadlineMs => do
      log (.serving closeDeadlineMs)
      match ← packetReady env closeDeadlineMs with
      | .retry => serveLoop sessionTurns turns closeDeadlineMs
      | .over => pure ()
      | .error => fail .failed
      | .readable =>
          match ← serveTurn noxtls env sessionTurns closeDeadlineMs with
          | .done => pure ()
          | .again closeDeadlineMs => serveLoop sessionTurns turns closeDeadlineMs

/-- `netnox_ssh_server_serve_one`, for at most `turns` turns of each loop. -/
def serveOne (turns : Nat) : Prog Server Unit := do
  let now ← ask env.clock
  modify (setHandshakeDeadline (wrap64 (now + 30000)))
  failAs .failed (handshakeToEncrypted noxtls env)
  serveLoop noxtls env turns turns 0

end Functions

/-- A freshly initialised server with everything the application sets before it
serves: the descriptor, the identification, the host key, whether there is a
callback, the rekey limit. -/
structure Setup where
  transportFd : Int
  serverIdent : List UInt8
  hostEd25519Sk : List UInt8
  hostEd25519Pk : List UInt8
  hostKeyReady : Bool
  publickeyAllowedCb : Bool
  rekeyThresholdBytes : Nat

def Setup.server (setup : Setup) : Server :=
  { Server.init with
    transportFd := setup.transportFd
    serverIdent := setup.serverIdent
    hostEd25519Sk := setup.hostEd25519Sk
    hostEd25519Pk := setup.hostEd25519Pk
    hostKeyReady := setup.hostKeyReady
    publickeyAllowedCb := setup.publickeyAllowedCb
    rekeyThresholdBytes := setup.rekeyThresholdBytes }

/-- The state a run of `serve_one` ends in, after at most `turns` turns. -/
def served (noxtls : Noxtls) (env : Env) (setup : Setup) (inbox : List UInt8) (turns : Nat) : Host Server :=
  ((serveOne noxtls env turns).run ⟨setup.server, 0, inbox, []⟩).2

end NoxSsh.Server
