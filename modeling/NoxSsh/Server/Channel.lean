/-
# Server.Channel — what the server says, and the session it runs

The senders build their payload in a fixed buffer and send it.  `runSessionUnix`
is the loop that owns the connection while a command or a shell runs: it polls the
socket and the child, feeds channel data to the child and child output to the
channel, and ends with exit status, EOF and CLOSE, or breaks.  Of the child itself
only what crosses its pipe is modelled, the rest is the environment's.
-/
import NoxSsh.Server.Context

namespace NoxSsh.Server

open Theory Proc Wire Transport

set_option autoImplicit false

/-! ## Updates of the context -/

/-- The channel ids and the window of a new channel. -/
def openChannel (senderChannel : Nat) (s : Server) : Server :=
  { s with localChannelId := 0, remoteChannelId := senderChannel, localWindowSize := 65536 }

def setRemoteWindow (n : Nat) (s : Server) : Server := { s with remoteWindowSize := n }

def setLocalWindow (n : Nat) (s : Server) : Server := { s with localWindowSize := n }

def setChannelOpen (isOpen : Bool) (s : Server) : Server := { s with channelOpen := isOpen }

def setSessionStarted (s : Server) : Server := { s with sessionStarted := true }

/-! ## Senders -/

section Senders

variable (noxtls : Noxtls) (env : Env)

/-- Send what fitted into the buffer. -/
def sendBuilt (payload : Option (List UInt8)) : Prog Server Unit := do
  let payload ← lift .failed payload
  sendPacket noxtls env payload

/-- `srv_send_service_accept`. -/
def sendServiceAccept (service : String) : Prog Server Unit :=
  sendBuilt noxtls env (payloadAppendU8 256 6 [] >>= payloadAppendString 256 (ascii service))

/-- `srv_send_userauth_failure`. -/
def sendUserauthFailure (partialSuccess : Bool) : Prog Server Unit :=
  sendBuilt noxtls env (payloadAppendU8 256 51 [] >>= payloadAppendString 256 (ascii "publickey") >>=
    payloadAppendU8 256 (if partialSuccess then 1 else 0))

/-- `srv_send_userauth_success`. -/
def sendUserauthSuccess : Prog Server Unit := sendPacket noxtls env [52]

/-- `srv_send_userauth_pk_ok`. -/
def sendUserauthPkOk (alg blob : List UInt8) : Prog Server Unit :=
  sendBuilt noxtls env (payloadAppendU8 256 60 [] >>= payloadAppendString 256 alg >>=
    payloadAppendString 256 blob)

/-- `srv_send_global_request_failure`. -/
def sendGlobalRequestFailure : Prog Server Unit := sendPacket noxtls env [82]

/-- A message of a number and the client's channel id, from a buffer of `max` bytes. -/
def sendChannelMessage (max : Nat) (number : UInt8) : Prog Server Unit := do
  let s ← self
  sendBuilt noxtls env (payloadAppendU8 max number [] >>= payloadAppendU32 max s.remoteChannelId)

/-- `srv_send_channel_success`. -/
def sendChannelSuccess : Prog Server Unit := sendChannelMessage noxtls env 64 99

/-- `srv_send_channel_failure`. -/
def sendChannelFailure : Prog Server Unit := sendChannelMessage noxtls env 64 100

/-- `srv_send_channel_eof`. -/
def sendChannelEof : Prog Server Unit := sendChannelMessage noxtls env 32 96

/-- `srv_send_channel_close`. -/
def sendChannelClose : Prog Server Unit := sendChannelMessage noxtls env 32 97

/-- `srv_send_channel_open_confirmation`. -/
def sendChannelOpenConfirmation (senderChannel : Nat) : Prog Server Unit := do
  modify (openChannel senderChannel)
  let s ← self
  sendBuilt noxtls env (payloadAppendU8 128 91 [] >>= payloadAppendU32 128 senderChannel >>=
    payloadAppendU32 128 s.localChannelId >>= payloadAppendU32 128 s.localWindowSize >>=
    payloadAppendU32 128 32768)

/-- The largest piece of channel data: 4096 bytes, or 64 less than the client's packets. -/
def maxChunk (s : Server) : Nat :=
  if s.remoteMaxPacketSize > 64 ∧ 4096 > s.remoteMaxPacketSize - 64 then s.remoteMaxPacketSize - 64
  else 4096

/-- `srv_send_channel_data_chunk`: one piece, cut to size, charged to the client's window. -/
def sendChannelDataChunk (data : List UInt8) : Prog Server Unit := do
  ensure (data ≠ []) .badParam
  let s ← self
  let data := data.take (maxChunk s)
  let payload ← lift .failed (payloadAppendU8 4109 94 [] >>= payloadAppendU32 4109 s.remoteChannelId >>=
    payloadAppendString 4109 data)
  ensure (data.length ≤ s.remoteWindowSize) .failed
  modify (setRemoteWindow (s.remoteWindowSize - data.length))
  sendPacket noxtls env payload

/-- `srv_send_exit_status`. -/
def sendExitStatus (status : Nat) : Prog Server Unit := do
  let s ← self
  sendBuilt noxtls env (payloadAppendU8 64 98 [] >>= payloadAppendU32 64 s.remoteChannelId >>=
    payloadAppendString 64 (ascii "exit-status") >>= payloadAppendU8 64 0 >>= payloadAppendU32 64 status)

/-- `srv_maybe_window_adjust`: the window grows before the message goes out, and the
message names the server's own channel. -/
def maybeWindowAdjust : Prog Server Unit := do
  let s ← self
  if s.localWindowSize > 65536 then pure ()
  else do
    let payload ← lift .failed (payloadAppendU8 64 93 [] >>= payloadAppendU32 64 s.localChannelId >>=
      payloadAppendU32 64 262144)
    modify (setLocalWindow (wrap32 (s.localWindowSize + 262144)))
    sendPacket noxtls env payload

/-! ## Handlers shared by the two receive loops -/

/-- Does the request ask for a reply?  `none` if it is malformed. -/
def globalRequestWantsReply (payload : List UInt8) (m : Mem) : Option Bool :=
  match payloadReadU32 m payload.length 1 with
  | none => none
  | some (requestLen, off) =>
      if requestLen = 0 ∨ requestLen ≥ payload.length - off then none
      else some (m (off + requestLen) ≠ 0)

/-- `srv_handle_global_request`. -/
def handleGlobalRequest (payload : List UInt8) (m : Mem) : Prog Server Unit := do
  ensure (6 ≤ payload.length ∧ payload.head? = some 80) .badParam
  let wantReply ← lift .failed (globalRequestWantsReply payload m)
  if wantReply then sendGlobalRequestFailure noxtls env else pure ()

/-- `srv_handle_channel_end`: EOF is a half-close, CLOSE is answered once. -/
def handleChannelEnd (payload : List UInt8) (m : Mem) : Prog Server Unit := do
  let s ← self
  ensure (payload.length = 5 ∧ (payload.head? = some 96 ∨ payload.head? = some 97) ∧
    (payloadReadU32 m payload.length 1).map Prod.fst = some s.localChannelId) .badParam
  if payload.head? = some 97 ∧ s.channelOpen = true then do
    failAs .failed (sendChannelClose noxtls env)
    modify (setChannelOpen false)
  else pure ()

/-- `srv_begin_close_wait`: ten seconds, unless they are running already. -/
def beginCloseWait (deadlineMs : Nat) : Prog Server Nat := do
  if deadlineMs ≠ 0 then pure deadlineMs
  else do
    let now ← ask env.clock
    ensure (now ≠ clockFailed ∧ now ≤ clockFailed - 10000) .failed
    pure (now + 10000)

end Senders

/-! ## A session -/

/-- What the session loop keeps in local variables. -/
structure Child where
  outputEof : Bool
  reaped : Option WaitStatus
  deriving DecidableEq, Repr

/-- How a turn of the session loop ends. -/
inductive Turn where
  | again (child : Child)
  /-- Exit status, EOF and CLOSE went out. -/
  | complete
  /-- The loop broke, with `peer_closed` as it stood. -/
  | broken (peerClosed : Bool)
  deriving DecidableEq, Repr

/-- `WEXITSTATUS`, or 128 and the signal. -/
def exitCode : WaitStatus → Nat
  | .exited code => code.toNat
  | .signaled signal => 128 + signal

/-- The rekey limit was reached in one direction. -/
def rekeyDue (s : Server) : Bool :=
  s.rekeyThresholdBytes > 0 && (s.encryptedBytesSent ≥ s.rekeyThresholdBytes ||
    s.encryptedBytesRecv ≥ s.rekeyThresholdBytes)

/-- How much output is read at once. -/
def readCap (s : Server) : Nat :=
  let cap := min 4096 s.remoteWindowSize
  if s.remoteMaxPacketSize > 64 ∧ cap > s.remoteMaxPacketSize - 64 then s.remoteMaxPacketSize - 64 else cap

section Session

variable (noxtls : Noxtls) (env : Env)

/-- `srv_write_child`: false on failure.  `note` is how a write is recorded. -/
def writeChild (note : List UInt8 → Event) : Nat → List UInt8 → Prog Server Bool
  | _, [] => pure true
  | 0, _ :: _ => stall
  | turns + 1, c :: data => do
      let upTo ← ask env.childWrite
      let taken := min upTo (c :: data).length
      if taken = 0 then do
        log .childRefused
        pure false
      else do
        log (note ((c :: data).take taken))
        writeChild note turns ((c :: data).drop taken)

/-- Channel data for the child, `none` if it must not be taken. -/
def sessionData (s : Server) (payload : List UInt8) (m : Mem) : Option (List UInt8) :=
  match payloadReadU32 m payload.length 1 with
  | none => none
  | some (channel, off) =>
      match payloadReadStringView m payload.length off with
      | none => none
      | some (data, off) =>
          if channel ≠ s.localChannelId ∨ off ≠ payload.length ∨ data.len > s.localWindowSize then none
          else some (data.bytes m)

/-- The client's window after its WINDOW_ADJUST, `none` if it would overflow. -/
def adjustedWindow (s : Server) (payload : List UInt8) (m : Mem) : Option Nat :=
  match payloadReadU32 m payload.length 1 with
  | none => none
  | some (channel, off) =>
      match payloadReadU32 m payload.length off with
      | none => none
      | some (amount, _) =>
          if channel ≠ s.localChannelId ∨ amount > 4294967295 - s.remoteWindowSize then none
          else some (s.remoteWindowSize + amount)

/-- Is this a channel request a terminal session goes on after?  A `window-change`
only reaches the child's terminal. -/
def terminalRequestOk (s : Server) (payload : List UInt8) (m : Mem) : Bool :=
  match payloadReadU32 m payload.length 1 with
  | none => false
  | some (channel, off) =>
      match payloadReadStringView m payload.length off with
      | none => false
      | some (_, off) => channel = s.localChannelId && off < payload.length

/-- Run `m`; a failure of it breaks the loop. -/
def orBreak (m : Prog Server Unit) : Prog Server (Option Bool) := do
  match ← attempt m with
  | none => pure (some false)
  | some () => pure none

/-- The packet half of a turn: `some peerClosed` breaks the loop. -/
def sessionPacket (payload : List UInt8) (m : Mem) : Prog Server (Option Bool) := do
  let s ← self
  match payload.head? with
  | none => pure (some false)
  | some 80 => orBreak (handleGlobalRequest noxtls env payload m)
  | some 94 =>
      match sessionData s payload m with
      | none => pure (some false)
      | some data => do
          if ← writeChild env .childInput data.length data then do
            modify (setLocalWindow (s.localWindowSize - data.length))
            orBreak (maybeWindowAdjust noxtls env)
          else pure (some false)
  | some 93 =>
      match adjustedWindow s payload m with
      | none => pure (some false)
      | some window => do
          modify (setRemoteWindow window)
          pure none
  | some 96 => do
      match ← attempt (handleChannelEnd noxtls env payload m) with
      | none => pure (some false)
      | some () =>
          if s.wantPty then do
            -- end of input for a terminal is the character EOT; whether it got there is not asked
            let _ ← writeChild env (fun _ => .childEot) 1 [4]
            pure none
          else pure none
  | some 97 => do
      match ← attempt (handleChannelEnd noxtls env payload m) with
      | none => pure (some false)
      | some () => pure (some true)
  | some 1 => pure (some false)
  | some 98 =>
      if s.wantPty then
        if terminalRequestOk s payload m then pure none else pure (some false)
      else pure none
  | some _ => pure none

/-- The output half of a turn. -/
def sessionOutput (child : Child) : Prog Server (Option Child) := do
  match ← ask env.childRead with
  | .bytes output => do
      let output := output.take (readCap (← self))
      if output = [] then pure (some { child with outputEof := true })
      else do
        log (.childOutput output)
        match ← attempt (sendChannelDataChunk noxtls env output) with
        | none => pure none
        | some () => pure (some child)
  | .eof => pure (some { child with outputEof := true })
  | .again => pure (some child)
  | .error => pure none

/-- `waitpid` with `WNOHANG`, until it has answered once. -/
def reapChild (child : Child) : Prog Server (Option WaitStatus) := do
  if child.reaped = none then do
    match ← ask env.waitpid with
    | none => pure none
    | some status => do
        log (.childReaped status)
        pure (some status)
  else pure child.reaped

/-- The end of a turn: has the child exited, and is its output at an end? -/
def sessionReap (child : Child) : Prog Server Turn := do
  let reaped ← reapChild env child
  let child := { child with reaped := reaped }
  match child.outputEof, reaped with
  | true, some status => do
      match ← attempt (do
        sendExitStatus noxtls env (exitCode status)
        sendChannelEof noxtls env
        sendChannelClose noxtls env) with
      | none => pure (.broken false)
      | some () => do
          modify (setChannelOpen false)
          pure .complete
  | _, _ => pure (.again child)

/-- After the packet: child output if there is any, then the child's exit. -/
def sessionChild (child : Child) (childReady : Bool) : Prog Server Turn := do
  if childReady then do
    if readCap (← self) = 0 then pure (.again child)
    else
      match ← sessionOutput noxtls env child with
      | none => pure (.broken false)
      | some child => sessionReap noxtls env child
  else sessionReap noxtls env child

/-- One turn of the loop of `srv_run_session_unix`. -/
def sessionTurn (child : Child) : Prog Server Turn := do
  let s ← self
  if rekeyDue s then pure (.broken false)
  else do
    let watched := !child.outputEof && s.remoteWindowSize ≠ 0
    match ← ask env.poll with
    | .interrupted => pure (.again child)
    | .error => pure (.broken false)
    | .timeout => if child.outputEof then sessionChild noxtls env child false else pure (.broken false)
    | .ready transport output =>
        let childReady := watched && (output.pollin || output.pollhup)
        if transport.pollerr || transport.pollhup then pure (.broken false)
        else if transport.pollin then do
          match ← attempt (recvInto noxtls env maxPacketLen) with
          | none => pure (.broken false)
          | some (payload, m) =>
              match ← sessionPacket noxtls env payload m with
              | some peerClosed => pure (.broken peerClosed)
              | none => do
                  log .sessionGoesOn
                  sessionChild noxtls env child childReady
        else sessionChild noxtls env child childReady

/-- The loop, and what follows a break: the child is killed and reaped, the channel closed. -/
def sessionLoop : Nat → Child → Prog Server Unit
  | 0, _ => stall
  | turns + 1, child => do
      match ← sessionTurn noxtls env child with
      | .again child => sessionLoop turns child
      | .complete => pure ()
      | .broken peerClosed => do
          modify (setChannelOpen false)
          if peerClosed then pure () else fail .failed

/-- `srv_run_session_unix`; `none` is the login shell. -/
def runSessionUnix (turns : Nat) (command : Option (List UInt8)) : Prog Server Unit := do
  let s ← self
  ensure (0 ≤ s.transportFd ∧ s.authenticatedUser ≠ []) .failed
  log (.sessionStarted command)
  modify setSessionStarted
  let forked ← ask env.fork
  ensure (forked = true) .failed
  sessionLoop noxtls env turns ⟨false, none⟩

end Session

end NoxSsh.Server
