/-
# Client.Calls — the functions a program calls

Everything `noxssh_common.h` declares for the client, but for the callbacks, which
are the environment's, and the three getters.  A `Call` is one of them with its
arguments; a program is a list of calls, each made whatever the one before it
returned (`Calls.run`).

`netnox_ssh_recv_line` fills `server_ident` in place.  Where it fails the text it
leaves there is taken from the environment.
-/
import NoxSsh.Client.Kex

namespace NoxSsh.Client

open Theory Proc Wire Transport

set_option autoImplicit false

/-- `NETNOX_SSH_MAX_DATA_LEN`. -/
def maxDataLen : Nat := 4096

/-- `NETNOX_SSH_MAX_COMMAND_LEN`. -/
def maxCommandLen : Nat := 512

/-- `NETNOX_SSH_CHANNEL_WINDOW_SIZE`. -/
def channelWindowSize : Nat := 65536

/-- `NETNOX_SSH_CHANNEL_MAX_PACKET_SIZE`. -/
def channelMaxPacketSize : Nat := 32768

/-! ## Updates of the context -/

def setUsername (username : List UInt8) (c : Client) : Client := { c with username := username }

def setHost (host : List UInt8) (c : Client) : Client := { c with host := host }

def setPasswordField (password : List UInt8) (c : Client) : Client := { c with password := password }

def setPrivateKey (privateKey : List UInt8) (c : Client) : Client := { c with ed25519PrivateKey := privateKey }

def setPublicKey (publicKey : List UInt8) (c : Client) : Client :=
  { c with ed25519PublicKey := publicKey, hasEd25519Key := true }

def setNoKey (c : Client) : Client := { c with hasEd25519Key := false }

def setServerIdent (ident : List UInt8) (c : Client) : Client := { c with serverIdent := ident }

def setConnected (c : Client) : Client := { c with connected := true }

def setUserauthReady (c : Client) : Client := { c with userauthServiceReady := true }

def setConnectionReady (c : Client) : Client := { c with connectionServiceReady := true }

def setAuthenticated (c : Client) : Client := { c with authenticated := true }

def setLocalChannel (c : Client) : Client :=
  { c with localChannelId := 0, localWindowSize := channelWindowSize }

def openChannel (remoteId window maxPacket : Nat) (c : Client) : Client :=
  { c with
    remoteChannelId := remoteId
    remoteWindowSize := window
    remoteMaxPacketSize := maxPacket
    channelOpen := true }

def closeChannel (c : Client) : Client := { c with channelOpen := false }

def setExitStatus (status : Nat) (c : Client) : Client :=
  { c with remoteExitStatus := status, remoteExitStatusValid := true }

/-- What `netnox_ssh_client_close` leaves of a context. -/
def closed (c : Client) : Client :=
  { c with
    connected := false
    kexinitExchanged := false
    keyExchangeComplete := false
    pendingNewkeys := []
    nonePending := nothing_pending
    userauthServiceReady := false
    connectionServiceReady := false
    authenticated := false
    channelOpen := false
    localChannelId := 0
    remoteChannelId := 0
    localWindowSize := 0
    remoteWindowSize := 0
    remoteMaxPacketSize := 0
    serverHostKeyBlob := []
    serverHostKeyReady := false
    ed25519PrivateKey := zeros 32
    ed25519PublicKey := zeros 32
    hasEd25519Key := false
    remoteExitStatusValid := false
    remoteExitStatus := 0
    serverIdent := [] }

/-! ## The messages -/

def buildServiceRequest (service : String) : Option (List UInt8) :=
  payloadAppendU8 128 5 [] >>= payloadAppendString 128 (ascii service)

/-- A USERAUTH_REQUEST up to the method's name. -/
def buildUserauthRequest (max : Nat) (username : List UInt8) (method : String) : Option (List UInt8) :=
  payloadAppendU8 max 50 [] >>= payloadAppendString max username >>=
    payloadAppendString max (ascii "ssh-connection") >>= payloadAppendString max (ascii method)

def buildPasswordRequest (username password : List UInt8) : Option (List UInt8) :=
  buildUserauthRequest 512 username "password" >>= payloadAppendU8 512 0 >>= payloadAppendString 512 password

/-- The public key request without its signature. -/
def buildPublickeyRequest (username blob : List UInt8) : Option (List UInt8) :=
  buildUserauthRequest 1024 username "publickey" >>= payloadAppendU8 1024 1 >>=
    payloadAppendString 1024 algEd25519 >>= payloadAppendString 1024 blob

/-- What the user's key signs. -/
def buildToSign (sessionId request : List UInt8) : Option (List UInt8) :=
  payloadAppendString 1400 sessionId [] >>= bufAppend 1400 request

def buildChannelOpen (c : Client) : Option (List UInt8) :=
  payloadAppendU8 256 90 [] >>= payloadAppendString 256 (ascii "session") >>=
    payloadAppendU32 256 c.localChannelId >>= payloadAppendU32 256 c.localWindowSize >>=
    payloadAppendU32 256 channelMaxPacketSize

/-- A CHANNEL_REQUEST that wants a reply, up to its own fields. -/
def buildChannelRequest (max remoteId : Nat) (request : String) : Option (List UInt8) :=
  payloadAppendU8 max 98 [] >>= payloadAppendU32 max remoteId >>=
    payloadAppendString max (ascii request) >>= payloadAppendU8 max 1

def buildExec (remoteId : Nat) (command : List UInt8) : Option (List UInt8) :=
  buildChannelRequest 1024 remoteId "exec" >>= payloadAppendString 1024 command

def buildPtyReq (remoteId : Nat) : Option (List UInt8) :=
  buildChannelRequest 512 remoteId "pty-req" >>= payloadAppendString 512 (ascii "xterm-256color") >>=
    payloadAppendU32 512 80 >>= payloadAppendU32 512 24 >>= payloadAppendU32 512 0 >>=
    payloadAppendU32 512 0 >>= payloadAppendString 512 []

def buildShell (remoteId : Nat) : Option (List UInt8) := buildChannelRequest 512 remoteId "shell"

def buildData (remoteId : Nat) (chunk : List UInt8) : Option (List UInt8) :=
  payloadAppendU8 4109 94 [] >>= payloadAppendU32 4109 remoteId >>= payloadAppendString 4109 chunk

def buildIgnore : Option (List UInt8) := payloadAppendU8 5 2 [] >>= payloadAppendU32 5 0

/-- The part of `data` one packet takes. -/
def chunk (remoteMaxPacketSize : Nat) (data : List UInt8) : List UInt8 :=
  let limit := if remoteMaxPacketSize ≠ 0 then min data.length remoteMaxPacketSize else data.length
  data.take (min limit maxDataLen)

/-- A CHANNEL_OPEN_CONFIRMATION: recipient, sender, window, maximum packet. -/
def readConfirmation (m : Mem) (payloadLen : Nat) : Option (Nat × Nat × Nat × Nat) := do
  let (recipient, off) ← payloadReadU32 m payloadLen 1
  let (sender, off) ← payloadReadU32 m payloadLen off
  let (window, off) ← payloadReadU32 m payloadLen off
  let (maxPacket, _) ← payloadReadU32 m payloadLen off
  some (recipient, sender, window, maxPacket)

section Functions

variable (noxtls : Noxtls) (env : Env)

/-! ## Settings -/

/-- `netnox_ssh_client_set_target`; a host name that is too long leaves the new user name. -/
def setTarget (username host : List UInt8) : Prog Client Unit :=
  match copyString 65 username with
  | .error e => fail e
  | .ok username => do
      modify (setUsername username)
      match copyString 256 host with
      | .error e => fail e
      | .ok host => modify (setHost host)

/-- `netnox_ssh_client_set_password`. -/
def setPassword (password : List UInt8) : Prog Client Unit :=
  match copyString 129 password with
  | .error e => fail e
  | .ok password => modify (setPasswordField password)

/-- `netnox_ssh_client_set_ed25519_private_key`. -/
def setEd25519PrivateKey (privateKey : List UInt8) : Prog Client Unit := do
  modify (setPrivateKey privateKey)
  match noxtls.ed25519PublicKey privateKey with
  | none => do
      modify setNoKey
      fail .failed
  | some publicKey => modify (setPublicKey publicKey)

/-! ## Connecting -/

/-- Lines until one is an identification, and then the first key exchange. -/
def readIdent : Nat → Prog Client Unit
  | 0 => fail .failed
  | lines + 1 => do
      let line ← attempt (recvLine env 256)
      match line with
      | none => do
          let left ← ask env.stale
          modify (setServerIdent (cString (slice left 0 256)))
          fail .failed
      | some line => do
          modify (setServerIdent line)
          if isIdentLine line then do
            modify setConnected
            exchangeKexinit noxtls env
          else readIdent lines

/-- `netnox_ssh_client_connect`. -/
def connect : Prog Client Unit := do
  let c ← self
  ensure (c.clientIdent ≠ []) .badParam
  failAs .failed (sendAll env (txIdent c.clientIdent))
  readIdent noxtls env maxBannerLines

/-! ## Services and authentication -/

/-- `netnox_ssh_send_service_request`. -/
def sendServiceRequest (service : String) : Prog Client Unit := do
  let payload ← lift .failed (buildServiceRequest service)
  sendPacket noxtls env payload

def negotiateService (service : String) (ready : Client → Client) : Prog Client Unit := do
  failAs .failed (sendServiceRequest noxtls env service)
  let (rx, m) ← failAs .failed (waitForMessage noxtls env 6 255 256)
  ensure (rx.head? = some 6) .failed
  let (svc, _) ← lift .failed (payloadReadStringView m rx.length 1)
  ensure (svc.bytes m = ascii service) .failed
  modify ready

/-- `netnox_ssh_negotiate_userauth_service`. -/
def negotiateUserauthService : Prog Client Unit := negotiateService noxtls env "ssh-userauth" setUserauthReady

/-- `netnox_ssh_negotiate_connection_service`. -/
def negotiateConnectionService : Prog Client Unit :=
  negotiateService noxtls env "ssh-connection" setConnectionReady

/-- A service that may have been accepted before. -/
def requireService (ready : Bool) (negotiate : Prog Client Unit) : Prog Client Unit :=
  if ready then pure () else failAs .failed negotiate

/-- `netnox_ssh_send_userauth_password`. -/
def sendUserauthPassword : Prog Client Unit := do
  let c ← self
  let payload ← lift .failed (buildPasswordRequest c.username c.password)
  sendPacket noxtls env payload

/-- `netnox_ssh_send_userauth_publickey_ed25519`. -/
def sendUserauthPublickeyEd25519 : Prog Client Unit := do
  let c ← self
  ensure (c.hasEd25519Key = true ∧ c.sessionIdLen ≠ 0) .badParam
  let blob ← lift .failed (buildEd25519Blob 256 c.ed25519PublicKey)
  let request ← lift .failed (buildPublickeyRequest c.username blob)
  let message ← lift .failed (buildToSign (c.sessionId.take c.sessionIdLen) request)
  let signature ← lift .failed (noxtls.ed25519Sign c.ed25519PrivateKey message)
  let sigBlob ← lift .failed (buildEd25519Blob 256 signature)
  let payload ← lift .failed (payloadAppendString 1024 sigBlob request)
  sendPacket noxtls env payload

/-- `netnox_ssh_wait_userauth_result`: `true` is success, `false` is AUTH_REJECTED. -/
def waitUserauthResult : Prog Client Bool := do
  let (rx, _) ← failAs .failed (waitForMessage noxtls env 52 51 512)
  if rx.head? = some 52 then do
    modify setAuthenticated
    pure true
  else if rx.head? = some 51 then pure false
  else fail .failed

/-- The public key method, if there is a key. -/
def tryPublickey (hasKey : Bool) : Prog Client Bool :=
  if hasKey then do
    failAs .failed (sendUserauthPublickeyEd25519 noxtls env)
    failAs .failed (waitUserauthResult noxtls env)
  else pure false

/-- `netnox_ssh_client_authenticate`: the key first, then the password. -/
def authenticate : Prog Client Unit := do
  let c ← self
  ensure (c.connected = true ∧ c.kexinitExchanged = true ∧ c.keyExchangeComplete = true) .badParam
  ensure (c.username ≠ []) .badParam
  requireService c.userauthServiceReady (negotiateUserauthService noxtls env)
  let accepted ← tryPublickey noxtls env c.hasEd25519Key
  if accepted then pure ()
  else if c.password ≠ [] then do
    failAs .failed (sendUserauthPassword noxtls env)
    let accepted ← failAs .failed (waitUserauthResult noxtls env)
    if accepted then pure () else fail .authRejected
  else if c.hasEd25519Key then fail .authRejected
  else fail .badParam

/-! ## The channel -/

/-- `netnox_ssh_send_channel_open_session`. -/
def sendChannelOpenSession : Prog Client Unit := do
  let payload ← lift .failed (buildChannelOpen (← self))
  sendPacket noxtls env payload

/-- `netnox_ssh_client_open_session`. -/
def openSession : Prog Client Unit := do
  let c ← self
  ensure (c.connected = true ∧ c.kexinitExchanged = true ∧ c.keyExchangeComplete = true ∧ c.authenticated = true)
    .badParam
  modify setLocalChannel
  requireService c.connectionServiceReady (negotiateConnectionService noxtls env)
  failAs .failed (sendChannelOpenSession noxtls env)
  let (rx, m) ← failAs .failed (waitForMessage noxtls env 91 92 512)
  ensure (rx.head? = some 91) .failed
  let (recipient, sender, window, maxPacket) ← lift .failed (readConfirmation m rx.length)
  ensure (recipient = (← self).localChannelId) .failed
  modify (openChannel sender window maxPacket)

/-- The state `exec` and `request_shell_ex` ask for. -/
def Ready (c : Client) : Prop :=
  c.connected = true ∧ c.kexinitExchanged = true ∧ c.keyExchangeComplete = true ∧ c.channelOpen = true

instance (c : Client) : Decidable (Ready c) := inferInstanceAs (Decidable (_ ∧ _))

/-- Send a channel request and wait for its answer, which must be CHANNEL_SUCCESS. -/
def requestChannel (built : Option (List UInt8)) : Prog Client Unit := do
  let payload ← lift .failed built
  failAs .failed (sendPacket noxtls env payload)
  let (rx, _) ← failAs .failed (waitForMessage noxtls env 99 100 256)
  ensure (rx.head? = some 99) .failed

/-- `netnox_ssh_client_exec`. -/
def exec (command : List UInt8) : Prog Client Unit := do
  let c ← self
  ensure (Ready c) .badParam
  ensure (command.length ≤ maxCommandLen) .badParam
  requestChannel noxtls env (buildExec c.remoteChannelId command)

def requestPty (wanted : Bool) (remoteId : Nat) : Prog Client Unit :=
  if wanted then requestChannel noxtls env (buildPtyReq remoteId) else pure ()

/-- `netnox_ssh_client_request_shell_ex`. -/
def requestShellEx (wantPty : Bool) : Prog Client Unit := do
  let c ← self
  ensure (Ready c) .badParam
  requestPty noxtls env wantPty c.remoteChannelId
  requestChannel noxtls env (buildShell (← self).remoteChannelId)

/-- `netnox_ssh_client_send_data`: one packet, which may take a part of the data only. -/
def sendData (data : List UInt8) : Prog Client Unit := do
  ensure (data ≠ [] ∧ data.length ≤ maxDataLen) .badParam
  let c ← self
  ensure (c.connected = true ∧ c.channelOpen = true) .badParam
  let payload ← lift .failed (buildData c.remoteChannelId (chunk c.remoteMaxPacketSize data))
  sendPacket noxtls env payload

/-- `netnox_ssh_client_send_keepalive`. -/
def sendKeepalive : Prog Client Unit := do
  let c ← self
  ensure (c.connected = true ∧ c.keyExchangeComplete = true) .badParam
  let payload ← lift .failed buildIgnore
  sendPacket noxtls env payload

/-- `netnox_ssh_client_rekey`. -/
def rekey : Prog Client Unit := do
  let c ← self
  ensure (c.connected = true ∧ c.keyExchangeComplete = true) .badParam
  exchangeKexinit noxtls env

/-- The channel a message names must be the client's own. -/
def readRecipient (rx : List UInt8) (m : Mem) : Prog Client Nat := do
  let (recipient, off) ← lift .failed (payloadReadU32 m rx.length 1)
  ensure (recipient = (← self).localChannelId) .failed
  pure off

/-- A CHANNEL_REQUEST: only `exit-status` means something. -/
def takeChannelRequest (rx : List UInt8) (m : Mem) : Prog Client Unit := do
  let off ← readRecipient rx m
  let (req, off) ← lift .failed (payloadReadStringView m rx.length off)
  ensure (off < rx.length) .failed
  if req.bytes m = ascii "exit-status" then do
    let (status, _) ← lift .failed (payloadReadU32 m rx.length (off + 1))
    modify (setExitStatus status)
  else pure ()

/-- The data of a CHANNEL_DATA or CHANNEL_EXTENDED_DATA whose string stands at `off`,
cut to the caller's buffer. -/
def takeData (capacity : Nat) (rx : List UInt8) (m : Mem) (off : Nat) : Prog Client (List UInt8) := do
  let (str, _) ← lift .failed (payloadReadStringView m rx.length off)
  pure ((str.bytes m).take capacity)

/-- What one packet is to `recv_data`: `none` is read on. -/
def takePacket (capacity : Nat) (number : UInt8) (rx : List UInt8) (m : Mem) :
    Prog Client (Option (List UInt8)) := do
  if number = 20 then do
    failAs .failed (handleServerKexinit noxtls env rx m)
    pure none
  else if number = 94 then do
    let off ← readRecipient rx m
    let data ← takeData capacity rx m off
    pure (some data)
  else if number = 95 then do
    let off ← readRecipient rx m
    let (_, off) ← lift .failed (payloadReadU32 m rx.length off)
    let data ← takeData capacity rx m off
    pure (some data)
  else if number = 98 then do
    takeChannelRequest rx m
    pure none
  else if number = 96 then pure (some [])
  else if number = 97 then do
    modify closeChannel
    pure (some [])
  else pure none

/-- The loop of `netnox_ssh_client_recv_data`. -/
def recvDataLoop (capacity : Nat) : Nat → Prog Client (List UInt8)
  | 0 => stall
  | turns + 1 => do
      let (rx, m) ← failAs .failed (recvInto noxtls env maxPacketLen)
      match rx.head? with
      | none => recvDataLoop capacity turns
      | some number => do
          let taken ← takePacket noxtls env capacity number rx m
          match taken with
          | none => recvDataLoop capacity turns
          | some data => pure data

/-- `netnox_ssh_client_recv_data` into a buffer of `capacity` bytes; no data is the
end of the output. -/
def recvData (capacity : Nat) : Prog Client (List UInt8) := do
  ensure (capacity ≠ 0 ∧ capacity ≤ maxDataLen) .badParam
  let c ← self
  ensure (c.connected = true ∧ c.channelOpen = true) .badParam
  byInbox (recvDataLoop noxtls env capacity)

/-- `netnox_ssh_client_close`. -/
def close : Prog Client Unit := modify closed

/-! ## Programs -/

inductive Call where
  | setIdentification (ident : List UInt8)
  | setTarget (username host : List UInt8)
  | setPassword (password : List UInt8)
  | setEd25519PrivateKey (privateKey : List UInt8)
  | connect
  | authenticate
  | openSession
  | exec (command : List UInt8)
  | requestShellEx (wantPty : Bool)
  | sendData (data : List UInt8)
  | sendKeepalive
  | rekey
  | recvData (capacity : Nat)
  | close
  deriving DecidableEq, Repr

/-- A setter of the context as a call. -/
def adopt (set : Client → Except NetnoxReturn Client) : Prog Client Unit := do
  match set (← self) with
  | .error e => fail e
  | .ok c => modify fun _ => c

def Call.run : Call → Prog Client Unit
  | setIdentification ident => adopt (Client.setIdentification ident)
  | setTarget username host => Client.setTarget username host
  | setPassword password => Client.setPassword password
  | setEd25519PrivateKey privateKey => Client.setEd25519PrivateKey noxtls privateKey
  | connect => Client.connect noxtls env
  | authenticate => Client.authenticate noxtls env
  | openSession => Client.openSession noxtls env
  | exec command => Client.exec noxtls env command
  | requestShellEx wantPty => Client.requestShellEx noxtls env wantPty
  | sendData data => Client.sendData noxtls env data
  | sendKeepalive => Client.sendKeepalive noxtls env
  | rekey => Client.rekey noxtls env
  | recvData capacity => do
      let _ ← Client.recvData noxtls env capacity
      pure ()
  | close => Client.close

/-- The calls one after the other, whatever each returns. -/
def Calls.run : List Call → Prog Client Unit
  | [] => pure ()
  | call :: calls => do
      let _ ← attempt (call.run noxtls env)
      Calls.run calls

end Functions

end NoxSsh.Client
