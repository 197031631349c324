/-
# Protocol.Session — a session channel, from its opening to the command that runs

The client builds a CHANNEL_OPEN, perhaps behind a SERVICE_REQUEST, and then an
`exec`, or a `pty-req` and a `shell`.  Each has a builder with a buffer of its own
on one side, and a parser with limits of its own on the other.  For every command of
up to 512 bytes without a zero both come through: what is read is what was built.

Each half is a run of its own, with what the peer says on the way (`Meet`).
-/
import NoxSsh.Client.Calls
import NoxSsh.Protocol.Dialogue
import NoxSsh.Protocol.Lockstep
import NoxSsh.Protocol.Login

namespace NoxSsh.Protocol

open Theory Proc Wire Transport

set_option autoImplicit false

/-! ## The messages -/

def serviceRequest : List UInt8 := [5] ++ sshString (ascii "ssh-connection")

def serviceAccept : List UInt8 := [6] ++ sshString (ascii "ssh-connection")

/-- CHANNEL_OPEN of the client's channel 0. -/
def sessionOpen : List UInt8 := [90] ++ sshString (ascii "session") ++ be32 0 ++ be32 65536 ++ be32 32768

/-- CHANNEL_OPEN_CONFIRMATION of the server's channel 0. -/
def openConfirmation : List UInt8 := [91] ++ be32 0 ++ be32 0 ++ be32 65536 ++ be32 32768

/-- A CHANNEL_REQUEST that wants a reply, up to its own fields. -/
def requestHead (channel : Nat) (request : String) : List UInt8 :=
  [98] ++ be32 channel ++ sshString (ascii request) ++ [1]

def execRequest (channel : Nat) (command : List UInt8) : List UInt8 := requestHead channel "exec" ++ sshString command

/-- The terminal every client asks for. -/
def terminal : Server.Pty := ⟨ascii "xterm-256color", 80, 24, 0, 0⟩

def ptyFields (pty : Server.Pty) : List UInt8 :=
  sshString pty.term ++ be32 pty.cols ++ be32 pty.rows ++ be32 pty.width ++ be32 pty.height ++ sshString []

def ptyRequest (channel : Nat) : List UInt8 := requestHead channel "pty-req" ++ ptyFields terminal

def shellRequest (channel : Nat) : List UInt8 := requestHead channel "shell"

/-- CHANNEL_SUCCESS. -/
def channelSuccess (channel : Nat) : List UInt8 := [99] ++ be32 channel

/-! ## The client's half -/

section Client

theorem buildChannelOpen_some {c : Client} (channel : c.localChannelId = 0) (window : c.localWindowSize = 65536) :
    Client.buildChannelOpen c = some sessionOpen := by
  rw [Client.buildChannelOpen, channel, window]
  rfl

theorem buildChannelRequest_some {max channel : Nat} {request : String}
    (fits : 10 + (ascii request).length ≤ max) :
    Client.buildChannelRequest max channel request = some (requestHead channel request) := by
  rw [Client.buildChannelRequest, payloadAppendU8_some (by simp; omega), Option.bind_eq_bind, Option.bind_some,
    payloadAppendU32_some (by simp; omega), Option.bind_some, payloadAppendString_some (by simp; omega),
    Option.bind_some, payloadAppendU8_some (by simp; omega), List.nil_append, requestHead]

theorem length_requestHead (channel : Nat) (request : String) :
    (requestHead channel request).length = 10 + (ascii request).length := by
  simp only [requestHead, List.length_append, List.length_singleton, length_be32, length_sshString]
  omega

theorem buildExec_some {channel : Nat} {command : List UInt8} (short : command.length ≤ 512) :
    Client.buildExec channel command = some (execRequest channel command) := by
  have name : (ascii "exec").length = 4 := rfl
  rw [Client.buildExec, buildChannelRequest_some (by decide), Option.bind_eq_bind, Option.bind_some,
    payloadAppendString_some (by rw [length_requestHead, name]; omega), execRequest]

theorem buildPtyReq_some (channel : Nat) : Client.buildPtyReq channel = some (ptyRequest channel) := by
  have name : (ascii "pty-req").length = 7 := rfl
  have term : (ascii "xterm-256color").length = 14 := rfl
  rw [Client.buildPtyReq, buildChannelRequest_some (by decide), Option.bind_eq_bind, Option.bind_some,
    payloadAppendString_some (by rw [length_requestHead, name, term]; omega), Option.bind_some,
    payloadAppendU32_some (by simp [length_requestHead, name, term]), Option.bind_some,
    payloadAppendU32_some (by simp [length_requestHead, name, term]), Option.bind_some,
    payloadAppendU32_some (by simp [length_requestHead, name, term]), Option.bind_some,
    payloadAppendU32_some (by simp [length_requestHead, name, term]), Option.bind_some,
    payloadAppendString_some (by simp [length_requestHead, name, term])]
  simp [ptyRequest, ptyFields, terminal]

theorem buildShell_some (channel : Nat) : Client.buildShell channel = some (shellRequest channel) :=
  buildChannelRequest_some (by decide)

/-- The confirmation is read as the ids, window and packet size it was built from. -/
theorem readConfirmation_openConfirmation (stale : Mem) :
    Client.readConfirmation (memOf openConfirmation stale) openConfirmation.length = some (0, 0, 65536, 32768) := by
  have size : openConfirmation.length = 17 := rfl
  have stands := holds_memOf openConfirmation stale
  rw [openConfirmation] at stands
  obtain ⟨stands, maxPacket⟩ := holds_append.1 stands
  obtain ⟨stands, window⟩ := holds_append.1 stands
  obtain ⟨stands, sender⟩ := holds_append.1 stands
  obtain ⟨-, recipient⟩ := holds_append.1 stands
  rw [← openConfirmation] at recipient sender window maxPacket
  rw [Client.readConfirmation, size, @payloadReadU32_holds _ _ 1 _ recipient (by decide) (by decide),
    Option.bind_eq_bind, Option.bind_some]
  dsimp only
  rw [@payloadReadU32_holds _ _ 5 _ sender (by decide) (by decide), Option.bind_some]
  dsimp only
  rw [@payloadReadU32_holds _ _ 9 _ window (by decide) (by decide), Option.bind_some]
  dsimp only
  rw [@payloadReadU32_holds _ _ 13 _ maxPacket (by decide) (by decide), Option.bind_some]
  rfl

variable {noxtls : Noxtls} {env : Env} {last : Lane} {payloads : List (List UInt8)} {rest : List UInt8} {h : Host Client}

/-- A channel request goes out and its CHANNEL_SUCCESS comes in. -/
theorem requestChannel_live (sha : noxtls.shaInit = true) (ctr : CtrMode noxtls) (live : Live env)
    {built : Option (List UInt8)} {payload : List UInt8} {channel : Nat} (is : built = some payload)
    (nonempty : payload ≠ []) (small : payload.length ≤ 34980)
    (awaiting : Client.Awaiting noxtls last (channelSuccess channel :: payloads) rest h) :
    Returns Client.Late (Client.requestChannel noxtls env built) (fun _ h' => Client.Said noxtls [payload] h h' ∧
      Client.Awaiting noxtls last payloads rest h' ∧ Client.core h'.self = Client.core h.self) h := by
  rw [Client.requestChannel]
  apply returns_lift_bind is
  apply ((Client.says_live sha ctr live nonempty small awaiting).failAs _).bind
  rintro _ h₁ ⟨said, awaiting₁, same⟩
  have heads : (channelSuccess channel).head? = some 99 := rfl
  apply ((Client.waits_live ctr live heads (.inl rfl) (by decide) (by simp [channelSuccess]) (by decide)
    awaiting₁).failAs _).bind
  rintro _ h₂ ⟨⟨stale, rfl⟩, heard, awaiting₂, same₂⟩
  dsimp only
  rw [ensure, if_pos heads]
  apply returns_of_run (pure_run () h₂)
  exact ⟨said.trans heard, awaiting₂, same₂.trans same⟩

/-- The service, unless the client has it already. -/
theorem requireService_live (sha : noxtls.shaInit = true) (ctr : CtrMode noxtls) (live : Live env) (ready : Bool)
    (awaiting : Client.Awaiting noxtls last ((if ready then [] else [serviceAccept]) ++ payloads) rest h) :
    Returns Client.Late (Client.requireService ready (Client.negotiateConnectionService noxtls env))
      (fun _ h' => Client.Said noxtls (if ready then [] else [serviceRequest]) h h' ∧
        Client.Awaiting noxtls last payloads rest h' ∧ Client.core h'.self =
          Client.core (if ready then h.self else Client.setConnectionReady h.self)) h := by
  cases ready with
  | true =>
      apply returns_of_run (pure_run () h)
      exact ⟨said_nothing rfl (List.append_nil _).symm rfl, awaiting, rfl⟩
  | false =>
      replace awaiting : Client.Awaiting noxtls last (serviceAccept :: payloads) rest h := awaiting
      have builds : Client.buildServiceRequest "ssh-connection" = some serviceRequest := rfl
      have heads : serviceAccept.head? = some 6 := rfl
      have speaks : Returns Client.Late (Client.sendServiceRequest noxtls env "ssh-connection") _ h :=
        returns_lift_bind builds .failed (Client.says_live sha ctr live (by decide) (by decide) awaiting)
      show Returns Client.Late (failAs .failed (Client.negotiateService noxtls env "ssh-connection" _)) _ h
      apply Returns.failAs
      apply (speaks.failAs _).bind
      rintro _ h₁ ⟨said, awaiting₁, same⟩
      apply ((Client.waits_live ctr live heads (.inl rfl) (by decide) (by decide) (by decide) awaiting₁).failAs _).bind
      rintro _ h₂ ⟨⟨stale, rfl⟩, heard, awaiting₂, same₂⟩
      obtain ⟨reads, shows⟩ := reads_string _ _ _ serviceAccept.length
        (holds_append.1 (holds_memOf serviceAccept stale)).2 rfl rfl rfl (by decide) (by decide)
      dsimp only
      apply returns_ensure_bind heads
      apply returns_lift_bind reads
      apply returns_ensure_bind shows
      apply returns_of_run (modify_run h₂ _)
      refine ⟨(said.trans heard).trans (said_nothing rfl (List.append_nil _).symm rfl), awaiting₂.keep rfl rfl rfl, ?_⟩
      exact congrArg Client.setConnectionReady (same₂.trans same)

/-- What a client that opens a session says, and what it waits for. -/
def openRequests (ready : Bool) : List (List UInt8) := (if ready then [] else [serviceRequest]) ++ [sessionOpen]

def openReplies (ready : Bool) : List (List UInt8) := (if ready then [] else [serviceAccept]) ++ [openConfirmation]

/-- The client's context with its channel open. -/
def opened (c : Client) : Client :=
  Client.openChannel 0 65536 32768
    (if c.connectionServiceReady then Client.setLocalChannel c else Client.setConnectionReady (Client.setLocalChannel c))

theorem openSession_live (sha : noxtls.shaInit = true) (ctr : CtrMode noxtls) (live : Live env) (payloads : List (List UInt8))
    (state : h.self.connected = true ∧ h.self.kexinitExchanged = true ∧ h.self.keyExchangeComplete = true ∧
      h.self.authenticated = true)
    (awaiting : Client.Awaiting noxtls last (openReplies h.self.connectionServiceReady ++ payloads) rest h) :
    Returns Client.Late (Client.openSession noxtls env) (fun _ h' =>
      Client.Said noxtls (openRequests h.self.connectionServiceReady) h h' ∧
      Client.Awaiting noxtls last payloads rest h' ∧ Client.core h'.self = Client.core (opened h.self)) h := by
  rw [openReplies, List.append_assoc] at awaiting
  rw [Client.openSession]
  apply returns_self_bind
  apply returns_ensure_bind state
  apply returns_modify_bind
  have awaiting₀ : Client.Awaiting noxtls last _ rest { h with self := Client.setLocalChannel h.self } :=
    awaiting.keep rfl rfl rfl
  apply (requireService_live sha ctr live h.self.connectionServiceReady awaiting₀).bind
  rintro _ h₁ ⟨said, awaiting₁, same₁⟩
  have built : Client.buildChannelOpen h₁.self = some sessionOpen := by
    have channel := congrArg Client.localChannelId same₁
    have window := congrArg Client.localWindowSize same₁
    split at channel <;> split at window <;> exact buildChannelOpen_some channel window
  have speaks : Returns Client.Late (Client.sendChannelOpenSession noxtls env) _ h₁ :=
    returns_self_bind (returns_lift_bind built .failed (Client.says_live sha ctr live (by decide) (by decide) awaiting₁))
  apply (speaks.failAs _).bind
  rintro _ h₂ ⟨said₂, awaiting₂, same₂⟩
  have heads : openConfirmation.head? = some 91 := rfl
  apply ((Client.waits_live ctr live heads (.inl rfl) (by decide) (by decide) (by decide) awaiting₂).failAs _).bind
  rintro _ h₃ ⟨⟨stale, rfl⟩, said₃, awaiting₃, same₃⟩
  have same := same₃.trans (same₂.trans same₁)
  have channel : 0 = h₃.self.localChannelId := by
    have is := congrArg Client.localChannelId same
    split at is <;> exact is.symm
  dsimp only
  apply returns_ensure_bind heads
  apply returns_lift_bind (readConfirmation_openConfirmation stale)
  apply returns_self_bind
  apply returns_ensure_bind channel
  apply returns_of_run (modify_run h₃ _)
  refine ⟨?_, awaiting₃.keep rfl rfl rfl, congrArg (Client.openChannel 0 65536 32768) same⟩
  have first : Client.Said noxtls [] h { h with self := Client.setLocalChannel h.self } :=
    said_nothing rfl (List.append_nil _).symm rfl
  exact (first.trans said).trans ((said₂.trans said₃).trans (said_nothing rfl (List.append_nil _).symm rfl))

/-- A request on the open channel. -/
theorem exec_live (sha : noxtls.shaInit = true) (ctr : CtrMode noxtls) (live : Live env) (ready : Client.Ready h.self)
    {command : List UInt8} (short : command.length ≤ 512) {channel : Nat}
    (awaiting : Client.Awaiting noxtls last (channelSuccess channel :: payloads) rest h) :
    Returns Client.Late (Client.exec noxtls env command) (fun _ h' =>
      Client.Said noxtls [execRequest h.self.remoteChannelId command] h h' ∧
      Client.Awaiting noxtls last payloads rest h' ∧ Client.core h'.self = Client.core h.self) h := by
  have name : (ascii "exec").length = 4 := rfl
  have size : (execRequest h.self.remoteChannelId command).length = 18 + command.length := by
    rw [execRequest, List.length_append, length_requestHead, length_sshString, name]
    omega
  rw [Client.exec]
  apply returns_self_bind
  apply returns_ensure_bind ready
  apply returns_ensure_bind (show command.length ≤ Client.maxCommandLen from short)
  exact requestChannel_live sha ctr live (buildExec_some short) (by simp [execRequest, requestHead]) (by omega) awaiting

/-- What a client that asks for a shell says. -/
def shellRequests (wantPty : Bool) (channel : Nat) : List (List UInt8) :=
  (if wantPty then [ptyRequest channel] else []) ++ [shellRequest channel]

def shellReplies (wantPty : Bool) (channel : Nat) : List (List UInt8) :=
  (if wantPty then [channelSuccess channel] else []) ++ [channelSuccess channel]

theorem requestPty_live (sha : noxtls.shaInit = true) (ctr : CtrMode noxtls) (live : Live env) (wantPty : Bool)
    {channel : Nat} (awaiting : Client.Awaiting noxtls last
      ((if wantPty then [channelSuccess channel] else []) ++ payloads) rest h) (remoteId : Nat) :
    Returns Client.Late (Client.requestPty noxtls env wantPty remoteId) (fun _ h' =>
      Client.Said noxtls (if wantPty then [ptyRequest remoteId] else []) h h' ∧
      Client.Awaiting noxtls last payloads rest h' ∧ Client.core h'.self = Client.core h.self) h := by
  have name : (ascii "pty-req").length = 7 := rfl
  have term : (ascii "xterm-256color").length = 14 := rfl
  have size : (ptyRequest remoteId).length = 55 := by
    simp [ptyRequest, ptyFields, terminal, length_requestHead, name, term]
  cases wantPty with
  | true =>
      exact requestChannel_live sha ctr live (buildPtyReq_some remoteId) (by simp [ptyRequest, requestHead]) (by omega)
        awaiting
  | false => exact returns_of_run (pure_run () h) ⟨said_nothing rfl (List.append_nil _).symm rfl, awaiting, rfl⟩

theorem requestShellEx_live (sha : noxtls.shaInit = true) (ctr : CtrMode noxtls) (live : Live env) (payloads : List (List UInt8))
    (ready : Client.Ready h.self) (wantPty : Bool) {channel : Nat}
    (awaiting : Client.Awaiting noxtls last (shellReplies wantPty channel ++ payloads) rest h) :
    Returns Client.Late (Client.requestShellEx noxtls env wantPty) (fun _ h' =>
      Client.Said noxtls (shellRequests wantPty h.self.remoteChannelId) h h' ∧
      Client.Awaiting noxtls last payloads rest h' ∧ Client.core h'.self = Client.core h.self) h := by
  rw [shellReplies, List.append_assoc] at awaiting
  have name : (ascii "shell").length = 5 := rfl
  have size : (shellRequest h.self.remoteChannelId).length = 15 := length_requestHead _ _
  rw [Client.requestShellEx]
  apply returns_self_bind
  apply returns_ensure_bind ready
  apply (requestPty_live sha ctr live wantPty awaiting _).bind
  rintro _ h₁ ⟨said, awaiting₁, same⟩
  apply returns_self_bind
  have channelSame : h₁.self.remoteChannelId = h.self.remoteChannelId := Client.eq_of_core (fun _ => rfl) same
  rw [channelSame]
  apply (requestChannel_live sha ctr live (buildShell_some _) (by simp [shellRequest, requestHead]) (by omega)
    awaiting₁).mono
  rintro _ h₂ ⟨said₂, awaiting₂, same₂⟩
  exact ⟨said.trans said₂, awaiting₂, same₂.trans same⟩

end Client

/-! ## The server's half -/

section Server

variable {noxtls : Noxtls} {env : Env} {last : Lane} {payloads : List (List UInt8)} {rest : List UInt8} {h : Host Server}
  {sessionTurns turns : Nat}

theorem serviceRequest_live (sha : noxtls.shaInit = true) (ctr : CtrMode noxtls) (live : Live env)
    (authenticated : h.self.authenticated = true)
    (awaiting : Server.Awaiting noxtls last (serviceRequest :: payloads) rest h) :
    Continues Server.Spent (Server.serveLoop noxtls env sessionTurns (turns + 1) 0)
      (Server.serveLoop noxtls env sessionTurns turns 0) (fun h' => Server.Said noxtls [serviceAccept] h h' ∧
        Server.Awaiting noxtls last payloads rest h' ∧
        Server.core h'.self = Server.core (Server.setConnectionReady h.self)) h := by
  apply Server.turn_live ctr live (by decide) (by decide) awaiting
  intro stale h₁ heard awaiting₁ same
  have loggedIn : h₁.self.authenticated = h.self.authenticated := Server.eq_of_core (fun _ => rfl) same
  obtain ⟨reads, shows⟩ := reads_string _ _ _ serviceRequest.length
    (holds_append.1 (holds_memOf serviceRequest stale)).2 rfl rfl rfl (by decide) (by decide)
  apply Server.goOn_live
  apply returns_lift_bind reads
  apply returns_self_bind
  rw [shows, if_neg (by decide), if_pos ⟨loggedIn.trans authenticated, rfl⟩]
  apply returns_modify_bind
  have built : (payloadAppendU8 256 6 [] >>= payloadAppendString 256 (ascii "ssh-connection")) = some serviceAccept := rfl
  have awaiting₂ : Server.Awaiting noxtls last _ rest { h₁ with self := Server.setConnectionReady h₁.self } :=
    awaiting₁.keep rfl rfl rfl
  apply Returns.failAs
  apply returns_lift_bind built
  apply (Server.says_live sha ctr live (by decide) (by decide) awaiting₂).mono
  rintro _ h₂ ⟨said, awaiting₃, same₂⟩
  have ready : Server.Said noxtls [] h₁ { h₁ with self := Server.setConnectionReady h₁.self } :=
    said_nothing rfl (List.append_nil _).symm rfl
  exact ⟨(heard.trans ready).trans said, awaiting₃, same₂.trans (congrArg Server.setConnectionReady same)⟩

/-- The fields of the CHANNEL_OPEN as they are read. -/
theorem sessionOpen_reads (stale : Mem) :
    (payloadReadStringView (memOf sessionOpen stale) sessionOpen.length 1 = some (⟨5, 7⟩, 12) ∧
      View.bytes ⟨5, 7⟩ (memOf sessionOpen stale) = ascii "session") ∧
    payloadReadU32 (memOf sessionOpen stale) sessionOpen.length 12 = some (0, 16) ∧
    payloadReadU32 (memOf sessionOpen stale) sessionOpen.length 16 = some (65536, 20) ∧
    payloadReadU32 (memOf sessionOpen stale) sessionOpen.length 20 = some (32768, 24) := by
  have stands := holds_memOf sessionOpen stale
  rw [sessionOpen] at stands
  obtain ⟨stands, maxPacket⟩ := holds_append.1 stands
  obtain ⟨stands, window⟩ := holds_append.1 stands
  obtain ⟨stands, sender⟩ := holds_append.1 stands
  obtain ⟨-, typ⟩ := holds_append.1 stands
  rw [← sessionOpen] at typ sender window maxPacket
  refine ⟨reads_string _ _ _ _ typ rfl rfl rfl (by decide) (by decide), ?_, ?_, ?_⟩
  · exact @payloadReadU32_holds _ _ 12 _ sender (by decide) (by decide)
  · exact @payloadReadU32_holds _ _ 16 _ window (by decide) (by decide)
  · exact @payloadReadU32_holds _ _ 20 _ maxPacket (by decide) (by decide)

/-- The confirmation goes out, for the new channel. -/
theorem confirmation_live (sha : noxtls.shaInit = true) (ctr : CtrMode noxtls) (live : Live env)
    (awaiting : Server.Awaiting noxtls last payloads rest h) :
    Returns Server.Spent (Server.sendChannelOpenConfirmation noxtls env 0) (fun _ h' =>
      Server.Said noxtls [openConfirmation] h h' ∧ Server.Awaiting noxtls last payloads rest h' ∧
        Server.core h'.self = Server.core (Server.openChannel 0 h.self)) h := by
  have built : (payloadAppendU8 128 91 [] >>= payloadAppendU32 128 0 >>= payloadAppendU32 128 0 >>=
    payloadAppendU32 128 65536 >>= payloadAppendU32 128 32768) = some openConfirmation := rfl
  have opening : Server.Said noxtls [] h { h with self := Server.openChannel 0 h.self } :=
    said_nothing rfl (List.append_nil _).symm rfl
  have awaiting₁ : Server.Awaiting noxtls last payloads rest { h with self := Server.openChannel 0 h.self } :=
    awaiting.keep rfl rfl rfl
  rw [Server.sendChannelOpenConfirmation]
  apply returns_modify_bind
  apply returns_self_bind
  apply returns_lift_bind built
  apply (Server.says_live sha ctr live (by decide) (by decide) awaiting₁).mono
  rintro _ h' ⟨said, awaiting', same⟩
  exact ⟨opening.trans said, awaiting', same⟩

/-- The server's context with its channel open. -/
def accepted (s : Server) : Server :=
  Server.setChannelOpen true (Server.openChannel 0 (Server.setRemoteLimits 65536 32768 s))

theorem sessionOpen_live (sha : noxtls.shaInit = true) (ctr : CtrMode noxtls) (live : Live env)
    (ready : h.self.authenticated = true ∧ h.self.connectionServiceReady = true) (none : h.self.channelOpen = false)
    (awaiting : Server.Awaiting noxtls last (sessionOpen :: payloads) rest h) :
    Continues Server.Spent (Server.serveLoop noxtls env sessionTurns (turns + 1) 0)
      (Server.serveLoop noxtls env sessionTurns turns 0) (fun h' => Server.Said noxtls [openConfirmation] h h' ∧
        Server.Awaiting noxtls last payloads rest h' ∧ Server.core h'.self = Server.core (accepted h.self)) h := by
  apply Server.turn_live ctr live (by decide) (by decide) awaiting
  intro stale h₁ heard awaiting₁ same
  have flags : h₁.self.authenticated = true ∧ h₁.self.connectionServiceReady = true :=
    ⟨(Server.eq_of_core (fun _ => rfl) same).trans ready.1, (Server.eq_of_core (fun _ => rfl) same).trans ready.2⟩
  have unopened : h₁.self.channelOpen = false := (Server.eq_of_core (fun _ => rfl) same).trans none
  obtain ⟨⟨readsTyp, showsTyp⟩, readsSender, readsWindow, readsMax⟩ := sessionOpen_reads stale
  apply Server.goOn_live
  apply returns_ensure_bind rfl
  apply returns_self_bind
  apply returns_ensure_bind flags
  apply returns_lift_bind readsTyp
  apply returns_lift_bind readsSender
  apply returns_lift_bind readsWindow
  apply returns_lift_bind readsMax
  apply returns_ensure_bind showsTyp
  apply returns_ensure_bind ⟨unopened, by decide⟩
  apply returns_modify_bind
  have limits : Server.Said noxtls [] h₁ { h₁ with self := Server.setRemoteLimits 65536 32768 h₁.self } :=
    said_nothing rfl (List.append_nil _).symm rfl
  have awaiting₂ : Server.Awaiting noxtls last payloads rest
    { h₁ with self := Server.setRemoteLimits 65536 32768 h₁.self } := awaiting₁.keep rfl rfl rfl
  apply ((confirmation_live sha ctr live awaiting₂).failAs _).bind
  rintro _ h₂ ⟨said, awaiting₃, same₂⟩
  apply returns_of_run (modify_run h₂ _)
  have marked : Server.Said noxtls [] h₂ { h₂ with self := Server.setChannelOpen true h₂.self } :=
    said_nothing rfl (List.append_nil _).symm rfl
  refine ⟨((heard.trans limits).trans said).trans marked, awaiting₃.keep rfl rfl rfl, ?_⟩
  have whole := congrArg (fun s => Server.openChannel 0 (Server.setRemoteLimits 65536 32768 s)) same
  exact congrArg (Server.setChannelOpen true) (same₂.trans whole)

/-- Where the fields of a channel request stand. -/
theorem requestHead_reads {channel : Nat} (small : channel < 4294967296) (request : String) (fields : List UInt8)
    {payload : List UInt8} (is : payload = requestHead channel request ++ fields) (short : payload.length < 4294967296)
    (stale : Mem) :
    payloadReadU32 (memOf payload stale) payload.length 1 = some (channel, 5) ∧
    (payloadReadStringView (memOf payload stale) payload.length 5 =
        some (⟨9, (ascii request).length⟩, 9 + (ascii request).length) ∧
      View.bytes ⟨9, (ascii request).length⟩ (memOf payload stale) = ascii request) ∧
    9 + (ascii request).length < payload.length ∧ memOf payload stale (9 + (ascii request).length) = 1 ∧
    Holds (memOf payload stale) (10 + (ascii request).length) fields := by
  have size : payload.length = 10 + (ascii request).length + fields.length := by
    rw [is, List.length_append, length_requestHead]
  have stands : Holds (memOf payload stale) 0 (requestHead channel request ++ fields) := is ▸ holds_memOf payload stale
  obtain ⟨head, tail⟩ := holds_append.1 stands
  rw [length_requestHead] at tail
  rw [requestHead] at head
  obtain ⟨head, want⟩ := holds_append.1 head
  obtain ⟨head, name⟩ := holds_append.1 head
  obtain ⟨-, number⟩ := holds_append.1 head
  simp only [List.length_append, List.length_singleton, length_be32, length_sshString] at want name number
  have readsNumber := @payloadReadU32_holds _ payload.length 1 _ number (by omega) short
  rw [wrap32_of_lt small] at readsNumber
  refine ⟨readsNumber, reads_string _ _ _ _ name rfl rfl (by omega) (by omega) short, by omega, ?_, Holds.shift tail (by omega)⟩
  have byte := Holds.shift want (show _ = 9 + (ascii request).length by omega)
  simpa [Holds, slice_succ] using byte

/-- A channel request comes to its own fields. -/
theorem channelRequest_run {channel : Nat} (small : channel < 4294967296) (request : String) (fields : List UInt8)
    {payload : List UInt8} (is : payload = requestHead channel request ++ fields) (short : payload.length < 4294967296)
    (stale : Mem) {h : Host Server} (isOpen : h.self.channelOpen = true) (own : h.self.localChannelId = channel) :
    (Server.channelRequest noxtls env sessionTurns 0 payload (memOf payload stale)).run h =
      (Server.channelRequestBody noxtls env sessionTurns 0 payload (memOf payload stale) ⟨9, (ascii request).length⟩
        (9 + (ascii request).length)).run h := by
  obtain ⟨readsNumber, ⟨readsName, -⟩, more, -, -⟩ := requestHead_reads small request fields is short stale
  rw [Server.channelRequest, self_bind_run, if_neg (by simp [isOpen]), readsNumber, lift_some, pure_bind_run]
  dsimp only
  rw [if_neg (by simp [own]), readsName, lift_some, pure_bind_run]
  dsimp only
  rw [ensure_bind_pos more]

/-- The success message for the client's channel. -/
theorem confirm_live (sha : noxtls.shaInit = true) (ctr : CtrMode noxtls) (live : Live env)
    (awaiting : Server.Awaiting noxtls last payloads rest h) :
    Returns Server.Spent (Server.confirm noxtls env true) (fun _ h' =>
      Server.Said noxtls [channelSuccess h.self.remoteChannelId] h h' ∧
        Server.Awaiting noxtls last payloads rest h' ∧ Server.core h'.self = Server.core h.self) h := by
  have built : (payloadAppendU8 64 99 [] >>= payloadAppendU32 64 h.self.remoteChannelId) =
      some (channelSuccess h.self.remoteChannelId) := by
    rw [payloadAppendU8_some (by decide), Option.bind_eq_bind, Option.bind_some, payloadAppendU32_some (by decide),
      List.nil_append, channelSuccess]
  apply Returns.failAs
  apply returns_self_bind
  exact returns_lift_bind built .failed
    (Server.says_live sha ctr live (by simp [channelSuccess]) (by simp [channelSuccess]) awaiting)

/-- What is left to do when a session's request has been confirmed: the session, and
then the wait for the client's CLOSE. -/
def sessionRun (noxtls : Noxtls) (env : Env) (sessionTurns turns : Nat) (command : Option (List UInt8)) :
    Prog Server Unit := do
  failAs .failed (Server.runSessionUnix noxtls env sessionTurns command)
  let closeDeadlineMs ← failAs .failed (Server.beginCloseWait env 0)
  Server.serveLoop noxtls env sessionTurns turns closeDeadlineMs

/-- A confirmed session runs. -/
theorem runAndClose_live (sha : noxtls.shaInit = true) (ctr : CtrMode noxtls) (live : Live env)
    (command : Option (List UInt8)) (awaiting : Server.Awaiting noxtls last payloads rest h) :
    Continues Server.Spent
      (Server.goOnWith (Server.runAndClose noxtls env sessionTurns true command 0) >>=
        Server.proceed noxtls env sessionTurns turns)
      (sessionRun noxtls env sessionTurns turns command)
      (fun h' => Server.Said noxtls [channelSuccess h.self.remoteChannelId] h h' ∧
        Server.Awaiting noxtls last payloads rest h' ∧ Server.core h'.self = Server.core h.self) h := by
  rw [Server.goOnWith, Server.runAndClose, bind_assoc_run, bind_assoc_run]
  apply (confirm_live sha ctr live awaiting).continues
  intro _ h' post
  rw [bind_assoc_run]
  exact continues_here post

/-- The server runs the session a request asks for. -/
theorem sessionRequest_live (sha : noxtls.shaInit = true) (ctr : CtrMode noxtls) (live : Live env) {payload : List UInt8}
    (number : payload.head? = some 98) (short : payload.length ≤ maxPacketLen) (command : Option (List UInt8))
    (body : ∀ stale h₁, Server.core h₁.self = Server.core h.self →
      (Server.channelRequest noxtls env sessionTurns 0 payload (memOf payload stale)).run h₁ =
        (Server.runAndClose noxtls env sessionTurns true command 0).run h₁)
    (awaiting : Server.Awaiting noxtls last (payload :: payloads) rest h) :
    Continues Server.Spent (Server.serveLoop noxtls env sessionTurns (turns + 1) 0)
      (sessionRun noxtls env sessionTurns turns command) (fun h' =>
        Server.Said noxtls [channelSuccess h.self.remoteChannelId] h h' ∧
        Server.Awaiting noxtls last payloads rest h' ∧ Server.core h'.self = Server.core h.self) h := by
  have nonempty : payload ≠ [] := by
    rintro rfl
    simp at number
  apply Server.turn_live ctr live nonempty short awaiting
  intro stale h₁ heard awaiting₁ same
  have dispatched : (Server.dispatch noxtls env sessionTurns 0 payload (memOf payload stale)).run h₁ =
      (Server.goOnWith (Server.runAndClose noxtls env sessionTurns true command 0)).run h₁ := by
    rw [Server.dispatch, number]
    exact bind_congr_run (body stale h₁ same) _
  apply continues_of_run (bind_congr_run dispatched _)
  have client : h₁.self.remoteChannelId = h.self.remoteChannelId := Server.eq_of_core (fun _ => rfl) same
  apply (runAndClose_live sha ctr live command awaiting₁).mono
  rintro h₂ ⟨said, awaiting₂, same₂⟩
  rw [client] at said
  exact ⟨heard.trans said, awaiting₂, same₂.trans same⟩

theorem execRequest_live (sha : noxtls.shaInit = true) (ctr : CtrMode noxtls) (live : Live env) {channel : Nat}
    (small : channel < 4294967296) {command : List UInt8} (short : command.length ≤ 512) (plain : 0 ∉ command)
    (isOpen : h.self.channelOpen = true) (own : h.self.localChannelId = channel)
    (awaiting : Server.Awaiting noxtls last (execRequest channel command :: payloads) rest h) :
    Continues Server.Spent (Server.serveLoop noxtls env sessionTurns (turns + 1) 0)
      (sessionRun noxtls env sessionTurns turns (some command)) (fun h' =>
        Server.Said noxtls [channelSuccess h.self.remoteChannelId] h h' ∧
        Server.Awaiting noxtls last payloads rest h' ∧ Server.core h'.self = Server.core h.self) h := by
  have name : (ascii "exec").length = 4 := rfl
  have size : (execRequest channel command).length = 18 + command.length := by
    rw [execRequest, List.length_append, length_requestHead, length_sshString, name]
    omega
  apply sessionRequest_live sha ctr live rfl (by rw [size, maxPacketLen]; omega) (some command) _ awaiting
  intro stale h₁ same
  have whole : execRequest channel command = requestHead channel "exec" ++ sshString command := rfl
  obtain ⟨-, ⟨-, showsName⟩, -, wants, fields⟩ := requestHead_reads small "exec" _ whole (by omega) stale
  replace fields : Holds _ 14 _ := fields
  obtain ⟨readsCommand, showsCommand⟩ := reads_string 18 command.length (18 + command.length)
    (execRequest channel command).length fields rfl rfl (by omega) (by omega) (by omega)
  have read : Server.readCommand (memOf (execRequest channel command) stale) (execRequest channel command).length
      (9 + (ascii "exec").length + 1) = some command := by
    show Server.readCommand _ _ 14 = _
    rw [Server.readCommand, readsCommand, Option.bind_eq_bind, Option.bind_some]
    dsimp only
    exact Server.require_bind.2 ⟨⟨short, by rwa [showsCommand], size.symm⟩, by rw [showsCommand]⟩
  rw [channelRequest_run small "exec" _ whole (by omega) stale
    ((Server.eq_of_core (fun _ => rfl) same).trans isOpen) ((Server.eq_of_core (fun _ => rfl) same).trans own)]
  rw [Server.channelRequestBody, self_bind_run, showsName, if_neg (by decide), if_pos rfl, wants, read]
  rfl

theorem shellRequest_live (sha : noxtls.shaInit = true) (ctr : CtrMode noxtls) (live : Live env) {channel : Nat}
    (small : channel < 4294967296) (isOpen : h.self.channelOpen = true) (own : h.self.localChannelId = channel)
    (awaiting : Server.Awaiting noxtls last (shellRequest channel :: payloads) rest h) :
    Continues Server.Spent (Server.serveLoop noxtls env sessionTurns (turns + 1) 0)
      (sessionRun noxtls env sessionTurns turns none) (fun h' =>
        Server.Said noxtls [channelSuccess h.self.remoteChannelId] h h' ∧
        Server.Awaiting noxtls last payloads rest h' ∧ Server.core h'.self = Server.core h.self) h := by
  have name : (ascii "shell").length = 5 := rfl
  have size : (shellRequest channel).length = 15 := length_requestHead _ _
  have whole : shellRequest channel = requestHead channel "shell" ++ [] := (List.append_nil _).symm
  apply sessionRequest_live sha ctr live rfl (by rw [size]; decide) none _ awaiting
  intro stale h₁ same
  obtain ⟨-, ⟨-, showsName⟩, -, wants, -⟩ := requestHead_reads small "shell" [] whole (by omega) stale
  rw [channelRequest_run small "shell" [] whole (by omega) stale
    ((Server.eq_of_core (fun _ => rfl) same).trans isOpen) ((Server.eq_of_core (fun _ => rfl) same).trans own)]
  rw [Server.channelRequestBody, self_bind_run, showsName, if_neg (by decide), if_neg (by decide), if_pos rfl, wants,
    if_neg (by rw [name, size]; decide)]
  rfl

/-- The terminal is read as the client wrote it. -/
theorem readPty_fields {m : Mem} {plen off : Nat} {pty : Server.Pty} (stands : Holds m off (ptyFields pty))
    (whole : plen = off + (24 + pty.term.length)) (fits : plen < 4294967296) (short : pty.term.length < 65)
    (plain : 0 ∉ pty.term) (sizes : pty.cols < 4294967296 ∧ pty.rows < 4294967296 ∧ pty.width < 4294967296 ∧
      pty.height < 4294967296) : Server.readPty m plen off = some pty := by
  rw [ptyFields] at stands
  obtain ⟨stands, modes⟩ := holds_append.1 stands
  obtain ⟨stands, height⟩ := holds_append.1 stands
  obtain ⟨stands, width⟩ := holds_append.1 stands
  obtain ⟨stands, rows⟩ := holds_append.1 stands
  obtain ⟨term, cols⟩ := holds_append.1 stands
  simp only [List.length_append, length_be32, length_sshString] at cols rows width height modes
  obtain ⟨readsTerm, showsTerm⟩ := reads_string _ _ _ plen term rfl rfl rfl (by omega) fits
  obtain ⟨readsModes, -⟩ := reads_string (off + (4 + pty.term.length + 4 + 4 + 4 + 4) + 4) 0 plen
    plen modes rfl rfl (by omega) le_rfl fits
  have readsCols := @payloadReadU32_holds _ plen _ _ cols (by omega) fits
  have readsRows := @payloadReadU32_holds _ plen _ _ rows (by omega) fits
  have readsWidth := @payloadReadU32_holds _ plen _ _ width (by omega) fits
  have readsHeight := @payloadReadU32_holds _ plen _ _ height (by omega) fits
  rw [wrap32_of_lt sizes.1] at readsCols
  rw [wrap32_of_lt sizes.2.1] at readsRows
  rw [wrap32_of_lt sizes.2.2.1] at readsWidth
  rw [wrap32_of_lt sizes.2.2.2] at readsHeight
  rw [Server.readPty, readsTerm, Option.bind_eq_bind, Option.bind_some]
  refine Server.require_bind.2 ⟨⟨short, by rwa [showsTerm]⟩, ?_⟩
  simp only [Nat.add_assoc] at readsCols readsRows readsWidth readsHeight readsModes ⊢
  simp only [readsCols, readsRows, readsWidth, readsHeight, readsModes, showsTerm, Option.bind_eq_bind, Option.bind_some]
  exact Server.require_bind.2 ⟨trivial, rfl⟩

theorem ptyRequest_live (sha : noxtls.shaInit = true) (ctr : CtrMode noxtls) (live : Live env) {channel : Nat}
    (small : channel < 4294967296) (isOpen : h.self.channelOpen = true) (own : h.self.localChannelId = channel)
    (fresh : h.self.wantPty = false) (awaiting : Server.Awaiting noxtls last (ptyRequest channel :: payloads) rest h) :
    Continues Server.Spent (Server.serveLoop noxtls env sessionTurns (turns + 1) 0)
      (Server.serveLoop noxtls env sessionTurns turns 0) (fun h' =>
        Server.Said noxtls [channelSuccess h.self.remoteChannelId] h h' ∧
        Server.Awaiting noxtls last payloads rest h' ∧
        Server.core h'.self = Server.core (Server.setPty terminal h.self)) h := by
  have name : (ascii "pty-req").length = 7 := rfl
  have term : (ascii "xterm-256color").length = 14 := rfl
  have size : (ptyRequest channel).length = 55 := by
    simp [ptyRequest, ptyFields, terminal, length_requestHead, name, term]
  have whole : ptyRequest channel = requestHead channel "pty-req" ++ ptyFields terminal := rfl
  apply Server.turn_live ctr live (by simp [ptyRequest, requestHead]) (by rw [size]; decide) awaiting
  intro stale h₁ heard awaiting₁ same
  obtain ⟨-, ⟨-, showsName⟩, -, wants, fields⟩ := requestHead_reads small "pty-req" _ whole (by omega) stale
  have read : Server.readPty (memOf (ptyRequest channel) stale) (ptyRequest channel).length
      (9 + (ascii "pty-req").length + 1) = some terminal :=
    readPty_fields fields (by rw [size]; rfl) (by omega) (by decide) (by decide) (by decide)
  have client : h₁.self.remoteChannelId = h.self.remoteChannelId := Server.eq_of_core (fun _ => rfl) same
  have unset : h₁.self.wantPty = false := (Server.eq_of_core (fun _ => rfl) same).trans fresh
  have dispatched : (Server.dispatch noxtls env sessionTurns 0 (ptyRequest channel) (memOf (ptyRequest channel) stale)).run h₁
      = (Server.goOn 0 (Server.confirm noxtls env true)).run { h₁ with self := Server.setPty terminal h₁.self } := by
    show (Server.goOnWith _).run h₁ = _
    rw [Server.goOnWith, bind_congr_run (channelRequest_run small "pty-req" _ whole (by omega) stale
      ((Server.eq_of_core (fun _ => rfl) same).trans isOpen) ((Server.eq_of_core (fun _ => rfl) same).trans own)),
      Server.channelRequestBody, bind_assoc_run, self_bind_run, showsName, if_pos rfl, wants, unset, read,
      if_neg Bool.false_ne_true]
    dsimp only
    rw [bind_assoc_run, modify_bind_run, bind_assoc_run]
    rfl
  apply continues_of_run (bind_congr_run dispatched _)
  have awaiting₂ : Server.Awaiting noxtls last payloads rest { h₁ with self := Server.setPty terminal h₁.self } :=
    awaiting₁.keep rfl rfl rfl
  have set : Server.Said noxtls [] h₁ { h₁ with self := Server.setPty terminal h₁.self } :=
    said_nothing rfl (List.append_nil _).symm rfl
  apply (Server.goOn_live (confirm_live sha ctr live awaiting₂)).mono
  rintro h₂ ⟨said, awaiting₃, same₂⟩
  change Server.Said noxtls [channelSuccess h₁.self.remoteChannelId] _ h₂ at said
  rw [client] at said
  exact ⟨(heard.trans set).trans said, awaiting₃, same₂.trans (congrArg (Server.setPty terminal) same)⟩

end Server

/-! ## Both halves -/

/-- An authenticated pair with no channel, and so with no terminal. -/
structure Unopened (c : Client) (s : Server) : Prop where
  client : c.connected = true ∧ c.kexinitExchanged = true ∧ c.keyExchangeComplete = true ∧ c.authenticated = true
  server : s.authenticated = true ∧ s.connectionServiceReady = true
  noChannel : s.channelOpen = false
  noTerminal : s.wantPty = false

/-- Both sides have the channel, with the same ids, windows and packet sizes. -/
structure Matched (c : Client) (s : Server) : Prop where
  ready : Client.Ready c
  isOpen : s.channelOpen = true
  clientId : c.localChannelId = s.remoteChannelId
  serverId : c.remoteChannelId = s.localChannelId
  clientWindow : c.localWindowSize = s.remoteWindowSize
  serverWindow : c.remoteWindowSize = s.localWindowSize
  clientPacket : Client.channelMaxPacketSize = s.remoteMaxPacketSize
  serverPacket : c.remoteMaxPacketSize = 32768
  small : s.localChannelId < 4294967296

theorem matched_core {c : Client} {s : Server} : Matched (Client.core c) (Server.core s) ↔ Matched c s :=
  ⟨fun ⟨a, b, d, e, f, g, i, j, k⟩ => ⟨a, b, d, e, f, g, i, j, k⟩, fun ⟨a, b, d, e, f, g, i, j, k⟩ => ⟨a, b, d, e, f, g, i, j, k⟩⟩

theorem Matched.of_core {c c' : Client} {s s' : Server} (matched : Matched c s) (sameC : Client.core c' = Client.core c)
    (sameS : Server.core s' = Server.core s) : Matched c' s' := by
  rw [← matched_core, sameC, sameS, matched_core]
  exact matched

section Both

variable {noxtls : Noxtls} {clientEnv serverEnv : Env} {c : Host Client} {s : Host Server} {restC restS : List UInt8}
  {sessionTurns turns : Nat}

/-- What the server does with the requests of a client that opens a session. -/
theorem openRequests_live {lastC : Lane} (sha : noxtls.shaInit = true) (ctr : CtrMode noxtls) (live : Live serverEnv)
    {c : Client} (unopened : Unopened c s.self) (ready : Bool)
    (awaiting : Server.Awaiting noxtls lastC (openRequests ready) restS s) :
    Continues Server.Spent (Server.serveLoop noxtls serverEnv sessionTurns (turns + (openRequests ready).length) 0)
      (Server.serveLoop noxtls serverEnv sessionTurns turns 0) (fun s' =>
        Server.Said noxtls (openReplies ready) s s' ∧ Server.Awaiting noxtls lastC [] restS s' ∧
        Server.core s'.self = Server.core (accepted s.self)) s := by
  cases ready with
  | true => exact sessionOpen_live sha ctr live unopened.server unopened.noChannel awaiting
  | false =>
      apply (serviceRequest_live sha ctr live unopened.server.1 awaiting).trans
      rintro s₁ ⟨said, awaiting₁, same⟩
      have same' : Server.core s₁.self = Server.core s.self := by
        rw [same]
        exact congrArg (fun t => { Server.core s.self with connectionServiceReady := t }) unopened.server.2.symm
      have flags : s₁.self.authenticated = true ∧ s₁.self.connectionServiceReady = true :=
        ⟨(Server.eq_of_core (fun _ => rfl) same').trans unopened.server.1,
          (Server.eq_of_core (fun _ => rfl) same').trans unopened.server.2⟩
      have none : s₁.self.channelOpen = false := (Server.eq_of_core (fun _ => rfl) same').trans unopened.noChannel
      apply (sessionOpen_live sha ctr live flags none awaiting₁).mono
      rintro s₂ ⟨said₂, awaiting₂, same₂⟩
      exact ⟨said.trans said₂, awaiting₂, same₂.trans (congrArg accepted same')⟩

/-- The session is opened, and both sides have the same channel. -/
theorem open_agrees (sha : noxtls.shaInit = true) (ctr : CtrMode noxtls) (clientLive : Live clientEnv)
    (serverLive : Live serverEnv) (unopened : Unopened c.self s.self)
    (meet : Meet noxtls (openRequests c.self.connectionServiceReady) (openReplies c.self.connectionServiceReady) restC
      restS c s) :
    ∃ c', (Client.openSession noxtls clientEnv).run c = (.ok (), c') ∧
      Client.Said noxtls (openRequests c.self.connectionServiceReady) c c' ∧
      Continues Server.Spent (Server.serveLoop noxtls serverEnv sessionTurns
          (turns + (openRequests c.self.connectionServiceReady).length) 0)
        (Server.serveLoop noxtls serverEnv sessionTurns turns 0) (fun s' =>
          Server.Said noxtls (openReplies c.self.connectionServiceReady) s s' ∧ Paired c'.self s'.self ∧
          c'.inbox = restC ∧ s'.inbox = restS ∧ Matched c'.self s'.self ∧ s'.self.wantPty = false) s := by
  obtain ⟨lastC, lastS, awaitingC, awaitingS, ends⟩ := meet.awaiting
  obtain ⟨_, c', ran, saidC, leftC, sameC⟩ := (openSession_live sha ctr clientLive [] unopened.client
    (by simpa using awaitingC)).ok id
  refine ⟨c', ran, saidC, ?_⟩
  apply (openRequests_live sha ctr serverLive unopened _ awaitingS).mono
  rintro s' ⟨saidS, leftS, sameS⟩
  obtain ⟨paired, inboxC, inboxS⟩ := ends c' s' saidC saidS leftC leftS
  refine ⟨saidS, paired, inboxC, inboxS, ?_, (Server.eq_of_core (fun _ => rfl) sameS).trans unopened.noTerminal⟩
  have matched : Matched (opened c.self) (accepted s.self) := by
    obtain ⟨connected, exchanged, complete, -⟩ := unopened.client
    have ready : Client.Ready (opened c.self) := by
      rw [opened]
      split <;> exact ⟨connected, exchanged, complete, rfl⟩
    have local' : (opened c.self).localChannelId = 0 ∧ (opened c.self).localWindowSize = 65536 := by
      rw [opened]
      split <;> exact ⟨rfl, rfl⟩
    exact ⟨ready, rfl, local'.1, rfl, local'.2, rfl, rfl, rfl, show (0 : Nat) < 4294967296 by decide⟩
  exact matched.of_core sameC sameS

/-- The command runs, and the client knows that it was accepted. -/
theorem exec_agrees (sha : noxtls.shaInit = true) (ctr : CtrMode noxtls) (clientLive : Live clientEnv)
    (serverLive : Live serverEnv) (matched : Matched c.self s.self) {command : List UInt8}
    (short : command.length ≤ 512) (plain : 0 ∉ command)
    (meet : Meet noxtls [execRequest c.self.remoteChannelId command] [channelSuccess s.self.remoteChannelId] restC restS
      c s) :
    ∃ c', (Client.exec noxtls clientEnv command).run c = (.ok (), c') ∧
      Client.Said noxtls [execRequest c.self.remoteChannelId command] c c' ∧
      Continues Server.Spent (Server.serveLoop noxtls serverEnv sessionTurns (turns + 1) 0)
        (sessionRun noxtls serverEnv sessionTurns turns (some command)) (fun s' =>
          Server.Said noxtls [channelSuccess s.self.remoteChannelId] s s' ∧ Paired c'.self s'.self ∧
          c'.inbox = restC ∧ s'.inbox = restS ∧ Matched c'.self s'.self) s := by
  obtain ⟨lastC, lastS, awaitingC, awaitingS, ends⟩ := meet.awaiting
  obtain ⟨_, c', ran, saidC, leftC, sameC⟩ := (exec_live sha ctr clientLive matched.ready short awaitingC).ok id
  refine ⟨c', ran, saidC, ?_⟩
  rw [matched.serverId] at awaitingS
  apply (execRequest_live sha ctr serverLive matched.small short plain matched.isOpen rfl awaitingS).mono
  rintro s' ⟨saidS, leftS, sameS⟩
  obtain ⟨paired, inboxC, inboxS⟩ := ends c' s' saidC saidS leftC leftS
  exact ⟨saidS, paired, inboxC, inboxS, matched.of_core sameC sameS⟩

/-- The context with the terminal, if there is one. -/
def withTerminal (wantPty : Bool) (s : Server) : Server := if wantPty then Server.setPty terminal s else s

theorem shellRequests_live {lastC : Lane} (sha : noxtls.shaInit = true) (ctr : CtrMode noxtls) (live : Live serverEnv)
    {c : Client} (matched : Matched c s.self) (wantPty : Bool) (fresh : wantPty = true → s.self.wantPty = false)
    (awaiting : Server.Awaiting noxtls lastC (shellRequests wantPty s.self.localChannelId) restS s) :
    Continues Server.Spent
      (Server.serveLoop noxtls serverEnv sessionTurns (turns + (shellRequests wantPty s.self.localChannelId).length) 0)
      (sessionRun noxtls serverEnv sessionTurns turns none) (fun s' =>
        Server.Said noxtls (shellReplies wantPty s.self.remoteChannelId) s s' ∧
        Server.Awaiting noxtls lastC [] restS s' ∧ Server.core s'.self = Server.core (withTerminal wantPty s.self)) s := by
  cases wantPty with
  | false => exact shellRequest_live sha ctr live matched.small matched.isOpen rfl awaiting
  | true =>
      apply (ptyRequest_live sha ctr live matched.small matched.isOpen rfl (fresh rfl) awaiting).trans
      rintro s₁ ⟨said, awaiting₁, same⟩
      have isOpen : s₁.self.channelOpen = true := (Server.eq_of_core (fun _ => rfl) same).trans matched.isOpen
      have own : s₁.self.localChannelId = (Server.setPty terminal s.self).localChannelId :=
        Server.eq_of_core (fun _ => rfl) same
      have client : s₁.self.remoteChannelId = (Server.setPty terminal s.self).remoteChannelId :=
        Server.eq_of_core (fun _ => rfl) same
      apply (shellRequest_live sha ctr live matched.small isOpen own awaiting₁).mono
      rintro s₂ ⟨said₂, awaiting₂, same₂⟩
      rw [client] at said₂
      exact ⟨said.trans said₂, awaiting₂, same₂.trans same⟩

/-- The shell runs, in the terminal the client described if it asked for one. -/
theorem shell_agrees (sha : noxtls.shaInit = true) (ctr : CtrMode noxtls) (clientLive : Live clientEnv)
    (serverLive : Live serverEnv) (matched : Matched c.self s.self) (wantPty : Bool)
    (fresh : wantPty = true → s.self.wantPty = false)
    (meet : Meet noxtls (shellRequests wantPty c.self.remoteChannelId) (shellReplies wantPty s.self.remoteChannelId) restC
      restS c s) :
    ∃ c', (Client.requestShellEx noxtls clientEnv wantPty).run c = (.ok (), c') ∧
      Client.Said noxtls (shellRequests wantPty c.self.remoteChannelId) c c' ∧
      Continues Server.Spent (Server.serveLoop noxtls serverEnv sessionTurns
          (turns + (shellRequests wantPty c.self.remoteChannelId).length) 0)
        (sessionRun noxtls serverEnv sessionTurns turns none) (fun s' =>
          Server.Said noxtls (shellReplies wantPty s.self.remoteChannelId) s s' ∧ Paired c'.self s'.self ∧
          c'.inbox = restC ∧ s'.inbox = restS ∧ Matched c'.self s'.self ∧
          Server.core s'.self = Server.core (withTerminal wantPty s.self)) s := by
  obtain ⟨lastC, lastS, awaitingC, awaitingS, ends⟩ := meet.awaiting
  obtain ⟨_, c', ran, saidC, leftC, sameC⟩ := (requestShellEx_live sha ctr clientLive [] matched.ready wantPty
    (by simpa using awaitingC)).ok id
  refine ⟨c', ran, saidC, ?_⟩
  rw [matched.serverId] at awaitingS ⊢
  apply (shellRequests_live sha ctr serverLive matched wantPty fresh awaitingS).mono
  rintro s' ⟨saidS, leftS, sameS⟩
  obtain ⟨paired, inboxC, inboxS⟩ := ends c' s' saidC saidS leftC leftS
  have terminal : Matched c.self (withTerminal wantPty s.self) := by
    obtain ⟨ready, isOpen, clientId, serverId, clientWindow, serverWindow, clientPacket, serverPacket, small⟩ := matched
    cases wantPty <;>
      exact ⟨ready, isOpen, clientId, serverId, clientWindow, serverWindow, clientPacket, serverPacket, small⟩
  exact ⟨saidS, paired, inboxC, inboxS, terminal.of_core sameC sameS, sameS⟩

end Both

/-- Any payloads can be on the way in a cipher lane. -/
theorem onTheWay_exists {noxtls : Noxtls} (sha : noxtls.shaInit = true) (ctr : CtrMode noxtls) (rest : List UInt8)
    (payloads : List (List UInt8)) (lane : Lane) (block : HasBlock lane) (small : ∀ p ∈ payloads, p.length ≤ 34980) :
    ∃ inbox, OnTheWay noxtls lane payloads rest inbox :=
  ⟨_, onTheWay_sealAll sha ctr rest payloads lane block small⟩

/-- The sample pair with an open channel. -/
def matchedClient (inbox : List UInt8) : Host Client :=
  ⟨{ (keyedClient inbox).self with
      connected := true
      kexinitExchanged := true
      channelOpen := true
      localWindowSize := 65536
      remoteWindowSize := 65536
      remoteMaxPacketSize := 32768 }, 0, inbox, []⟩

def matchedServer (inbox : List UInt8) : Host Server :=
  ⟨{ (keyedServer inbox).self with
      channelOpen := true
      localWindowSize := 65536
      remoteWindowSize := 65536
      remoteMaxPacketSize := 32768 }, 0, inbox, []⟩

end NoxSsh.Protocol
