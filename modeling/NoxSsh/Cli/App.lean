/-
# Cli.App — the client application from its arguments to its exit status

`main` reads its arguments and the configuration, connects, looks at the server's host key,
picks a key or a password, logs in and runs a command or a shell.  The client library works on
a part of the application's state (`onClient`); beside it the application has files, a
terminal and sockets, and what it does with these is on record (`Action`).  What the system and
the user answer is up to them (`Surroundings`).

A status that `main` returns early is a code of `Main`.
-/
import NoxSsh.Cli.Arguments
import NoxSsh.Cli.Config
import NoxSsh.Cli.IdentityFile
import NoxSsh.Cli.KnownHosts
import NoxSsh.Cli.Session
import NoxSsh.Client.Aborted
import NoxSsh.Theory.Zoom

namespace NoxSsh.Cli

open Theory Proc Wire Transport Client

set_option autoImplicit false

/-! ## The application and what surrounds it -/

/-- What `connect` says. -/
inductive Connecting where
  | done
  | inProgress
  | refused
  deriving DecidableEq, Repr

/-- An address of the host, with what the system answers to each call about it. -/
structure Address where
  socket : Bool
  /-- Non-blocking mode can be set. -/
  unblocks : Bool
  connect : Connecting
  /-- `select` is positive. -/
  select : Bool
  /-- `getsockopt` succeeds and there is no error pending. -/
  fine : Bool
  /-- Blocking mode can be set again. -/
  blocks : Bool
  deriving DecidableEq, Repr

/-- What the system and the user answer. -/
structure Surroundings where
  env : Env
  home : Option (List UInt8)
  /-- The addresses that the `n`-th `getaddrinfo` gives; none if it fails. -/
  getaddrinfo : Nat → List Address
  receiveTimeout : Bool
  sendTimeout : Bool
  /-- `mkdir` succeeds, or the directory exists. -/
  mkdir : List UInt8 → Bool
  /-- The file can be opened for appending. -/
  appendable : List UInt8 → Bool
  /-- The `n`-th line that is read. -/
  fgets : Nat → Option (List UInt8)
  tcgetattr : Bool
  tcsetattr : Bool
  stale : Mem

/-- What `main` does beside the client's connection.  A verdict is marked with how much was on
the client's record. -/
inductive Action where
  | printed (text : List UInt8)
  | usage
  | opened (sock : Nat)
  | closed (sock : Nat)
  | slept
  | asked
  | echo (on : Bool)
  | judged (q : Query) (verdict : Verdict) (mark : Nat)

structure App where
  client : Host Client
  files : List UInt8 → Option (List UInt8)
  lookups : Nat
  sockets : Nat
  lines : Nat
  actions : List Action

abbrev Main := Proc Nat App

def clientFacet : Facet App (Host Client) where
  get app := app.client
  set client app := { app with client := client }
  get_set _ _ := rfl
  set_get _ := rfl

/-- A call of the client library; `main` sees what it returns. -/
def onClient {α : Type} (m : Prog Client α) : Main (Except NetnoxReturn α) := zoom clientFacet m

def addAction (action : Action) (app : App) : App := { app with actions := app.actions ++ [action] }

/-- Do something that goes on record. -/
def act (action : Action) : Main Unit := update (addAction action)

def say (text : List UInt8) : Main Unit := act (.printed text)

def countLine (app : App) : App := { addAction .asked app with lines := app.lines + 1 }

/-- `fgets` from the terminal, into a buffer of `size` bytes. -/
def fgets (w : Surroundings) (size : Nat) : Main (Option (List UInt8)) := do
  let app ← state
  update countLine
  pure ((w.fgets app.lines).map (·.take (size - 1)))

/-! ## Options -/

/-- `[user@]host`; the user is empty if there is none. -/
def splitTarget (target : Arg) : Option (List UInt8 × List UInt8) :=
  match target.span (· ≠ 64) with
  | (hostAlias, []) => if hostAlias = [] ∨ 255 < hostAlias.length then none else some ([], hostAlias)
  | (user, _ :: hostAlias) =>
      if user = [] ∨ 64 < user.length ∨ hostAlias = [] ∨ 255 < hostAlias.length then none else some (user, hostAlias)

/-- What the options, the configuration and the defaults come to. -/
structure Options where
  username : List UInt8
  host : List UInt8
  port : Nat
  command : Option (List UInt8)
  requestPty : Bool
  connectRetries : Nat
  connectTimeoutMs : Nat
  ioTimeoutMs : Nat
  intervals : Intervals
  strictHostKeyChecking : HostKeyCheck
  batchMode : Bool
  pinnedHostkeyHex : List UInt8
  knownHostsFilePath : List UInt8
  identityFile : Option (List UInt8)
  ed25519PrivateKey : List UInt8
  ed25519KeySet : Bool
  password : Option (List UInt8)

/-- A value of the command line goes before one of the configuration, and that before the default. -/
def prefer {α : Type} (setCli : Bool) (cli : α) (cfg : Option α) : α := if setCli then cli else cfg.getD cli

def optionsOf (line : Line) (user hostAlias : List UInt8) (cfg : SshConfig) : Options :=
  let s := line.switches
  { username := if user ≠ [] then user else cfg.user.getD (ascii "user")
    host := cfg.hostName.getD hostAlias
    port := prefer s.portSetCli s.port cfg.port
    command := line.command
    requestPty := s.requestPty
    connectRetries := s.connectRetries
    connectTimeoutMs := prefer s.connectTimeoutSetCli s.connectTimeoutMs cfg.connectTimeoutMs
    ioTimeoutMs := s.ioTimeoutMs
    intervals :=
      ⟨prefer s.serverAliveIntervalSetCli s.serverAliveIntervalSec cfg.serverAliveIntervalSec,
        prefer s.serverAliveCountMaxSetCli s.serverAliveCountMax cfg.serverAliveCountMax,
        prefer s.rekeyIntervalSetCli s.rekeyIntervalSec cfg.rekeyIntervalSec⟩
    strictHostKeyChecking := prefer s.strictHostKeyCheckingSetCli s.strictHostKeyChecking cfg.strictHostKeyChecking
    batchMode := prefer s.batchModeSetCli s.batchMode cfg.batchMode
    pinnedHostkeyHex := s.pinnedHostkeyHex
    knownHostsFilePath := prefer s.knownHostsFileSetCli s.knownHostsFilePath cfg.userKnownHostsFile
    identityFile :=
      if s.identityFileSet then some s.identityFilePath else if s.ed25519KeySet then none else cfg.identityFile
    ed25519PrivateKey := s.ed25519PrivateKey
    ed25519KeySet := s.ed25519KeySet
    password := if s.passwordSet then some s.password else none }

section Functions

variable (noxtls : Noxtls) (w : Surroundings)

/-- `noxssh_load_ssh_config_for_host`; a path that is too long is cut. -/
def loadConfig (files : List UInt8 → Option (List UInt8)) (hostAlias : List UInt8) : SshConfig :=
  let file := (getHomeDir w.home).bind fun home => files ((home ++ ascii "/.ssh/config").take 1023)
  (loadSshConfigForHost w.home file hostAlias).2

/-! ## The connection -/

/-- `noxssh_connect_with_timeout`. -/
def connectWithTimeout (timeoutMs : Nat) (address : Address) : Bool :=
  if timeoutMs = 0 then address.connect = .done
  else
    address.unblocks &&
      match address.connect with
      | .done => true
      | .refused => false
      | .inProgress => address.select && address.fine && address.blocks

def countSocket (app : App) : App := { addAction (.opened app.sockets) app with sockets := app.sockets + 1 }

def openSocket : Main Nat := do
  let app ← state
  update countSocket
  pure app.sockets

/-- The loop of `noxssh_connect_tcp`. -/
def tryAddresses (timeoutMs : Nat) : List Address → Main (Option Nat)
  | [] => pure none
  | address :: rest =>
      if address.socket = false then tryAddresses timeoutMs rest
      else do
        let sock ← openSocket
        if connectWithTimeout timeoutMs address then pure (some sock)
        else do
          act (.closed sock)
          tryAddresses timeoutMs rest

def countLookup (app : App) : App := { app with lookups := app.lookups + 1 }

/-- `noxssh_connect_tcp`. -/
def connectTcp (timeoutMs : Nat) : Main (Option Nat) := do
  let app ← state
  update countLookup
  tryAddresses timeoutMs (w.getaddrinfo app.lookups)

/-- The attempts of `main`, a second apart. -/
def dial (timeoutMs : Nat) : Nat → Main (Option Nat)
  | 0 => connectTcp w timeoutMs
  | retries + 1 => do
      let reached ← connectTcp w timeoutMs
      match reached with
      | some sock => pure (some sock)
      | none => do
          act .slept
          dial timeoutMs retries

/-- A host and its port, as the messages have them. -/
def endpoint (s : Options) : List UInt8 := s.host ++ ascii ":" ++ decimal s.port

/-- A message and the status 1. -/
def giveUp {α : Type} (message : List UInt8) : Main α := do
  say message
  fail 1

/-- The same with a socket to close. -/
def hangUp {α : Type} (sock : Nat) (message : List UInt8) : Main α := do
  say message
  act (.closed sock)
  fail 1

/-- The same with a client to close before. -/
def leave {α : Type} (sock : Nat) (message : List UInt8) : Main α := do
  say message
  let _ ← onClient close
  act (.closed sock)
  fail 1

/-- The socket, with its time limits. -/
def establish (s : Options) : Main Nat := do
  let reached ← dial w s.connectTimeoutMs s.connectRetries
  match reached with
  | none => giveUp (ascii "ERROR: Failed TCP connect to " ++ endpoint s ++ [10])
  | some sock =>
      if 0 < s.ioTimeoutMs ∧ (w.receiveTimeout && w.sendTimeout) = false then
        hangUp sock (ascii "ERROR: Failed to configure socket I/O timeout (" ++ decimal s.ioTimeoutMs ++ ascii " ms).\n")
      else pure sock

/-! ## The host key -/

/-- `noxssh_get_known_hosts_path`, unless there is another path. -/
def knownHostsPath (home : Option (List UInt8)) (override : List UInt8) : Option (List UInt8) :=
  if override ≠ [] then some (override.take 1023)
  else match home with
    | none => none
    | some home =>
        if home = [] ∨ 1024 ≤ (home ++ ascii "/.noxssh/known_hosts").length then none
        else some (home ++ ascii "/.noxssh/known_hosts")

/-- What stands before the last slash of a path. -/
def directory (path : List UInt8) : Option (List UInt8) :=
  match path.reverse.dropWhile (· ≠ 47) with
  | [] => none
  | _ :: dir => some dir.reverse

/-- `noxssh_ensure_known_hosts_dir`. -/
def ensureKnownHostsDir (path : List UInt8) : Bool :=
  match directory (path.take 1023) with
  | none => false
  | some dir => dir ≠ [] && w.mkdir dir

/-- The question is asked. -/
def Query.asks (q : Query) (known : List UInt8) : Bool :=
  q.fingerprint.length = 32 && q.pinnedFingerprintHex = [] && (lookupKnownHost known q.host q.port).isNone &&
    q.strictHostKeyChecking = .ask && !q.batchMode

/-- What is printed of a verdict. -/
def Verdict.prints (q : Query) (known path : List UInt8) : Verdict → List UInt8
  | .noFingerprint | .pinned | .known | .noAnswer => []
  | .pinMismatch =>
      ascii "ERROR: Host key pin mismatch.\nPinned:   " ++ q.pinnedFingerprintHex ++ ascii "\nObserved: " ++
        bytesToHex q.fingerprint ++ [10]
  | .changed => changed ++ ascii "Host key verification failed.\n"
  | .changedContinuing =>
      changed ++ ascii "WARNING: StrictHostKeyChecking=no, continuing despite changed host key.\n"
  | .unknownStrict => ascii "ERROR: " ++ unknown ++ ascii " (strict checking enabled).\n"
  | .unknownAccepted => ascii "WARNING: " ++ unknown ++ ascii " accepted (StrictHostKeyChecking=no).\n"
  | .unknownBatch => ascii "ERROR: " ++ unknown ++ ascii " (batch mode disables ask prompt).\n"
  | .saved =>
      (if q.strictHostKeyChecking = .acceptNew then ascii "Host key accepted (accept-new)" else ascii "Host key trusted") ++
        ascii " and saved to " ++ path ++ [10]
  | .failedToPersist =>
      ascii "ERROR: Failed to persist " ++
        (if q.strictHostKeyChecking = .acceptNew then ascii "accepted" else ascii "trusted") ++ ascii " host key to " ++
        path ++ [10]
  | .notTrusted => ascii "Host key not trusted. Aborting.\n"
where
  changed :=
    ascii "WARNING: REMOTE HOST IDENTIFICATION HAS CHANGED!\nExpected: " ++
      (lookupKnownHost known q.host q.port).getD [] ++ ascii "\nReceived: " ++ bytesToHex q.fingerprint ++ [10]
  unknown := ascii "Unknown host key for " ++ q.host ++ ascii ":" ++ decimal q.port

def writeFile (path content : List UInt8) (app : App) : App :=
  { app with files := fun p => if p = path then some content else app.files p }

/-- The file has the new record if the key was saved. -/
def keepFile (verdict : Verdict) (path content : List UInt8) : Main Unit :=
  if verdict = .saved then update (writeFile path content) else pure ()

/-- A verdict: it is printed, the file is written if the key was saved, and it goes on record. -/
def judge (q : Query) (path : List UInt8) : Main Bool := do
  let app ← state
  let known := (app.files path).getD []
  let (verdict, content) := verifyHostKey q known
  say (verdict.prints q known path)
  keepFile verdict path content
  act (.judged q verdict app.client.trace.length)
  pure verdict.trusted

/-- The answer, if the question is asked. -/
def askAbout (q : Query) (path : List UInt8) : Main (Option (List UInt8)) := do
  let app ← state
  if q.asks ((app.files path).getD []) then do
    say (ascii "The authenticity of host '" ++ q.host ++ ascii ":" ++ decimal q.port ++
      ascii "' can't be established.\nDo you trust this host key? Type 'yes' to continue: ")
    fgets w 16
  else pure none

/-- `noxssh_verify_host_key`. -/
def verifyHostKeyOnDisk (s : Options) (fingerprint : List UInt8) : Main Bool := do
  if fingerprint.length ≠ 32 then pure false
  else do
    say (ascii "Server host key SHA256: " ++ bytesToHex fingerprint ++ [10])
    let path := knownHostsPath w.home s.knownHostsFilePath
    if s.pinnedHostkeyHex = [] ∧ path = none then do
      say (ascii "ERROR: Unable to resolve known_hosts path.\n")
      pure false
    else do
      let path := path.getD []
      let q : Query := ⟨s.host, s.port, fingerprint, s.strictHostKeyChecking, s.pinnedHostkeyHex, s.batchMode, none,
        ensureKnownHostsDir w path && w.appendable path⟩
      let answer ← askAbout w q path
      judge { q with answer := answer } path

/-- A fresh context. -/
def startClient (port : Nat) (app : App) : App := { app with client := { app.client with self := Client.init port } }

/-- From the context to the verdict on the host key. -/
def greet (s : Options) (sock : Nat) : Main Unit := do
  update (startClient s.port)
  let targeted ← onClient (setTarget s.username s.host)
  match targeted with
  | .error _ => hangUp sock (ascii "ERROR: netnox_ssh_client_set_target failed\n")
  | .ok _ => do
      let connected ← onClient (connect noxtls w.env)
      match connected with
      | .error _ => hangUp sock (ascii "ERROR: SSH handshake failed (run with -d for details)\n")
      | .ok _ => do
          let app ← state
          say (ascii "Connected to " ++ endpoint s ++ [10])
          say (ascii "Server identification: " ++ app.client.self.serverIdent ++ [10])
          match getServerHostKeyFingerprint 32 app.client.self with
          | .error _ => leave sock (ascii "ERROR: Failed to retrieve server host key fingerprint.\n")
          | .ok fingerprint => do
              let trusted ← verifyHostKeyOnDisk w s fingerprint
              if trusted then pure () else leave sock []

/-! ## Keys and passwords -/

/-- `noxssh_try_load_default_identity`: the first file that has a key, or one that is encrypted. -/
def tryLoadDefaultIdentity (files : List UInt8 → Option (List UInt8)) (home seed : List UInt8) :
    List (List UInt8) → KeyLoad × List UInt8 × List UInt8
  | [] => (.failed, [], seed)
  | rel :: rels =>
      let candidate := home ++ rel
      if 1024 ≤ candidate.length then tryLoadDefaultIdentity files home seed rels
      else
        match loadEd25519SeedFile w.stale (files candidate) seed with
        | (.success, seed) => (.success, candidate, seed)
        | (.encryptedUnsupported, seed) => (.encryptedUnsupported, candidate, seed)
        | (.failed, seed) => tryLoadDefaultIdentity files home seed rels

def defaultIdentities : List (List UInt8) :=
  [ascii "/.ssh/id_ed25519", ascii "/.ssh/id_ed25519.seed", ascii "/.noxssh/id_ed25519.seed"]

/-- The key of the command line. -/
def giveKey (s : Options) (sock : Nat) : Main Unit :=
  if s.ed25519KeySet then do
    let given ← onClient (setEd25519PrivateKey noxtls s.ed25519PrivateKey)
    match given with
    | .error _ => leave sock (ascii "ERROR: Failed to configure Ed25519 private key.\n")
    | .ok _ => pure ()
  else pure ()

/-- The key of an identity file. -/
def loadKey (s : Options) (sock : Nat) (path : List UInt8) : Main Unit := do
  let app ← state
  match loadEd25519SeedFile w.stale (app.files path) s.ed25519PrivateKey with
  | (.encryptedUnsupported, _) =>
      leave sock (ascii "ERROR: Encrypted OpenSSH private keys are not supported yet: " ++ path ++ [10])
  | (.failed, _) => leave sock (ascii "ERROR: Failed to load Ed25519 key from file: " ++ path ++ [10])
  | (.success, seed) => do
      let given ← onClient (setEd25519PrivateKey noxtls seed)
      match given with
      | .error _ => leave sock (ascii "ERROR: Invalid Ed25519 private key seed in file: " ++ path ++ [10])
      | .ok _ => pure ()

/-- A default identity, if there is one: whether the client has its key. -/
def findKey (s : Options) : Main Bool := do
  let app ← state
  match getHomeDir w.home with
  | none => pure false
  | some home =>
      match tryLoadDefaultIdentity w app.files home s.ed25519PrivateKey defaultIdentities with
      | (.failed, _, _) => pure false
      | (.encryptedUnsupported, path, _) => do
          say (ascii "Default identity is encrypted and unsupported right now: " ++ path ++ [10])
          pure false
      | (.success, path, seed) => do
          let given ← onClient (setEd25519PrivateKey noxtls seed)
          match given with
          | .error _ => pure false
          | .ok _ => do
              say (ascii "Loaded default identity: " ++ path ++ [10])
              pure true

/-- The key: whether there is one. -/
def chooseKey (s : Options) (sock : Nat) : Main Bool := do
  giveKey noxtls s sock
  match s.identityFile with
  | some path => do
      loadKey noxtls w s sock path
      pure true
  | none => if s.ed25519KeySet then pure true else findKey noxtls w s

/-- A line without what ends it. -/
def chomp (line : List UInt8) : List UInt8 :=
  if (line.getLast? = some 10 ∨ line.getLast? = some 13) then line.dropLast else line

/-- `noxssh_prompt_password`. -/
def promptPassword : Main (Option (List UInt8)) := do
  say (ascii "Password: ")
  if (w.tcgetattr && w.tcsetattr) = false then do
    let line ← fgets w 129
    pure (line.map fun line => chomp (cString line))
  else do
    act (.echo false)
    let line ← fgets w 129
    act (.echo true)
    match line with
    | none => pure none
    | some line => do
        say [10]
        pure (some (chomp (cString line)))

/-- The password of the command line, or what the user types if there is no key either. -/
def passwordFor (s : Options) (sock : Nat) (hasKey : Bool) : Main (Option (List UInt8)) :=
  if s.password = none ∧ hasKey = false ∧ s.batchMode = false then do
    let typed ← promptPassword w
    match typed with
    | none => leave sock (ascii "ERROR: Failed to read password from stdin.\n")
    | some password => pure (some password)
  else pure s.password

/-- The password: whether there is one. -/
def choosePassword (s : Options) (sock : Nat) (hasKey : Bool) : Main Bool := do
  let password ← passwordFor w s sock hasKey
  match password with
  | none => pure false
  | some password => do
      let given ← onClient (setPassword password)
      match given with
      | .error _ => leave sock (ascii "ERROR: Failed to configure password\n")
      | .ok _ => pure true

/-! ## The session -/

/-- What is typed after a key was rejected. -/
def retryWithPassword (rejected : Except NetnoxReturn Unit) : Main (Except NetnoxReturn Unit) := do
  let typed ← promptPassword w
  match typed with
  | none => pure rejected
  | some password => do
      let given ← onClient (setPassword password)
      match given with
      | .error _ => pure rejected
      | .ok _ => onClient (authenticate noxtls w.env)

/-- A rejected key may be followed by a password. -/
def authenticateOrRetry (s : Options) (hasKey hasPassword : Bool) : Main (Except NetnoxReturn Unit) := do
  let first ← onClient (authenticate noxtls w.env)
  match first with
  | .error .authRejected =>
      if hasPassword = false ∧ hasKey = true ∧ s.batchMode = false then retryWithPassword noxtls w (.error .authRejected)
      else pure first
  | _ => pure first

def logInAs (s : Options) (sock : Nat) (hasKey hasPassword : Bool) : Main Unit := do
  let result ← authenticateOrRetry noxtls w s hasKey hasPassword
  match result with
  | .error .authRejected => leave sock (ascii "Server rejected authentication (credentials/key/user mismatch).\n")
  | .error _ => leave sock (ascii "Authentication failed. Use -d for debug details.\n")
  | .ok _ => say (ascii "Authentication succeeded.\n")

/-- The command or the shell: the exit code. -/
def work (s : Options) (sock turns : Nat) : Main Nat := do
  let opened ← onClient (openSession noxtls w.env)
  match opened with
  | .error _ => leave sock (ascii "ERROR: Failed to open SSH session channel.\n")
  | .ok _ =>
      match s.command with
      | some command => do
          let running ← onClient (exec noxtls w.env command)
          match running with
          | .error _ => leave sock (ascii "ERROR: Failed to execute remote command.\n")
          | .ok _ => do
              let code ← onClient (commandOutput noxtls w.env s.intervals turns)
              pure (code.toOption.getD 0)
      | none => do
          let running ← onClient (requestShellEx noxtls w.env s.requestPty)
          match running with
          | .error _ => leave sock (ascii "ERROR: Failed to request remote shell.\n")
          | .ok _ => do
              let _ ← onClient (interactiveShell noxtls w.env s.intervals turns)
              pure 0

/-- What is done on the connection. -/
def converse (s : Options) (sock turns : Nat) : Main Nat := do
  greet noxtls w s sock
  let hasKey ← chooseKey noxtls w s sock
  let hasPassword ← choosePassword w s sock hasKey
  if hasPassword ∨ hasKey then do
    logInAs noxtls w s sock hasKey hasPassword
    work noxtls w s sock turns
  else pure 0

def runOptions (s : Options) (turns : Nat) : Main Nat := do
  let sock ← establish w s
  let code ← converse noxtls w s sock turns
  let _ ← onClient close
  act (.closed sock)
  pure code

/-- `main`, with at most `turns` turns of the loops over the arguments and of the session. -/
def main (argv : List Arg) (turns : Nat) : Main Nat :=
  match parseArgs argv turns with
  | none => stall
  | some (.error exit) => do
      say exit.prints
      if exit.usage then act .usage else pure ()
      fail exit.status
  | some (.ok line) =>
      match line.target.bind splitTarget with
      | none => giveUp (ascii "ERROR: Invalid target: " ++ line.target.getD [] ++ [10])
      | some (user, hostAlias) => do
          let app ← state
          runOptions noxtls w (optionsOf line user hostAlias (loadConfig w app.files hostAlias)) turns

end Functions

end NoxSsh.Cli
