/-
# Protocol.Command — a command, from one end to the other

Behind the handshake the client asks for a service, logs in, asks for the next service, opens
a channel and sends its command, and waits for an answer each time.  What it asks does not
depend on what is still on the way to it, and what the server answers does not depend on what
the client goes on to say.  So the two whole runs are a sequence of rounds, and behind every
round each has read all that the other has said (`round`).

A client that was given a user name, a key the server allows and a command comes back with
success, and the server runs that command for that user (`remote_command_runs`).
-/
import NoxSsh.Protocol.Handshake
import NoxSsh.Protocol.Session
import NoxSsh.Server.Deadline

namespace NoxSsh.Client

open Theory Proc Wire Transport Protocol

set_option autoImplicit false

/-! ## The client's calls in pieces -/

section Pieces

variable (noxtls : Noxtls) (env : Env)

/-- `negotiateService` once the request is out. -/
def awaitService (service : String) (ready : Client → Client) : Prog Client Unit := do
  let (rx, m) ← failAs .failed (waitForMessage noxtls env 6 255 256)
  ensure (rx.head? = some 6) .failed
  let (svc, _) ← lift .failed (payloadReadStringView m rx.length 1)
  ensure (svc.bytes m = ascii service) .failed
  modify ready

/-- `authenticate` once the public key method was tried, with the context it began with. -/
def concludeLogin (c : Client) (accepted : Bool) : Prog Client Unit := do
  if accepted then pure ()
  else if c.password ≠ [] then do
    failAs .failed (sendUserauthPassword noxtls env)
    let accepted ← failAs .failed (waitUserauthResult noxtls env)
    if accepted then pure () else fail .authRejected
  else if c.hasEd25519Key then fail .authRejected
  else fail .badParam

/-- `authenticate` once it has its service. -/
def logIn (c : Client) : Prog Client Unit := do
  let accepted ← tryPublickey noxtls env c.hasEd25519Key
  concludeLogin noxtls env c accepted

/-- `openSession` once its CHANNEL_OPEN is out. -/
def awaitConfirmation : Prog Client Unit := do
  let (rx, m) ← failAs .failed (waitForMessage noxtls env 91 92 512)
  ensure (rx.head? = some 91) .failed
  let (recipient, sender, window, maxPacket) ← lift .failed (readConfirmation m rx.length)
  ensure (recipient = (← self).localChannelId) .failed
  modify (Client.openChannel sender window maxPacket)

/-- `openSession` once it has its service. -/
def requestSession : Prog Client Unit := do
  failAs .failed (sendChannelOpenSession noxtls env)
  awaitConfirmation noxtls env

/-- A channel request once it is out. -/
def awaitSuccess : Prog Client Unit := do
  let (rx, _) ← failAs .failed (waitForMessage noxtls env 99 100 256)
  ensure (rx.head? = some 99) .failed

end Pieces

end NoxSsh.Client

namespace NoxSsh.Protocol

open Theory Proc Wire Transport

set_option autoImplicit false

/-- SERVICE_REQUEST and SERVICE_ACCEPT. -/
def serviceAsked (service : String) : List UInt8 := [5] ++ sshString (ascii service)

def serviceGranted (service : String) : List UInt8 := [6] ++ sshString (ascii service)

end NoxSsh.Protocol

namespace NoxSsh.Client

open Theory Proc Wire Transport Protocol

set_option autoImplicit false

section Asking

variable {noxtls : Noxtls} {env : Env} {last : Lane} {rest : List UInt8} {h : Host Client}

theorem apart_setUserauthReady : Apart setUserauthReady := ⟨fun _ => rfl, fun _ => rfl, fun _ => rfl⟩

theorem apart_setConnectionReady : Apart setConnectionReady := ⟨fun _ => rfl, fun _ => rfl, fun _ => rfl⟩

theorem apart_setAuthenticated : Apart setAuthenticated := ⟨fun _ => rfl, fun _ => rfl, fun _ => rfl⟩

theorem apart_setLocalChannel : Apart setLocalChannel := ⟨fun _ => rfl, fun _ => rfl, fun _ => rfl⟩

theorem apart_openChannel (remoteId window maxPacket : Nat) : Apart (Client.openChannel remoteId window maxPacket) :=
  ⟨fun _ => rfl, fun _ => rfl, fun _ => rfl⟩

/-- What comes behind a piece comes behind what it continues with. -/
theorem continues_bind {α β : Type} {m next : Prog Client α} {Q : Host Client → Prop} (continues : Continues Late m next Q h)
    (k : α → Prog Client β) : Continues Late (m >>= k) (next >>= k) Q h := by
  rcases continues with ⟨h', post, same⟩ | never
  · exact .inl ⟨h', post, bind_congr_run same k⟩
  · exact never.elim

/-- A payload goes out. -/
theorem says_first (sha : noxtls.shaInit = true) (ctr : CtrMode noxtls) (live : Live env) {payload : List UInt8}
    (nonempty : payload ≠ []) (small : payload.length ≤ 34980) (awaiting : Awaiting noxtls last [] rest h) :
    Returns Late (sendPacket noxtls env payload) (fun _ h' => Leg noxtls [payload] last [] rest h.self h h') h :=
  says_leg sha ctr live nonempty small (Leg.start awaiting rfl)

theorem requireService_pieces {α : Type} (service : String) (ready : Client → Client) (k : Unit → Prog Client α) :
    requireService false (negotiateService noxtls env service ready) >>= k =
      failAs .failed (failAs .failed (sendServiceRequest noxtls env service)) >>= fun _ =>
        failAs .failed (awaitService noxtls env service ready) >>= k := by
  rw [requireService, if_neg (by decide), negotiateService, Server.failAs_bind, bind_assoc_run]
  rfl

theorem requireService_asks {α : Type} (sha : noxtls.shaInit = true) (ctr : CtrMode noxtls) (live : Live env)
    {service : String} {ready : Client → Client} (k : Unit → Prog Client α)
    (builds : buildServiceRequest service = some (serviceAsked service)) (small : (serviceAsked service).length ≤ 34980)
    (awaiting : Awaiting noxtls last [] rest h) :
    Continues Late (requireService false (negotiateService noxtls env service ready) >>= k)
      (failAs .failed (awaitService noxtls env service ready) >>= k)
      (Leg noxtls [serviceAsked service] last [] rest h.self h) h := by
  have sends : Returns Late (sendServiceRequest noxtls env service)
      (fun _ h' => Leg noxtls [serviceAsked service] last [] rest h.self h h') h := by
    rw [sendServiceRequest]
    exact returns_lift_bind builds _ (says_first sha ctr live (by simp [serviceAsked]) small awaiting)
  rw [requireService_pieces]
  exact ((sends.failAs _).failAs _).continues fun _ _ leg => continues_here leg

theorem awaitService_hears (ctr : CtrMode noxtls) (live : Live env) {service : String} {ready : Client → Client}
    (apart : Apart ready) (short : (serviceGranted service).length ≤ 256)
    (awaiting : Awaiting noxtls last [serviceGranted service] rest h) :
    Returns Late (awaitService noxtls env service ready) (fun _ h' => Leg noxtls [] last [] rest (ready h.self) h h') h := by
  have start : Leg noxtls [] last [serviceGranted service] rest h.self h h := Leg.start awaiting rfl
  have size : (serviceGranted service).length = 5 + (ascii service).length := by
    simp only [serviceGranted, List.length_append, List.length_singleton, length_sshString]
    omega
  have heads : (serviceGranted service).head? = some 6 := rfl
  apply ((waits_leg ctr live heads (.inl rfl) (by decide) short (by decide) start).failAs _).bind
  rintro _ h₁ ⟨⟨stale, rfl⟩, leg⟩
  obtain ⟨reads, shows⟩ := reads_string _ _ _ (serviceGranted service).length
    (holds_append.1 (holds_memOf (serviceGranted service) stale)).2 rfl rfl rfl
    (by simp only [size, List.length_singleton]; omega) (by omega)
  apply returns_ensure_bind heads
  apply returns_lift_bind reads
  apply returns_ensure_bind shows
  exact returns_of_run (modify_run _ _) (leg.modified apart)

/-! ## The login -/

theorem authenticate_asks (sha : noxtls.shaInit = true) (ctr : CtrMode noxtls) (live : Live env)
    (keyed : h.self.connected = true ∧ h.self.kexinitExchanged = true ∧ h.self.keyExchangeComplete = true)
    (named : h.self.username ≠ []) (unready : h.self.userauthServiceReady = false)
    (awaiting : Awaiting noxtls last [] rest h) :
    Continues Late (authenticate noxtls env)
      (failAs .failed (awaitService noxtls env "ssh-userauth" setUserauthReady) >>= fun _ => logIn noxtls env h.self)
      (Leg noxtls [serviceAsked "ssh-userauth"] last [] rest h.self h) h := by
  apply continues_of_run (self_bind_run _ _)
  apply continues_ensure_bind keyed
  apply continues_ensure_bind named
  rw [unready]
  exact requireService_asks sha ctr live (fun _ => logIn noxtls env h.self) rfl (by decide) awaiting

theorem logIn_asks (sha : noxtls.shaInit = true) (ctr : CtrMode noxtls) (live : Live env) {c : Client} {sig : List UInt8}
    (tries : c.hasEd25519Key = true) (hasKey : h.self.hasEd25519Key = true) (short : h.self.username.length ≤ 64)
    (keyLen : h.self.ed25519PublicKey.length = 32) (id : h.self.sessionIdLen = 32) (idLen : h.self.sessionId.length = 32)
    (signs : noxtls.ed25519Sign h.self.ed25519PrivateKey
      (signedBytes h.self.sessionId h.self.username h.self.ed25519PublicKey) = some sig)
    (awaiting : Awaiting noxtls last [] rest h) :
    Continues Late (logIn noxtls env c) (failAs .failed (waitUserauthResult noxtls env) >>= concludeLogin noxtls env c)
      (Leg noxtls [Server.loginPayload h.self.username h.self.ed25519PublicKey sig] last [] rest h.self h) h := by
  have sigLen := noxtls.length_ed25519Sign _ _ _ signs
  obtain ⟨size, heads⟩ := loginPayload_shape h.self.username h.self.ed25519PublicKey sig
  have nonempty : Server.loginPayload h.self.username h.self.ed25519PublicKey sig ≠ [] := by
    intro empty
    rw [empty] at heads
    cases heads
  have sends : Returns Late (sendUserauthPublickeyEd25519 noxtls env) (fun _ h' =>
      Leg noxtls [Server.loginPayload h.self.username h.self.ed25519PublicKey sig] last [] rest h.self h h') h := by
    rw [Returns, sendsLogin hasKey short keyLen id idLen signs]
    exact says_first sha ctr live nonempty (by omega) awaiting
  have pieces : logIn noxtls env c = failAs .failed (sendUserauthPublickeyEd25519 noxtls env) >>= fun _ =>
      failAs .failed (waitUserauthResult noxtls env) >>= concludeLogin noxtls env c := by
    rw [logIn, tryPublickey, if_pos tries, bind_assoc_run]
  rw [pieces]
  exact (sends.failAs _).continues fun _ _ leg => continues_here leg

theorem logIn_hears (ctr : CtrMode noxtls) (live : Live env) {c : Client} (awaiting : Awaiting noxtls last [[52]] rest h) :
    Returns Late (failAs .failed (waitUserauthResult noxtls env) >>= concludeLogin noxtls env c)
      (fun _ h' => Leg noxtls [] last [] rest (setAuthenticated h.self) h h') h := by
  have start : Leg noxtls [] last [[52]] rest h.self h h := Leg.start awaiting rfl
  have waits : Returns Late (waitUserauthResult noxtls env) (fun accepted h' => accepted = true ∧
      Leg noxtls [] last [] rest (setAuthenticated h.self) h h') h := by
    apply ((waits_leg ctr live rfl (.inl rfl) (by decide) (by decide) (by decide) start).failAs _).bind
    rintro _ h₁ ⟨⟨stale, rfl⟩, leg⟩
    exact returns_of_run rfl ⟨rfl, leg.modified apart_setAuthenticated⟩
  apply (waits.failAs _).bind
  rintro _ h₁ ⟨rfl, leg⟩
  exact returns_of_run (pure_run _ _) leg

/-! ## The session -/

theorem openSession_asks (sha : noxtls.shaInit = true) (ctr : CtrMode noxtls) (live : Live env)
    (state : h.self.connected = true ∧ h.self.kexinitExchanged = true ∧ h.self.keyExchangeComplete = true ∧
      h.self.authenticated = true)
    (unready : h.self.connectionServiceReady = false) (awaiting : Awaiting noxtls last [] rest h) :
    Continues Late (openSession noxtls env)
      (failAs .failed (awaitService noxtls env "ssh-connection" setConnectionReady) >>= fun _ => requestSession noxtls env)
      (Leg noxtls [serviceAsked "ssh-connection"] last [] rest (setLocalChannel h.self) h) h := by
  have start : Leg noxtls [] last [] rest h.self h h := Leg.start awaiting rfl
  have moved := start.modified apart_setLocalChannel
  apply continues_of_run (self_bind_run _ _)
  apply continues_ensure_bind state
  apply continues_of_run (modify_bind_run _ _ _)
  rw [unready]
  apply (requireService_asks sha ctr live (fun _ => requestSession noxtls env) rfl (by decide) moved.awaiting).mono
  exact fun h₁ leg => moved.then leg

theorem requestSession_asks (sha : noxtls.shaInit = true) (ctr : CtrMode noxtls) (live : Live env)
    (channel : h.self.localChannelId = 0) (window : h.self.localWindowSize = 65536)
    (awaiting : Awaiting noxtls last [] rest h) :
    Continues Late (requestSession noxtls env) (awaitConfirmation noxtls env)
      (Leg noxtls [sessionOpen] last [] rest h.self h) h := by
  have sends : Returns Late (sendChannelOpenSession noxtls env)
      (fun _ h' => Leg noxtls [sessionOpen] last [] rest h.self h h') h :=
    returns_self_bind (returns_lift_bind (buildChannelOpen_some channel window) .failed
      (says_first sha ctr live (by decide) (by decide) awaiting))
  exact (sends.failAs _).continues fun _ _ leg => continues_here leg

theorem awaitConfirmation_hears (ctr : CtrMode noxtls) (live : Live env) (channel : h.self.localChannelId = 0)
    (awaiting : Awaiting noxtls last [openConfirmation] rest h) :
    Returns Late (awaitConfirmation noxtls env)
      (fun _ h' => Leg noxtls [] last [] rest (Client.openChannel 0 65536 32768 h.self) h h') h := by
  have start : Leg noxtls [] last [openConfirmation] rest h.self h h := Leg.start awaiting rfl
  have heads : openConfirmation.head? = some 91 := rfl
  apply ((waits_leg ctr live heads (.inl rfl) (by decide) (by decide) (by decide) start).failAs _).bind
  rintro _ h₁ ⟨⟨stale, rfl⟩, leg⟩
  apply returns_ensure_bind heads
  apply returns_lift_bind (readConfirmation_openConfirmation stale)
  apply returns_self_bind
  apply returns_ensure_bind
  · exact ((eq_of_core (fun _ => rfl) leg.same).trans channel).symm
  · exact returns_of_run (modify_run _ _) (leg.modified (apart_openChannel 0 65536 32768))

/-! ## The command -/

theorem exec_asks (sha : noxtls.shaInit = true) (ctr : CtrMode noxtls) (live : Live env) (ready : Ready h.self)
    {command : List UInt8} (short : command.length ≤ 512) (awaiting : Awaiting noxtls last [] rest h) :
    Continues Late (exec noxtls env command) (awaitSuccess noxtls env)
      (Leg noxtls [execRequest h.self.remoteChannelId command] last [] rest h.self h) h := by
  have name : (ascii "exec").length = 4 := rfl
  have size : (execRequest h.self.remoteChannelId command).length = 18 + command.length := by
    rw [execRequest, List.length_append, length_requestHead, length_sshString, name]
    omega
  have fits : command.length ≤ maxCommandLen := short
  apply continues_of_run (self_bind_run _ _)
  apply continues_ensure_bind ready
  apply continues_ensure_bind fits
  apply continues_lift_bind (buildExec_some short)
  exact ((says_first sha ctr live (by simp [execRequest, requestHead]) (by omega) awaiting).failAs _).continues
    fun _ _ leg => continues_here leg

theorem awaitSuccess_hears (ctr : CtrMode noxtls) (live : Live env) {channel : Nat}
    (awaiting : Awaiting noxtls last [channelSuccess channel] rest h) :
    Returns Late (awaitSuccess noxtls env) (fun _ h' => Leg noxtls [] last [] rest h.self h h') h := by
  have start : Leg noxtls [] last [channelSuccess channel] rest h.self h h := Leg.start awaiting rfl
  have heads : (channelSuccess channel).head? = some 99 := rfl
  apply ((waits_leg ctr live heads (.inl rfl) (by decide) (by simp [channelSuccess]) (by decide) start).failAs _).bind
  rintro _ h₁ ⟨⟨stale, rfl⟩, leg⟩
  dsimp only
  rw [ensure, if_pos heads]
  exact returns_of_run (pure_run _ _) leg

end Asking

/-! ## What has been said stays said -/

section Abiding

variable {noxtls : Noxtls} {env : Env}

theorem order_abiding : StepOrder (Quiet (fun _ => True) fun _ : Client => ()) := quiet_order _ _

theorem abiding_sendPacket (payload : List UInt8) : Abiding (sendPacket noxtls env payload) :=
  always_sendPacket chatter_any.toBackground steady_unit.toPassive payload trivial trivial

theorem abiding_waits (a b : UInt8) (outMax : Nat) : Abiding (failAs .failed (waitForMessage noxtls env a b outMax)) :=
  always_failAs _ (abiding_of_stays fun h₀ => (exchanges_follows h₀).waits a b outMax)

theorem abiding_awaitService (service : String) (ready : Client → Client) : Abiding (awaitService noxtls env service ready) := by
  refine (abiding_waits 6 255 256).bind fun arrival => ?_
  refine always_bind order_abiding (always_ensure order_abiding _ _) fun _ => ?_
  refine always_bind order_abiding (always_lift order_abiding _ _) fun _ => ?_
  exact always_bind order_abiding (always_ensure order_abiding _ _) fun _ => always_modify fun _ => rfl

theorem abiding_negotiateService (service : String) (ready : Client → Client) :
    Abiding (negotiateService noxtls env service ready) := by
  refine Abiding.bind (m := failAs .failed (sendServiceRequest noxtls env service)) (always_failAs _ ?_) fun _ =>
    abiding_awaitService service ready
  exact always_bind order_abiding (always_lift order_abiding _ _) fun payload => abiding_sendPacket payload

theorem abiding_requireService (known : Bool) (service : String) (ready : Client → Client) :
    Abiding (requireService known (negotiateService noxtls env service ready)) :=
  always_ite (always_pure order_abiding _) (always_failAs _ (abiding_negotiateService service ready))

theorem abiding_waitUserauthResult : Abiding (failAs .failed (waitUserauthResult noxtls env)) := by
  refine always_failAs _ ((abiding_waits 52 51 512).bind fun arrival => always_ite ?_ (always_ite ?_ ?_))
  · exact always_bind order_abiding (always_modify fun _ => rfl) fun _ => always_pure order_abiding _
  · exact always_pure order_abiding _
  · exact always_fail order_abiding _

theorem abiding_concludeLogin (c : Client) (accepted : Bool) : Abiding (concludeLogin noxtls env c accepted) := by
  refine always_ite (always_pure order_abiding _) (always_ite ?_ (always_ite (always_fail order_abiding _)
    (always_fail order_abiding _)))
  refine always_bind order_abiding (always_failAs _ ?_) fun _ => abiding_waitUserauthResult.bind fun accepted =>
    always_ite (always_pure order_abiding _) (always_fail order_abiding _)
  exact always_bind order_abiding always_self fun _ => always_bind order_abiding (always_lift order_abiding _ _) fun _ => abiding_sendPacket _

theorem abiding_logIn (c : Client) : Abiding (logIn noxtls env c) := by
  refine Abiding.bind (always_ite ?_ (always_pure order_abiding _)) fun accepted => abiding_concludeLogin c accepted
  refine always_bind order_abiding (always_failAs _ ?_) fun _ => abiding_waitUserauthResult
  refine always_bind order_abiding always_self fun _ => ?_
  refine always_bind order_abiding (always_ensure order_abiding _ _) fun _ => ?_
  iterate 6 refine always_bind order_abiding (always_lift order_abiding _ _) fun _ => ?_
  exact abiding_sendPacket _

theorem abiding_authenticate : Abiding (authenticate noxtls env) := by
  refine always_bind order_abiding always_self fun c => ?_
  refine always_bind order_abiding (always_ensure order_abiding _ _) fun _ => ?_
  refine always_bind order_abiding (always_ensure order_abiding _ _) fun _ => ?_
  exact (abiding_requireService _ _ _).bind fun _ => abiding_logIn c

theorem abiding_awaitConfirmation : Abiding (awaitConfirmation noxtls env) := by
  refine (abiding_waits 91 92 512).bind fun arrival => ?_
  refine always_bind order_abiding (always_ensure order_abiding _ _) fun _ => ?_
  refine always_bind order_abiding (always_lift order_abiding _ _) fun _ => ?_
  refine always_bind order_abiding always_self fun _ => ?_
  exact always_bind order_abiding (always_ensure order_abiding _ _) fun _ => always_modify fun _ => rfl

theorem abiding_sendChannelOpen : Abiding (failAs .failed (sendChannelOpenSession noxtls env)) := by
  refine always_failAs _ (always_bind order_abiding always_self fun _ => ?_)
  exact always_bind order_abiding (always_lift order_abiding _ _) fun _ => abiding_sendPacket _

theorem abiding_requestSession : Abiding (requestSession noxtls env) :=
  abiding_sendChannelOpen.bind fun _ => abiding_awaitConfirmation

theorem abiding_openSession : Abiding (openSession noxtls env) := by
  refine always_bind order_abiding always_self fun c => ?_
  refine always_bind order_abiding (always_ensure order_abiding _ _) fun _ => ?_
  refine always_bind order_abiding (always_modify fun _ => rfl) fun _ => ?_
  refine Abiding.bind (abiding_requireService _ _ _) fun _ => Abiding.bind abiding_sendChannelOpen fun _ => ?_
  exact abiding_awaitConfirmation

theorem abiding_awaitSuccess : Abiding (awaitSuccess noxtls env) :=
  (abiding_waits 99 100 256).bind fun _ => always_ensure order_abiding _ _

theorem abiding_exec (command : List UInt8) : Abiding (exec noxtls env command) := by
  refine always_bind order_abiding always_self fun c => ?_
  refine always_bind order_abiding (always_ensure order_abiding _ _) fun _ => ?_
  refine always_bind order_abiding (always_ensure order_abiding _ _) fun _ => ?_
  refine always_bind order_abiding (always_lift order_abiding _ _) fun payload => ?_
  exact always_bind order_abiding (always_failAs _ (abiding_sendPacket _)) fun _ => abiding_awaitSuccess

theorem abiding_setEd25519PrivateKey (privateKey : List UInt8) : Abiding (setEd25519PrivateKey noxtls privateKey) := by
  refine always_bind order_abiding (always_modify fun _ => rfl) fun _ => ?_
  split
  · exact always_bind order_abiding (always_modify fun _ => rfl) fun _ => always_fail order_abiding _
  · exact always_modify fun _ => rfl

end Abiding

end NoxSsh.Client

/-! ## The server's answers -/

namespace NoxSsh.Server

open Theory Proc Wire Transport Protocol

set_option autoImplicit false

section Answering

variable {noxtls : Noxtls} {env : Env} {last : Lane} {rest : List UInt8} {h : Host Server} {sessionTurns turns : Nat}

theorem apart_setUserauthReady : Apart setUserauthReady := ⟨fun _ => rfl, fun _ => rfl, fun _ => rfl⟩

theorem apart_countAttempt : Apart countAttempt := ⟨fun _ => rfl, fun _ => rfl, fun _ => rfl⟩

theorem apart_setAuthenticated (user : List UInt8) : Apart (setAuthenticated user) :=
  ⟨fun _ => rfl, fun _ => rfl, fun _ => rfl⟩

theorem loginService_answers (sha : noxtls.shaInit = true) (ctr : CtrMode noxtls) (live : Live env)
    (awaiting : Awaiting noxtls last [serviceAsked "ssh-userauth"] rest h) :
    Continues Spent (serveLoop noxtls env sessionTurns (turns + 1) 0) (serveLoop noxtls env sessionTurns turns 0)
      (Leg noxtls [serviceGranted "ssh-userauth"] last [] rest (setUserauthReady h.self) h) h := by
  apply turn_live ctr live (by decide) (by decide) awaiting
  intro stale h₁ heard awaiting₁ same
  obtain ⟨reads, shows⟩ := reads_string _ _ _ (serviceAsked "ssh-userauth").length
    (holds_append.1 (holds_memOf (serviceAsked "ssh-userauth") stale)).2 rfl rfl rfl (by decide) (by decide)
  have leg : Leg noxtls [] last [] rest h.self h h₁ := ⟨heard, awaiting₁, same⟩
  apply goOn_live
  apply returns_lift_bind reads
  apply returns_self_bind
  rw [shows, if_pos rfl]
  apply returns_modify_bind
  have built : (payloadAppendU8 256 6 [] >>= payloadAppendString 256 (ascii "ssh-userauth")) =
    some (serviceGranted "ssh-userauth") := rfl
  apply Returns.failAs
  apply returns_lift_bind built
  exact (says_leg sha ctr live (by decide) (by decide) (leg.modified apart_setUserauthReady)).excused fun _ => .inl

/-- What a login leaves of the context, when the callback has answered. -/
theorem Leg.admitted {s : Server} {h₁ : Host Server} (leg : Leg noxtls [] last [] rest s h h₁) (user key : List UInt8) :
    Leg noxtls [] last [] rest (setAuthenticated user (countAttempt s)) h ⟨setAuthenticated user (countAttempt h₁.self),
      h₁.tick + 2, h₁.inbox, h₁.trace ++ [(.keyAllowed user key true, countAttempt h₁.self)]⟩ := by
  have inbox : (⟨setAuthenticated user (countAttempt h₁.self), h₁.tick + 2, h₁.inbox,
    h₁.trace ++ [(.keyAllowed user key true, countAttempt h₁.self)]⟩ : Host Server).inbox = h₁.inbox := rfl
  apply leg.step inbox rfl rfl
  · exact ((apart_setAuthenticated user).out _).trans (apart_countAttempt.out _)
  · exact ((apart_setAuthenticated user).into _).trans (apart_countAttempt.into _)
  · rw [(apart_setAuthenticated user).passes, apart_countAttempt.passes, leg.same, ← apart_countAttempt.passes,
      ← (apart_setAuthenticated user).passes]

theorem dispatch_login (user key sig : List UInt8) (closeDeadlineMs : Nat) (m : Mem) :
    dispatch noxtls env sessionTurns closeDeadlineMs (loginPayload user key sig) m =
      goOn closeDeadlineMs (userauthRequest noxtls env (loginPayload user key sig) m) := by
  rw [dispatch, (loginPayload_shape user key sig).2]
  rfl

/-- What a server needs to take a login. -/
structure AwaitsLogin (s : Server) : Prop where
  ready : s.userauthServiceReady = true
  first : s.authenticated = false
  attempts : s.authAttempts < 6
  callback : s.publickeyAllowedCb = true
  idLen : s.sessionIdLen = 32
  sizeId : s.sessionId.length = 32

theorem AwaitsLogin.of_core {s s' : Server} (awaits : AwaitsLogin s) (same : core s' = core s) : AwaitsLogin s' := by
  obtain ⟨ready, first, attempts, callback, idLen, sizeId⟩ := awaits
  constructor
  · exact (eq_of_core (fun _ => rfl) same).trans ready
  · exact (eq_of_core (fun _ => rfl) same).trans first
  · rwa [@eq_of_core _ Server.authAttempts (fun _ => rfl) _ _ same]
  · exact (eq_of_core (fun _ => rfl) same).trans callback
  · exact (eq_of_core (fun _ => rfl) same).trans idLen
  · rwa [@eq_of_core _ Server.sessionId (fun _ => rfl) _ _ same]

/-- The handler of a login, up to the answer. -/
theorem userauthRequest_login {user key sig : List UInt8} (stale : Mem) (awaits : AwaitsLogin h.self)
    (keyLen : key.length = 32) (sigLen : sig.length = 64) (nonempty : user ≠ []) (short : user.length ≤ 64)
    (plain : 0 ∉ user) (allows : ∀ t, env.publickeyAllowed t user key = true) (memory : ∀ t, env.malloc t = true)
    (verifies : noxtls.ed25519Verify key (signedBytes h.self.sessionId user key) sig = true) :
    (userauthRequest noxtls env (loginPayload user key sig) (memOf (loginPayload user key sig) stale)).run h =
      (failAs .failed (sendUserauthSuccess noxtls env)).run ⟨setAuthenticated user (countAttempt h.self), h.tick + 2,
        h.inbox, h.trace ++ [(.keyAllowed user key true, countAttempt h.self)]⟩ := by
  obtain ⟨ready, first, attempts, callback, idLen, sizeId⟩ := awaits
  have within : (countAttempt h.self).authAttempts ≤ 6 := by
    simp only [countAttempt]
    omega
  have handles := @handles_login user key sig noxtls env { h with self := countAttempt h.self } stale callback idLen sizeId
    keyLen sigLen nonempty short plain (allows _) (memory _) verifies
  rw [userauthRequest, self_bind_run, ensure_bind_pos ready, ensure_bind_pos first, modify_bind_run, self_bind_run,
    ensure_bind_pos within, failAs_run, handles, failAs_run]

/-- A login of a user whose key is allowed, with a signature that verifies. -/
theorem login_answers (sha : noxtls.shaInit = true) (ctr : CtrMode noxtls) (live : Live env) {user key sig : List UInt8}
    (awaits : AwaitsLogin h.self) (keyLen : key.length = 32) (sigLen : sig.length = 64) (nonempty : user ≠ [])
    (short : user.length ≤ 64) (plain : 0 ∉ user) (allows : ∀ t, env.publickeyAllowed t user key = true)
    (memory : ∀ t, env.malloc t = true)
    (verifies : noxtls.ed25519Verify key (signedBytes h.self.sessionId user key) sig = true)
    (awaiting : Awaiting noxtls last [loginPayload user key sig] rest h) :
    Continues Spent (serveLoop noxtls env sessionTurns (turns + 1) 0) (serveLoop noxtls env sessionTurns turns 0)
      (Leg noxtls [[52]] last [] rest (setAuthenticated user (countAttempt h.self)) h) h := by
  obtain ⟨size, number⟩ := loginPayload_shape user key sig
  have some_ : loginPayload user key sig ≠ [] := by
    intro empty
    rw [empty] at number
    cases number
  apply turn_live ctr live some_ (by rw [maxPacketLen]; omega) awaiting
  intro stale h₁ heard awaiting₁ same
  have leg : Leg noxtls [] last [] rest h.self h h₁ := ⟨heard, awaiting₁, same⟩
  have id : h₁.self.sessionId = h.self.sessionId := @eq_of_core _ Server.sessionId (fun _ => rfl) _ _ same
  rw [dispatch_login]
  apply goOn_live
  rw [Returns, userauthRequest_login stale (awaits.of_core same) keyLen sigLen nonempty short plain allows memory
    (by rw [id]; exact verifies)]
  exact ((says_leg sha ctr live (by decide) (by decide) (leg.admitted user key)).excused fun _ => .inl).failAs _

theorem connectionService_answers (sha : noxtls.shaInit = true) (ctr : CtrMode noxtls) (live : Live env)
    (authenticated : h.self.authenticated = true)
    (awaiting : Awaiting noxtls last [serviceAsked "ssh-connection"] rest h) :
    Continues Spent (serveLoop noxtls env sessionTurns (turns + 1) 0) (serveLoop noxtls env sessionTurns turns 0)
      (Leg noxtls [serviceGranted "ssh-connection"] last [] rest (setConnectionReady h.self) h) h :=
  (serviceRequest_live sha ctr live authenticated awaiting).mono fun _ ⟨said, awaiting, same⟩ => ⟨said, awaiting, same⟩

theorem sessionOpen_answers (sha : noxtls.shaInit = true) (ctr : CtrMode noxtls) (live : Live env)
    (ready : h.self.authenticated = true ∧ h.self.connectionServiceReady = true) (none : h.self.channelOpen = false)
    (awaiting : Awaiting noxtls last [sessionOpen] rest h) :
    Continues Spent (serveLoop noxtls env sessionTurns (turns + 1) 0) (serveLoop noxtls env sessionTurns turns 0)
      (Leg noxtls [openConfirmation] last [] rest (accepted h.self) h) h :=
  (sessionOpen_live sha ctr live ready none awaiting).mono fun _ ⟨said, awaiting, same⟩ => ⟨said, awaiting, same⟩

theorem exec_answers (sha : noxtls.shaInit = true) (ctr : CtrMode noxtls) (live : Live env) {command : List UInt8}
    (short : command.length ≤ 512) (plain : 0 ∉ command) (isOpen : h.self.channelOpen = true)
    (own : h.self.localChannelId = 0) (peer : h.self.remoteChannelId = 0)
    (awaiting : Awaiting noxtls last [execRequest 0 command] rest h) :
    Continues Spent (serveLoop noxtls env sessionTurns (turns + 1) 0)
      (sessionRun noxtls env sessionTurns turns (some command)) (Leg noxtls [channelSuccess 0] last [] rest h.self h) h := by
  apply (execRequest_live sha ctr live (by decide) short plain isOpen own awaiting).mono
  rintro h' ⟨said, awaiting, same⟩
  rw [peer] at said
  exact ⟨said, awaiting, same⟩

end Answering

/-! ## What has been said stays said -/

/-- The failure a caller reports in place of another changes nothing behind a run. -/
theorem failAs_bind_snd {ε σ α β : Type} (e : ε) (m : Proc ε σ α) (k : α → Proc ε σ β) (s : σ) :
    ((failAs e m >>= k).run s).2 = ((m >>= k).run s).2 := by
  rw [bind_run, bind_run, failAs_run]
  rcases m.run s with ⟨o, s'⟩
  cases o <;> rfl

section Abiding

variable {noxtls : Noxtls} {env : Env}

theorem abiding_of_watchful {α : Type} {m : Prog Server α} (watchful : Always Watchful m) : Abiding m := by
  intro h
  obtain ⟨-, new, grown, -⟩ := watchful h
  exact ⟨rfl, new, grown, fun _ _ => ⟨trivial, rfl⟩⟩

theorem abiding_serveLoop (sessionTurns turns closeDeadlineMs : Nat) :
    Abiding (serveLoop noxtls env sessionTurns turns closeDeadlineMs) :=
  abiding_of_watchful (watchful_serveLoop sessionTurns turns closeDeadlineMs)

/-- A session once it is on the record. -/
theorem abiding_session (turns : Nat) : Abiding (do
    modify setSessionStarted
    let forked ← ask env.fork
    ensure (forked = true) .failed
    sessionLoop noxtls env turns ⟨false, none⟩) := by
  have order := quiet_order (fun _ => True) fun _ : Server => ()
  refine always_bind order (always_modify fun _ => rfl) fun _ => ?_
  refine always_bind order (always_ask _) fun forked => ?_
  refine always_bind order (always_ensure order _ _) fun _ => ?_
  exact abiding_of_watchful (watchful_sessionLoop turns _)

theorem abiding_runSessionUnix (turns : Nat) (command : Option (List UInt8)) :
    Abiding (runSessionUnix noxtls env turns command) := by
  have order := quiet_order (fun _ => True) fun _ : Server => ()
  refine always_bind order always_self fun s => ?_
  refine always_bind order (always_ensure order _ _) fun _ => ?_
  exact always_bind order (always_log trivial) fun _ => abiding_session turns

/-- The connection once its session is over. -/
theorem abiding_closing (sessionTurns turns : Nat) :
    Abiding (failAs .failed (beginCloseWait env 0) >>= serveLoop noxtls env sessionTurns turns) := by
  have order := quiet_order (fun _ => True) fun _ : Server => ()
  refine always_bind order (always_failAs _ ?_) fun closeDeadlineMs => abiding_serveLoop _ _ _
  unfold beginCloseWait
  refine always_ite (always_pure order _) ?_
  refine always_bind order (always_ask _) fun now => ?_
  exact always_bind order (always_ensure order _ _) fun _ => always_pure order _

theorem abiding_sessionRun (sessionTurns turns : Nat) (command : Option (List UInt8)) :
    Abiding (sessionRun noxtls env sessionTurns turns command) :=
  Abiding.bind (always_failAs _ (abiding_runSessionUnix _ _)) fun _ => abiding_closing sessionTurns turns

/-- What a program has put on the record stays there. -/
theorem mem_trace_bind {α β : Type} {m : Prog Server α} {k : α → Prog Server β} {x : Event × Server} {s : Host Server}
    (abiding : ∀ a, Abiding (k a)) (recorded : x ∈ (m.run s).2.trace) : x ∈ ((m >>= k).run s).2.trace := by
  rw [bind_run]
  generalize m.run s = ran at recorded ⊢
  rcases ran with ⟨o, s'⟩
  cases o with
  | ok a =>
      obtain ⟨-, new, grown, -⟩ := abiding a s'
      rw [grown]
      exact List.mem_append_left _ recorded
  | err e => exact recorded
  | stuck => exact recorded

/-- A session that begins is on the record. -/
theorem session_starts (sessionTurns turns : Nat) (command : Option (List UInt8)) {s : Host Server}
    (descriptor : 0 ≤ s.self.transportFd) (user : s.self.authenticatedUser ≠ []) :
    (Event.sessionStarted command, s.self) ∈ ((sessionRun noxtls env sessionTurns turns command).run s).2.trace := by
  rw [sessionRun, failAs_bind_snd]
  apply mem_trace_bind fun _ => abiding_closing sessionTurns turns
  rw [runSessionUnix, self_bind_run, ensure_bind_pos ⟨descriptor, user⟩]
  apply mem_trace_bind fun _ => abiding_session sessionTurns
  simp

end Abiding

end NoxSsh.Server

/-! ## A round -/

namespace NoxSsh.Protocol

open Theory Proc Wire Transport

set_option autoImplicit false

section Rounds

variable {noxtls : Noxtls} {clientEnv serverEnv : Env} {wireC wireS : List UInt8} {c : Host Client} {s : Host Server}

/-- What changes neither a lane nor the wire leaves the party level with its peer. -/
theorem CaughtUp.silent {π ρ : Type} {out : Side π} {into : Side ρ} {wire : List UInt8} {p p' : Host π} {q : Host ρ}
    (caught : CaughtUp out into wire p q) (said : Said noxtls out [] p p') : CaughtUp out into wire p' q := by
  have lane := lane_of_said_nothing said
  obtain ⟨_, new, sealed, grown, is⟩ := said
  refine ⟨by rw [lane]; exact caught.step, ?_⟩
  have nothing : wireOf new = [] := by
    rw [is]
    generalize out.lane p.self = before at sealed
    generalize out.lane p'.self = after at sealed
    cases sealed
    rfl
  rw [caught.stream, grown, wireOf_append, nothing, List.append_nil]

/-- The client asks, the server answers and the client hears the answer. -/
theorem round {m next done : Prog Client Unit} {n n' : Prog Server Unit} {request : List UInt8} (reply : List UInt8)
    {p p' : Client} {q : Server} (level : EachCaughtUp wireC wireS c s) (isC : wireC = wireOf (m.run c).2.trace)
    (isS : wireS = wireOf (n.run s).2.trace) (unspent : ¬ Server.Spent (n.run s).2) (abidingC : Abiding next) (abidingS : Abiding n')
    (asks : ∀ {last rest}, Client.Awaiting noxtls last [] rest c →
      Continues Client.Late m next (Client.Leg noxtls [request] last [] rest p c) c)
    (answers : ∀ {last rest}, Server.Awaiting noxtls last [request] rest s →
      Continues Server.Spent n n' (Server.Leg noxtls [reply] last [] rest q s) s)
    (hears : ∀ {last rest c₁}, Client.core c₁.self = Client.core p → Client.Awaiting noxtls last [reply] rest c₁ →
      Continues Client.Late next done (Client.Leg noxtls [] last [] rest p' c₁) c₁) :
    ∃ c' s', m.run c = done.run c' ∧ n.run s = n'.run s' ∧ EachCaughtUp wireC wireS c' s' ∧
      Client.core c'.self = Client.core p' ∧ Server.core s'.self = Server.core q := by
  have waiting : Client.Awaiting noxtls (Server.sendSide.lane s.self) [] c.inbox c :=
    ⟨level.toServer.step.hasBlock, _, [], .nil _, level.toClient.step, rfl⟩
  obtain ⟨c₁, asked, sameC⟩ := Client.continues_client (asks waiting)
  obtain ⟨restC, streamC⟩ := abidingC.grows c₁
  rw [← sameC, ← isC] at streamC
  have toClient : CaughtUp Server.sendSide Client.recvSide wireS s c₁ :=
    caughtUp_of_awaiting asked.awaiting level.toClient.stream
  obtain ⟨s₁, answered, sameS⟩ :=
    (answers (level.toServer.awaiting asked.said streamC level.toClient.step.hasBlock)).resolve_right unspent
  obtain ⟨restS, streamS⟩ := abidingS.grows s₁
  rw [← sameS, ← isS] at streamS
  have toServer : CaughtUp Client.sendSide Server.recvSide wireC c₁ s₁ := caughtUp_of_awaiting answered.awaiting streamC
  obtain ⟨c₂, heard, sameC₁⟩ := Client.continues_client
    (hears asked.same (toClient.awaiting answered.said streamS toServer.step.hasBlock))
  exact ⟨c₂, s₁, sameC.trans sameC₁, sameS, ⟨toServer.silent heard.said, caughtUp_of_awaiting heard.awaiting streamS⟩,
    heard.same, answered.same⟩

theorem Apart.congr {π : Type} {out into : Side π} {core f : π → π} (apart : Apart out into core f) {p q : π}
    (same : core p = core q) : core (f p) = core (f q) := by
  rw [apart.passes, same, ← apart.passes]

/-- An answer that was heard is behind the party. -/
theorem hears_then {α : Type} {m : Prog Client α} {done : α → Prog Client Unit} {last : Lane} {rest : List UInt8}
    {p q : Client} {a : α} (same : Client.core p = Client.core q)
    (returns : Returns Client.Late m (fun got h' => got = a ∧ Client.Leg noxtls [] last [] rest p c h') c) :
    Continues Client.Late (m >>= done) (done a) (Client.Leg noxtls [] last [] rest q c) c := by
  apply returns.continues
  rintro _ h' ⟨rfl, leg⟩
  exact continues_here ⟨leg.said, leg.awaiting, leg.same.trans same⟩

/-! ## The login -/

/-- What a client needs to log in with a key. -/
structure CanLogIn (noxtls : Noxtls) (user key : List UInt8) (c : Client) : Prop where
  keyed : c.connected = true ∧ c.kexinitExchanged = true ∧ c.keyExchangeComplete = true
  unready : c.userauthServiceReady = false
  named : c.username = user
  hasKey : c.hasEd25519Key = true
  isKey : c.ed25519PublicKey = key ∧ noxtls.ed25519PublicKey c.ed25519PrivateKey = some key
  sessionId : c.sessionIdLen = 32 ∧ c.sessionId.length = 32

/-- What a server needs to let it in, besides the service. -/
structure CanAdmit (s : Server) : Prop where
  first : s.authenticated = false
  attempts : s.authAttempts < 6
  callback : s.publickeyAllowedCb = true

/-- The contexts behind a login. -/
def loggedInClient (c : Client) : Client := Client.setAuthenticated (Client.setUserauthReady c)

def admitted (user : List UInt8) (s : Server) : Server :=
  Server.setAuthenticated user (Server.countAttempt (Server.setUserauthReady s))

theorem login_agrees {sessionTurns : Nat} (turns : Nat) (sha : noxtls.shaInit = true) (ctr : CtrMode noxtls) (scheme : SignatureScheme noxtls)
    (clientLive : Live clientEnv) (serverLive : Live serverEnv) {user key : List UInt8} (nonempty : user ≠ [])
    (short : user.length ≤ 64) (plain : 0 ∉ user) (allows : ∀ t, serverEnv.publickeyAllowed t user key = true)
    (memory : ∀ t, serverEnv.malloc t = true) {k : Unit → Prog Client Unit} (abiding : ∀ u, Abiding (k u))
    (canLogIn : CanLogIn noxtls user key c.self) (canAdmit : CanAdmit s.self)
    (same : c.self.sessionId = s.self.sessionId ∧ c.self.sessionIdLen = s.self.sessionIdLen)
    (level : EachCaughtUp wireC wireS c s)
    (isC : wireC = wireOf ((Client.authenticate noxtls clientEnv >>= k).run c).2.trace)
    (isS : wireS = wireOf ((Server.serveLoop noxtls serverEnv sessionTurns (turns + 2) 0).run s).2.trace)
    (unspent : ¬ Server.Spent ((Server.serveLoop noxtls serverEnv sessionTurns (turns + 2) 0).run s).2) :
    ∃ c' s', (Client.authenticate noxtls clientEnv >>= k).run c = (k ()).run c' ∧
      (Server.serveLoop noxtls serverEnv sessionTurns (turns + 2) 0).run s =
        (Server.serveLoop noxtls serverEnv sessionTurns turns 0).run s' ∧ EachCaughtUp wireC wireS c' s' ∧
      Client.core c'.self = Client.core (loggedInClient c.self) ∧ Server.core s'.self = Server.core (admitted user s.self) := by
  obtain ⟨keyed, unready, named, hasKey, ⟨isPublic, isKey⟩, idLen, sizeId⟩ := canLogIn
  obtain ⟨first, attempts, callback⟩ := canAdmit
  have keyLen := noxtls.length_ed25519PublicKey _ _ isKey
  obtain ⟨sig, signs, verifies⟩ := scheme.signs _ key (signedBytes c.self.sessionId user key) isKey
  have sigLen := noxtls.length_ed25519Sign _ _ _ signs
  -- the service
  obtain ⟨c₁, s₁, sameC, sameS, level₁, coreC, coreS⟩ := round (serviceGranted "ssh-userauth") level isC isS unspent
    (Abiding.bind (Abiding.bind (always_failAs _ (Client.abiding_awaitService "ssh-userauth" Client.setUserauthReady)) fun _ =>
      Client.abiding_logIn c.self) abiding)
    (Server.abiding_serveLoop sessionTurns (turns + 1) 0)
    (fun awaiting => Client.continues_bind (Client.authenticate_asks sha ctr clientLive keyed (by rw [named]; exact nonempty)
      unready awaiting) k)
    (fun awaiting => Server.loginService_answers sha ctr serverLive awaiting)
    (fun same awaiting => Client.continues_bind (hears_then (a := ()) (Client.apart_setUserauthReady.congr same)
      (((Client.awaitService_hears ctr clientLive Client.apart_setUserauthReady (by decide) awaiting).failAs _).mono
        fun _ _ leg => ⟨rfl, leg⟩)) k)
  rw [sameC] at isC ⊢
  rw [sameS] at isS unspent ⊢
  have id : c₁.self.sessionId = (Client.setUserauthReady c.self).sessionId :=
    @Client.eq_of_core _ (fun c => c.sessionId) (fun _ => rfl) _ _ coreC
  have name : c₁.self.username = user :=
    (@Client.eq_of_core _ (fun c => c.username) (fun _ => rfl) _ _ coreC).trans named
  have public' : c₁.self.ed25519PublicKey = key :=
    (@Client.eq_of_core _ (fun c => c.ed25519PublicKey) (fun _ => rfl) _ _ coreC).trans isPublic
  have private' : c₁.self.ed25519PrivateKey = (Client.setUserauthReady c.self).ed25519PrivateKey :=
    @Client.eq_of_core _ (fun c => c.ed25519PrivateKey) (fun _ => rfl) _ _ coreC
  have id' : s₁.self.sessionId = c.self.sessionId :=
    (@Server.eq_of_core _ (fun s => s.sessionId) (fun _ => rfl) _ _ coreS).trans same.1.symm
  have signs₁ : noxtls.ed25519Sign c₁.self.ed25519PrivateKey
      (signedBytes c₁.self.sessionId c₁.self.username c₁.self.ed25519PublicKey) = some sig := by
    rw [private', id, name, public']
    exact signs
  have awaits : Server.AwaitsLogin s₁.self := Server.AwaitsLogin.of_core (s := Server.setUserauthReady s.self)
    ⟨rfl, first, attempts, callback, same.2.symm.trans idLen, by
      show s.self.sessionId.length = 32
      rw [← same.1]
      exact sizeId⟩ coreS
  -- the request
  obtain ⟨c₂, s₂, sameC₁, sameS₁, level₂, coreC₁, coreS₁⟩ := round [52] level₁ isC isS unspent
    ((Client.abiding_waitUserauthResult.bind fun accepted => Client.abiding_concludeLogin c.self accepted).bind abiding)
    (Server.abiding_serveLoop sessionTurns turns 0)
    (fun awaiting => Client.continues_bind (Client.logIn_asks sha ctr clientLive hasKey
      ((@Client.eq_of_core _ (fun c => c.hasEd25519Key) (fun _ => rfl) _ _ coreC).trans hasKey) (by rw [name]; exact short)
      (by rw [public']; exact keyLen)
      ((@Client.eq_of_core _ (fun c => c.sessionIdLen) (fun _ => rfl) _ _ coreC).trans idLen) (by rw [id]; exact sizeId)
      signs₁ awaiting) k)
    (fun awaiting => Server.login_answers sha ctr serverLive awaits keyLen sigLen nonempty short plain allows memory
      (by rw [id']; exact verifies) (by rw [name, public'] at awaiting; exact awaiting))
    (fun same awaiting => hears_then (a := ()) (Client.apart_setAuthenticated.congr same)
      ((Client.logIn_hears ctr clientLive awaiting).mono fun _ _ leg => ⟨rfl, leg⟩))
  exact ⟨c₂, s₂, sameC₁, sameS₁, level₂, coreC₁.trans (Client.apart_setAuthenticated.congr coreC),
    coreS₁.trans ((Server.apart_setAuthenticated user).congr (Server.apart_countAttempt.congr coreS))⟩

/-! ## The session and the command -/

/-- The contexts behind the opening of a session. -/
def opening (c : Client) : Client :=
  Client.openChannel 0 65536 32768 (Client.setConnectionReady (Client.setLocalChannel c))

theorem opening_agrees {sessionTurns : Nat} (turns : Nat) (sha : noxtls.shaInit = true) (ctr : CtrMode noxtls) (clientLive : Live clientEnv)
    (serverLive : Live serverEnv) {k : Unit → Prog Client Unit} (abiding : ∀ u, Abiding (k u))
    (state : c.self.connected = true ∧ c.self.kexinitExchanged = true ∧ c.self.keyExchangeComplete = true ∧
      c.self.authenticated = true) (unready : c.self.connectionServiceReady = false)
    (authenticated : s.self.authenticated = true) (none : s.self.channelOpen = false) (level : EachCaughtUp wireC wireS c s)
    (isC : wireC = wireOf ((Client.openSession noxtls clientEnv >>= k).run c).2.trace)
    (isS : wireS = wireOf ((Server.serveLoop noxtls serverEnv sessionTurns (turns + 2) 0).run s).2.trace)
    (unspent : ¬ Server.Spent ((Server.serveLoop noxtls serverEnv sessionTurns (turns + 2) 0).run s).2) :
    ∃ c' s', (Client.openSession noxtls clientEnv >>= k).run c = (k ()).run c' ∧
      (Server.serveLoop noxtls serverEnv sessionTurns (turns + 2) 0).run s =
        (Server.serveLoop noxtls serverEnv sessionTurns turns 0).run s' ∧ EachCaughtUp wireC wireS c' s' ∧
      Client.core c'.self = Client.core (opening c.self) ∧
      Server.core s'.self = Server.core (accepted (Server.setConnectionReady s.self)) := by
  -- the service
  obtain ⟨c₁, s₁, sameC, sameS, level₁, coreC, coreS⟩ := round (serviceGranted "ssh-connection") level isC isS
    unspent (Abiding.bind (Abiding.bind (always_failAs _ (Client.abiding_awaitService "ssh-connection" Client.setConnectionReady)) fun _ =>
      Client.abiding_requestSession) abiding)
    (Server.abiding_serveLoop sessionTurns (turns + 1) 0)
    (fun awaiting => Client.continues_bind (Client.openSession_asks sha ctr clientLive state unready awaiting) k)
    (fun awaiting => Server.connectionService_answers sha ctr serverLive authenticated awaiting)
    (fun same awaiting => Client.continues_bind (hears_then (a := ()) (Client.apart_setConnectionReady.congr same)
      (((Client.awaitService_hears ctr clientLive Client.apart_setConnectionReady (by decide) awaiting).failAs _).mono
        fun _ _ leg => ⟨rfl, leg⟩)) k)
  rw [sameC] at isC ⊢
  rw [sameS] at isS unspent ⊢
  have channel : c₁.self.localChannelId = 0 := @Client.eq_of_core _ (fun c => c.localChannelId) (fun _ => rfl) _ _ coreC
  have window : c₁.self.localWindowSize = 65536 :=
    @Client.eq_of_core _ (fun c => c.localWindowSize) (fun _ => rfl) _ _ coreC
  have ready : s₁.self.authenticated = true ∧ s₁.self.connectionServiceReady = true :=
    ⟨(@Server.eq_of_core _ (fun s => s.authenticated) (fun _ => rfl) _ _ coreS).trans authenticated,
      @Server.eq_of_core _ (fun s => s.connectionServiceReady) (fun _ => rfl) _ _ coreS⟩
  have closed : s₁.self.channelOpen = false :=
    (@Server.eq_of_core _ (fun s => s.channelOpen) (fun _ => rfl) _ _ coreS).trans none
  -- the channel
  obtain ⟨c₂, s₂, sameC₁, sameS₁, level₂, coreC₁, coreS₁⟩ := round openConfirmation level₁ isC isS unspent
    (Client.abiding_awaitConfirmation.bind abiding) (Server.abiding_serveLoop sessionTurns turns 0)
    (fun awaiting => Client.continues_bind (Client.requestSession_asks sha ctr clientLive channel window awaiting) k)
    (fun awaiting => Server.sessionOpen_answers sha ctr serverLive ready closed awaiting)
    (fun {_ _ c₂} same awaiting => hears_then (a := ()) ((Client.apart_openChannel 0 65536 32768).congr same)
      ((Client.awaitConfirmation_hears ctr clientLive
        ((@Client.eq_of_core _ (fun c => c.localChannelId) (fun _ => rfl) _ _ same).trans channel) awaiting).mono
        fun _ _ leg => ⟨rfl, leg⟩))
  exact ⟨c₂, s₂, sameC₁, sameS₁, level₂, coreC₁.trans ((Client.apart_openChannel 0 65536 32768).congr coreC),
    coreS₁.trans (congrArg accepted coreS)⟩

theorem command_agrees (sha : noxtls.shaInit = true) (ctr : CtrMode noxtls) (clientLive : Live clientEnv)
    (serverLive : Live serverEnv) {sessionTurns turns : Nat} {command : List UInt8} (short : command.length ≤ 512)
    (plain : 0 ∉ command) (matched : Matched c.self s.self) (own : s.self.localChannelId = 0)
    (peer : s.self.remoteChannelId = 0) (level : EachCaughtUp wireC wireS c s)
    (isC : wireC = wireOf ((Client.exec noxtls clientEnv command).run c).2.trace)
    (isS : wireS = wireOf ((Server.serveLoop noxtls serverEnv sessionTurns (turns + 1) 0).run s).2.trace)
    (unspent : ¬ Server.Spent ((Server.serveLoop noxtls serverEnv sessionTurns (turns + 1) 0).run s).2) :
    ∃ c' s', (Client.exec noxtls clientEnv command).run c = (.ok (), c') ∧
      (Server.serveLoop noxtls serverEnv sessionTurns (turns + 1) 0).run s =
        (sessionRun noxtls serverEnv sessionTurns turns (some command)).run s' ∧ EachCaughtUp wireC wireS c' s' ∧
      Client.core c'.self = Client.core c.self ∧ Server.core s'.self = Server.core s.self := by
  have remote : c.self.remoteChannelId = 0 := matched.serverId.trans own
  obtain ⟨c', s', sameC, sameS, level', coreC, coreS⟩ := @round noxtls wireC wireS c s _ _ (pure ()) _ _ _
    (channelSuccess 0) _ _ _ level isC isS unspent Client.abiding_awaitSuccess (Server.abiding_sessionRun sessionTurns turns (some command))
    (fun awaiting => Client.exec_asks sha ctr clientLive matched.ready short awaiting)
    (fun awaiting => Server.exec_answers sha ctr serverLive short plain matched.isOpen own peer
      (by rw [remote] at awaiting; exact awaiting))
    (fun same awaiting => by
      have heard := @hears_then noxtls _ _ _ pure _ _ _ _ () same
        ((Client.awaitSuccess_hears ctr clientLive awaiting).mono fun _ _ leg => ⟨rfl, leg⟩)
      rcases heard with ⟨h', leg, is⟩ | never
      · exact .inl ⟨h', leg, by rw [← is, bind_pure_run]⟩
      · exact never.elim)
  exact ⟨c', s', sameC, sameS, level', coreC, coreS⟩

/-- A session is opened for the user who logged in. -/
theorem accepted_keeps (s : Server) : (accepted (Server.setConnectionReady s)).authenticatedUser = s.authenticatedUser ∧
    (accepted (Server.setConnectionReady s)).transportFd = s.transportFd := by
  simp only [accepted, Server.setChannelOpen, Server.openChannel, Server.setRemoteLimits, Server.setConnectionReady, and_self]

theorem admitted_keeps (user : List UInt8) (s : Server) : (admitted user s).transportFd = s.transportFd := by
  simp only [admitted, Server.setAuthenticated, Server.countAttempt, Server.setUserauthReady]

/-- Behind the handshake: the login, the session and the command. -/
theorem session_agrees (sha : noxtls.shaInit = true) (ctr : CtrMode noxtls) (scheme : SignatureScheme noxtls)
    (clientLive : Live clientEnv) (serverLive : Live serverEnv) {user key command : List UInt8} (nonempty : user ≠ [])
    (shortUser : user.length ≤ 64) (plainUser : 0 ∉ user) (shortCommand : command.length ≤ 512) (plainCommand : 0 ∉ command)
    (allows : ∀ t, serverEnv.publickeyAllowed t user key = true) (memory : ∀ t, serverEnv.malloc t = true)
    {sessionTurns turns : Nat} (canLogIn : CanLogIn noxtls user key c.self) (canAdmit : CanAdmit s.self)
    (same : c.self.sessionId = s.self.sessionId ∧ c.self.sessionIdLen = s.self.sessionIdLen)
    (unready : c.self.connectionServiceReady = false) (none : s.self.channelOpen = false) (level : EachCaughtUp wireC wireS c s)
    (isC : wireC = wireOf ((Client.authenticate noxtls clientEnv >>= fun _ => Client.openSession noxtls clientEnv >>= fun _ =>
      Client.exec noxtls clientEnv command).run c).2.trace)
    (isS : wireS = wireOf ((Server.serveLoop noxtls serverEnv sessionTurns (turns + 5) 0).run s).2.trace)
    (unspent : ¬ Server.Spent ((Server.serveLoop noxtls serverEnv sessionTurns (turns + 5) 0).run s).2) :
    ∃ c' s', (Client.authenticate noxtls clientEnv >>= fun _ => Client.openSession noxtls clientEnv >>= fun _ =>
        Client.exec noxtls clientEnv command).run c = (.ok (), c') ∧
      (Server.serveLoop noxtls serverEnv sessionTurns (turns + 5) 0).run s =
        (sessionRun noxtls serverEnv sessionTurns turns (some command)).run s' ∧
      s'.self.authenticatedUser = user ∧ s'.self.transportFd = s.self.transportFd ∧ Matched c'.self s'.self ∧
      EachCaughtUp wireC wireS c' s' := by
  obtain ⟨c₁, s₁, sameC, sameS, level₁, coreC, coreS⟩ := login_agrees (turns + 3) sha ctr scheme clientLive serverLive
    nonempty shortUser plainUser allows memory (fun _ => Client.abiding_openSession.bind fun _ => Client.abiding_exec command)
    canLogIn canAdmit same level isC isS unspent
  rw [sameC] at isC ⊢
  rw [sameS] at isS unspent ⊢
  have connected := (@Client.eq_of_core _ (fun c => c.connected) (fun _ => rfl) _ _ coreC).trans canLogIn.keyed.1
  have exchanged := (@Client.eq_of_core _ (fun c => c.kexinitExchanged) (fun _ => rfl) _ _ coreC).trans canLogIn.keyed.2.1
  have complete := (@Client.eq_of_core _ (fun c => c.keyExchangeComplete) (fun _ => rfl) _ _ coreC).trans canLogIn.keyed.2.2
  have authenticated : c₁.self.authenticated = true := @Client.eq_of_core _ (fun c => c.authenticated) (fun _ => rfl) _ _ coreC
  have unready₁ := (@Client.eq_of_core _ (fun c => c.connectionServiceReady) (fun _ => rfl) _ _ coreC).trans unready
  have admits : s₁.self.authenticated = true := @Server.eq_of_core _ (fun s => s.authenticated) (fun _ => rfl) _ _ coreS
  have none₁ := (@Server.eq_of_core _ (fun s => s.channelOpen) (fun _ => rfl) _ _ coreS).trans none
  have user₁ : s₁.self.authenticatedUser = user := @Server.eq_of_core _ (fun s => s.authenticatedUser) (fun _ => rfl) _ _ coreS
  have descriptor₁ : s₁.self.transportFd = s.self.transportFd := by
    rw [@Server.eq_of_core _ (fun s => s.transportFd) (fun _ => rfl) _ _ coreS, admitted_keeps]
  obtain ⟨c₂, s₂, sameC₁, sameS₁, level₂, coreC₁, coreS₁⟩ := opening_agrees (turns + 1) sha ctr clientLive serverLive
    (fun _ => Client.abiding_exec command) ⟨connected, exchanged, complete, authenticated⟩ unready₁ admits none₁ level₁ isC isS
    unspent
  rw [sameC₁] at isC ⊢
  rw [sameS₁] at isS unspent ⊢
  have explicit : Matched (opening c₁.self) (accepted (Server.setConnectionReady s₁.self)) :=
    ⟨⟨connected, exchanged, complete, rfl⟩, rfl, rfl, rfl, rfl, rfl, rfl, rfl, show (0 : Nat) < 4294967296 by decide⟩
  have matched := explicit.of_core coreC₁ coreS₁
  have user₂ : s₂.self.authenticatedUser = user := by
    rw [@Server.eq_of_core _ (fun s => s.authenticatedUser) (fun _ => rfl) _ _ coreS₁, (accepted_keeps _).1, user₁]
  have descriptor₂ : s₂.self.transportFd = s.self.transportFd := by
    rw [@Server.eq_of_core _ (fun s => s.transportFd) (fun _ => rfl) _ _ coreS₁, (accepted_keeps _).2, descriptor₁]
  obtain ⟨c₃, s₃, sameC₂, sameS₂, level₃, coreC₂, coreS₂⟩ := command_agrees sha ctr clientLive serverLive shortCommand
    plainCommand matched (@Server.eq_of_core _ (fun s => s.localChannelId) (fun _ => rfl) _ _ coreS₁)
    (@Server.eq_of_core _ (fun s => s.remoteChannelId) (fun _ => rfl) _ _ coreS₁) level₂ isC isS unspent
  exact ⟨c₃, s₃, sameC₂, sameS₂, (@Server.eq_of_core _ (fun s => s.authenticatedUser) (fun _ => rfl) _ _ coreS₂).trans user₂,
    (@Server.eq_of_core _ (fun s => s.transportFd) (fun _ => rfl) _ _ coreS₂).trans descriptor₂,
    matched.of_core coreC₂ coreS₂, level₃⟩

end Rounds

/-! ## From one end to the other -/

/-- What the application does to run a command with a key, as `main` does it. -/
def runCommand (noxtls : Noxtls) (env : Env) (user host privateKey command : List UInt8) : Prog Client Unit := do
  Client.setTarget user host
  Client.connect noxtls env
  Client.setEd25519PrivateKey noxtls privateKey
  Client.authenticate noxtls env
  Client.openSession noxtls env
  Client.exec noxtls env command

/-- Each of the two programs hears what the other says in its whole run, and nothing else. -/
structure Linked (client : Prog Client Unit) (server : Prog Server Unit) (c : Host Client) (s : Host Server) : Prop where
  toServer : s.inbox = wireOf (client.run c).2.trace
  toClient : c.inbox = wireOf (server.run s).2.trace

/-- A user and a command that both parties have room for, and a key that the server allows for that user. -/
structure Welcome (noxtls : Noxtls) (env : Env) (user host privateKey key command : List UInt8) : Prop where
  named : user ≠ []
  shortUser : user.length ≤ 64
  plainUser : 0 ∉ user
  shortHost : host.length ≤ 255
  shortCommand : command.length ≤ 512
  plainCommand : 0 ∉ command
  isKey : noxtls.ed25519PublicKey privateKey = some key
  allows : ∀ t, env.publickeyAllowed t user key = true
  memory : ∀ t, env.malloc t = true

/-- The client as it connects. -/
def target (user host : List UInt8) (c : Client) : Client := Client.setHost host (Client.setUsername user c)

theorem setTarget_bind_run {user host : List UInt8} (shortUser : user.length ≤ 64) (shortHost : host.length ≤ 255)
    (k : Unit → Prog Client Unit) (c : Client) (tick : Nat) (inbox : List UInt8) :
    (Client.setTarget user host >>= k).run ⟨c, tick, inbox, []⟩ = (k ()).run ⟨target user host c, tick, inbox, []⟩ := by
  have copies : copyString 65 user = .ok user := if_neg (by omega)
  have copies' : copyString 256 host = .ok host := if_neg (by omega)
  rw [Client.setTarget, copies]
  dsimp only
  rw [copies', bind_assoc_run]
  rfl

theorem setKey_bind_run {noxtls : Noxtls} {privateKey key : List UInt8}
    (isKey : noxtls.ed25519PublicKey privateKey = some key) (k : Unit → Prog Client Unit) (h : Host Client) :
    (Client.setEd25519PrivateKey noxtls privateKey >>= k).run h =
      (k ()).run { h with self := Client.setPublicKey key (Client.setPrivateKey privateKey h.self) } := by
  rw [Client.setEd25519PrivateKey, isKey, bind_assoc_run]
  rfl

theorem clientNames : Names (ascii "SSH-2.0-noxssh_0.1") := ⟨by decide +kernel, by decide +kernel, by decide +kernel⟩

/-- **Remote command.**  For every user name of 1 to 64 bytes and every command of up to 512
bytes, both without a zero, every key that the server allows for that user, all cookies,
paddings and host keys and any fragmentation: a client that runs the command and a server that
serves one connection, joined by a reliable stream, with live sockets and nothing spent,
come to the point where the client has success and the server runs that command for that user. -/
theorem remote_command_runs (noxtls : Noxtls) (sha : noxtls.shaInit = true) (ctr : CtrMode noxtls)
    (agreement : KeyAgreement noxtls) (scheme : SignatureScheme noxtls) (clientEnv serverEnv : Env)
    (clientLive : Live clientEnv) (serverLive : Live serverEnv)
    (alike : clientEnv.rawKeyDerivation = serverEnv.rawKeyDerivation) (port turns : Nat)
    (user host privateKey key command toServer toClient : List UInt8)
    (welcome : Welcome noxtls serverEnv user host privateKey key command) (setup : Server.Setup)
    (names : Names setup.serverIdent) (ready : setup.hostKeyReady = true)
    (hostKey : noxtls.ed25519PublicKey setup.hostEd25519Sk = some setup.hostEd25519Pk)
    (callback : setup.publickeyAllowedCb = true) (descriptor : 0 ≤ setup.transportFd)
    (linked : Linked (runCommand noxtls clientEnv user host privateKey command) (Server.serveOne noxtls serverEnv (turns + 5))
      ⟨Client.init port, 0, toClient, []⟩ ⟨setup.server, 0, toServer, []⟩)
    (unspent : ¬ Server.Spent (Server.served noxtls serverEnv setup toServer (turns + 5))) :
    ∃ c' s',
      (runCommand noxtls clientEnv user host privateKey command).run ⟨Client.init port, 0, toClient, []⟩ = (.ok (), c') ∧
      (Server.serveOne noxtls serverEnv (turns + 5)).run ⟨setup.server, 0, toServer, []⟩ =
        (sessionRun noxtls serverEnv (turns + 5) turns (some command)).run s' ∧
      (Event.sessionStarted (some command), s'.self) ∈ (Server.served noxtls serverEnv setup toServer (turns + 5)).trace ∧
      s'.self.authenticatedUser = user ∧ Matched c'.self s'.self ∧ EachCaughtUp toServer toClient c' s' := by
  obtain ⟨named, shortUser, plainUser, shortHost, shortCommand, plainCommand, isKey, allows, memory⟩ := welcome
  obtain ⟨isWireC, isWireS⟩ := linked
  dsimp only at isWireC isWireS
  -- the handshake
  have startC : (runCommand noxtls clientEnv user host privateKey command).run ⟨Client.init port, 0, toClient, []⟩ =
      (Client.connect noxtls clientEnv >>= fun _ => Client.setEd25519PrivateKey noxtls privateKey >>= fun _ =>
        Client.authenticate noxtls clientEnv >>= fun _ => Client.openSession noxtls clientEnv >>= fun _ =>
          Client.exec noxtls clientEnv command).run ⟨target user host (Client.init port), 0, toClient, []⟩ := by
    rw [runCommand, setTarget_bind_run shortUser shortHost]
  have startS : ((Server.serveOne noxtls serverEnv (turns + 5)).run ⟨setup.server, 0, toServer, []⟩) =
      (failAs .failed (Server.handshakeToEncrypted noxtls serverEnv) >>= fun _ =>
        Server.serveLoop noxtls serverEnv (turns + 5) (turns + 5) 0).run
          ⟨Server.setHandshakeDeadline (wrap64 (serverEnv.clock 0 + 30000)) setup.server, 1, toServer, []⟩ := rfl
  rw [startC] at isWireC ⊢
  rw [startS] at isWireS ⊢
  rw [Server.served, startS] at unspent ⊢
  have inTime : InTime ((Server.handshakeToEncrypted noxtls serverEnv).run
      ⟨Server.setHandshakeDeadline (wrap64 (serverEnv.clock 0 + 30000)) setup.server, 1, toServer, []⟩).2.trace := by
    have whole := not_not.1 (not_or.1 unspent).1
    rw [Server.failAs_bind_snd] at whole
    exact fun e recorded => whole e (Server.mem_trace_bind (fun _ => Server.abiding_serveLoop _ _ _) recorded)
  obtain ⟨c₁, s₁, ranC, ranS, keyed, level₁⟩ := @new_agree noxtls clientEnv serverEnv _
    (fun _ => Server.serveLoop noxtls serverEnv (turns + 5) (turns + 5) 0) sha ctr agreement scheme clientLive serverLive alike
    (ascii "SSH-2.0-noxssh_0.1") setup.serverIdent clientNames names
    ⟨target user host (Client.init port), 0, toClient, []⟩ ⟨_, 1, toServer, []⟩ ⟨rfl, rfl, rfl, rfl⟩
    ⟨rfl, ready, hostKey, rfl, rfl, rfl⟩ rfl rfl
    (fun _ => Abiding.bind (Client.abiding_setEd25519PrivateKey privateKey) fun _ => Client.abiding_authenticate.bind fun _ =>
      Client.abiding_openSession.bind fun _ => Client.abiding_exec command)
    (fun _ => Server.abiding_serveLoop _ _ _) isWireC (by rw [isWireS, Server.failAs_bind_snd]) inTime
  have ranS' : (failAs .failed (Server.handshakeToEncrypted noxtls serverEnv)).run
      ⟨Server.setHandshakeDeadline (wrap64 (serverEnv.clock 0 + 30000)) setup.server, 1, toServer, []⟩ = (.ok (), s₁) := by
    rw [failAs_run, ranS]
  rw [bind_ok ranC, setKey_bind_run isKey] at isWireC ⊢
  rw [bind_ok ranS'] at isWireS unspent ⊢
  -- the client has its key
  obtain ⟨agree, flags, -, -, sessionId, credentials, standing⟩ := keyed
  have canAdmit : CanAdmit s₁.self := by
    simp only [Protocol.standing, Prod.mk.injEq] at standing
    obtain ⟨callback', -, attempts, first, -, -⟩ := standing
    exact ⟨first, lt_of_eq_of_lt attempts (by show 0 < 6; decide), callback'.trans callback⟩
  have level₂ : EachCaughtUp toServer toClient
      { c₁ with self := Client.setPublicKey key (Client.setPrivateKey privateKey c₁.self) } s₁ :=
    ⟨⟨level₁.toServer.step, level₁.toServer.stream⟩, ⟨level₁.toClient.step, level₁.toClient.stream⟩⟩
  obtain ⟨c₂, s₂, sameC, sameS, admits, same, matched, level₃⟩ := @session_agrees noxtls clientEnv serverEnv toServer toClient
    { c₁ with self := Client.setPublicKey key (Client.setPrivateKey privateKey c₁.self) } s₁ sha ctr scheme clientLive
    serverLive user key command named shortUser plainUser shortCommand plainCommand allows memory (turns + 5) turns
    ⟨flags, congrArg (fun v => v.2.2.2.2.2.1) credentials, congrArg Prod.fst credentials, rfl, ⟨rfl, isKey⟩, sessionId⟩
    canAdmit ⟨agree.sessionId, agree.sessionIdLen⟩ (congrArg (fun v => v.2.2.2.2.2.2) credentials)
    (congrArg (fun v => v.2.2.2.2.1) standing) level₂ isWireC isWireS unspent
  rw [sameC, sameS]
  have descriptor' : s₂.self.transportFd = setup.transportFd := same.trans (congrArg (fun v => v.2.2.2.2.2.2) standing)
  exact ⟨c₂, s₂, rfl, rfl, Server.session_starts (turns + 5) turns (some command) (by rw [descriptor']; exact descriptor)
    (by rw [admits]; exact named), admits, matched, level₃⟩

/-! ## An errand -/

namespace Errand

theorem ctrMode : CtrMode Sample.plain := by
  refine ⟨fun _ _ _ => 0, ?_⟩
  intro key data counter _
  simp only [Sample.plain, ctrStream, UInt8.xor_zero]
  exact congrArg some (List.ext_getElem (by simp) (by simp)).symm

theorem keyAgreement : KeyAgreement Sample.plain := ⟨Sample.keyAgreement.generates, Sample.keyAgreement.publishes,
  Sample.keyAgreement.secret⟩

theorem signatureScheme : SignatureScheme Sample.plain := ⟨Sample.signatureScheme.publishes, Sample.signatureScheme.signs⟩

/-- A server of one connection, with the sample host key. -/
def setup : Server.Setup := ⟨3, Pair.serverIdent, zeros 32, zeros 32, true, true, 1073741824⟩

def clientIdent : List UInt8 := ascii "SSH-2.0-noxssh_0.1"

def user : List UInt8 := ascii "b"

def command : List UInt8 := ascii "ls"

def exchangeHash : List UInt8 :=
  Sample.digest (exchangeInput clientIdent Pair.serverIdent Pair.kexinitC Pair.kexinitS (ed25519Blob (zeros 32)) Pair.pub
    (zeros 32) Pair.pub)

def keys : TransportKeys := rfcKeys Sample.plain (encodedSecret false Pair.pub) exchangeHash exchangeHash

/-- What the client says. -/
def toServer : List UInt8 :=
  txIdent clientIdent ++
    sealAll Sample.plain (Client.sendSide.lane (Client.init 22)) [Pair.kexinitC, initPayload Pair.pub, [21]] ++
    sealAll Sample.plain ⟨true, keys.c2sKey, keys.c2sMacKey, keys.c2sIv, 3⟩
      [serviceAsked "ssh-userauth",
        Server.loginPayload user (zeros 32) (Sample.sign (zeros 32) (signedBytes exchangeHash user (zeros 32))),
        serviceAsked "ssh-connection", sessionOpen, execRequest 0 command]

/-- What the server says. -/
def toClient : List UInt8 :=
  txIdent Pair.serverIdent ++
    sealAll Sample.plain (Server.sendSide.lane setup.server)
      [Pair.kexinitS, replyPayload (zeros 32) (zeros 32) (Sample.sign (zeros 32) exchangeHash), [21]] ++
    sealAll Sample.plain ⟨true, keys.s2cKey, keys.s2cMacKey, keys.s2cIv, 3⟩
      [serviceGranted "ssh-userauth", [52], serviceGranted "ssh-connection", openConfirmation, channelSuccess 0]

theorem client_runs : toServer = wireOf ((runCommand Sample.plain Pair.swift user (ascii "h") (zeros 32) command).run
    ⟨Client.init 22, 0, toClient, []⟩).2.trace := by
  decide +kernel

theorem server_runs : toClient = wireOf (Server.served Sample.plain Pair.swift setup toServer 5).trace ∧
    (∀ e ∈ (Server.served Sample.plain Pair.swift setup toServer 5).trace, e.1 ≠ .expired) ∧
      Server.rekeyDue (Server.served Sample.plain Pair.swift setup toServer 5).self = false := by
  decide +kernel

end Errand

/-- The client and the server of a short errand. -/
theorem remote_command_runs_errand : ∃ c' s',
    (runCommand Sample.plain Pair.swift Errand.user (ascii "h") (zeros 32) Errand.command).run
        ⟨Client.init 22, 0, Errand.toClient, []⟩ = (.ok (), c') ∧
    (Server.serveOne Sample.plain Pair.swift 5).run ⟨Errand.setup.server, 0, Errand.toServer, []⟩ =
      (sessionRun Sample.plain Pair.swift 5 0 (some Errand.command)).run s' ∧
    (Event.sessionStarted (some Errand.command), s'.self) ∈
      (Server.served Sample.plain Pair.swift Errand.setup Errand.toServer 5).trace ∧
    s'.self.authenticatedUser = Errand.user ∧ Matched c'.self s'.self ∧ EachCaughtUp Errand.toServer Errand.toClient c' s' := by
  have live : Live Pair.swift := ⟨by simp [Pair.swift, calm], by simp [Pair.swift], by simp [Pair.swift, calm]⟩
  have names : Names Errand.setup.serverIdent := ⟨by decide +kernel, by decide +kernel, by decide +kernel⟩
  have isC := Errand.client_runs
  obtain ⟨isS, inTime, due⟩ := Errand.server_runs
  have unspent : ¬ Server.Spent (Server.served Sample.plain Pair.swift Errand.setup Errand.toServer (0 + 5)) := by
    rw [Nat.zero_add]
    rintro (late | late)
    · exact late inTime
    · exact Bool.noConfusion (due.symm.trans late)
  have welcome : Welcome Sample.plain Pair.swift Errand.user (ascii "h") (zeros 32) (zeros 32) Errand.command :=
    ⟨by decide, by decide, by decide, by decide, by decide, by decide, rfl, fun _ => rfl, fun _ => rfl⟩
  rw [Server.served, ← Nat.zero_add 5] at isS
  have runs := remote_command_runs Sample.plain rfl Errand.ctrMode Errand.keyAgreement Errand.signatureScheme Pair.swift
    Pair.swift live live rfl 22 0 Errand.user (ascii "h") (zeros 32) (zeros 32) Errand.command Errand.toServer Errand.toClient
    welcome Errand.setup names rfl rfl rfl (by decide) ⟨isC, isS⟩ unspent
  rwa [Nat.zero_add] at runs

end NoxSsh.Protocol
