/-
# Server.Admission — nothing opens without a login

A run of `serve_one` is in one of two situations (`Admitted`).  Either nobody was
ever logged in, and nothing was opened; or the trace splits at the one request that
logged its user in, and everything that opened came after it.

Every turn of the dispatch loop keeps this.  Most handlers are `Within` the gate.
SERVICE_REQUEST sets one flag.  USERAUTH_REQUEST counts, and may log in; by
`login_of_reads` it does so for one payload only.
-/
import NoxSsh.Server.Gate
import NoxSsh.Server.Login

namespace NoxSsh.Server

open Theory Proc Wire Transport

set_option autoImplicit false

/-! ## Before and after the login -/

/-- A channel opened, or a session started. -/
def Opening (e : Event) : Prop :=
  (∃ payload, e = .sending payload ∧ payload.head? = some 91) ∨ ∃ command, e = .sessionStarted command

/-- Nobody is logged in. -/
def Out (s : Server) : Prop :=
  s.authenticated = false ∧ s.authenticatedUser = [] ∧ s.connectionServiceReady = false

/-- `user` is logged in. -/
def In (user : List UInt8) (s : Server) : Prop :=
  s.authenticated = true ∧ s.authenticatedUser = user ∧ s.connectionServiceReady = true

/-- Nobody was ever logged in, and nothing opened. -/
def Outside (trace : List (Event × Server)) (s : Server) : Prop :=
  Out s ∧ ∀ e ∈ trace, Out e.2 ∧ ¬ Opening e.1

/-- SERVICE_ACCEPT for `ssh-userauth`. -/
def userauthAccept : List UInt8 := [6] ++ sshString (ascii "ssh-userauth")

/-- The trace splits at a login: among the first six requests, after an accepted
service request, a payload that is exactly the encoding of user, key and signature;
the callback allowed the key, and the signature verified over the session identifier
and the request.  Nobody was logged in and nothing opened up to there, and the user
is the one logged in ever since. -/
def LoggedIn (noxtls : Noxtls) (trace : List (Event × Server)) (s : Server) : Prop :=
  ∃ past received asked rest user key sig,
    trace = past ++ (.received (loginPayload user key sig), received) ::
      (.keyAllowed user key true, asked) :: rest ∧
    user.length ≤ 64 ∧ key.length = 32 ∧ sig.length = 64 ∧
    requests past < 6 ∧ userauthAccept ∈ pick Event.sent? past ∧
    noxtls.ed25519Verify key (sshString asked.sessionId ++ loginRequest user key) sig = true ∧
    Outside past received ∧ Out asked ∧ (∀ e ∈ rest, In user e.2) ∧ In user s

def Admitted (noxtls : Noxtls) (h : Host Server) : Prop :=
  Outside h.trace h.self ∨ LoggedIn noxtls h.trace h.self

theorem out_of_flags {s s' : Server} (same : flags s' = flags s) (out : Out s) : Out s' := by
  simp only [flags, Flags.mk.injEq] at same
  obtain ⟨authenticated, user, ready, -⟩ := same
  rwa [Out, authenticated, user, ready]

theorem in_of_flags {s s' : Server} {user : List UInt8} (same : flags s' = flags s) (within : In user s) :
    In user s' := by
  simp only [flags, Flags.mk.injEq] at same
  obtain ⟨authenticated, name, ready, -⟩ := same
  rwa [In, authenticated, name, ready]

/-- Outside the gate nothing may open. -/
theorem not_opening {s : Server} {e : Event} (out : Out s) (permitted : Permitted (gate s) e) : ¬ Opening e := by
  obtain ⟨authenticated, user, -⟩ := out
  rintro (⟨payload, rfl, number⟩ | ⟨command, rfl⟩)
  · have may : s.authenticated = true := permitted number
    rw [authenticated] at may
    exact absurd may (by decide)
  · exact permitted user

theorem Outside.grow {trace new : List (Event × Server)} {s s' : Server} (outside : Outside trace s)
    (out : Out s') (kept : ∀ e ∈ new, Out e.2 ∧ ¬ Opening e.1) : Outside (trace ++ new) s' := by
  refine ⟨out, fun e mem => ?_⟩
  rcases List.mem_append.1 mem with mem | mem
  · exact outside.2 e mem
  · exact kept e mem

theorem LoggedIn.grow {noxtls : Noxtls} {trace new : List (Event × Server)} {s s' : Server}
    (loggedIn : LoggedIn noxtls trace s) (still : ∀ user, In user s → In user s')
    (kept : ∀ e ∈ new, ∀ user, In user s → In user e.2) : LoggedIn noxtls (trace ++ new) s' := by
  obtain ⟨past, received, asked, rest, user, key, sig, is, few, keyLen, sigLen, early, accepted, verifies,
    before, out, after, now⟩ := loggedIn
  refine ⟨past, received, asked, rest ++ new, user, key, sig, ?_, few, keyLen, sigLen, early, accepted,
    verifies, before, out, ?_, still user now⟩
  · rw [is]
    simp
  · intro e mem
    rcases List.mem_append.1 mem with mem | mem
    · exact after e mem
    · exact kept e mem user now

/-- Steps within the gate leave a run where it is. -/
theorem Admitted.within {noxtls : Noxtls} {h h' : Host Server} (admitted : Admitted noxtls h)
    (within : Within Permitted gate h h') : Admitted noxtls h' := by
  obtain ⟨same, new, grown, kept⟩ := within
  have flagsSame : flags h'.self = flags h.self := congrArg Prod.fst same
  rcases admitted with outside | loggedIn
  · left
    rw [grown]
    refine outside.grow (out_of_flags flagsSame outside.1) fun e mem => ?_
    obtain ⟨permitted, still⟩ := kept e mem
    exact ⟨out_of_flags (congrArg Prod.fst still) outside.1, not_opening outside.1 permitted⟩
  · right
    rw [grown]
    refine loggedIn.grow (fun _ => in_of_flags flagsSame) fun e mem _ => ?_
    exact in_of_flags (congrArg Prod.fst (kept e mem).2)

theorem Admitted.change {noxtls : Noxtls} {h : Host Server} {s' : Server} (admitted : Admitted noxtls h)
    (out : Out h.self → Out s') (still : ∀ user, In user h.self → In user s') :
    Admitted noxtls { h with self := s' } := by
  rcases admitted with outside | loggedIn
  · exact .inl ⟨out outside.1, outside.2⟩
  · right
    have grown : LoggedIn noxtls (h.trace ++ []) s' := loggedIn.grow still (by simp)
    simpa using grown

/-- A context with nobody logged in belongs to a run without a login. -/
theorem Admitted.outside {noxtls : Noxtls} {h : Host Server} (admitted : Admitted noxtls h)
    (out : h.self.authenticated = false) : Outside h.trace h.self := by
  rcases admitted with outside | ⟨_, _, _, _, _, _, _, -, -, -, -, -, -, -, -, -, -, now, -⟩
  · exact outside
  · rw [out] at now
    exact absurd now (by decide)

/-! ## The top of the loop -/

/-- What a handler needs of the run before it, whatever service was accepted. -/
structure Seated (noxtls : Noxtls) (h : Host Server) : Prop where
  admitted : Admitted noxtls h
  identifier : h.self.sessionId.length = 32 ∧ h.self.sessionIdLen = 32
  count : h.self.authenticated = false → requests h.trace = h.self.authAttempts

/-- What holds at the top of the loop. -/
structure Standing (noxtls : Noxtls) (h : Host Server) : Prop extends Seated noxtls h where
  ready : h.self.userauthServiceReady = true → userauthAccept ∈ pick Event.sent? h.trace

/-- Steps within the gate keep everything; before the login they receive nothing. -/
theorem Seated.within {noxtls : Noxtls} {h h' : Host Server} (seated : Seated noxtls h)
    (within : Within Permitted gate h h') : Seated noxtls h' := by
  have admitted := seated.admitted.within within
  obtain ⟨same, new, grown, kept⟩ := within
  have sessionSame : session h'.self = session h.self := congrArg Prod.snd same
  simp only [session, Prod.mk.injEq] at sessionSame
  have fields : flags h'.self = flags h.self := congrArg Prod.fst same
  simp only [flags, Flags.mk.injEq] at fields
  obtain ⟨authenticated, -, -, -, attempts⟩ := fields
  refine ⟨admitted, ?_, ?_⟩
  · rw [sessionSame.1, sessionSame.2]
    exact seated.identifier
  · intro out
    have out' : h.self.authenticated = false := authenticated.symm.trans out
    have none : pick Event.received? new = [] := by
      refine pick_eq_nil fun e mem => ?_
      obtain ⟨permitted, -⟩ := kept e mem
      cases is : e.1 with
      | received payload =>
          rw [is] at permitted
          exact absurd (seated.admitted.outside out').1.2.1 permitted
      | _ => rfl
    rw [grown, requests_append, attempts, ← seated.count out']
    simp [requests, none]

theorem Standing.within {noxtls : Noxtls} {h h' : Host Server} (standing : Standing noxtls h)
    (within : Within Permitted gate h h') : Standing noxtls h' := by
  refine ⟨standing.toSeated.within within, fun ready => ?_⟩
  obtain ⟨same, new, grown, -⟩ := within
  have still : h'.self.userauthServiceReady = h.self.userauthServiceReady :=
    congrArg (fun g => g.1.userauthServiceReady) same
  rw [grown, pick_append]
  exact List.mem_append_left _ (standing.ready (still.symm.trans ready))

/-- A request was received and counted. -/
def counted (payload : List UInt8) (t : Nat) (h : Host Server) : Host Server :=
  { h with self := countAttempt h.self, tick := t, trace := h.trace ++ [(.received payload, h.self)] }

theorem Admitted.receive {noxtls : Noxtls} {h : Host Server} (admitted : Admitted noxtls h)
    (payload : List UInt8) (t : Nat) : Admitted noxtls (receive payload t h) := by
  rcases admitted with outside | loggedIn
  · left
    refine outside.grow outside.1 fun e mem => ?_
    rw [List.mem_singleton] at mem
    subst mem
    refine ⟨outside.1, ?_⟩
    rintro (⟨payload, is, -⟩ | ⟨command, is⟩) <;> cases is
  · right
    refine loggedIn.grow (fun _ => id) fun e mem _ now => ?_
    rw [List.mem_singleton.1 mem]
    exact now

theorem requests_receive (payload : List UInt8) (t : Nat) (h : Host Server) :
    requests (receive payload t h).trace = requests h.trace + if payload.head? = some 50 then 1 else 0 := by
  rw [receive, requests_append]
  simp [requests, Event.received?]

theorem ready_receive {h : Host Server} (accepted : userauthAccept ∈ pick Event.sent? h.trace)
    (payload : List UInt8) (t : Nat) : userauthAccept ∈ pick Event.sent? (receive payload t h).trace := by
  rw [receive, pick_append]
  exact List.mem_append_left _ accepted

/-- Anything but a request keeps everything. -/
theorem Standing.receive {noxtls : Noxtls} {h : Host Server} (standing : Standing noxtls h)
    {payload : List UInt8} (other : payload.head? ≠ some 50) (t : Nat) :
    Standing noxtls (receive payload t h) where
  admitted := standing.admitted.receive payload t
  identifier := standing.identifier
  ready := fun ready => ready_receive (standing.ready ready) payload t
  count := fun out => by
    rw [requests_receive, if_neg other]
    exact standing.count out

/-! ## USERAUTH_REQUEST -/

/-- The handler logged `user` in: the payload was the encoding, the callback was asked
and said yes, the signature verified, and the flags were set. -/
def LogsIn (noxtls : Noxtls) (p : List UInt8) (h h' : Host Server) : Prop :=
  ∃ user key sig t, p = loginPayload user key sig ∧ 0 < user.length ∧ user.length ≤ 64 ∧
    key.length = 32 ∧ sig.length = 64 ∧
    noxtls.ed25519Verify key (be32 h.self.sessionIdLen ++ h.self.sessionId.take h.self.sessionIdLen ++
      loginRequest user key) sig = true ∧
    Within Permitted gate
      { h with
        self := setAuthenticated user h.self
        tick := t
        trace := h.trace ++ [(.keyAllowed user key true, h.self)] } h'

section Userauth

variable {noxtls : Noxtls} {env : Env}

theorem within_sendUserauthFailure (partialSuccess : Bool) :
    Always (Within Permitted gate) (sendUserauthFailure noxtls env partialSuccess) :=
  always_within fun g => always_sendUserauthFailure (chatter_permitted g).toBackground
    steady_gate.toPassive ((chatter_permitted g).speaks 51 (by decide)) _

theorem within_of_log {h h' : Host Server} {e : Event} {t : Nat} (permitted : Permitted (gate h.self) e)
    (within : Within Permitted gate { h with tick := t, trace := h.trace ++ [(e, h.self)] } h') :
    Within Permitted gate h h' := by
  have first : Within Permitted gate h { h with tick := t, trace := h.trace ++ [(e, h.self)] } :=
    ⟨rfl, [(e, h.self)], rfl, by simp [permitted]⟩
  exact (within_order Permitted gate).trans first within

/-- Every way a request can go: nothing changes, or it is the login. -/
theorem handleUserauthRequest_cases {p : List UInt8} {rest : Mem} (short : p.length ≤ 35000)
    (h : Host Server) :
    Within Permitted gate h ((handleUserauthRequest noxtls env p (memOf p rest)).run h).2 ∨
      LogsIn noxtls p h ((handleUserauthRequest noxtls env p (memOf p rest)).run h).2 := by
  have within := within_order Permitted gate
  have refused : ∀ h : Host Server,
      Within Permitted gate h ((sendUserauthFailure noxtls env false).run h).2 :=
    within_sendUserauthFailure false
  rw [handleUserauthRequest]
  by_cases number : 2 ≤ p.length ∧ p.head? = some 50
  swap
  · rw [ensure_bind_neg number]
    exact .inl (within.refl h)
  rw [ensure_bind_pos number]
  cases readUser : payloadReadStringView (memOf p rest) p.length 1 with
  | none => exact .inl (within.refl h)
  | some got =>
  obtain ⟨user, off₁⟩ := got
  rw [lift_some, pure_bind_run]
  dsimp only
  cases readService : payloadReadStringView (memOf p rest) p.length off₁ with
  | none => exact .inl (within.refl h)
  | some got =>
  obtain ⟨service, off₂⟩ := got
  rw [lift_some, pure_bind_run]
  dsimp only
  cases readMethod : payloadReadStringView (memOf p rest) p.length off₂ with
  | none => exact .inl (within.refl h)
  | some got =>
  obtain ⟨method, off₃⟩ := got
  rw [lift_some, pure_bind_run]
  dsimp only
  by_cases isService : service.bytes (memOf p rest) = ascii "ssh-connection"
  swap
  · rw [if_pos isService]
    exact .inl (refused h)
  rw [if_neg (not_not.2 isService)]
  by_cases isMethod : method.bytes (memOf p rest) = ascii "publickey"
  swap
  · rw [if_neg isMethod]
    exact .inl (refused h)
  rw [if_pos isMethod, publickeyAuth, self_bind_run]
  cases read : readPublickey h.self.publickeyAllowedCb (memOf p rest) p.length user off₃ with
  | none => exact .inl (refused h)
  | some req =>
  dsimp only
  rw [ask_bind_run, log_bind_run]
  dsimp only
  by_cases allowed : env.publickeyAllowed h.tick req.user req.key = true
  swap
  · rw [if_neg allowed]
    exact .inl (within_of_log (e := .keyAllowed req.user req.key _) trivial (refused _))
  rw [if_pos allowed, allowed, checkSignature]
  by_cases signed : req.signed = true
  swap
  · rw [if_neg signed]
    refine .inl (within_of_log (e := .keyAllowed req.user req.key true) (t := h.tick + 1) trivial ?_)
    refine always_ite (R := Within Permitted gate) (fun h => refused h) ?_ _
    exact always_within fun g => always_sendUserauthPkOk (chatter_permitted g).toBackground
      steady_gate.toPassive ((chatter_permitted g).speaks 60 (by decide)) _ _
  rw [if_pos signed]
  cases readSig : readSignature (memOf p rest) p.length req.reqLen with
  | none => exact .inl (within_of_log (e := .keyAllowed req.user req.key true) trivial (refused _))
  | some sig =>
  dsimp only
  rw [ask_bind_run]
  by_cases memory : env.malloc (h.tick + 1) = true
  swap
  · rw [ensure_bind_neg memory]
    exact .inl (within_of_log (e := .keyAllowed req.user req.key true) trivial (within.refl _))
  rw [ensure_bind_pos memory, self_bind_run]
  dsimp only
  obtain ⟨isPayload, isRequest⟩ := login_of_reads short number.2 readUser readService readMethod isService
    isMethod read signed readSig
  by_cases verifies : noxtls.ed25519Verify req.key (toSign h.self (memOf p rest) req.reqLen) sig = true
  swap
  · rw [if_neg verifies]
    exact .inl (within_of_log (e := .keyAllowed req.user req.key true) trivial (refused _))
  rw [if_pos verifies, modify_bind_run]
  rw [toSign, isRequest] at verifies
  obtain ⟨some, few, -, isUser, keyLen, -⟩ := readPublickey_inv short read
  obtain ⟨sigLen, -⟩ := readSignature_inv (by have := (readPublickey_inv short read).2.2.2.2.2.2.2.1; omega) readSig
  have userLen : req.user.length = user.len := by rw [isUser, View.bytes, length_slice]
  refine .inr ⟨req.user, req.key, sig, h.tick + 1 + 1, isPayload, by omega, by omega, keyLen, sigLen,
    verifies, ?_⟩
  have sends : Always (Within Permitted gate) (sendUserauthSuccess noxtls env) := always_within fun g =>
    always_sendNumber (chatter_permitted g).toBackground steady_gate.toPassive
      ((chatter_permitted g).speaks 52 (by decide)) [52] rfl
  exact sends _

end Userauth

/-! ## Turns -/

/-- A turn that ends here keeps the run admitted, and standing if there is another. -/
def Stays (noxtls : Noxtls) (r : Outcome NetnoxReturn Next × Host Server) : Prop :=
  Admitted noxtls r.2 ∧ ∀ closeDeadlineMs, r.1 = .ok (.again closeDeadlineMs) → Standing noxtls r.2

theorem Standing.stays {noxtls : Noxtls} {r : Outcome NetnoxReturn Next × Host Server}
    (standing : Standing noxtls r.2) : Stays noxtls r :=
  ⟨standing.admitted, fun _ _ => standing⟩

/-- A handler that returned goes on. -/
theorem stays_goOn {noxtls : Noxtls} {m : Prog Server Unit} {h : Host Server} (closeDeadlineMs : Nat)
    (admitted : Admitted noxtls (m.run h).2) (standing : (m.run h).1 = .ok () → Standing noxtls (m.run h).2) :
    Stays noxtls ((goOn closeDeadlineMs m).run h) := by
  rw [goOn, bind_run]
  rcases ran : m.run h with ⟨o, h'⟩
  rw [ran] at admitted standing
  cases o with
  | ok _ => exact (standing rfl).stays
  | err e => exact ⟨admitted, fun _ again => by cases again⟩
  | stuck => exact ⟨admitted, fun _ again => by cases again⟩

section Turns

variable {noxtls : Noxtls} {env : Env}

/-- A change of the context that neither logs in nor touches the identifier and the count. -/
theorem Seated.change {h : Host Server} {s' : Server} (seated : Seated noxtls h)
    (out : Out h.self → Out s') (still : ∀ user, In user h.self → In user s')
    (same : session s' = session h.self) (authenticated : s'.authenticated = h.self.authenticated)
    (attempts : s'.authAttempts = h.self.authAttempts) : Seated noxtls { h with self := s' } := by
  simp only [session, Prod.mk.injEq] at same
  refine ⟨seated.admitted.change out still, ?_, ?_⟩
  · rw [same.1, same.2]
    exact seated.identifier
  · rw [attempts, authenticated]
    exact seated.count

theorem within_sendServiceAccept (service : String) :
    Always (Within Permitted gate) (failAs .failed (sendServiceAccept noxtls env service)) :=
  always_failAs _ (always_within fun g => always_sendServiceAccept (chatter_permitted g).toBackground
    steady_gate.toPassive ((chatter_permitted g).speaks 6 (by decide)) service)

theorem sendServiceAccept_sent {service : String} {h h' : Host Server}
    (built : payloadAppendU8 256 6 [] >>= payloadAppendString 256 (ascii service) =
      some ([6] ++ sshString (ascii service)))
    (ran : (sendServiceAccept noxtls env service).run h = (.ok (), h')) :
    [6] ++ sshString (ascii service) ∈ pick Event.sent? h'.trace := by
  rw [sendServiceAccept, sendBuilt, built, lift_some, pure_bind_run] at ran
  exact sendPacket_sent ran

/-- SERVICE_REQUEST: the flag it sets is one it answered for. -/
theorem stays_serviceRequest {h : Host Server} (standing : Standing noxtls h) (closeDeadlineMs : Nat)
    (payload : List UInt8) (m : Mem) :
    Stays noxtls ((goOn closeDeadlineMs (serviceRequest noxtls env payload m)).run h) := by
  cases read : payloadReadStringView m payload.length 1 with
  | none =>
      refine stays_goOn _ ?_ ?_ <;> rw [serviceRequest, read, lift_none, fail_bind_run]
      · exact standing.admitted
      · exact fun ok => by cases ok
  | some got =>
  obtain ⟨svc, off⟩ := got
  by_cases userauth : svc.bytes m = ascii "ssh-userauth"
  · have before : Seated noxtls { h with self := setUserauthReady h.self } :=
      standing.toSeated.change id (fun _ => id) rfl rfl rfl
    refine stays_goOn _ ?_ ?_ <;>
      rw [serviceRequest, read, lift_some, pure_bind_run, self_bind_run, if_pos userauth, modify_bind_run]
    · exact (before.within (within_sendServiceAccept _ _)).admitted
    · intro ok
      refine ⟨before.within (within_sendServiceAccept _ _), fun _ => ?_⟩
      exact sendServiceAccept_sent (by decide) (failAs_inv (Prod.ext ok rfl))
  by_cases connection : h.self.authenticated = true ∧ svc.bytes m = ascii "ssh-connection"
  · have before : Standing noxtls { h with self := setConnectionReady h.self } := by
      refine ⟨standing.toSeated.change (fun out => ?_) (fun _ now => ⟨now.1, now.2.1, rfl⟩) rfl rfl rfl,
        standing.ready⟩
      exact absurd (connection.1.symm.trans out.1) (by decide)
    refine stays_goOn _ ?_ ?_ <;>
      rw [serviceRequest, read, lift_some, pure_bind_run, self_bind_run, if_neg userauth, if_pos connection,
        modify_bind_run]
    · exact (before.within (within_sendServiceAccept _ _)).admitted
    · exact fun _ => before.within (within_sendServiceAccept _ _)
  · refine stays_goOn _ ?_ ?_ <;>
      rw [serviceRequest, read, lift_some, pure_bind_run, self_bind_run, if_neg userauth, if_neg connection,
        fail_run]
    · exact standing.admitted
    · exact fun ok => by cases ok

/-- The login itself: the run splits here. -/
theorem LogsIn.standing {h h' : Host Server} {payload : List UInt8} {t : Nat} (standing : Standing noxtls h)
    (ready : h.self.userauthServiceReady = true) (out : h.self.authenticated = false)
    (few : h.self.authAttempts < 6)
    (logsIn : LogsIn noxtls payload (counted payload t h) h') : Standing noxtls h' := by
  obtain ⟨user, key, sig, t', rfl, some, short, keyLen, sigLen, verifies, within⟩ := logsIn
  have outside := standing.admitted.outside out
  refine Standing.within ?_ within
  refine ⟨⟨.inr ?_, standing.identifier, fun still => by cases still⟩, fun _ => ?_⟩
  · refine ⟨h.trace, h.self, countAttempt h.self, [], user, key, sig, by simp [counted], short, keyLen, sigLen,
      ?_, standing.ready ready, ?_, outside, outside.1, by simp, rfl, rfl, rfl⟩
    · rw [standing.count out]
      exact few
    · -- the whole identifier is what the source puts before the request
      have whole : be32 h.self.sessionIdLen ++ h.self.sessionId.take h.self.sessionIdLen =
          sshString h.self.sessionId := by
        rw [standing.identifier.2, sshString, standing.identifier.1,
          List.take_of_length_le (le_of_eq standing.identifier.1)]
      have signed : noxtls.ed25519Verify key (be32 h.self.sessionIdLen ++
          h.self.sessionId.take h.self.sessionIdLen ++ loginRequest user key) sig = true := verifies
      rwa [whole] at signed
  · rw [pick_append]
    exact List.mem_append_left _ (ready_receive (standing.ready ready) _ t)

/-- USERAUTH_REQUEST: refused, or counted and handled. -/
theorem stays_userauthRequest {h : Host Server} (standing : Standing noxtls h) (closeDeadlineMs t : Nat)
    {payload : List UInt8} {rest : Mem} (short : payload.length ≤ 35000) (number : payload.head? = some 50) :
    Stays noxtls ((goOn closeDeadlineMs (userauthRequest noxtls env payload (memOf payload rest))).run
      (receive payload t h)) := by
  have received := standing.admitted.receive payload t
  by_cases ready : (receive payload t h).self.userauthServiceReady = true
  swap
  · have ran : (userauthRequest noxtls env payload (memOf payload rest)).run (receive payload t h) =
        (.err .failed, receive payload t h) := by
      rw [userauthRequest, self_bind_run, ensure_bind_neg ready]
    refine stays_goOn _ ?_ ?_ <;> rw [ran]
    · exact received
    · exact fun ok => by cases ok
  by_cases out : (receive payload t h).self.authenticated = false
  swap
  · have ran : (userauthRequest noxtls env payload (memOf payload rest)).run (receive payload t h) =
        (.err .failed, receive payload t h) := by
      rw [userauthRequest, self_bind_run, ensure_bind_pos ready, ensure_bind_neg out]
    refine stays_goOn _ ?_ ?_ <;> rw [ran]
    · exact received
    · exact fun ok => by cases ok
  have before : Standing noxtls (counted payload t h) := by
    refine ⟨⟨received.change id (fun _ => id), standing.identifier, fun _ => ?_⟩,
      fun _ => ready_receive (standing.ready ready) payload t⟩
    have sum := requests_receive payload t h
    rw [if_pos number, standing.count out] at sum
    exact sum
  have ran : (userauthRequest noxtls env payload (memOf payload rest)).run (receive payload t h) =
      (ensure (h.self.authAttempts + 1 ≤ 6) .failed >>= fun _ =>
        failAs .failed (handleUserauthRequest noxtls env payload (memOf payload rest))).run
        (counted payload t h) := by
    rw [userauthRequest, self_bind_run, ensure_bind_pos ready, ensure_bind_pos out, modify_bind_run, self_bind_run]
    rfl
  by_cases few : h.self.authAttempts + 1 ≤ 6
  swap
  · refine stays_goOn _ ?_ ?_ <;> rw [ran, ensure_bind_neg few]
    · exact before.admitted
    · exact fun ok => by cases ok
  have handled : Standing noxtls ((handleUserauthRequest noxtls env payload (memOf payload rest)).run
      (counted payload t h)).2 := by
    rcases handleUserauthRequest_cases short (counted payload t h) with within | logsIn
    · exact before.within within
    · exact logsIn.standing standing ready out few
  refine stays_goOn _ ?_ ?_ <;> rw [ran, ensure_bind_pos few, failAs_state]
  · exact handled.admitted
  · exact fun _ => handled

/-- The `switch` keeps the top of the loop, on any packet. -/
theorem stays_dispatch {h : Host Server} (standing : Standing noxtls h) (turns closeDeadlineMs t : Nat)
    {payload : List UInt8} {rest : Mem} (short : payload.length ≤ 35000) :
    Stays noxtls ((dispatch noxtls env turns closeDeadlineMs payload (memOf payload rest)).run
      (receive payload t h)) := by
  by_cases userauth : payload.head? = some 50
  · rw [dispatch, userauth]
    exact stays_userauthRequest standing closeDeadlineMs t short userauth
  have received := standing.receive userauth t
  by_cases service : payload.head? = some 5
  · rw [dispatch, service]
    exact stays_serviceRequest received closeDeadlineMs payload _
  · exact (received.within (within_dispatch _ _ _ _ service userauth _)).stays

/-- One turn keeps the top of the loop. -/
theorem stays_serveTurn {h : Host Server} (standing : Standing noxtls h) (turns closeDeadlineMs : Nat) :
    Stays noxtls ((serveTurn noxtls env turns closeDeadlineMs).run h) := by
  rw [serveTurn, bind_run, attempt_run]
  rcases recvInto_cases noxtls env (chatter_permitted (gate h.self)).toBackground (fun _ => trivial) steady_gate.toPassive
    maxPacketLen h with ⟨payload, rest, h₁, t, ran, short, quiet⟩ | ⟨o, h₁, ran, failed, quiet⟩
  · have before : Standing noxtls h₁ := standing.within quiet
    rw [ran]
    dsimp only
    by_cases empty : payload = []
    · rw [if_pos empty]
      exact Standing.stays (before.receive (by simp [empty]) t)
    rw [if_neg empty, self_bind_run]
    by_cases due : rekeyDue h₁.self = false
    · rw [ensure_bind_pos due]
      exact stays_dispatch before turns closeDeadlineMs t short
    · rw [ensure_bind_neg due]
      exact ⟨before.admitted.receive payload t, fun _ again => by cases again⟩
  · have before : Standing noxtls h₁ := standing.within quiet
    rw [ran]
    cases o with
    | ok got => exact absurd rfl (failed got)
    | err e => exact before.stays
    | stuck => exact ⟨before.admitted, fun _ again => by cases again⟩

/-- The whole loop. -/
theorem admitted_serveLoop (sessionTurns turns closeDeadlineMs : Nat) (h : Host Server)
    (standing : Standing noxtls h) :
    Admitted noxtls ((serveLoop noxtls env sessionTurns turns closeDeadlineMs).run h).2 := by
  induction turns generalizing closeDeadlineMs h with
  | zero => exact standing.admitted
  | succ turns ih =>
      rw [serveLoop, log_bind_run, bind_run]
      have first : Within Permitted gate h
          { h with trace := h.trace ++ [(.serving closeDeadlineMs, h.self)] } :=
        ⟨rfl, [_], rfl, by simp [Permitted]⟩
      have waits : Always (Within Permitted gate) (packetReady env closeDeadlineMs) :=
        always_within fun g => always_packetReady closeDeadlineMs
      have before := (standing.within first).within (waits _)
      revert before
      rcases (packetReady env closeDeadlineMs).run
        { h with trace := h.trace ++ [(.serving closeDeadlineMs, h.self)] } with ⟨o, h₁⟩
      intro before
      cases o with
      | err e => exact before.admitted
      | stuck => exact before.admitted
      | ok wait =>
      cases wait with
      | retry => exact ih _ _ before
      | «over» => exact before.admitted
      | error => exact before.admitted
      | readable =>
          dsimp only
          rw [bind_run]
          have stays : Stays noxtls ((serveTurn noxtls env sessionTurns closeDeadlineMs).run h₁) :=
            stays_serveTurn before sessionTurns closeDeadlineMs
          revert stays
          rcases (serveTurn noxtls env sessionTurns closeDeadlineMs).run h₁ with ⟨o, h₂⟩
          rintro ⟨admitted, again⟩
          cases o with
          | err e => exact admitted
          | stuck => exact admitted
          | ok next =>
              cases next with
              | done => exact admitted
              | again closeDeadlineMs => exact ih _ _ (again _ rfl)

end Turns

/-! ## The run -/

theorem not_opening_sending {payload : List UInt8} {number : UInt8} (heads : payload.head? = some number)
    (other : number ≠ 91) : ¬ Opening (.sending payload) := by
  rintro (⟨payload', is, opens⟩ | ⟨command, is⟩)
  · cases is
    rw [heads, Option.some.injEq] at opens
    exact other opens
  · cases is

/-- What a handshake records opens nothing. -/
theorem kexChatter_outside : KexChatter fun e => ¬ Opening e := by
  have speaks : ∀ number : UInt8, number ≠ 91 → Speaks (fun e => ¬ Opening e) number :=
    fun number other payload heads => ⟨not_opening_sending heads other, by simp [Opening]⟩
  exact ⟨⟨⟨by simp [Opening], by simp [Opening], by simp [Opening]⟩, by simp [Opening], by simp [Opening]⟩,
    ⟨by simp [Opening], by simp [Opening]⟩, speaks 20 (by decide), speaks 21 (by decide), speaks 31 (by decide)⟩

/-- What opened, opened after the login of the user it opened for. -/
theorem Admitted.opening {noxtls : Noxtls} {h : Host Server} (admitted : Admitted noxtls h)
    {before after : List (Event × Server)} {e : Event} {s : Server}
    (is : h.trace = before ++ (e, s) :: after) (opening : Opening e) : LoggedIn noxtls before s := by
  rcases admitted with outside | loggedIn
  · exact absurd opening (outside.2 (e, s) (by simp [is])).2
  obtain ⟨past, received, asked, rest, user, key, sig, splits, few, keyLen, sigLen, early, accepted, verifies,
    closed, out, now, -⟩ := loggedIn
  -- the opening is neither in the past nor one of the two events of the login
  have later : ∃ rest', before = past ++ (.received (loginPayload user key sig), received) ::
      (.keyAllowed user key true, asked) :: rest' ∧ rest = rest' ++ (e, s) :: after := by
    rw [splits] at is
    rcases List.append_eq_append_iff.1 is with ⟨more, rfl, tail⟩ | ⟨more, rfl, tail⟩
    · rcases more with _ | ⟨first, _ | ⟨second, rest'⟩⟩
      · simp only [List.nil_append, List.cons.injEq, Prod.mk.injEq] at tail
        rw [← tail.1.1] at opening
        simp [Opening] at opening
      · simp only [List.cons_append, List.nil_append, List.cons.injEq, Prod.mk.injEq] at tail
        rw [← tail.2.1.1] at opening
        simp [Opening] at opening
      · simp only [List.cons_append, List.cons.injEq] at tail
        obtain ⟨rfl, rfl, rfl⟩ := tail
        exact ⟨rest', rfl, rfl⟩
    · rcases more with _ | ⟨first, more⟩
      · simp only [List.nil_append, List.cons.injEq, Prod.mk.injEq] at tail
        rw [tail.1.1] at opening
        simp [Opening] at opening
      · simp only [List.cons_append, List.cons.injEq] at tail
        exact absurd opening (closed.2 (e, s) (by simp [tail.1])).2
  obtain ⟨rest', rfl, rfl⟩ := later
  exact ⟨past, received, asked, rest', user, key, sig, rfl, few, keyLen, sigLen, early, accepted, verifies,
    closed, out, fun e mem => now e (by simp [mem]), now (e, s) (by simp)⟩

theorem admitted_served (noxtls : Noxtls) (env : Env) (setup : Setup) (inbox : List UInt8) (turns : Nat) :
    Admitted noxtls (served noxtls env setup inbox turns) := by
  rw [served, serveOne, ask_bind_run, modify_bind_run, bind_run]
  have start : Out (setHandshakeDeadline (wrap64 (env.clock 0 + 30000)) setup.server) := ⟨rfl, rfl, rfl⟩
  have quiet : Always (Quiet (fun e => ¬ Opening e) flags)
      (failAs .failed (handshakeToEncrypted noxtls env)) :=
    always_failAs _ (always_handshakeToEncrypted kexChatter_outside unkeyed_flags)
  have quiet := quiet ⟨setHandshakeDeadline (wrap64 (env.clock 0 + 30000)) setup.server, 1, inbox, []⟩
  dsimp only at quiet ⊢
  revert quiet
  rcases ran : (failAs .failed (handshakeToEncrypted noxtls env)).run
    ⟨setHandshakeDeadline (wrap64 (env.clock 0 + 30000)) setup.server, 1, inbox, []⟩ with ⟨o, h⟩
  rintro ⟨same, new, grown, kept⟩
  have outside : Outside h.trace h.self := by
    refine ⟨out_of_flags same start, fun e mem => ?_⟩
    obtain ⟨closed, still⟩ := kept e (by rwa [grown] at mem)
    exact ⟨out_of_flags still start, closed⟩
  cases o with
  | err e => exact .inl outside
  | stuck => exact .inl outside
  | ok _ =>
      obtain ⟨none, identifier⟩ := handshakeToEncrypted_ok (failAs_inv ran)
      simp only [flags, setHandshakeDeadline, Flags.mk.injEq] at same
      obtain ⟨-, -, -, unready, attempts⟩ := same
      refine admitted_serveLoop turns turns 0 h ⟨⟨.inl outside, identifier, fun _ => ?_⟩, fun ready => ?_⟩
      · rw [none, attempts]
        rfl
      · rw [unready] at ready
        cases ready

/-- **The gate holds.**  Whatever the client sends and the callback answers, however
long the run: a channel opens or a session starts only after the login of the user it
is for, and the flags of a login change at that request and at no other. -/
theorem nothing_opens_before_login (noxtls : Noxtls) (env : Env) (setup : Setup) (inbox : List UInt8)
    (turns : Nat) :
    Admitted noxtls (served noxtls env setup inbox turns) ∧
      ∀ before e s after, (served noxtls env setup inbox turns).trace = before ++ (e, s) :: after →
        Opening e → LoggedIn noxtls before s := by
  have admitted := admitted_served noxtls env setup inbox turns
  exact ⟨admitted, fun _ _ _ _ is opening => admitted.opening is opening⟩

end NoxSsh.Server
