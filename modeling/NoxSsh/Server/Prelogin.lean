/-
# Server.Prelogin — the connection protocol before the login

CHANNEL_OPEN and CHANNEL_REQUEST ask for a login or an open channel.  GLOBAL_REQUEST,
CHANNEL_DATA and CHANNEL_CLOSE ask for neither, and channel 0 is what the context
names before there is a channel: `reachesConnection` is which of these packets get
through.  A run that received none of them while nobody was logged in is shut until
the login (`prelogin_shut`).
-/
import NoxSsh.Server.Admission

namespace NoxSsh.Server

open Theory Proc Wire Transport

set_option autoImplicit false

/-! ## The front -/

/-- What the connection protocol keeps in the context. -/
def front (s : Server) : Bool × Nat × Nat × Bool × Nat :=
  (s.channelOpen, s.localWindowSize, s.remoteWindowSize, s.wantPty, s.localChannelId)

/-- Nothing of the connection protocol: no message from 80 on, no close deadline. -/
def Closed : Event → Prop
  | .sending payload => ∀ number, payload.head? = some number → number < 80
  | .serving closeDeadlineMs => closeDeadlineMs = 0
  | _ => True

/-- As long as nobody was logged in nothing happened at the front. -/
def Shut (h : Host Server) : Prop :=
  (∀ e ∈ h.trace, e.2.authenticated = false → Closed e.1 ∧ front e.2 = front init) ∧
    (h.self.authenticated = false → front h.self = front init)

/-- A packet that gets through to the connection protocol without a login: a global
request that wants a reply, data for channel 0, a close of channel 0. -/
def reachesConnection (payload : List UInt8) : Bool :=
  let m := memOf payload fun _ => 0
  match payload.head? with
  | some 80 => 6 ≤ payload.length && globalRequestWantsReply payload m = some true
  | some 94 =>
      match payloadReadU32 m payload.length 1 with
      | none => false
      | some (recipient, off) => recipient = 0 && (payloadReadStringView m payload.length off).isSome
  | some 97 => payload.length = 5 && (payloadReadU32 m payload.length 1).map Prod.fst = some 0
  | _ => false

/-- No packet got through while nobody was logged in. -/
def Polite (trace : List (Event × Server)) : Prop :=
  ∀ e ∈ trace, e.2.authenticated = false → ∀ payload ∈ e.1.received?, reachesConnection payload = false

instance (trace : List (Event × Server)) : Decidable (Polite trace) :=
  inferInstanceAs (Decidable (∀ e ∈ trace, e.2.authenticated = false → ∀ payload ∈ e.1.received?,
    reachesConnection payload = false))

theorem Polite.before {trace new : List (Event × Server)} (polite : Polite (trace ++ new)) : Polite trace :=
  fun e mem => polite e (List.mem_append_left _ mem)

/-! ## Steps that keep the front shut -/

/-- The trace only grew. -/
def Grows (h h' : Host Server) : Prop := ∃ new, h'.trace = h.trace ++ new

theorem grows_of_quiet {γ : Type} {ok : Event → Prop} {view : Server → γ} {h h' : Host Server}
    (quiet : Quiet ok view h h') : Grows h h' := by
  obtain ⟨-, new, grown, -⟩ := quiet
  exact ⟨new, grown⟩

theorem grows_refl (h : Host Server) : Grows h h := ⟨[], by simp⟩

theorem Grows.trans {h h₁ h₂ : Host Server} (first : Grows h h₁) (second : Grows h₁ h₂) : Grows h h₂ := by
  obtain ⟨new, grown⟩ := first
  obtain ⟨new', grown'⟩ := second
  exact ⟨new ++ new', by rw [grown', grown, List.append_assoc]⟩

theorem Polite.of_grows {h h' : Host Server} (polite : Polite h'.trace) (grows : Grows h h') :
    Polite h.trace := by
  obtain ⟨new, grown⟩ := grows
  rw [grown] at polite
  exact polite.before

/-- The trace only grew, and a shut front stayed shut. -/
def Shuts (h h' : Host Server) : Prop := Grows h h' ∧ (Shut h → Shut h')

theorem shuts_order : StepOrder Shuts where
  refl h := ⟨grows_refl h, id⟩
  trans := fun first second => ⟨first.1.trans second.1, fun shut => second.2 (first.2 shut)⟩

/-- The front and whether it matters. -/
def door (s : Server) : Bool × (Bool × Nat × Nat × Bool × Nat) := (s.authenticated, front s)

theorem unkeyed_door : Unkeyed door := by
  constructor <;> (try apply Passive.of_fields) <;> intros <;> rfl

theorem background_closed : Background Closed :=
  ⟨⟨fun _ => trivial, trivial, trivial⟩, fun _ _ => trivial, fun _ _ => trivial⟩

theorem speaks_closed {number : UInt8} (low : number < 80) : Speaks Closed number := by
  intro payload heads
  refine ⟨fun number' heads' => ?_, trivial⟩
  rw [heads, Option.some.injEq] at heads'
  rwa [← heads']

theorem shut_append {h h' : Host Server} {new : List (Event × Server)} (shut : Shut h)
    (grown : h'.trace = h.trace ++ new)
    (kept : ∀ e ∈ new, e.2.authenticated = false → Closed e.1 ∧ front e.2 = front init)
    (now : h'.self.authenticated = false → front h'.self = front init) : Shut h' := by
  refine ⟨fun e mem => ?_, now⟩
  rw [grown, List.mem_append] at mem
  rcases mem with mem | mem
  · exact shut.1 e mem
  · exact kept e mem

theorem shuts_of_quiet {h h' : Host Server} (quiet : Quiet Closed door h h') : Shuts h h' := by
  obtain ⟨same, new, grown, kept⟩ := quiet
  refine ⟨⟨new, grown⟩, fun shut => ?_⟩
  have carry : ∀ s, door s = door h.self → s.authenticated = false → front s = front init := by
    intro s is out
    simp only [door, Prod.mk.injEq] at is
    rw [is.2]
    exact shut.2 (is.1.symm.trans out)
  exact shut_append shut grown (fun e mem out => ⟨(kept e mem).1, carry _ (kept e mem).2 out⟩) (carry _ same)

theorem always_shuts {α : Type} {m : Prog Server α} (quiet : Always (Quiet Closed door) m) : Always Shuts m :=
  always_mono quiet fun _ _ => shuts_of_quiet

/-- Once somebody is logged in and stays so, nothing is asked of the front. -/
theorem shuts_of_login {h h' : Host Server} (login : h.self.authenticated = true)
    (kept : Quiet (fun _ => True) (fun s : Server => s.authenticated) h h') : Shuts h h' := by
  obtain ⟨same, new, grown, kept⟩ := kept
  refine ⟨⟨new, grown⟩, fun shut => shut_append shut grown (fun e mem out => ?_) fun out => ?_⟩
  · have still : e.2.authenticated = true := (kept e mem).2.trans login
    rw [out] at still
    cases still
  · have still : h'.self.authenticated = true := same.trans login
    rw [out] at still
    cases still

theorem authenticated_of_within {h h' : Host Server} (within : Within Permitted gate h h') :
    Quiet (fun _ => True) (fun s : Server => s.authenticated) h h' := by
  obtain ⟨same, new, grown, kept⟩ := within
  have carry : ∀ s, gate s = gate h.self → s.authenticated = h.self.authenticated :=
    fun s is => congrArg (fun g => g.1.authenticated) is
  exact ⟨carry _ same, new, grown, fun e mem => ⟨trivial, carry _ (kept e mem).2⟩⟩

/-! ## Packets that do not get through -/

theorem globalRequestWantsReply_memOf (p : List UInt8) (rest rest' : Mem) :
    globalRequestWantsReply p (memOf p rest) = globalRequestWantsReply p (memOf p rest') := by
  rw [globalRequestWantsReply, globalRequestWantsReply, payloadReadU32_memOf rest rest' (by decide)]
  cases read : payloadReadU32 (memOf p rest') p.length 1 with
  | none => rfl
  | some got =>
      obtain ⟨requestLen, off⟩ := got
      dsimp only
      split
      · rfl
      · rw [memOf_lt (by omega), memOf_lt (by omega)]

section Unheard

variable {noxtls : Noxtls} {env : Env} {payload : List UInt8} {rest : Mem}

theorem handleGlobalRequest_unheard (number : payload.head? = some 80)
    (unheard : reachesConnection payload = false) (h : Host Server) :
    ((handleGlobalRequest noxtls env payload (memOf payload rest)).run h).2 = h := by
  rw [handleGlobalRequest]
  by_cases long : 6 ≤ payload.length ∧ payload.head? = some 80
  swap
  · rw [ensure_bind_neg long]
  rw [ensure_bind_pos long, globalRequestWantsReply_memOf payload rest fun _ => 0]
  simp only [reachesConnection, number, long.1, decide_true, Bool.true_and, decide_eq_false_iff_not] at unheard
  cases wants : globalRequestWantsReply payload (memOf payload fun _ => 0) with
  | none => rfl
  | some wantReply =>
      cases wantReply with
      | false => rfl
      | true => exact absurd wants unheard

theorem channelData_unheard (number : payload.head? = some 94) (unheard : reachesConnection payload = false)
    (h : Host Server) (zero : h.self.localChannelId = 0) :
    ((channelData noxtls env payload (memOf payload rest)).run h).2 = h := by
  rw [channelData, self_bind_run, payloadReadU32_memOf rest (fun _ => 0) (by decide)]
  simp only [reachesConnection, number] at unheard
  cases read : payloadReadU32 (memOf payload fun _ => 0) payload.length 1 with
  | none => rfl
  | some got =>
      obtain ⟨recipient, off⟩ := got
      obtain ⟨rfl, -, -⟩ := payloadReadU32_some read (by decide)
      rw [read] at unheard
      dsimp only at unheard
      rw [lift_some, pure_bind_run]
      dsimp only
      by_cases other : recipient = 0
      · rw [zero, if_neg (by simp [other]), payloadReadStringView_memOf rest (fun _ => 0) (by decide)]
        simp only [other, decide_true, Bool.true_and, Option.isSome_eq_false_iff, Option.isNone_iff_eq_none]
          at unheard
        rw [unheard]
        rfl
      · rw [zero, if_pos other]
        rfl

theorem channelEnd_unheard (number : payload.head? = some 97) (unheard : reachesConnection payload = false)
    (h : Host Server) (zero : h.self.localChannelId = 0) (closeDeadlineMs : Nat) :
    (channelEnd noxtls env closeDeadlineMs payload (memOf payload rest)).run h = (.err .failed, h) := by
  have refused : (handleChannelEnd noxtls env payload (memOf payload rest)).run h = (.err .badParam, h) := by
    rw [handleChannelEnd, self_bind_run, ensure_bind_neg]
    rintro ⟨five, -, names⟩
    rw [payloadReadU32_memOf rest (fun _ => 0) (by decide), zero] at names
    have heard : reachesConnection payload = true := by
      unfold reachesConnection
      rw [number]
      dsimp only
      rw [names, five]
      rfl
    rw [unheard] at heard
    cases heard
  rw [channelEnd]
  exact bind_err (failAs_err refused)

/-- EOF is a half-close: it is looked at and forgotten. -/
theorem channelEnd_eof (number : payload.head? = some 96) (h : Host Server) (closeDeadlineMs : Nat) (m : Mem) :
    (channelEnd noxtls env closeDeadlineMs payload m).run h = (.err .failed, h) ∨
      (channelEnd noxtls env closeDeadlineMs payload m).run h = (.ok closeDeadlineMs, h) := by
  have looks : (handleChannelEnd noxtls env payload m).run h = (.err .badParam, h) ∨
      (handleChannelEnd noxtls env payload m).run h = (.ok (), h) := by
    rw [handleChannelEnd, self_bind_run]
    by_cases fine : payload.length = 5 ∧ (payload.head? = some 96 ∨ payload.head? = some 97) ∧
        (payloadReadU32 m payload.length 1).map Prod.fst = some h.self.localChannelId
    · right
      rw [ensure_bind_pos fine, if_neg (by simp [number]), pure_run]
    · left
      rw [ensure_bind_neg fine]
  rw [channelEnd]
  rcases looks with refused | looked
  · exact .inl (bind_err (failAs_err refused))
  · right
    rw [bind_ok (failAs_ok looked), if_neg (by simp [number]), pure_run]

end Unheard

/-! ## Turns -/

section Turns

variable {noxtls : Noxtls} {env : Env}

/-- Whether somebody is logged in. -/
def loggedIn (s : Server) : Bool := s.authenticated

theorem passive_loggedIn : Passive loggedIn := by
  apply Passive.of_fields <;> intros <;> rfl

/-- USERAUTH_REQUEST does nothing at the front; its last step may be the login. -/
theorem shuts_checkSignature (p : List UInt8) (m : Mem) (req : PublickeyRequest) :
    Always Shuts (checkSignature noxtls env p m req) := by
  have order := shuts_order
  have passive := unkeyed_door.toPassive
  have refused : Always Shuts (sendUserauthFailure noxtls env false) :=
    always_shuts (always_sendUserauthFailure background_closed passive (speaks_closed (by decide)) _)
  refine always_ite ?_ (always_ite refused ?_)
  · split
    · exact refused
    · refine always_bind order (always_shuts (always_ask _)) fun _ => ?_
      refine always_bind order (always_ensure order _ _) fun _ => ?_
      refine always_bind order (always_shuts always_self) fun s => always_ite ?_ refused
      refine always_bind order (fun h => ⟨⟨[], by simp⟩, fun shut => ?_⟩) fun _ => ?_
      · exact ⟨shut.1, fun out => by cases out⟩
      · exact always_shuts (always_sendNumber background_closed passive (speaks_closed (by decide)) [52] rfl)
  · exact always_shuts (always_sendUserauthPkOk background_closed passive (speaks_closed (by decide)) _ _)

theorem shuts_userauthRequest (payload : List UInt8) (m : Mem) :
    Always Shuts (userauthRequest noxtls env payload m) := by
  have order := shuts_order
  have refused : Always Shuts (sendUserauthFailure noxtls env false) :=
    always_shuts (always_sendUserauthFailure background_closed unkeyed_door.toPassive
      (speaks_closed (by decide)) _)
  refine always_bind order (always_shuts always_self) fun s => ?_
  refine always_bind order (always_ensure order _ _) fun _ => ?_
  refine always_bind order (always_ensure order _ _) fun _ => ?_
  refine always_bind order (always_shuts (always_modify fun _ => rfl)) fun _ => ?_
  refine always_bind order (always_shuts always_self) fun s => ?_
  refine always_bind order (always_ensure order _ _) fun _ => always_failAs _ ?_
  refine always_bind order (always_ensure order _ _) fun _ => ?_
  refine always_bind order (always_lift order _ _) fun user => ?_
  refine always_bind order (always_lift order _ _) fun service => ?_
  refine always_bind order (always_lift order _ _) fun method => ?_
  refine always_ite refused (always_ite ?_ refused)
  refine always_bind order (always_shuts always_self) fun s => ?_
  split
  · exact refused
  · refine always_bind order (always_shuts (always_ask _)) fun allowed => ?_
    refine always_bind order (always_shuts (always_log trivial)) fun _ => ?_
    exact always_ite (shuts_checkSignature _ _ _) refused

/-- What a dispatched packet leaves of the front. -/
structure Kept (closeDeadlineMs : Nat) (h : Host Server) (r : Outcome NetnoxReturn Next × Host Server) :
    Prop where
  shut : Shut h → Shut r.2
  still : r.2.self.authenticated = false → h.self.authenticated = false
  deadline : Shut h → r.2.self.authenticated = false → ∀ d, r.1 = .ok (.again d) → d = closeDeadlineMs

/-- Nothing at all happened. -/
theorem kept_refl {closeDeadlineMs : Nat} {h : Host Server} {r : Outcome NetnoxReturn Next × Host Server}
    (same : r.2 = h) (next : ∀ d, r.1 = .ok (.again d) → d = closeDeadlineMs) : Kept closeDeadlineMs h r := by
  refine ⟨?_, ?_, fun _ _ => next⟩ <;> rw [same]
  · exact id
  · exact id

/-- Somebody was and stays logged in. -/
theorem kept_login {closeDeadlineMs : Nat} {h : Host Server} {r : Outcome NetnoxReturn Next × Host Server}
    (login : h.self.authenticated = true) (quiet : Quiet (fun _ => True) loggedIn h r.2) :
    Kept closeDeadlineMs h r := by
  have still : r.2.self.authenticated = true := quiet.1.trans login
  refine ⟨(shuts_of_login login quiet).2, ?_, ?_⟩ <;> simp [still]

theorem goOn_next {closeDeadlineMs : Nat} {m : Prog Server Unit} {h : Host Server} :
    ((goOn closeDeadlineMs m).run h).2 = (m.run h).2 ∧
      ∀ d, ((goOn closeDeadlineMs m).run h).1 = .ok (.again d) → d = closeDeadlineMs := by
  rw [goOn, bind_run]
  rcases m.run h with ⟨o, h'⟩
  cases o with
  | ok _ =>
      refine ⟨rfl, fun d is => ?_⟩
      cases is
      rfl
  | err e => exact ⟨rfl, fun d is => by cases is⟩
  | stuck => exact ⟨rfl, fun d is => by cases is⟩

theorem kept_goOn {closeDeadlineMs : Nat} {m : Prog Server Unit} {h : Host Server}
    (shuts : Shuts h (m.run h).2) (out : h.self.authenticated = false) :
    Kept closeDeadlineMs h ((goOn closeDeadlineMs m).run h) := by
  refine ⟨?_, fun _ => out, fun _ _ => goOn_next.2⟩
  rw [goOn_next.1]
  exact shuts.2

/-- With the front open already there is nothing to keep. -/
theorem kept_open {closeDeadlineMs : Nat} {h : Host Server} {r : Outcome NetnoxReturn Next × Host Server}
    (out : h.self.authenticated = false) (opened : front h.self ≠ front init) : Kept closeDeadlineMs h r :=
  ⟨fun shut => absurd (shut.2 out) opened, fun _ => out, fun shut => absurd (shut.2 out) opened⟩

/-- A handler that changed nothing goes on as it was. -/
theorem kept_goOn_refl {closeDeadlineMs : Nat} {m : Prog Server Unit} {h : Host Server}
    (same : (m.run h).2 = h) : Kept closeDeadlineMs h ((goOn closeDeadlineMs m).run h) :=
  kept_refl (goOn_next.1.trans same) goOn_next.2

/-- A handler that changed nothing and gave the deadline back, or failed. -/
theorem kept_goOnWith_refl {closeDeadlineMs : Nat} {m : Prog Server Nat} {h : Host Server} {e : NetnoxReturn}
    (same : m.run h = (.err e, h) ∨ m.run h = (.ok closeDeadlineMs, h)) :
    Kept closeDeadlineMs h ((goOnWith m).run h) := by
  rw [goOnWith]
  rcases same with ran | ran
  · rw [bind_err ran]
    exact kept_refl rfl fun d is => by cases is
  · rw [bind_ok ran]
    refine kept_refl rfl fun d is => ?_
    cases is
    rfl

/-- A packet when somebody is logged in. -/
theorem kept_dispatch_login (turns closeDeadlineMs : Nat) (payload : List UInt8) (m : Mem) {h : Host Server}
    (login : h.self.authenticated = true) :
    Kept closeDeadlineMs h ((dispatch noxtls env turns closeDeadlineMs payload m).run h) := by
  by_cases userauth : payload.head? = some 50
  · rw [dispatch, userauth]
    refine kept_goOn_refl ?_
    rw [userauthRequest, self_bind_run]
    by_cases ready : h.self.userauthServiceReady = true
    · rw [ensure_bind_pos ready, ensure_bind_neg (by simp [login])]
    · rw [ensure_bind_neg ready]
  by_cases service : payload.head? = some 5
  · rw [dispatch, service]
    show Kept closeDeadlineMs h ((goOn closeDeadlineMs (serviceRequest noxtls env payload m)).run h)
    refine kept_login login ?_
    rw [goOn_next.1]
    exact always_serviceRequest ⟨⟨fun _ => trivial, trivial, trivial⟩, fun _ _ => trivial, fun _ _ => trivial⟩
      passive_loggedIn (fun _ _ => ⟨trivial, trivial⟩) (fun _ => rfl) (fun _ => rfl) _ _ h
  · exact kept_login login (authenticated_of_within (within_dispatch _ _ _ _ service userauth h))

/-- A packet that does not get through, before the login. -/
theorem kept_dispatch_out (turns closeDeadlineMs : Nat) {payload : List UInt8} {rest : Mem} {h : Host Server}
    (out : h.self.authenticated = false) (unheard : reachesConnection payload = false) :
    Kept closeDeadlineMs h ((dispatch noxtls env turns closeDeadlineMs payload (memOf payload rest)).run h) := by
  have skips : Kept closeDeadlineMs h ((pure (.again closeDeadlineMs) : Prog Server Next).run h) := by
    refine kept_refl rfl fun d is => ?_
    cases is
    rfl
  have ends : Kept closeDeadlineMs h ((pure .done : Prog Server Next).run h) :=
    kept_refl rfl fun d is => by cases is
  unfold dispatch
  split
  · exact skips
  · exact ends
  · exact skips
  · exact skips
  · rename_i number
    refine kept_goOn_refl ?_
    rw [failAs_state]
    exact handleGlobalRequest_unheard number unheard h
  · refine kept_goOn (always_shuts ?_ h) out
    exact always_serviceRequest background_closed unkeyed_door.toPassive (speaks_closed (by decide))
      (fun _ => rfl) (fun _ => rfl) _ _
  · exact kept_goOn (shuts_userauthRequest _ _ h) out
  · refine kept_goOn_refl ?_
    rw [channelOpenRequest]
    by_cases waiting : closeDeadlineMs = 0
    · rw [ensure_bind_pos waiting, self_bind_run, ensure_bind_neg (by simp [out])]
    · rw [ensure_bind_neg waiting]
  · by_cases closed : h.self.channelOpen = false
    · refine kept_goOnWith_refl (e := .failed) (.inr ?_)
      rw [channelRequest, self_bind_run, if_pos closed, pure_run]
    · exact kept_open out fun is => closed (congrArg Prod.fst is)
  · rename_i number
    by_cases zero : h.self.localChannelId = 0
    · exact kept_goOn_refl (channelData_unheard number unheard h zero)
    · exact kept_open out fun is => zero (congrArg (fun f => f.2.2.2.2) is)
  · rename_i number
    exact kept_goOnWith_refl (channelEnd_eof number h _ _)
  · rename_i number
    by_cases zero : h.self.localChannelId = 0
    · exact kept_goOnWith_refl (.inl (channelEnd_unheard number unheard h zero _))
    · exact kept_open out fun is => zero (congrArg (fun f => f.2.2.2.2) is)
  · exact skips

theorem grows_dispatch (turns closeDeadlineMs : Nat) (payload : List UInt8) (m : Mem) (h : Host Server) :
    Grows h ((dispatch noxtls env turns closeDeadlineMs payload m).run h).2 := by
  by_cases userauth : payload.head? = some 50
  · rw [dispatch, userauth]
    show Grows h ((goOn closeDeadlineMs (userauthRequest noxtls env payload m)).run h).2
    rw [goOn_next.1]
    exact (shuts_userauthRequest _ _ h).1
  by_cases service : payload.head? = some 5
  · rw [dispatch, service]
    show Grows h ((goOn closeDeadlineMs (serviceRequest noxtls env payload m)).run h).2
    rw [goOn_next.1]
    exact grows_of_quiet (always_serviceRequest background_closed unkeyed_door.toPassive
      (speaks_closed (by decide)) (fun _ => rfl) (fun _ => rfl) _ _ h)
  · exact grows_of_quiet (within_dispatch _ _ _ _ service userauth h)

/-- A polite run up to here is shut, and no close deadline runs before the login. -/
def Undisturbed (closeDeadlineMs : Nat) (h : Host Server) : Prop :=
  Polite h.trace → Shut h ∧ (h.self.authenticated = false → closeDeadlineMs = 0)

/-- One turn of a polite run. -/
theorem undisturbed_serveTurn (noxtls : Noxtls) (env : Env) (turns closeDeadlineMs : Nat) {h : Host Server} (before : Undisturbed closeDeadlineMs h) :
    (Polite ((serveTurn noxtls env turns closeDeadlineMs).run h).2.trace →
      Shut ((serveTurn noxtls env turns closeDeadlineMs).run h).2) ∧
    ∀ d, ((serveTurn noxtls env turns closeDeadlineMs).run h).1 = .ok (.again d) →
      Undisturbed d ((serveTurn noxtls env turns closeDeadlineMs).run h).2 := by
  rw [serveTurn, bind_run, attempt_run]
  rcases recvInto_cases noxtls env background_closed (fun _ => trivial) unkeyed_door.toPassive maxPacketLen h with
    ⟨payload, rest, h₁, t, ran, short, quiet⟩ | ⟨o, h₁, ran, failed, quiet⟩
  · have first := shuts_of_quiet quiet
    have grows : Grows h (receive payload t h₁) := first.1.trans ⟨_, rfl⟩
    have later : Undisturbed closeDeadlineMs (receive payload t h₁) := by
      intro polite
      obtain ⟨shut, none⟩ := before (polite.of_grows grows)
      have shut₁ := first.2 shut
      refine ⟨shut_append shut₁ rfl ?_ shut₁.2, fun out => ?_⟩
      · intro e mem out
        rw [List.mem_singleton] at mem
        subst mem
        exact ⟨trivial, shut₁.2 out⟩
      · exact none ((congrArg Prod.fst quiet.1).symm.trans out)
    rw [ran]
    dsimp only
    by_cases empty : payload = []
    · rw [if_pos empty]
      refine ⟨fun polite => (later polite).1, fun d is => ?_⟩
      cases is
      exact later
    rw [if_neg empty, self_bind_run]
    by_cases due : rekeyDue h₁.self = false
    swap
    · rw [ensure_bind_neg due]
      exact ⟨fun polite => (later polite).1, fun d is => by cases is⟩
    rw [ensure_bind_pos due]
    have kept : Polite (receive payload t h₁).trace → Kept closeDeadlineMs (receive payload t h₁)
        ((dispatch noxtls env turns closeDeadlineMs payload (memOf payload rest)).run (receive payload t h₁)) := by
      intro polite
      by_cases out : h₁.self.authenticated = false
      · refine kept_dispatch_out turns closeDeadlineMs out ?_
        exact polite (.received payload, h₁.self) (by simp [receive]) out payload rfl
      · exact kept_dispatch_login turns closeDeadlineMs payload _ (Bool.eq_true_of_not_eq_false out)
    have whole : Grows (receive payload t h₁) ((dispatch noxtls env turns closeDeadlineMs payload
        (memOf payload rest)).run (receive payload t h₁)).2 := grows_dispatch _ _ _ _ _
    refine ⟨fun polite => ?_, fun d is polite => ?_⟩
    · have polite := polite.of_grows whole
      exact (kept polite).shut (later polite).1
    · have polite := polite.of_grows whole
      obtain ⟨shut, none⟩ := later polite
      refine ⟨(kept polite).shut shut, fun out => ?_⟩
      rw [(kept polite).deadline shut out d is]
      exact none ((kept polite).still out)
  · have ended : Polite h₁.trace → Shut h₁ := by
      intro polite
      have first := shuts_of_quiet quiet
      exact first.2 (before (polite.of_grows first.1)).1
    rw [ran]
    cases o with
    | ok got => exact absurd rfl (failed got)
    | err e => exact ⟨ended, fun d is => by cases is⟩
    | stuck => exact ⟨ended, fun d is => by cases is⟩

theorem shut_serveLoop (sessionTurns turns closeDeadlineMs : Nat) (h : Host Server)
    (before : Undisturbed closeDeadlineMs h)
    (polite : Polite ((serveLoop noxtls env sessionTurns turns closeDeadlineMs).run h).2.trace) :
    Shut ((serveLoop noxtls env sessionTurns turns closeDeadlineMs).run h).2 := by
  induction turns generalizing closeDeadlineMs h with
  | zero => exact (before polite).1
  | succ turns ih =>
      revert polite
      rw [serveLoop, log_bind_run, bind_run]
      have waits : Always Shuts (packetReady env closeDeadlineMs) := always_shuts (always_packetReady _)
      have logged : Undisturbed closeDeadlineMs
          { h with trace := h.trace ++ [(.serving closeDeadlineMs, h.self)] } := by
        intro polite
        obtain ⟨shut, none⟩ := before polite.before
        refine ⟨shut_append shut rfl ?_ shut.2, none⟩
        intro e mem out
        rw [List.mem_singleton] at mem
        subst mem
        exact ⟨none out, shut.2 out⟩
      have still := (always_packetReady closeDeadlineMs : Always (Quiet Closed door) (packetReady env closeDeadlineMs))
        { h with trace := h.trace ++ [(.serving closeDeadlineMs, h.self)] }
      have after : Undisturbed closeDeadlineMs ((packetReady env closeDeadlineMs).run
          { h with trace := h.trace ++ [(.serving closeDeadlineMs, h.self)] }).2 := by
        intro polite
        obtain ⟨shut, none⟩ := logged (polite.of_grows (waits _).1)
        exact ⟨(waits _).2 shut, fun out => none ((congrArg Prod.fst still.1).symm.trans out)⟩
      revert after
      rcases (packetReady env closeDeadlineMs).run
        { h with trace := h.trace ++ [(.serving closeDeadlineMs, h.self)] } with ⟨o, h₁⟩
      intro after
      cases o with
      | err e => exact fun polite => (after polite).1
      | stuck => exact fun polite => (after polite).1
      | ok wait =>
      cases wait with
      | retry => exact ih _ _ after
      | «over» => exact fun polite => (after polite).1
      | error => exact fun polite => (after polite).1
      | readable =>
          dsimp only
          rw [bind_run]
          obtain ⟨ended, again⟩ := undisturbed_serveTurn noxtls env sessionTurns closeDeadlineMs after
          revert ended again
          rcases (serveTurn noxtls env sessionTurns closeDeadlineMs).run h₁ with ⟨o, h₂⟩
          intro ended again
          cases o with
          | err e => exact ended
          | stuck => exact ended
          | ok next =>
              cases next with
              | done => exact ended
              | again closeDeadlineMs => exact ih _ _ (again _ rfl)

end Turns

/-! ## The run -/

theorem kexChatter_closed : KexChatter Closed where
  toBackground := background_closed
  receiving _ := trivial
  kexinit := speaks_closed (by decide)
  newkeys := speaks_closed (by decide)
  reply := speaks_closed (by decide)
  received _ := trivial

/-- **Before the login the connection protocol is shut**, in every run in which no
packet gets through to it. -/
theorem prelogin_shut (noxtls : Noxtls) (env : Env) (setup : Setup) (inbox : List UInt8) (turns : Nat)
    (polite : Polite (served noxtls env setup inbox turns).trace) :
    Shut (served noxtls env setup inbox turns) := by
  revert polite
  rw [served, serveOne, ask_bind_run, modify_bind_run, bind_run]
  have start : Shut ⟨setHandshakeDeadline (wrap64 (env.clock 0 + 30000)) setup.server, 1, inbox, []⟩ :=
    ⟨by simp, fun _ => rfl⟩
  have shakes : Always (Quiet Closed door) (failAs .failed (handshakeToEncrypted noxtls env)) :=
    always_failAs _ (always_handshakeToEncrypted kexChatter_closed unkeyed_door)
  have shut := (always_shuts shakes _).2 start
  dsimp only at shut ⊢
  revert shut
  rcases (failAs .failed (handshakeToEncrypted noxtls env)).run
    ⟨setHandshakeDeadline (wrap64 (env.clock 0 + 30000)) setup.server, 1, inbox, []⟩ with ⟨o, h⟩
  intro shut
  cases o with
  | err e => exact fun _ => shut
  | stuck => exact fun _ => shut
  | ok _ => exact shut_serveLoop turns turns 0 h fun _ => ⟨shut, fun _ => rfl⟩

/-! ## A client that does not log in -/

namespace Probe

def setup : Setup where
  transportFd := 3
  serverIdent := ascii "SSH-2.0-noxsshd_0.1"
  hostEd25519Sk := zeros 32
  hostEd25519Pk := zeros 32
  hostKeyReady := true
  publickeyAllowedCb := true
  rekeyThresholdBytes := 268435456

/-- Identification and key exchange of the client. -/
def hello : List UInt8 :=
  ascii "SSH-2.0-probe" ++ [13, 10] ++ sealAll Sample.noxtls ⟨false, [], [], [], 0⟩
    [kexinitPayload algLists (zeros 16), [30] ++ sshString (zeros 32), [21]]

/-- The bytes of `hello`, so that a run on them does not compute them. -/
def helloBytes : List UInt8 :=
  [83, 83, 72, 45, 50, 46, 48, 45, 112, 114, 111, 98, 101, 13, 10, 0, 0, 0, 156, 11, 20, 0, 0, 0, 0, 0, 0, 0, 0, 0, 0,
   0, 0, 0, 0, 0, 0, 0, 0, 0, 17, 99, 117, 114, 118, 101, 50, 53, 53, 49, 57, 45, 115, 104, 97, 50, 53, 54, 0, 0, 0,
   11, 115, 115, 104, 45, 101, 100, 50, 53, 53, 49, 57, 0, 0, 0, 10, 97, 101, 115, 49, 50, 56, 45, 99, 116, 114, 0, 0,
   0, 10, 97, 101, 115, 49, 50, 56, 45, 99, 116, 114, 0, 0, 0, 13, 104, 109, 97, 99, 45, 115, 104, 97, 50, 45, 50, 53,
   54, 0, 0, 0, 13, 104, 109, 97, 99, 45, 115, 104, 97, 50, 45, 50, 53, 54, 0, 0, 0, 4, 110, 111, 110, 101, 0, 0, 0,
   4, 110, 111, 110, 101, 0, 0, 0, 0, 0, 0, 0, 0, 0, 0, 0, 0, 0, 0, 0, 0, 0, 0, 0, 0, 0, 0, 0, 0, 0, 0, 0, 44, 6, 30,
   0, 0, 0, 32, 0, 0, 0, 0, 0, 0, 0, 0, 0, 0, 0, 0, 0, 0, 0, 0, 0, 0, 0, 0, 0, 0, 0, 0, 0, 0, 0, 0, 0, 0, 0, 0, 0, 0,
   0, 0, 0, 0, 0, 0, 0, 12, 10, 21, 0, 0, 0, 0, 0, 0, 0, 0, 0, 0]

theorem hello_eq : hello = helloBytes := by decide +kernel

/-- The server when it has answered. -/
def greeted : Server :=
  ((handshakeToEncrypted Sample.noxtls calm).run
    ⟨setHandshakeDeadline 31000 setup.server, 1, hello, []⟩).2.self

/-- The keys that come out of `hello`: the lane in which the client goes on. -/
def exchanged : Lane where
  encrypted := true
  key := [255, 255, 170, 255, 255, 85, 182, 255, 227, 255, 162, 170, 59, 219, 85, 127]
  macKey := [252, 254, 169, 127, 50, 84, 109, 63, 141, 153, 116, 42, 39, 182, 187, 159, 255, 198, 80, 76, 207, 186, 88, 21,
    214, 19, 217, 91, 149, 221, 16, 79]
  counter := [253, 254, 255, 127, 255, 255, 36, 191, 85, 255, 69, 127, 98, 146, 255, 95]
  seq := 3

theorem lane_greeted : recvSide.lane greeted = exchanged := by
  rw [greeted, hello_eq]
  decide +kernel

/-- The server's run on these packets of the client after the key exchange. -/
def probed (payloads : List (List UInt8)) : Host Server :=
  served Sample.noxtls calm setup (hello ++ sealAll Sample.noxtls (recvSide.lane greeted) payloads)
    (payloads.length + 1)

end Probe

/-- A message to ignore, a global request that wants no reply, data for a channel
that is not there: the run is polite, so it is shut. -/
theorem prelogin_shut_probed :
    let run := Probe.probed [[2], [80] ++ sshString [120] ++ [0], [94] ++ be32 1 ++ sshString [7]]
    Polite run.trace ∧ pick Event.received? run.trace ≠ [] ∧ Shut run := by
  have seen : (∀ e ∈ (Probe.probed [[2], [80] ++ sshString [120] ++ [0], [94] ++ be32 1 ++ sshString [7]]).trace,
        ∀ payload ∈ e.1.received?, reachesConnection payload = false) ∧
      pick Event.received? (Probe.probed [[2], [80] ++ sshString [120] ++ [0], [94] ++ be32 1 ++ sshString [7]]).trace ≠ [] := by
    rw [Probe.probed, Probe.lane_greeted, Probe.hello_eq]
    decide +kernel
  have polite : Polite (Probe.probed [[2], [80] ++ sshString [120] ++ [0], [94] ++ be32 1 ++ sshString [7]]).trace :=
    fun e mem _ => seen.1 e mem
  exact ⟨polite, seen.2, prelogin_shut _ _ _ _ _ polite⟩

/-- One global request that wants a reply is answered, login or not. -/
theorem prelogin_not_shut : ¬ Shut (Probe.probed [[80] ++ sshString [120] ++ [1]]) := by
  intro shut
  have answered : ∃ e ∈ (Probe.probed [[80] ++ sshString [120] ++ [1]]).trace,
      e.1 = .sending [82] ∧ e.2.authenticated = false := by
    rw [Probe.probed, Probe.lane_greeted, Probe.hello_eq]
    decide +kernel
  obtain ⟨e, mem, is, out⟩ := answered
  have closed := (shut.1 e mem out).1
  rw [is] at closed
  exact absurd (closed 82 rfl) (by decide)

end NoxSsh.Server
