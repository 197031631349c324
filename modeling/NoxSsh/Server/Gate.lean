/-
# Server.Gate — the flags that decide who may do what

Every handler but two leaves the flags and the session identifier alone and records
only what they permit (`Within Permitted gate`): a channel opens behind the flags of
a login, a session starts for a user.  The handshake leaves the flags alone too, and
if it succeeds the identifier is whole and no login was asked for on the way.
-/
import NoxSsh.Server.Conduct

namespace NoxSsh.Server

open Theory Proc Wire Transport

set_option autoImplicit false

/-! ## The gate -/

/-- The part of the context that decides who may do what. -/
structure Flags where
  authenticated : Bool
  authenticatedUser : List UInt8
  connectionServiceReady : Bool
  userauthServiceReady : Bool
  authAttempts : Nat
  deriving DecidableEq, Repr

def flags (s : Server) : Flags :=
  ⟨s.authenticated, s.authenticatedUser, s.connectionServiceReady, s.userauthServiceReady, s.authAttempts⟩

/-- The flags and the session identifier. -/
def gate (s : Server) : Flags × List UInt8 × Nat := (flags s, s.sessionId, s.sessionIdLen)

theorem steady_gate : Steady gate := by
  constructor <;> (try apply Passive.of_fields) <;> intros <;> rfl

theorem unkeyed_flags : Unkeyed flags := by
  constructor <;> (try apply Passive.of_fields) <;> intros <;> rfl

/-- What may be recorded behind this gate. -/
def Permitted (g : Flags × List UInt8 × Nat) : Event → Prop
  | .sending payload => payload.head? = some 91 → g.1.authenticated = true
  | .sessionStarted _ => g.1.authenticatedUser ≠ []
  | .received _ => g.1.authenticatedUser ≠ []
  | _ => True

theorem chatter_permitted (g : Flags × List UInt8 × Nat) : Chatter (Permitted g) where
  wire _ := trivial
  expired := trivial
  overflow := trivial
  macComputed _ _ := trivial
  macAccepted _ _ := trivial
  speaks number other payload heads := by
    refine ⟨?_, trivial⟩
    intro confirms
    rw [heads, Option.some.injEq] at confirms
    exact absurd confirms other

section Within

variable {noxtls : Noxtls} {env : Env}

/-- A session starts only for a user. -/
theorem within_runSessionUnix (turns : Nat) (command : Option (List UInt8)) :
    Always (Within Permitted gate) (runSessionUnix noxtls env turns command) := by
  intro h
  rw [runSessionUnix, self_bind_run]
  by_cases may : 0 ≤ h.self.transportFd ∧ h.self.authenticatedUser ≠ []
  · rw [ensure_bind_pos may]
    have order := quiet_order (Permitted (gate h.self)) gate
    have user : (gate h.self).1.authenticatedUser ≠ [] := may.2
    have chatter : SessionChatter (Permitted (gate h.self)) :=
      ⟨chatter_permitted _, ⟨fun _ => trivial, fun _ => user⟩, fun _ => trivial, trivial, trivial,
        fun _ => trivial, fun _ => trivial, trivial⟩
    have started : Permitted (gate h.self) (.sessionStarted command) := user
    refine always_bind order (always_log started) (fun _ => ?_) h
    refine always_bind order (always_modify steady_gate.setSessionStarted) fun _ => ?_
    refine always_bind order (always_ask _) fun forked => ?_
    refine always_bind order (always_ensure order _ _) fun _ => ?_
    exact always_sessionLoop chatter steady_gate turns _
  · rw [ensure_bind_neg may]
    exact (within_order Permitted gate).refl h

/-- A channel opens only behind the gate. -/
theorem within_channelOpenRequest (closeDeadlineMs : Nat) (payload : List UInt8) (m : Mem) :
    Always (Within Permitted gate) (channelOpenRequest noxtls env closeDeadlineMs payload m) := by
  have within := within_order Permitted gate
  refine always_bind within (always_ensure within _ _) fun _ => ?_
  intro h
  rw [self_bind_run]
  by_cases may : h.self.authenticated = true ∧ h.self.connectionServiceReady = true
  · rw [ensure_bind_pos may]
    have order := quiet_order (Permitted (gate h.self)) gate
    have speaks : Speaks (Permitted (gate h.self)) 91 := fun _ _ => ⟨fun _ => may.1, trivial⟩
    refine always_bind order (always_lift order _ _) (fun got => ?_) h
    refine always_bind order (always_lift order _ _) fun got => ?_
    refine always_bind order (always_lift order _ _) fun got => ?_
    refine always_bind order (always_lift order _ _) fun got => ?_
    refine always_bind order (always_ensure order _ _) fun _ => ?_
    refine always_bind order (always_ensure order _ _) fun _ => ?_
    refine always_bind order (always_modify (steady_gate.setRemoteLimits _ _)) fun _ => ?_
    refine always_bind order (always_failAs _ ?_) fun _ => always_modify (steady_gate.setChannelOpen _)
    exact always_sendChannelOpenConfirmation (chatter_permitted _).toBackground steady_gate speaks _
  · rw [ensure_bind_neg may]
    exact within.refl h

theorem within_channelRequest (turns closeDeadlineMs : Nat) (payload : List UInt8) (m : Mem) :
    Always (Within Permitted gate) (channelRequest noxtls env turns closeDeadlineMs payload m) := by
  have within := within_order Permitted gate
  have passive := steady_gate.toPassive
  have refuses : ∀ wantReply, Always (Within Permitted gate)
      (refuse noxtls env wantReply >>= fun _ => pure closeDeadlineMs) := fun wantReply =>
    always_bind within (always_within fun g => always_refuse (chatter_permitted g).channel passive wantReply)
      fun _ => always_pure within _
  have runs : ∀ wantReply command, Always (Within Permitted gate)
      (runAndClose noxtls env turns wantReply command closeDeadlineMs) := by
    intro wantReply command
    refine always_bind within (always_within fun g => always_confirm (chatter_permitted g).channel passive _) fun _ => ?_
    refine always_bind within (always_failAs _ (within_runSessionUnix turns command)) fun _ => ?_
    exact always_failAs _ (always_within fun g => always_beginCloseWait _)
  refine always_bind within (always_within fun g => always_self) fun s => always_ite (always_pure within _) ?_
  refine always_bind within (always_lift within _ _) fun got => always_ite (always_pure within _) ?_
  refine always_bind within (always_lift within _ _) fun got => ?_
  refine always_bind within (always_ensure within _ _) fun _ => ?_
  refine always_bind within (always_within fun g => always_self) fun s => always_ite ?_ (always_ite ?_ (always_ite ?_ ?_))
  · split
    · exact refuses _
    · refine always_bind within (always_within fun g => always_modify (steady_gate.setPty _)) fun _ => ?_
      refine always_bind within (always_within fun g => always_confirm (chatter_permitted g).channel passive _) fun _ => ?_
      exact always_pure within _
  · split
    · exact refuses _
    · exact runs _ _
  · exact always_ite (refuses _) (runs _ _)
  · exact refuses _

/-- Every message but SERVICE_REQUEST and USERAUTH_REQUEST leaves the gate alone. -/
theorem within_dispatch (turns closeDeadlineMs : Nat) (payload : List UInt8) (m : Mem)
    (notService : payload.head? ≠ some 5) (notUserauth : payload.head? ≠ some 50) :
    Always (Within Permitted gate) (dispatch noxtls env turns closeDeadlineMs payload m) := by
  have within := within_order Permitted gate
  unfold dispatch
  split
  · exact always_pure within _
  · exact always_pure within _
  · exact always_pure within _
  · exact always_pure within _
  · refine always_bind within (always_failAs _ ?_) fun _ => always_pure within _
    exact always_within fun g => always_handleGlobalRequest (chatter_permitted g).toBackground
      steady_gate.toPassive ((chatter_permitted g).speaks 82 (by decide)) payload m
  · exact absurd ‹_› notService
  · exact absurd ‹_› notUserauth
  · exact always_bind within (within_channelOpenRequest _ _ _) fun _ => always_pure within _
  · exact always_bind within (within_channelRequest _ _ _ _) fun _ => always_pure within _
  · refine always_bind within ?_ fun _ => always_pure within _
    exact always_within fun g => always_channelData (chatter_permitted g).channel steady_gate payload m
  · refine always_bind within ?_ fun _ => always_pure within _
    exact always_within fun g => always_channelEnd (chatter_permitted g).channel steady_gate _ payload m
  · refine always_bind within ?_ fun _ => always_pure within _
    exact always_within fun g => always_channelEnd (chatter_permitted g).channel steady_gate _ payload m
  · exact always_pure within _

end Within

/-! ## Requests and the handshake -/

/-- One packet was received. -/
def receive (payload : List UInt8) (t : Nat) (h : Host Server) : Host Server :=
  { h with tick := t, trace := h.trace ++ [(.received payload, h.self)] }

/-- How many USERAUTH_REQUEST packets were received. -/
def requests (trace : List (Event × Server)) : Nat :=
  (pick Event.received? trace).countP fun payload => payload.head? = some 50

theorem background_received : Background fun e => e.received? = none :=
  ⟨plumbing_received, fun _ _ => rfl, fun _ _ => rfl⟩

theorem speaks_received (number : UInt8) : Speaks (fun e => e.received? = none) number :=
  fun _ _ => ⟨rfl, rfl⟩

/-- The identifier is set and whole. -/
def session (s : Server) : List UInt8 × Nat := (s.sessionId, s.sessionIdLen)

theorem passive_session : Passive session := by
  apply Passive.of_fields <;> intros <;> rfl

theorem requests_append (trace new : List (Event × Server)) :
    requests (trace ++ new) = requests trace + requests new := by
  simp [requests]

theorem requests_of_quiet {γ : Type} {view : Server → γ} {h h' : Host Server}
    (quiet : Quiet (fun e => e.received? = none) view h h') :
    requests h'.trace = requests h.trace := by
  obtain ⟨-, new, grown, silent⟩ := quiet.silent
  rw [grown, requests_append]
  simp [requests, silent]

section Handshake

variable {noxtls : Noxtls} {env : Env}

/-- A receive counts one request, if it is one. -/
theorem recvInto_requests {payloadMax : Nat} {h h' : Host Server} {rx : List UInt8} {m : Mem}
    (ran : (recvInto noxtls env payloadMax).run h = (.ok (rx, m), h')) (other : rx.head? ≠ some 50) :
    requests h'.trace = requests h.trace := by
  rcases recvInto_cases noxtls env background_received (fun _ => rfl) passive_session payloadMax h with
    ⟨payload, rest, h₁, t, is, -, quiet⟩ | ⟨o, h₁, is, failed, -⟩
  · rw [ran] at is
    obtain ⟨same, rfl⟩ := Prod.mk.inj is
    simp only [Outcome.ok.injEq, Prod.mk.injEq] at same
    obtain ⟨rfl, -⟩ := same
    dsimp only
    rw [requests_append, requests_of_quiet quiet]
    simp [requests, Event.received?, other]
  · rw [ran] at is
    exact absurd (Prod.mk.inj is).1.symm (failed _)

theorem exchangeKexinit_requests {h h' : Host Server}
    (ran : (exchangeKexinit noxtls env).run h = (.ok (), h')) : requests h'.trace = requests h.trace := by
  have order := quiet_order (fun e => e.received? = none) session
  rw [exchangeKexinit, self_bind_run] at ran
  obtain ⟨-, ran⟩ := ensure_bind_inv ran
  obtain ⟨⟨rx, m⟩, h₁, got, ran⟩ := failAs_bind_inv ran
  obtain ⟨number, ran⟩ := ensure_bind_inv ran
  have first := recvInto_requests got (by rw [number]; decide)
  have quiet : Quiet (fun e => e.received? = none) session h₁ h' := by
    refine always_ran ran (always_bind order (always_ensure order _ _) fun _ => ?_)
    refine always_bind order (always_modify fun _ => rfl) fun _ => ?_
    refine always_bind order (always_ensure order _ _) fun _ => ?_
    refine always_bind order (always_failAs _ always_buildKexinit) fun tx => ?_
    refine always_bind order (always_ensure order _ _) fun _ => ?_
    refine always_bind order (always_modify fun _ => rfl) fun _ => ?_
    refine always_bind order (always_failAs _ ?_) fun _ => always_modify fun _ => rfl
    exact always_sendPacket background_received passive_session tx rfl rfl
  rw [requests_of_quiet quiet, first]

/-- A reply leaves a whole session identifier behind. -/
theorem replyTo_session {clientPub reply : List UInt8} {h h' : Host Server}
    (ran : (replyTo noxtls env clientPub).run h = (.ok reply, h')) :
    h'.self.sessionId.length = 32 ∧ h'.self.sessionIdLen = 32 := by
  rw [replyTo] at ran
  obtain ⟨seed, h₁, -, ran⟩ := bind_inv ran
  obtain ⟨serverPub, -, ran⟩ := lift_bind_inv ran
  obtain ⟨secret, -, ran⟩ := lift_bind_inv ran
  rw [self_bind_run] at ran
  obtain ⟨hostBlob, -, ran⟩ := lift_bind_inv ran
  obtain ⟨exchangeHash, hashed, ran⟩ := lift_bind_inv ran
  rw [modify_bind_run] at ran
  obtain ⟨signature, -, ran⟩ := lift_bind_inv ran
  obtain ⟨sigWire, -, ran⟩ := lift_bind_inv ran
  obtain ⟨-, rfl⟩ := lift_inv ran
  exact ⟨length_exchangeHash hashed, rfl⟩

theorem performCurve25519Kex_ok {h h' : Host Server}
    (ran : (performCurve25519Kex noxtls env).run h = (.ok (), h')) :
    requests h'.trace = requests h.trace ∧ h'.self.sessionId.length = 32 ∧ h'.self.sessionIdLen = 32 := by
  have order := quiet_order (fun e => e.received? = none) session
  rw [performCurve25519Kex, self_bind_run] at ran
  obtain ⟨-, ran⟩ := ensure_bind_inv ran
  obtain ⟨⟨init, m⟩, h₁, got, ran⟩ := failAs_bind_inv ran
  obtain ⟨number, ran⟩ := ensure_bind_inv ran
  have first := recvInto_requests got (by rw [number]; decide)
  obtain ⟨clientPub, -, ran⟩ := lift_bind_inv ran
  obtain ⟨-, ran⟩ := ensure_bind_inv ran
  obtain ⟨reply, h₂, replied, ran⟩ := bind_inv ran
  obtain ⟨length, set⟩ := replyTo_session replied
  have second : requests h₂.trace = requests h₁.trace :=
    requests_of_quiet (always_ran replied (always_replyTo unkeyed_flags.setExchange _))
  obtain ⟨_, h₃, sent, ran⟩ := failAs_bind_inv ran
  have third := always_ran sent (always_sendPacket background_received passive_session reply rfl rfl)
  obtain ⟨_, h₄, sent', ran⟩ := failAs_bind_inv ran
  have fourth := always_ran sent' (always_sendPacket background_received passive_session [21] rfl rfl)
  obtain ⟨⟨rx, m'⟩, h₅, got', ran⟩ := failAs_bind_inv ran
  obtain ⟨number', ran⟩ := ensure_bind_inv ran
  have fifth := recvInto_requests got' (by rw [number']; decide)
  have held : session h₅.self = session h₄.self := by
    have quiet : Quiet (fun _ => True) session h₄ h₅ := always_ran got'
      (always_recvInto ⟨⟨fun _ => trivial, trivial, trivial⟩, fun _ _ => trivial, fun _ _ => trivial⟩
        passive_session ⟨fun _ => trivial, fun _ => trivial⟩ _)
    exact quiet.1
  have sixth : Quiet (fun e => e.received? = none) session h₅ h' := by
    refine always_ran ran (always_bind order (always_failAs _ ?_) fun _ => always_modify fun _ => rfl)
    refine always_bind order always_self fun s => always_bind order (always_ensure order _ _) fun _ => ?_
    exact always_bind order (always_lift order _ _) fun keys => always_modify fun _ => rfl
  have whole : session h'.self = session h₂.self := by
    rw [sixth.1, held, fourth.1, third.1]
  simp only [session, Prod.mk.injEq] at whole
  refine ⟨?_, ?_, ?_⟩
  · rw [requests_of_quiet sixth, fifth, requests_of_quiet fourth, requests_of_quiet third, second, first]
  · rw [whole.1, length]
  · rw [whole.2, set]

/-- The handshake succeeded: no request among its packets, and a whole identifier. -/
theorem handshakeToEncrypted_ok {h h' : Host Server}
    (ran : (handshakeToEncrypted noxtls env).run h = (.ok (), h')) :
    requests h'.trace = requests h.trace ∧ h'.self.sessionId.length = 32 ∧ h'.self.sessionIdLen = 32 := by
  rw [handshakeToEncrypted, self_bind_run] at ran
  obtain ⟨-, ran⟩ := ensure_bind_inv ran
  obtain ⟨_, h₁, read, ran⟩ := bind_inv ran
  rw [self_bind_run] at ran
  obtain ⟨-, ran⟩ := ensure_bind_inv ran
  obtain ⟨_, h₂, wrote, ran⟩ := failAs_bind_inv ran
  rw [modify_bind_run] at ran
  obtain ⟨_, h₃, exchanged, ran⟩ := failAs_bind_inv ran
  obtain ⟨same, whole⟩ := performCurve25519Kex_ok (failAs_inv ran)
  refine ⟨?_, whole⟩
  rw [same, exchangeKexinit_requests exchanged]
  have first := always_ran read (always_readIdent plumbing_received (fun _ => rfl) unkeyed_flags.setClientIdent _)
  have second : Quiet (fun e => e.received? = none) flags h₁ h₂ :=
    always_ran wrote (always_sendAll plumbing_received _)
  exact (requests_of_quiet second).trans (requests_of_quiet first)

end Handshake

end NoxSsh.Server
