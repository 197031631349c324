/-
# Server.Conduct — what each handler may record and what it leaves alone

For a part of the context that is `Steady`, every handler but the three that open
the gate leaves it alone, whatever arrives and however the handler ends, and it
records nothing but `Chatter`.  The results about the gate and about the time
before login are assembled from these.
-/
import NoxSsh.Server.Serve

namespace NoxSsh.Server

open Theory Proc Wire Transport

set_option autoImplicit false

/-- The events of any handler: all messages but CHANNEL_OPEN_CONFIRMATION. -/
structure Chatter (ok : Event → Prop) : Prop extends Background ok where
  speaks : ∀ number, number ≠ 91 → Speaks ok number

/-- The events of the channel's handlers: all messages but CHANNEL_OPEN_CONFIRMATION and
REQUEST_FAILURE. -/
structure ChannelChatter (ok : Event → Prop) : Prop extends Background ok where
  speaks : ∀ number, number ≠ 91 → number ≠ 82 → Speaks ok number

/-- The events of looking after the child. -/
structure ChildChatter (ok : Event → Prop) : Prop extends ChannelChatter ok where
  childInput : ∀ bytes, ok (.childInput bytes)
  childEot : ok .childEot
  childRefused : ok .childRefused
  childOutput : ∀ bytes, ok (.childOutput bytes)
  childReaped : ∀ status, ok (.childReaped status)

/-- The events of a session, which receives and looks after its child. -/
structure SessionChatter (ok : Event → Prop) : Prop extends Chatter ok, Hearing ok where
  childInput : ∀ bytes, ok (.childInput bytes)
  childEot : ok .childEot
  childRefused : ok .childRefused
  childOutput : ∀ bytes, ok (.childOutput bytes)
  childReaped : ∀ status, ok (.childReaped status)
  sessionGoesOn : ok .sessionGoesOn

theorem Chatter.channel {ok : Event → Prop} (chatter : Chatter ok) : ChannelChatter ok :=
  ⟨chatter.toBackground, fun number other _ => chatter.speaks number other⟩

theorem SessionChatter.child {ok : Event → Prop} (chatter : SessionChatter ok) : ChildChatter ok :=
  ⟨chatter.toChatter.channel, chatter.childInput, chatter.childEot, chatter.childRefused, chatter.childOutput,
    chatter.childReaped⟩

/-- A part of the context that neither packets nor channels touch. -/
structure Steady {γ : Type} (view : Server → γ) : Prop extends Passive view where
  openChannel : ∀ n s, view (openChannel n s) = view s
  setRemoteWindow : ∀ n s, view (setRemoteWindow n s) = view s
  setLocalWindow : ∀ n s, view (setLocalWindow n s) = view s
  setChannelOpen : ∀ b s, view (setChannelOpen b s) = view s
  setSessionStarted : ∀ s, view (setSessionStarted s) = view s
  setRemoteLimits : ∀ w p s, view (setRemoteLimits w p s) = view s
  setPty : ∀ pty s, view (setPty pty s) = view s

/-! ## Senders -/

section Senders

variable {γ : Type} {noxtls : Noxtls} {env : Env} {ok : Event → Prop} {view : Server → γ}

theorem always_sendNumber (background : Background ok) (passive : Passive view) {number : UInt8}
    (speaks : Speaks ok number) (payload : List UInt8) (heads : payload.head? = some number) :
    Always (Quiet ok view) (sendPacket noxtls env payload) :=
  always_sendPacket background passive payload (speaks payload heads).1 (speaks payload heads).2

theorem always_sendBuilt (background : Background ok) (passive : Passive view) {number : UInt8}
    (speaks : Speaks ok number) {built : Option (List UInt8)} (heads : Heads number built) :
    Always (Quiet ok view) (sendBuilt noxtls env built) := by
  refine always_lift_bind (quiet_order ok view) _ fun payload is => ?_
  exact always_sendNumber background passive speaks payload (heads payload is)

theorem always_sendServiceAccept (background : Background ok) (passive : Passive view)
    (speaks : Speaks ok 6) (service : String) :
    Always (Quiet ok view) (sendServiceAccept noxtls env service) :=
  always_sendBuilt background passive speaks ((heads_u8 _ _).then appends_string)

theorem always_sendUserauthFailure (background : Background ok) (passive : Passive view)
    (speaks : Speaks ok 51) (partialSuccess : Bool) :
    Always (Quiet ok view) (sendUserauthFailure noxtls env partialSuccess) :=
  always_sendBuilt background passive speaks (((heads_u8 _ _).then appends_string).then appends_u8)

theorem always_sendUserauthPkOk (background : Background ok) (passive : Passive view)
    (speaks : Speaks ok 60) (alg blob : List UInt8) :
    Always (Quiet ok view) (sendUserauthPkOk noxtls env alg blob) :=
  always_sendBuilt background passive speaks (((heads_u8 _ _).then appends_string).then appends_string)

theorem always_sendChannelMessage (background : Background ok) (passive : Passive view) {number : UInt8}
    (speaks : Speaks ok number) (max : Nat) :
    Always (Quiet ok view) (sendChannelMessage noxtls env max number) :=
  always_bind (quiet_order ok view) always_self fun _ =>
    always_sendBuilt background passive speaks ((heads_u8 _ _).then appends_u32)

theorem always_sendChannelOpenConfirmation (background : Background ok) (steady : Steady view)
    (speaks : Speaks ok 91) (senderChannel : Nat) :
    Always (Quiet ok view) (sendChannelOpenConfirmation noxtls env senderChannel) := by
  have order := quiet_order ok view
  refine always_bind order (always_modify (steady.openChannel _)) fun _ => ?_
  refine always_bind order always_self fun s => ?_
  exact always_sendBuilt background steady.toPassive speaks
    (((((heads_u8 _ _).then appends_u32).then appends_u32).then appends_u32).then appends_u32)

theorem always_sendExitStatus (background : Background ok) (passive : Passive view)
    (speaks : Speaks ok 98) (status : Nat) : Always (Quiet ok view) (sendExitStatus noxtls env status) := by
  refine always_bind (quiet_order ok view) always_self fun s => ?_
  exact always_sendBuilt background passive speaks
    (((((heads_u8 _ _).then appends_u32).then appends_string).then appends_u8).then appends_u32)

theorem always_sendChannelDataChunk (chatter : ChannelChatter ok) (steady : Steady view) (data : List UInt8) :
    Always (Quiet ok view) (sendChannelDataChunk noxtls env data) := by
  have order := quiet_order ok view
  refine always_bind order (always_ensure order _ _) fun _ => ?_
  refine always_bind order always_self fun s => ?_
  refine always_lift_bind order _ fun payload is => ?_
  refine always_bind order (always_ensure order _ _) fun _ => ?_
  refine always_bind order (always_modify (steady.setRemoteWindow _)) fun _ => ?_
  exact always_sendNumber chatter.toBackground steady.toPassive (chatter.speaks 94 (by decide) (by decide)) payload
    ((((heads_u8 _ _).then appends_u32).then appends_string) payload is)

theorem always_maybeWindowAdjust (chatter : ChannelChatter ok) (steady : Steady view) :
    Always (Quiet ok view) (maybeWindowAdjust noxtls env) := by
  have order := quiet_order ok view
  refine always_bind order always_self fun s => always_ite (always_pure order ()) ?_
  refine always_lift_bind order _ fun payload is => ?_
  refine always_bind order (always_modify (steady.setLocalWindow _)) fun _ => ?_
  exact always_sendNumber chatter.toBackground steady.toPassive (chatter.speaks 93 (by decide) (by decide)) payload
    ((((heads_u8 _ _).then appends_u32).then appends_u32) payload is)

end Senders

/-! ## Handlers -/

section Handlers

variable {γ : Type} {noxtls : Noxtls} {env : Env} {ok : Event → Prop} {view : Server → γ}

theorem always_handleGlobalRequest (background : Background ok) (passive : Passive view)
    (speaks : Speaks ok 82) (payload : List UInt8) (m : Mem) :
    Always (Quiet ok view) (handleGlobalRequest noxtls env payload m) := by
  have order := quiet_order ok view
  refine always_bind order (always_ensure order _ _) fun _ => ?_
  refine always_bind order (always_lift order _ _) fun wantReply => ?_
  refine always_ite ?_ (always_pure order ())
  exact always_sendNumber background passive speaks [82] rfl

theorem always_handleChannelEnd (chatter : ChannelChatter ok) (steady : Steady view) (payload : List UInt8)
    (m : Mem) : Always (Quiet ok view) (handleChannelEnd noxtls env payload m) := by
  have order := quiet_order ok view
  refine always_bind order always_self fun s => ?_
  refine always_bind order (always_ensure order _ _) fun _ => ?_
  refine always_ite ?_ (always_pure order ())
  refine always_bind order (always_failAs _ ?_) fun _ => always_modify (steady.setChannelOpen _)
  exact always_sendChannelMessage chatter.toBackground steady.toPassive (chatter.speaks 97 (by decide) (by decide)) 32

theorem always_beginCloseWait (deadlineMs : Nat) :
    Always (Quiet ok view) (beginCloseWait env deadlineMs) := by
  have order := quiet_order ok view
  refine always_ite (always_pure order _) ?_
  refine always_bind order (always_ask _) fun now => ?_
  exact always_bind order (always_ensure order _ _) fun _ => always_pure order _

theorem always_recvInto (background : Background ok) (passive : Passive view) (hearing : Hearing ok)
    (payloadMax : Nat) :
    Always (Quiet ok view) (recvInto noxtls env payloadMax) := by
  have order := quiet_order ok view
  refine always_bind order (always_recvPacket background passive hearing payloadMax) fun payload => ?_
  exact always_bind order (always_ask _) fun _ => always_pure order _

theorem always_writeChild {note : List UInt8 → Event} (input : ∀ bytes, ok (note bytes))
    (refused : ok .childRefused) :
    ∀ (turns : Nat) (data : List UInt8), Always (Quiet ok view) (writeChild env note turns data) := by
  have order := quiet_order ok view
  intro turns
  induction turns with
  | zero =>
      intro data
      cases data with
      | nil => exact always_pure order true
      | cons c data => exact always_stall order
  | succ turns ih =>
      intro data
      cases data with
      | nil => exact always_pure order true
      | cons c data =>
          refine always_bind order (always_ask _) fun upTo => ?_
          refine always_ite ?_ ?_
          · exact always_bind order (always_log refused) fun _ => always_pure order false
          · exact always_bind order (always_log (input _)) fun _ => ih _

end Handlers

/-! ## Login -/

section Login

variable {γ : Type} {noxtls : Noxtls} {env : Env} {ok : Event → Prop} {view : Server → γ}

theorem always_serviceRequest {γ : Type} {ok : Event → Prop} {view : Server → γ} (background : Background ok)
    (passive : Passive view) (speaks : Speaks ok 6) (userauth : ∀ s, view (setUserauthReady s) = view s)
    (connection : ∀ s, view (setConnectionReady s) = view s) (payload : List UInt8) (m : Mem) :
    Always (Quiet ok view) (serviceRequest noxtls env payload m) := by
  have order := quiet_order ok view
  have accepts : ∀ service, Always (Quiet ok view) (failAs .failed (sendServiceAccept noxtls env service)) :=
    fun service => always_failAs _ (always_sendServiceAccept background passive speaks service)
  refine always_bind order (always_lift order _ _) fun got => ?_
  refine always_bind order always_self fun s => always_ite ?_ (always_ite ?_ (always_fail order _))
  · exact always_bind order (always_modify userauth) fun _ => accepts _
  · exact always_bind order (always_modify connection) fun _ => accepts _

/-- What a login may do: its messages, its question, its two updates. -/
structure LoginChatter {γ : Type} (ok : Event → Prop) (view : Server → γ) : Prop
    extends Background ok, Passive view where
  failure : Speaks ok 51
  success : Speaks ok 52
  pkOk : Speaks ok 60
  keyAllowed : ∀ user key answer, ok (.keyAllowed user key answer)
  countAttempt : ∀ s, view (countAttempt s) = view s
  setAuthenticated : ∀ user s, view (setAuthenticated user s) = view s

theorem always_userauthRequest (chatter : LoginChatter ok view) (payload : List UInt8) (m : Mem) :
    Always (Quiet ok view) (userauthRequest noxtls env payload m) := by
  have order := quiet_order ok view
  have refused : Always (Quiet ok view) (sendUserauthFailure noxtls env false) :=
    always_sendUserauthFailure chatter.toBackground chatter.toPassive chatter.failure _
  refine always_bind order always_self fun s => ?_
  refine always_bind order (always_ensure order _ _) fun _ => ?_
  refine always_bind order (always_ensure order _ _) fun _ => ?_
  refine always_bind order (always_modify chatter.countAttempt) fun _ => ?_
  refine always_bind order always_self fun s => ?_
  refine always_bind order (always_ensure order _ _) fun _ => always_failAs _ ?_
  refine always_bind order (always_ensure order _ _) fun _ => ?_
  refine always_bind order (always_lift order _ _) fun user => ?_
  refine always_bind order (always_lift order _ _) fun service => ?_
  refine always_bind order (always_lift order _ _) fun method => ?_
  refine always_ite refused (always_ite ?_ refused)
  refine always_bind order always_self fun s => ?_
  split
  · exact refused
  · refine always_bind order (always_ask _) fun allowed => ?_
    refine always_bind order (always_log (chatter.keyAllowed _ _ _)) fun _ => always_ite ?_ refused
    refine always_ite ?_ (always_ite refused ?_)
    · split
      · exact refused
      · refine always_bind order (always_ask _) fun _ => ?_
        refine always_bind order (always_ensure order _ _) fun _ => ?_
        refine always_bind order always_self fun s => always_ite ?_ refused
        refine always_bind order (always_modify (chatter.setAuthenticated _)) fun _ => ?_
        exact always_sendNumber chatter.toBackground chatter.toPassive chatter.success [52] rfl
    · exact always_sendUserauthPkOk chatter.toBackground chatter.toPassive chatter.pkOk _ _

end Login

/-! ## Handlers that come back -/

section Settles

variable {noxtls : Noxtls} {env : Env}

theorem settles_sendBuilt (built : Option (List UInt8)) : Settles (sendBuilt noxtls env built) :=
  settles_bind (settles_lift _ _) fun _ => settles_sendPacket _

variable (noxtls env) in
theorem settles_handleGlobalRequest (payload : List UInt8) (m : Mem) :
    Settles (handleGlobalRequest noxtls env payload m) := by
  refine settles_bind (settles_ensure _ _) fun _ => ?_
  refine settles_bind (settles_lift _ _) fun wantReply => ?_
  exact settles_ite (settles_sendPacket _) (settles_pure ())

theorem settles_serviceRequest (payload : List UInt8) (m : Mem) :
    Settles (serviceRequest noxtls env payload m) := by
  refine settles_bind (settles_lift _ _) fun got => settles_bind settles_self fun s => ?_
  refine settles_ite ?_ (settles_ite ?_ (settles_fail _))
  · exact settles_bind (settles_modify _) fun _ => settles_failAs _ (settles_sendBuilt _)
  · exact settles_bind (settles_modify _) fun _ => settles_failAs _ (settles_sendBuilt _)

theorem settles_userauthRequest (payload : List UInt8) (m : Mem) :
    Settles (userauthRequest noxtls env payload m) := by
  refine settles_bind settles_self fun s => ?_
  refine settles_bind (settles_ensure _ _) fun _ => settles_bind (settles_ensure _ _) fun _ => ?_
  refine settles_bind (settles_modify _) fun _ => settles_bind settles_self fun s => ?_
  refine settles_bind (settles_ensure _ _) fun _ => settles_failAs _ ?_
  refine settles_bind (settles_ensure _ _) fun _ => ?_
  refine settles_bind (settles_lift _ _) fun user => settles_bind (settles_lift _ _) fun service => ?_
  refine settles_bind (settles_lift _ _) fun method => ?_
  refine settles_ite (settles_sendBuilt _) (settles_ite ?_ (settles_sendBuilt _))
  refine settles_bind settles_self fun s => ?_
  split
  · exact settles_sendBuilt _
  · refine settles_bind (settles_ask _) fun allowed => settles_bind (settles_log _) fun _ => ?_
    refine settles_ite (settles_ite ?_ (settles_ite (settles_sendBuilt _) (settles_sendBuilt _))) (settles_sendBuilt _)
    split
    · exact settles_sendBuilt _
    · refine settles_bind (settles_ask _) fun _ => settles_bind (settles_ensure _ _) fun _ => ?_
      refine settles_bind settles_self fun s => settles_ite ?_ (settles_sendBuilt _)
      exact settles_bind (settles_modify _) fun _ => settles_sendPacket _

theorem settles_beginCloseWait (deadlineMs : Nat) : Settles (beginCloseWait env deadlineMs) := by
  refine settles_ite (settles_pure _) (settles_bind (settles_ask _) fun now => ?_)
  exact settles_bind (settles_ensure _ _) fun _ => settles_pure _

end Settles

/-! ## Dispatch -/

section Dispatch

variable {γ : Type} {noxtls : Noxtls} {env : Env} {ok : Event → Prop} {view : Server → γ}

theorem always_refuse (chatter : ChannelChatter ok) (passive : Passive view) (wantReply : Bool) :
    Always (Quiet ok view) (refuse noxtls env wantReply) := by
  have order := quiet_order ok view
  refine always_ite ?_ (always_pure order ())
  refine always_bind order (always_attempt ?_) fun _ => always_pure order ()
  exact always_sendChannelMessage chatter.toBackground passive (chatter.speaks 100 (by decide) (by decide)) 64

theorem always_confirm (chatter : ChannelChatter ok) (passive : Passive view) (wantReply : Bool) :
    Always (Quiet ok view) (confirm noxtls env wantReply) := by
  refine always_ite (always_failAs _ ?_) (always_pure (quiet_order ok view) ())
  exact always_sendChannelMessage chatter.toBackground passive (chatter.speaks 99 (by decide) (by decide)) 64

theorem always_channelData (chatter : ChannelChatter ok) (steady : Steady view) (payload : List UInt8) (m : Mem) :
    Always (Quiet ok view) (channelData noxtls env payload m) := by
  have order := quiet_order ok view
  refine always_bind order always_self fun s => ?_
  refine always_bind order (always_lift order _ _) fun got => ?_
  refine always_ite (always_pure order ()) ?_
  refine always_bind order (always_lift order _ _) fun got => ?_
  refine always_bind order (always_ite (always_modify (steady.setLocalWindow _)) (always_pure order ()))
    fun _ => ?_
  exact always_bind order (always_attempt (always_maybeWindowAdjust chatter steady)) fun _ =>
    always_pure order ()

theorem always_channelEnd (chatter : ChannelChatter ok) (steady : Steady view) (closeDeadlineMs : Nat)
    (payload : List UInt8) (m : Mem) :
    Always (Quiet ok view) (channelEnd noxtls env closeDeadlineMs payload m) := by
  have order := quiet_order ok view
  refine always_bind order (always_failAs _ (always_handleChannelEnd chatter steady payload m)) fun _ => ?_
  exact always_ite (always_failAs _ (always_beginCloseWait _)) (always_pure order _)

theorem always_packetReady (closeDeadlineMs : Nat) :
    Always (Quiet ok view) (packetReady env closeDeadlineMs) := by
  have order := quiet_order ok view
  refine always_ite ?_ (always_pure order _)
  refine always_bind order (always_ask _) fun now => always_bind order always_self fun s => ?_
  refine always_ite (always_pure order _) (always_ite (always_pure order _) ?_)
  refine always_bind order (always_ask _) fun answer => ?_
  split
  · exact always_pure order _
  · exact always_pure order _
  · exact always_pure order _
  · exact always_ite (always_pure order _) (always_ite (always_pure order _) (always_pure order _))

end Dispatch

/-! ## The session -/

section Session

variable {γ : Type} {noxtls : Noxtls} {env : Env} {ok : Event → Prop} {view : Server → γ}

theorem always_orBreak {m : Prog Server Unit} (first : Always (Quiet ok view) m) :
    Always (Quiet ok view) (orBreak m) := by
  have order := quiet_order ok view
  refine always_bind order (always_attempt first) fun answer => ?_
  cases answer with
  | none => exact always_pure order _
  | some => exact always_pure order _

theorem always_sessionPacket (chatter : ChildChatter ok) (steady : Steady view) (payload : List UInt8) (m : Mem)
    (global : payload.head? = some 80 → Always (Quiet ok view) (handleGlobalRequest noxtls env payload m)) :
    Always (Quiet ok view) (sessionPacket noxtls env payload m) := by
  have order := quiet_order ok view
  have ended : Always (Quiet ok view) (handleChannelEnd noxtls env payload m) :=
    always_handleChannelEnd chatter.toChannelChatter steady payload m
  have fed : ∀ turns data, Always (Quiet ok view) (writeChild env .childInput turns data) :=
    always_writeChild chatter.childInput chatter.childRefused
  have ended' : ∀ turns data, Always (Quiet ok view) (writeChild env (fun _ => .childEot) turns data) :=
    always_writeChild (fun _ => chatter.childEot) chatter.childRefused
  refine always_bind order always_self fun s => ?_
  split
  · exact always_pure order _
  · exact always_orBreak (global ‹_›)
  · split
    · exact always_pure order _
    · refine always_bind order (fed _ _) fun written => always_ite ?_ (always_pure order _)
      refine always_bind order (always_modify (steady.setLocalWindow _)) fun _ => ?_
      exact always_orBreak (always_maybeWindowAdjust chatter.toChannelChatter steady)
  · split
    · exact always_pure order _
    · exact always_bind order (always_modify (steady.setRemoteWindow _)) fun _ => always_pure order _
  · refine always_bind order (always_attempt ended) fun answer => ?_
    split
    · exact always_pure order _
    · refine always_ite ?_ (always_pure order _)
      exact always_bind order (ended' _ _) fun _ => always_pure order _
  · refine always_bind order (always_attempt ended) fun answer => ?_
    split <;> exact always_pure order _
  · exact always_pure order _
  · exact always_ite (always_ite (always_pure order _) (always_pure order _)) (always_pure order _)
  · exact always_pure order _

theorem always_sessionOutput (chatter : ChildChatter ok) (steady : Steady view) (child : Child) :
    Always (Quiet ok view) (sessionOutput noxtls env child) := by
  have order := quiet_order ok view
  refine always_bind order (always_ask _) fun answer => ?_
  split
  · refine always_bind order always_self fun s => always_ite (always_pure order _) ?_
    refine always_bind order (always_log (chatter.childOutput _)) fun _ => ?_
    refine always_bind order (always_attempt (always_sendChannelDataChunk chatter.toChannelChatter steady _)) fun answer => ?_
    split <;> exact always_pure order _
  · exact always_pure order _
  · exact always_pure order _
  · exact always_pure order _

theorem always_reapChild (reaped : ∀ status, ok (.childReaped status)) (child : Child) :
    Always (Quiet ok view) (reapChild env child) := by
  have order := quiet_order ok view
  refine always_ite ?_ (always_pure order _)
  refine always_bind order (always_ask _) fun answer => ?_
  cases answer with
  | none => exact always_pure order _
  | some status => exact always_bind order (always_log (reaped status)) fun _ => always_pure order _

theorem always_sessionReap (chatter : ChildChatter ok) (steady : Steady view) (child : Child) :
    Always (Quiet ok view) (sessionReap noxtls env child) := by
  have order := quiet_order ok view
  have message : ∀ number, number ≠ 91 → number ≠ 82 →
      Always (Quiet ok view) (sendChannelMessage noxtls env 32 number) := fun number other other' =>
    always_sendChannelMessage chatter.toBackground steady.toPassive (chatter.speaks number other other') 32
  refine always_bind order (always_reapChild chatter.childReaped child) fun reaped => ?_
  dsimp only
  split
  · refine always_bind order (always_attempt ?_) fun answer => ?_
    · refine always_bind order (always_sendExitStatus chatter.toBackground steady.toPassive
        (chatter.speaks 98 (by decide) (by decide)) _) fun _ => ?_
      exact always_bind order (message 96 (by decide) (by decide)) fun _ => message 97 (by decide) (by decide)
    · split
      · exact always_pure order _
      · exact always_bind order (always_modify (steady.setChannelOpen _)) fun _ => always_pure order _
  · exact always_pure order _

theorem always_sessionChild (chatter : ChildChatter ok) (steady : Steady view) (child : Child) (ready : Bool) :
    Always (Quiet ok view) (sessionChild noxtls env child ready) := by
  have order := quiet_order ok view
  refine always_ite ?_ (always_sessionReap chatter steady child)
  refine always_bind order always_self fun s => always_ite (always_pure order _) ?_
  refine always_bind order (always_sessionOutput chatter steady child) fun answer => ?_
  split
  · exact always_pure order _
  · exact always_sessionReap chatter steady _

theorem always_sessionTurn (chatter : SessionChatter ok) (steady : Steady view) (child : Child) :
    Always (Quiet ok view) (sessionTurn noxtls env child) := by
  have order := quiet_order ok view
  refine always_bind order always_self fun s => always_ite (always_pure order _) ?_
  refine always_bind order (always_ask _) fun answer => ?_
  split
  · exact always_pure order _
  · exact always_pure order _
  · exact always_ite (always_sessionChild chatter.child steady _ _) (always_pure order _)
  · refine always_ite (always_pure order _) (always_ite ?_ (always_sessionChild chatter.child steady _ _))
    refine always_bind order (always_attempt (always_recvInto chatter.toBackground steady.toPassive
      chatter.toHearing _)) fun got => ?_
    split
    · exact always_pure order _
    · refine always_bind order (always_sessionPacket chatter.child steady _ _ fun _ => always_handleGlobalRequest
        chatter.toBackground steady.toPassive (chatter.speaks 82 (by decide)) _ _) fun answer => ?_
      split
      · exact always_pure order _
      · exact always_bind order (always_log chatter.sessionGoesOn) fun _ =>
          always_sessionChild chatter.child steady _ _

theorem always_sessionLoop (chatter : SessionChatter ok) (steady : Steady view) :
    ∀ (turns : Nat) (child : Child), Always (Quiet ok view) (sessionLoop noxtls env turns child) := by
  have order := quiet_order ok view
  intro turns
  induction turns with
  | zero => exact fun _ => always_stall order
  | succ turns ih =>
      intro child
      refine always_bind order (always_sessionTurn chatter steady child) fun turn => ?_
      cases turn with
      | again child => exact ih child
      | complete => exact always_pure order ()
      | broken peerClosed =>
          refine always_bind order (always_modify (steady.setChannelOpen _)) fun _ => ?_
          exact always_ite (always_pure order ()) (always_fail order _)

end Session

/-! ## The handshake -/

/-- A part of the context that the handshake does not touch. -/
structure Unkeyed {γ : Type} (view : Server → γ) : Prop extends Passive view where
  setClientIdent : ∀ ident s, view (setClientIdent ident s) = view s
  setConnected : ∀ s, view (setConnected s) = view s
  setKexinitClient : ∀ payload s, view (setKexinitClient payload s) = view s
  setKexinitServer : ∀ payload s, view (setKexinitServer payload s) = view s
  setKexinitExchanged : ∀ s, view (setKexinitExchanged s) = view s
  setExchange : ∀ hash secret s, view (setExchange hash secret s) = view s
  setKeys : ∀ keys s, view (setKeys keys s) = view s
  setKeyExchangeComplete : ∀ s, view (setKeyExchangeComplete s) = view s

/-- The events of a handshake. -/
structure KexChatter (ok : Event → Prop) : Prop extends Background ok, Hearing ok where
  kexinit : Speaks ok 20
  newkeys : Speaks ok 21
  reply : Speaks ok 31

section Handshake

variable {γ : Type} {noxtls : Noxtls} {env : Env} {ok : Event → Prop} {view : Server → γ}

theorem always_buildKexinit : Always (Quiet ok view) (buildKexinit env) :=
  always_bind (quiet_order ok view) (always_failAs _ (always_fillRandom _)) fun _ =>
    always_lift (quiet_order ok view) _ _

theorem buildKexinit_head {h h' : Host Server} {tx : List UInt8}
    (ran : (buildKexinit env).run h = (.ok tx, h')) : tx.head? = some 20 := by
  obtain ⟨cookie, h₁, -, ran⟩ := bind_inv ran
  exact heads_kexinit tx (lift_inv ran).1

theorem replyTo_head {h h' : Host Server} {clientPub reply : List UInt8}
    (ran : (replyTo noxtls env clientPub).run h = (.ok reply, h')) : reply.head? = some 31 := by
  rw [replyTo] at ran
  obtain ⟨seed, h₁, -, ran⟩ := bind_inv ran
  obtain ⟨serverPub, -, ran⟩ := lift_bind_inv ran
  obtain ⟨secret, -, ran⟩ := lift_bind_inv ran
  rw [self_bind_run] at ran
  obtain ⟨hostBlob, -, ran⟩ := lift_bind_inv ran
  obtain ⟨exchangeHash, -, ran⟩ := lift_bind_inv ran
  rw [modify_bind_run] at ran
  obtain ⟨signature, -, ran⟩ := lift_bind_inv ran
  obtain ⟨sigWire, -, ran⟩ := lift_bind_inv ran
  have heads : Heads 31 (buildKexReply hostBlob serverPub sigWire) :=
    (((heads_u8 2048 31).then appends_string).then appends_string).then appends_string
  exact heads reply (lift_inv ran).1

theorem always_exchangeKexinit (chatter : KexChatter ok) (unkeyed : Unkeyed view) :
    Always (Quiet ok view) (exchangeKexinit noxtls env) := by
  have order := quiet_order ok view
  refine always_bind order always_self fun s => ?_
  refine always_bind order (always_ensure order _ _) fun _ => ?_
  refine always_bind order (always_failAs _ (always_recvInto chatter.toBackground unkeyed.toPassive
    chatter.toHearing _)) fun got => ?_
  refine always_bind order (always_ensure order _ _) fun _ => ?_
  refine always_bind order (always_ensure order _ _) fun _ => ?_
  refine always_bind order (always_modify (unkeyed.setKexinitClient _)) fun _ => ?_
  refine always_bind order (always_ensure order _ _) fun _ => ?_
  refine always_bind_ran order (always_failAs _ always_buildKexinit) fun h tx h' ran => ?_
  have number := buildKexinit_head (failAs_inv ran)
  refine always_bind order (always_ensure order _ _) (fun _ => ?_) h'
  refine always_bind order (always_modify (unkeyed.setKexinitServer _)) fun _ => ?_
  refine always_bind order (always_failAs _ ?_) fun _ => always_modify unkeyed.setKexinitExchanged
  exact always_sendNumber chatter.toBackground unkeyed.toPassive chatter.kexinit tx number

theorem always_replyTo (exchange : ∀ hash secret s, view (setExchange hash secret s) = view s)
    (clientPub : List UInt8) : Always (Quiet ok view) (replyTo noxtls env clientPub) := by
  have order := quiet_order ok view
  refine always_bind order (always_failAs _ (always_fillRandom _)) fun seed => ?_
  refine always_bind order (always_lift order _ _) fun serverPub => ?_
  refine always_bind order (always_lift order _ _) fun secret => ?_
  refine always_bind order always_self fun s => ?_
  refine always_bind order (always_lift order _ _) fun hostBlob => ?_
  refine always_bind order (always_lift order _ _) fun exchangeHash => ?_
  refine always_bind order (always_modify (exchange _ _)) fun _ => ?_
  refine always_bind order (always_lift order _ _) fun signature => ?_
  refine always_bind order (always_lift order _ _) fun sigWire => ?_
  exact always_lift order _ _

theorem always_performCurve25519Kex (chatter : KexChatter ok) (unkeyed : Unkeyed view) :
    Always (Quiet ok view) (performCurve25519Kex noxtls env) := by
  have order := quiet_order ok view
  have receives : ∀ payloadMax, Always (Quiet ok view) (recvInto noxtls env payloadMax) :=
    always_recvInto chatter.toBackground unkeyed.toPassive chatter.toHearing
  refine always_bind order always_self fun s => ?_
  refine always_bind order (always_ensure order _ _) fun _ => ?_
  refine always_bind order (always_failAs _ (receives _)) fun got => ?_
  refine always_bind order (always_ensure order _ _) fun _ => ?_
  refine always_bind order (always_lift order _ _) fun view => ?_
  refine always_bind order (always_ensure order _ _) fun _ => ?_
  refine always_bind_ran order (always_replyTo unkeyed.setExchange _) fun h reply h' ran => ?_
  have number := replyTo_head ran
  refine always_bind order (always_failAs _ ?_) (fun _ => ?_) h'
  · exact always_sendNumber chatter.toBackground unkeyed.toPassive chatter.reply reply number
  refine always_bind order (always_failAs _ ?_) fun _ => ?_
  · exact always_sendNumber chatter.toBackground unkeyed.toPassive chatter.newkeys [21] rfl
  refine always_bind order (always_failAs _ (receives _)) fun got => ?_
  refine always_bind order (always_ensure order _ _) fun _ => ?_
  refine always_bind order (always_failAs _ ?_) fun _ => always_modify unkeyed.setKeyExchangeComplete
  refine always_bind order always_self fun s => ?_
  refine always_bind order (always_ensure order _ _) fun _ => ?_
  exact always_bind order (always_lift order _ _) fun keys => always_modify (unkeyed.setKeys keys)

theorem always_readIdent (plumbing : Plumbing ok) (receiving : ∀ looked, ok (.receiving looked))
    (named : ∀ ident s, view (setClientIdent ident s) = view s) :
    ∀ lines : Nat, Always (Quiet ok view) (readIdent env lines) := by
  have order := quiet_order ok view
  intro lines
  induction lines with
  | zero => exact always_pure order ()
  | succ lines ih =>
      refine always_bind order (always_failAs _ (always_recvLine plumbing receiving _)) fun line => ?_
      refine always_ite ?_ ih
      cases copyString 256 line with
      | error e => exact always_fail order _
      | ok ident => exact always_modify (named ident)

theorem always_handshakeToEncrypted (chatter : KexChatter ok) (unkeyed : Unkeyed view) :
    Always (Quiet ok view) (handshakeToEncrypted noxtls env) := by
  have order := quiet_order ok view
  refine always_bind order always_self fun s => ?_
  refine always_bind order (always_ensure order _ _) fun _ => ?_
  refine always_bind order (always_readIdent chatter.toPlumbing chatter.receiving unkeyed.setClientIdent _) fun _ => ?_
  refine always_bind order always_self fun s => ?_
  refine always_bind order (always_ensure order _ _) fun _ => ?_
  refine always_bind order (always_failAs _ (always_sendAll chatter.toPlumbing _)) fun _ => ?_
  refine always_bind order (always_modify unkeyed.setConnected) fun _ => ?_
  refine always_bind order (always_failAs _ (always_exchangeKexinit chatter unkeyed)) fun _ => ?_
  exact always_failAs _ (always_performCurve25519Kex chatter unkeyed)

end Handshake

end NoxSsh.Server
