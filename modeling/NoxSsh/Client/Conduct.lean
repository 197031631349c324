/-
# Client.Conduct — what the client's functions keep

Every call is made of a few steps: it moves packets, it waits, it exchanges keys, it
updates a field.  Whoever has an invariant of these steps has it of every call and
of every program of calls.

* `Exchanges` lists the steps of a key exchange.  From it follow the three functions
  that call each other, by induction on how many exchanges are under way
  (`Exchanges.waits`), and with them everything that begins an exchange.
* `Calling` lists what the other functions do.  Some of them check a flag of the
  context first, so the invariant `J` behind the check may be stronger than the
  invariant `I` before it and after the call.
-/
import NoxSsh.Client.Calls

namespace NoxSsh.Client

open Theory Proc Wire Transport

set_option autoImplicit false

/-! ## Receiving into a buffer -/

theorem always_recvInto {γ : Type} {noxtls : Noxtls} {env : Env} {ok : Event → Prop} {view : Client → γ}
    (background : Background ok) (passive : Passive view) (hearing : Hearing ok) (payloadMax : Nat) :
    Always (Quiet ok view) (recvInto noxtls env payloadMax) := by
  have order := quiet_order ok view
  refine always_bind order (always_recvPacket background passive hearing payloadMax) fun payload => ?_
  exact always_bind order (always_ask _) fun _ => always_pure order _

/-- A packet has come in; `P` held until it was recorded. -/
def Heard (P : Host Client → Prop) (payloadMax : Nat) (arrival : Arrival) (h : Host Client) : Prop :=
  ∃ h₀ rest, P h₀ ∧ arrival.1.length ≤ payloadMax ∧ arrival.2 = memOf arrival.1 rest ∧
    h = { h₀ with tick := h₀.tick + 1, trace := h₀.trace ++ [(.received arrival.1, h₀.self)] }

/-- What the quiet part of receiving keeps holds until the packet is recorded. -/
theorem triple_recvInto {γ : Type} {noxtls : Noxtls} {env : Env} {ok : Event → Prop} {view : Client → γ}
    {P : Host Client → Prop} (background : Background ok) (receiving : ∀ looked, ok (.receiving looked))
    (passive : Passive view) (carries : ∀ h h', Quiet ok view h h' → P h → P h') (payloadMax : Nat) :
    Triple P (recvInto noxtls env payloadMax) (Heard P payloadMax) (Breaks P P) := by
  constructor
  intro h holds
  have reads : ∀ len room, Always (Quiet ok view) (recvExact env len room) :=
    always_recvExact background.toPlumbing receiving
  have counts : ∀ n c, view (uncounted n c) = view c := fun _ _ => rfl
  have cases := recvPacketWith_cases noxtls background.macAccepted passive.recvCounter passive.recvSeq counts reads
    payloadMax h
  rw [recvInto, bind_run, recvPacket]
  rcases cases with ⟨payload, h', ran, short, quiet⟩ | ⟨o, h', ran, none, quiet⟩
  · rw [ran]
    exact ⟨h', env.stale h'.tick, carries h h' quiet holds, short, rfl, rfl⟩
  · rw [ran]
    cases o with
    | ok payload => exact absurd rfl (none payload)
    | err e => exact carries h h' quiet holds
    | stuck => exact carries h h' quiet holds

/-! ## Key exchanges -/

section Waiting

variable {noxtls : Noxtls} {env : Env} {P I S : Host Client → Prop}

/-- Waiting keeps `P` if handling a KEXINIT does, given `R` of what has come in. -/
theorem triple_waitLoop_heard {R : Arrival → Host Client → Prop} (excuse : ∀ h, P h → I h)
    (asks : ∀ h, P h → P { h with tick := h.tick + 1 }) (heard : ∀ arrival h, R arrival h → P h)
    (receives : Triple P (recvInto noxtls env maxPacketLen) R (Breaks I S))
    {handle : List UInt8 → Mem → Prog Client Unit}
    (handles : ∀ rx m, Triple (R (rx, m)) (handle rx m) (fun _ => P) (Breaks I S)) (a b : UInt8) (outMax turns : Nat) :
    Triple P (waitLoop noxtls env handle a b outMax turns) (fun _ => P) (Breaks I S) := by
  induction turns with
  | zero => exact triple_fail _ excuse
  | succ turns ih =>
      apply triple_bind receives.failAs
      rintro ⟨rx, m⟩
      dsimp only
      split
      · exact ih.mono (heard _) (fun _ _ => id) fun _ _ => id
      · apply triple_ite
        · exact fun _ => triple_bind (handles rx m).failAs fun _ => ih
        · intro _
          refine Triple.mono (P := P) ?_ (heard _) (fun _ _ => id) (fun _ _ => id)
          apply triple_ite _ fun _ => ih
          intro _
          apply triple_ensure_bind _ excuse
          exact fun _ => triple_bind (triple_ask asks) fun _ => triple_pure _ fun _ => id

/-- Waiting keeps what receiving and handling a KEXINIT keep. -/
theorem triple_waitLoop (excuse : ∀ h, P h → I h) (asks : ∀ h, P h → P { h with tick := h.tick + 1 })
    (receives : ∀ payloadMax, Triple P (recvInto noxtls env payloadMax) (fun _ => P) (Breaks I S))
    {handle : List UInt8 → Mem → Prog Client Unit} (handles : ∀ rx m, Triple P (handle rx m) (fun _ => P) (Breaks I S))
    (a b : UInt8) (outMax turns : Nat) :
    Triple P (waitLoop noxtls env handle a b outMax turns) (fun _ => P) (Breaks I S) :=
  triple_waitLoop_heard (R := fun _ => P) excuse asks (fun _ _ => id) (receives _) handles a b outMax turns

end Waiting

/-- The steps that answer a KEXINIT keep `I`. -/
structure Answering (noxtls : Noxtls) (env : Env) (I S : Host Client → Prop) : Prop where
  asks : ∀ h, I h → I { h with tick := h.tick + 1 }
  sends : ∀ number : UInt8, number = 20 ∨ number = 21 ∨ number = 30 →
    ∀ payload, payload.head? = some number → Stays I S (sendPacket noxtls env payload)
  kexinitClient : ∀ payload h, I h → I { h with self := setKexinitClient payload h.self }
  kexinitServer : ∀ payload h, I h → I { h with self := setKexinitServer payload h.self }
  kexinitExchanged : ∀ h, I h → I { h with self := setKexinitExchanged h.self }

/-- So do the steps that propose an exchange: building, sending and receiving KEXINIT. -/
structure Proposing (noxtls : Noxtls) (env : Env) (I S : Host Client → Prop) : Prop
    extends Answering noxtls env I S where
  receives : ∀ payloadMax, Stays I S (recvInto noxtls env payloadMax)

section Proposing

variable {noxtls : Noxtls} {env : Env} {I S : Host Client → Prop} {Q : Unit → Host Client → Prop}
  (answering : Answering noxtls env I S) (proposing : Proposing noxtls env I S)

include answering in
theorem Answering.builds {α : Type} {k : List UInt8 → Prog Client α} {Q : α → Host Client → Prop}
    (rest : ∀ tx : List UInt8, tx.head? = some 20 → Triple I (k tx) Q (Breaks I S)) :
    Triple I (failAs .failed (buildKexinit env) >>= k) Q (Breaks I S) := by
  constructor
  intro h holds
  rw [bind_run, failAs_run, buildKexinit_run]
  have asked := answering.asks h holds
  cases built : buildKexinitPayload 1024 algLists (slice (env.rand h.tick) 0 16) with
  | none => exact asked
  | some tx => exact (rest tx (heads_kexinit tx built)).ends _ asked

include answering in
/-- Answering a KEXINIT ends as the exchange ends. -/
theorem Answering.handles {perform : Prog Client Unit} (performs : Triple I perform Q (Breaks I S))
    (rx : List UInt8) (m : Mem) : Triple I (handleWith noxtls env perform rx m) Q (Breaks I S) := by
  unfold handleWith
  apply stays_ensure_bind
  intro _
  apply stays_ensure_bind
  intro _
  apply stays_ensure_bind
  intro _
  apply stays_ensure_bind
  intro _
  apply triple_bind (stays_modify (answering.kexinitServer rx))
  intro _
  apply answering.builds
  intro tx number
  apply stays_ensure_bind
  intro _
  apply triple_bind (stays_modify (answering.kexinitClient tx))
  intro _
  apply triple_bind (answering.sends 20 (by simp) tx number).failAs
  intro _
  exact triple_bind (stays_modify answering.kexinitExchanged) fun _ => performs

include proposing in
/-- So does an exchange the client begins. -/
theorem Proposing.exchanges (performs : Triple I (performCurve25519Kex noxtls env) Q (Breaks I S)) :
    Triple I (exchangeKexinit noxtls env) Q (Breaks I S) := by
  unfold exchangeKexinit
  apply triple_self_bind
  intro c
  apply stays_ensure_bind
  intro _
  apply proposing.toAnswering.builds
  intro tx number
  apply stays_ensure_bind
  intro _
  apply triple_bind (stays_modify (proposing.kexinitClient tx))
  intro _
  apply triple_bind (proposing.sends 20 (by simp) tx number).failAs
  intro _
  apply triple_bind (proposing.receives _).failAs
  rintro ⟨rx, m⟩
  apply stays_ensure_bind
  intro _
  apply stays_ensure_bind
  intro _
  apply triple_bind (stays_modify (proposing.kexinitServer rx))
  intro _
  apply stays_ensure_bind
  intro _
  exact triple_bind (stays_modify proposing.kexinitExchanged) fun _ => performs

end Proposing

/-- Every step within a key exchange keeps `I`; a step that has not come back is in `S`. -/
structure Exchanging (noxtls : Noxtls) (env : Env) (I S : Host Client → Prop) : Prop
    extends Proposing noxtls env I S where
  weaker : ∀ h, I h → S h
  takes : ∀ priv pub m reply, Stays I S (takeReply noxtls priv pub m reply)
  derives : Stays I S (deriveKeys noxtls env)
  complete : ∀ h, I h → I { h with self := setKeyExchangeComplete h.self }
  done : ∀ exchangeHash secret h, I h → I { h with trace := h.trace ++ [(.kexDone exchangeHash secret, h.self)] }

/-- And so do its beginning and its end. -/
structure Exchanges (noxtls : Noxtls) (env : Env) (I S : Host Client → Prop) : Prop
    extends Exchanging noxtls env I S where
  entered : ∀ h, I h → I { h with trace := h.trace ++ [(.kexEntered, h.self)] }
  left : ∀ completed h, I h → I { h with trace := h.trace ++ [(.kexLeft completed, h.self)] }

section Exchanges

variable {noxtls : Noxtls} {env : Env} {I S : Host Client → Prop} (exchanging : Exchanging noxtls env I S)
  (exchanges : Exchanges noxtls env I S)

include exchanging in
theorem Exchanging.exchangesKeys {wait : UInt8 → UInt8 → Nat → Prog Client Arrival}
    (waits : ∀ a b n, Stays I S (wait a b n)) : Stays I S (exchangeKeys noxtls env wait) := by
  apply stays_bind (triple_ask exchanging.asks)
  intro generated
  apply stays_lift_bind
  rintro ⟨priv, pub⟩ -
  apply stays_lift_bind
  intro init built
  have number : init.head? = some 30 := ((heads_u8 _ _).then appends_string) init built
  apply stays_bind (exchanging.sends 30 (by simp) init number).failAs
  intro _
  apply stays_bind (waits _ _ _).failAs
  rintro ⟨rx, m⟩
  apply stays_ensure_bind
  intro _
  apply stays_lift_bind
  intro reply _
  apply stays_bind (exchanging.takes priv pub m reply)
  rintro ⟨exchangeHash, secret⟩
  apply stays_bind (exchanging.sends 21 (by simp) [21] rfl).failAs
  intro _
  apply stays_bind (waits _ _ _).failAs
  rintro ⟨rx, _⟩
  apply stays_ensure_bind
  intro _
  apply stays_bind exchanging.derives.failAs
  intro _
  apply stays_bind (stays_modify exchanging.complete)
  intro _
  exact stays_log (exchanging.done exchangeHash secret)

include exchanges

theorem Exchanges.performs {wait : UInt8 → UInt8 → Nat → Prog Client Arrival}
    (waits : ∀ a b n, Stays I S (wait a b n)) : Stays I S (performWith noxtls env wait) := by
  apply triple_self_bind
  intro c
  apply stays_ensure_bind
  intro _
  apply stays_bind (stays_log exchanges.entered)
  intro _
  exact triple_leaving (exchanges.toExchanging.exchangesKeys waits) (fun _ => exchanges.left true)
    (fun _ => exchanges.left false) fun _ => id

theorem Exchanges.waitsNested (depth : Nat) (a b : UInt8) (outMax : Nat) :
    Stays I S (waitNested noxtls env depth a b outMax) := by
  induction depth generalizing a b outMax with
  | zero =>
      exact triple_waitLoop (fun _ => id) exchanges.asks exchanges.receives
        (fun _ _ => stays_stall exchanges.weaker) a b outMax _
  | succ depth ih =>
      exact triple_waitLoop (fun _ => id) exchanges.asks exchanges.receives
        (exchanges.toAnswering.handles (exchanges.performs ih)) a b outMax _

theorem Exchanges.waits (a b : UInt8) (outMax : Nat) : Stays I S (waitForMessage noxtls env a b outMax) :=
  triple_byInbox fun depth => exchanges.waitsNested depth a b outMax

theorem Exchanges.handles (rx : List UInt8) (m : Mem) : Stays I S (handleServerKexinit noxtls env rx m) :=
  exchanges.toAnswering.handles (exchanges.performs exchanges.waits) rx m

theorem Exchanges.exchangesKexinit : Stays I S (exchangeKexinit noxtls env) :=
  exchanges.toProposing.exchanges (exchanges.performs exchanges.waits)

end Exchanges

/-! ## Exchanges that do not touch a part of the context -/

/-- A part of the context that neither packets nor the keys of an exchange touch. -/
structure Unkeyed {γ : Type} (view : Client → γ) : Prop extends Passive view where
  setHostKeyBlob : ∀ blob c, view (setHostKeyBlob blob c) = view c
  setFingerprint : ∀ fingerprint c, view (setFingerprint fingerprint c) = view c
  setExchangeHash : ∀ exchangeHash c, view (setExchangeHash exchangeHash c) = view c
  setSecret : ∀ secret c, view (setSecret secret c) = view c
  setKeys : ∀ keys c, view (setKeys keys c) = view c

/-- A part that an exchange does not touch at all. -/
structure Steady {γ : Type} (view : Client → γ) : Prop extends Unkeyed view where
  setKexinitClient : ∀ payload c, view (setKexinitClient payload c) = view c
  setKexinitServer : ∀ payload c, view (setKexinitServer payload c) = view c
  setKexinitExchanged : ∀ c, view (setKexinitExchanged c) = view c
  setKeyExchangeComplete : ∀ c, view (setKeyExchangeComplete c) = view c

/-- The events of a host key. -/
structure Presenting (ok : Event → Prop) : Prop where
  presented : ∀ blob, ok (.hostKeyPresented blob)
  verified : ∀ blob exchangeHash secret, ok (.hostKeyVerified blob exchangeHash secret)

/-- The events of an exchange. -/
structure KexChatter (ok : Event → Prop) : Prop extends Background ok, Hearing ok, Presenting ok where
  speaks : ∀ number : UInt8, number = 20 ∨ number = 21 ∨ number = 30 → Speaks ok number
  entered : ok .kexEntered
  left : ∀ completed, ok (.kexLeft completed)
  done : ∀ exchangeHash secret, ok (.kexDone exchangeHash secret)

section Steady

variable {γ : Type} {noxtls : Noxtls} {env : Env} {ok : Event → Prop} {view : Client → γ}

theorem always_takeReply (presenting : Presenting ok) (unkeyed : Unkeyed view) (priv pub : List UInt8) (m : Mem)
    (reply : KexReply) : Always (Quiet ok view) (takeReply noxtls priv pub m reply) := by
  have order := quiet_order ok view
  refine always_bind order (always_log (presenting.presented _)) fun _ => ?_
  refine always_bind order (always_modify (unkeyed.setHostKeyBlob _)) fun _ => ?_
  refine always_bind order (always_lift order _ _) fun fingerprint => ?_
  refine always_bind order (always_modify (unkeyed.setFingerprint _)) fun _ => ?_
  refine always_bind order (always_lift order _ _) fun secret => ?_
  refine always_bind order always_self fun c => ?_
  refine always_bind order (always_lift order _ _) fun exchangeHash => ?_
  refine always_bind order (always_modify (unkeyed.setExchangeHash _)) fun _ => ?_
  refine always_bind order (always_ensure order _ _) fun _ => ?_
  refine always_bind order (always_log (presenting.verified _ _ _)) fun _ => ?_
  exact always_bind order (always_modify (unkeyed.setSecret _)) fun _ => always_pure order _

theorem always_deriveKeys (unkeyed : Unkeyed view) : Always (Quiet ok view) (deriveKeys noxtls env) := by
  have order := quiet_order ok view
  refine always_bind order always_self fun c => ?_
  refine always_bind order (always_ensure order _ _) fun _ => ?_
  exact always_bind order (always_lift order _ _) fun keys => always_modify (unkeyed.setKeys _)

theorem quiet_update {h₀ h : Host Client} (quiet : Quiet ok view h₀ h) {f : Client → Client}
    (same : ∀ c, view (f c) = view c) : Quiet ok view h₀ { h with self := f h.self } :=
  (quiet_order ok view).trans quiet ⟨same h.self, [], by simp, by simp⟩

theorem quiet_log {h₀ h : Host Client} (quiet : Quiet ok view h₀ h) {e : Event} (fine : ok e) :
    Quiet ok view h₀ { h with trace := h.trace ++ [(e, h.self)] } :=
  (quiet_order ok view).trans quiet ⟨rfl, [(e, h.self)], rfl, by simp [fine]⟩

/-- What steps that are quiet keep, answering a KEXINIT keeps. -/
theorem answering_of_carries {P S : Host Client → Prop} (background : Background ok)
    (speaks : ∀ number : UInt8, number = 20 ∨ number = 21 ∨ number = 30 → Speaks ok number) (steady : Steady view)
    (carries : ∀ h h', Quiet ok view h h' → P h → P h') (weaker : ∀ h, P h → S h) : Answering noxtls env P S := by
  have sets : ∀ {f : Client → Client}, (∀ c, view (f c) = view c) → ∀ h, P h → P { h with self := f h.self } :=
    fun same h holds => carries h _ (quiet_update ((quiet_order ok view).refl h) same) holds
  exact {
    asks := fun h holds => carries h _ (quiet_of_eq rfl rfl) holds
    sends := fun number known payload heads => stays_of_always weaker (always_sendPacket background steady.toPassive
      payload (speaks number known payload heads).1 (speaks number known payload heads).2) carries
    kexinitClient := fun payload => sets (steady.setKexinitClient payload)
    kexinitServer := fun payload => sets (steady.setKexinitServer payload)
    kexinitExchanged := sets steady.setKexinitExchanged }

/-- What receiving keeps as well, an exchange keeps. -/
theorem exchanging_of_carries {P S : Host Client → Prop} (background : Background ok) (presenting : Presenting ok)
    (speaks : ∀ number : UInt8, number = 20 ∨ number = 21 ∨ number = 30 → Speaks ok number)
    (done : ∀ exchangeHash secret, ok (.kexDone exchangeHash secret)) (steady : Steady view)
    (carries : ∀ h h', Quiet ok view h h' → P h → P h') (weaker : ∀ h, P h → S h)
    (receives : ∀ payloadMax, Stays P S (recvInto noxtls env payloadMax)) : Exchanging noxtls env P S where
  toAnswering := answering_of_carries background speaks steady carries weaker
  receives := receives
  weaker := weaker
  takes priv pub m reply :=
    stays_of_always weaker (always_takeReply presenting steady.toUnkeyed priv pub m reply) carries
  derives := stays_of_always weaker (always_deriveKeys steady.toUnkeyed) carries
  complete h holds := carries h _ (quiet_update ((quiet_order ok view).refl h) steady.setKeyExchangeComplete) holds
  done exchangeHash secret h holds :=
    carries h _ (quiet_log ((quiet_order ok view).refl h) (done exchangeHash secret)) holds

theorem exchanges_quiet (chatter : KexChatter ok) (steady : Steady view) (h₀ : Host Client) :
    Exchanges noxtls env (Quiet ok view h₀) (Quiet ok view h₀) where
  toExchanging := exchanging_of_carries chatter.toBackground chatter.toPresenting chatter.speaks chatter.done steady
    (fun _ _ step quiet => (quiet_order ok view).trans quiet step) (fun _ => id) fun n =>
      stays_of_always (fun _ => id) (always_recvInto chatter.toBackground steady.toPassive chatter.toHearing n)
        fun _ _ step quiet => (quiet_order ok view).trans quiet step
  entered _ quiet := quiet_log quiet chatter.entered
  left completed _ quiet := quiet_log quiet (chatter.left completed)

/-- Anything may be recorded, and nothing is looked at. -/
theorem chatter_any : KexChatter fun _ => True :=
  ⟨⟨⟨fun _ => trivial, trivial, trivial⟩, fun _ _ => trivial, fun _ _ => trivial⟩, ⟨fun _ => trivial, fun _ => trivial⟩,
    ⟨fun _ => trivial, fun _ _ _ => trivial⟩, fun _ _ _ _ => ⟨trivial, trivial⟩, trivial, fun _ => trivial,
    fun _ _ => trivial⟩

theorem steady_unit : Steady fun _ : Client => () :=
  ⟨⟨⟨fun _ _ => rfl, fun _ _ => rfl, fun _ _ => rfl, fun _ _ => rfl⟩, fun _ _ => rfl, fun _ _ => rfl, fun _ _ => rfl,
    fun _ _ => rfl, fun _ _ => rfl⟩, fun _ _ => rfl, fun _ _ => rfl, fun _ => rfl, fun _ => rfl⟩

/-- The run `h` follows `h₀`. -/
abbrev Follows (h₀ h : Host Client) : Prop := Quiet (fun _ => True) (fun _ : Client => ()) h₀ h

theorem exchanges_follows (h₀ : Host Client) : Exchanges noxtls env (Follows h₀) (Follows h₀) :=
  exchanges_quiet chatter_any steady_unit h₀

end Steady

/-! ## Calls -/

/-- What the calls do that neither send channel data nor capture an exit status: `I` holds
between them, `J` once a call has seen the flag it asks for. -/
structure Serving (noxtls : Noxtls) (env : Env) (I J S : Host Client → Prop) : Prop where
  weaker : ∀ h, I h → S h
  sharper : ∀ h, J h → I h
  keyed : ∀ h, I h → h.self.keyExchangeComplete = true → J h
  opened : ∀ h, I h → h.self.channelOpen = true → J h
  receives : ∀ payloadMax, Stays I S (recvInto noxtls env payloadMax)
  handles : ∀ rx m, Stays I S (handleServerKexinit noxtls env rx m)
  exchanges : Stays I S (exchangeKexinit noxtls env)
  waits : ∀ a b outMax, Stays J S (waitForMessage noxtls env a b outMax)
  sends : ∀ number ∈ [(2 : UInt8), 5, 50, 90, 98], ∀ payload, payload.head? = some number →
    Stays J S (sendPacket noxtls env payload)
  userauthReady : ∀ h, J h → J { h with self := setUserauthReady h.self }
  connectionReady : ∀ h, J h → J { h with self := setConnectionReady h.self }
  authenticated : ∀ h, J h → J { h with self := setAuthenticated h.self }
  localChannel : ∀ h, J h → J { h with self := setLocalChannel h.self }
  channelOpen : ∀ remoteId window maxPacket h, J h → J { h with self := openChannel remoteId window maxPacket h.self }
  channelClosed : ∀ h, I h → I { h with self := closeChannel h.self }
  ident : ∀ ident h, I h → I { h with self := { h.self with clientIdent := ident } }
  username : ∀ username h, I h → I { h with self := setUsername username h.self }
  host : ∀ host h, I h → I { h with self := setHost host h.self }
  password : ∀ password h, I h → I { h with self := setPasswordField password h.self }
  privateKey : ∀ privateKey h, I h → I { h with self := setPrivateKey privateKey h.self }
  publicKey : ∀ publicKey h, I h → I { h with self := setPublicKey publicKey h.self }
  noKey : ∀ h, I h → I { h with self := setNoKey h.self }

/-- The same with channel data and exit status. -/
structure Calling (noxtls : Noxtls) (env : Env) (I J S : Host Client → Prop) : Prop where
  weaker : ∀ h, I h → S h
  sharper : ∀ h, J h → I h
  keyed : ∀ h, I h → h.self.keyExchangeComplete = true → J h
  opened : ∀ h, I h → h.self.channelOpen = true → J h
  receives : ∀ payloadMax, Stays I S (recvInto noxtls env payloadMax)
  handles : ∀ rx m, Stays I S (handleServerKexinit noxtls env rx m)
  exchanges : Stays I S (exchangeKexinit noxtls env)
  waits : ∀ a b outMax, Stays J S (waitForMessage noxtls env a b outMax)
  sends : ∀ number ∈ [(2 : UInt8), 5, 50, 90, 94, 98], ∀ payload, payload.head? = some number →
    Stays J S (sendPacket noxtls env payload)
  userauthReady : ∀ h, J h → J { h with self := setUserauthReady h.self }
  connectionReady : ∀ h, J h → J { h with self := setConnectionReady h.self }
  authenticated : ∀ h, J h → J { h with self := setAuthenticated h.self }
  localChannel : ∀ h, J h → J { h with self := setLocalChannel h.self }
  channelOpen : ∀ remoteId window maxPacket h, J h → J { h with self := openChannel remoteId window maxPacket h.self }
  channelClosed : ∀ h, I h → I { h with self := closeChannel h.self }
  exitStatus : ∀ status h, I h → I { h with self := setExitStatus status h.self }
  ident : ∀ ident h, I h → I { h with self := { h.self with clientIdent := ident } }
  username : ∀ username h, I h → I { h with self := setUsername username h.self }
  host : ∀ host h, I h → I { h with self := setHost host h.self }
  password : ∀ password h, I h → I { h with self := setPasswordField password h.self }
  privateKey : ∀ privateKey h, I h → I { h with self := setPrivateKey privateKey h.self }
  publicKey : ∀ publicKey h, I h → I { h with self := setPublicKey publicKey h.self }
  noKey : ∀ h, I h → I { h with self := setNoKey h.self }

/-- A function that reads the context and goes on only if it passes a check. -/
theorem stays_guarded {α : Type} {I J S : Host Client → Prop} {c : Client → Prop} {_ : ∀ p, Decidable (c p)}
    {e : NetnoxReturn} {k : Client → Unit → Prog Client α} (sharper : ∀ h, J h → I h)
    (enters : ∀ h, I h → c h.self → J h) (rest : ∀ p, Stays J S (k p ())) :
    Stays I S (self >>= fun p => ensure (c p) e >>= k p) := by
  constructor
  intro h holds
  rw [self_bind_run]
  by_cases true : c h.self
  · rw [ensure_bind_pos true]
    exact (((rest h.self).under sharper).ends h (enters h holds true)).mono (fun _ => sharper) fun _ _ => id
  · rw [ensure_bind_neg true]
    exact holds

theorem heads_userauth (max : Nat) (username : List UInt8) (method : String) :
    Heads 50 (buildUserauthRequest max username method) :=
  (((heads_u8 _ _).then appends_string).then appends_string).then appends_string

theorem heads_channelRequest (max remoteId : Nat) (request : String) :
    Heads 98 (buildChannelRequest max remoteId request) :=
  (((heads_u8 _ _).then appends_u32).then appends_string).then appends_u8

section Calls

variable {noxtls : Noxtls} {env : Env} {I J S : Host Client → Prop} (serving : Serving noxtls env I J S)

include serving

theorem Serving.sendsBuilt (number : UInt8) {built : Option (List UInt8)}
    (known : number ∈ [(2 : UInt8), 5, 50, 90, 98]) (heads : Heads number built) :
    Stays J S (lift .failed built >>= sendPacket noxtls env) := by
  apply stays_lift_bind
  intro payload is
  exact serving.sends number known payload (heads payload is)

theorem Serving.negotiatesService (service : String) {ready : Client → Client}
    (sets : ∀ h, J h → J { h with self := ready h.self }) : Stays J S (negotiateService noxtls env service ready) := by
  have request : Stays J S (sendServiceRequest noxtls env service) :=
    serving.sendsBuilt _ (by decide) ((heads_u8 _ _).then appends_string)
  apply stays_bind request.failAs
  intro _
  apply stays_bind (serving.waits _ _ _).failAs
  rintro ⟨rx, m⟩
  apply stays_ensure_bind
  intro _
  apply stays_lift_bind
  rintro ⟨svc, _⟩ -
  apply stays_ensure_bind
  intro _
  exact stays_modify sets

theorem Serving.requiresService (accepted : Bool) (service : String) {ready : Client → Client}
    (sets : ∀ h, J h → J { h with self := ready h.self }) :
    Stays J S (requireService accepted (negotiateService noxtls env service ready)) :=
  stays_ite (stays_pure ()) ((serving.negotiatesService service sets).failAs)

theorem Serving.sendsPassword : Stays J S (sendUserauthPassword noxtls env) := by
  apply triple_self_bind
  intro c
  exact serving.sendsBuilt 50 (by decide) (((heads_userauth _ _ "password").then appends_u8).then appends_string)

theorem Serving.sendsPublickey : Stays J S (sendUserauthPublickeyEd25519 noxtls env) := by
  apply triple_self_bind
  intro c
  apply stays_ensure_bind
  intro _
  apply stays_lift_bind
  intro blob _
  apply stays_lift_bind
  intro request built
  apply stays_lift_bind
  intro message _
  apply stays_lift_bind
  intro signature _
  apply stays_lift_bind
  intro sigBlob _
  apply stays_lift_bind
  intro payload appended
  have number : request.head? = some 50 :=
    ((((heads_userauth _ _ "publickey").then appends_u8).then appends_string).then appends_string) request built
  obtain ⟨more, rfl⟩ := appends_string _ _ appended
  exact serving.sends 50 (by decide) _ (by rw [List.head?_append, number]; rfl)

theorem Serving.waitsUserauth : Stays J S (waitUserauthResult noxtls env) := by
  apply stays_bind (serving.waits _ _ _).failAs
  rintro ⟨rx, _⟩
  apply stays_ite
  · exact stays_bind (stays_modify serving.authenticated) fun _ => stays_pure _
  · exact stays_ite (stays_pure _) (stays_fail _)

theorem Serving.authenticates : Stays I S (authenticate noxtls env) := by
  apply stays_guarded serving.sharper fun h holds flags => serving.keyed h holds flags.2.2
  intro c
  apply stays_ensure_bind
  intro _
  apply stays_bind (serving.requiresService _ _ serving.userauthReady)
  intro _
  apply stays_bind
  · apply stays_ite _ (stays_pure _)
    apply stays_bind serving.sendsPublickey.failAs
    exact fun _ => serving.waitsUserauth.failAs
  intro accepted
  apply stays_ite (stays_pure ())
  apply stays_ite
  · apply stays_bind serving.sendsPassword.failAs
    intro _
    apply stays_bind serving.waitsUserauth.failAs
    exact fun _ => stays_ite (stays_pure ()) (stays_fail _)
  · exact stays_ite (stays_fail _) (stays_fail _)

theorem Serving.opensSession : Stays I S (openSession noxtls env) := by
  unfold openSession
  obtain ⟨waits, is⟩ : ∃ waits, waits = waitForMessage noxtls env := ⟨_, rfl⟩
  obtain ⟨negotiates, is'⟩ : ∃ negotiates, negotiates = negotiateConnectionService noxtls env := ⟨_, rfl⟩
  rw [← is, ← is']
  apply stays_guarded serving.sharper fun h holds flags => serving.keyed h holds flags.2.2.1
  intro c
  apply stays_bind (stays_modify serving.localChannel)
  intro _
  rw [is']
  apply stays_bind (serving.requiresService _ _ serving.connectionReady)
  intro _
  apply stays_bind
  · apply Triple.failAs
    apply triple_self_bind
    intro c
    exact serving.sendsBuilt 90 (by decide)
      ((((heads_u8 _ _).then appends_string).then appends_u32).then appends_u32 |>.then appends_u32)
  intro _
  rw [is]
  apply stays_bind (serving.waits _ _ _).failAs
  rintro ⟨rx, m⟩
  apply stays_ensure_bind
  intro _
  apply stays_lift_bind
  rintro ⟨recipient, sender, window, maxPacket⟩ -
  apply triple_self_bind
  intro c
  apply stays_ensure_bind
  intro _
  exact stays_modify (serving.channelOpen sender window maxPacket)

theorem Serving.requestsChannel {built : Option (List UInt8)} (heads : Heads 98 built) :
    Stays J S (requestChannel noxtls env built) := by
  apply stays_lift_bind
  intro payload is
  apply stays_bind (serving.sends 98 (by decide) payload (heads payload is)).failAs
  intro _
  apply stays_bind (serving.waits _ _ _).failAs
  rintro ⟨rx, _⟩
  exact stays_ensure _ _

theorem Serving.execs (command : List UInt8) : Stays I S (exec noxtls env command) := by
  apply stays_guarded serving.sharper fun h holds flags => serving.keyed h holds flags.2.2.1
  intro c
  apply stays_ensure_bind
  intro _
  exact serving.requestsChannel ((heads_channelRequest _ _ "exec").then appends_string)

theorem Serving.requestsShell (requestPty : Bool) : Stays I S (requestShellEx noxtls env requestPty) := by
  apply stays_guarded serving.sharper fun h holds flags => serving.keyed h holds flags.2.2.1
  intro c
  apply stays_bind
  · apply stays_ite _ (stays_pure ())
    exact serving.requestsChannel ((((((heads_channelRequest _ _ "pty-req").then appends_string).then appends_u32).then
      appends_u32).then appends_u32).then appends_u32 |>.then appends_string)
  intro _
  apply triple_self_bind
  intro c
  exact serving.requestsChannel (heads_channelRequest _ _ _)

theorem Serving.sendsKeepalive : Stays I S (sendKeepalive noxtls env) := by
  apply stays_guarded serving.sharper fun h holds flags => serving.keyed h holds flags.2
  intro c
  exact serving.sendsBuilt 2 (by decide) ((heads_u8 _ _).then appends_u32)

theorem Serving.rekeys : Stays I S (rekey noxtls env) := by
  apply triple_self_bind
  intro c
  apply stays_ensure_bind
  exact fun _ => serving.exchanges

omit serving in
theorem stays_readRecipient (rx : List UInt8) (m : Mem) : Stays I S (readRecipient rx m) := by
  apply stays_lift_bind
  rintro ⟨recipient, off⟩ -
  apply triple_self_bind
  intro c
  apply stays_ensure_bind
  exact fun _ => stays_pure _

theorem Serving.takesPacket (captures : ∀ status h, I h → I { h with self := setExitStatus status h.self })
    (capacity : Nat) (number : UInt8) (rx : List UInt8) (m : Mem) :
    Stays I S (takePacket noxtls env capacity number rx m) := by
  have data : ∀ off, Stays I S (takeData capacity rx m off) := by
    intro off
    apply stays_lift_bind
    exact fun _ _ => stays_pure _
  apply stays_ite
  · exact stays_bind (serving.handles rx m).failAs fun _ => stays_pure _
  apply stays_ite
  · apply stays_bind (stays_readRecipient rx m)
    intro off
    exact stays_bind (data off) fun _ => stays_pure _
  apply stays_ite
  · apply stays_bind (stays_readRecipient rx m)
    intro off
    apply stays_lift_bind
    rintro ⟨_, off⟩ -
    exact stays_bind (data off) fun _ => stays_pure _
  apply stays_ite
  · apply stays_bind _ fun _ => stays_pure _
    apply stays_bind (stays_readRecipient rx m)
    intro off
    apply stays_lift_bind
    rintro ⟨req, off⟩ -
    apply stays_ensure_bind
    intro _
    apply stays_ite _ (stays_pure ())
    apply stays_lift_bind
    rintro ⟨status, _⟩ -
    exact stays_modify (captures status)
  apply stays_ite (stays_pure _)
  apply stays_ite _ (stays_pure _)
  exact stays_bind (stays_modify serving.channelClosed) fun _ => stays_pure _

theorem Serving.loopsData (captures : ∀ status h, I h → I { h with self := setExitStatus status h.self })
    (capacity turns : Nat) : Stays I S (recvDataLoop noxtls env capacity turns) := by
  induction turns with
  | zero => exact stays_stall serving.weaker
  | succ turns ih =>
      apply stays_bind (serving.receives _).failAs
      rintro ⟨rx, m⟩
      dsimp only
      split
      · exact ih
      · apply stays_bind (serving.takesPacket captures capacity _ rx m)
        intro taken
        cases taken with
        | none => exact ih
        | some data => exact stays_pure data

theorem Serving.receivesData (captures : ∀ status h, I h → I { h with self := setExitStatus status h.self })
    (capacity : Nat) : Stays I S (recvData noxtls env capacity) := by
  apply stays_ensure_bind
  intro _
  apply triple_self_bind
  intro c
  apply stays_ensure_bind
  intro _
  exact triple_byInbox (serving.loopsData captures capacity)

theorem Serving.setsTarget (username host : List UInt8) : Stays I S (setTarget username host) := by
  unfold setTarget
  split
  · exact stays_fail _
  · rename_i username _
    apply stays_bind
    · exact stays_modify (serving.username username)
    intro _
    split
    · exact stays_fail _
    · rename_i host _
      exact stays_modify (serving.host host)

theorem Serving.setsPrivateKey (privateKey : List UInt8) : Stays I S (setEd25519PrivateKey noxtls privateKey) := by
  apply stays_bind
  · exact stays_modify (serving.privateKey privateKey)
  intro _
  split
  · exact stays_bind (stays_modify serving.noKey) fun _ => stays_fail _
  · rename_i publicKey _
    exact stays_modify (serving.publicKey publicKey)

theorem Serving.adoptsIdent (ident : List UInt8) : Stays I S (adopt (setIdentification ident)) := by
  constructor
  intro h holds
  rw [adopt, self_bind_run, setIdentification]
  cases copied : copyString 256 ident with
  | error e => exact holds
  | ok kept => exact serving.ident kept h holds

/-- Every such call but `connect` keeps the invariant, `close` if it does. -/
theorem Serving.stays (call : Call) (other : call ≠ .connect) (mute : ∀ data, call ≠ .sendData data)
    (captures : ∀ capacity, call = .recvData capacity → ∀ status h, I h → I { h with self := setExitStatus status h.self })
    (closes : call = .close → ∀ h, I h → I { h with self := closed h.self }) : Stays I S (call.run noxtls env) := by
  cases call with
  | setIdentification ident => exact serving.adoptsIdent ident
  | setTarget username host => exact serving.setsTarget username host
  | setPassword password =>
      change Stays I S (setPassword password)
      unfold setPassword
      split
      · exact stays_fail _
      · rename_i kept _
        exact stays_modify (serving.password kept)
  | setEd25519PrivateKey privateKey => exact serving.setsPrivateKey privateKey
  | connect => exact absurd rfl other
  | authenticate => exact serving.authenticates
  | openSession => exact serving.opensSession
  | exec command => exact serving.execs command
  | requestShellEx requestPty => exact serving.requestsShell requestPty
  | sendData data => exact absurd rfl (mute data)
  | sendKeepalive => exact serving.sendsKeepalive
  | rekey => exact serving.rekeys
  | recvData capacity => exact stays_bind (serving.receivesData (captures capacity rfl) capacity) fun _ => stays_pure ()
  | close => exact stays_modify (closes rfl)

end Calls

section Data

variable {noxtls : Noxtls} {env : Env} {I J S : Host Client → Prop} (calling : Calling noxtls env I J S)

include calling

theorem Calling.serving : Serving noxtls env I J S :=
  { calling with
    sends := fun number known => calling.sends number (by
      simp only [List.mem_cons, List.not_mem_nil, or_false] at known ⊢
      tauto) }

theorem Calling.sendsData (data : List UInt8) : Stays I S (sendData noxtls env data) := by
  apply stays_ensure_bind
  intro _
  apply stays_guarded calling.sharper fun h holds flags => calling.opened h holds flags.2
  intro c
  apply stays_lift_bind
  intro payload built
  exact calling.sends 94 (by decide) payload ((((heads_u8 _ _).then appends_u32).then appends_string) payload built)

/-- Every call but `connect` keeps the invariant, `close` if it does. -/
theorem Calling.stays (call : Call) (other : call ≠ .connect)
    (closes : call = .close → ∀ h, I h → I { h with self := closed h.self }) : Stays I S (call.run noxtls env) := by
  by_cases data : ∃ data, call = .sendData data
  · obtain ⟨data, rfl⟩ := data
    exact calling.sendsData data
  · exact calling.serving.stays call other (fun bytes is => data ⟨bytes, is⟩) (fun _ _ => calling.exitStatus) closes

end Data

/-! ## Connecting -/

section Connect

variable {noxtls : Noxtls} {env : Env} {I S : Host Client → Prop}

/-- Reading lines ends as the key exchange behind them ends. -/
theorem triple_readIdent {Q : Unit → Host Client → Prop} (asks : ∀ h, I h → I { h with tick := h.tick + 1 })
    (reads : Stays I S (recvLine env 256)) (ident : ∀ ident h, I h → I { h with self := setServerIdent ident h.self })
    (connected : ∀ h, I h → I { h with self := setConnected h.self })
    (exchanges : Triple I (exchangeKexinit noxtls env) Q (Breaks I S)) (lines : Nat) :
    Triple I (readIdent noxtls env lines) Q (Breaks I S) := by
  induction lines with
  | zero => exact triple_fail _ fun _ => id
  | succ lines ih =>
      apply triple_bind (stays_attempt reads)
      intro line
      cases line with
      | none =>
          apply triple_bind (triple_ask asks)
          intro left
          exact triple_bind (stays_modify (ident _)) fun _ => triple_fail _ fun _ => id
      | some line =>
          apply triple_bind (stays_modify (ident line))
          intro _
          apply triple_ite _ fun _ => ih
          exact fun _ => triple_bind (stays_modify connected) fun _ => exchanges

/-- Connecting ends as its key exchange ends. -/
theorem triple_connect {Q : Unit → Host Client → Prop} (asks : ∀ h, I h → I { h with tick := h.tick + 1 })
    (sends : ∀ data, Stays I S (sendAll env data)) (reads : Stays I S (recvLine env 256))
    (ident : ∀ ident h, I h → I { h with self := setServerIdent ident h.self })
    (connected : ∀ h, I h → I { h with self := setConnected h.self })
    (exchanges : Triple I (exchangeKexinit noxtls env) Q (Breaks I S)) : Triple I (connect noxtls env) Q (Breaks I S) := by
  apply triple_self_bind
  intro c
  apply stays_ensure_bind
  intro _
  exact triple_bind (sends _).failAs fun _ => triple_readIdent asks reads ident connected exchanges _

/-- A program keeps what each of its calls keeps. -/
theorem stays_calls :
    ∀ calls : List Call, (∀ call ∈ calls, Stays I S (call.run noxtls env)) → Stays I S (Calls.run noxtls env calls) := by
  intro calls
  induction calls with
  | nil => exact fun _ => stays_pure ()
  | cons call calls ih =>
      intro each
      apply stays_bind (stays_attempt (each call List.mem_cons_self))
      exact fun _ => ih fun call mem => each call (List.mem_cons_of_mem _ mem)

end Connect

/-! ## Calls that do not touch a part of the trace -/

section Quiet

variable {noxtls : Noxtls} {env : Env} {ok : Event → Prop} (chatter : KexChatter ok)
  (speaks : ∀ number ∈ [(2 : UInt8), 5, 50, 90, 98], Speaks ok number) (h₀ : Host Client)

include chatter

/-- What was recorded since `h₀` is fine. -/
abbrev Since (ok : Event → Prop) (h₀ h : Host Client) : Prop := Quiet ok (fun _ : Client => ()) h₀ h

include speaks in
theorem serving_since : Serving noxtls env (Since ok h₀) (Since ok h₀) (Since ok h₀) where
  weaker _ := id
  sharper _ := id
  keyed _ since _ := since
  opened _ since _ := since
  receives := (exchanges_quiet chatter steady_unit h₀).receives
  handles := (exchanges_quiet chatter steady_unit h₀).handles
  exchanges := (exchanges_quiet chatter steady_unit h₀).exchangesKexinit
  waits := (exchanges_quiet chatter steady_unit h₀).waits
  sends number known payload heads := stays_of_always (fun _ => id)
    (always_sendPacket chatter.toBackground steady_unit.toPassive payload (speaks number known payload heads).1
      (speaks number known payload heads).2) fun _ _ step since => (quiet_order _ _).trans since step
  userauthReady _ since := quiet_update since fun _ => rfl
  connectionReady _ since := quiet_update since fun _ => rfl
  authenticated _ since := quiet_update since fun _ => rfl
  localChannel _ since := quiet_update since fun _ => rfl
  channelOpen _ _ _ _ since := quiet_update since fun _ => rfl
  channelClosed _ since := quiet_update since fun _ => rfl
  ident ident _ since := @quiet_update _ _ _ _ _ since (fun c => { c with clientIdent := ident }) fun _ => rfl
  username _ _ since := quiet_update since fun _ => rfl
  host _ _ since := quiet_update since fun _ => rfl
  password _ _ since := quiet_update since fun _ => rfl
  privateKey _ _ since := quiet_update since fun _ => rfl
  publicKey _ _ since := quiet_update since fun _ => rfl
  noKey _ since := quiet_update since fun _ => rfl

theorem connect_since : Stays (Since ok h₀) (Since ok h₀) (connect noxtls env) := by
  have carries : ∀ {α : Type} {m : Prog Client α}, Always (Quiet ok fun _ => ()) m →
      Stays (Since ok h₀) (Since ok h₀) m := fun always =>
    stays_of_always (fun _ => id) always fun _ _ step since => (quiet_order _ _).trans since step
  have exchanges : Exchanges noxtls env (Since ok h₀) (Since ok h₀) := exchanges_quiet chatter steady_unit h₀
  apply triple_connect exchanges.asks
  · exact fun data => carries (always_sendAll chatter.toPlumbing data)
  · exact carries (always_recvLine chatter.receiving 256)
  · exact fun _ _ since => quiet_update since fun _ => rfl
  · exact fun _ since => quiet_update since fun _ => rfl
  · exact exchanges.exchangesKexinit

/-- Every call but `send_data` records only what is fine. -/
theorem stays_since (speaks : ∀ number ∈ [(2 : UInt8), 5, 50, 90, 98], Speaks ok number) (call : Call)
    (mute : ∀ data, call ≠ .sendData data) : Stays (Since ok h₀) (Since ok h₀) (call.run noxtls env) := by
  by_cases first : call = .connect
  · subst first
    exact connect_since chatter h₀
  · exact (serving_since chatter speaks h₀).stays call first mute
      (fun _ _ _ _ since => quiet_update since fun _ => rfl) fun _ _ since => quiet_update since fun _ => rfl

/-- Nor does `send_data`, if channel data is fine. -/
theorem sendData_since (speaks : Speaks ok 94) (data : List UInt8) :
    Stays (Since ok h₀) (Since ok h₀) (sendData noxtls env data) := by
  apply stays_ensure_bind
  intro _
  apply triple_self_bind
  intro c
  apply stays_ensure_bind
  intro _
  apply stays_lift_bind
  intro payload built
  have number : payload.head? = some 94 := (((heads_u8 _ _).then appends_u32).then appends_string) payload built
  exact stays_of_always (fun _ => id) (always_sendPacket chatter.toBackground steady_unit.toPassive payload
    (speaks payload number).1 (speaks payload number).2) fun _ _ step since => (quiet_order _ _).trans since step

end Quiet

/-! ## A server that plays along, for concrete runs -/

namespace Probe

def brisk : Env := { calm with recv := fun _ => 65536, send := fun _ => 65536 }

/-- A key stream of zeros, a sum for a hash, and the same key pair in every exchange. -/
def noxtls : Noxtls :=
  { Sample.plain with
    sha256 := fun data => Sample.fit 32 [UInt8.ofNat (data.foldl (fun a b => a + b.toNat) 0)]
    length_sha256 := fun _ => Sample.length_fit 32 _
    x25519GenerateKey := fun _ => some (Sample.fit 32 [5], Sample.fit 32 [5])
    length_x25519GenerateKey := by
      intro t priv pub is
      obtain ⟨rfl, rfl⟩ := Prod.mk.inj (Option.some.inj is)
      exact ⟨Sample.length_fit _ _, Sample.length_fit _ _⟩ }

/-- What the client itself says, and a server that names one algorithm each. -/
def ownKexinit : List UInt8 := kexinitPayload algLists (zeros 16)

def kexinit : List UInt8 := kexinitPayload (requiredAlgs ++ ["", ""]) (zeros 16)

/-- The exchange hash with this host key, if both sides have said what they say here. -/
def exchangeHash (hostKeyBlob : List UInt8) : List UInt8 :=
  (computeExchangeHash noxtls (ascii "SSH-2.0-noxssh_0.1") (ascii "SSH-2.0-probe") ownKexinit kexinit hostKeyBlob
    (Sample.fit 32 [5]) (Sample.fit 32 [9]) (List.zipWith (· + ·) (Sample.fit 32 [5]) (Sample.fit 32 [9]))).getD []

def replyWith (blob signature : List UInt8) : List UInt8 :=
  [31] ++ sshString blob ++ sshString (Sample.fit 32 [9]) ++ sshString signature

/-- The reply under the host key `hostKey`. -/
def reply (hostKey : List UInt8) : List UInt8 :=
  replyWith (ed25519Blob hostKey) (ed25519Blob (Sample.sign hostKey (exchangeHash (ed25519Blob hostKey))))

/-- `reply` with the exchange hash written out, so that a run on it does not compute the hash. -/
def replyFor (hostKey : List UInt8) (hash : UInt8) : List UInt8 :=
  replyWith (ed25519Blob hostKey) (ed25519Blob (Sample.sign hostKey (hash :: zeros 31)))

theorem reply_eq {hostKey : List UInt8} {hash : UInt8}
    (hashed : exchangeHash (ed25519Blob hostKey) = hash :: zeros 31) : reply hostKey = replyFor hostKey hash := by
  rw [reply, hashed, replyFor]

theorem hash_zeros : exchangeHash (ed25519Blob (zeros 32)) = 3 :: zeros 31 := by decide +kernel

theorem reply_zeros : reply (zeros 32) = replyFor (zeros 32) 3 := reply_eq hash_zeros

def banner : List UInt8 := ascii "SSH-2.0-probe" ++ [13, 10]

/-- Identification and these packets in the clear. -/
def greeting (payloads : List (List UInt8)) : List UInt8 :=
  banner ++ sealAll noxtls ⟨false, [], [], [], 0⟩ payloads

end Probe

end NoxSsh.Client
