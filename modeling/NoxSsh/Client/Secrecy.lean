/-
# Client.Secrecy — nothing confidential leaves the client in the clear

A program may make the client's calls in any order and go on after any failure.
What keeps secrets off the wire is a chain of flags: a channel is open or a user
logged in only if a key exchange was completed, and an exchange is completed only
with keys that come from a host key signature that verified (`Sound`).  Every
confidential payload is handed to the packet routine in such a state, and there the
packet is encrypted and authenticated under those keys (`sendPacket_sealed`).

The delicate part is the middle of an exchange.  Between the signature check and
the derivation of the keys the client waits for NEWKEYS, and a KEXINIT that turns
up there runs another exchange over the same fields.  If that one fails so does the
wait.  If it succeeds the fields hold its own hash and secret, whose signature
verified too (`Agreed`).
-/
import NoxSsh.Client.Conduct

namespace NoxSsh.Client

open Theory Proc Wire Transport

set_option autoImplicit false

/-! ## What is promised -/

/-- Service requests, user authentication and the connection protocol. -/
def Confidential (payload : List UInt8) : Prop :=
  ∃ number : UInt8, payload.head? = some number ∧ (number = 5 ∨ number = 50 ∨ 80 ≤ number)

/-- Some signature over the hash verified under this host key. -/
def Verified (noxtls : Noxtls) (blob exchangeHash : List UInt8) : Prop :=
  ∃ m hostKeyBlob signature, hostKeyBlob.bytes m = blob ∧
    (verifyServerHostKeySignature noxtls m hostKeyBlob signature exchangeHash).isOk = true

/-- In this history the exchange with this hash and secret had its signature verified. -/
def Witnessed (noxtls : Noxtls) (trace : List (Event × Client)) (exchangeHash secret : List UInt8) : Prop :=
  ∃ e ∈ trace, ∃ blob, e.1 = .hostKeyVerified blob exchangeHash secret ∧ Verified noxtls blob exchangeHash

/-- The cipher and MAC keys of the context are these. -/
def HasKeys (c : Client) (keys : TransportKeys) : Prop :=
  c.c2sKey = keys.c2sKey ∧ c.s2cKey = keys.s2cKey ∧ c.c2sMacKey = keys.c2sMacKey ∧ c.s2cMacKey = keys.s2cMacKey

/-- The keys were derived from an exchange whose host key signature verified. -/
def Derived (noxtls : Noxtls) (env : Env) (trace : List (Event × Client)) (c : Client) : Prop :=
  ∃ exchangeHash secret keys, Witnessed noxtls trace exchangeHash secret ∧
    deriveTransportKeys noxtls env.rawKeyDerivation secret exchangeHash = some keys ∧ HasKeys c keys

/-- A confidential payload is sent with encryption on, under derived keys. -/
def Guarded (noxtls : Noxtls) (env : Env) (before : List (Event × Client)) (e : Event × Client) : Prop :=
  ∀ payload, e.1 = .sending payload → Confidential payload →
    e.2.keyExchangeComplete = true ∧ Derived noxtls env before e.2

structure Sound (noxtls : Noxtls) (env : Env) (h : Host Client) : Prop where
  keyed : h.self.keyExchangeComplete = true → Derived noxtls env h.trace h.self
  authenticated : h.self.authenticated = true → h.self.keyExchangeComplete = true
  channelOpen : h.self.channelOpen = true → h.self.keyExchangeComplete = true
  guarded : Audited (Guarded noxtls env) h.trace

/-- Sound, and the hash and secret in the context have their signature behind them. -/
structure Agreed (noxtls : Noxtls) (env : Env) (h : Host Client) : Prop extends Sound noxtls env h where
  idLen : h.self.sessionIdLen = 32
  length : h.self.sessionId.length = 32
  witnessed : Witnessed noxtls h.trace h.self.sessionId h.self.sharedSecretRaw

/-! ## Steps that leave the keys alone -/

/-- The flags and keys. -/
def flags (c : Client) : Bool × Bool × Bool × List UInt8 × List UInt8 × List UInt8 × List UInt8 :=
  (c.keyExchangeComplete, c.authenticated, c.channelOpen, c.c2sKey, c.s2cKey, c.c2sMacKey, c.s2cMacKey)

/-- What the keys are derived from. -/
def agreement (c : Client) : List UInt8 × Nat × List UInt8 := (c.sessionId, c.sessionIdLen, c.sharedSecretRaw)

/-- Events that give nothing away. -/
def Harmless (e : Event) : Prop := ∀ payload, e = .sending payload → ¬ Confidential payload

section Frames

variable {noxtls : Noxtls} {env : Env} {h h' : Host Client} {trace more : List (Event × Client)} {c c' : Client}

theorem Witnessed.append {exchangeHash secret : List UInt8} (witnessed : Witnessed noxtls trace exchangeHash secret)
    (more : List (Event × Client)) : Witnessed noxtls (trace ++ more) exchangeHash secret := by
  obtain ⟨e, mem, blob, is⟩ := witnessed
  exact ⟨e, List.mem_append_left _ mem, blob, is⟩

theorem Derived.append (derived : Derived noxtls env trace c) (more : List (Event × Client)) :
    Derived noxtls env (trace ++ more) c := by
  obtain ⟨exchangeHash, secret, keys, witnessed, rest⟩ := derived
  exact ⟨exchangeHash, secret, keys, witnessed.append more, rest⟩

theorem Derived.congr (derived : Derived noxtls env trace c) (same : flags c' = flags c) :
    Derived noxtls env trace c' := by
  obtain ⟨exchangeHash, secret, keys, witnessed, source, has⟩ := derived
  simp only [flags, Prod.mk.injEq] at same
  obtain ⟨-, -, -, c2s, s2c, c2sMac, s2cMac⟩ := same
  exact ⟨exchangeHash, secret, keys, witnessed, source, by rwa [HasKeys, c2s, s2c, c2sMac, s2cMac]⟩

/-- The flags and keys are the same, and what was recorded is accounted for. -/
theorem Sound.extend (sound : Sound noxtls env h) (same : flags h'.self = flags h.self)
    (grown : h'.trace = h.trace ++ more)
    (guarded : ∀ before e after, more = before ++ e :: after → Guarded noxtls env (h.trace ++ before) e) :
    Sound noxtls env h' := by
  have keep := same
  simp only [flags, Prod.mk.injEq] at keep
  obtain ⟨complete, logged, opened, -⟩ := keep
  constructor
  · rw [complete, grown]
    exact fun kec => ((sound.keyed kec).append more).congr same
  · rw [complete, logged]
    exact sound.authenticated
  · rw [complete, opened]
    exact sound.channelOpen
  · rw [grown]
    exact sound.guarded.append guarded

theorem guarded_of_harmless {before : List (Event × Client)} {e : Event × Client} (harmless : Harmless e.1) :
    Guarded noxtls env before e :=
  fun payload is secret => absurd secret (harmless payload is)

theorem Sound.quiet (sound : Sound noxtls env h) (quiet : Quiet Harmless flags h h') : Sound noxtls env h' := by
  obtain ⟨same, new, grown, kept⟩ := quiet
  apply sound.extend same grown
  intro before e after is
  apply guarded_of_harmless
  exact (kept e (by rw [is]; simp)).1

/-- A change of the context that the flags and keys do not notice. -/
theorem Sound.update (sound : Sound noxtls env h) {f : Client → Client} (same : ∀ c, flags (f c) = flags c) :
    Sound noxtls env { h with self := f h.self } :=
  sound.quiet ⟨same h.self, [], by simp, by simp⟩

theorem Sound.log (sound : Sound noxtls env h) {e : Event} (harmless : Harmless e) :
    Sound noxtls env { h with trace := h.trace ++ [(e, h.self)] } :=
  sound.quiet ⟨rfl, [(e, h.self)], rfl, by simp [harmless]⟩

theorem Agreed.quiet (agreed : Agreed noxtls env h)
    (quiet : Quiet Harmless (fun c => (flags c, agreement c)) h h') : Agreed noxtls env h' := by
  obtain ⟨same, new, grown, kept⟩ := quiet
  obtain ⟨sameFlags, sameAgreement⟩ := Prod.mk.inj same
  simp only [agreement, Prod.mk.injEq] at sameAgreement
  obtain ⟨id, len, secret⟩ := sameAgreement
  constructor
  · exact agreed.toSound.quiet ⟨sameFlags, new, grown, fun e he => ⟨(kept e he).1, (Prod.mk.inj (kept e he).2).1⟩⟩
  · rw [len, agreed.idLen]
  · rw [id, agreed.length]
  · rw [id, secret, grown]
    exact agreed.witnessed.append new

theorem Agreed.log (agreed : Agreed noxtls env h) {e : Event} (harmless : Harmless e) :
    Agreed noxtls env { h with trace := h.trace ++ [(e, h.self)] } :=
  agreed.quiet ⟨rfl, [(e, h.self)], rfl, by simp [harmless]⟩

end Frames

/-! ## Packets -/

section Packets

variable {noxtls : Noxtls} {env : Env}

theorem passive_flags : Passive flags := ⟨fun _ _ => rfl, fun _ _ => rfl, fun _ _ => rfl, fun _ _ => rfl⟩

theorem passive_agreement : Passive fun c => (flags c, agreement c) :=
  ⟨fun _ _ => rfl, fun _ _ => rfl, fun _ _ => rfl, fun _ _ => rfl⟩

theorem background_harmless : Background Harmless :=
  ⟨⟨by simp [Harmless], by simp [Harmless], by simp [Harmless]⟩, by simp [Harmless], by simp [Harmless]⟩

theorem hearing_harmless : Hearing Harmless := ⟨by simp [Harmless], by simp [Harmless]⟩

theorem harmless_sending {number : UInt8} (open_ : number ≠ 5 ∧ number ≠ 50 ∧ number < 80) {payload : List UInt8}
    (heads : payload.head? = some number) : Harmless (.sending payload) := by
  rintro payload' is ⟨number', heads', secret⟩
  obtain rfl := Event.sending.inj is
  obtain rfl : number = number' := by simpa [heads] using heads'
  rcases secret with rfl | rfl | high
  · exact open_.1 rfl
  · exact open_.2.1 rfl
  · exact absurd open_.2.2 (UInt8.not_lt.2 high)

/-- A payload goes out in a sound state, with encryption on if it is confidential. -/
theorem sound_sendPacket (payload : List UInt8) {h : Host Client} (sound : Sound noxtls env h)
    (keyed : Confidential payload → h.self.keyExchangeComplete = true) :
    Sound noxtls env ((sendPacket noxtls env payload).run h).2 := by
  have quiet : Quiet (fun e => Harmless e ∨ e = .sending payload) flags h ((sendPacket noxtls env payload).run h).2 :=
    always_sendPacket ⟨⟨fun _ => .inl (background_harmless.wire _), .inl background_harmless.expired, .inl background_harmless.overflow⟩,
      fun _ _ => .inl (background_harmless.macComputed _ _), fun _ _ => .inl (background_harmless.macAccepted _ _)⟩
    passive_flags payload (.inr rfl) (.inl (by simp [Harmless])) h
  obtain ⟨same, new, grown, kept⟩ := quiet
  apply sound.extend same grown
  intro before e after is
  obtain ⟨harmless | sending, kept⟩ := kept e (by rw [is]; simp)
  · exact guarded_of_harmless harmless
  · intro payload' is' secret
    obtain rfl := Event.sending.inj (sending.symm.trans is')
    have on := keyed secret
    have also : e.2.keyExchangeComplete = h.self.keyExchangeComplete := congrArg (·.1) kept
    exact ⟨also.trans on, ((sound.keyed on).append before).congr kept⟩

end Packets

/-! ## Key exchanges -/

section Exchange

variable {noxtls : Noxtls} {env : Env}

theorem sound_recvInto (payloadMax : Nat) :
    Stays (Sound noxtls env) (Sound noxtls env) (recvInto noxtls env payloadMax) :=
  stays_of_always (fun _ => id) (always_recvInto background_harmless passive_flags hearing_harmless payloadMax)
    fun _ _ quiet sound => sound.quiet quiet

theorem sound_asks (h : Host Client) (sound : Sound noxtls env h) : Sound noxtls env { h with tick := h.tick + 1 } :=
  sound.quiet (quiet_of_eq rfl rfl)

theorem agreed_asks (h : Host Client) (agreed : Agreed noxtls env h) : Agreed noxtls env { h with tick := h.tick + 1 } :=
  agreed.quiet (quiet_of_eq rfl rfl)

theorem proposing_sound : Proposing noxtls env (Sound noxtls env) (Sound noxtls env) where
  asks := sound_asks
  receives := sound_recvInto
  sends := by
    intro number known payload heads
    apply stays_of_keeps fun _ => id
    intro h sound
    apply sound_sendPacket payload sound
    intro secret
    refine absurd secret (harmless_sending ?_ heads payload rfl)
    rcases known with rfl | rfl | rfl <;> decide
  kexinitClient _ _ sound := sound.update fun _ => rfl
  kexinitServer _ _ sound := sound.update fun _ => rfl
  kexinitExchanged _ sound := sound.update fun _ => rfl

/-- What is received or sent between the two halves of an exchange does not touch the agreement. -/
theorem agreed_of_always {α : Type} {m : Prog Client α}
    (always : Always (Quiet Harmless fun c => (flags c, agreement c)) m) :
    Triple (Agreed noxtls env) m (fun _ => Agreed noxtls env) (Breaks (Sound noxtls env) (Sound noxtls env)) := by
  have stays : Stays (Agreed noxtls env) (Agreed noxtls env) m :=
    stays_of_always (fun _ => id) always fun _ _ quiet agreed => agreed.quiet quiet
  apply stays.mono (fun _ => id) (fun _ _ => id)
  intro e h agreed
  cases e <;> exact agreed.toSound

/-- A reply that is accepted leaves a hash and a secret whose signature verified. -/
theorem takeReply_agreed (priv pub : List UInt8) (m : Mem) (reply : KexReply) :
    Triple (Sound noxtls env) (takeReply noxtls priv pub m reply) (fun _ => Agreed noxtls env)
      (Breaks (Sound noxtls env) (Sound noxtls env)) := by
  unfold takeReply
  apply triple_bind (stays_log fun h sound => sound.log (by simp [Harmless]))
  intro _
  apply triple_bind (stays_modify fun h sound => sound.update fun _ => rfl)
  intro _
  apply stays_lift_bind
  intro fingerprint _
  apply triple_bind (stays_modify fun h sound => sound.update fun _ => rfl)
  intro _
  apply stays_lift_bind
  intro secret _
  apply triple_self_bind
  intro c
  apply stays_lift_bind
  intro exchangeHash computed
  have length := length_exchangeHash computed
  apply triple_bind (Q := fun _ h => Sound noxtls env h ∧ h.self.sessionId = exchangeHash)
  · exact triple_modify fun h sound => ⟨sound.update fun _ => rfl, rfl⟩
  intro _
  apply triple_ensure_bind _ fun h both => both.1
  intro verified
  apply triple_bind (Q := fun _ h => Sound noxtls env h ∧ h.self.sessionId = exchangeHash ∧
    Witnessed noxtls h.trace exchangeHash secret)
  · apply triple_log
    rintro h ⟨sound, id⟩
    refine ⟨sound.log (by simp [Harmless]), id, _, List.mem_append_right _ (List.mem_singleton.2 rfl), _, rfl, ?_⟩
    exact ⟨m, reply.hostKeyBlob, reply.signature, rfl, verified⟩
  intro _
  apply triple_bind (Q := fun _ => Agreed noxtls env)
  · apply triple_modify
    rintro h ⟨sound, id, witnessed⟩
    refine ⟨sound.update fun _ => rfl, rfl, ?_, ?_⟩
    · change h.self.sessionId.length = 32
      rw [id, length]
    · change Witnessed noxtls h.trace h.self.sessionId secret
      rwa [id]
  exact fun _ => triple_pure _ fun _ => id

/-- The keys come from the agreement. -/
theorem deriveKeys_derived :
    Triple (Agreed noxtls env) (deriveKeys noxtls env)
      (fun _ h => Agreed noxtls env h ∧ Derived noxtls env h.trace h.self)
      (Breaks (Sound noxtls env) (Sound noxtls env)) := by
  constructor
  intro h agreed
  rw [deriveKeys, self_bind_run, ensure_bind_pos (by rw [agreed.idLen]; decide), agreed.idLen,
    List.take_of_length_le (by rw [agreed.length])]
  cases derived : deriveTransportKeys noxtls env.rawKeyDerivation h.self.sharedSecretRaw h.self.sessionId with
  | none => exact agreed.toSound
  | some keys =>
      have fresh : Derived noxtls env h.trace (setKeys keys h.self) :=
        ⟨_, _, keys, agreed.witnessed, derived, rfl, rfl, rfl, rfl⟩
      exact ⟨⟨⟨fun _ => fresh, agreed.authenticated, agreed.channelOpen, agreed.guarded⟩, agreed.idLen, agreed.length,
        agreed.witnessed⟩, fresh⟩

theorem exchangeKeys_agreed {wait : UInt8 → UInt8 → Nat → Prog Client Arrival}
    (sound : ∀ a b n, Stays (Sound noxtls env) (Sound noxtls env) (wait a b n))
    (agreed : ∀ a b n, Triple (Agreed noxtls env) (wait a b n) (fun _ => Agreed noxtls env)
      (Breaks (Sound noxtls env) (Sound noxtls env))) :
    Triple (Sound noxtls env) (exchangeKeys noxtls env wait) (fun _ => Agreed noxtls env)
      (Breaks (Sound noxtls env) (Sound noxtls env)) := by
  unfold exchangeKeys
  apply triple_bind (triple_ask sound_asks)
  intro generated
  apply stays_lift_bind
  rintro ⟨priv, pub⟩ -
  apply stays_lift_bind
  intro init built
  have number : init.head? = some 30 := ((heads_u8 _ _).then appends_string) init built
  apply triple_bind (proposing_sound.sends 30 (by simp) init number).failAs
  intro _
  apply triple_bind (sound _ _ _).failAs
  rintro ⟨rx, m⟩
  apply stays_ensure_bind
  intro _
  apply stays_lift_bind
  intro reply _
  apply triple_bind (takeReply_agreed priv pub m reply)
  rintro ⟨exchangeHash, secret⟩
  have newkeys : Always (Quiet Harmless fun c => (flags c, agreement c)) (sendPacket noxtls env [21]) :=
    always_sendPacket background_harmless passive_agreement _ (harmless_sending (by decide) rfl) (by simp [Harmless])
  apply triple_bind (agreed_of_always newkeys).failAs
  intro _
  apply triple_bind (agreed _ _ _).failAs
  rintro ⟨rx, _⟩
  apply triple_ensure_bind _ fun h agreed => agreed.toSound
  intro _
  apply triple_bind deriveKeys_derived.failAs
  intro _
  apply triple_bind (Q := fun _ => Agreed noxtls env)
  · apply triple_modify
    rintro h ⟨agreed, derived⟩
    exact ⟨⟨fun _ => derived, fun _ => rfl, fun _ => rfl, agreed.guarded⟩, agreed.idLen, agreed.length,
      agreed.witnessed⟩
  intro _
  exact stays_log fun h agreed => agreed.log (by simp [Harmless])

theorem perform_agreed {wait : UInt8 → UInt8 → Nat → Prog Client Arrival}
    (sound : ∀ a b n, Stays (Sound noxtls env) (Sound noxtls env) (wait a b n))
    (agreed : ∀ a b n, Triple (Agreed noxtls env) (wait a b n) (fun _ => Agreed noxtls env)
      (Breaks (Sound noxtls env) (Sound noxtls env))) :
    Triple (Sound noxtls env) (performWith noxtls env wait) (fun _ => Agreed noxtls env)
      (Breaks (Sound noxtls env) (Sound noxtls env)) := by
  unfold performWith
  apply triple_self_bind
  intro c
  apply stays_ensure_bind
  intro _
  apply triple_bind (stays_log fun h sound => sound.log (by simp [Harmless]))
  intro _
  exact triple_leaving (exchangeKeys_agreed sound agreed) (fun _ h agreed => agreed.log (by simp [Harmless]))
    (fun _ h sound => sound.log (by simp [Harmless])) fun _ => id

/-- Waiting is sound, and an agreement outlasts it even if other exchanges take place. -/
theorem waitNested_sound (depth : Nat) : ∀ a b n,
    Stays (Sound noxtls env) (Sound noxtls env) (waitNested noxtls env depth a b n) ∧
    Triple (Agreed noxtls env) (waitNested noxtls env depth a b n) (fun _ => Agreed noxtls env)
      (Breaks (Sound noxtls env) (Sound noxtls env)) := by
  have reads : ∀ n, Always (Quiet Harmless fun c => (flags c, agreement c)) (recvInto noxtls env n) :=
    always_recvInto background_harmless passive_agreement hearing_harmless
  -- a KEXINIT is answered with an exchange, which needs a sound state and leaves an agreement
  have loops : ∀ (handle : List UInt8 → Mem → Prog Client Unit), (∀ rx m, Triple (Sound noxtls env) (handle rx m)
      (fun _ => Agreed noxtls env) (Breaks (Sound noxtls env) (Sound noxtls env))) → ∀ a b n,
      Stays (Sound noxtls env) (Sound noxtls env) (waitLoop noxtls env handle a b n waitTurns) ∧
      Triple (Agreed noxtls env) (waitLoop noxtls env handle a b n waitTurns) (fun _ => Agreed noxtls env)
        (Breaks (Sound noxtls env) (Sound noxtls env)) := by
    intro handle handles a b n
    constructor
    · apply triple_waitLoop (fun _ => id) sound_asks sound_recvInto
      exact fun rx m => (handles rx m).mono (fun _ => id) (fun _ _ agreed => agreed.toSound) fun _ _ => id
    · apply triple_waitLoop (fun _ agreed => agreed.toSound) agreed_asks fun n => agreed_of_always (reads n)
      exact fun rx m => (handles rx m).mono (fun _ agreed => agreed.toSound) (fun _ _ => id) fun _ _ => id
  induction depth with
  | zero => exact loops _ fun _ _ => triple_stall fun _ => id
  | succ depth ih =>
      apply loops
      apply proposing_sound.handles
      exact perform_agreed (fun a b n => (ih a b n).1) fun a b n => (ih a b n).2

theorem waitForMessage_sound (a b : UInt8) (n : Nat) :
    Stays (Sound noxtls env) (Sound noxtls env) (waitForMessage noxtls env a b n) :=
  triple_byInbox fun depth => (waitNested_sound depth a b n).1

theorem performCurve25519Kex_sound :
    Stays (Sound noxtls env) (Sound noxtls env) (performCurve25519Kex noxtls env) := by
  have performs : Triple (Sound noxtls env) (performCurve25519Kex noxtls env) (fun _ => Agreed noxtls env)
      (Breaks (Sound noxtls env) (Sound noxtls env)) :=
    perform_agreed waitForMessage_sound fun a b n => triple_byInbox fun depth => (waitNested_sound depth a b n).2
  exact performs.mono (fun _ => id) (fun _ _ agreed => agreed.toSound) fun _ _ => id

/-- A completed exchange is not taken back by the next one. -/
theorem exchanges_complete :
    Exchanges noxtls env (fun h => h.self.keyExchangeComplete = true) fun h => h.self.keyExchangeComplete = true := by
  have all : Background fun _ => True := ⟨⟨fun _ => trivial, trivial, trivial⟩, fun _ _ => trivial, fun _ _ => trivial⟩
  have unkeyed : Unkeyed fun c : Client => c.keyExchangeComplete :=
    ⟨⟨fun _ _ => rfl, fun _ _ => rfl, fun _ _ => rfl, fun _ _ => rfl⟩, fun _ _ => rfl, fun _ _ => rfl, fun _ _ => rfl,
      fun _ _ => rfl, fun _ _ => rfl⟩
  have keeps : ∀ {α : Type} {m : Prog Client α},
      Always (Quiet (fun _ => True) fun c => c.keyExchangeComplete) m →
      Stays (fun h => h.self.keyExchangeComplete = true) (fun h => h.self.keyExchangeComplete = true) m := fun always =>
    stays_of_always (fun _ => id) always fun _ _ quiet complete => quiet.1.trans complete
  exact {
    asks := fun _ => id
    receives := fun n => keeps (always_recvInto all unkeyed.toPassive ⟨fun _ => trivial, fun _ => trivial⟩ n)
    sends := fun _ _ payload _ => keeps (always_sendPacket all unkeyed.toPassive payload trivial trivial)
    kexinitClient := fun _ _ => id
    kexinitServer := fun _ _ => id
    kexinitExchanged := fun _ => id
    weaker := fun _ => id
    takes := fun _ _ _ _ => keeps (always_takeReply ⟨fun _ => trivial, fun _ _ _ => trivial⟩ unkeyed _ _ _ _)
    derives := keeps (always_deriveKeys unkeyed)
    complete := fun _ _ => rfl
    entered := fun _ => id
    left := fun _ _ => id
    done := fun _ _ _ => id }

end Exchange

/-! ## What a packet puts on the wire -/

/-- Since the trace `before`, just these bytes went out. -/
def Carried (before : List (Event × Client)) (bytes : List UInt8) (h : Host Client) : Prop :=
  ∃ new, h.trace = before ++ new ∧ wireOf new = bytes

/-- Since then, nothing but the beginning of these bytes went out. -/
def Carries (before : List (Event × Client)) (bytes : List UInt8) (h : Host Client) : Prop :=
  ∃ some, some <+: bytes ∧ Carried before some h

section Wire

variable {noxtls : Noxtls} {env : Env} {before : List (Event × Client)}

theorem Carried.silent {bytes : List UInt8} {h : Host Client} (carried : Carried before bytes h) {e : Event}
    (silent : e.wireBytes = []) : Carried before bytes { h with trace := h.trace ++ [(e, h.self)] } := by
  obtain ⟨new, grown, wire⟩ := carried
  refine ⟨new ++ [(e, h.self)], by simp [grown], ?_⟩
  rw [wireOf_append, wire, wireOf_single, silent, List.append_nil]

theorem Carried.part {part bytes : List UInt8} {h : Host Client} (carried : Carried before part h)
    (is : part <+: bytes) : Carries before bytes h :=
  ⟨part, is, carried⟩

/-- However a write ends, what went out is the data or the beginning of it. -/
theorem sendAll_carries (data sofar : List UInt8) :
    Triple (Carried before sofar) (sendAll env data) (fun _ => Carried before (sofar ++ data))
      fun _ => Carries before (sofar ++ data) := by
  have loop : ∀ (turns : Nat) (data sofar : List UInt8),
      Triple (Carried before sofar) (sendLoop env (pure none) turns data) (fun _ => Carried before (sofar ++ data))
        fun _ => Carries before (sofar ++ data) := by
    intro turns
    induction turns with
    | zero =>
        intro data sofar
        cases data with
        | nil => exact triple_pure _ fun _ carried => by rwa [List.append_nil]
        | cons c data => exact triple_stall fun _ carried => carried.part (List.prefix_append _ _)
    | succ turns ih =>
        intro data sofar
        cases data with
        | nil => exact triple_pure _ fun _ carried => by rwa [List.append_nil]
        | cons c data =>
            constructor
            intro h carried
            rw [sendLoop, pure_bind_run, sendCb, bind_assoc_run, ask_bind_run]
            dsimp only
            by_cases none : min (env.send h.tick) (c :: data).length = 0
            · rw [if_pos none, pure_bind_run, if_pos rfl]
              exact Carried.part carried (List.prefix_append _ _)
            · rw [if_neg none, bind_assoc_run, log_bind_run, pure_bind_run, if_neg none]
              obtain ⟨new, grown, wire⟩ := carried
              have step := (ih ((c :: data).drop (min (env.send h.tick) (c :: data).length))
                (sofar ++ (c :: data).take (min (env.send h.tick) (c :: data).length))).ends
              rw [List.append_assoc, List.take_append_drop] at step
              apply step
              refine ⟨new ++ [(_, h.self)], by rw [grown, List.append_assoc], ?_⟩
              rw [wireOf_append, wire, wireOf_single, Event.wireBytes]
  exact loop _ data sofar

/-- Whichever path is taken, ciphertext and MAC go out in this order. -/
theorem writeSealed_carries (enc mac : List UInt8) :
    Triple (Carried before []) (writeSealed env enc mac) (fun _ => Carried before (enc ++ mac))
      fun _ => Carries before (enc ++ mac) := by
  constructor
  intro h carried
  have none := h.self.nonePending
  have flushed : (flushPending env).run h = (.ok (), h) := by
    rw [flushPending, self_bind_run, none]
    rfl
  rw [writeSealed, self_bind_run]
  simp only [none, List.length_nil, Nat.zero_add, List.nil_append]
  split
  · exact (sendAll_carries (enc ++ mac) []).ends _ carried
  · -- with nothing pending the second fitting test is the first one again
    rw [bind_ok flushed]
    apply (triple_bind _ fun _ => sendAll_carries mac enc).ends h carried
    apply (sendAll_carries enc []).mono (fun _ => id) (fun _ _ => id)
    rintro _ h ⟨part, is, carried⟩
    exact carried.part (is.trans (List.prefix_append _ _))

/-- Nothing of a packet went out, or the beginning of it sealed in this lane. -/
def SealedIn (noxtls : Noxtls) (lane : Lane) (payload bytes : List UInt8) : Prop :=
  bytes = [] ∨ ∃ padding whole, sealPacket noxtls lane (plainPacket payload padding) = some whole ∧ bytes <+: whole

/-- The packet routine with encryption on. -/
theorem routine_carries (payload : List UInt8) {c : Client} (on : c.keyExchangeComplete = true) :
    Triple (fun h => h.self = c ∧ Carried before [] h)
      (sendPacketWith noxtls sendSide (fillRandom env) (sendAll env) (writeSealed env) uncounted payload)
      (fun _ h => ∃ padding whole, sealPacket noxtls (sendSide.lane c) (plainPacket payload padding) = some whole ∧
        Carried before whole h)
      fun _ h => Carried before [] h ∨ ∃ padding whole,
        sealPacket noxtls (sendSide.lane c) (plainPacket payload padding) = some whole ∧ Carries before whole h := by
  have encrypted : (sendSide.lane c).encrypted = true := on
  constructor
  rintro h ⟨rfl, carried⟩
  rw [sendPacketWith, self_bind_run]
  apply Triple.ends (P := Carried before []) _ h carried
  apply triple_ensure_bind _ fun _ => .inl
  intro _
  apply triple_bind (Q := fun _ => Carried before [])
  · exact triple_bind (triple_ask fun _ => id) fun _ => triple_pure _ fun _ => id
  intro padding
  dsimp only
  rw [if_pos encrypted]
  apply triple_lift_bind _ fun _ => .inl
  intro mac computes
  apply triple_bind (stays_log fun _ carried => carried.silent rfl)
  intro _
  apply triple_lift_bind _ fun _ => .inl
  intro enc encrypts
  apply triple_bind (stays_modify fun _ => id)
  intro _
  have seals : sealPacket noxtls (sendSide.lane h.self) (plainPacket payload padding) = some (enc ++ mac) := by
    rw [sealPacket, if_pos encrypted, computes, Option.bind_eq_bind, Option.bind_some, encrypts]
    rfl
  apply triple_bind (Q := fun _ => Carried before (enc ++ mac))
  · apply triple_failAs _ _ fun _ _ => id
    exact (writeSealed_carries enc mac).mono (fun _ => id) (fun _ _ => id) fun _ _ carries => .inr ⟨padding, _, seals, carries⟩
  intro _
  apply triple_bind (stays_modify fun _ => id)
  intro _
  exact triple_modify fun _ carried => ⟨padding, _, seals, carried⟩

/-- With encryption on, a packet leaves the client encrypted and authenticated. -/
theorem sendPacket_sealed (payload : List UInt8) {h : Host Client} (on : h.self.keyExchangeComplete = true) :
    ∃ bytes, Carried h.trace bytes ((sendPacket noxtls env payload).run h).2 ∧
      SealedIn noxtls (sendSide.lane h.self) payload bytes := by
  have start : Carried h.trace [] h := ⟨[], by simp, rfl⟩
  have nothing : ∀ {h' : Host Client}, Carried h.trace [] h' → ∃ bytes, Carried h.trace bytes h' ∧
      SealedIn noxtls (sendSide.lane h.self) payload bytes := fun carried => ⟨[], carried, .inl rfl⟩
  suffices sends : Triple (fun h' => h'.self = h.self ∧ Carried h.trace [] h') (sendPacket noxtls env payload)
      (fun _ h' => ∃ bytes, Carried h.trace bytes h' ∧ SealedIn noxtls (sendSide.lane h.self) payload bytes)
      (fun _ h' => ∃ bytes, Carried h.trace bytes h' ∧ SealedIn noxtls (sendSide.lane h.self) payload bytes) from
    sends.leads h ⟨rfl, start⟩
  apply triple_ensure_bind _ fun h' both => nothing both.2
  intro _
  apply triple_bind (Q := fun _ h' => h'.self = h.self ∧ Carried h.trace [] h')
  · exact triple_log fun h' both => ⟨both.1, both.2.silent rfl⟩
  intro _
  apply triple_bind (Q := fun _ h' => ∃ bytes, Carried h.trace bytes h' ∧ SealedIn noxtls (sendSide.lane h.self) payload bytes)
  · apply Triple.mono (routine_carries payload on) (fun _ => id)
    · exact fun _ h' ⟨padding, whole, seals, carried⟩ =>
        ⟨whole, carried, .inr ⟨padding, whole, seals, List.prefix_refl _⟩⟩
    · rintro _ h' (carried | ⟨padding, whole, seals, part, is, carried⟩)
      · exact nothing carried
      · exact ⟨part, carried, .inr ⟨padding, whole, seals, is⟩⟩
  intro _
  apply triple_log
  rintro h' ⟨bytes, carried, sealed⟩
  exact ⟨bytes, carried.silent rfl, sealed⟩

end Wire

/-! ## Calls -/

section Calls

variable {noxtls : Noxtls} {env : Env}

/-- Sound, with the exchange completed that the calls ask for. -/
def Keyed (noxtls : Noxtls) (env : Env) (h : Host Client) : Prop :=
  Sound noxtls env h ∧ h.self.keyExchangeComplete = true

theorem Keyed.update {h : Host Client} (keyed : Keyed noxtls env h) {f : Client → Client}
    (same : ∀ c, flags (f c) = flags c) : Keyed noxtls env { h with self := f h.self } :=
  ⟨keyed.1.update same, (congrArg (·.1) (same h.self)).trans keyed.2⟩

theorem Keyed.enable {h : Host Client} (keyed : Keyed noxtls env h) {f : Client → Client}
    (keeps : ∀ c, (f c).keyExchangeComplete = c.keyExchangeComplete)
    (derived : ∀ c trace, Derived noxtls env trace c → Derived noxtls env trace (f c)) :
    Keyed noxtls env { h with self := f h.self } := by
  have on : (f h.self).keyExchangeComplete = true := (keeps h.self).trans keyed.2
  exact ⟨⟨fun _ => derived _ _ (keyed.1.keyed keyed.2), fun _ => on, fun _ => on, keyed.1.guarded⟩, on⟩

theorem calling_sound : Calling noxtls env (Sound noxtls env) (Keyed noxtls env) (Sound noxtls env) where
  weaker _ := id
  sharper _ keyed := keyed.1
  keyed _ sound complete := ⟨sound, complete⟩
  opened _ sound opened := ⟨sound, sound.channelOpen opened⟩
  receives := sound_recvInto
  handles := proposing_sound.handles performCurve25519Kex_sound
  exchanges := proposing_sound.exchanges performCurve25519Kex_sound
  waits a b n := (waitForMessage_sound a b n).stays_and (exchanges_complete.waits a b n)
  sends := by
    intro number _ payload _
    apply stays_of_keeps fun _ keyed => keyed.1
    rintro h ⟨sound, complete⟩
    have always : Always (Quiet (fun _ => True) flags) (sendPacket noxtls env payload) :=
      always_sendPacket ⟨⟨fun _ => trivial, trivial, trivial⟩, fun _ _ => trivial, fun _ _ => trivial⟩ passive_flags
        payload trivial trivial
    exact ⟨sound_sendPacket payload sound fun _ => complete, (congrArg (·.1) (always h).1).trans complete⟩
  userauthReady _ keyed := keyed.update fun _ => rfl
  connectionReady _ keyed := keyed.update fun _ => rfl
  authenticated _ keyed := keyed.enable (fun _ => rfl) fun _ _ => id
  localChannel _ keyed := keyed.update fun _ => rfl
  channelOpen _ _ _ _ keyed := keyed.enable (fun _ => rfl) fun _ _ => id
  channelClosed _ sound := { sound with channelOpen := fun opened => absurd opened (by simp [closeChannel]) }
  exitStatus _ _ sound := sound.update fun _ => rfl
  ident _ _ sound := sound.quiet ⟨rfl, [], by simp, by simp⟩
  username _ _ sound := sound.update fun _ => rfl
  host _ _ sound := sound.update fun _ => rfl
  password _ _ sound := sound.update fun _ => rfl
  privateKey _ _ sound := sound.update fun _ => rfl
  publicKey _ _ sound := sound.update fun _ => rfl
  noKey _ sound := sound.update fun _ => rfl

theorem Sound.closed {h : Host Client} (sound : Sound noxtls env h) :
    Sound noxtls env { h with self := Client.closed h.self } where
  keyed on := absurd on (by simp [Client.closed])
  authenticated on := absurd on (by simp [Client.closed])
  channelOpen on := absurd on (by simp [Client.closed])
  guarded := sound.guarded

theorem connect_sound : Stays (Sound noxtls env) (Sound noxtls env) (connect noxtls env) := by
  have quiet : ∀ {α : Type} {m : Prog Client α}, Always (Quiet Harmless flags) m →
      Stays (Sound noxtls env) (Sound noxtls env) m := fun always =>
    stays_of_always (fun _ => id) always fun _ _ quiet sound => sound.quiet quiet
  apply triple_connect sound_asks
  · exact fun data => quiet (always_sendAll background_harmless.toPlumbing data)
  · exact quiet (always_recvLine (by simp [Harmless]) 256)
  · exact fun _ _ sound => sound.update fun _ => rfl
  · exact fun _ sound => sound.update fun _ => rfl
  · exact calling_sound.exchanges

theorem sound_init (port : Nat) (inbox : List UInt8) : Sound noxtls env ⟨Client.init port, 0, inbox, []⟩ :=
  ⟨fun on => absurd on (by simp [Client.init]), fun on => absurd on (by simp [Client.init]),
    fun on => absurd on (by simp [Client.init]), audited_nil⟩

theorem calls_sound (calls : List Call) : Stays (Sound noxtls env) (Sound noxtls env) (Calls.run noxtls env calls) := by
  apply stays_calls
  intro call _
  by_cases first : call = .connect
  · subst first
    exact connect_sound
  · exact calling_sound.stays call first fun _ _ => Sound.closed

/-- A client with an exchange behind it. -/
def sampleKeyed : Host Client := ⟨{ Client.init 22 with keyExchangeComplete := true }, 0, [], []⟩

end Calls

end NoxSsh.Client
