/-
# Client.Reuse — a closed client beside a fresh one

`netnox_ssh_client_close` clears what a connection left in the context, field by
field.  What it does not name is the session identifier, the keys and counters, the
KEXINIT payloads, the fingerprint, and the two sequence numbers.  All but the last are
written before the next connection reads them; the sequence numbers go on counting, and
they are part of every MAC.  So a closed client does what a fresh one with the same
settings does until the first packet under new keys (`reuse_same`), and from there on
only if no packet was ever counted.
-/
import NoxSsh.Transport.Twin
import NoxSsh.Client.Conduct

namespace NoxSsh.Client

open Theory Proc Wire Transport

set_option autoImplicit false

/-! ## The relation -/

/-- Which of the leftover fields are the same. -/
structure Common where
  ident : Prop
  target : Prop
  password : Prop
  kexinitClient : Prop
  kexinitServer : Prop
  session : Prop
  keys : Prop
  /-- The sequence numbers. -/
  counts : Prop

/-- All fields are the same but for the leftover ones, and those that `known` lists or a
flag says are of this connection.  Nothing reads the port, the host, the host key and the
IVs. -/
structure Kin (known : Common) (s t : Client) : Prop where
  clientIdent : known.ident → s.clientIdent = t.clientIdent
  serverIdent : s.serverIdent = t.serverIdent
  username : known.target → s.username = t.username
  password : known.password → s.password = t.password
  ed25519PrivateKey : s.ed25519PrivateKey = t.ed25519PrivateKey
  ed25519PublicKey : s.ed25519PublicKey = t.ed25519PublicKey
  hasEd25519Key : s.hasEd25519Key = t.hasEd25519Key
  connected : s.connected = t.connected
  kexinitExchanged : s.kexinitExchanged = t.kexinitExchanged
  userauthServiceReady : s.userauthServiceReady = t.userauthServiceReady
  connectionServiceReady : s.connectionServiceReady = t.connectionServiceReady
  authenticated : s.authenticated = t.authenticated
  channelOpen : s.channelOpen = t.channelOpen
  keyExchangeComplete : s.keyExchangeComplete = t.keyExchangeComplete
  localChannelId : s.localChannelId = t.localChannelId
  remoteChannelId : s.remoteChannelId = t.remoteChannelId
  localWindowSize : s.localWindowSize = t.localWindowSize
  remoteWindowSize : s.remoteWindowSize = t.remoteWindowSize
  remoteMaxPacketSize : s.remoteMaxPacketSize = t.remoteMaxPacketSize
  kexinitClient : known.kexinitClient ∨ t.kexinitExchanged = true → s.kexinitClientPayload = t.kexinitClientPayload
  kexinitServer : known.kexinitServer ∨ t.kexinitExchanged = true → s.kexinitServerPayload = t.kexinitServerPayload
  serverHostKeyReady : s.serverHostKeyReady = t.serverHostKeyReady
  fingerprint : t.serverHostKeyReady = true → s.serverHostKeyFingerprint = t.serverHostKeyFingerprint
  session : known.session ∨ t.keyExchangeComplete = true → s.sessionId = t.sessionId ∧ s.sessionIdLen = t.sessionIdLen ∧
    s.sharedSecretRaw = t.sharedSecretRaw
  keys : known.keys ∨ t.keyExchangeComplete = true → s.c2sKey = t.c2sKey ∧ s.c2sMacKey = t.c2sMacKey ∧
    s.c2sCounter = t.c2sCounter ∧ s.s2cKey = t.s2cKey ∧ s.s2cMacKey = t.s2cMacKey ∧ s.s2cCounter = t.s2cCounter
  counts : known.counts → s.sendSeq = t.sendSeq ∧ s.recvSeq = t.recvSeq
  remoteExitStatusValid : s.remoteExitStatusValid = t.remoteExitStatusValid
  remoteExitStatus : s.remoteExitStatus = t.remoteExitStatus

/-- A packet under the keys of this connection, while the sequence numbers may differ. -/
def Miscounts (counts : Prop) (e : Event × Client) : Prop :=
  ¬ counts ∧ e.2.keyExchangeComplete = true ∧ ((∃ p, e.1 = .sending p) ∨ ∃ looked, e.1 = .receiving looked)

/-- The two runs stay abreast, and what they know of each other stays known. -/
abbrev Even {α : Type} (known : Common) (m m' : Prog Client α) : Prop :=
  Abreast (Miscounts known.counts) Prod.fst (Kin known) m m' (fun _ => Kin known) (Kin known)

section Kin

variable {known : Common} {s t : Client} {α : Type}

theorem even_pure (a : α) : Even known (pure a) (pure a) := abreast_pure a fun _ _ => id

theorem even_fail (e : NetnoxReturn) : Even known (fail e : Prog Client α) (fail e) := abreast_fail e fun _ _ => id

theorem kin_refl (known : Common) (t : Client) : Kin known t t := by
  constructor <;> intros <;> first | rfl | exact ⟨rfl, rfl⟩ | exact ⟨rfl, rfl, rfl⟩ | exact ⟨rfl, rfl, rfl, rfl, rfl, rfl⟩

/-- With the numbers the same too the lanes are the same where they encrypt. -/
def Counted (known : Common) (s t : Client) : Prop :=
  Kin known s t ∧ (known.counts ∨ t.keyExchangeComplete = false)

theorem mirrored_sendSide (known : Common) : Mirrored (Counted known) sendSide uncounted where
  lane s t counted := by
    obtain ⟨kin, same⟩ := counted
    refine ⟨kin.keyExchangeComplete, fun encrypted => ?_⟩
    have complete : t.keyExchangeComplete = true := kin.keyExchangeComplete.symm.trans encrypted
    obtain ⟨key, macKey, counter, -⟩ := kin.keys (.inr complete)
    have same : known.counts := same.resolve_right (by simp [complete])
    simp only [sendSide, kin.keyExchangeComplete, key, macKey, counter, (kin.counts same).1]
  uncounted _ _ := rfl
  setCounter counter s t counted := by
    refine ⟨{ counted.1 with keys := fun keyed => ?_ }, counted.2⟩
    obtain ⟨key, macKey, -, others⟩ := counted.1.keys keyed
    exact ⟨key, macKey, rfl, others⟩
  bumpSeq s t counted := by
    refine ⟨{ counted.1 with counts := fun same => ?_ }, counted.2⟩
    obtain ⟨send, recv⟩ := counted.1.counts same
    exact ⟨congrArg (fun seq => wrap32 (seq + 1)) send, recv⟩
  account _ _ _ := id

theorem mirrored_recvSide (known : Common) : Mirrored (Counted known) recvSide uncounted where
  lane s t counted := by
    obtain ⟨kin, same⟩ := counted
    refine ⟨kin.keyExchangeComplete, fun encrypted => ?_⟩
    have complete : t.keyExchangeComplete = true := kin.keyExchangeComplete.symm.trans encrypted
    obtain ⟨-, -, -, key, macKey, counter⟩ := kin.keys (.inr complete)
    have same : known.counts := same.resolve_right (by simp [complete])
    simp only [recvSide, kin.keyExchangeComplete, key, macKey, counter, (kin.counts same).2]
  uncounted _ _ := rfl
  setCounter counter s t counted := by
    refine ⟨{ counted.1 with keys := fun keyed => ?_ }, counted.2⟩
    obtain ⟨key, macKey, own, key', macKey', -⟩ := counted.1.keys keyed
    exact ⟨key, macKey, own, key', macKey', rfl⟩
  bumpSeq s t counted := by
    refine ⟨{ counted.1 with counts := fun same => ?_ }, counted.2⟩
    obtain ⟨send, recv⟩ := counted.1.counts same
    exact ⟨send, congrArg (fun seq => wrap32 (seq + 1)) recv⟩
  account _ _ _ := id

end Kin

/-! ## Packets -/

section Packets

variable {known : Common} {noxtls : Noxtls} {env : Env} {R : Client → Client → Prop}

/-- Every event is seen, whatever the contexts are. -/
theorem shown_event (e : Event) : Shown R Prod.fst e := fun _ _ _ => rfl

theorem background_all : Background (fun _ => True) := ⟨⟨fun _ => trivial, trivial, trivial⟩, fun _ _ => trivial, fun _ _ => trivial⟩

theorem hearing_all : Hearing (fun _ => True) := ⟨fun _ => trivial, fun _ => trivial⟩

theorem passive_none : Passive (fun _ : Client => ()) := ⟨fun _ _ => rfl, fun _ _ => rfl, fun _ _ => rfl, fun _ _ => rfl⟩

theorem twins_sendAll (data : List UInt8) : Twins (Twinned R Prod.fst) (sendAll env data) (sendAll env data) :=
  twins_sendAllWith (fun _ => shown_event _) (twins_pure none) data

theorem twins_recvExact (len room : Nat) :
    Twins (Twinned R Prod.fst) (recvExact env len room) (recvExact env len room) :=
  twins_recvExactWith (shown_event _) (fun _ => shown_event _) (twins_pure none) len room

theorem twins_fillRandom (len : Nat) : Twins (Twinned R Prod.fst) (fillRandom env len) (fillRandom env len) :=
  twins_bind (twin_ask _) fun _ => twins_pure _

theorem twins_writeSealed (enc mac : List UInt8) :
    Twins (Twinned R Prod.fst) (writeSealed env enc mac) (writeSealed env enc mac) := by
  have clears : ∀ c : Client, { c with pendingNewkeys := [], nonePending := rfl } = c := by
    intro c
    simp only [← c.nonePending]
  have clear : Twins (Twinned R Prod.fst) (modify fun c : Client => { c with pendingNewkeys := [], nonePending := rfl })
      (modify fun c : Client => { c with pendingNewkeys := [], nonePending := rfl }) := by
    apply twins_modify
    intro s t related
    rw [clears, clears]
    exact related
  apply twin_self_bind
  intro s t related
  rw [s.nonePending, t.nonePending]
  apply twins_ite Iff.rfl
  · exact twins_bind clear fun _ => twins_sendAll _
  · apply twins_bind
    · apply twin_self_bind
      intro s t related
      rw [s.nonePending, t.nonePending]
      exact twins_ite Iff.rfl (twins_bind (twins_sendAll _) fun _ => clear) (twins_pure ())
    · intro _
      apply twins_ite Iff.rfl (twins_sendAll _)
      exact twins_bind (twins_sendAll _) fun _ => twins_sendAll _

theorem growing_recvExact (len room : Nat) : Growing (recvExact env len room) :=
  always_recvExact background_all.toPlumbing (fun _ => trivial) len room

/-- What was recorded stays recorded. -/
theorem recorded_bind {α β : Type} {first : Prog Client α} {rest : α → Prog Client β} {h : Host Client} {e : Event × Client}
    (recorded : e ∈ (first.run h).2.trace) (grows : ∀ a, Growing (rest a)) : e ∈ ((first >>= rest).run h).2.trace := by
  rw [bind_run]
  revert recorded
  rcases first.run h with ⟨o, h'⟩
  intro recorded
  cases o with
  | ok a =>
      obtain ⟨-, new, grown, -⟩ := grows a h'
      show e ∈ ((rest a).run h').2.trace
      rw [grown]
      exact List.mem_append_left _ recorded
  | err e => exact recorded
  | stuck => exact recorded

theorem recorded_failAs {α : Type} {m : Prog Client α} {h : Host Client} {e : Event × Client} {code : NetnoxReturn}
    (recorded : e ∈ (m.run h).2.trace) : e ∈ ((failAs code m).run h).2.trace := by
  rw [failAs_run]
  revert recorded
  rcases m.run h with ⟨o, h'⟩
  cases o <;> exact id

/-- The first thing under the keys is to call `recv_cb`. -/
theorem recorded_openWith (payloadMax : Nat) {h : Host Client} (complete : h.self.keyExchangeComplete = true) :
    (.receiving none, h.self) ∈ ((openWith noxtls recvSide (recvExact env) uncounted payloadMax).run h).2.trace := by
  have order := quiet_order (fun _ => True) fun _ : Client => ()
  have reads : ∀ {len room}, Growing (failAs .failed (recvExact env len room)) :=
    fun {len room} => always_failAs _ (growing_recvExact len room)
  have modifies : ∀ f : Client → Client, Growing (modify f) := fun f => always_modify fun _ => rfl
  rw [openWith, self_bind_run, if_pos (show (recvSide.lane h.self).encrypted = true from complete)]
  apply recorded_bind
  · apply recorded_failAs
    show (.receiving none, h.self) ∈ ((recvLoop env (pure none) 16 (4 + maxPacketLen) 16 []).run h).2.trace
    rw [recvLoop, if_pos (by decide), pure_bind_run]
    apply recorded_bind
    · apply recorded_bind
      · exact List.mem_append_right _ (List.mem_singleton_self _)
      · exact fun _ => (quiet_plain _ _).takeInbox env _
    · intro got
      apply always_ite (always_fail order _)
      apply always_ite (always_bind order (always_log trivial) fun _ => always_stall order)
      exact always_recvLoop (quiet_plain _ _) (always_log trivial)
        (always_checked (quiet_plain _ _) (fun _ => always_log trivial) (always_pure order none)) _ _ _ _
  · intro first
    apply always_bind order always_self
    intro c
    apply always_bind order (always_lift order _ _)
    intro head
    apply always_bind order (modifies _)
    intro _
    apply always_bind order (always_ensure order _ _)
    intro _
    apply always_bind order reads
    intro rest
    apply always_bind order always_self
    intro c
    apply always_bind order (always_lift order _ _)
    intro tail
    apply always_bind order (modifies _)
    intro _
    apply always_bind order reads
    intro mac
    apply always_bind order always_self
    intro c
    apply always_bind order (always_lift order _ _)
    intro computed
    apply always_bind order (always_ensure order _ _)
    intro _
    apply always_bind order (always_log trivial)
    intro _
    apply always_bind order (modifies _)
    intro _
    exact always_bind order (modifies _) fun _ => always_lift order _ _

theorem counted_kin {known : Common} {s t : Client} (counted : Counted known s t) : Kin known s t := counted.1

theorem even_sendPacket (payload : List UInt8) :
    Even known (sendPacket noxtls env payload) (sendPacket noxtls env payload) := by
  rw [sendPacket]
  apply abreast_ensure_bind _ Iff.rfl fun _ _ => id
  apply abreast_log_bind (shown_event _)
  have seals : Abreast (Miscounts known.counts) Prod.fst (Counted known)
      (sendPacketWith noxtls sendSide (fillRandom env) (sendAll env) (writeSealed env) uncounted payload)
      (sendPacketWith noxtls sendSide (fillRandom env) (sendAll env) (writeSealed env) uncounted payload)
      (fun _ => Counted known) (Counted known) := by
    apply abreast_of_twins
    · exact twins_sendPacketWith (mirrored_sendSide known) (fun _ _ => shown_event _) twins_fillRandom twins_sendAll
        twins_writeSealed payload
    · exact always_sendPacketWith (quiet_plain _ _) (fun _ _ => always_log trivial) (fun _ => always_modify fun _ => rfl)
        (fun _ => always_modify fun _ => rfl) (fun _ => always_modify fun _ => rfl) always_fillRandom
        (always_sendAll background_all.toPlumbing) (always_writeSealed background_all.toPlumbing) payload
  apply abreast_bind (seals.mono _ (fun _ _ _ => counted_kin) fun _ _ => counted_kin)
  · exact fun _ => abreast_log (shown_event _)
  · rintro s t ⟨kin, counts⟩
    refine ⟨kin, ?_⟩
    by_contra apart
    simp only [not_or, Bool.not_eq_false] at apart
    exact counts ⟨apart.1, apart.2, .inl ⟨payload, rfl⟩⟩

theorem even_recvPacket (payloadMax : Nat) :
    Even known (recvPacket noxtls env payloadMax) (recvPacket noxtls env payloadMax) := by
  rw [recvPacket, recvPacketWith]
  have opens : Twins (Twinned (Counted known) Prod.fst) (openWith noxtls recvSide (recvExact env) uncounted payloadMax)
      (openWith noxtls recvSide (recvExact env) uncounted payloadMax) :=
    twins_openWith (mirrored_recvSide known) (fun _ _ => shown_event _) (fun _ _ => twins_recvExact) payloadMax
  apply abreast_bind (Q := fun _ => Kin known)
  · constructor
    · apply twinUnless_cases (C := fun h => ¬ known.counts ∧ h.self.keyExchangeComplete = true)
      · rintro h ⟨apart, complete⟩
        exact ⟨_, recorded_openWith payloadMax complete, apart, complete, .inr ⟨none, rfl⟩⟩
      · apply opens.unless.mono
        · rintro h h' ⟨twinned, counts⟩
          refine ⟨⟨twinned.self, ?_⟩, twinned.tick, twinned.inbox, twinned.trace⟩
          by_contra apart
          simp only [not_or, Bool.not_eq_false] at apart
          exact counts apart
        · exact fun _ h h' twinned => twinned.mono fun _ _ => counted_kin
        · exact fun h h' twinned => twinned.mono fun _ _ => counted_kin
    · exact always_openWith (quiet_plain _ _) (fun _ _ => always_log trivial) (fun _ => always_modify fun _ => rfl)
        (fun _ => always_modify fun _ => rfl) (fun _ => always_modify fun _ => rfl) growing_recvExact payloadMax
  · intro payload
    exact abreast_bind (abreast_log (shown_event _)) fun _ => even_pure _

theorem even_recvInto (payloadMax : Nat) :
    Even known (recvInto noxtls env payloadMax) (recvInto noxtls env payloadMax) := by
  apply abreast_bind (even_recvPacket payloadMax)
  intro payload
  exact abreast_bind (abreast_ask _) fun rest => even_pure _

end Packets

/-! ## Key exchanges -/

section Exchanges

variable {known : Common} {noxtls : Noxtls} {env : Env} {s t : Client} {α : Type}

/-- Both KEXINITs are of this connection. -/
def Common.proposed (known : Common) : Common := { known with kexinitClient := True, kexinitServer := True }

/-- Session identifier and secret are of this connection. -/
def Common.agreed (known : Common) : Common := { known with session := True }

/-- And so are the keys. -/
def Common.keyed (known : Common) : Common := { known with session := True, keys := True }

theorem Kin.unproposed (kin : Kin known.proposed s t) : Kin known s t :=
  { kin with
    kexinitClient := fun _ => kin.kexinitClient (.inl trivial)
    kexinitServer := fun _ => kin.kexinitServer (.inl trivial) }

theorem Kin.unagreed (kin : Kin known.agreed s t) : Kin known s t :=
  { kin with session := fun _ => kin.session (.inl trivial) }

theorem Kin.unkeyed (kin : Kin known.keyed s t) : Kin known s t :=
  { kin with
    session := fun _ => kin.session (.inl trivial)
    keys := fun _ => kin.keys (.inl trivial) }

theorem Kin.proposed (kin : Kin known s t) (exchanged : t.kexinitExchanged = true) : Kin known.proposed s t :=
  { kin with
    kexinitClient := fun _ => kin.kexinitClient (.inr exchanged)
    kexinitServer := fun _ => kin.kexinitServer (.inr exchanged) }

/-- A stretch on which more is known. -/
theorem even_within {known' : Common} {m m' : Prog Client α} (even : Even known' m m') (same : known'.counts = known.counts)
    (weaker : ∀ {s t}, Kin known' s t → Kin known s t) :
    Abreast (Miscounts known.counts) Prod.fst (Kin known') m m' (fun _ => Kin known') (Kin known) :=
  same ▸ even.mono (fun _ _ => id) (fun _ _ _ => id) fun _ _ => weaker

theorem growing_fillRandom (len : Nat) : Growing (fillRandom env len) := always_fillRandom len

theorem even_buildKexinit : Even known (buildKexinit env) (buildKexinit env) := by
  apply abreast_bind (abreast_of_twins (twins_fillRandom 16) (growing_fillRandom 16))
  intro cookie
  exact abreast_of_twins (twins_lift _ rfl) (always_lift (quiet_order _ _) _ _)

/-- The host key, the exchange hash and the secret are new. -/
theorem even_takeReply (ident : known.ident) (client : known.kexinitClient) (server : known.kexinitServer)
    (priv pub : List UInt8) (m : Mem) (reply : KexReply) :
    Abreast (Miscounts known.counts) Prod.fst (Kin known) (takeReply noxtls priv pub m reply)
      (takeReply noxtls priv pub m reply) (fun _ => Kin known.agreed) (Kin known) := by
  unfold takeReply
  apply abreast_bind (abreast_log (shown_event _))
  intro _
  apply abreast_bind (abreast_modify (f := setHostKeyBlob _) (R := Kin known) fun s t kin => { kin with })
  intro _
  apply abreast_lift_bind _ fun _ _ => id
  intro fingerprint _
  apply abreast_bind (abreast_modify (f := setFingerprint fingerprint) (R := Kin known)
    fun s t kin => { kin with serverHostKeyReady := rfl, fingerprint := fun _ => rfl })
  intro _
  apply abreast_lift_bind _ fun _ _ => id
  intro secret _
  apply abreast_self_bind (kin_refl known)
  intro s t kin
  rw [kin.clientIdent ident, kin.serverIdent, kin.kexinitClient (.inl client), kin.kexinitServer (.inl server)]
  apply abreast_lift_bind _ fun _ _ => id
  intro exchangeHash _
  -- the length of the identifier is set with the secret only
  apply abreast_bind (abreast_modify (f := setExchangeHash exchangeHash) (R := fun s t => Kin known s t ∧ s.sessionId = t.sessionId) ?_)
  · intro _
    apply abreast_ensure_bind _ Iff.rfl fun _ _ => And.left
    apply abreast_bind (abreast_log (shown_event _))
    intro _
    apply abreast_bind (abreast_modify (f := setSecret secret) (R := Kin known.agreed) ?_)
    · exact fun _ => abreast_pure _ fun _ _ => id
    · exact fun s t ⟨kin, same⟩ => { kin with session := fun _ => ⟨same, rfl, rfl⟩ }
  · intro s t kin
    refine ⟨{ kin with session := fun same => ?_ }, rfl⟩
    obtain ⟨-, others⟩ := kin.session same
    exact ⟨rfl, others⟩

theorem even_deriveKeys (session : known.session) :
    Abreast (Miscounts known.counts) Prod.fst (Kin known) (deriveKeys noxtls env) (deriveKeys noxtls env)
      (fun _ => Kin known.keyed) (Kin known) := by
  apply abreast_self_bind (kin_refl known)
  intro s t kin
  obtain ⟨identifier, length, secret⟩ := kin.session (.inl session)
  rw [identifier, length, secret]
  apply abreast_ensure_bind _ Iff.rfl fun _ _ => id
  apply abreast_lift_bind _ fun _ _ => id
  intro keys _
  apply abreast_modify
  intro s t kin
  exact { kin with session := fun _ => kin.session (.inl session), keys := fun _ => ⟨rfl, rfl, rfl, rfl, rfl, rfl⟩ }

theorem even_exchangeKeys {wait : UInt8 → UInt8 → Nat → Prog Client Arrival} (ident : known.ident)
    (client : known.kexinitClient) (server : known.kexinitServer)
    (waits : ∀ known : Common, known.ident → ∀ a b max, Even known (wait a b max) (wait a b max)) :
    Even known (exchangeKeys noxtls env wait) (exchangeKeys noxtls env wait) := by
  have further : ∀ {α : Type} {m : Prog Client α}, Even known.agreed m m →
      Abreast (Miscounts known.counts) Prod.fst (Kin known.agreed) m m (fun _ => Kin known.agreed) (Kin known) :=
    fun even => even_within even rfl Kin.unagreed
  unfold exchangeKeys
  apply abreast_bind (abreast_ask _)
  intro generated
  apply abreast_lift_bind _ fun _ _ => id
  rintro ⟨priv, pub⟩ _
  apply abreast_lift_bind _ fun _ _ => id
  intro init _
  apply abreast_bind ((even_sendPacket init).failAs _)
  intro _
  apply abreast_bind ((waits known ident 31 255 2048).failAs _)
  rintro ⟨rx, m⟩
  apply abreast_ensure_bind _ Iff.rfl fun _ _ => id
  apply abreast_lift_bind _ fun _ _ => id
  intro reply _
  apply abreast_bind (even_takeReply ident client server priv pub m reply)
  rintro ⟨exchangeHash, secret⟩
  apply abreast_bind ((further (even_sendPacket [21])).failAs _)
  intro _
  apply abreast_bind ((further (waits known.agreed ident 21 255 2048)).failAs _)
  rintro ⟨rx, m'⟩
  apply abreast_ensure_bind _ Iff.rfl fun _ _ => Kin.unagreed
  apply abreast_bind (Q := fun _ => Kin known.keyed)
  · have derives := @even_deriveKeys known.agreed noxtls env trivial
    exact (derives.mono (fun _ _ => id) (fun _ _ _ => id) fun _ _ => Kin.unagreed).failAs _
  · intro _
    apply abreast_bind (abreast_modify (f := setKeyExchangeComplete) (R := Kin known) ?_)
    · exact fun _ => abreast_log (shown_event _)
    · intro s t kin
      exact { kin.unkeyed with
        keyExchangeComplete := rfl
        session := fun _ => kin.session (.inl trivial)
        keys := fun _ => kin.keys (.inl trivial) }

theorem even_performWith {wait : UInt8 → UInt8 → Nat → Prog Client Arrival} (ident : known.ident)
    (waits : ∀ known : Common, known.ident → ∀ a b max, Even known (wait a b max) (wait a b max)) :
    Even known (performWith noxtls env wait) (performWith noxtls env wait) := by
  have exchanges : Even known.proposed (exchangeKeys noxtls env wait) (exchangeKeys noxtls env wait) :=
    even_exchangeKeys ident trivial trivial waits
  apply abreast_guard_bind _ (fun s t kin => by rw [kin.kexinitExchanged]) fun _ _ => id
  apply Abreast.mono (P := Kin known.proposed) _ (fun s t both => both.1.proposed both.2) (fun _ _ _ => id) fun _ _ => id
  apply abreast_bind (abreast_log (shown_event _))
  intro _
  apply abreast_leaving _ fun done R' => shown_event _
  exact exchanges.mono (fun _ _ => id) (fun _ _ _ => Kin.unproposed) fun _ _ => Kin.unproposed

/-- Both KEXINITs are stored before the flag is set. -/
theorem Kin.exchanged (kin : Kin known.proposed s t) : Kin known (setKexinitExchanged s) (setKexinitExchanged t) :=
  { kin.unproposed with
    kexinitExchanged := rfl
    kexinitClient := fun _ => kin.kexinitClient (.inl trivial)
    kexinitServer := fun _ => kin.kexinitServer (.inl trivial) }

theorem even_handleWith {perform : Prog Client Unit} (performs : Even known perform perform) (rx : List UInt8) (m : Mem) :
    Even known (handleWith noxtls env perform rx m) (handleWith noxtls env perform rx m) := by
  have sends : ∀ tx, Abreast (Miscounts known.counts) Prod.fst (Kin known.proposed) (sendPacket noxtls env tx)
      (sendPacket noxtls env tx) (fun _ => Kin known.proposed) (Kin known) :=
    fun tx => even_within (even_sendPacket tx) rfl Kin.unproposed
  have builds : Abreast (Miscounts known.counts) Prod.fst (Kin { known with kexinitServer := True })
      (buildKexinit env) (buildKexinit env) (fun _ => Kin { known with kexinitServer := True }) (Kin known) :=
    even_within even_buildKexinit rfl fun kin => { kin with kexinitServer := fun _ => kin.kexinitServer (.inl trivial) }
  apply abreast_ensure_bind _ Iff.rfl fun _ _ => id
  apply abreast_ensure_bind _ Iff.rfl fun _ _ => id
  apply abreast_ensure_bind _ Iff.rfl fun _ _ => id
  apply abreast_ensure_bind _ Iff.rfl fun _ _ => id
  apply abreast_bind (abreast_modify (f := setKexinitServer rx) (R := Kin { known with kexinitServer := True })
    fun s t kin => { kin with kexinitServer := fun _ => rfl })
  intro _
  apply abreast_bind (builds.failAs _)
  intro tx
  apply abreast_ensure_bind _ Iff.rfl
    fun s t kin => { kin with kexinitServer := fun _ => kin.kexinitServer (.inl trivial) }
  apply abreast_bind (abreast_modify (f := setKexinitClient tx) (R := Kin known.proposed)
    fun s t kin => { kin with kexinitClient := fun _ => rfl })
  intro _
  apply abreast_bind ((sends tx).failAs _)
  intro _
  apply abreast_bind (abreast_modify (f := setKexinitExchanged) (R := Kin known) fun s t kin => kin.exchanged)
  exact fun _ => performs

theorem even_waitLoop {handle : List UInt8 → Mem → Prog Client Unit} (handles : ∀ rx m, Even known (handle rx m) (handle rx m))
    (a b : UInt8) (outMax : Nat) :
    ∀ turns, Even known (waitLoop noxtls env handle a b outMax turns) (waitLoop noxtls env handle a b outMax turns) := by
  intro turns
  induction turns with
  | zero => exact even_fail _
  | succ turns ih =>
      rw [waitLoop]
      apply abreast_bind ((even_recvInto maxPacketLen).failAs _)
      rintro ⟨rx, m⟩
      dsimp only
      cases rx.head? with
      | none => exact ih
      | some number =>
          apply abreast_ite Iff.rfl
          · exact abreast_bind ((handles rx m).failAs _) fun _ => ih
          apply abreast_ite Iff.rfl _ ih
          apply abreast_ensure_bind _ Iff.rfl fun _ _ => id
          exact abreast_bind (abreast_ask _) fun rest => even_pure _

theorem even_waitNested (depth : Nat) : ∀ known : Common, known.ident → ∀ a b max,
    Even known (waitNested noxtls env depth a b max) (waitNested noxtls env depth a b max) := by
  induction depth with
  | zero =>
      intro known ident a b max
      rw [waitNested]
      exact even_waitLoop (fun _ _ => abreast_stall fun _ _ => id) a b max waitTurns
  | succ depth ih =>
      intro known ident a b max
      rw [waitNested]
      exact even_waitLoop (even_handleWith (even_performWith ident ih)) a b max waitTurns

theorem even_waitForMessage (ident : known.ident) (a b : UInt8) (max : Nat) :
    Even known (waitForMessage noxtls env a b max) (waitForMessage noxtls env a b max) :=
  abreast_byInbox fun depth => even_waitNested depth known ident a b max

theorem even_performCurve25519Kex (ident : known.ident) :
    Even known (performCurve25519Kex noxtls env) (performCurve25519Kex noxtls env) :=
  even_performWith ident fun _ ident => even_waitForMessage ident

theorem even_handleServerKexinit (ident : known.ident) (rx : List UInt8) (m : Mem) :
    Even known (handleServerKexinit noxtls env rx m) (handleServerKexinit noxtls env rx m) :=
  even_handleWith (even_performCurve25519Kex ident) rx m

theorem even_exchangeKexinit (ident : known.ident) :
    Even known (exchangeKexinit noxtls env) (exchangeKexinit noxtls env) := by
  have unclient : ∀ {s t}, Kin { known with kexinitClient := True } s t → Kin known s t :=
    fun kin => { kin with kexinitClient := fun _ => kin.kexinitClient (.inl trivial) }
  have further : ∀ {α : Type} {m : Prog Client α}, Even { known with kexinitClient := True } m m →
      Abreast (Miscounts known.counts) Prod.fst (Kin { known with kexinitClient := True }) m m
        (fun _ => Kin { known with kexinitClient := True }) (Kin known) :=
    fun even => even_within even rfl unclient
  apply abreast_self_bind (kin_refl known)
  intro s t kin
  apply abreast_ensure_bind _ (by rw [kin.connected]) fun _ _ => id
  apply abreast_bind (even_buildKexinit.failAs _)
  intro tx
  apply abreast_ensure_bind _ Iff.rfl fun _ _ => id
  apply abreast_bind (abreast_modify (f := setKexinitClient tx) (R := Kin { known with kexinitClient := True })
    fun s t kin => { kin with kexinitClient := fun _ => rfl })
  intro _
  apply abreast_bind ((further (even_sendPacket tx)).failAs _)
  intro _
  apply abreast_bind ((further (even_recvInto maxPacketLen)).failAs _)
  rintro ⟨rx, m⟩
  apply abreast_ensure_bind _ Iff.rfl fun _ _ => unclient
  apply abreast_ensure_bind _ Iff.rfl fun _ _ => unclient
  apply abreast_bind (abreast_modify (f := setKexinitServer rx) (R := Kin known.proposed)
    fun s t kin => { kin with kexinitServer := fun _ => rfl })
  intro _
  apply abreast_ensure_bind _ Iff.rfl fun _ _ => Kin.unproposed
  apply abreast_bind (abreast_modify (f := setKexinitExchanged) (R := Kin known) fun s t kin => kin.exchanged)
  exact fun _ => even_performCurve25519Kex ident

end Exchanges

/-! ## Calls -/

section Calls

variable {known : Common} {noxtls : Noxtls} {env : Env} {s t : Client} {α : Type}

theorem even_recvLine (outLen : Nat) : Even known (recvLine env outLen) (recvLine env outLen) :=
  abreast_of_twins (twins_recvLineWith (fun _ => shown_event _) (twins_pure none) outLen)
    (always_recvLine (fun _ => trivial) outLen)

theorem even_readIdent (ident : known.ident) :
    ∀ lines, Even known (readIdent noxtls env lines) (readIdent noxtls env lines) := by
  have stores : ∀ line, Abreast (Miscounts known.counts) Prod.fst (Kin known) (modify (setServerIdent line))
      (modify (setServerIdent line)) (fun _ => Kin known) (Kin known) :=
    fun line => abreast_modify fun s t kin => { kin with serverIdent := rfl }
  intro lines
  induction lines with
  | zero => exact even_fail _
  | succ lines ih =>
      rw [readIdent]
      apply abreast_bind (abreast_attempt (even_recvLine 256))
      intro line
      cases line with
      | none =>
          apply abreast_bind (abreast_ask _)
          intro left
          exact abreast_bind (stores _) fun _ => even_fail _
      | some line =>
          apply abreast_bind (stores line)
          intro _
          apply abreast_ite Iff.rfl _ ih
          apply abreast_bind (abreast_modify (f := setConnected) (R := Kin known) fun s t kin => { kin with connected := rfl })
          exact fun _ => even_exchangeKexinit ident

theorem even_connect (ident : known.ident) : Even known (connect noxtls env) (connect noxtls env) := by
  apply abreast_self_bind (kin_refl known)
  intro s t kin
  rw [kin.clientIdent ident]
  apply abreast_ensure_bind _ Iff.rfl fun _ _ => id
  apply abreast_bind
  · exact (abreast_of_twins (twins_sendAll _) (always_sendAll background_all.toPlumbing _)).failAs _
  · exact fun _ => even_readIdent ident _

theorem even_built (built : Option (List UInt8)) :
    Even known (lift .failed built >>= fun payload => sendPacket noxtls env payload)
      (lift .failed built >>= fun payload => sendPacket noxtls env payload) :=
  abreast_lift_bind _ (fun _ _ => id) fun payload _ => even_sendPacket payload

theorem even_negotiateService (ident : known.ident) (service : String) {ready : Client → Client}
    (readies : ∀ s t, Kin known s t → Kin known (ready s) (ready t)) :
    Even known (negotiateService noxtls env service ready) (negotiateService noxtls env service ready) := by
  apply abreast_bind ((even_built _).failAs _)
  intro _
  apply abreast_bind ((even_waitForMessage ident 6 255 256).failAs _)
  rintro ⟨rx, m⟩
  apply abreast_ensure_bind _ Iff.rfl fun _ _ => id
  apply abreast_lift_bind _ fun _ _ => id
  rintro ⟨svc, off⟩ _
  apply abreast_ensure_bind _ Iff.rfl fun _ _ => id
  exact abreast_modify readies

theorem even_negotiateUserauthService (ident : known.ident) :
    Even known (negotiateUserauthService noxtls env) (negotiateUserauthService noxtls env) :=
  even_negotiateService ident _ fun _ _ kin => { kin with userauthServiceReady := rfl }

theorem even_negotiateConnectionService (ident : known.ident) :
    Even known (negotiateConnectionService noxtls env) (negotiateConnectionService noxtls env) :=
  even_negotiateService ident _ fun _ _ kin => { kin with connectionServiceReady := rfl }

theorem even_requireService {negotiate : Prog Client Unit} (ready : Bool) (negotiates : Even known negotiate negotiate) :
    Even known (requireService ready negotiate) (requireService ready negotiate) :=
  abreast_ite Iff.rfl (even_pure _) (negotiates.failAs _)

theorem even_sendUserauthPassword (target : known.target) (password : known.password) :
    Even known (sendUserauthPassword noxtls env) (sendUserauthPassword noxtls env) := by
  apply abreast_self_bind (kin_refl known)
  intro s t kin
  rw [kin.username target, kin.password password]
  exact even_built _

theorem even_sendUserauthPublickeyEd25519 (target : known.target) (session : known.session) :
    Even known (sendUserauthPublickeyEd25519 noxtls env) (sendUserauthPublickeyEd25519 noxtls env) := by
  apply abreast_self_bind (kin_refl known)
  intro s t kin
  obtain ⟨identifier, length, -⟩ := kin.session (.inl session)
  rw [kin.username target, kin.hasEd25519Key, kin.ed25519PrivateKey, kin.ed25519PublicKey, identifier, length]
  apply abreast_ensure_bind _ Iff.rfl fun _ _ => id
  apply abreast_lift_bind _ fun _ _ => id
  intro blob _
  apply abreast_lift_bind _ fun _ _ => id
  intro request _
  apply abreast_lift_bind _ fun _ _ => id
  intro message _
  apply abreast_lift_bind _ fun _ _ => id
  intro signature _
  apply abreast_lift_bind _ fun _ _ => id
  intro sigBlob _
  exact even_built _

theorem even_waitUserauthResult (ident : known.ident) :
    Even known (waitUserauthResult noxtls env) (waitUserauthResult noxtls env) := by
  apply abreast_bind ((even_waitForMessage ident 52 51 512).failAs _)
  rintro ⟨rx, m⟩
  apply abreast_ite Iff.rfl
  · apply abreast_bind (abreast_modify (f := setAuthenticated) (R := Kin known) fun s t kin => { kin with authenticated := rfl })
    exact fun _ => even_pure _
  · exact abreast_ite Iff.rfl (even_pure _) (even_fail _)

theorem even_tryPublickey (ident : known.ident) (target : known.target) (session : known.session) (hasKey : Bool) :
    Even known (tryPublickey noxtls env hasKey) (tryPublickey noxtls env hasKey) := by
  apply abreast_ite Iff.rfl _ (even_pure _)
  apply abreast_bind ((even_sendUserauthPublickeyEd25519 target session).failAs _)
  exact fun _ => (even_waitUserauthResult ident).failAs _

/-- The settings are of this connection. -/
structure Common.Settled (known : Common) : Prop where
  ident : known.ident
  target : known.target
  password : known.password

theorem even_authenticate (settled : known.Settled) : Even known (authenticate noxtls env) (authenticate noxtls env) := by
  apply abreast_self_exact_bind (kin_refl known)
  intro s t kin
  have exact : ∀ p q, p = s ∧ q = t → Kin known p q := by
    rintro p q ⟨rfl, rfl⟩
    exact kin
  rw [kin.connected, kin.kexinitExchanged, kin.keyExchangeComplete, kin.username settled.target,
    kin.password settled.password, kin.hasEd25519Key, kin.userauthServiceReady]
  apply abreast_ensured_bind _ Iff.rfl exact
  rintro ⟨-, -, complete⟩
  apply abreast_ensure_bind _ Iff.rfl exact
  have agreed : ∀ p q, p = s ∧ q = t → Kin known.agreed p q := by
    rintro p q ⟨rfl, rfl⟩
    exact { kin with session := fun _ => kin.session (.inr complete) }
  have further : ∀ {α : Type} {m : Prog Client α}, Even known.agreed m m →
      Abreast (Miscounts known.counts) Prod.fst (Kin known.agreed) m m (fun _ => Kin known.agreed) (Kin known) :=
    fun even => even_within even rfl Kin.unagreed
  apply Abreast.mono (P := Kin known.agreed) _ agreed (fun _ _ _ => id) fun _ _ => id
  apply abreast_bind (further (even_requireService _ (even_negotiateUserauthService settled.ident)))
  intro _
  apply abreast_bind (further (@even_tryPublickey known.agreed noxtls env settled.ident settled.target trivial _))
  intro accepted
  apply Abreast.mono (P := Kin known) _ (fun _ _ => Kin.unagreed) (fun _ _ _ => id) fun _ _ => id
  apply abreast_ite Iff.rfl (even_pure _)
  apply abreast_ite Iff.rfl
  · apply abreast_bind ((even_sendUserauthPassword settled.target settled.password).failAs _)
    intro _
    apply abreast_bind ((even_waitUserauthResult settled.ident).failAs _)
    intro accepted
    exact abreast_ite Iff.rfl (even_pure _) (even_fail _)
  · exact abreast_ite Iff.rfl (even_fail _) (even_fail _)

theorem even_sendChannelOpenSession :
    Even known (sendChannelOpenSession noxtls env) (sendChannelOpenSession noxtls env) := by
  apply abreast_self_bind (kin_refl known)
  intro s t kin
  have same : buildChannelOpen s = buildChannelOpen t := by
    simp only [buildChannelOpen, kin.localChannelId, kin.localWindowSize]
  rw [same]
  exact even_built _

theorem even_openSession (settled : known.Settled) : Even known (openSession noxtls env) (openSession noxtls env) := by
  apply abreast_self_bind (kin_refl known)
  intro s t kin
  rw [kin.connected, kin.kexinitExchanged, kin.keyExchangeComplete, kin.authenticated, kin.connectionServiceReady]
  apply abreast_ensure_bind _ Iff.rfl fun _ _ => id
  apply abreast_bind (abreast_modify (f := setLocalChannel) (R := Kin known)
    fun s t kin => { kin with localChannelId := rfl, localWindowSize := rfl })
  intro _
  apply abreast_bind (even_requireService _ (even_negotiateConnectionService settled.ident))
  intro _
  apply abreast_bind (even_sendChannelOpenSession.failAs _)
  intro _
  apply abreast_bind ((even_waitForMessage settled.ident 91 92 512).failAs _)
  rintro ⟨rx, m⟩
  apply abreast_ensure_bind _ Iff.rfl fun _ _ => id
  apply abreast_lift_bind _ fun _ _ => id
  rintro ⟨recipient, sender, window, maxPacket⟩ _
  apply abreast_self_bind (kin_refl known)
  intro s t kin
  apply abreast_ensure_bind _ (by rw [kin.localChannelId]) fun _ _ => id
  exact abreast_modify fun s t kin =>
    { kin with remoteChannelId := rfl, remoteWindowSize := rfl, remoteMaxPacketSize := rfl, channelOpen := rfl }

theorem Kin.ready (kin : Kin known s t) : Ready s ↔ Ready t := by
  unfold Ready
  rw [kin.connected, kin.kexinitExchanged, kin.keyExchangeComplete, kin.channelOpen]

theorem even_requestChannel (ident : known.ident) (built : Option (List UInt8)) :
    Even known (requestChannel noxtls env built) (requestChannel noxtls env built) := by
  apply abreast_lift_bind _ fun _ _ => id
  intro payload _
  apply abreast_bind ((even_sendPacket payload).failAs _)
  intro _
  apply abreast_bind ((even_waitForMessage ident 99 100 256).failAs _)
  rintro ⟨rx, m⟩
  exact abreast_ite Iff.rfl (even_pure _) (even_fail _)

theorem even_exec (ident : known.ident) (command : List UInt8) :
    Even known (exec noxtls env command) (exec noxtls env command) := by
  apply abreast_self_bind (kin_refl known)
  intro s t kin
  rw [kin.remoteChannelId]
  apply abreast_ensure_bind _ kin.ready fun _ _ => id
  apply abreast_ensure_bind _ Iff.rfl fun _ _ => id
  exact even_requestChannel ident _

theorem even_requestPty (ident : known.ident) (wanted : Bool) (remoteId : Nat) :
    Even known (requestPty noxtls env wanted remoteId) (requestPty noxtls env wanted remoteId) :=
  abreast_ite Iff.rfl (even_requestChannel ident _) (even_pure _)

theorem even_requestShellEx (ident : known.ident) (wantPty : Bool) :
    Even known (requestShellEx noxtls env wantPty) (requestShellEx noxtls env wantPty) := by
  apply abreast_self_bind (kin_refl known)
  intro s t kin
  rw [kin.remoteChannelId]
  apply abreast_ensure_bind _ kin.ready fun _ _ => id
  apply abreast_bind (even_requestPty ident _ _)
  intro _
  apply abreast_self_bind (kin_refl known)
  intro s t kin
  rw [kin.remoteChannelId]
  exact even_requestChannel ident _

theorem even_sendData (data : List UInt8) : Even known (sendData noxtls env data) (sendData noxtls env data) := by
  apply abreast_ensure_bind _ Iff.rfl fun _ _ => id
  apply abreast_self_bind (kin_refl known)
  intro s t kin
  rw [kin.connected, kin.channelOpen, kin.remoteChannelId, kin.remoteMaxPacketSize]
  apply abreast_ensure_bind _ Iff.rfl fun _ _ => id
  exact even_built _

theorem even_sendKeepalive : Even known (sendKeepalive noxtls env) (sendKeepalive noxtls env) := by
  apply abreast_self_bind (kin_refl known)
  intro s t kin
  rw [kin.connected, kin.keyExchangeComplete]
  apply abreast_ensure_bind _ Iff.rfl fun _ _ => id
  exact even_built _

theorem even_rekey (ident : known.ident) : Even known (rekey noxtls env) (rekey noxtls env) := by
  apply abreast_self_bind (kin_refl known)
  intro s t kin
  rw [kin.connected, kin.keyExchangeComplete]
  apply abreast_ensure_bind _ Iff.rfl fun _ _ => id
  exact even_exchangeKexinit ident

theorem even_readRecipient (rx : List UInt8) (m : Mem) : Even known (readRecipient rx m) (readRecipient rx m) := by
  apply abreast_lift_bind _ fun _ _ => id
  rintro ⟨recipient, off⟩ _
  apply abreast_self_bind (kin_refl known)
  intro s t kin
  apply abreast_ensure_bind _ (by rw [kin.localChannelId]) fun _ _ => id
  exact even_pure _

theorem even_takeData (capacity : Nat) (rx : List UInt8) (m : Mem) (off : Nat) :
    Even known (takeData capacity rx m off) (takeData capacity rx m off) := by
  apply abreast_lift_bind _ fun _ _ => id
  exact fun _ _ => even_pure _

theorem even_takeChannelRequest (rx : List UInt8) (m : Mem) :
    Even known (takeChannelRequest rx m) (takeChannelRequest rx m) := by
  apply abreast_bind (even_readRecipient rx m)
  intro off
  apply abreast_lift_bind _ fun _ _ => id
  rintro ⟨req, off'⟩ _
  apply abreast_ensure_bind _ Iff.rfl fun _ _ => id
  apply abreast_ite Iff.rfl _ (even_pure _)
  apply abreast_lift_bind _ fun _ _ => id
  rintro ⟨status, off''⟩ _
  exact abreast_modify fun s t kin => { kin with remoteExitStatus := rfl, remoteExitStatusValid := rfl }

theorem even_takePacket (ident : known.ident) (capacity : Nat) (number : UInt8) (rx : List UInt8) (m : Mem) :
    Even known (takePacket noxtls env capacity number rx m) (takePacket noxtls env capacity number rx m) := by
  apply abreast_ite Iff.rfl
  · exact abreast_bind ((even_handleServerKexinit ident rx m).failAs _) fun _ => even_pure _
  apply abreast_ite Iff.rfl
  · apply abreast_bind (even_readRecipient rx m)
    exact fun off => abreast_bind (even_takeData capacity rx m off) fun _ => even_pure _
  apply abreast_ite Iff.rfl
  · apply abreast_bind (even_readRecipient rx m)
    intro off
    apply abreast_lift_bind _ fun _ _ => id
    rintro ⟨kind, off'⟩ _
    exact abreast_bind (even_takeData capacity rx m off') fun _ => even_pure _
  apply abreast_ite Iff.rfl
  · exact abreast_bind (even_takeChannelRequest rx m) fun _ => even_pure _
  apply abreast_ite Iff.rfl (even_pure _)
  apply abreast_ite Iff.rfl _ (even_pure _)
  apply abreast_bind (abreast_modify (f := closeChannel) (R := Kin known) fun s t kin => { kin with channelOpen := rfl })
  exact fun _ => even_pure _

theorem even_recvDataLoop (ident : known.ident) (capacity : Nat) :
    ∀ turns, Even known (recvDataLoop noxtls env capacity turns) (recvDataLoop noxtls env capacity turns) := by
  intro turns
  induction turns with
  | zero => exact abreast_stall fun _ _ => id
  | succ turns ih =>
      rw [recvDataLoop]
      apply abreast_bind ((even_recvInto maxPacketLen).failAs _)
      rintro ⟨rx, m⟩
      dsimp only
      cases rx.head? with
      | none => exact ih
      | some number =>
          apply abreast_bind (even_takePacket ident capacity number rx m)
          intro taken
          cases taken with
          | none => exact ih
          | some data => exact even_pure _

theorem even_recvData (ident : known.ident) (capacity : Nat) :
    Even known (recvData noxtls env capacity) (recvData noxtls env capacity) := by
  apply abreast_ensure_bind _ Iff.rfl fun _ _ => id
  apply abreast_self_bind (kin_refl known)
  intro s t kin
  rw [kin.connected, kin.channelOpen]
  apply abreast_ensure_bind _ Iff.rfl fun _ _ => id
  exact abreast_byInbox (even_recvDataLoop ident capacity)

end Calls

/-! ## Programs, with what they give back -/

/-- Run `m` and go on with its value or its code. -/
def reply {α : Type} (m : Prog Client α) : Prog Client (Except NetnoxReturn α) := ⟨fun h =>
  match m.run h with
  | (.ok a, h') => (.ok (.ok a), h')
  | (.err e, h') => (.ok (.error e), h')
  | (.stuck, h') => (.stuck, h')⟩

/-- What the getters of server identification, fingerprint and exit status give. -/
structure Look where
  serverIdent : Option (List UInt8)
  fingerprint : Option (List UInt8)
  remoteExitStatus : Option Nat
  deriving DecidableEq

def look (c : Client) : Look where
  serverIdent := if c.serverIdent = [] then none else some c.serverIdent
  fingerprint := if c.serverHostKeyReady then some c.serverHostKeyFingerprint else none
  remoteExitStatus := if c.remoteExitStatusValid then some c.remoteExitStatus else none

/-- What a program sets before it connects. -/
structure Settings where
  ident : List UInt8
  username : List UInt8
  host : List UInt8
  password : List UInt8
  ed25519PrivateKey : Option (List UInt8)

section Programs

variable (noxtls : Noxtls) (env : Env)

/-- A call with the data it gives back. -/
def Call.answer : Call → Prog Client (List UInt8)
  | recvData capacity => Client.recvData noxtls env capacity
  | call => do
      call.run noxtls env
      pure []

/-- The calls one after the other: what each gives back, and the getters after it. -/
def answers : List Call → Prog Client (List (Except NetnoxReturn (List UInt8) × Look))
  | [] => pure []
  | call :: calls => do
      let answer ← reply (call.answer noxtls env)
      let c ← self
      let rest ← answers calls
      pure ((answer, look c) :: rest)

/-- All settings again; the first that is not accepted ends the program. -/
def Settings.set (settings : Settings) : Prog Client Unit := do
  adopt (setIdentification settings.ident)
  setTarget settings.username settings.host
  setPassword settings.password
  match settings.ed25519PrivateKey with
  | none => pure ()
  | some privateKey => setEd25519PrivateKey noxtls privateKey

/-- A program that sets the settings, connects and makes these calls. -/
def program (settings : Settings) (calls : List Call) : Prog Client (List (Except NetnoxReturn (List UInt8) × Look)) := do
  settings.set noxtls
  answers noxtls env (.connect :: calls)

end Programs

section Answers

variable {known : Common} {noxtls : Noxtls} {env : Env} {s t : Client} {α : Type} {m m' : Prog Client α}

theorem reply_run (m : Prog Client α) (h : Host Client) :
    (reply m).run h = match m.run h with
      | (.ok a, h') => (.ok (.ok a), h')
      | (.err e, h') => (.ok (.error e), h')
      | (.stuck, h') => (.stuck, h') := rfl

theorem even_reply (even : Even known m m') : Even known (reply m) (reply m') where
  twins := by
    constructor
    intro h h' twinned
    have run := even.twins.runs h h' twinned
    rw [reply_run, reply_run]
    revert run
    rcases m.run h with ⟨o, s'⟩
    rcases m'.run h' with ⟨o', t'⟩
    rintro (met | alike)
    · left
      cases o' <;> exact met
    · right
      revert alike
      cases o <;> cases o' <;> try exact False.elim
      · exact fun alike => ⟨congrArg Except.ok alike.1, alike.2⟩
      · exact fun alike => ⟨congrArg Except.error alike.1, alike.2⟩
      · exact id
  grows := by
    intro h
    have grown := even.grows h
    rw [reply_run]
    revert grown
    rcases m'.run h with ⟨o, h'⟩
    cases o <;> exact id

theorem Kin.closed (kin : Kin known s t) : Kin known (Client.closed s) (Client.closed t) where
  clientIdent := kin.clientIdent
  serverIdent := rfl
  username := kin.username
  password := kin.password
  ed25519PrivateKey := rfl
  ed25519PublicKey := rfl
  hasEd25519Key := rfl
  connected := rfl
  kexinitExchanged := rfl
  userauthServiceReady := rfl
  connectionServiceReady := rfl
  authenticated := rfl
  channelOpen := rfl
  keyExchangeComplete := rfl
  localChannelId := rfl
  remoteChannelId := rfl
  localWindowSize := rfl
  remoteWindowSize := rfl
  remoteMaxPacketSize := rfl
  kexinitClient same := kin.kexinitClient (.inl (same.resolve_right Bool.false_ne_true))
  kexinitServer same := kin.kexinitServer (.inl (same.resolve_right Bool.false_ne_true))
  serverHostKeyReady := rfl
  fingerprint ready := absurd ready Bool.false_ne_true
  session same := kin.session (.inl (same.resolve_right Bool.false_ne_true))
  keys same := kin.keys (.inl (same.resolve_right Bool.false_ne_true))
  counts := kin.counts
  remoteExitStatusValid := rfl
  remoteExitStatus := rfl

theorem abreast_setIdentification (ident : List UInt8) :
    Abreast (Miscounts known.counts) Prod.fst (Kin known) (adopt (setIdentification ident)) (adopt (setIdentification ident))
      (fun _ => Kin { known with ident := True }) (Kin known) := by
  apply abreast_self_bind (kin_refl known)
  intro s t kin
  unfold setIdentification
  cases copyString 256 ident with
  | error e => exact abreast_fail e fun _ _ => id
  | ok ident => exact abreast_replace fun _ _ _ => { kin with clientIdent := fun _ => rfl }

theorem abreast_setTarget (username host : List UInt8) :
    Abreast (Miscounts known.counts) Prod.fst (Kin known) (setTarget username host) (setTarget username host)
      (fun _ => Kin { known with target := True }) (Kin known) := by
  unfold setTarget
  cases copyString 65 username with
  | error e => exact abreast_fail e fun _ _ => id
  | ok username =>
      apply abreast_bind (abreast_modify (f := setUsername username) (R := Kin { known with target := True })
        fun s t kin => { kin with username := fun _ => rfl })
      intro _
      cases copyString 256 host with
      | error e => exact abreast_fail e fun s t kin => { kin with username := fun _ => kin.username trivial }
      | ok host => exact abreast_modify fun s t kin => { kin with }

theorem abreast_setPassword (password : List UInt8) :
    Abreast (Miscounts known.counts) Prod.fst (Kin known) (setPassword password) (setPassword password)
      (fun _ => Kin { known with password := True }) (Kin known) := by
  unfold setPassword
  cases copyString 129 password with
  | error e => exact abreast_fail e fun _ _ => id
  | ok password => exact abreast_modify fun s t kin => { kin with password := fun _ => rfl }

theorem even_setEd25519PrivateKey (privateKey : List UInt8) :
    Even known (setEd25519PrivateKey noxtls privateKey) (setEd25519PrivateKey noxtls privateKey) := by
  unfold setEd25519PrivateKey
  apply abreast_bind (abreast_modify (f := setPrivateKey privateKey) (R := Kin known)
    fun s t kin => { kin with ed25519PrivateKey := rfl })
  intro _
  cases noxtls.ed25519PublicKey privateKey with
  | none =>
      apply abreast_bind (abreast_modify (f := setNoKey) (R := Kin known) fun s t kin => { kin with hasEd25519Key := rfl })
      exact fun _ => even_fail _
  | some publicKey =>
      exact abreast_modify fun s t kin => { kin with ed25519PublicKey := rfl, hasEd25519Key := rfl }

/-- Whatever was known is known after a call. -/
theorem even_answer (settled : known.Settled) (call : Call) :
    Even known (call.answer noxtls env) (call.answer noxtls env) := by
  have then_nothing : ∀ {m : Prog Client Unit}, Even known m m →
      Even known (m >>= fun _ => pure ([] : List UInt8)) (m >>= fun _ => pure ([] : List UInt8)) :=
    fun even => abreast_bind even fun _ => even_pure _
  cases call with
  | setIdentification ident =>
      exact then_nothing ((abreast_setIdentification ident).mono (fun _ _ => id)
        (fun _ s t kin => { kin with clientIdent := fun _ => kin.clientIdent trivial }) fun _ _ => id)
  | setTarget username host =>
      exact then_nothing ((abreast_setTarget username host).mono (fun _ _ => id)
        (fun _ s t kin => { kin with username := fun _ => kin.username trivial }) fun _ _ => id)
  | setPassword password =>
      exact then_nothing ((abreast_setPassword password).mono (fun _ _ => id)
        (fun _ s t kin => { kin with password := fun _ => kin.password trivial }) fun _ _ => id)
  | setEd25519PrivateKey privateKey => exact then_nothing (even_setEd25519PrivateKey privateKey)
  | connect => exact then_nothing (even_connect settled.ident)
  | authenticate => exact then_nothing (even_authenticate settled)
  | openSession => exact then_nothing (even_openSession settled)
  | exec command => exact then_nothing (even_exec settled.ident command)
  | requestShellEx wantPty => exact then_nothing (even_requestShellEx settled.ident wantPty)
  | sendData data => exact then_nothing (even_sendData data)
  | sendKeepalive => exact then_nothing even_sendKeepalive
  | rekey => exact then_nothing (even_rekey settled.ident)
  | recvData capacity => exact even_recvData settled.ident capacity
  | close => exact then_nothing (abreast_modify fun s t kin => kin.closed)

theorem Kin.look (kin : Kin known s t) : Client.look s = Client.look t := by
  unfold Client.look
  rw [kin.serverIdent, kin.serverHostKeyReady, kin.remoteExitStatusValid, kin.remoteExitStatus]
  by_cases ready : t.serverHostKeyReady = true
  · rw [kin.fingerprint ready]
  · simp [ready]

theorem even_answers (settled : known.Settled) :
    ∀ calls, Even known (answers noxtls env calls) (answers noxtls env calls) := by
  intro calls
  induction calls with
  | nil => exact even_pure _
  | cons call calls ih =>
      apply abreast_bind (even_reply (even_answer settled call))
      intro answer
      apply abreast_self_bind (kin_refl known)
      intro s t kin
      rw [kin.look]
      exact abreast_bind ih fun rest => even_pure _

/-- What is known of two contexts with no setting in common. -/
def unset (counts : Prop) : Common where
  ident := False
  target := False
  password := False
  kexinitClient := False
  kexinitServer := False
  session := False
  keys := False
  counts := counts

/-- What is known of them once all settings were made. -/
def settled (counts : Prop) : Common := { unset counts with ident := True, target := True, password := True }

/-- Of runs that broke off nothing is to be known. -/
abbrev Anything (_ _ : Client) : Prop := True

theorem abreast_set (settings : Settings) (counts : Prop) :
    Abreast (Miscounts counts) Prod.fst (Kin (unset counts)) (settings.set noxtls) (settings.set noxtls)
      (fun _ => Kin (settled counts)) Anything := by
  have ident : Abreast (Miscounts counts) Prod.fst (Kin (unset counts)) (adopt (setIdentification settings.ident))
      (adopt (setIdentification settings.ident)) (fun _ => Kin { unset counts with ident := True }) Anything :=
    (@abreast_setIdentification (unset counts) settings.ident).mono (fun _ _ => id) (fun _ _ _ => id) fun _ _ _ => trivial
  have target : Abreast (Miscounts counts) Prod.fst (Kin { unset counts with ident := True })
      (setTarget settings.username settings.host) (setTarget settings.username settings.host)
      (fun _ => Kin { unset counts with ident := True, target := True }) Anything :=
    (@abreast_setTarget { unset counts with ident := True } settings.username settings.host).mono (fun _ _ => id) (fun _ _ _ => id) fun _ _ _ => trivial
  have password : Abreast (Miscounts counts) Prod.fst (Kin { unset counts with ident := True, target := True })
      (setPassword settings.password) (setPassword settings.password) (fun _ => Kin (settled counts)) Anything :=
    (@abreast_setPassword { unset counts with ident := True, target := True } settings.password).mono (fun _ _ => id) (fun _ _ _ => id) fun _ _ _ => trivial
  apply abreast_bind ident
  intro _
  apply abreast_bind target
  intro _
  apply abreast_bind password
  intro _
  cases settings.ed25519PrivateKey with
  | none => exact abreast_pure _ fun _ _ => id
  | some privateKey =>
      have key : Even (settled counts) (setEd25519PrivateKey noxtls privateKey) (setEd25519PrivateKey noxtls privateKey) :=
        even_setEd25519PrivateKey privateKey
      exact key.mono (fun _ _ => id) (fun _ _ _ => id) fun _ _ _ => trivial

/-- The settings make up for what the contexts had not in common. -/
theorem abreast_program (settings : Settings) (calls : List Call) (counts : Prop) :
    Abreast (Miscounts counts) Prod.fst (Kin (unset counts)) (program noxtls env settings calls)
      (program noxtls env settings calls) (fun _ => Anything) Anything := by
  have answers : Even (settled counts) (answers noxtls env (.connect :: calls)) (answers noxtls env (.connect :: calls)) :=
    even_answers ⟨trivial, trivial, trivial⟩ _
  apply abreast_bind (abreast_set settings counts)
  exact fun _ => answers.mono (fun _ _ => id) (fun _ _ _ _ => trivial) fun _ _ _ => trivial

/-- A closed context and a fresh one differ in what is written before it is read, and
perhaps in the sequence numbers. -/
theorem kin_closed (c : Client) (port : Nat) : Kin (unset ((closed c).sendSeq = 0 ∧ (closed c).recvSeq = 0)) (closed c) (init port) := by
  constructor <;> intros <;> first
    | rfl
    | exact absurd ‹_› id
    | exact absurd (‹False ∨ _›.resolve_left id) Bool.false_ne_true
    | exact absurd ‹_› Bool.false_ne_true
    | assumption

end Answers

/-! ## Contexts that are used again -/

/-- The event is a packet under new keys while the context goes on counting packets of an
earlier connection. -/
def touches (used : Client) (e : Event × Client) : Bool :=
  (used.sendSeq ≠ 0 || used.recvSeq ≠ 0) && e.2.keyExchangeComplete &&
    match e.1 with
    | .sending _ => true
    | .receiving _ => true
    | _ => false

theorem touches_of_miscounts {used : Client} {e : Event × Client}
    (miscounts : Miscounts (used.sendSeq = 0 ∧ used.recvSeq = 0) e) : touches used e = true := by
  obtain ⟨event, c⟩ := e
  obtain ⟨counts, complete, about⟩ := miscounts
  have apart : (used.sendSeq ≠ 0 || used.recvSeq ≠ 0) = true := by
    by_contra same
    simp only [ne_eq, Bool.or_eq_true, decide_eq_true_eq, not_or, not_not] at same
    exact counts same
  rcases about with ⟨p, rfl⟩ | ⟨looked, rfl⟩ <;> simpa only [touches, apart, Bool.true_and, Bool.and_true] using complete

/-- What a program shows: what its calls give back, and what goes out and comes in. -/
def shows (noxtls : Noxtls) (env : Env) (c : Client) (settings : Settings) (inbox : List UInt8) (calls : List Call) :
    Outcome NetnoxReturn (List (Except NetnoxReturn (List UInt8) × Look)) × List Event :=
  (((program noxtls env settings calls).run ⟨c, 0, inbox, []⟩).1,
    ((program noxtls env settings calls).run ⟨c, 0, inbox, []⟩).2.trace.map Prod.fst)

/-- The context after some calls on a fresh one, closed. -/
def used (noxtls : Noxtls) (env : Env) (port : Nat) (inbox : List UInt8) (calls : List Call) : Client :=
  closed ((Calls.run noxtls env calls).run ⟨init port, 0, inbox, []⟩).2.self

/-- **A closed client can be used again, until it has keys.**  Whatever the calls before
were, a program that sets everything again and connects does and shows what it would with
a fresh context, if that one handles no packet under the new keys or no packet was ever
counted. -/
theorem reuse_same (noxtls : Noxtls) (env env' : Env) (port : Nat) (inbox inbox' : List UInt8) (before calls : List Call)
    (settings : Settings)
    (untouched : ∀ e ∈ ((program noxtls env' settings calls).run ⟨init port, 0, inbox', []⟩).2.trace,
      touches (used noxtls env port inbox before) e = false) :
    shows noxtls env' (used noxtls env port inbox before) settings inbox' calls =
      shows noxtls env' (init port) settings inbox' calls := by
  have run := (@abreast_program noxtls env' settings calls _).twins.runs
    ⟨used noxtls env port inbox before, 0, inbox', []⟩ ⟨init port, 0, inbox', []⟩ ⟨kin_closed _ port, rfl, rfl, rfl⟩
  rcases run with ⟨e, member, miscounts⟩ | alike
  · have quiet := untouched e member
    rw [used, touches_of_miscounts miscounts] at quiet
    cases quiet
  · unfold shows
    revert alike
    rcases (program noxtls env' settings calls).run ⟨used noxtls env port inbox before, 0, inbox', []⟩ with ⟨o, h⟩
    rcases (program noxtls env' settings calls).run ⟨init port, 0, inbox', []⟩ with ⟨o', h'⟩
    cases o <;> cases o' <;> try exact False.elim
    · rintro ⟨rfl, twinned⟩
      exact Prod.ext rfl twinned.trace
    · rintro ⟨rfl, twinned⟩
      exact Prod.ext rfl twinned.trace
    · exact fun twinned => Prod.ext rfl twinned.trace

namespace Probe

def settings : Settings := ⟨ascii "SSH-2.0-noxssh_0.1", ascii "user", ascii "host", ascii "password", none⟩

/-- A server whose key exchange goes through. -/
def complete : List UInt8 := greeting [kexinit, reply (zeros 32), [21]]

theorem complete_eq : complete = greeting [kexinit, replyFor (zeros 32) 3, [21]] := by rw [complete, reply_zeros]

/-- One whose reply cannot be read. -/
def broken : List UInt8 := greeting [kexinit, [31]]

end Probe

/-- A connection that took part in a key exchange leaves both numbers at three; a second
one that gets no keys does what it would without it. -/
theorem reuse_same_unkeyed :
    shows Probe.noxtls Probe.brisk (used Probe.noxtls Probe.brisk 22 Probe.complete [.connect]) Probe.settings
        Probe.broken [.authenticate] =
      shows Probe.noxtls Probe.brisk (init 22) Probe.settings Probe.broken [.authenticate] := by
  have unkeyed : ∀ e ∈ ((program Probe.noxtls Probe.brisk Probe.settings [.authenticate]).run
      ⟨init 22, 0, Probe.broken, []⟩).2.trace, e.2.keyExchangeComplete = false := by decide +kernel
  exact reuse_same Probe.noxtls Probe.brisk Probe.brisk 22 Probe.complete Probe.broken [.connect] [.authenticate]
    Probe.settings fun e member => by simp [touches, unkeyed e member]

/-- The second connection asks for the login service under the sequence number of the
seventh packet, not of the fourth. -/
theorem reuse_counts_on :
    ¬ ∀ (noxtls : Noxtls) (env env' : Env) (port : Nat) (inbox inbox' : List UInt8) (before calls : List Call)
      (settings : Settings),
      (shows noxtls env' (used noxtls env port inbox before) settings inbox' calls).1 =
          (shows noxtls env' (init port) settings inbox' calls).1 ∧
        (shows noxtls env' (used noxtls env port inbox before) settings inbox' calls).2.flatMap Event.wireBytes =
          (shows noxtls env' (init port) settings inbox' calls).2.flatMap Event.wireBytes := by
  intro same
  have apart : (shows Probe.noxtls Probe.brisk (used Probe.noxtls Probe.brisk 22 Probe.complete [.connect]) Probe.settings
        Probe.complete [.authenticate]).2.flatMap Event.wireBytes ≠
      (shows Probe.noxtls Probe.brisk (init 22) Probe.settings Probe.complete [.authenticate]).2.flatMap
        Event.wireBytes := by
    rw [Probe.complete_eq]
    decide +kernel
  exact apart (same Probe.noxtls Probe.brisk Probe.brisk 22 Probe.complete Probe.complete [.connect] [.authenticate]
    Probe.settings).2

end NoxSsh.Client
