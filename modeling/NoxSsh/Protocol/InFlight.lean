/-
# Protocol.InFlight — a rekey while the server is talking

The client begins a rekey with its KEXINIT.  What the server had sent by then is still on
the way, in front of the server's KEXINIT.  `netnox_ssh_exchange_kexinit` receives one
packet and wants it to be KEXINIT.

`rekey_in_flight_iff` — with any list of channel packets in flight, and behind it an
exchange the client accepts, the rekey succeeds and the data comes out of later calls just
if the list is empty.
-/
import NoxSsh.Client.Conduct
import NoxSsh.Protocol.Dialogue
import NoxSsh.Protocol.Login
import NoxSsh.Protocol.Negotiation

namespace NoxSsh.Protocol

open Theory Proc Wire Transport

set_option autoImplicit false

/-! ## Packets in flight -/

/-- WINDOW_ADJUST, DATA, EXTENDED_DATA or REQUEST of a channel. -/
def ChannelPacket (payload : List UInt8) : Prop := ∃ number ∈ [(93 : UInt8), 94, 95, 98], payload.head? = some number

/-- The data of a channel packet. -/
def dataOf (payload : List UInt8) : List UInt8 :=
  if payload.head? = some 94 then (payload.drop 9).take (beNat ((payload.drop 5).take 4))
  else if payload.head? = some 95 then (payload.drop 13).take (beNat ((payload.drop 9).take 4))
  else []

section Rekey

variable (noxtls : Noxtls) (env : Env)

/-- What one `netnox_ssh_client_recv_data` after the other returns. -/
def recvAll : List Nat → Prog Client (List UInt8)
  | [] => pure []
  | capacity :: capacities => do
      let data ← Client.recvData noxtls env capacity
      let more ← recvAll capacities
      pure (data ++ more)

/-- The rekey succeeds, and some calls after it return the data that was in flight. -/
def Tolerates (inFlight : List (List UInt8)) (h : Host Client) : Prop :=
  ∃ h₁ capacities h₂, (Client.rekey noxtls env).run h = (.ok (), h₁) ∧
    (recvAll noxtls env capacities).run h₁ = (.ok (inFlight.flatMap dataOf), h₂)

/-! ## A valid exchange -/

/-- `netnox_ssh_exchange_kexinit` up to the packet that should be the server's KEXINIT. -/
def propose : Prog Client Client.Arrival := do
  ensure ((← self).connected = true) .badParam
  let tx ← failAs .failed (Client.buildKexinit env)
  ensure (tx.length ≤ maxKexinitPayloadLen) .failed
  modify (Client.setKexinitClient tx)
  failAs .failed (Client.sendPacket noxtls env tx)
  failAs .failed (Client.recvInto noxtls env maxPacketLen)

/-- What it makes of that packet. -/
def accept (arrival : Client.Arrival) : Prog Client Unit := do
  ensure (arrival.1.head? = some 20) .failed
  ensure (arrival.1.length ≤ maxKexinitPayloadLen) .failed
  modify (Client.setKexinitServer arrival.1)
  ensure ((validateServerKexinit arrival.2 arrival.1.length).isOk = true) .failed
  modify Client.setKexinitExchanged

def agree : Prog Client Unit := propose noxtls env >>= accept

/-- A reply with a shared secret and a good signature over the exchange hash. -/
def Answers (c : Client) (priv pub : List UInt8) (m : Mem) (reply : Client.KexReply) : Prop :=
  ∃ secret hash, noxtls.x25519SharedSecret priv (reply.serverPub.bytes m) = some secret ∧
    computeExchangeHash noxtls c.clientIdent c.serverIdent c.kexinitClientPayload c.kexinitServerPayload
      (reply.hostKeyBlob.bytes m) pub (reply.serverPub.bytes m) secret = some hash ∧
    (verifyServerHostKeySignature noxtls m reply.hostKeyBlob reply.signature hash).isOk = true

/-- The server's KEXINIT is valid.  With nothing but the exchange on the way, and that is
as it is now if nothing is in flight, the reply is valid for the key pair the client draws
once the algorithms are agreed on. -/
structure ValidExchange (inFlight : List (List UInt8)) (kexinit reply : List UInt8) (h : Host Client) : Prop where
  kexinitNumber : kexinit.head? = some 20
  kexinitShort : kexinit.length ≤ maxKexinitPayloadLen
  kexinitValid : ∀ stale, (validateServerKexinit (memOf kexinit stale) kexinit.length).isOk = true
  replyNumber : reply.head? = some 31
  replyShort : reply.length ≤ 2048
  replyValid : ∃ alone rest, (inFlight = [] → alone = h.inbox) ∧
    OnTheWay noxtls (Client.recvSide.lane h.self) [kexinit, reply, [21]] rest alone ∧
    ∀ h₁ priv pub stale, (agree noxtls env).run { h with inbox := alone } = (.ok (), h₁) →
      noxtls.x25519GenerateKey h₁.tick = some (priv, pub) →
      ∃ read, Client.readKexReply (memOf reply stale) reply.length = some read ∧
        Answers noxtls h₁.self priv pub (memOf reply stale) read

end Rekey

/-! ## The rekey -/

section Runs

variable {noxtls : Noxtls} {env : Env} {last : Lane} {payloads : List (List UInt8)} {rest : List UInt8} {h : Host Client}

theorem exchangeKexinit_eq :
    Client.exchangeKexinit noxtls env = agree noxtls env >>= fun _ => Client.performCurve25519Kex noxtls env := by
  rw [agree, bind_assoc_run]
  unfold propose accept Client.exchangeKexinit
  -- Variables in their place keep the kernel from computing the name lists.
  obtain ⟨build, built⟩ : ∃ build, build = Client.buildKexinit env := ⟨_, rfl⟩
  obtain ⟨valid, validates⟩ : ∃ valid, valid = validateServerKexinit := ⟨_, rfl⟩
  obtain ⟨perform, performs⟩ : ∃ perform, perform = Client.performCurve25519Kex noxtls env := ⟨_, rfl⟩
  rw [← built, ← validates, ← performs]
  simp only [bind_assoc_run]

theorem returns_ran {α : Type} {late : Host Client → Prop} {m : Prog Client α} {Q : α → Host Client → Prop}
    (returns : Returns late m Q h) : Returns late m (fun a h' => Q a h' ∧ m.run h = (.ok a, h')) h := by
  revert returns
  unfold Returns
  rcases m.run h with ⟨o, h'⟩
  cases o with
  | ok a => exact fun post => ⟨post, rfl⟩
  | err e => exact id
  | stuck => exact id

/-- What returns nothing does not succeed. -/
theorem not_ok {α : Type} {late : Host Client → Prop} {m : Prog Client α} {a : α} {h' : Host Client}
    (returns : Returns late m (fun _ _ => False) h) : m.run h ≠ (.ok a, h') := by
  intro ran
  rw [Returns, ran] at returns
  exact returns

/-- Past a record and an update, what is left of the old state is named. -/
theorem returns_logged {α : Type} {late : Host Client → Prop} {e : Event} {k : Unit → Prog Client α}
    {Q : α → Host Client → Prop}
    (rest : ∀ h', h'.self = h.self → h'.inbox = h.inbox → h'.tick = h.tick → Returns late (k ()) Q h') :
    Returns late (log e >>= k) Q h := rest _ rfl rfl rfl

theorem returns_modified {α : Type} {late : Host Client → Prop} {f : Client → Client} {k : Unit → Prog Client α}
    {Q : α → Host Client → Prop} (rest : ∀ h', h'.self = f h.self → h'.inbox = h.inbox → Returns late (k ()) Q h') :
    Returns late (modify f >>= k) Q h := rest _ rfl rfl

theorem returns_leaving {event : Bool → Event} {m : Prog Client Unit} {Q : Unit → Host Client → Prop}
    (returns : Returns Client.Late m Q h) : Returns Client.Late (leaving event m) (fun _ _ => True) h := by
  revert returns
  unfold Returns
  rw [leaving, ending_run]
  rcases m.run h with ⟨o, h'⟩
  cases o with
  | ok a => exact fun _ => trivial
  | err e => exact id
  | stuck => exact id

theorem buildKexinit_live (h : Host Client) : ∃ tx : List UInt8, tx ≠ [] ∧ tx.length ≤ 1024 ∧
    (Client.buildKexinit env).run h = (.ok tx, { h with tick := h.tick + 1 }) := by
  have length : (slice (env.rand h.tick) 0 16).length = 16 := length_slice _ _ _
  have size : (kexinitPayload Client.algLists (slice (env.rand h.tick) 0 16)).length ≤ 1024 :=
    (Client.length_kexinit length).trans (by decide)
  refine ⟨kexinitPayload Client.algLists (slice (env.rand h.tick) 0 16), List.cons_ne_nil _ _, size, ?_⟩
  rw [Client.buildKexinit_run, buildKexinitPayload_some size, lift_some, pure_run]

/-- The client says its KEXINIT and hears the first packet on the way. -/
theorem propose_live (sha : noxtls.shaInit = true) (ctr : CtrMode noxtls) (live : Live env) {payload : List UInt8}
    (connected : h.self.connected = true) (fits : payload.length ≤ maxPacketLen)
    (awaiting : Client.Awaiting noxtls last (payload :: payloads) rest h) :
    Returns Client.Late (propose noxtls env) (fun got h' => (∃ stale, got = (payload, memOf payload stale)) ∧
      Client.Awaiting noxtls last payloads rest h') h := by
  obtain ⟨tx, some_, size, builds⟩ := @buildKexinit_live env h
  have small : tx.length ≤ maxKexinitPayloadLen := Nat.le_trans size (by decide)
  unfold propose
  generalize Client.buildKexinit env = build at builds ⊢
  apply returns_self_bind
  apply returns_ensure_bind connected
  apply returns_bind_of_run (failAs_ok builds)
  apply returns_ensure_bind small
  apply returns_modify_bind
  have awaiting₀ : Client.Awaiting noxtls last (payload :: payloads) rest
      { h with tick := h.tick + 1, self := Client.setKexinitClient tx h.self } := awaiting.keep rfl rfl rfl
  apply ((Client.says_live sha ctr live some_ (by omega) awaiting₀).failAs _).bind
  rintro _ h₁ ⟨-, awaiting₁, -⟩
  exact ((Client.hears_live ctr live fits awaiting₁).failAs _).mono fun _ _ ⟨is, _, awaiting₂, _⟩ => ⟨is, awaiting₂⟩

/-- A valid KEXINIT is accepted. -/
theorem accept_live {kexinit reply : List UInt8} {h₀ : Host Client}
    {inFlight : List (List UInt8)} (valid : ValidExchange noxtls env inFlight kexinit reply h₀)
    (stale : Mem) (awaiting : Client.Awaiting noxtls last payloads rest h) :
    Returns Client.Late (accept (kexinit, memOf kexinit stale)) (fun _ h' => h'.self.kexinitExchanged = true ∧
      Client.Awaiting noxtls last payloads rest h') h := by
  refine returns_ensure_bind valid.kexinitNumber _ (returns_ensure_bind valid.kexinitShort _ ?_)
  refine returns_modify_bind (returns_ensure_bind (valid.kexinitValid stale) _ ?_)
  exact returns_of_run (modify_run _ _) ⟨rfl, awaiting.keep rfl rfl rfl⟩

/-- So is a valid reply. -/
theorem takeReply_live (sha : noxtls.shaInit = true) {priv pub : List UInt8} {m : Mem} {reply : Client.KexReply}
    (answers : Answers noxtls h.self priv pub m reply) (awaiting : Client.Awaiting noxtls last payloads rest h) :
    Returns Client.Late (Client.takeReply noxtls priv pub m reply) (fun _ h' => h'.self.sharedSecretRaw.length = 32 ∧
      h'.self.sessionId.length = 32 ∧ h'.self.sessionIdLen = 32 ∧ Client.Awaiting noxtls last payloads rest h') h := by
  obtain ⟨secret, hash, agreed, hashed, verified⟩ := answers
  have fingerprint : noxtls.hash (reply.hostKeyBlob.bytes m) = some (noxtls.sha256 (reply.hostKeyBlob.bytes m)) :=
    if_pos sha
  unfold Client.takeReply
  apply returns_logged
  intro h₁ self₁ inbox₁ _
  apply returns_modified
  intro h₂ self₂ inbox₂
  apply returns_lift_bind fingerprint
  apply returns_modified
  intro h₃ self₃ inbox₃
  apply returns_lift_bind agreed
  apply returns_self_bind
  have hashed₃ : computeExchangeHash noxtls h₃.self.clientIdent h₃.self.serverIdent h₃.self.kexinitClientPayload
      h₃.self.kexinitServerPayload (reply.hostKeyBlob.bytes m) pub (reply.serverPub.bytes m) secret = some hash := by
    rw [self₃, self₂, self₁]
    exact hashed
  apply returns_lift_bind hashed₃
  apply returns_modified
  intro h₄ self₄ inbox₄
  apply returns_ensure_bind verified
  apply returns_logged
  intro h₅ self₅ inbox₅ _
  apply returns_modified
  intro h₆ self₆ inbox₆
  refine returns_of_run (pure_run _ _) ⟨?_, ?_, ?_, ?_⟩
  · rw [self₆]
    exact noxtls.length_x25519SharedSecret _ _ _ agreed
  · rw [self₆, self₅, self₄]
    exact length_exchangeHash hashed
  · rw [self₆]
    rfl
  · refine awaiting.keep (by rw [inbox₆, inbox₅, inbox₄, inbox₃, inbox₂, inbox₁]) ?_ ?_
    · simp [Client.sendSide, Client.setSecret, Client.setExchangeHash, Client.setFingerprint, Client.setHostKeyBlob,
        self₆, self₅, self₄, self₃, self₂, self₁]
    · simp [Client.recvSide, Client.setSecret, Client.setExchangeHash, Client.setFingerprint, Client.setHostKeyBlob,
        self₆, self₅, self₄, self₃, self₂, self₁]

/-- An exchange that is valid from here on is completed. -/
theorem performs_live (sha : noxtls.shaInit = true) (ctr : CtrMode noxtls) (live : Live env)
    (generates : ∀ t, noxtls.x25519GenerateKey t ≠ none) {reply : List UInt8} (number : reply.head? = some 31)
    (short : reply.length ≤ 2048) (exchanged : h.self.kexinitExchanged = true)
    (valid : ∀ priv pub stale, noxtls.x25519GenerateKey h.tick = some (priv, pub) →
      ∃ read, Client.readKexReply (memOf reply stale) reply.length = some read ∧
        Answers noxtls h.self priv pub (memOf reply stale) read)
    (awaiting : Client.Awaiting noxtls last [reply, [21]] rest h) :
    Returns Client.Late (Client.performCurve25519Kex noxtls env) (fun _ _ => True) h := by
  obtain ⟨⟨priv, pub⟩, drawn⟩ := Option.ne_none_iff_exists'.1 (generates h.tick)
  obtain ⟨-, pubLen⟩ := noxtls.length_x25519GenerateKey _ _ _ drawn
  have builds : (payloadAppendU8 128 30 [] >>= payloadAppendString 128 pub) = some ([30] ++ sshString pub) := by
    rw [payloadAppendU8_some (by decide), Option.bind_eq_bind, Option.bind_some, payloadAppendString_some (by simp [pubLen])]
    rfl
  apply returns_self_bind
  apply returns_ensure_bind exchanged
  apply returns_logged
  intro h₁ self₁ inbox₁ tick₁
  apply returns_leaving (Q := fun _ _ => True)
  rw [← tick₁] at drawn
  apply returns_bind_of_run (ask_run _ _)
  apply returns_lift_bind drawn
  apply returns_lift_bind builds
  have awaiting₁ : Client.Awaiting noxtls last [reply, [21]] rest
      { h₁ with tick := h₁.tick + 1 } := awaiting.keep inbox₁ (by rw [self₁]) (by rw [self₁])
  have some_ : [30] ++ sshString pub ≠ [] := List.cons_ne_nil _ _
  apply ((Client.says_live sha ctr live some_ (by simp [pubLen]) awaiting₁).failAs _).bind
  rintro _ h₂ ⟨-, awaiting₂, core₂⟩
  refine ((Client.waits_live ctr live number (.inl rfl) (by decide) short (by decide) awaiting₂).failAs _).bind ?_
  rintro _ h₃ ⟨⟨stale, rfl⟩, -, awaiting₃, core₃⟩
  obtain ⟨read, reads, answers⟩ := valid priv pub stale (tick₁ ▸ drawn)
  have core : Client.core h₃.self = Client.core h.self := by rw [core₃, core₂, self₁]
  have answers₃ : Answers noxtls h₃.self priv pub (memOf reply stale) read := by
    unfold Answers
    rw [@Client.eq_of_core _ (fun c => c.clientIdent) (fun _ => rfl) _ _ core]
    rw [@Client.eq_of_core _ (fun c => c.serverIdent) (fun _ => rfl) _ _ core]
    rw [@Client.eq_of_core _ (fun c => c.kexinitClientPayload) (fun _ => rfl) _ _ core]
    rw [@Client.eq_of_core _ (fun c => c.kexinitServerPayload) (fun _ => rfl) _ _ core]
    exact answers
  apply returns_ensure_bind number
  apply returns_lift_bind reads
  apply (takeReply_live sha answers₃ awaiting₃).bind
  rintro _ h₄ ⟨secretLen, hashLen, idLen, awaiting₄⟩
  apply ((Client.says_live sha ctr live (List.cons_ne_nil _ _) (by decide) awaiting₄).failAs _).bind
  rintro _ h₅ ⟨-, awaiting₅, core₅⟩
  apply ((Client.waits_live ctr live rfl (.inl rfl) (by decide) (by decide) (by decide) awaiting₅).failAs _).bind
  rintro _ h₆ ⟨⟨stale', rfl⟩, -, awaiting₆, core₆⟩
  have core' : Client.core h₆.self = Client.core h₄.self := core₆.trans core₅
  have secretLen' : h₆.self.sharedSecretRaw.length = 32 := by
    rw [@Client.eq_of_core _ (fun c => c.sharedSecretRaw) (fun _ => rfl) _ _ core', secretLen]
  have hashLen' : h₆.self.sessionId.length = 32 := by
    rw [@Client.eq_of_core _ (fun c => c.sessionId) (fun _ => rfl) _ _ core', hashLen]
  have idLen' : h₆.self.sessionIdLen = 32 := by
    rw [@Client.eq_of_core _ (fun c => c.sessionIdLen) (fun _ => rfl) _ _ core', idLen]
  have derives := @deriveTransportKeys_some noxtls sha env.rawKeyDerivation _ (h₆.self.sessionId.take 32) secretLen'
    (by rw [List.length_take, hashLen']; rfl)
  apply returns_ensure_bind rfl
  have derived : ∃ keys, (Client.deriveKeys noxtls env).run h₆ =
      (.ok (), { h₆ with self := Client.setKeys keys h₆.self }) := by
    rw [Client.deriveKeys, self_bind_run, ensure_bind_pos (by rw [idLen']; decide), idLen', derives]
    exact ⟨_, rfl⟩
  obtain ⟨keys, derived⟩ := derived
  apply returns_bind_of_run (failAs_ok derived)
  apply returns_modify_bind
  exact returns_of_run (log_run _ _) trivial

/-- With nothing in flight the rekey succeeds. -/
theorem rekey_live (sha : noxtls.shaInit = true) (ctr : CtrMode noxtls) (live : Live env)
    (generates : ∀ t, noxtls.x25519GenerateKey t ≠ none) {kexinit reply : List UInt8} (connected : h.self.connected = true)
    (keyed : h.self.keyExchangeComplete = true) (valid : ValidExchange noxtls env [] kexinit reply h)
    (awaiting : Client.Awaiting noxtls last [kexinit, reply, [21]] rest h) :
    Returns Client.Late (Client.rekey noxtls env) (fun _ _ => True) h := by
  obtain ⟨alone, rest', is, -, answers⟩ := valid.replyValid
  have same : { h with inbox := alone } = h := by rw [is rfl]
  unfold Client.rekey
  apply returns_self_bind
  apply returns_ensure_bind ⟨connected, keyed⟩
  rw [exchangeKexinit_eq]
  have agrees : Returns Client.Late (agree noxtls env) (fun _ h' => h'.self.kexinitExchanged = true ∧
      Client.Awaiting noxtls last [reply, [21]] rest h') h := by
    apply (propose_live sha ctr live connected (Nat.le_trans valid.kexinitShort (by decide)) awaiting).bind
    rintro _ h₁ ⟨⟨stale, rfl⟩, awaiting₁⟩
    exact accept_live valid stale awaiting₁
  apply (returns_ran agrees).bind
  rintro _ h₁ ⟨⟨exchanged, awaiting₁⟩, ran⟩
  rw [← same] at ran
  exact performs_live sha ctr live generates valid.replyNumber valid.replyShort exchanged
    (fun priv pub stale => answers h₁ priv pub stale ran) awaiting₁

/-- With a channel packet in flight it fails. -/
theorem rekey_fails (sha : noxtls.shaInit = true) (ctr : CtrMode noxtls) (live : Live env) {packet : List UInt8}
    (connected : h.self.connected = true) (keyed : h.self.keyExchangeComplete = true) (channel : ChannelPacket packet)
    (awaiting : Client.Awaiting noxtls last (packet :: payloads) rest h) :
    Returns (fun _ => True) (Client.rekey noxtls env) (fun _ _ => False) h := by
  have fits : packet.length ≤ maxPacketLen := by
    obtain ⟨-, sender, frames, sealed, -, -⟩ := awaiting
    cases sealed with
    | cons small length seals later => exact Nat.le_trans small (by decide)
  have other : packet.head? ≠ some 20 := by
    obtain ⟨number, known, is⟩ := channel
    rw [is]
    rintro ⟨⟩
    exact absurd known (by decide)
  unfold Client.rekey
  apply returns_self_bind
  apply returns_ensure_bind ⟨connected, keyed⟩
  rw [exchangeKexinit_eq, agree, bind_assoc_run]
  apply ((propose_live sha ctr live connected fits awaiting).excused fun _ _ => trivial).bind
  rintro arrival h₁ ⟨⟨stale, is⟩, -⟩
  have other' : arrival.1.head? ≠ some 20 := by rw [is]; exact other
  rw [accept, bind_assoc_run]
  exact returns_of_err (ensure_bind_neg other' _ _ _) trivial

/-- **A rekey with packets in flight.**  For every list of channel packets that are on the
way in front of an exchange the client accepts: the rekey succeeds, and the data of the
packets comes out of later calls, exactly if the list is empty. -/
theorem rekey_in_flight_iff (noxtls : Noxtls) (sha : noxtls.shaInit = true) (ctr : CtrMode noxtls)
    (generates : ∀ t, noxtls.x25519GenerateKey t ≠ none) (env : Env) (live : Live env) (h : Host Client)
    (connected : h.self.connected = true) (keyed : h.self.keyExchangeComplete = true) (inFlight : List (List UInt8))
    (channel : ∀ packet ∈ inFlight, ChannelPacket packet) (kexinit reply rest : List UInt8) (last : Lane)
    (valid : ValidExchange noxtls env inFlight kexinit reply h)
    (awaiting : Client.Awaiting noxtls last (inFlight ++ [kexinit, reply, [21]]) rest h) :
    Tolerates noxtls env inFlight h ↔ inFlight = [] := by
  constructor
  · rintro ⟨h₁, -, -, ran, -⟩
    cases inFlight with
    | nil => rfl
    | cons packet inFlight =>
        have fails := rekey_fails sha ctr live connected keyed (channel packet List.mem_cons_self) awaiting
        exact absurd ran (not_ok fails)
  · rintro rfl
    obtain ⟨_, h₁, ran, -⟩ := (rekey_live sha ctr live generates connected keyed valid awaiting).ok id
    exact ⟨h₁, [], h₁, ran, rfl⟩

end Runs

/-! ## An exchange that is valid -/

namespace Talk

open Client.Probe

/-- The reply to the client's rekey: the hash is that of a client that connected to the probe. -/
def answer : List UInt8 := reply (zeros 32)

def exchange : List (List UInt8) := [kexinit, answer, [21]]

def adjust : List UInt8 := [93] ++ be32 0 ++ be32 1

theorem live : Live brisk := ⟨by simp [brisk], by simp [brisk], by simp [brisk, calm]⟩

/-- A client with keys of zeros. -/
def idle : Host Client :=
  ⟨{ Client.init 22 with
      connected := true, keyExchangeComplete := true, serverIdent := ascii "SSH-2.0-probe" }, 0, [], []⟩

def rekeying (inbox : List UInt8) : Host Client := { idle with inbox := inbox }

/-- Packets on the way to it. -/
def coming (payloads : List (List UInt8)) : List UInt8 := sealAll noxtls (Client.recvSide.lane idle.self) payloads

theorem ctrMode : CtrMode noxtls := by
  refine ⟨fun _ _ _ => 0, fun key data counter _ => ?_⟩
  show some data = some _
  rw [Option.some.injEq]
  exact List.ext_getElem (by simp) fun i _ _ => by simp [ctrStream]

theorem awaiting_coming (payloads : List (List UInt8)) (small : ∀ p ∈ payloads, p.length ≤ 34980) :
    OnTheWay noxtls (Client.recvSide.lane idle.self) payloads [] (coming payloads) := by
  have way := @onTheWay_sealAll noxtls rfl ctrMode [] payloads (Client.recvSide.lane idle.self)
    (fun _ => by decide) small
  rwa [List.append_nil] at way

theorem kexinit_valid (stale : Mem) : (validateServerKexinit (memOf kexinit stale) kexinit.length).isOk = true := by
  have is : kexinit = 20 :: zeros 16 ++ (requiredAlgs.map ascii).flatMap sshString ++
      (sshString [] ++ (sshString [] ++ 0 :: be32 0)) := by decide +kernel
  rw [(validates_kexinit is (by decide) (by decide +kernel) required_offered stale).1]
  rfl

def blob : List UInt8 := ed25519Blob (zeros 32)

def signature : List UInt8 := Sample.sign (zeros 32) (exchangeHash blob)

/-- The three strings of the answer, where they stand. -/
theorem answer_reads (stale : Mem) :
    Client.readKexReply (memOf answer stale) answer.length = some ⟨⟨5, 51⟩, ⟨60, 32⟩, ⟨96, 83⟩⟩ ∧
      Holds (memOf answer stale) 5 blob ∧ View.bytes ⟨60, 32⟩ (memOf answer stale) = Sample.fit 32 [9] ∧
      Holds (memOf answer stale) 96 (ed25519Blob signature) := by
  have is : answer = [31] ++ sshString blob ++ sshString (Sample.fit 32 [9]) ++ sshString (ed25519Blob signature) := rfl
  have signatureLen : signature.length = 64 := by simp [signature, Sample.sign, Sample.digest]
  have blobLen : blob.length = 51 := by simp [blob, zeros]
  have length : answer.length = 179 := by simp [is, signatureLen, blobLen]
  have whole := holds_memOf answer stale
  generalize memOf answer stale = m at whole ⊢
  rw [is] at whole
  obtain ⟨front, third⟩ := holds_append.1 whole
  obtain ⟨front, second⟩ := holds_append.1 front
  obtain ⟨-, first⟩ := holds_append.1 front
  simp only [List.length_append, length_sshString, List.length_cons, List.length_nil, blobLen, Sample.length_fit] at first second third
  obtain ⟨readBlob, -⟩ := reads_string 5 51 56 179 first rfl blobLen.symm rfl (by decide) (by decide)
  obtain ⟨readPub, showPub⟩ := reads_string 60 32 92 179 second rfl (by simp) rfl (by decide) (by decide)
  obtain ⟨readSig, -⟩ := reads_string 96 83 179 179 third rfl (by simp [signatureLen]) rfl (by decide) (by decide)
  refine ⟨?_, (holds_append.1 first).2, showPub, (holds_append.1 third).2⟩
  rw [length, Client.readKexReply, readBlob, Option.bind_eq_bind, Option.bind_some]
  dsimp only
  rw [readPub, Option.bind_some]
  dsimp only
  rw [readSig, Option.bind_some]
  decide

/-- The identifications and the KEXINITs the client hashes. -/
structure Agreed (c : Client) : Prop where
  clientIdent : c.clientIdent = ascii "SSH-2.0-noxssh_0.1"
  serverIdent : c.serverIdent = ascii "SSH-2.0-probe"
  kexinitClient : c.kexinitClientPayload = ownKexinit
  kexinitServer : c.kexinitServerPayload = kexinit

theorem agreed : Agreed ((agree noxtls brisk).run (rekeying (coming exchange))).2.self := by
  have fields : (((agree noxtls brisk).run (rekeying (coming exchange))).2.self.clientIdent = ascii "SSH-2.0-noxssh_0.1" ∧
      ((agree noxtls brisk).run (rekeying (coming exchange))).2.self.serverIdent = ascii "SSH-2.0-probe") ∧
      ((agree noxtls brisk).run (rekeying (coming exchange))).2.self.kexinitClientPayload = ownKexinit ∧
      ((agree noxtls brisk).run (rekeying (coming exchange))).2.self.kexinitServerPayload = kexinit := by
    decide +kernel
  exact ⟨fields.1.1, fields.1.2, fields.2.1, fields.2.2⟩

theorem agreed_of_ran (h : Host Client) (ran : (agree noxtls brisk).run (rekeying (coming exchange)) = (.ok (), h)) :
    Agreed h.self := by
  have is := agreed
  rw [ran] at is
  exact is

/-- What was in the inbox before does not matter. -/
theorem ran_alone {m : Prog Client Unit} {h h₁ h₂ : Host Client} {alone : List UInt8} (is : { h with inbox := alone } = h₁)
    (ran : m.run { h with inbox := alone } = (.ok (), h₂)) : m.run h₁ = (.ok (), h₂) := is ▸ ran

theorem drawn (t : Nat) {priv pub : List UInt8} (generated : noxtls.x25519GenerateKey t = some (priv, pub)) :
    priv = Sample.fit 32 [5] ∧ pub = Sample.fit 32 [5] := by
  obtain ⟨rfl, rfl⟩ := Prod.mk.inj (Option.some.inj generated)
  exact ⟨rfl, rfl⟩

def secret : List UInt8 := List.zipWith (· + ·) (Sample.fit 32 [5]) (Sample.fit 32 [9])

theorem exchangeHash_eq : computeExchangeHash noxtls (ascii "SSH-2.0-noxssh_0.1") (ascii "SSH-2.0-probe") ownKexinit kexinit
    blob (Sample.fit 32 [5]) (Sample.fit 32 [9]) secret = some (exchangeHash blob) := by
  have fits := @computeExchangeHash_some noxtls rfl (ascii "SSH-2.0-noxssh_0.1") (ascii "SSH-2.0-probe") ownKexinit
    kexinit blob (Sample.fit 32 [5]) (Sample.fit 32 [9]) secret (by decide +kernel)
  rw [exchangeHash, ← secret, fits, Option.getD_some]

theorem answers_of_agreed (stale : Mem) {c : Client} (is : Agreed c) :
    ∃ read, Client.readKexReply (memOf answer stale) answer.length = some read ∧
      Answers noxtls c (Sample.fit 32 [5]) (Sample.fit 32 [5]) (memOf answer stale) read := by
  obtain ⟨reads, showsBlob, showsPub, showsSignature⟩ := answer_reads stale
  have shared : noxtls.x25519SharedSecret (Sample.fit 32 [5]) (Sample.fit 32 [9]) = some secret := by decide +kernel
  have blobLen : blob.length = 51 := by decide +kernel
  have nonempty : exchangeHash blob ≠ [] := by
    intro none
    have size := length_exchangeHash exchangeHash_eq
    rw [none] at size
    cases size
  refine ⟨_, reads, secret, exchangeHash blob, ?_, ?_, ?_⟩
  · rw [showsPub]
    exact shared
  · rw [is.clientIdent, is.serverIdent, is.kexinitClient, is.kexinitServer, showsPub, showsBlob.view blobLen]
    exact exchangeHash_eq
  · rw [verifyServerHostKeySignature_ed25519 (by decide) (by simp [signature, Sample.sign, Sample.digest]) nonempty
      showsBlob showsSignature (by simp [noxtls, Sample.plain, Sample.noxtls, signature])]
    rfl

theorem valid_of_agreed {inFlight : List (List UInt8)} {inbox alone : List UInt8} (is : inFlight = [] → alone = inbox)
    (way : OnTheWay noxtls (Client.recvSide.lane idle.self) exchange [] alone)
    (agreed : ∀ h, (agree noxtls brisk).run (rekeying alone) = (.ok (), h) → Agreed h.self) :
    ValidExchange noxtls brisk inFlight kexinit answer (rekeying inbox) := by
  refine ⟨by decide +kernel, by decide +kernel, kexinit_valid, rfl, by decide +kernel, alone, [], is, way, ?_⟩
  intro h priv pub stale ran generated
  obtain ⟨rfl, rfl⟩ := drawn _ generated
  have is : { rekeying inbox with inbox := alone } = rekeying alone := rfl
  exact answers_of_agreed stale (agreed h (ran_alone is ran))

/-- So the exchange is valid, whatever is in flight. -/
theorem exchange_valid {inFlight : List (List UInt8)} {inbox : List UInt8} (is : inFlight = [] → coming exchange = inbox) :
    ValidExchange noxtls brisk inFlight kexinit answer (rekeying inbox) :=
  valid_of_agreed is (awaiting_coming exchange (by decide +kernel)) agreed_of_ran

/-- Packets on the way to the client are awaited. -/
theorem awaits (payloads : List (List UInt8)) (small : ∀ p ∈ payloads, p.length ≤ 34980) :
    ∃ last, Client.Awaiting noxtls last payloads [] (rekeying (coming payloads)) := by
  obtain ⟨frames, last, sealed, is⟩ := awaiting_coming payloads small
  exact ⟨last, fun _ => rfl, _, frames, sealed, ⟨rfl, rfl, fun _ => ⟨rfl, rfl, rfl, by decide⟩⟩, is⟩

end Talk

/-- A rekey while the server is silent. -/
theorem rekey_alone :
    Tolerates Client.Probe.noxtls Client.Probe.brisk [] (Talk.rekeying (Talk.coming Talk.exchange)) ↔
      ([] : List (List UInt8)) = [] := by
  obtain ⟨last, awaiting⟩ := Talk.awaits Talk.exchange (by decide +kernel)
  exact rekey_in_flight_iff Client.Probe.noxtls rfl Talk.ctrMode (fun _ => by simp [Client.Probe.noxtls])
    Client.Probe.brisk Talk.live _ rfl rfl [] (by simp) Client.Probe.kexinit Talk.answer [] last
    (Talk.exchange_valid fun _ => rfl) awaiting

/-- A WINDOW_ADJUST on the way in front of a valid exchange. -/
theorem rekey_behind_adjust :
    ChannelPacket Talk.adjust ∧
    ValidExchange Client.Probe.noxtls Client.Probe.brisk [Talk.adjust] Client.Probe.kexinit Talk.answer
      (Talk.rekeying (Talk.coming (Talk.adjust :: Talk.exchange))) ∧
    (∃ last, Client.Awaiting Client.Probe.noxtls last ([Talk.adjust] ++ Talk.exchange) []
      (Talk.rekeying (Talk.coming (Talk.adjust :: Talk.exchange)))) ∧
    ¬ Tolerates Client.Probe.noxtls Client.Probe.brisk [Talk.adjust]
      (Talk.rekeying (Talk.coming (Talk.adjust :: Talk.exchange))) := by
  have channel : ChannelPacket Talk.adjust := ⟨93, by simp, rfl⟩
  obtain ⟨last, awaiting⟩ := Talk.awaits (Talk.adjust :: Talk.exchange) (by decide +kernel)
  refine ⟨channel, Talk.exchange_valid (by simp), ⟨last, awaiting⟩, ?_⟩
  rintro ⟨h₁, -, -, ran, -⟩
  have connected : (Talk.rekeying (Talk.coming (Talk.adjust :: Talk.exchange))).self.connected = true := rfl
  have keyed : (Talk.rekeying (Talk.coming (Talk.adjust :: Talk.exchange))).self.keyExchangeComplete = true := rfl
  generalize Talk.rekeying (Talk.coming (Talk.adjust :: Talk.exchange)) = h at awaiting ran connected keyed
  exact not_ok (rekey_fails rfl Talk.ctrMode Talk.live connected keyed channel awaiting) ran

end NoxSsh.Protocol
