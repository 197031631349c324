/-
# Client.Binding — the host key behind the keys of a connection

The caller of `connect` sees a fingerprint and the packets are protected by keys.  Both come
from one exchange: the host key in the context has signed the hash that the keys were derived
from (`connect_bound`), also if a KEXINIT turned up in the middle of the exchange and another
one was run inside it.

Until the next exchange is entered the connection has these keys, whichever calls are made
(`calling_bound`).
-/
import NoxSsh.Client.HostKey
import NoxSsh.Client.Secrecy

namespace NoxSsh.Client

open Theory Proc Wire Transport

set_option autoImplicit false

/-! ## One exchange behind key and fingerprint -/

/-- In this history the host key has signed the exchange that these keys are derived from. -/
def Bound (noxtls : Noxtls) (env : Env) (trace : List (Event × Client)) (blob : List UInt8) (keys : TransportKeys) :
    Prop :=
  ∃ exchangeHash secret, (∃ c, (.hostKeyVerified blob exchangeHash secret, c) ∈ trace) ∧
    Verified noxtls blob exchangeHash ∧ deriveTransportKeys noxtls env.rawKeyDerivation secret exchangeHash = some keys

/-- The host key in the context has signed the hash in the context. -/
structure Backed (noxtls : Noxtls) (h : Host Client) : Prop where
  printed : Printed noxtls h
  idLen : h.self.sessionIdLen = 32
  length : h.self.sessionId.length = 32
  signed : ∃ c, (.hostKeyVerified h.self.serverHostKeyBlob h.self.sessionId h.self.sharedSecretRaw, c) ∈ h.trace
  verified : Verified noxtls h.self.serverHostKeyBlob h.self.sessionId

/-- And the keys in the context come from there. -/
structure Established (noxtls : Noxtls) (env : Env) (h : Host Client) : Prop extends Backed noxtls h where
  complete : h.self.keyExchangeComplete = true
  bound : ∃ keys, Bound noxtls env h.trace h.self.serverHostKeyBlob keys ∧ HasKeys h.self keys

section Backed

variable {noxtls : Noxtls} {env : Env} {h h' : Host Client}

/-- What the caller sees and what the keys are derived from. -/
def backing (c : Client) : (Bool × List UInt8 × Bool × List UInt8) × (List UInt8 × Nat × List UInt8) :=
  (trust c, agreement c)

theorem passive_backing : Passive backing := ⟨fun _ _ => rfl, fun _ _ => rfl, fun _ _ => rfl, fun _ _ => rfl⟩

theorem Backed.quiet (backed : Backed noxtls h) (quiet : Quiet (fun _ => True) backing h h') : Backed noxtls h' := by
  obtain ⟨same, new, grown, -⟩ := quiet
  simp only [backing, trust, agreement, Prod.mk.injEq] at same
  obtain ⟨⟨-, blob, ready, fingerprint⟩, id, len, secret⟩ := same
  constructor
  · exact ⟨ready.trans backed.printed.ready, by rw [blob, fingerprint, backed.printed.hash]⟩
  · rw [len, backed.idLen]
  · rw [id, backed.length]
  · obtain ⟨c, mem⟩ := backed.signed
    exact ⟨c, by rw [blob, id, secret, grown]; exact List.mem_append_left _ mem⟩
  · rw [blob, id]
    exact backed.verified

theorem Backed.update (backed : Backed noxtls h) {f : Client → Client} (same : ∀ c, backing (f c) = backing c) :
    Backed noxtls { h with self := f h.self } :=
  backed.quiet ⟨same h.self, [], by simp, by simp⟩

theorem Backed.log (backed : Backed noxtls h) (e : Event) :
    Backed noxtls { h with trace := h.trace ++ [(e, h.self)] } :=
  backed.quiet ⟨rfl, [(e, h.self)], rfl, by simp⟩

theorem backed_of_always {α : Type} {m : Prog Client α} (always : Always (Quiet (fun _ => True) backing) m) :
    Triple (Backed noxtls) m (fun _ => Backed noxtls) (Breaks Whatever Whatever) :=
  Triple.whatever (stays_of_always (fun _ => id) always fun _ _ quiet backed => backed.quiet quiet)

/-- A reply that is taken backs its host key. -/
theorem takeReply_backed (priv pub : List UInt8) (m : Mem) (reply : KexReply) :
    Triple Whatever (takeReply noxtls priv pub m reply) (fun _ => Backed noxtls) (Breaks Whatever Whatever) := by
  unfold takeReply
  dsimp only
  apply triple_bind (stays_whatever _)
  intro _
  apply triple_bind (Q := fun _ h => h.self.serverHostKeyBlob = reply.hostKeyBlob.bytes m)
  · exact triple_modify fun _ _ => rfl
  intro _
  apply triple_lift_bind _ fun _ _ => trivial
  intro fingerprint hashed
  apply triple_bind (Q := fun _ h => h.self.serverHostKeyBlob = reply.hostKeyBlob.bytes m ∧ Printed noxtls h)
  · refine triple_modify fun h stored => ⟨stored, rfl, ?_⟩
    show noxtls.hash h.self.serverHostKeyBlob = some fingerprint
    rw [stored, hashed]
  intro _
  apply triple_lift_bind _ fun _ _ => trivial
  intro secret _
  apply triple_self_bind
  intro c
  apply triple_lift_bind _ fun _ _ => trivial
  intro exchangeHash computed
  apply triple_bind (Q := fun _ h => h.self.serverHostKeyBlob = reply.hostKeyBlob.bytes m ∧ Printed noxtls h ∧
    h.self.sessionId = exchangeHash)
  · exact triple_modify fun h ⟨stored, printed⟩ => ⟨stored, printed.update fun _ => rfl, rfl⟩
  intro _
  apply triple_ensure_bind _ fun _ _ => trivial
  intro verified
  apply triple_bind (Q := fun _ h => h.self.serverHostKeyBlob = reply.hostKeyBlob.bytes m ∧ Printed noxtls h ∧
    h.self.sessionId = exchangeHash ∧ ∃ c, (.hostKeyVerified (reply.hostKeyBlob.bytes m) exchangeHash secret, c) ∈ h.trace)
  · apply triple_log
    rintro h ⟨stored, printed, id⟩
    exact ⟨stored, ⟨printed.ready, printed.hash⟩, id, h.self, by simp⟩
  intro _
  apply triple_bind (Q := fun _ => Backed noxtls)
  · apply triple_modify
    rintro h ⟨stored, printed, id, c, mem⟩
    refine ⟨printed.update fun _ => rfl, rfl, ?_, ⟨c, ?_⟩, m, reply.hostKeyBlob, reply.signature, ?_, ?_⟩
    · exact (congrArg List.length id).trans (length_exchangeHash computed)
    · show (Event.hostKeyVerified h.self.serverHostKeyBlob h.self.sessionId secret, c) ∈ h.trace
      rwa [stored, id]
    · exact stored.symm
    · show (verifyServerHostKeySignature noxtls m reply.hostKeyBlob reply.signature h.self.sessionId).isOk = true
      rwa [id]
  · exact fun _ => triple_pure _ fun _ => id

/-- The keys are derived from what the host key has signed. -/
theorem deriveKeys_bound : Triple (Backed noxtls) (deriveKeys noxtls env)
    (fun _ h => Backed noxtls h ∧ ∃ keys, Bound noxtls env h.trace h.self.serverHostKeyBlob keys ∧ HasKeys h.self keys)
    (Breaks Whatever Whatever) := by
  constructor
  intro h backed
  rw [deriveKeys, self_bind_run, ensure_bind_pos (by rw [backed.idLen]; decide), backed.idLen,
    List.take_of_length_le (by rw [backed.length])]
  cases derived : deriveTransportKeys noxtls env.rawKeyDerivation h.self.sharedSecretRaw h.self.sessionId with
  | none => exact trivial
  | some keys =>
      exact ⟨backed.update fun _ => rfl, keys, ⟨_, _, backed.signed, backed.verified, derived⟩, rfl, rfl, rfl, rfl⟩

theorem Bound.append {trace : List (Event × Client)} {blob : List UInt8} {keys : TransportKeys}
    (bound : Bound noxtls env trace blob keys) (more : List (Event × Client)) :
    Bound noxtls env (trace ++ more) blob keys := by
  obtain ⟨exchangeHash, secret, ⟨c, mem⟩, rest⟩ := bound
  exact ⟨exchangeHash, secret, ⟨c, List.mem_append_left _ mem⟩, rest⟩

theorem Established.log (established : Established noxtls env h) (e : Event) :
    Established noxtls env { h with trace := h.trace ++ [(e, h.self)] } := by
  obtain ⟨keys, bound, has⟩ := established.bound
  exact ⟨established.toBacked.log e, established.complete, keys, bound.append _, has⟩

/-- An exchange establishes a connection if its waits keep what backs it. -/
theorem performWith_bound {wait : UInt8 → UInt8 → Nat → Prog Client Arrival}
    (waits : ∀ a b n, Triple (Backed noxtls) (wait a b n) (fun _ => Backed noxtls) (Breaks Whatever Whatever)) :
    Triple Whatever (performWith noxtls env wait) (fun _ => Established noxtls env) (Breaks Whatever Whatever) := by
  apply triple_self_bind
  intro c
  apply stays_ensure_bind
  intro _
  apply triple_bind (stays_whatever _)
  intro _
  have ends : ∀ h, Established noxtls env h →
      Established noxtls env { h with trace := h.trace ++ [(.kexLeft true, h.self)] } := fun _ established => established.log _
  refine triple_leaving ?_ (fun _ => ends) (fun _ _ => id) fun _ => id
  apply triple_bind (stays_whatever _)
  intro generated
  apply stays_lift_bind
  rintro ⟨priv, pub⟩ -
  apply stays_lift_bind
  intro init _
  apply triple_bind (stays_whatever _)
  intro _
  apply triple_bind (stays_whatever _)
  rintro ⟨rx, m⟩
  apply stays_ensure_bind
  intro _
  apply stays_lift_bind
  intro reply _
  apply triple_bind (takeReply_backed priv pub m reply)
  rintro ⟨exchangeHash, secret⟩
  have sends : Triple (Backed noxtls) (sendPacket noxtls env [21]) (fun _ => Backed noxtls) (Breaks Whatever Whatever) :=
    backed_of_always (always_sendPacket chatter_any.toBackground passive_backing [21] trivial trivial)
  apply triple_bind sends.failAs
  intro _
  apply triple_bind (waits 21 255 2048).failAs
  rintro ⟨rx', _⟩
  apply triple_ensure_bind _ fun _ _ => trivial
  intro _
  apply triple_bind deriveKeys_bound.failAs
  intro _
  apply triple_bind (Q := fun _ => Established noxtls env)
  · apply triple_modify
    rintro h ⟨backed, keys, bound, has⟩
    exact ⟨⟨⟨backed.printed.ready, backed.printed.hash⟩, backed.idLen, backed.length, backed.signed, backed.verified⟩,
      rfl, keys, bound, has⟩
  · exact fun _ => triple_log fun h established => established.log _

/-- Anything may be proposed. -/
theorem answering_whatever : Answering noxtls env Whatever Whatever :=
  ⟨fun _ => id, fun _ _ _ _ => stays_whatever _, fun _ _ => id, fun _ _ => id, fun _ => id⟩

/-- A wait keeps what backs the connection: an exchange inside it ends with a backing of its own. -/
theorem waitNested_backed (depth : Nat) (a b : UInt8) (outMax : Nat) :
    Triple (Backed noxtls) (waitNested noxtls env depth a b outMax) (fun _ => Backed noxtls)
      (Breaks Whatever Whatever) := by
  have receives : ∀ n, Triple (Backed noxtls) (recvInto noxtls env n) (fun _ => Backed noxtls)
      (Breaks Whatever Whatever) := fun n =>
    backed_of_always (always_recvInto chatter_any.toBackground passive_backing chatter_any.toHearing n)
  have asks : ∀ h, Backed noxtls h → Backed noxtls { h with tick := h.tick + 1 } := fun _ backed =>
    backed.quiet (quiet_of_eq rfl rfl)
  induction depth generalizing a b outMax with
  | zero =>
      exact triple_waitLoop (fun _ _ => trivial) asks receives (fun _ _ => triple_stall fun _ _ => trivial) a b outMax _
  | succ depth ih =>
      refine triple_waitLoop (fun _ _ => trivial) asks receives (fun rx m => ?_) a b outMax _
      exact (answering_whatever.handles (performWith_bound ih) rx m).mono (fun _ _ => trivial)
        (fun _ _ established => established.toBacked) fun _ _ => id

/-- **The fingerprint belongs to the keys.**  A connection that was made has keys derived from
a hash that the host key in the context has signed, and the fingerprint is that of this key. -/
theorem connect_bound :
    Triple Whatever (connect noxtls env) (fun _ => Established noxtls env) (Breaks Whatever Whatever) := by
  have performs : Triple Whatever (performCurve25519Kex noxtls env) (fun _ => Established noxtls env)
      (Breaks Whatever Whatever) :=
    performWith_bound fun a b n => triple_byInbox fun depth => waitNested_backed depth a b n
  have proposing : Proposing noxtls env Whatever Whatever := ⟨answering_whatever, fun _ => stays_whatever _⟩
  exact triple_connect (fun _ => id) (fun _ => stays_whatever _) (stays_whatever _) (fun _ _ => id) (fun _ => id)
    (proposing.exchanges performs)

end Backed

/-! ## The keys until the next exchange -/

/-- No exchange is entered. -/
def Unentered (trace : List (Event × Client)) : Prop := ∀ e ∈ trace, e.1 ≠ .kexEntered

/-- Since the history was `old`, the context has had these keys until an exchange was entered. -/
def Keeping (old : List (Event × Client)) (keys : TransportKeys) (h : Host Client) : Prop :=
  ∃ new, h.trace = old ++ new ∧ (Unentered new → HasKeys h.self keys) ∧
    Audited (fun before e => Unentered before → HasKeys e.2 keys) new

/-- And one was entered. -/
def Rekeying (old : List (Event × Client)) (keys : TransportKeys) (h : Host Client) : Prop :=
  ∃ new, h.trace = old ++ new ∧ ¬ Unentered new ∧ Audited (fun before e => Unentered before → HasKeys e.2 keys) new

section Keeping

variable {noxtls : Noxtls} {env : Env} {old : List (Event × Client)} {keys : TransportKeys} {h h' : Host Client}

/-- The keys of the context. -/
def locks (c : Client) : List UInt8 × List UInt8 × List UInt8 × List UInt8 := (c.c2sKey, c.s2cKey, c.c2sMacKey, c.s2cMacKey)

theorem passive_locks : Passive locks := ⟨fun _ _ => rfl, fun _ _ => rfl, fun _ _ => rfl, fun _ _ => rfl⟩

theorem hasKeys_congr {c c' : Client} (same : locks c' = locks c) (has : HasKeys c keys) : HasKeys c' keys := by
  simp only [locks, Prod.mk.injEq] at same
  obtain ⟨c2s, s2c, c2sMac, s2cMac⟩ := same
  rwa [HasKeys, c2s, s2c, c2sMac, s2cMac]

theorem Keeping.quiet (keeping : Keeping old keys h) (quiet : Quiet (fun _ => True) locks h h') :
    Keeping old keys h' := by
  obtain ⟨new, trace, has, audited⟩ := keeping
  obtain ⟨same, more, grown, fine⟩ := quiet
  refine ⟨new ++ more, by rw [grown, trace, List.append_assoc], fun none => ?_, ?_⟩
  · exact hasKeys_congr same (has fun e mem => none e (List.mem_append_left _ mem))
  · apply audited.append
    intro before e after is none
    have kept := fine e (by rw [is]; simp)
    exact hasKeys_congr kept.2 (has fun e mem => none e (List.mem_append_left _ mem))

theorem Rekeying.keeping (rekeying : Rekeying old keys h) : Keeping old keys h := by
  obtain ⟨new, trace, entered, audited⟩ := rekeying
  exact ⟨new, trace, fun none => absurd none entered, audited⟩

/-- Once an exchange was entered nothing is promised. -/
theorem Rekeying.follows (rekeying : Rekeying old keys h) (follows : Follows h h') : Rekeying old keys h' := by
  obtain ⟨new, trace, entered, audited⟩ := rekeying
  obtain ⟨-, more, grown, -⟩ := follows
  have later : ∀ before, ¬ Unentered (new ++ before) := fun before none =>
    entered fun e mem => none e (List.mem_append_left _ mem)
  refine ⟨new ++ more, by rw [grown, trace, List.append_assoc], later more, ?_⟩
  exact audited.append fun before e after _ none => absurd none (later before)

theorem keeping_of_always {α : Type} {m : Prog Client α} (always : Always (Quiet (fun _ => True) locks) m) :
    Stays (Keeping old keys) (Keeping old keys) m :=
  stays_of_always (fun _ => id) always fun _ _ quiet keeping => keeping.quiet quiet

theorem Keeping.update (keeping : Keeping old keys h) {f : Client → Client} (same : ∀ c, locks (f c) = locks c) :
    Keeping old keys { h with self := f h.self } :=
  keeping.quiet ⟨same h.self, [], by simp, by simp⟩

theorem Keeping.log (keeping : Keeping old keys h) (e : Event) :
    Keeping old keys { h with trace := h.trace ++ [(e, h.self)] } :=
  keeping.quiet ⟨rfl, [(e, h.self)], rfl, by simp⟩

theorem Keeping.enters (keeping : Keeping old keys h) :
    Rekeying old keys { h with trace := h.trace ++ [(.kexEntered, h.self)] } := by
  obtain ⟨new, trace, has, audited⟩ := keeping
  refine ⟨new ++ [(.kexEntered, h.self)], by rw [trace, List.append_assoc], fun none => ?_, audited.snoc has⟩
  exact none (.kexEntered, h.self) (by simp) rfl

/-- A performed exchange may do as it likes. -/
theorem performWith_keeping {wait : UInt8 → UInt8 → Nat → Prog Client Arrival}
    (waits : ∀ h a b n, Stays (Follows h) (Follows h) (wait a b n)) :
    Stays (Keeping old keys) (Keeping old keys) (performWith noxtls env wait) := by
  apply triple_self_bind
  intro c
  apply stays_ensure_bind
  intro _
  apply triple_bind (Q := fun _ => Rekeying old keys)
  · exact triple_log fun _ keeping => keeping.enters
  intro _
  constructor
  intro h rekeying
  have exchanges := @exchanges_follows noxtls env h
  have follows : Stays (Follows h) (Follows h) (leaving .kexLeft (exchangeKeys noxtls env wait)) :=
    triple_leaving (exchanges.toExchanging.exchangesKeys (waits h)) (fun _ => exchanges.left true)
      (fun _ => exchanges.left false) fun _ => id
  apply (follows.ends h ((quiet_order _ _).refl h)).mono
  · exact fun _ _ later => (rekeying.follows later).keeping
  · intro e h' later
    cases e <;> exact (rekeying.follows later).keeping

theorem proposing_keeping : Proposing noxtls env (Keeping old keys) (Keeping old keys) where
  asks _ keeping := keeping.quiet (quiet_of_eq rfl rfl)
  receives n := keeping_of_always (always_recvInto chatter_any.toBackground passive_locks chatter_any.toHearing n)
  sends _ _ payload _ := keeping_of_always (always_sendPacket chatter_any.toBackground passive_locks payload trivial trivial)
  kexinitClient _ _ keeping := keeping.update fun _ => rfl
  kexinitServer _ _ keeping := keeping.update fun _ => rfl
  kexinitExchanged _ keeping := keeping.update fun _ => rfl

theorem performs_keeping : Stays (Keeping old keys) (Keeping old keys) (performCurve25519Kex noxtls env) :=
  performWith_keeping fun h => (exchanges_follows h).waits

theorem waits_keeping (a b : UInt8) (outMax : Nat) :
    Stays (Keeping old keys) (Keeping old keys) (waitForMessage noxtls env a b outMax) := by
  have proposing := @proposing_keeping noxtls env old keys
  have nested : ∀ depth, Stays (Keeping old keys) (Keeping old keys) (waitNested noxtls env depth a b outMax) := by
    intro depth
    cases depth with
    | zero =>
        exact triple_waitLoop (fun _ => id) proposing.asks proposing.receives (fun _ _ => stays_stall fun _ => id) a b
          outMax _
    | succ depth =>
        exact triple_waitLoop (fun _ => id) proposing.asks proposing.receives
          (proposing.toAnswering.handles (performWith_keeping fun h => (exchanges_follows h).waitsNested depth)) a b
          outMax _
  exact triple_byInbox nested

/-- Every call keeps the keys until the next exchange. -/
theorem calling_bound : Calling noxtls env (Keeping old keys) (Keeping old keys) (Keeping old keys) where
  weaker _ := id
  sharper _ := id
  keyed _ keeping _ := keeping
  opened _ keeping _ := keeping
  receives := proposing_keeping.receives
  handles := proposing_keeping.toAnswering.handles performs_keeping
  exchanges := proposing_keeping.exchanges performs_keeping
  waits := waits_keeping
  sends _ _ payload _ := keeping_of_always (always_sendPacket chatter_any.toBackground passive_locks payload trivial trivial)
  userauthReady _ keeping := keeping.update fun _ => rfl
  connectionReady _ keeping := keeping.update fun _ => rfl
  authenticated _ keeping := keeping.update fun _ => rfl
  localChannel _ keeping := keeping.update fun _ => rfl
  channelOpen _ _ _ _ keeping := keeping.update fun _ => rfl
  channelClosed _ keeping := keeping.update fun _ => rfl
  exitStatus _ _ keeping := keeping.update fun _ => rfl
  ident ident _ keeping := keeping.update (f := fun c => { c with clientIdent := ident }) fun _ => rfl
  username _ _ keeping := keeping.update fun _ => rfl
  host _ _ keeping := keeping.update fun _ => rfl
  password _ _ keeping := keeping.update fun _ => rfl
  privateKey _ _ keeping := keeping.update fun _ => rfl
  publicKey _ _ keeping := keeping.update fun _ => rfl
  noKey _ keeping := keeping.update fun _ => rfl

end Keeping

end NoxSsh.Client
