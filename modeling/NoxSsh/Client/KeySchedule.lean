/-
# Client.KeySchedule — the session identifier and the keys of later exchanges

The client has one buffer for the hash of an exchange and for the session identifier, so
every exchange that gets as far as its hash replaces the identifier, and the keys are
derived with the new hash in both places.  The initial exchange is served well by that.

`key_schedule_kept` — in every run in which no exchange is begun over the one that is
completed first, nor gets as far as its reply after it, the identifier is the first hash in
every later state and the keys are those of RFC 4253.
-/
import NoxSsh.Client.HostKey
import NoxSsh.Client.Secrecy

namespace NoxSsh.Client

open Theory Proc Wire Transport

set_option autoImplicit false

/-! ## What is promised -/

/-- The hash and the secret of every exchange that was completed, in order. -/
def exchangesDone (trace : List (Event × Client)) : List (List UInt8 × List UInt8) :=
  trace.filterMap fun e =>
    match e.1 with
    | .kexDone exchangeHash secret => some (exchangeHash, secret)
    | _ => none

/-- The session identifier as the client uses it. -/
def sessionIdentifier (c : Client) : List UInt8 := c.sessionId.take c.sessionIdLen

def keysOf (c : Client) : TransportKeys := ⟨c.c2sIv, c.s2cIv, c.c2sKey, c.s2cKey, c.c2sMacKey, c.s2cMacKey⟩

/-- In this state the identifier is the first of these hashes, and the keys are those of the
last exchange. -/
def OnSchedule (noxtls : Noxtls) (done : List (List UInt8 × List UInt8)) (c : Client) : Prop :=
  ∀ first last, done.head? = some first → done.getLast? = some last →
    sessionIdentifier c = first.1 ∧ keysOf c = rfcKeys noxtls (mpint last.2) last.1 first.1

/-- So it is in every state, for the exchanges that are completed by then. -/
def KeptToSchedule (noxtls : Noxtls) (h : Host Client) : Prop :=
  ∀ before after, h.trace = before ++ after → ∀ c ∈ after.map (·.2) ++ [h.self],
    OnSchedule noxtls (exchangesDone before) c

/-- A reply of an exchange is taken, or an exchange is completed. -/
def Renews : Event → Prop
  | .hostKeyPresented _ => True
  | .kexDone _ _ => True
  | _ => False

/-- Once an exchange is completed no other takes its reply or is completed. -/
def OnlyFirst (trace : List (Event × Client)) : Prop :=
  ∀ before after, trace = before ++ after → exchangesDone before ≠ [] → ∀ e ∈ after, ¬ Renews e.1

/-! ## Steps that renew nothing -/

/-- Identifier, secret and keys. -/
def secrets (c : Client) : (List UInt8 × Nat × List UInt8) × TransportKeys := (agreement c, keysOf c)

def Stale (e : Event) : Prop := ¬ Renews e

/-- On schedule, unless the run is not what it should be. -/
def Punctual (noxtls : Noxtls) (h : Host Client) : Prop := OnlyFirst h.trace → KeptToSchedule noxtls h

/-- And an exchange is completed, or what the keys will be derived from is still this. -/
def Holding (noxtls : Noxtls) (source : List UInt8 × Nat × List UInt8) (h : Host Client) : Prop :=
  Punctual noxtls h ∧ (exchangesDone h.trace ≠ [] ∨ agreement h.self = source)

/-- And an exchange is completed. -/
def Renewed (noxtls : Noxtls) (h : Host Client) : Prop := Punctual noxtls h ∧ exchangesDone h.trace ≠ []

section Steps

variable {noxtls : Noxtls} {env : Env} {h h' : Host Client} {source : List UInt8 × Nat × List UInt8}

theorem exchangesDone_append (a b : List (Event × Client)) :
    exchangesDone (a ++ b) = exchangesDone a ++ exchangesDone b :=
  List.filterMap_append

theorem exchangesDone_stale {new : List (Event × Client)} (stale : ∀ e ∈ new, Stale e.1) : exchangesDone new = [] := by
  rw [exchangesDone, List.filterMap_eq_nil_iff]
  rintro ⟨e, c⟩ mem
  have none := stale _ mem
  cases e with
  | kexDone => exact absurd trivial none
  | _ => rfl

theorem OnlyFirst.before {a b : List (Event × Client)} (only : OnlyFirst (a ++ b)) : OnlyFirst a := by
  rintro before after rfl some_ e mem
  exact only before (after ++ b) (List.append_assoc _ _ _) some_ e (List.mem_append_left _ mem)

theorem onSchedule_congr {done : List (List UInt8 × List UInt8)} {c c' : Client} (same : secrets c' = secrets c)
    (kept : OnSchedule noxtls done c) : OnSchedule noxtls done c' := by
  obtain ⟨agreed, keys⟩ := Prod.mk.inj same
  simp only [agreement, Prod.mk.injEq] at agreed
  intro first last is is'
  obtain ⟨id, source⟩ := kept first last is is'
  exact ⟨by rw [sessionIdentifier, agreed.1, agreed.2.1]; exact id, keys.trans source⟩

/-- Nothing is promised before the first exchange is completed. -/
theorem punctual_of_none (none : exchangesDone h.trace = []) : Punctual noxtls h := by
  intro _ before after is c _ first last first_ _
  rw [is, exchangesDone_append, List.append_eq_nil_iff] at none
  rw [none.1] at first_
  cases first_

/-- Nothing is promised once the run is not what it should be. -/
theorem punctual_of_broken (broken : ¬ OnlyFirst h.trace) (follows : Follows h h') : Punctual noxtls h' := by
  obtain ⟨-, new, grown, -⟩ := follows
  intro only
  rw [grown] at only
  exact absurd only.before broken

theorem Punctual.quiet (punctual : Punctual noxtls h) (quiet : Quiet Stale secrets h h') : Punctual noxtls h' := by
  obtain ⟨same, new, grown, stale⟩ := quiet
  intro only
  rw [grown] at only
  have kept := punctual only.before
  intro before after is c mem
  -- the state is one of before, or one whose secrets are those of `h`
  have now : ∀ before after, h.trace = before ++ after → ∀ c ∈ new.map (·.2) ++ [h'.self],
      OnSchedule noxtls (exchangesDone before) c := by
    intro before after is c mem
    apply onSchedule_congr _ (kept before after is h.self (by simp))
    rcases List.mem_append.1 mem with inside | last
    · obtain ⟨e, mem', rfl⟩ := List.mem_map.1 inside
      exact (stale e mem').2
    · obtain rfl := List.mem_singleton.1 last
      exact same
  rw [grown] at is
  rcases List.append_eq_append_iff.1 is with ⟨more, rfl, rest⟩ | ⟨more, rest, rfl⟩
  · have none : exchangesDone more = [] := exchangesDone_stale fun e inside =>
      (stale e (by rw [rest]; exact List.mem_append_left _ inside)).1
    rw [exchangesDone_append, none, List.append_nil]
    apply now h.trace [] (List.append_nil _).symm c
    rw [rest]
    rcases List.mem_append.1 mem with inside | last
    · simp [inside]
    · simp [List.mem_singleton.1 last]
  · rcases List.mem_append.1 mem with inside | last
    · rw [List.map_append, List.mem_append] at inside
      rcases inside with old | fresh
      · exact kept before more rest c (List.mem_append_left _ old)
      · exact now before more rest c (List.mem_append_left _ fresh)
    · exact now before more rest c (List.mem_append_right _ last)

theorem Holding.quiet (holding : Holding noxtls source h) (quiet : Quiet Stale secrets h h') : Holding noxtls source h' := by
  refine ⟨holding.1.quiet quiet, ?_⟩
  obtain ⟨same, new, grown, -⟩ := quiet
  rcases holding.2 with some_ | is
  · left
    rw [grown, exchangesDone_append]
    exact List.append_ne_nil_of_left_ne_nil some_ _
  · exact .inr ((Prod.mk.inj same).1.trans is)

theorem Renewed.quiet (renewed : Renewed noxtls h) (quiet : Quiet Stale secrets h h') : Renewed noxtls h' := by
  have holding : Holding noxtls (agreement h.self) h := ⟨renewed.1, .inr rfl⟩
  refine ⟨(holding.quiet quiet).1, ?_⟩
  obtain ⟨-, new, grown, -⟩ := quiet
  rw [grown, exchangesDone_append]
  exact List.append_ne_nil_of_left_ne_nil renewed.2 _

theorem Renewed.holding (renewed : Renewed noxtls h) : Holding noxtls source h := ⟨renewed.1, .inl renewed.2⟩

end Steps

/-! ## Exchanges -/

section Exchanges

variable {noxtls : Noxtls} {env : Env} {source : List UInt8 × Nat × List UInt8}

theorem background_stale : Background Stale :=
  ⟨⟨fun _ => id, id, id⟩, fun _ _ => id, fun _ _ => id⟩

theorem passive_secrets : Passive secrets := ⟨fun _ _ => rfl, fun _ _ => rfl, fun _ _ => rfl, fun _ _ => rfl⟩

theorem hearing_stale : Hearing Stale := ⟨fun _ => id, fun _ => id⟩

/-- What moves packets keeps the books. -/
theorem punctual_of_always {α : Type} {m : Prog Client α} (always : Always (Quiet Stale secrets) m) :
    Stays (Punctual noxtls) (Punctual noxtls) m :=
  stays_of_always (fun _ => id) always fun _ _ quiet punctual => punctual.quiet quiet

theorem holding_of_always {α : Type} {m : Prog Client α} (always : Always (Quiet Stale secrets) m) :
    Triple (Holding noxtls source) m (fun _ => Holding noxtls source) (Breaks (Punctual noxtls) (Punctual noxtls)) := by
  have stays : Stays (Holding noxtls source) (Holding noxtls source) m :=
    stays_of_always (fun _ => id) always fun _ _ quiet holding => holding.quiet quiet
  exact stays.mono (fun _ => id) (fun _ _ => id) fun e h holding => by cases e <;> exact holding.1

theorem always_sends (payload : List UInt8) : Always (Quiet Stale secrets) (sendPacket noxtls env payload) :=
  always_sendPacket background_stale passive_secrets payload id id

theorem always_reads (n : Nat) : Always (Quiet Stale secrets) (recvInto noxtls env n) :=
  always_recvInto background_stale passive_secrets hearing_stale n

theorem Punctual.update {h : Host Client} (punctual : Punctual noxtls h) {f : Client → Client}
    (same : ∀ c, secrets (f c) = secrets c) : Punctual noxtls { h with self := f h.self } :=
  punctual.quiet ⟨same h.self, [], by simp, by simp⟩

theorem punctual_asks (h : Host Client) (punctual : Punctual noxtls h) : Punctual noxtls { h with tick := h.tick + 1 } :=
  punctual.quiet (quiet_of_eq rfl rfl)

theorem proposing_punctual : Proposing noxtls env (Punctual noxtls) (Punctual noxtls) where
  asks := punctual_asks
  receives n := punctual_of_always (always_reads n)
  sends _ _ payload _ := punctual_of_always (always_sends payload)
  kexinitClient _ _ punctual := punctual.update fun _ => rfl
  kexinitServer _ _ punctual := punctual.update fun _ => rfl
  kexinitExchanged _ punctual := punctual.update fun _ => rfl

/-- No exchange is completed, or the run is not what it should be. -/
def Free (h : Host Client) : Prop := ¬ OnlyFirst h.trace ∨ exchangesDone h.trace = []

theorem Free.punctual {h : Host Client} (free : Free h) : Punctual noxtls h := by
  rcases free with broken | none
  · exact fun only => absurd only broken
  · exact punctual_of_none none

theorem Free.log {h : Host Client} (free : Free h) {e : Event} (stale : Stale e) :
    Free { h with trace := h.trace ++ [(e, h.self)] } := by
  rcases free with broken | none
  · exact .inl fun only => broken only.before
  · right
    have last : exchangesDone [(e, h.self)] = [] := exchangesDone_stale (by simpa using stale)
    show exchangesDone (h.trace ++ [(e, h.self)]) = []
    rw [exchangesDone_append, none, last, List.append_nil]

/-- A reply that is taken after the first exchange breaks the condition. -/
theorem free_of_presented (h : Host Client) (blob : List UInt8) :
    Free { h with trace := h.trace ++ [(.hostKeyPresented blob, h.self)] } := by
  by_cases none : exchangesDone h.trace = []
  · right
    show exchangesDone (h.trace ++ [(.hostKeyPresented blob, h.self)]) = []
    rw [exchangesDone_append, none]
    rfl
  · left
    intro only
    exact only h.trace [(.hostKeyPresented blob, h.self)] rfl none _ (List.mem_singleton.2 rfl) trivial

/-- What the keys are derived from is replaced with the reply. -/
theorem takeReply_holding (priv pub : List UInt8) (m : Mem) (reply : KexReply) :
    Triple (Punctual noxtls) (takeReply noxtls priv pub m reply)
      (fun taken h => Holding noxtls (taken.1, 32, taken.2) h ∧ taken.1.length = 32 ∧ taken.2.length = 32)
      (Breaks (Punctual noxtls) (Punctual noxtls)) := by
  have excuse : ∀ h, Free h → Punctual noxtls h := fun _ free => free.punctual
  apply triple_bind (Q := fun _ => Free) (triple_log fun h _ => free_of_presented h _)
  intro _
  apply triple_bind (Q := fun _ => Free) (triple_modify fun _ => id)
  intro _
  apply triple_lift_bind _ excuse
  intro fingerprint _
  apply triple_bind (Q := fun _ => Free) (triple_modify fun _ => id)
  intro _
  apply triple_lift_bind _ excuse
  intro secret agreed
  apply triple_self_bind
  intro c
  apply triple_lift_bind _ excuse
  intro exchangeHash computed
  apply triple_bind (Q := fun _ h => Free h ∧ h.self.sessionId = exchangeHash)
  · exact triple_modify fun h free => ⟨free, rfl⟩
  intro _
  apply triple_ensure_bind _ fun h both => excuse h both.1
  intro _
  apply triple_bind (Q := fun _ h => Free h ∧ h.self.sessionId = exchangeHash)
  · exact triple_log fun h both => ⟨both.1.log id, both.2⟩
  intro _
  apply triple_bind (Q := fun _ => Holding noxtls (exchangeHash, 32, secret))
  · apply triple_modify
    rintro h ⟨free, id⟩
    have still : Free { h with self := setSecret secret h.self } := free
    exact ⟨still.punctual, .inr (by rw [agreement]; exact congrArg (·, 32, secret) id)⟩
  intro _
  exact triple_pure _ fun h holding =>
    ⟨holding, length_exchangeHash computed, noxtls.length_x25519SharedSecret _ _ _ agreed⟩

theorem deriveTransportKeys_sha {raw : Bool} {secret sessionId : List UInt8} {keys : TransportKeys}
    (derived : deriveTransportKeys noxtls raw secret sessionId = some keys) : noxtls.shaInit = true := by
  by_contra off
  have fails : ∀ data, noxtls.hash data = none := fun data => if_neg off
  have block : deriveKeyBlock noxtls raw secret sessionId 65 16 = none := by
    simp [deriveKeyBlock, fails]
  rw [deriveTransportKeys, block] at derived
  cases derived

/-- The first exchange is completed, with the keys of the RFC. -/
theorem punctual_done {h : Host Client} {exchangeHash secret : List UInt8} {keys : TransportKeys}
    (holding : Holding noxtls (exchangeHash, 32, secret) h)
    (lengths : exchangeHash.length = 32 ∧ secret.length = 32)
    (derived : deriveTransportKeys noxtls false h.self.sharedSecretRaw (sessionIdentifier h.self) = some keys)
    {c : Client} (is : c = setKeyExchangeComplete (setKeys keys h.self)) :
    Renewed noxtls { h with self := c, trace := h.trace ++ [(.kexDone exchangeHash secret, c)] } := by
  have done : exchangesDone (h.trace ++ [(.kexDone exchangeHash secret, c)]) =
      exchangesDone h.trace ++ [(exchangeHash, secret)] :=
    exchangesDone_append _ _
  refine ⟨fun only before after split d mem first last heads lasts => ?_, by simp [done]⟩
  change h.trace ++ [(.kexDone exchangeHash secret, c)] = before ++ after at split
  by_cases none : exchangesDone h.trace = []
  swap
  · exact absurd trivial (only h.trace [(.kexDone exchangeHash secret, c)] rfl none _ (List.mem_singleton.2 rfl))
  have agreed := holding.2.resolve_left (not_not.2 none)
  simp only [agreement, Prod.mk.injEq] at agreed
  obtain ⟨id, len, shared⟩ := agreed
  have identifier : sessionIdentifier h.self = exchangeHash := by
    rw [sessionIdentifier, id, len, List.take_of_length_le (by rw [lengths.1])]
  rw [identifier, shared, deriveTransportKeys_some (deriveTransportKeys_sha derived) lengths.2 lengths.1,
    Option.some.injEq] at derived
  -- only the whole of the trace holds a completed exchange
  have whole : before = h.trace ++ [(.kexDone exchangeHash secret, c)] ∧ after = [] := by
    rcases List.append_eq_append_iff.1 split with ⟨more, rfl, rest⟩ | ⟨more, rest, rfl⟩
    · cases more with
      | nil => rw [List.append_nil, none] at heads; cases heads
      | cons e more =>
          simp only [List.cons_append, List.cons.injEq, List.nil_eq, List.append_eq_nil_iff] at rest
          obtain ⟨rfl, rfl, rfl⟩ := rest
          exact ⟨rfl, rfl⟩
    · rw [rest, exchangesDone_append, List.append_eq_nil_iff] at none
      rw [none.1] at heads
      cases heads
  obtain ⟨rfl, rfl⟩ := whole
  rw [done, none] at heads lasts
  obtain rfl : (exchangeHash, secret) = first := Option.some.inj heads
  obtain rfl : (exchangeHash, secret) = last := Option.some.inj lasts
  obtain rfl : d = c := List.mem_singleton.1 mem
  rw [is]
  exact ⟨identifier, derived.symm⟩

theorem derives_punctual (mpints : env.rawKeyDerivation = false) {exchangeHash secret : List UInt8}
    (lengths : exchangeHash.length = 32 ∧ secret.length = 32) :
    Triple (Holding noxtls (exchangeHash, 32, secret))
      (failAs .failed (deriveKeys noxtls env) >>= fun _ => Transport.modify setKeyExchangeComplete >>= fun _ =>
        log (.kexDone exchangeHash secret))
      (fun _ => Renewed noxtls) (Breaks (Punctual noxtls) (Punctual noxtls)) := by
  constructor
  intro h holding
  rw [bind_run, failAs_run, deriveKeys, self_bind_run]
  by_cases some_ : h.self.sessionIdLen ≠ 0
  · rw [ensure_bind_pos some_, mpints]
    cases derived : deriveTransportKeys noxtls false h.self.sharedSecretRaw (h.self.sessionId.take h.self.sessionIdLen) with
    | none => exact holding.1
    | some keys => exact punctual_done holding lengths derived rfl
  · rw [ensure_bind_neg some_]
    exact holding.1

theorem exchangeKeys_renewed (mpints : env.rawKeyDerivation = false) {wait : UInt8 → UInt8 → Nat → Prog Client Arrival}
    (punctual : ∀ a b n, Stays (Punctual noxtls) (Punctual noxtls) (wait a b n))
    (holding : ∀ source a b n, Triple (Holding noxtls source) (wait a b n) (fun _ => Holding noxtls source)
      (Breaks (Punctual noxtls) (Punctual noxtls))) :
    Triple (Punctual noxtls) (exchangeKeys noxtls env wait) (fun _ => Renewed noxtls)
      (Breaks (Punctual noxtls) (Punctual noxtls)) := by
  apply triple_bind (triple_ask punctual_asks)
  intro generated
  apply stays_lift_bind
  rintro ⟨priv, pub⟩ -
  apply stays_lift_bind
  intro init _
  apply triple_bind (punctual_of_always (always_sends init)).failAs
  intro _
  apply triple_bind (punctual _ _ _).failAs
  rintro ⟨rx, m⟩
  apply stays_ensure_bind
  intro _
  apply stays_lift_bind
  intro reply _
  apply triple_bind (takeReply_holding priv pub m reply)
  rintro ⟨exchangeHash, secret⟩
  apply triple_given
  intro lengths
  apply triple_bind (holding_of_always (always_sends [21])).failAs
  intro _
  apply triple_bind (holding _ _ _ _).failAs
  rintro ⟨rx, _⟩
  apply triple_ensure_bind _ fun h holding => holding.1
  intro _
  exact derives_punctual mpints lengths

theorem performs_renewed (mpints : env.rawKeyDerivation = false) {wait : UInt8 → UInt8 → Nat → Prog Client Arrival}
    (punctual : ∀ a b n, Stays (Punctual noxtls) (Punctual noxtls) (wait a b n))
    (holding : ∀ source a b n, Triple (Holding noxtls source) (wait a b n) (fun _ => Holding noxtls source)
      (Breaks (Punctual noxtls) (Punctual noxtls))) :
    Triple (Punctual noxtls) (performWith noxtls env wait) (fun _ => Renewed noxtls)
      (Breaks (Punctual noxtls) (Punctual noxtls)) := by
  have logs : ∀ {h : Host Client} {e : Event}, Stale e → Quiet Stale secrets h { h with trace := h.trace ++ [(e, h.self)] } :=
    fun stale => ⟨rfl, [_], rfl, by simpa using stale⟩
  apply triple_self_bind
  intro c
  apply stays_ensure_bind
  intro _
  apply triple_bind (stays_log fun h punctual => punctual.quiet (logs id))
  intro _
  exact triple_leaving (exchangeKeys_renewed mpints punctual holding) (fun _ h renewed => renewed.quiet (logs id))
    (fun _ h punctual => punctual.quiet (logs id)) fun _ => id

/-- Waiting keeps the books, and what the keys will be derived from outlasts it unless an
exchange is completed in it. -/
theorem waits_punctual (mpints : env.rawKeyDerivation = false) (depth : Nat) :
    (∀ a b n, Stays (Punctual noxtls) (Punctual noxtls) (waitNested noxtls env depth a b n)) ∧
    ∀ source a b n, Triple (Holding noxtls source) (waitNested noxtls env depth a b n) (fun _ => Holding noxtls source)
      (Breaks (Punctual noxtls) (Punctual noxtls)) := by
  -- a KEXINIT is answered with an exchange, and that is completed if it comes back
  have loops : ∀ (handle : List UInt8 → Mem → Prog Client Unit), (∀ rx m, Triple (Punctual noxtls) (handle rx m)
      (fun _ => Renewed noxtls) (Breaks (Punctual noxtls) (Punctual noxtls))) →
      (∀ a b n, Stays (Punctual noxtls) (Punctual noxtls) (waitLoop noxtls env handle a b n waitTurns)) ∧
      ∀ source a b n, Triple (Holding noxtls source) (waitLoop noxtls env handle a b n waitTurns)
        (fun _ => Holding noxtls source) (Breaks (Punctual noxtls) (Punctual noxtls)) := by
    intro handle handles
    constructor
    · intro a b n
      apply triple_waitLoop (fun _ => id) punctual_asks proposing_punctual.receives
      exact fun rx m => (handles rx m).mono (fun _ => id) (fun _ _ renewed => renewed.1) fun _ _ => id
    · intro source a b n
      apply triple_waitLoop (fun _ holding => holding.1) (fun h holding => holding.quiet (quiet_of_eq rfl rfl))
        fun n => holding_of_always (always_reads n)
      exact fun rx m => (handles rx m).mono (fun _ holding => holding.1) (fun _ _ renewed => renewed.holding) fun _ _ => id
  induction depth with
  | zero => exact loops _ fun _ _ => triple_stall fun _ => id
  | succ depth ih => exact loops _ (proposing_punctual.handles (performs_renewed mpints ih.1 ih.2))

theorem waitForMessage_punctual (mpints : env.rawKeyDerivation = false) (a b : UInt8) (n : Nat) :
    Stays (Punctual noxtls) (Punctual noxtls) (waitForMessage noxtls env a b n) :=
  triple_byInbox fun depth => (waits_punctual mpints depth).1 a b n

theorem performs_punctual (mpints : env.rawKeyDerivation = false) :
    Stays (Punctual noxtls) (Punctual noxtls) (performCurve25519Kex noxtls env) := by
  have performs : Triple (Punctual noxtls) (performCurve25519Kex noxtls env) (fun _ => Renewed noxtls)
      (Breaks (Punctual noxtls) (Punctual noxtls)) :=
    performs_renewed mpints (waitForMessage_punctual mpints) fun source a b n =>
      triple_byInbox fun depth => (waits_punctual mpints depth).2 source a b n
  exact performs.mono (fun _ => id) (fun _ _ renewed => renewed.1) fun _ _ => id

/-! ## Runs -/

theorem calling_punctual (mpints : env.rawKeyDerivation = false) :
    Calling noxtls env (Punctual noxtls) (Punctual noxtls) (Punctual noxtls) where
  weaker _ := id
  sharper _ := id
  keyed _ punctual _ := punctual
  opened _ punctual _ := punctual
  receives := proposing_punctual.receives
  handles := proposing_punctual.handles (performs_punctual mpints)
  exchanges := proposing_punctual.exchanges (performs_punctual mpints)
  waits := waitForMessage_punctual mpints
  sends _ _ payload _ := punctual_of_always (always_sends payload)
  userauthReady _ punctual := punctual.update fun _ => rfl
  connectionReady _ punctual := punctual.update fun _ => rfl
  authenticated _ punctual := punctual.update fun _ => rfl
  localChannel _ punctual := punctual.update fun _ => rfl
  channelOpen _ _ _ _ punctual := punctual.update fun _ => rfl
  channelClosed _ punctual := punctual.update fun _ => rfl
  exitStatus _ _ punctual := punctual.update fun _ => rfl
  ident ident _ punctual := @Punctual.update _ _ punctual (fun c => { c with clientIdent := ident }) fun _ => rfl
  username _ _ punctual := punctual.update fun _ => rfl
  host _ _ punctual := punctual.update fun _ => rfl
  password _ _ punctual := punctual.update fun _ => rfl
  privateKey _ _ punctual := punctual.update fun _ => rfl
  publicKey _ _ punctual := punctual.update fun _ => rfl
  noKey _ punctual := punctual.update fun _ => rfl

/-- Whatever is called keeps to the schedule, or does not keep to the condition. -/
theorem call_punctual (mpints : env.rawKeyDerivation = false) (call : Call) :
    Stays (Punctual noxtls) (Punctual noxtls) (call.run noxtls env) := by
  by_cases connects : call = .connect
  · subst connects
    apply triple_connect punctual_asks
    · exact fun data => punctual_of_always (always_sendAll background_stale.toPlumbing data)
    · exact punctual_of_always (always_recvLine hearing_stale.receiving 256)
    · exact fun _ _ punctual => punctual.update fun _ => rfl
    · exact fun _ punctual => punctual.update fun _ => rfl
    · exact (calling_punctual mpints).exchanges
  · exact (calling_punctual mpints).stays call connects fun _ _ punctual => punctual.update fun _ => rfl

/-- **The key schedule.**  In every run of the client, with any server and any program of
calls: if no exchange is begun over the first one that is completed, nor takes its reply
after it, then in every state after that the session identifier is the first exchange hash
and the six keys are those of RFC 4253, section 7.2. -/
theorem key_schedule_kept (noxtls : Noxtls) (env : Env) (mpints : env.rawKeyDerivation = false) (calls : List Call)
    (h : Host Client) (fresh : h.trace = []) (only : OnlyFirst ((Calls.run noxtls env calls).run h).2.trace) :
    KeptToSchedule noxtls ((Calls.run noxtls env calls).run h).2 := by
  have start : Punctual noxtls h := punctual_of_none (by rw [fresh]; rfl)
  exact (stays_calls calls fun call _ => call_punctual mpints call).keeps h start only

end Exchanges

/-- The condition can be checked step by step. -/
theorem onlyFirst_iff (trace : List (Event × Client)) :
    OnlyFirst trace ↔ ∀ n ≤ trace.length, exchangesDone (trace.take n) ≠ [] → ∀ e ∈ trace.drop n, ¬ Renews e.1 := by
  constructor
  · exact fun only n _ => only (trace.take n) (trace.drop n) (List.take_append_drop n trace).symm
  · rintro each before after rfl
    have here := each before.length (by simp)
    rwa [List.take_left', List.drop_left'] at here <;> rfl

instance : DecidablePred Renews := fun e => by
  cases e <;> first | exact isTrue trivial | exact isFalse id

instance (trace : List (Event × Client)) : Decidable (OnlyFirst trace) := decidable_of_iff _ (onlyFirst_iff trace).symm

namespace Probe

/-- A client that is not connected yet, and what is on the way to it. -/
def meeting (inbox : List UInt8) : Host Client := ⟨Client.init 22, 0, inbox, []⟩

end Probe

/-- A connection with one exchange. -/
theorem key_schedule_kept_first :
    KeptToSchedule Probe.noxtls ((Calls.run Probe.noxtls Probe.brisk [.connect, .authenticate]).run
      (Probe.meeting (Probe.greeting [Probe.kexinit, Probe.reply (zeros 32), [21]]))).2 :=
  key_schedule_kept Probe.noxtls Probe.brisk rfl [.connect, .authenticate] _ rfl
    (by rw [Probe.reply_zeros]; decide +kernel)

/-- A rekey replaces the session identifier. -/
theorem key_schedule_lost :
    ¬ ∀ (noxtls : Noxtls) (env : Env), env.rawKeyDerivation = false → ∀ (calls : List Call) (h : Host Client),
      h.trace = [] → KeptToSchedule noxtls ((Calls.run noxtls env calls).run h).2 := by
  intro kept
  have ran : ((exchangesDone ((Calls.run Probe.noxtls Probe.brisk [.connect, .rekey]).run
        (Probe.meeting (Probe.twice (zeros 32) Probe.other))).2.trace).map fun done => done.1 ==
      sessionIdentifier ((Calls.run Probe.noxtls Probe.brisk [.connect, .rekey]).run
        (Probe.meeting (Probe.twice (zeros 32) Probe.other))).2.self) = [false, true] := by
    rw [Probe.twice_zeros, Probe.reply_other]
    decide +kernel
  have schedule := kept Probe.noxtls Probe.brisk rfl [.connect, .rekey]
    (Probe.meeting (Probe.twice (zeros 32) Probe.other)) rfl
  generalize ((Calls.run Probe.noxtls Probe.brisk [.connect, .rekey]).run
    (Probe.meeting (Probe.twice (zeros 32) Probe.other))).2 = h at ran schedule
  have last := schedule h.trace [] (List.append_nil _).symm h.self (by simp)
  obtain ⟨first, rest, is⟩ := List.exists_cons_of_ne_nil (show exchangesDone h.trace ≠ [] by rintro is; simp [is] at ran)
  rw [is] at ran last
  have same := (last first ((first :: rest).getLast (by simp)) rfl (List.getLast?_eq_some_getLast (by simp))).1
  rw [List.map_cons, same] at ran
  simp at ran

end NoxSsh.Client
