/-
# Client.Aborted — what a failed exchange leaves behind

`netnox_ssh_perform_curve25519_kex` stores what a reply says as it goes: the host key,
its fingerprint and the flag that there is one, then the exchange hash, which is written
into the session identifier, and only after that it checks the signature.  There is no
way back from there, so an exchange that fails before a reply is taken leaves everything
as it was, and one that fails later does not (`failed_exchange_spares_iff`).  The same
goes for the exchanges the server begins while this one waits: they are part of it.

What the context had for a host key before plays no part in the exchange, so whether an
exchange spares the context is asked for every such host key at once.
-/
import NoxSsh.Client.HostKey
import NoxSsh.Client.Reuse

namespace NoxSsh.Client

open Theory Proc Wire Transport

set_option autoImplicit false

/-! ## The terms of a connection -/

/-- What an exchange settles: the identifier, the secret, the keys and the host key. -/
structure Terms where
  sessionId : List UInt8
  sessionIdLen : Nat
  sharedSecretRaw : List UInt8
  c2sIv : List UInt8
  s2cIv : List UInt8
  c2sKey : List UInt8
  s2cKey : List UInt8
  c2sMacKey : List UInt8
  s2cMacKey : List UInt8
  keyExchangeComplete : Bool
  serverHostKeyBlob : List UInt8
  serverHostKeyFingerprint : List UInt8
  serverHostKeyReady : Bool
  deriving DecidableEq

def terms (c : Client) : Terms where
  sessionId := c.sessionId
  sessionIdLen := c.sessionIdLen
  sharedSecretRaw := c.sharedSecretRaw
  c2sIv := c.c2sIv
  s2cIv := c.s2cIv
  c2sKey := c.c2sKey
  s2cKey := c.s2cKey
  c2sMacKey := c.c2sMacKey
  s2cMacKey := c.s2cMacKey
  keyExchangeComplete := c.keyExchangeComplete
  serverHostKeyBlob := c.serverHostKeyBlob
  serverHostKeyFingerprint := c.serverHostKeyFingerprint
  serverHostKeyReady := c.serverHostKeyReady

/-- `netnox_ssh_client_get_server_host_key_fingerprint` with room for `len` bytes. -/
def getServerHostKeyFingerprint (len : Nat) (c : Client) : Except NetnoxReturn (List UInt8) :=
  if c.serverHostKeyReady = false then .error .failed
  else if len < 32 then .error .badParam
  else .ok c.serverHostKeyFingerprint

/-- If an exchange from here fails, the terms are what they were, and the fingerprint
that is reported is the one that was. -/
def Spares (noxtls : Noxtls) (env : Env) (h : Host Client) : Prop :=
  ∀ e, ((performCurve25519Kex noxtls env).run h).1 = .err e →
    terms ((performCurve25519Kex noxtls env).run h).2.self = terms h.self ∧
    ∀ len, getServerHostKeyFingerprint len ((performCurve25519Kex noxtls env).run h).2.self =
      getServerHostKeyFingerprint len h.self

/-! ## Before and after a reply is taken -/

/-- A host key was presented, and the context has one. -/
def Told (h : Host Client) : Prop := (∃ e ∈ h.trace, presents e.1 ≠ none) ∧ h.self.serverHostKeyBlob ≠ []

/-- Either a reply was taken, or none was and the terms have `R`. -/
def Sparing (R : Terms → Prop) (h : Host Client) : Prop :=
  Told h ∨ (∀ e ∈ h.trace, presents e.1 = none) ∧ R (terms h.self)

section Sparing

variable {noxtls : Noxtls} {env : Env} {R : Terms → Prop} {h h' : Host Client}

theorem passive_terms : Passive terms := ⟨fun _ _ => rfl, fun _ _ => rfl, fun _ _ => rfl, fun _ _ => rfl⟩

theorem Told.quiet (told : Told h) (quiet : Quiet Unpresented terms h h') : Told h' := by
  obtain ⟨⟨e, mem, presented⟩, stored⟩ := told
  obtain ⟨same, new, grown, -⟩ := quiet
  refine ⟨⟨e, by rw [grown]; exact List.mem_append_left _ mem, presented⟩, ?_⟩
  have blob : h'.self.serverHostKeyBlob = h.self.serverHostKeyBlob := congrArg Terms.serverHostKeyBlob same
  rw [blob]
  exact stored

theorem Sparing.quiet (sparing : Sparing R h) (quiet : Quiet Unpresented terms h h') : Sparing R h' := by
  rcases sparing with told | ⟨none, kept⟩
  · exact .inl (told.quiet quiet)
  · obtain ⟨same, new, grown, silent⟩ := quiet
    refine .inr ⟨fun e mem => ?_, by rw [same]; exact kept⟩
    rw [grown] at mem
    rcases List.mem_append.1 mem with mem | mem
    · exact none e mem
    · exact (silent e mem).1

theorem Sparing.update (sparing : Sparing R h) {f : Client → Client} (same : ∀ c, terms (f c) = terms c) :
    Sparing R { h with self := f h.self } := sparing.quiet ⟨same h.self, [], by simp, by simp⟩

theorem Sparing.log (sparing : Sparing R h) {e : Event} (unpresented : Unpresented e) :
    Sparing R { h with trace := h.trace ++ [(e, h.self)] } :=
  sparing.quiet ⟨rfl, [(e, h.self)], rfl, by simpa using unpresented⟩

theorem sparing_of_always {α : Type} {m : Prog Client α} (always : Always (Quiet Unpresented terms) m) :
    Stays (Sparing R) (Sparing R) m :=
  stays_of_always (fun _ => id) always fun _ _ quiet sparing => sparing.quiet quiet

theorem sparing_asks (h : Host Client) (sparing : Sparing R h) : Sparing R { h with tick := h.tick + 1 } := sparing

theorem proposing_sparing : Proposing noxtls env (Sparing R) (Sparing R) where
  asks := sparing_asks
  receives n := sparing_of_always (always_recvInto background_unpresented passive_terms hearing_unpresented n)
  sends _ _ payload _ := sparing_of_always (always_sendPacket background_unpresented passive_terms payload
    (by simp [Unpresented, presents]) (by simp [Unpresented, presents]))
  kexinitClient _ _ sparing := sparing.update fun _ => rfl
  kexinitServer _ _ sparing := sparing.update fun _ => rfl
  kexinitExchanged _ sparing := sparing.update fun _ => rfl

/-- That a reply was taken: nothing is left that could be spared. -/
abbrev Lost : Host Client → Prop := Sparing fun _ => False

theorem Told.lost (told : Told h) : Lost h := .inl told

theorem Sparing.told (lost : Lost h) : Told h := lost.resolve_right fun spared => spared.2

theorem Sparing.any (lost : Lost h) : Sparing R h := .inl lost.told

theorem Told.update (told : Told h) {f : Client → Client} (same : ∀ c, (f c).serverHostKeyBlob = c.serverHostKeyBlob) :
    Told { h with self := f h.self } := ⟨told.1, by rw [same]; exact told.2⟩

theorem Told.log (told : Told h) (e : Event) : Told { h with trace := h.trace ++ [(e, h.self)] } := by
  obtain ⟨⟨e', mem, presented⟩, stored⟩ := told
  exact ⟨⟨e', List.mem_append_left _ mem, presented⟩, stored⟩

/-- A reply with a host key in it is taken, whatever comes of it. -/
theorem takeReply_told {P : Host Client → Prop} (priv pub : List UInt8) (m : Mem) (reply : KexReply)
    (filled : reply.hostKeyBlob.bytes m ≠ []) :
    Triple P (takeReply noxtls priv pub m reply) (fun _ => Told) (Breaks Told Told) := by
  unfold takeReply
  dsimp only
  apply triple_bind (Q := fun _ h => ∃ e ∈ h.trace, presents e.1 ≠ none)
  · apply triple_log
    exact fun h _ => ⟨_, List.mem_append_right _ (List.mem_singleton.2 rfl), by simp [presents]⟩
  intro _
  apply triple_bind (Q := fun _ => Told)
  · exact triple_modify fun h presented => ⟨presented, filled⟩
  intro _
  apply stays_lift_bind
  intro fingerprint _
  apply triple_bind (stays_modify fun h told => told.update fun _ => rfl)
  intro _
  apply stays_lift_bind
  intro secret _
  apply triple_self_bind
  intro c
  apply stays_lift_bind
  intro exchangeHash _
  apply triple_bind (stays_modify fun h told => told.update fun _ => rfl)
  intro _
  apply stays_ensure_bind
  intro _
  apply triple_bind (stays_log fun h told => told.log _)
  intro _
  exact stays_bind (stays_modify fun h told => told.update fun _ => rfl) fun _ => stays_pure _

theorem readKexReply_filled {m : Mem} {payloadLen : Nat} {reply : KexReply}
    (read : readKexReply m payloadLen = some reply) : reply.hostKeyBlob.bytes m ≠ [] := by
  simp only [readKexReply, Option.bind_eq_bind, Option.bind_eq_some_iff] at read
  obtain ⟨⟨blob, _⟩, _, ⟨serverPub, _⟩, _, ⟨signature, _⟩, _, read⟩ := read
  dsimp only at read
  split at read
  · cases read
  split at read
  · cases read
  rename_i sized
  obtain rfl := Option.some.inj read
  intro empty
  have none := congrArg List.length empty
  rw [View.bytes, length_slice] at none
  exact sized (.inl none)

theorem deriveKeys_lost : Stays Lost Lost (deriveKeys noxtls env) := by
  apply triple_self_bind
  intro c
  apply stays_ensure_bind
  intro _
  apply stays_lift_bind
  intro keys _
  exact stays_modify fun h lost => (lost.told.update fun _ => rfl).lost

/-- Once a reply is taken it stays so, and before that everything is as it was. -/
theorem exchangeKeys_sparing {wait : UInt8 → UInt8 → Nat → Prog Client Arrival}
    (waits : ∀ R a b n, Stays (Sparing R) (Sparing R) (wait a b n)) :
    Stays (Sparing R) (Sparing R) (exchangeKeys noxtls env wait) := by
  unfold exchangeKeys
  apply triple_bind (triple_ask sparing_asks)
  intro generated
  apply stays_lift_bind
  rintro ⟨priv, pub⟩ -
  apply stays_lift_bind
  intro init built
  have number : init.head? = some 30 := ((heads_u8 _ _).then appends_string) init built
  apply triple_bind (proposing_sparing.sends 30 (by simp) init number).failAs
  intro _
  apply triple_bind (waits R _ _ _).failAs
  rintro ⟨rx, m⟩
  apply stays_ensure_bind
  intro _
  apply stays_lift_bind
  intro reply read
  have lost : ∀ (e : Option NetnoxReturn) h, Breaks Lost Lost e h → Breaks (Sparing R) (Sparing R) e h := by
    intro e h lost
    cases e <;> exact lost.any
  apply triple_bind (Q := fun _ => Lost)
  · apply (takeReply_told priv pub m reply (readKexReply_filled read)).mono (fun _ => id) fun _ _ => Told.lost
    intro e h told
    cases e <;> exact told.lost.any
  rintro ⟨exchangeHash, secret⟩
  apply Triple.mono (P := Lost) (Q := fun _ => Lost) (E := Breaks Lost Lost) _ (fun _ => id) (fun _ _ => Sparing.any) lost
  apply triple_bind (proposing_sparing.sends 21 (by simp) [21] rfl).failAs
  intro _
  apply triple_bind (waits _ _ _ _).failAs
  rintro ⟨rx, _⟩
  apply stays_ensure_bind
  intro _
  apply triple_bind deriveKeys_lost.failAs
  intro _
  apply triple_bind (stays_modify fun h lost => (lost.told.update fun _ => rfl).lost)
  intro _
  exact stays_log fun h lost => (lost.told.log _).lost

theorem performWith_sparing {wait : UInt8 → UInt8 → Nat → Prog Client Arrival}
    (waits : ∀ R a b n, Stays (Sparing R) (Sparing R) (wait a b n)) :
    Stays (Sparing R) (Sparing R) (performWith noxtls env wait) := by
  unfold performWith
  apply triple_self_bind
  intro c
  apply stays_ensure_bind
  intro _
  apply triple_bind (stays_log fun h sparing => sparing.log (by simp [Unpresented, presents]))
  intro _
  exact triple_leaving (exchangeKeys_sparing waits) (fun _ h sparing => sparing.log (by simp [Unpresented, presents]))
    (fun _ h sparing => sparing.log (by simp [Unpresented, presents])) fun _ => id

theorem waitNested_sparing (depth : Nat) : ∀ R a b n,
    Stays (Sparing R) (Sparing R) (waitNested noxtls env depth a b n) := by
  induction depth with
  | zero =>
      intro R a b n
      exact triple_waitLoop (fun _ => id) sparing_asks proposing_sparing.receives
        (fun _ _ => triple_stall fun _ => id) a b n _
  | succ depth ih =>
      intro R a b n
      exact triple_waitLoop (fun _ => id) sparing_asks proposing_sparing.receives
        (proposing_sparing.handles (performWith_sparing ih)) a b n _

theorem performCurve25519Kex_sparing (R : Terms → Prop) :
    Stays (Sparing R) (Sparing R) (performCurve25519Kex noxtls env) :=
  performWith_sparing fun R a b n => triple_byInbox fun depth => waitNested_sparing depth R a b n

end Sparing

/-! ## The host key there was plays no part -/

section Earlier

variable {noxtls : Noxtls} {env : Env}

/-- Everything known of two contexts. -/
def same : Common := ⟨True, True, True, True, True, True, True, True⟩

theorem kin_earlier (earlier : List UInt8) (c : Client) : Kin same (setHostKeyBlob earlier c) c := by
  constructor <;> intros <;> first
    | rfl
    | exact ⟨rfl, rfl⟩
    | exact ⟨rfl, rfl, rfl⟩
    | exact ⟨rfl, rfl, rfl, rfl, rfl, rfl⟩

/-- The outcome is the same, and the same things happen. -/
theorem perform_earlier (earlier : List UInt8) (c : Client) (tick : Nat) (inbox : List UInt8) :
    ((performCurve25519Kex noxtls env).run ⟨setHostKeyBlob earlier c, tick, inbox, []⟩).1 =
      ((performCurve25519Kex noxtls env).run ⟨c, tick, inbox, []⟩).1 ∧
    ((performCurve25519Kex noxtls env).run ⟨setHostKeyBlob earlier c, tick, inbox, []⟩).2.trace.map Prod.fst =
      ((performCurve25519Kex noxtls env).run ⟨c, tick, inbox, []⟩).2.trace.map Prod.fst := by
  have even : Even same (performCurve25519Kex noxtls env) (performCurve25519Kex noxtls env) :=
    even_performCurve25519Kex trivial
  have run := even.twins.runs ⟨setHostKeyBlob earlier c, tick, inbox, []⟩ ⟨c, tick, inbox, []⟩
    ⟨kin_earlier earlier c, rfl, rfl, rfl⟩
  rcases run with ⟨e, -, miscounts⟩ | alike
  · exact absurd trivial miscounts.1
  revert alike
  rcases (performCurve25519Kex noxtls env).run ⟨setHostKeyBlob earlier c, tick, inbox, []⟩ with ⟨o, h⟩
  rcases (performCurve25519Kex noxtls env).run ⟨c, tick, inbox, []⟩ with ⟨o', h'⟩
  cases o <;> cases o' <;> try exact False.elim
  · rintro ⟨rfl, twinned⟩
    exact ⟨rfl, twinned.trace⟩
  · rintro ⟨rfl, twinned⟩
    exact ⟨rfl, twinned.trace⟩
  · exact fun twinned => ⟨rfl, twinned.trace⟩

end Earlier

/-! ## When a failed exchange spares the context -/

/-- An exchange from here fails. -/
def Fails (noxtls : Noxtls) (env : Env) (h : Host Client) : Prop :=
  ∃ e, ((performCurve25519Kex noxtls env).run h).1 = .err e

/-- In an exchange from here, or in one that the server begins meanwhile, a reply is taken. -/
def TakesReply (noxtls : Noxtls) (env : Env) (h : Host Client) : Prop :=
  ∃ e ∈ ((performCurve25519Kex noxtls env).run h).2.trace, presents e.1 ≠ none

/-- **A failed exchange spares the context if and only if it failed before a reply.**
Whatever the context had for a host key, it and all that earlier exchanges settled is as
before exactly if the exchange does not fail or fails with no reply taken. -/
theorem failed_exchange_spares_iff (noxtls : Noxtls) (env : Env) (c : Client) (tick : Nat) (inbox : List UInt8) :
    (∀ earlier, Spares noxtls env ⟨setHostKeyBlob earlier c, tick, inbox, []⟩) ↔
      (Fails noxtls env ⟨c, tick, inbox, []⟩ → ¬ TakesReply noxtls env ⟨c, tick, inbox, []⟩) := by
  have ends : ∀ earlier, Sparing (· = terms (setHostKeyBlob earlier c))
      ((performCurve25519Kex noxtls env).run ⟨setHostKeyBlob earlier c, tick, inbox, []⟩).2 := fun earlier =>
    (performCurve25519Kex_sparing _).keeps _ (.inr ⟨by simp, rfl⟩)
  have takes : ∀ earlier, TakesReply noxtls env ⟨setHostKeyBlob earlier c, tick, inbox, []⟩ ↔
      TakesReply noxtls env ⟨c, tick, inbox, []⟩ := by
    intro earlier
    have told : ∀ h, TakesReply noxtls env h ↔
        ∃ e ∈ ((performCurve25519Kex noxtls env).run h).2.trace.map Prod.fst, presents e ≠ none := fun h => by
      simp [TakesReply]
    rw [told, told, (perform_earlier earlier c tick inbox).2]
  constructor
  · rintro spares ⟨e, fails⟩ taken
    have fresh := (spares [] e ((perform_earlier [] c tick inbox).1.trans fails)).1
    rcases ends [] with told | ⟨none, -⟩
    · exact told.2 (congrArg Terms.serverHostKeyBlob fresh)
    · obtain ⟨e, mem, presented⟩ := (takes []).2 taken
      exact presented (none e mem)
  · intro untaken earlier e fails
    have before : terms ((performCurve25519Kex noxtls env).run ⟨setHostKeyBlob earlier c, tick, inbox, []⟩).2.self =
        terms (setHostKeyBlob earlier c) := by
      rcases ends earlier with told | ⟨-, kept⟩
      · exact absurd ((takes earlier).1 told.1) (untaken ⟨e, (perform_earlier earlier c tick inbox).1.symm.trans fails⟩)
      · exact kept
    refine ⟨before, fun len => ?_⟩
    have ready := congrArg Terms.serverHostKeyReady before
    have print := congrArg Terms.serverHostKeyFingerprint before
    simp only [terms] at ready print
    rw [getServerHostKeyFingerprint, getServerHostKeyFingerprint, ready, print]

namespace Probe

/-- A reply whose signature nobody made. -/
def forged : List UInt8 := replyWith (ed25519Blob (zeros 32)) (ed25519Blob (zeros 64))

/-- A fresh client that has exchanged KEXINITs, and the forged reply on its way. -/
def proposed : Host Client :=
  ⟨{ init 22 with connected := true, kexinitExchanged := true }, 0, sealAll noxtls ⟨false, [], [], [], 0⟩ [forged], []⟩

end Probe

/-- The signature is refused and the exchange fails, but its host key is now the one whose
fingerprint the client reports, and its hash stands in the session identifier. -/
theorem forged_reply_not_spared : ¬ ∀ (noxtls : Noxtls) (env : Env) (h : Host Client), Spares noxtls env h := by
  intro spares
  have refused : ((performCurve25519Kex Probe.noxtls Probe.brisk).run Probe.proposed).1 = .err .failed ∧
      ((performCurve25519Kex Probe.noxtls Probe.brisk).run Probe.proposed).2.self.serverHostKeyReady = true := by
    decide +kernel
  have before := (spares Probe.noxtls Probe.brisk Probe.proposed .failed refused.1).1
  have ready := congrArg Terms.serverHostKeyReady before
  simp only [terms] at ready
  rw [refused.2] at ready
  cases ready

end NoxSsh.Client
