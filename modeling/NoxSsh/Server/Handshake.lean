/-
# Server.Handshake — the server's half of the handshake

`srv_handshake_to_encrypted` in pieces, each up to the next time the server has to wait:
it says who it is, then its KEXINIT, then the reply and NEWKEYS, and then the rest.  In time,
a piece comes to its end if what the server waits for is on the way, whatever comes behind
it, and what has been said by then is said for good.
-/
import NoxSsh.Protocol.Dialogue
import NoxSsh.Protocol.Identification

namespace NoxSsh.Server

open Theory Proc Wire Transport Protocol

set_option autoImplicit false

/-! ## The pieces -/

section Pieces

variable (noxtls : Noxtls) (env : Env)

/-- `srv_perform_curve25519_kex` up to its NEWKEYS. -/
def respond : Prog Server Unit := do
  let s ← self
  ensure (s.kexinitExchanged = true ∧ s.hostKeyReady = true) .badParam
  let (init, m) ← failAs .failed (recvInto noxtls env 2048)
  ensure (init.head? = some 30) .failed
  let (clientPub, _) ← lift .failed (payloadReadStringView m init.length 1)
  ensure (clientPub.len = 32) .failed
  let reply ← replyTo noxtls env (clientPub.bytes m)
  failAs .failed (sendPacket noxtls env reply)
  failAs .failed (sendPacket noxtls env [21])

/-- Its rest. -/
def finish : Prog Server Unit := do
  let (rx, _) ← failAs .failed (recvInto noxtls env 64)
  ensure (rx.head? = some 21) .failed
  failAs .failed (deriveKeys noxtls env)
  modify setKeyExchangeComplete

/-- The handshake once the server has said who it is. -/
def shake : Prog Server Unit := do
  failAs .failed (exchangeKexinit noxtls env)
  failAs .failed (performCurve25519Kex noxtls env)

end Pieces

section Handshake

variable {noxtls : Noxtls} {env : Env} {said left : List (List UInt8)} {last : Lane} {rest : List UInt8} {s : Server}
  {h₀ h h' : Host Server}

theorem performCurve25519Kex_pieces :
    performCurve25519Kex noxtls env = respond noxtls env >>= fun _ => finish noxtls env := by
  unfold respond finish performCurve25519Kex
  simp only [bind_assoc_run]

theorem apart_setKexinitClient (payload : List UInt8) : Apart (setKexinitClient payload) :=
  ⟨fun _ => rfl, fun _ => rfl, fun _ => rfl⟩

theorem apart_setKexinitServer (payload : List UInt8) : Apart (setKexinitServer payload) :=
  ⟨fun _ => rfl, fun _ => rfl, fun _ => rfl⟩

theorem apart_setKexinitExchanged : Apart setKexinitExchanged := ⟨fun _ => rfl, fun _ => rfl, fun _ => rfl⟩

theorem apart_setExchange (exchangeHash secret : List UInt8) : Apart (setExchange exchangeHash secret) :=
  ⟨fun _ => rfl, fun _ => rfl, fun _ => rfl⟩

theorem failAs_bind {σ ε α β : Type} (e : ε) (m : Proc ε σ α) (k : α → Proc ε σ β) :
    failAs e (m >>= k) = failAs e m >>= fun a => failAs e (k a) := by
  have : ∀ s, (failAs e (m >>= k)).run s = (failAs e m >>= fun a => failAs e (k a)).run s := by
    intro s
    simp only [failAs_run, bind_run]
    rcases m.run s with ⟨o, s'⟩
    cases o <;> rfl
  exact congrArg Proc.mk (funext this)

/-! ## On a live connection -/

theorem buildKexinit_live (live : Live env) (h : Host Server) : ∃ cookie, cookie.length = 16 ∧
    (buildKexinit env).run h = (.ok (kexinitPayload algLists cookie), { h with tick := h.tick + 1 }) := by
  obtain ⟨bytes, random⟩ := Option.ne_none_iff_exists'.1 (live.random h.tick)
  have cookieLen : (slice bytes 0 16).length = 16 := length_slice _ _ _
  have size : (kexinitPayload algLists (slice bytes 0 16)).length ≤ 1024 :=
    (length_kexinit cookieLen).trans (by decide)
  have filled : (fillRandom env 16).run h = (.ok (slice bytes 0 16), { h with tick := h.tick + 1 }) := by
    rw [fillRandom, ask_bind_run, random]
    rfl
  refine ⟨_, cookieLen, ?_⟩
  rw [buildKexinit, bind_ok (failAs_ok filled), buildKexinitPayload_some size, lift_some]
  rfl

/-- The server reads who the client is and says who it is itself. -/
theorem handshakeToEncrypted_live (live : Live env) {ident : List UInt8} (isIdent : IsIdent ident) (short : ident.length ≤ 254)
    (ready : h.self.hostKeyReady = true) (inbox : h.inbox = txIdent ident ++ rest) :
    Continues Late (handshakeToEncrypted noxtls env) (shake noxtls env)
      (Moved (txIdent h.self.serverIdent) rest (setConnected (setClientIdent ident h.self)) h) h := by
  have stands : h.inbox = (ident ++ [13]) ++ 10 :: rest := by
    rw [inbox, isIdent.txIdent]
    simp
  have reads : Returns Late (recvLine env 256) (fun got h' => got = ident ∧ Took rest h h') h := by
    have line : Returns Late (recvLine env 256) (fun got h' => got = lineRead 255 (ident ++ [13]) ∧ Took rest h h') h :=
      recvLineWith_line live.recv (gate_deadline _) stands isIdent.clean
    rwa [isIdent.lineRead short] at line
  have nonempty : ident ≠ [] := by
    rintro rfl
    exact absurd isIdent.begins (by decide)
  have copies : copyString 256 ident = .ok ident := isIdent.accepted
  rw [handshakeToEncrypted]
  apply continues_of_run (self_bind_run _ _)
  apply continues_ensure_bind ready
  have named : Returns Late (readIdent env maxBannerLines)
      (fun _ h' => Moved [] rest (setClientIdent ident h.self) h h') h := by
    rw [maxBannerLines, readIdent]
    apply (reads.failAs _).bind
    rintro _ h₁ ⟨rfl, took⟩
    rw [if_pos isIdent.begins, copies]
    obtain ⟨self, inbox₁, grown⟩ := took.moved
    exact returns_of_run (modify_run _ _) ⟨by rw [self], inbox₁, grown⟩
  apply named.continues
  intro _ h₁ moved₁
  apply continues_of_run (self_bind_run _ _)
  apply continues_ensure_bind (by rw [moved₁.self]; exact nonempty)
  apply ((sendAll_live live.send _ h₁).failAs _).continues
  intro _ h₂ moved₂
  apply continues_of_run (modify_bind_run _ _ _)
  have whole := moved₁.trans moved₂
  rw [moved₁.self] at whole
  exact continues_here ⟨by rw [whole.self], by rw [whole.inbox, moved₁.inbox], whole.grown⟩

/-- It takes the client's KEXINIT and says its own. -/
theorem exchangeKexinit_live (sha : noxtls.shaInit = true) (ctr : CtrMode noxtls) (live : Live env) {kexinit : List UInt8}
    (connected : s.connected = true) (number : kexinit.head? = some 20) (short : kexinit.length ≤ maxKexinitPayloadLen)
    (valid : ∀ stale, (validateClientKexinit (memOf kexinit stale) kexinit.length).isOk = true)
    (leg : Leg noxtls said last (kexinit :: left) rest s h₀ h) :
    Returns Late (exchangeKexinit noxtls env) (fun _ h' => ∃ cookie, cookie.length = 16 ∧
      Leg noxtls (said ++ [kexinitPayload algLists cookie]) last left rest
        (setKexinitExchanged (setKexinitServer (kexinitPayload algLists cookie) (setKexinitClient kexinit s))) h₀ h') h := by
  rw [exchangeKexinit]
  apply returns_self_bind
  apply returns_ensure_bind ((@eq_of_core _ (fun s => s.connected) (fun _ => rfl) _ _ leg.same).trans connected)
  apply ((hears_leg ctr live (Nat.le_trans short (by decide)) leg).failAs _).bind
  rintro _ h₁ ⟨⟨stale, rfl⟩, leg₁⟩
  apply returns_ensure_bind number
  apply returns_ensure_bind short
  apply modify_leg leg₁ (apart_setKexinitClient kexinit)
  intro h₂ leg₂
  apply returns_ensure_bind (valid stale)
  obtain ⟨cookie, cookieLen, builds⟩ := buildKexinit_live live h₂
  have size : (kexinitPayload algLists cookie).length ≤ 1024 :=
    (length_kexinit cookieLen).trans (by decide)
  generalize buildKexinit env = build at builds ⊢
  apply returns_bind_of_run (failAs_ok builds)
  apply returns_ensure_bind (Nat.le_trans size (by decide))
  apply modify_leg leg₂.asked (apart_setKexinitServer _)
  intro h₃ leg₃
  apply ((says_leg sha ctr live (List.cons_ne_nil _ _) (Nat.le_trans size (by decide)) leg₃).failAs _).bind
  intro _ h₄ leg₄
  exact returns_of_run (modify_run _ _) ⟨cookie, cookieLen, leg₄.modified apart_setKexinitExchanged⟩

/-- A reply as the server with this context makes it. -/
structure Replies (noxtls : Noxtls) (s : Server) (clientPub serverPub exchangeHash secret signature : List UInt8) : Prop where
  agreed : ∃ seed, noxtls.x25519PublicKey (noxtls.x25519ClampScalar seed) = some serverPub ∧
    noxtls.x25519SharedSecret (noxtls.x25519ClampScalar seed) clientPub = some secret
  hashed : computeExchangeHash noxtls s.clientIdent s.serverIdent s.kexinitClientPayload s.kexinitServerPayload
    (ed25519Blob s.hostEd25519Pk) clientPub serverPub secret = some exchangeHash
  signed : noxtls.ed25519Sign s.hostEd25519Sk exchangeHash = some signature

theorem replyTo_leg (sha : noxtls.shaInit = true) (agreement : KeyAgreement noxtls) (scheme : SignatureScheme noxtls)
    (live : Live env) {t : Nat} {priv clientPub : List UInt8} (drawn : noxtls.x25519GenerateKey t = some (priv, clientPub))
    (hostKey : noxtls.ed25519PublicKey s.hostEd25519Sk = some s.hostEd25519Pk)
    (room : s.clientIdent.length + s.serverIdent.length + s.kexinitClientPayload.length +
      s.kexinitServerPayload.length ≤ 3900) (leg : Leg noxtls said last left rest s h₀ h) :
    Returns Late (replyTo noxtls env clientPub) (fun got h' => ∃ serverPub exchangeHash secret signature,
      Replies noxtls s clientPub serverPub exchangeHash secret signature ∧
      got = replyPayload s.hostEd25519Pk serverPub signature ∧
      Leg noxtls said last left rest (setExchange exchangeHash secret s) h₀ h') h := by
  obtain ⟨bytes, random⟩ := Option.ne_none_iff_exists'.1 (live.random h.tick)
  have filled : (fillRandom env 32).run h = (.ok (slice bytes 0 32), { h with tick := h.tick + 1 }) := by
    rw [fillRandom, ask_bind_run, random]
    rfl
  generalize slice bytes 0 32 = seed at filled
  obtain ⟨serverPub, published⟩ := agreement.publishes seed
  obtain ⟨secret, -, shared⟩ := agreement.secret t priv clientPub seed serverPub drawn published
  have keyLen := noxtls.length_ed25519PublicKey _ _ hostKey
  have clientPubLen := (noxtls.length_x25519GenerateKey _ _ _ drawn).2
  have serverPubLen := noxtls.length_x25519PublicKey _ _ published
  have secretLen := noxtls.length_x25519SharedSecret _ _ _ shared
  have hashed := @computeExchangeHash_some noxtls sha s.clientIdent s.serverIdent s.kexinitClientPayload
    s.kexinitServerPayload (ed25519Blob s.hostEd25519Pk) clientPub serverPub secret (by simp; omega)
  generalize noxtls.sha256 _ = exchangeHash at hashed
  obtain ⟨signature, signed, -⟩ := scheme.signs _ _ exchangeHash hostKey
  have signatureLen := noxtls.length_ed25519Sign _ _ _ signed
  have asked := leg.asked
  generalize { h with tick := h.tick + 1 } = h₁ at filled asked
  rw [replyTo]
  apply returns_bind_of_run (failAs_ok filled)
  apply returns_lift_bind published
  apply returns_lift_bind shared
  apply returns_self_bind
  rw [@eq_of_core _ (fun s => s.hostEd25519Pk) (fun _ => rfl) _ _ asked.same]
  rw [@eq_of_core _ (fun s => s.hostEd25519Sk) (fun _ => rfl) _ _ asked.same]
  rw [@eq_of_core _ (fun s => s.clientIdent) (fun _ => rfl) _ _ asked.same]
  rw [@eq_of_core _ (fun s => s.serverIdent) (fun _ => rfl) _ _ asked.same]
  rw [@eq_of_core _ (fun s => s.kexinitClientPayload) (fun _ => rfl) _ _ asked.same]
  rw [@eq_of_core _ (fun s => s.kexinitServerPayload) (fun _ => rfl) _ _ asked.same]
  apply returns_lift_bind (buildEd25519Blob_some (by omega))
  apply returns_lift_bind hashed
  apply modify_leg asked (apart_setExchange exchangeHash secret)
  intro h₂ leg₂
  apply returns_lift_bind signed
  apply returns_lift_bind (buildEd25519Blob_some (by omega))
  have builds : buildKexReply (ed25519Blob s.hostEd25519Pk) serverPub (ed25519Blob signature) =
      some (replyPayload s.hostEd25519Pk serverPub signature) := buildKexReply_some (by simp; omega)
  rw [builds]
  exact returns_of_run rfl
    ⟨serverPub, exchangeHash, secret, signature, ⟨⟨seed, published, shared⟩, hashed, signed⟩, rfl, leg₂⟩

/-- It takes the client's public value, and says the reply and NEWKEYS. -/
theorem respond_live (sha : noxtls.shaInit = true) (ctr : CtrMode noxtls) (agreement : KeyAgreement noxtls)
    (scheme : SignatureScheme noxtls) (live : Live env) {t : Nat} {priv clientPub : List UInt8}
    (drawn : noxtls.x25519GenerateKey t = some (priv, clientPub)) (exchanged : s.kexinitExchanged = true)
    (ready : s.hostKeyReady = true) (hostKey : noxtls.ed25519PublicKey s.hostEd25519Sk = some s.hostEd25519Pk)
    (room : s.clientIdent.length + s.serverIdent.length + s.kexinitClientPayload.length +
      s.kexinitServerPayload.length ≤ 3900) (leg : Leg noxtls said last (initPayload clientPub :: left) rest s h₀ h) :
    Returns Late (respond noxtls env) (fun _ h' => ∃ serverPub exchangeHash secret signature,
      Replies noxtls s clientPub serverPub exchangeHash secret signature ∧
      Leg noxtls (said ++ [replyPayload s.hostEd25519Pk serverPub signature] ++ [[21]]) last left rest
        (setExchange exchangeHash secret s) h₀ h') h := by
  have clientPubLen := (noxtls.length_x25519GenerateKey _ _ _ drawn).2
  have keyLen := noxtls.length_ed25519PublicKey _ _ hostKey
  have initLen : (initPayload clientPub).length = 37 := by simp [initPayload, clientPubLen]
  rw [respond]
  apply returns_self_bind
  apply returns_ensure_bind
  · rw [@eq_of_core _ (fun s => s.kexinitExchanged) (fun _ => rfl) _ _ leg.same]
    rw [@eq_of_core _ (fun s => s.hostKeyReady) (fun _ => rfl) _ _ leg.same]
    exact ⟨exchanged, ready⟩
  apply ((hears_leg ctr live (by rw [initLen]; decide) leg).failAs _).bind
  rintro _ h₁ ⟨⟨stale, rfl⟩, leg₁⟩
  have stands : Holds (memOf (initPayload clientPub) stale) 1 (sshString clientPub) :=
    (holds_append.1 (holds_memOf (initPayload clientPub) stale)).2
  have reads := @payloadReadStringView_holds _ (initPayload clientPub).length _ _ stands
    (by rw [initLen, clientPubLen]) (by rw [initLen]; decide)
  apply returns_ensure_bind rfl
  apply returns_lift_bind reads
  apply returns_ensure_bind clientPubLen
  rw [view_sshString stands]
  apply (replyTo_leg sha agreement scheme live drawn hostKey room leg₁).bind
  rintro _ h₂ ⟨serverPub, exchangeHash, secret, signature, replies, rfl, leg₂⟩
  obtain ⟨seed, published, -⟩ := replies.agreed
  have replyLen := @length_replyPayload s.hostEd25519Pk serverPub signature keyLen
    (noxtls.length_x25519PublicKey _ _ published) (noxtls.length_ed25519Sign _ _ _ replies.signed)
  have small : (replyPayload s.hostEd25519Pk serverPub signature).length ≤ 34980 := by rw [replyLen]; decide
  apply ((says_leg sha ctr live (List.cons_ne_nil _ _) small leg₂).failAs _).bind
  intro _ h₃ leg₃
  apply ((says_leg sha ctr live (List.cons_ne_nil _ _) (by decide) leg₃).failAs _).mono
  exact fun _ h₄ leg₄ => ⟨serverPub, exchangeHash, secret, signature, replies, leg₄⟩

theorem shake_live (sha : noxtls.shaInit = true) (ctr : CtrMode noxtls) (live : Live env) {kexinit : List UInt8}
    (connected : s.connected = true) (number : kexinit.head? = some 20) (short : kexinit.length ≤ maxKexinitPayloadLen)
    (valid : ∀ stale, (validateClientKexinit (memOf kexinit stale) kexinit.length).isOk = true)
    (leg : Leg noxtls said last (kexinit :: left) rest s h₀ h) :
    Continues Late (shake noxtls env) (failAs .failed (performCurve25519Kex noxtls env)) (fun h' => ∃ cookie, cookie.length = 16 ∧
      Leg noxtls (said ++ [kexinitPayload algLists cookie]) last left rest
        (setKexinitExchanged (setKexinitServer (kexinitPayload algLists cookie) (setKexinitClient kexinit s))) h₀ h') h :=
  ((exchangeKexinit_live sha ctr live connected number short valid leg).failAs _).continues
    fun _ _ post => continues_here post

theorem perform_live (sha : noxtls.shaInit = true) (ctr : CtrMode noxtls) (agreement : KeyAgreement noxtls)
    (scheme : SignatureScheme noxtls) (live : Live env) {t : Nat} {priv clientPub : List UInt8}
    (drawn : noxtls.x25519GenerateKey t = some (priv, clientPub)) (exchanged : s.kexinitExchanged = true)
    (ready : s.hostKeyReady = true) (hostKey : noxtls.ed25519PublicKey s.hostEd25519Sk = some s.hostEd25519Pk)
    (room : s.clientIdent.length + s.serverIdent.length + s.kexinitClientPayload.length +
      s.kexinitServerPayload.length ≤ 3900) (leg : Leg noxtls said last (initPayload clientPub :: left) rest s h₀ h) :
    Continues Late (failAs .failed (performCurve25519Kex noxtls env)) (failAs .failed (finish noxtls env))
      (fun h' => ∃ serverPub exchangeHash secret signature, Replies noxtls s clientPub serverPub exchangeHash secret signature ∧
        Leg noxtls (said ++ [replyPayload s.hostEd25519Pk serverPub signature] ++ [[21]]) last left rest
          (setExchange exchangeHash secret s) h₀ h') h := by
  rw [performCurve25519Kex_pieces, failAs_bind]
  apply ((respond_live sha ctr agreement scheme live drawn exchanged ready hostKey room leg).failAs _).continues
  exact fun _ _ post => continues_here post

/-- The rest of the handshake, NEWKEYS being on the way. -/
theorem finish_live (sha : noxtls.shaInit = true) (ctr : CtrMode noxtls) (live : Live env)
    (secretLen : s.sharedSecretRaw.length = 32) (hashLen : s.sessionId.length = 32) (idLen : s.sessionIdLen = 32)
    (leg : Leg noxtls said last ([21] :: left) rest s h₀ h) :
    Returns Late (finish noxtls env) (fun _ h' => ∃ h₁, Leg noxtls said last left rest s h₀ h₁ ∧
      h'.self = setKeyExchangeComplete
        (setKeys (rfcKeys noxtls (encodedSecret env.rawKeyDerivation s.sharedSecretRaw) s.sessionId s.sessionId) h₁.self) ∧
      h'.trace = h₁.trace ∧ h'.inbox = h₁.inbox) h := by
  rw [finish]
  apply ((hears_leg ctr live (by decide) leg).failAs _).bind
  rintro _ h₁ ⟨⟨stale, rfl⟩, leg₁⟩
  have derived : (deriveKeys noxtls env).run h₁ = (.ok (), { h₁ with
      self := setKeys (rfcKeys noxtls (encodedSecret env.rawKeyDerivation s.sharedSecretRaw) s.sessionId s.sessionId) h₁.self }) := by
    rw [deriveKeys, self_bind_run]
    rw [@eq_of_core _ (fun s => s.sessionIdLen) (fun _ => rfl) _ _ leg₁.same]
    rw [@eq_of_core _ (fun s => s.sharedSecretRaw) (fun _ => rfl) _ _ leg₁.same]
    rw [@eq_of_core _ (fun s => s.sessionId) (fun _ => rfl) _ _ leg₁.same]
    rw [ensure_bind_pos (by rw [idLen]; decide), idLen, List.take_of_length_le (Nat.le_of_eq hashLen),
      deriveTransportKeys_some sha secretLen hashLen]
    rfl
  apply returns_ensure_bind rfl
  apply returns_bind_of_run (failAs_ok derived)
  exact returns_of_run (modify_run _ _) ⟨h₁, leg₁, rfl, rfl, rfl⟩

/-! ## What has been said stays said -/

theorem chatter_any : KexChatter fun _ => True :=
  ⟨⟨⟨fun _ => trivial, trivial, trivial⟩, fun _ _ => trivial, fun _ _ => trivial⟩, ⟨fun _ => trivial, fun _ => trivial⟩,
    fun _ _ => ⟨trivial, trivial⟩, fun _ _ => ⟨trivial, trivial⟩, fun _ _ => ⟨trivial, trivial⟩⟩

theorem unkeyed_unit : Unkeyed fun _ : Server => () := by
  constructor <;> (try apply Passive.of_fields) <;> intros <;> rfl

/-- The run `h` follows `h₀`. -/
abbrev Onward (h₀ h : Host Server) : Prop := Quiet (fun _ => True) (fun _ : Server => ()) h₀ h

theorem always_shake : Always Onward (shake noxtls env) :=
  always_bind (quiet_order _ _) (always_failAs _ (always_exchangeKexinit chatter_any unkeyed_unit))
    fun _ => always_failAs _ (always_performCurve25519Kex chatter_any unkeyed_unit)

theorem always_perform : Always Onward (failAs .failed (performCurve25519Kex noxtls env)) :=
  always_failAs _ (always_performCurve25519Kex chatter_any unkeyed_unit)

theorem always_finish : Always Onward (failAs .failed (finish noxtls env)) := by
  have order := quiet_order (fun _ => True) fun _ : Server => ()
  have receives : ∀ payloadMax, Always Onward (recvInto noxtls env payloadMax) :=
    always_recvInto chatter_any.toBackground unkeyed_unit.toPassive chatter_any.toHearing
  apply always_failAs
  refine always_bind order (always_failAs _ (receives _)) fun got => ?_
  refine always_bind order (always_ensure order _ _) fun _ => ?_
  refine always_bind order (always_failAs _ ?_) fun _ => always_modify unkeyed_unit.setKeyExchangeComplete
  refine always_bind order always_self fun s => ?_
  refine always_bind order (always_ensure order _ _) fun _ => ?_
  exact always_bind order (always_lift order _ _) fun keys => always_modify (unkeyed_unit.setKeys keys)

end Handshake

end NoxSsh.Server
