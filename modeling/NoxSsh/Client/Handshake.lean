/-
# Client.Handshake — the client's half of a first exchange

`netnox_ssh_client_connect` in pieces, each up to the next time the client has to wait:
it says who it is, then its KEXINIT, then its public value, and then the rest.  A piece
comes to its end if what the client waits for is on the way, whatever comes behind it, and
what has been said by then is said for good.
-/
import NoxSsh.Client.Conduct
import NoxSsh.Protocol.Dialogue
import NoxSsh.Protocol.Identification
import NoxSsh.Protocol.Login

namespace NoxSsh.Client

open Theory Proc Wire Transport Protocol

set_option autoImplicit false

/-! ## The pieces of the exchange -/

section Pieces

variable (noxtls : Noxtls) (env : Env)

/-- `netnox_ssh_exchange_kexinit` up to the packet that should be the server's KEXINIT. -/
def offer : Prog Client Unit := do
  ensure ((← self).connected = true) .badParam
  let tx ← failAs .failed (buildKexinit env)
  ensure (tx.length ≤ maxKexinitPayloadLen) .failed
  modify (setKexinitClient tx)
  failAs .failed (sendPacket noxtls env tx)

/-- It takes that packet. -/
def heed : Prog Client Unit := do
  let (rx, m) ← failAs .failed (recvInto noxtls env maxPacketLen)
  ensure (rx.head? = some 20) .failed
  ensure (rx.length ≤ maxKexinitPayloadLen) .failed
  modify (setKexinitServer rx)
  ensure ((validateServerKexinit m rx.length).isOk = true) .failed
  modify setKexinitExchanged

/-- `netnox_ssh_perform_curve25519_kex` once its public value is out. -/
def finish (priv pub : List UInt8) : Prog Client Unit := do
  let (rx, m) ← failAs .failed (waitForMessage noxtls env 31 255 2048)
  ensure (rx.head? = some 31) .failed
  let reply ← lift .failed (readKexReply m rx.length)
  let (exchangeHash, secret) ← takeReply noxtls priv pub m reply
  failAs .failed (sendPacket noxtls env [21])
  let (rx, _) ← failAs .failed (waitForMessage noxtls env 21 255 2048)
  ensure (rx.head? = some 21) .failed
  failAs .failed (deriveKeys noxtls env)
  modify setKeyExchangeComplete
  log (.kexDone exchangeHash secret)

end Pieces

section Handshake

variable {noxtls : Noxtls} {env : Env} {said left : List (List UInt8)} {last : Lane} {rest : List UInt8} {c : Client}
  {h₀ h h' : Host Client}

theorem apart_setKexinitClient (payload : List UInt8) : Apart (setKexinitClient payload) :=
  ⟨fun _ => rfl, fun _ => rfl, fun _ => rfl⟩

theorem apart_setKexinitServer (payload : List UInt8) : Apart (setKexinitServer payload) :=
  ⟨fun _ => rfl, fun _ => rfl, fun _ => rfl⟩

theorem apart_setKexinitExchanged : Apart setKexinitExchanged := ⟨fun _ => rfl, fun _ => rfl, fun _ => rfl⟩

theorem apart_setHostKeyBlob (blob : List UInt8) : Apart (setHostKeyBlob blob) := ⟨fun _ => rfl, fun _ => rfl, fun _ => rfl⟩

theorem apart_setFingerprint (fingerprint : List UInt8) : Apart (setFingerprint fingerprint) :=
  ⟨fun _ => rfl, fun _ => rfl, fun _ => rfl⟩

theorem apart_setExchangeHash (exchangeHash : List UInt8) : Apart (setExchangeHash exchangeHash) :=
  ⟨fun _ => rfl, fun _ => rfl, fun _ => rfl⟩

theorem apart_setSecret (secret : List UInt8) : Apart (setSecret secret) := ⟨fun _ => rfl, fun _ => rfl, fun _ => rfl⟩

/-- What the client keeps of a reply. -/
def taken (blob fingerprint exchangeHash secret : List UInt8) (c : Client) : Client :=
  setSecret secret (setExchangeHash exchangeHash (setFingerprint fingerprint (setHostKeyBlob blob c)))

theorem exchangeKexinit_pieces : exchangeKexinit noxtls env =
    offer noxtls env >>= fun _ => heed noxtls env >>= fun _ => performCurve25519Kex noxtls env := by
  unfold offer heed exchangeKexinit
  -- Variables in their place keep the kernel from computing the name lists.
  obtain ⟨build, built⟩ : ∃ build, build = buildKexinit env := ⟨_, rfl⟩
  obtain ⟨valid, validates⟩ : ∃ valid, valid = validateServerKexinit := ⟨_, rfl⟩
  obtain ⟨perform, performs⟩ : ∃ perform, perform = performCurve25519Kex noxtls env := ⟨_, rfl⟩
  rw [← built, ← validates, ← performs]
  simp only [bind_assoc_run]

theorem exchangeKeys_pieces : exchangeKeys noxtls env (waitForMessage noxtls env) = (do
    let generated ← ask noxtls.x25519GenerateKey
    let (priv, pub) ← lift .failed generated
    let init ← lift .failed (payloadAppendU8 128 30 [] >>= payloadAppendString 128 pub)
    failAs .failed (sendPacket noxtls env init)
    finish noxtls env priv pub) := rfl

theorem continues_client {m next : Prog Client Unit} {Q : Host Client → Prop} (continues : Continues Late m next Q h) :
    ∃ h', Q h' ∧ m.run h = next.run h' :=
  continues.resolve_right id

/-- The client says who it is. -/
theorem connect_live (live : Live env) (named : h.self.clientIdent ≠ []) :
    Continues Late (connect noxtls env) (readIdent noxtls env maxBannerLines)
      (Moved (txIdent h.self.clientIdent) h.inbox h.self h) h := by
  unfold connect
  apply continues_of_run (self_bind_run _ _)
  apply continues_ensure_bind named
  exact ((sendAll_live live.send _ h).failAs _).continues fun _ _ moved => continues_here moved

/-- It reads who the server is. -/
theorem identLoop_live (live : Live env) {ident : List UInt8} (isIdent : IsIdent ident) (short : ident.length ≤ 254)
    (lines : Nat) (inbox : h.inbox = txIdent ident ++ rest) : ∃ h', (identLoop env (lines + 1)).run h = (.ok (), h') ∧
      Moved [] rest (setConnected (setServerIdent ident h.self)) h h' := by
  have stands : h.inbox = (ident ++ [13]) ++ 10 :: rest := by
    rw [inbox, isIdent.txIdent]
    simp
  obtain ⟨h', ran, took⟩ := client_line live.recv stands isIdent.clean
  rw [isIdent.lineRead short] at ran
  obtain ⟨self, left, grown⟩ := took.moved
  refine ⟨{ h' with self := setConnected (setServerIdent ident h'.self) }, ?_, by rw [self], left, grown⟩
  rw [identLoop, bind_ok (attempt_ok ran)]
  dsimp only
  rw [modify_bind_run, if_pos isIdent.begins]
  rfl

theorem buildKexinit_live (h : Host Client) : ∃ cookie, cookie.length = 16 ∧
    (buildKexinit env).run h = (.ok (kexinitPayload algLists cookie), { h with tick := h.tick + 1 }) := by
  have cookieLen : (slice (env.rand h.tick) 0 16).length = 16 := length_slice _ _ _
  have size : (kexinitPayload algLists (slice (env.rand h.tick) 0 16)).length ≤ 1024 :=
    (length_kexinit cookieLen).trans (by decide)
  refine ⟨_, cookieLen, ?_⟩
  rw [buildKexinit_run, buildKexinitPayload_some size, lift_some, pure_run]

theorem offer_live (sha : noxtls.shaInit = true) (ctr : CtrMode noxtls) (live : Live env) (connected : h.self.connected = true)
    (leg : Leg noxtls said last left rest c h₀ h) :
    Returns Late (offer noxtls env) (fun _ h' => ∃ cookie, cookie.length = 16 ∧
      Leg noxtls (said ++ [kexinitPayload algLists cookie]) last left rest
        (setKexinitClient (kexinitPayload algLists cookie) c) h₀ h') h := by
  obtain ⟨cookie, cookieLen, builds⟩ := @buildKexinit_live env h
  have size : (kexinitPayload algLists cookie).length ≤ 1024 :=
    (length_kexinit cookieLen).trans (by decide)
  unfold offer
  generalize buildKexinit env = build at builds ⊢
  apply returns_self_bind
  apply returns_ensure_bind connected
  apply returns_bind_of_run (failAs_ok builds)
  apply returns_ensure_bind (Nat.le_trans size (by decide))
  apply modify_leg leg.asked (apart_setKexinitClient _)
  intro h₁ leg₁
  apply ((says_leg sha ctr live (List.cons_ne_nil _ _) (Nat.le_trans size (by decide)) leg₁).failAs _).mono
  exact fun _ _ leg => ⟨cookie, cookieLen, leg⟩

theorem heed_live (ctr : CtrMode noxtls) (live : Live env) {kexinit : List UInt8} (number : kexinit.head? = some 20)
    (short : kexinit.length ≤ maxKexinitPayloadLen)
    (valid : ∀ stale, (validateServerKexinit (memOf kexinit stale) kexinit.length).isOk = true)
    (leg : Leg noxtls said last (kexinit :: left) rest c h₀ h) :
    Returns Late (heed noxtls env)
      (fun _ h' => Leg noxtls said last left rest (setKexinitExchanged (setKexinitServer kexinit c)) h₀ h') h := by
  unfold heed
  apply ((hears_leg ctr live (Nat.le_trans short (by decide)) leg).failAs _).bind
  rintro _ h₁ ⟨⟨stale, rfl⟩, leg₁⟩
  apply returns_ensure_bind number
  apply returns_ensure_bind short
  apply returns_modify_bind
  apply returns_ensure_bind (valid stale)
  exact returns_of_run (modify_run _ _)
    ((leg₁.modified (apart_setKexinitServer kexinit)).modified apart_setKexinitExchanged)

theorem continues_leaving {event : Bool → Event} {m next : Prog Client Unit} {Q : Host Client → Prop}
    (continues : Continues Late m next Q h) : Continues Late (leaving event m) (leaving event next) Q h := by
  rcases continues with ⟨h', post, same⟩ | never
  · refine .inl ⟨h', post, ?_⟩
    rw [leaving, leaving, ending_run, ending_run, same]
  · exact never.elim

/-- The client draws a key pair and says its public value. -/
theorem perform_live (sha : noxtls.shaInit = true) (ctr : CtrMode noxtls) (live : Live env) {priv pub : List UInt8}
    (exchanged : h.self.kexinitExchanged = true) (drawn : noxtls.x25519GenerateKey h.tick = some (priv, pub))
    (leg : Leg noxtls said last left rest c h₀ h) :
    Continues Late (performCurve25519Kex noxtls env) (leaving .kexLeft (finish noxtls env priv pub))
      (fun h' => Leg noxtls (said ++ [initPayload pub]) last left rest c h₀ h') h := by
  obtain ⟨-, pubLen⟩ := noxtls.length_x25519GenerateKey _ _ _ drawn
  have builds : (payloadAppendU8 128 30 [] >>= payloadAppendString 128 pub) = some (initPayload pub) := by
    rw [payloadAppendU8_some (by decide), Option.bind_eq_bind, Option.bind_some, payloadAppendString_some (by simp [pubLen])]
    rfl
  apply continues_of_run (self_bind_run _ _)
  apply continues_ensure_bind exchanged
  apply continues_of_run (log_bind_run _ _ _)
  apply continues_leaving
  obtain ⟨finishing, finishes⟩ : ∃ finishing, finishing = finish noxtls env := ⟨_, rfl⟩
  rw [exchangeKeys_pieces, ← finishes]
  apply continues_of_run (ask_bind_run _ _ _)
  apply continues_lift_bind drawn
  apply continues_lift_bind builds
  have asked := (leg.logged (e := .kexEntered) rfl).asked
  apply ((says_leg sha ctr live (List.cons_ne_nil _ _) (by simp [pubLen]) asked).failAs _).continues
  exact fun _ _ leg => continues_here leg

/-- The three strings of a reply, where they stand. -/
theorem reads_reply {hostKey serverPub signature : List UInt8} (keyLen : hostKey.length = 32) (pubLen : serverPub.length = 32)
    (signatureLen : signature.length = 64) (stale : Mem) :
    let m := memOf (replyPayload hostKey serverPub signature) stale
    readKexReply m (replyPayload hostKey serverPub signature).length = some ⟨⟨5, 51⟩, ⟨60, 32⟩, ⟨96, 83⟩⟩ ∧
      Holds m 5 (ed25519Blob hostKey) ∧ View.bytes ⟨60, 32⟩ m = serverPub ∧ Holds m 96 (ed25519Blob signature) := by
  have length := length_replyPayload keyLen pubLen signatureLen
  have whole := holds_memOf (replyPayload hostKey serverPub signature) stale
  dsimp only
  generalize memOf (replyPayload hostKey serverPub signature) stale = m at whole ⊢
  rw [replyPayload] at whole
  obtain ⟨front, third⟩ := holds_append.1 whole
  obtain ⟨front, second⟩ := holds_append.1 front
  obtain ⟨-, first⟩ := holds_append.1 front
  simp only [List.length_append, length_sshString, List.length_cons, List.length_nil, length_ed25519Blob, keyLen,
    pubLen] at first second third
  obtain ⟨readBlob, -⟩ := reads_string 5 51 56 179 first rfl (by simp [keyLen]) rfl (by decide) (by decide)
  obtain ⟨readPub, showPub⟩ := reads_string 60 32 92 179 second rfl (by simp [pubLen]) rfl (by decide) (by decide)
  obtain ⟨readSig, -⟩ := reads_string 96 83 179 179 third rfl (by simp [signatureLen]) rfl (by decide) (by decide)
  refine ⟨?_, (holds_append.1 first).2, showPub, (holds_append.1 third).2⟩
  rw [length, readKexReply, readBlob, Option.bind_eq_bind, Option.bind_some]
  dsimp only
  rw [readPub, Option.bind_some]
  dsimp only
  rw [readSig, Option.bind_some]
  decide

/-- The reply as the client with this context takes it. -/
structure Takes (noxtls : Noxtls) (c : Client) (priv pub : List UInt8) (m : Mem) (reply : KexReply)
    (blob exchangeHash secret : List UInt8) : Prop where
  presents : reply.hostKeyBlob.bytes m = blob
  agreed : noxtls.x25519SharedSecret priv (reply.serverPub.bytes m) = some secret
  hashed : computeExchangeHash noxtls c.clientIdent c.serverIdent c.kexinitClientPayload c.kexinitServerPayload
    blob pub (reply.serverPub.bytes m) secret = some exchangeHash
  signed : (verifyServerHostKeySignature noxtls m reply.hostKeyBlob reply.signature exchangeHash).isOk = true

theorem takeReply_leg (sha : noxtls.shaInit = true) {priv pub blob exchangeHash secret : List UInt8} {m : Mem}
    {reply : KexReply} (takes : Takes noxtls c priv pub m reply blob exchangeHash secret)
    (leg : Leg noxtls said last left rest c h₀ h) :
    Returns Late (takeReply noxtls priv pub m reply) (fun got h' => got = (exchangeHash, secret) ∧
      Leg noxtls said last left rest (taken blob (noxtls.sha256 blob) exchangeHash secret c) h₀ h') h := by
  have fingerprint : noxtls.hash blob = some (noxtls.sha256 blob) := if_pos sha
  unfold takeReply
  rw [takes.presents]
  apply log_leg leg rfl
  intro h₁ leg₁
  apply modify_leg leg₁ (apart_setHostKeyBlob blob)
  intro h₂ leg₂
  apply returns_lift_bind fingerprint
  apply modify_leg leg₂ (apart_setFingerprint (noxtls.sha256 blob))
  intro h₃ leg₃
  apply returns_lift_bind takes.agreed
  apply returns_self_bind
  have hashed : computeExchangeHash noxtls h₃.self.clientIdent h₃.self.serverIdent h₃.self.kexinitClientPayload
      h₃.self.kexinitServerPayload blob pub (reply.serverPub.bytes m) secret = some exchangeHash := by
    rw [@eq_of_core _ (fun c => c.clientIdent) (fun _ => rfl) _ _ leg₃.same]
    rw [@eq_of_core _ (fun c => c.serverIdent) (fun _ => rfl) _ _ leg₃.same]
    rw [@eq_of_core _ (fun c => c.kexinitClientPayload) (fun _ => rfl) _ _ leg₃.same]
    rw [@eq_of_core _ (fun c => c.kexinitServerPayload) (fun _ => rfl) _ _ leg₃.same]
    exact takes.hashed
  apply returns_lift_bind hashed
  apply modify_leg leg₃ (apart_setExchangeHash exchangeHash)
  intro h₄ leg₄
  apply returns_ensure_bind takes.signed
  apply log_leg leg₄ rfl
  intro h₅ leg₅
  apply modify_leg leg₅ (apart_setSecret secret)
  intro h₆ leg₆
  exact returns_of_run (pure_run _ _) ⟨rfl, leg₆⟩

/-- The rest of the exchange, the reply and NEWKEYS being on the way.  What the reply comes to
may depend on what stands behind it in the buffer; `Kept` says what does not. -/
theorem finish_live (sha : noxtls.shaInit = true) (ctr : CtrMode noxtls) (live : Live env) {priv pub reply : List UInt8}
    {Kept : List UInt8 → List UInt8 → List UInt8 → Prop} (number : reply.head? = some 31) (short : reply.length ≤ 2048)
    (reads : ∀ stale, ∃ read blob exchangeHash secret, readKexReply (memOf reply stale) reply.length = some read ∧
      Takes noxtls c priv pub (memOf reply stale) read blob exchangeHash secret ∧ Kept blob exchangeHash secret)
    (leg : Leg noxtls said last (reply :: [21] :: left) rest c h₀ h) :
    Returns Late (finish noxtls env priv pub) (fun _ h' => ∃ blob exchangeHash secret h₁, Kept blob exchangeHash secret ∧
      Leg noxtls (said ++ [[21]]) last left rest (taken blob (noxtls.sha256 blob) exchangeHash secret c) h₀ h₁ ∧
      h'.self = setKeyExchangeComplete
        (setKeys (rfcKeys noxtls (encodedSecret env.rawKeyDerivation secret) exchangeHash exchangeHash) h₁.self) ∧
      wireOf h'.trace = wireOf h₁.trace ∧ h'.inbox = h₁.inbox) h := by
  unfold finish
  apply ((waits_leg ctr live number (.inl rfl) (by decide) short (by decide) leg).failAs _).bind
  rintro _ h₁ ⟨⟨stale, rfl⟩, leg₁⟩
  obtain ⟨read, blob, exchangeHash, secret, is, takes, kept⟩ := reads stale
  have secretLen := noxtls.length_x25519SharedSecret _ _ _ takes.agreed
  have hashLen := length_exchangeHash takes.hashed
  apply returns_ensure_bind number
  apply returns_lift_bind is
  apply (takeReply_leg sha takes leg₁).bind
  rintro _ h₂ ⟨rfl, leg₂⟩
  apply ((says_leg sha ctr live (List.cons_ne_nil _ _) (by decide) leg₂).failAs _).bind
  intro _ h₃ leg₃
  apply ((waits_leg ctr live rfl (.inl rfl) (by decide) (by decide) (by decide) leg₃).failAs _).bind
  rintro _ h₄ ⟨⟨stale', rfl⟩, leg₄⟩
  have agreed : h₄.self.sharedSecretRaw = secret := @eq_of_core _ (fun c => c.sharedSecretRaw) (fun _ => rfl) _ _ leg₄.same
  have id : h₄.self.sessionId = exchangeHash := @eq_of_core _ (fun c => c.sessionId) (fun _ => rfl) _ _ leg₄.same
  have idLen : h₄.self.sessionIdLen = 32 := @eq_of_core _ (fun c => c.sessionIdLen) (fun _ => rfl) _ _ leg₄.same
  have derived : (deriveKeys noxtls env).run h₄ = (.ok (), { h₄ with
      self := setKeys (rfcKeys noxtls (encodedSecret env.rawKeyDerivation secret) exchangeHash exchangeHash) h₄.self }) := by
    rw [deriveKeys, self_bind_run, ensure_bind_pos (by rw [idLen]; decide), agreed, id, idLen,
      List.take_of_length_le (Nat.le_of_eq hashLen), deriveTransportKeys_some sha secretLen hashLen]
    rfl
  apply returns_ensure_bind rfl
  apply returns_bind_of_run (failAs_ok derived)
  apply returns_modify_bind
  refine returns_of_run (log_run _ _) ⟨blob, exchangeHash, secret, h₄, kept, leg₄, rfl, ?_, rfl⟩
  simp [wireOf, Event.wireBytes]

/-- The client reads who the server is and says its KEXINIT. -/
theorem readIdent_live (sha : noxtls.shaInit = true) (ctr : CtrMode noxtls) (live : Live env) {ident : List UInt8}
    (isIdent : IsIdent ident) (short : ident.length ≤ 254) (inbox : h.inbox = txIdent ident ++ rest)
    (block : HasBlock (sendSide.lane h.self)) (step : InStep last (recvSide.lane h.self)) :
    Continues Late (readIdent noxtls env maxBannerLines) (heed noxtls env >>= fun _ => performCurve25519Kex noxtls env)
      (fun h' => ∃ cookie, cookie.length = 16 ∧ Leg noxtls [kexinitPayload algLists cookie] last [] rest
        (setKexinitClient (kexinitPayload algLists cookie) (setConnected (setServerIdent ident h.self))) h h') h := by
  obtain ⟨h₁, ran, moved⟩ := @identLoop_live env rest h live ident isIdent short 7 inbox
  have leg : Leg noxtls [] last [] rest (setConnected (setServerIdent ident h.self)) h h₁ := by
    refine ⟨Protocol.Moved.said moved rfl, ⟨?_, last, [], .nil last, ?_, by rw [moved.inbox]; rfl⟩, by rw [moved.self]⟩
    · rw [moved.self]
      exact block
    · rw [moved.self]
      exact step
  apply continues_of_run (readIdent_eq noxtls env maxBannerLines h)
  apply continues_of_run (bind_ok ran)
  rw [exchangeKexinit_pieces]
  apply (offer_live sha ctr live (by rw [moved.self]; rfl) leg).continues
  exact fun _ _ post => continues_here post

/-- It takes the server's KEXINIT and says its public value. -/
theorem heed_perform_live (sha : noxtls.shaInit = true) (ctr : CtrMode noxtls) (live : Live env)
    (generates : ∀ t, ∃ priv pub, noxtls.x25519GenerateKey t = some (priv, pub))
    {kexinit : List UInt8} (number : kexinit.head? = some 20) (short : kexinit.length ≤ maxKexinitPayloadLen)
    (valid : ∀ stale, (validateServerKexinit (memOf kexinit stale) kexinit.length).isOk = true)
    (leg : Leg noxtls said last (kexinit :: left) rest c h₀ h) :
    ∃ t priv pub, noxtls.x25519GenerateKey t = some (priv, pub) ∧
      Continues Late (heed noxtls env >>= fun _ => performCurve25519Kex noxtls env)
        (leaving .kexLeft (finish noxtls env priv pub))
        (Leg noxtls (said ++ [initPayload pub]) last left rest (setKexinitExchanged (setKexinitServer kexinit c)) h₀) h := by
  obtain ⟨_, h₁, ran, leg₁⟩ := (heed_live ctr live number short valid leg).ok id
  obtain ⟨priv, pub, drawn⟩ := generates h₁.tick
  refine ⟨h₁.tick, priv, pub, drawn, ?_⟩
  apply continues_of_run (bind_ok ran)
  exact perform_live sha ctr live (@eq_of_core _ (fun c => c.kexinitExchanged) (fun _ => rfl) _ _ leg₁.same) drawn leg₁

/-! ## What has been said stays said -/

theorem stays_readIdent : Stays (Follows h₀) (Follows h₀) (readIdent noxtls env maxBannerLines) := by
  have exchanges := @exchanges_follows noxtls env h₀
  apply triple_readIdent exchanges.asks _ (fun _ _ follows => quiet_update follows fun _ => rfl)
    (fun _ follows => quiet_update follows fun _ => rfl) exchanges.exchangesKexinit
  exact stays_of_always (fun _ => id) (always_recvLine (fun _ => trivial) _) fun _ _ step follows =>
    (quiet_order _ _).trans follows step

theorem stays_heed : Stays (Follows h₀) (Follows h₀) (heed noxtls env >>= fun _ => performCurve25519Kex noxtls env) := by
  have exchanges := @exchanges_follows noxtls env h₀
  rw [heed, bind_assoc_run]
  apply stays_bind (exchanges.receives _).failAs
  rintro ⟨rx, m⟩
  simp only [bind_assoc_run]
  apply stays_ensure_bind
  intro _
  apply stays_ensure_bind
  intro _
  apply stays_bind (stays_modify (exchanges.kexinitServer rx))
  intro _
  apply stays_ensure_bind
  intro _
  exact stays_bind (stays_modify exchanges.kexinitExchanged) fun _ => exchanges.performs exchanges.waits

theorem stays_finish (priv pub : List UInt8) :
    Stays (Follows h₀) (Follows h₀) (leaving .kexLeft (finish noxtls env priv pub)) := by
  have exchanges := @exchanges_follows noxtls env h₀
  refine triple_leaving ?_ (fun _ => exchanges.left true) (fun _ => exchanges.left false) fun _ => id
  apply stays_bind (exchanges.waits _ _ _).failAs
  rintro ⟨rx, m⟩
  apply stays_ensure_bind
  intro _
  apply stays_lift_bind
  intro reply _
  apply stays_bind (exchanges.takes priv pub m reply)
  rintro ⟨exchangeHash, secret⟩
  apply stays_bind (exchanges.sends 21 (by simp) [21] rfl).failAs
  intro _
  apply stays_bind (exchanges.waits _ _ _).failAs
  rintro ⟨rx, _⟩
  apply stays_ensure_bind
  intro _
  apply stays_bind exchanges.derives.failAs
  intro _
  apply stays_bind (stays_modify exchanges.complete)
  intro _
  exact stays_log (exchanges.done exchangeHash secret)

end Handshake

end NoxSsh.Client
