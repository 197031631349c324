/-
# Client.HostKey — the host keys the client accepts

Negotiation and verification are separate functions.  Whatever a KEXINIT named, the
algorithm that counts is the one the KEX_ECDH_REPLY itself names: `ssh-ed25519` for
key and signature, or `ssh-rsa` with one of two kinds of RSA signature.  A key
exchange that completes has such a signature over its exchange hash behind it, in a
reply that was received (`exchanges_checked`).

The first exchange of a connection is the one whose fingerprint the caller sees.  No
later exchange compares its host key with that one.  If none presents another, the
connection keeps the host key it began with (`host_key_stays`).
-/
import NoxSsh.Client.Conduct

namespace NoxSsh.Client

open Theory Proc Wire Transport

set_option autoImplicit false

/-! ## What a signature check accepts -/

/-- Key and signature both name `ssh-ed25519`, and the signature is good. -/
def SignedEd25519 (noxtls : Noxtls) (m : Mem) (hostKeyBlob signature : View) (exchangeHash : List UInt8) : Prop :=
  ∃ key sig, key.length = 32 ∧ sig.length = 64 ∧
    sshString algEd25519 ++ sshString key <+: hostKeyBlob.bytes m ∧
    sshString algEd25519 ++ sshString sig <+: signature.bytes m ∧
    noxtls.ed25519Verify key exchangeHash sig = true

/-- The signature algorithms an RSA key may come with. -/
def rsaSignatures : List (List UInt8 × HashAlgo) := [(ascii "rsa-sha2-256", .sha256), (ascii "ssh-rsa", .sha1)]

/-- The key names `ssh-rsa` and the signature an RSA algorithm, and the signature is good
under the exponent and modulus that follow the name. -/
def SignedRsa (noxtls : Noxtls) (m : Mem) (hostKeyBlob signature : View) (exchangeHash : List UInt8) : Prop :=
  ∃ alg ∈ rsaSignatures, sshString (ascii "ssh-rsa") <+: hostKeyBlob.bytes m ∧
    sshString alg.1 <+: signature.bytes m ∧ ∃ exponent modulus sig off off' off'',
    payloadReadStringView (m.at hostKeyBlob.start) hostKeyBlob.len 11 = some (exponent, off) ∧
    payloadReadStringView (m.at hostKeyBlob.start) hostKeyBlob.len off = some (modulus, off') ∧
    payloadReadStringView (m.at signature.start) signature.len (4 + alg.1.length) = some (sig, off'') ∧
    verifyRsaSignature noxtls (exponent.bytes (m.at hostKeyBlob.start)) (modulus.bytes (m.at hostKeyBlob.start)) alg.2
      (sig.bytes (m.at signature.start)) exchangeHash = .ok ()

theorem ok_of_isOk {e : Type} {r : Except e Unit} (is : r.isOk = true) : r = .ok () := by
  cases r with
  | error _ => cases is
  | ok _ => rfl

/-- The name at the head of a blob is a prefix of it. -/
theorem prefix_of_name {m : Mem} {blob name : View} {off : Nat} {alg : List UInt8}
    (read : payloadReadStringView (m.at blob.start) blob.len 0 = some (name, off))
    (is : name.bytes (m.at blob.start) = alg) (short : alg.length < 4294967000) :
    off = 4 + alg.length ∧ 4 + alg.length ≤ blob.len ∧ slice m blob.start (4 + alg.length) = sshString alg := by
  have length : name.len = alg.length := by
    rw [← is]
    exact (length_slice _ _ _).symm
  obtain ⟨-, next, inside, shown⟩ := payloadReadStringView_some read (by omega)
  rw [is, Nat.zero_add, length] at *
  rw [slice_at, Nat.add_zero] at shown
  exact ⟨next, next ▸ inside, shown⟩

/-- So are the name and a short string behind it. -/
theorem prefix_of_pair {m : Mem} {blob name value : View} {off off' : Nat} {alg : List UInt8}
    (read : payloadReadStringView (m.at blob.start) blob.len 0 = some (name, off))
    (is : name.bytes (m.at blob.start) = alg) (short : alg.length + value.len < 4294967000)
    (next : payloadReadStringView (m.at blob.start) blob.len off = some (value, off')) :
    sshString alg ++ sshString (value.bytes (m.at blob.start)) <+: blob.bytes m := by
  obtain ⟨rfl, -, shown⟩ := prefix_of_name read is (by omega)
  obtain ⟨-, end_, inside, shown'⟩ := payloadReadStringView_some next (by omega)
  rw [slice_at, end_] at *
  rw [← shown', ← shown, ← slice_add]
  exact slice_prefix m blob.start (by omega)

/-- The check accepts nothing else. -/
theorem signed_of_verified {noxtls : Noxtls} {m : Mem} {hostKeyBlob signature : View} {exchangeHash : List UInt8}
    (verified : (verifyServerHostKeySignature noxtls m hostKeyBlob signature exchangeHash).isOk = true) :
    SignedEd25519 noxtls m hostKeyBlob signature exchangeHash ∨ SignedRsa noxtls m hostKeyBlob signature exchangeHash := by
  unfold verifyServerHostKeySignature at verified
  split at verified
  · cases verified
  dsimp only at verified
  split at verified
  case h_2 => cases verified
  rename_i hkAlg hkOff sigAlg sigOff hkRead sigRead
  split at verified
  · cases verified
  rename_i sigData _ sigNext
  split at verified
  · rename_i ed25519
    split at verified
    · cases verified
    rename_i key _ keyRead
    split at verified
    · cases verified
    rename_i lengths
    obtain ⟨keyLen, sigLen⟩ : _ ∧ _ := by simpa only [ne_eq, not_or, not_not] using lengths
    split at verified
    · rename_i good
      refine .inl ⟨_, _, ?_, ?_, ?_, ?_, good⟩
      · exact (length_slice _ _ _).trans keyLen
      · exact (length_slice _ _ _).trans sigLen
      · exact prefix_of_pair hkRead ed25519.1 (by rw [keyLen]; decide) keyRead
      · exact prefix_of_pair sigRead ed25519.2 (by rw [sigLen]; decide) sigNext
    · cases verified
  · split at verified
    · rename_i rsa
      split at verified
      · cases verified
      rename_i exponent off exponentRead
      split at verified
      · cases verified
      rename_i modulus off' modulusRead
      obtain ⟨rfl, hkLen, hkShown⟩ := prefix_of_name hkRead rsa.1 (by decide)
      have named : sshString (ascii "ssh-rsa") <+: hostKeyBlob.bytes m := hkShown ▸ slice_prefix m _ hkLen
      have good : verifyRsaSignature noxtls _ _ _ _ exchangeHash = .ok () := ok_of_isOk verified
      rcases rsa.2 with sigIs | sigIs
      · obtain ⟨rfl, sigLen, sigShown⟩ := prefix_of_name sigRead sigIs (by decide)
        have twelve : sigAlg.len = 12 := by
          rw [← length_slice (m.at signature.start) sigAlg.start sigAlg.len]
          exact congrArg List.length sigIs
        rw [if_pos twelve] at good
        exact .inr ⟨(ascii "rsa-sha2-256", .sha256), by simp [rsaSignatures], named, sigShown ▸ slice_prefix m _ sigLen,
          exponent, modulus, sigData, _, _, _, exponentRead, modulusRead, sigNext, good⟩
      · obtain ⟨rfl, sigLen, sigShown⟩ := prefix_of_name sigRead sigIs (by decide)
        have seven : sigAlg.len = 7 := by
          rw [← length_slice (m.at signature.start) sigAlg.start sigAlg.len]
          exact congrArg List.length sigIs
        rw [if_neg (by rw [seven]; decide)] at good
        exact .inr ⟨(ascii "ssh-rsa", .sha1), by simp [rsaSignatures], named, sigShown ▸ slice_prefix m _ sigLen,
          exponent, modulus, sigData, _, _, _, exponentRead, modulusRead, sigNext, good⟩
    · cases verified

/-! ## What a completed exchange has behind it -/

/-- In this history the reply `reply` was taken: its signature is good for the hash, and the
hash is that of the client's own exchange, with this shared secret. -/
def Checked (noxtls : Noxtls) (m : Mem) (reply : KexReply) (exchangeHash secret : List UInt8)
    (trace : List (Event × Client)) : Prop :=
  ∃ c pub, (.hostKeyVerified (reply.hostKeyBlob.bytes m) exchangeHash secret, c) ∈ trace ∧
    computeExchangeHash noxtls c.clientIdent c.serverIdent c.kexinitClientPayload c.kexinitServerPayload
      (reply.hostKeyBlob.bytes m) pub (reply.serverPub.bytes m) secret = some exchangeHash ∧
    (SignedEd25519 noxtls m reply.hostKeyBlob reply.signature exchangeHash ∨
      SignedRsa noxtls m reply.hostKeyBlob reply.signature exchangeHash)

/-- A completed exchange follows a KEX_ECDH_REPLY that was received and checked. -/
def Vouched (noxtls : Noxtls) (before : List (Event × Client)) (e : Event × Client) : Prop :=
  ∀ exchangeHash secret, e.1 = .kexDone exchangeHash secret →
    ∃ rx c rest reply, (.received rx, c) ∈ before ∧ rx.head? = some 31 ∧
      readKexReply (memOf rx rest) rx.length = some reply ∧
      Checked noxtls (memOf rx rest) reply exchangeHash secret before

/-- What stays true of a history as it grows. -/
def Lasting (F : List (Event × Client) → Prop) : Prop := ∀ trace more, F trace → F (trace ++ more)

/-- Every completed exchange is vouched for, and `F` is known of the history. -/
structure Knows (noxtls : Noxtls) (F : List (Event × Client) → Prop) (h : Host Client) : Prop where
  vouched : Audited (Vouched noxtls) h.trace
  known : F h.trace

/-- No exchange is completed. -/
def Unfinished (e : Event) : Prop := ∀ exchangeHash secret, e ≠ .kexDone exchangeHash secret

theorem background_unfinished : Background Unfinished :=
  ⟨⟨by simp [Unfinished], by simp [Unfinished], by simp [Unfinished]⟩, by simp [Unfinished], by simp [Unfinished]⟩

theorem passive_unit : Passive fun _ : Client => () :=
  ⟨fun _ _ => rfl, fun _ _ => rfl, fun _ _ => rfl, fun _ _ => rfl⟩

section Vouched

variable {noxtls : Noxtls} {env : Env} {F : List (Event × Client) → Prop} {h h' : Host Client}

theorem Knows.quiet (lasting : Lasting F) (knows : Knows noxtls F h)
    (quiet : Quiet Unfinished (fun _ : Client => ()) h h') : Knows noxtls F h' := by
  obtain ⟨-, new, grown, fine⟩ := quiet
  constructor
  · rw [grown]
    apply knows.vouched.append
    intro before e after is exchangeHash secret done
    exact absurd done ((fine e (by rw [is]; simp)).1 exchangeHash secret)
  · rw [grown]
    exact lasting _ new knows.known

theorem Knows.update (knows : Knows noxtls F h) {f : Client → Client} : Knows noxtls F { h with self := f h.self } :=
  ⟨knows.vouched, knows.known⟩

theorem Knows.log (lasting : Lasting F) (knows : Knows noxtls F h) {e : Event} (unfinished : Unfinished e) :
    Knows noxtls F { h with trace := h.trace ++ [(e, h.self)] } :=
  knows.quiet lasting ⟨rfl, [(e, h.self)], rfl, by simpa using unfinished⟩

theorem Knows.mono {G : List (Event × Client) → Prop} (weaker : ∀ trace, F trace → G trace)
    (knows : Knows noxtls F h) : Knows noxtls G h :=
  ⟨knows.vouched, weaker _ knows.known⟩

/-- Nothing but the end of an exchange needs a word. -/
theorem knows_of_always {α : Type} {m : Prog Client α} (lasting : Lasting F)
    (always : Always (Quiet Unfinished fun _ : Client => ()) m) : Stays (Knows noxtls F) (Knows noxtls F) m :=
  stays_of_always (fun _ => id) always fun _ _ quiet knows => knows.quiet lasting quiet

theorem proposing_knows (lasting : Lasting F) : Proposing noxtls env (Knows noxtls F) (Knows noxtls F) where
  asks h knows := ⟨knows.vouched, knows.known⟩
  receives n := knows_of_always lasting (always_recvInto background_unfinished passive_unit
    ⟨by simp [Unfinished], by simp [Unfinished]⟩ n)
  sends _ _ payload _ := knows_of_always lasting (always_sendPacket background_unfinished passive_unit payload
    (by simp [Unfinished]) (by simp [Unfinished]))
  kexinitClient _ _ knows := knows.update
  kexinitServer _ _ knows := knows.update
  kexinitExchanged _ knows := knows.update

/-- The packet `rx` has come in. -/
def CameIn (rx : List UInt8) (trace : List (Event × Client)) : Prop := ∃ c, (.received rx, c) ∈ trace

theorem lasting_cameIn (lasting : Lasting F) (rx : List UInt8) : Lasting fun trace => F trace ∧ CameIn rx trace := by
  rintro trace more ⟨known, c, member⟩
  exact ⟨lasting trace more known, c, List.mem_append_left _ member⟩

theorem lasting_checked (lasting : Lasting F) (m : Mem) (reply : KexReply) (exchangeHash secret : List UInt8) :
    Lasting fun trace => F trace ∧ Checked noxtls m reply exchangeHash secret trace := by
  rintro trace more ⟨known, c, pub, member, rest⟩
  exact ⟨lasting trace more known, c, pub, List.mem_append_left _ member, rest⟩

/-- What waiting gives has come in. -/
def Delivers (noxtls : Noxtls) (F : List (Event × Client) → Prop) (arrival : Arrival) (h : Host Client) : Prop :=
  Knows noxtls (fun trace => F trace ∧ CameIn arrival.1 trace) h ∧ ∃ rest, arrival.2 = memOf arrival.1 rest

theorem Delivers.knows {arrival : Arrival} (delivers : Delivers noxtls F arrival h) : Knows noxtls F h :=
  delivers.1.mono fun _ => And.left

theorem recvInto_delivers (lasting : Lasting F) (payloadMax : Nat) :
    Triple (Knows noxtls F) (recvInto noxtls env payloadMax) (Delivers noxtls F)
      (Breaks (Knows noxtls F) (Knows noxtls F)) := by
  have hears : Triple (Knows noxtls F) (recvInto noxtls env payloadMax) (Heard (Knows noxtls F) payloadMax)
      (Breaks (Knows noxtls F) (Knows noxtls F)) :=
    triple_recvInto background_unfinished (by simp [Unfinished]) passive_unit
      (fun _ _ quiet knows => knows.quiet lasting quiet) payloadMax
  apply hears.mono (fun _ => id) _ fun _ _ => id
  rintro ⟨rx, m⟩ h ⟨h₀, rest, knows, -, is, rfl⟩
  have logged := knows.log lasting (show Unfinished (.received rx) by simp [Unfinished])
  exact ⟨⟨logged.vouched, logged.known, h₀.self, by simp⟩, rest, is⟩

theorem waitLoop_delivers {handle : List UInt8 → Mem → Prog Client Unit} (lasting : Lasting F)
    (handles : ∀ rx m, Stays (Knows noxtls F) (Knows noxtls F) (handle rx m)) (a b : UInt8) (outMax turns : Nat) :
    Triple (Knows noxtls F) (waitLoop noxtls env handle a b outMax turns) (Delivers noxtls F)
      (Breaks (Knows noxtls F) (Knows noxtls F)) := by
  induction turns with
  | zero => exact triple_fail _ fun _ => id
  | succ turns ih =>
      apply triple_bind (recvInto_delivers lasting _).failAs
      rintro ⟨rx, m⟩
      have again : Triple (Delivers noxtls F (rx, m)) (waitLoop noxtls env handle a b outMax turns) (Delivers noxtls F)
          (Breaks (Knows noxtls F) (Knows noxtls F)) :=
        ih.mono (fun _ => Delivers.knows) (fun _ _ => id) fun _ _ => id
      dsimp only
      split
      · exact again
      apply triple_ite
      · intro _
        apply triple_bind ((handles rx m).failAs.mono (fun _ => Delivers.knows) (fun _ _ => id) fun _ _ => id)
        exact fun _ => ih
      intro _
      apply triple_ite _ fun _ => again
      intro _
      apply triple_ensure_bind
      · exact fun _ => Delivers.knows
      intro _
      have copies : Triple (Delivers noxtls F (rx, m)) (ask env.stale)
          (fun _ => Knows noxtls fun trace => F trace ∧ CameIn rx trace) (Breaks (Knows noxtls F) (Knows noxtls F)) :=
        (triple_ask fun h knows => ⟨knows.vouched, knows.known⟩).mono (fun h delivers => delivers.1) (fun _ _ => id)
          fun _ _ => id
      apply triple_bind copies
      intro rest
      exact triple_pure _ fun h knows => ⟨knows, rest, rfl⟩

/-- A break of which more is known. -/
theorem breaks_mono {G : List (Event × Client) → Prop} {α : Type} {P : Host Client → Prop} {m : Prog Client α}
    {Q : α → Host Client → Prop} (weaker : ∀ trace, G trace → F trace)
    (triple : Triple P m Q (Breaks (Knows noxtls G) (Knows noxtls G))) :
    Triple P m Q (Breaks (Knows noxtls F) (Knows noxtls F)) := by
  apply triple.mono (fun _ => id) (fun _ _ => id)
  intro e h knows
  cases e <;> exact Knows.mono weaker knows

/-- A reply that is taken has been checked. -/
theorem takeReply_checks (lasting : Lasting F) (priv pub : List UInt8) (m : Mem) (reply : KexReply) :
    Triple (Knows noxtls F) (takeReply noxtls priv pub m reply)
      (fun agreed => Knows noxtls fun trace => F trace ∧ Checked noxtls m reply agreed.1 agreed.2 trace)
      (Breaks (Knows noxtls F) (Knows noxtls F)) := by
  unfold takeReply
  apply triple_bind (stays_log fun h knows => knows.log lasting (by simp [Unfinished]))
  intro _
  apply triple_bind (stays_modify fun h knows => knows.update)
  intro _
  apply stays_lift_bind
  intro fingerprint _
  apply triple_bind (stays_modify fun h knows => knows.update)
  intro _
  apply stays_lift_bind
  intro secret _
  constructor
  intro h knows
  rw [self_bind_run]
  cases computed : computeExchangeHash noxtls h.self.clientIdent h.self.serverIdent h.self.kexinitClientPayload
      h.self.kexinitServerPayload (reply.hostKeyBlob.bytes m) pub (reply.serverPub.bytes m) secret with
  | none => exact knows
  | some exchangeHash =>
      rw [lift_some, pure_bind_run, modify_bind_run]
      by_cases verified : (verifyServerHostKeySignature noxtls m reply.hostKeyBlob reply.signature exchangeHash).isOk = true
      · rw [ensure_bind_pos verified, log_bind_run, modify_bind_run, pure_run]
        have logged := knows.update (f := setExchangeHash exchangeHash) |>.log lasting
          (show Unfinished (.hostKeyVerified (reply.hostKeyBlob.bytes m) exchangeHash secret) by simp [Unfinished])
        exact ⟨logged.vouched, logged.known, setExchangeHash exchangeHash h.self, pub, by simp, computed,
          signed_of_verified verified⟩
      · rw [ensure_bind_neg verified]
        exact knows.update

/-- Whoever waits while `G` is known gets what came in. -/
abbrev Waits (noxtls : Noxtls) (wait : UInt8 → UInt8 → Nat → Prog Client Arrival) : Prop :=
  ∀ G, Lasting G → ∀ a b n, Triple (Knows noxtls G) (wait a b n) (Delivers noxtls G)
    (Breaks (Knows noxtls G) (Knows noxtls G))

/-- The second half of an exchange: its reply has come in. -/
theorem replied_vouched {wait : UInt8 → UInt8 → Nat → Prog Client Arrival} (lasting : Lasting F)
    (waits : Waits noxtls wait) (priv pub rx : List UInt8) (rest : Mem) (reply : KexReply) (head : rx.head? = some 31)
    (read : readKexReply (memOf rx rest) rx.length = some reply) :
    Triple (Knows noxtls fun trace => F trace ∧ CameIn rx trace)
      (do
        let (exchangeHash, secret) ← takeReply noxtls priv pub (memOf rx rest) reply
        failAs .failed (sendPacket noxtls env [21])
        let (rx, _) ← failAs .failed (wait 21 255 2048)
        ensure (rx.head? = some 21) .failed
        failAs .failed (deriveKeys noxtls env)
        modify setKeyExchangeComplete
        log (.kexDone exchangeHash secret))
      (fun _ => Knows noxtls F) (Breaks (Knows noxtls F) (Knows noxtls F)) := by
  have came := lasting_cameIn lasting rx
  apply triple_bind (breaks_mono (fun _ => And.left) (takeReply_checks came priv pub (memOf rx rest) reply))
  rintro ⟨exchangeHash, secret⟩
  have checked := @lasting_checked noxtls _ came (memOf rx rest) reply exchangeHash secret
  -- from here to the end the history that was just made is only added to
  apply breaks_mono fun _ known => And.left (And.left known)
  apply triple_bind ((proposing_knows checked).sends 21 (by simp) [21] rfl).failAs
  intro _
  apply triple_bind ((waits _ checked 21 255 2048).mono (fun _ => id) (fun _ _ => Delivers.knows) fun _ _ => id).failAs
  rintro ⟨rx', m'⟩
  apply stays_ensure_bind
  intro _
  have derives : Always (Quiet Unfinished fun _ : Client => ()) (deriveKeys noxtls env) :=
    always_deriveKeys ⟨passive_unit, fun _ _ => rfl, fun _ _ => rfl, fun _ _ => rfl, fun _ _ => rfl, fun _ _ => rfl⟩
  apply triple_bind (knows_of_always checked derives).failAs
  intro _
  apply triple_bind (stays_modify fun h knows => knows.update)
  intro _
  apply triple_log
  intro h knows
  constructor
  · apply knows.vouched.snoc
    intro exchangeHash' secret' is
    obtain ⟨rfl, rfl⟩ : exchangeHash = exchangeHash' ∧ secret = secret' := by simpa using is
    obtain ⟨⟨-, c, member⟩, checks⟩ := knows.known
    exact ⟨rx, c, rest, reply, member, head, read, checks⟩
  · exact lasting _ _ knows.known.1.1

/-- An exchange that comes back is vouched for. -/
theorem exchangeKeys_vouched {wait : UInt8 → UInt8 → Nat → Prog Client Arrival} (lasting : Lasting F)
    (waits : Waits noxtls wait) : Stays (Knows noxtls F) (Knows noxtls F) (exchangeKeys noxtls env wait) := by
  have proposing := @proposing_knows noxtls env F lasting
  apply stays_bind (triple_ask proposing.asks)
  intro generated
  apply stays_lift_bind
  rintro ⟨priv, pub⟩ -
  apply stays_lift_bind
  intro init built
  have number : init.head? = some 30 := ((heads_u8 _ _).then appends_string) init built
  apply stays_bind (proposing.sends 30 (by simp) init number).failAs
  intro _
  apply triple_bind (waits F lasting 31 255 2048).failAs
  rintro ⟨rx, m⟩
  apply triple_ensure_bind _ fun _ => Delivers.knows
  intro head
  apply triple_lift_bind _ fun _ => Delivers.knows
  intro reply read
  constructor
  rintro h ⟨knows, rest, is⟩
  obtain rfl : m = memOf rx rest := is
  exact (replied_vouched lasting waits priv pub rx rest reply head read).ends h knows

theorem performWith_vouched {wait : UInt8 → UInt8 → Nat → Prog Client Arrival} (lasting : Lasting F)
    (waits : Waits noxtls wait) : Stays (Knows noxtls F) (Knows noxtls F) (performWith noxtls env wait) := by
  apply triple_self_bind
  intro c
  apply stays_ensure_bind
  intro _
  apply stays_bind (stays_log fun h knows => knows.log lasting (by simp [Unfinished]))
  intro _
  exact triple_leaving (exchangeKeys_vouched lasting waits) (fun _ h knows => knows.log lasting (by simp [Unfinished]))
    (fun _ h knows => knows.log lasting (by simp [Unfinished])) fun _ => id

theorem waitNested_delivers (depth : Nat) : Waits noxtls (waitNested noxtls env depth) := by
  induction depth with
  | zero => exact fun G lasting a b n => waitLoop_delivers lasting (fun _ _ => stays_stall fun _ => id) a b n waitTurns
  | succ depth ih =>
      intro G lasting a b n
      apply waitLoop_delivers lasting
      exact (proposing_knows lasting).handles (performWith_vouched lasting ih)

theorem waitForMessage_delivers : Waits noxtls (waitForMessage noxtls env) :=
  fun G lasting a b n => triple_byInbox fun depth => waitNested_delivers depth G lasting a b n

end Vouched

/-! ## Every run -/

theorem lasting_true : Lasting fun _ => True := fun _ _ => id

/-- Nothing is known but that every completed exchange was vouched for. -/
abbrev Sworn (noxtls : Noxtls) : Host Client → Prop := Knows noxtls fun _ => True

section Calls

variable {noxtls : Noxtls} {env : Env}

theorem performs_sworn : Stays (Sworn noxtls) (Sworn noxtls) (performCurve25519Kex noxtls env) :=
  performWith_vouched lasting_true waitForMessage_delivers

theorem calling_sworn : Calling noxtls env (Sworn noxtls) (Sworn noxtls) (Sworn noxtls) where
  weaker _ := id
  sharper _ := id
  keyed _ knows _ := knows
  opened _ knows _ := knows
  receives := (proposing_knows lasting_true).receives
  handles := (proposing_knows lasting_true).handles performs_sworn
  exchanges := (proposing_knows lasting_true).exchanges performs_sworn
  waits a b n := (waitForMessage_delivers _ lasting_true a b n).mono (fun _ => id) (fun _ _ => Delivers.knows) fun _ _ => id
  sends _ _ payload _ := knows_of_always lasting_true (always_sendPacket background_unfinished passive_unit payload
    (by simp [Unfinished]) (by simp [Unfinished]))
  userauthReady _ knows := knows.update
  connectionReady _ knows := knows.update
  authenticated _ knows := knows.update
  localChannel _ knows := knows.update
  channelOpen _ _ _ _ knows := knows.update
  channelClosed _ knows := knows.update
  exitStatus _ _ knows := knows.update
  ident _ _ knows := ⟨knows.vouched, trivial⟩
  username _ _ knows := knows.update
  host _ _ knows := knows.update
  password _ _ knows := knows.update
  privateKey _ _ knows := knows.update
  publicKey _ _ knows := knows.update
  noKey _ knows := knows.update

theorem connect_sworn : Stays (Sworn noxtls) (Sworn noxtls) (connect noxtls env) :=
  triple_connect (fun h knows => ⟨knows.vouched, trivial⟩)
    (fun data => knows_of_always lasting_true (always_sendAll background_unfinished.toPlumbing data))
    (knows_of_always lasting_true (always_recvLine (by simp [Unfinished]) 256)) (fun _ _ knows => knows.update)
    (fun _ knows => knows.update) ((proposing_knows lasting_true).exchanges performs_sworn)

theorem calls_sworn (calls : List Call) : Stays (Sworn noxtls) (Sworn noxtls) (Calls.run noxtls env calls) := by
  apply stays_calls
  intro call _
  by_cases is : call = .connect
  · subst is
    exact connect_sworn
  · exact calling_sworn.stays call is fun _ _ knows => knows.update

end Calls

/-- **A completed key exchange has a good signature behind it.**  In every run the exchange
follows a KEX_ECDH_REPLY that came in, and the signature over the exchange hash is good for
the key of that reply: an Ed25519 key, or an RSA key. -/
theorem exchanges_checked (noxtls : Noxtls) (env : Env) (port : Nat) (inbox : List UInt8) (calls : List Call) :
    Audited (Vouched noxtls) ((Calls.run noxtls env calls).run ⟨Client.init port, 0, inbox, []⟩).2.trace :=
  ((calls_sworn calls).keeps _ ⟨audited_nil, trivial⟩).vouched

namespace Probe

/-- RSA as in the textbook. -/
def rsaNoxtls : Noxtls :=
  { noxtls with
    rsaKeyInit := fun _ => some 128
    rsaVerify := fun modulus exponent _ hash sig => beNat sig ^ beNat exponent % beNat modulus = beNat hash }

/-- With the exponent 1 every number is its own signature. -/
def rsaBlob : List UInt8 := sshString (ascii "ssh-rsa") ++ sshString [1] ++ sshString (List.replicate 128 255)

def rsaReply : List UInt8 := replyWith rsaBlob (sshString (ascii "rsa-sha2-256") ++ sshString (exchangeHash rsaBlob))

end Probe

/-- The server lists `ssh-ed25519`, which both sides name first, and shows an RSA key. -/
theorem rsa_host_key_accepted :
    ¬ ∀ (noxtls : Noxtls) (env : Env) (port : Nat) (inbox : List UInt8) (calls : List Call),
      ∀ e ∈ ((Calls.run noxtls env calls).run ⟨Client.init port, 0, inbox, []⟩).2.trace,
        ∀ exchangeHash secret, e.1 = .kexDone exchangeHash secret → sshString algEd25519 <+: e.2.serverHostKeyBlob := by
  intro named
  have accepted : (((Calls.run Probe.rsaNoxtls Probe.brisk [.connect]).run ⟨Client.init 22, 0,
      Probe.greeting [Probe.kexinit, Probe.rsaReply, [21]], []⟩).2.trace.any fun e => match e.1 with
        | .kexDone _ _ => !(sshString algEd25519).isPrefixOf e.2.serverHostKeyBlob
        | _ => false) = true := by
    decide +kernel
  obtain ⟨⟨event, c⟩, member, apart⟩ := List.any_eq_true.1 accepted
  have is := named _ _ _ _ _ _ member
  cases event with
  | kexDone exchangeHash secret =>
      rw [List.isPrefixOf_iff_prefix.2 (is exchangeHash secret rfl)] at apart
      cases apart
  | _ => cases apart

/-! ## The host key of a connection -/

/-- The host key the event presents. -/
def presents : Event → Option (List UInt8)
  | .hostKeyPresented blob => some blob
  | _ => none

/-- A host key that is presented is the one the context has. -/
def Compares (e : Event × Client) : Prop := ∀ blob ∈ presents e.1, blob = e.2.serverHostKeyBlob

instance (e : Event × Client) : Decidable (Compares e) := inferInstanceAs (Decidable (∀ blob ∈ presents e.1, _))

/-- The context is connected to the server with this host key and shows its fingerprint. -/
structure Trusts (blob fingerprint : List UInt8) (c : Client) : Prop where
  complete : c.keyExchangeComplete = true
  blob : c.serverHostKeyBlob = blob
  ready : c.serverHostKeyReady = true
  fingerprint : c.serverHostKeyFingerprint = fingerprint

/-- If every presented key was compared, none was another, and the first is trusted. -/
def Faithful (blob fingerprint : List UInt8) (h : Host Client) : Prop :=
  (∀ e ∈ h.trace, Compares e) → Trusts blob fingerprint h.self ∧
    ∀ e ∈ h.trace, Trusts blob fingerprint e.2 ∧ ∀ presented ∈ presents e.1, presented = blob

/-- No host key is presented. -/
def Unpresented (e : Event) : Prop := presents e = none

/-- What a connection trusts. -/
def trust (c : Client) : Bool × List UInt8 × Bool × List UInt8 :=
  (c.keyExchangeComplete, c.serverHostKeyBlob, c.serverHostKeyReady, c.serverHostKeyFingerprint)

theorem background_unpresented : Background Unpresented :=
  ⟨⟨by simp [Unpresented, presents], by simp [Unpresented, presents], by simp [Unpresented, presents]⟩, by simp [Unpresented, presents], by simp [Unpresented, presents]⟩

theorem hearing_unpresented : Hearing Unpresented := ⟨by simp [Unpresented, presents], by simp [Unpresented, presents]⟩

theorem passive_trust : Passive trust := ⟨fun _ _ => rfl, fun _ _ => rfl, fun _ _ => rfl, fun _ _ => rfl⟩

section Faithful

variable {noxtls : Noxtls} {env : Env} {blob fingerprint : List UInt8} {c c' : Client} {h h' : Host Client}

theorem Trusts.congr (trusts : Trusts blob fingerprint c) (same : trust c' = trust c) : Trusts blob fingerprint c' := by
  simp only [trust, Prod.mk.injEq] at same
  obtain ⟨complete, stored, ready, print⟩ := same
  exact ⟨complete.trans trusts.complete, stored.trans trusts.blob, ready.trans trusts.ready,
    print.trans trusts.fingerprint⟩

theorem Faithful.quiet (faithful : Faithful blob fingerprint h) (quiet : Quiet Unpresented trust h h') :
    Faithful blob fingerprint h' := by
  obtain ⟨same, new, grown, fine⟩ := quiet
  intro compares
  rw [grown] at compares ⊢
  obtain ⟨trusts, before⟩ := faithful fun e member => compares e (List.mem_append_left _ member)
  refine ⟨trusts.congr same, ?_⟩
  intro e member
  rcases List.mem_append.1 member with member | member
  · exact before e member
  · exact ⟨trusts.congr (fine e member).2, by simp [show presents e.1 = none from (fine e member).1]⟩

theorem Faithful.update (faithful : Faithful blob fingerprint h) {f : Client → Client}
    (same : ∀ c, trust (f c) = trust c) : Faithful blob fingerprint { h with self := f h.self } :=
  faithful.quiet ⟨same h.self, [], by simp, by simp⟩

theorem Faithful.log (faithful : Faithful blob fingerprint h) {e : Event} (unpresented : Unpresented e) :
    Faithful blob fingerprint { h with trace := h.trace ++ [(e, h.self)] } :=
  faithful.quiet ⟨rfl, [(e, h.self)], rfl, by simpa using unpresented⟩

/-- A key that is presented is the trusted one, if it was compared. -/
theorem Faithful.presents (faithful : Faithful blob fingerprint h) (presented : List UInt8) :
    Faithful blob fingerprint { h with trace := h.trace ++ [(.hostKeyPresented presented, h.self)] } ∧
      ((∀ e ∈ h.trace ++ [(.hostKeyPresented presented, h.self)], Compares e) → presented = blob) := by
  have is : (∀ e ∈ h.trace ++ [(.hostKeyPresented presented, h.self)], Compares e) → presented = blob := by
    intro compares
    have trusts := (faithful fun e member => compares e (List.mem_append_left _ member)).1
    exact (compares _ (List.mem_append_right _ (List.mem_singleton.2 rfl)) presented rfl).trans trusts.blob
  refine ⟨?_, is⟩
  intro compares
  obtain ⟨trusts, before⟩ := faithful fun e member => compares e (List.mem_append_left _ member)
  refine ⟨trusts, ?_⟩
  intro e member
  rcases List.mem_append.1 member with member | member
  · exact before e member
  · obtain rfl := List.mem_singleton.1 member
    refine ⟨trusts, ?_⟩
    rintro presented' ⟨⟩
    exact is compares

theorem faithful_of_always {α : Type} {m : Prog Client α} (always : Always (Quiet Unpresented trust) m) :
    Stays (Faithful blob fingerprint) (Faithful blob fingerprint) m :=
  stays_of_always (fun _ => id) always fun _ _ quiet faithful => faithful.quiet quiet

/-- Taking a reply under the trusted key stores what is there already. -/
theorem takeReply_faithful (printed : noxtls.hash blob = some fingerprint) (priv pub : List UInt8) (m : Mem)
    (reply : KexReply) :
    Stays (Faithful blob fingerprint) (Faithful blob fingerprint) (takeReply noxtls priv pub m reply) := by
  unfold takeReply
  dsimp only
  generalize reply.hostKeyBlob.bytes m = presented
  apply triple_bind (Q := fun _ h => Faithful blob fingerprint h ∧ ((∀ e ∈ h.trace, Compares e) → presented = blob))
  · exact triple_log fun h faithful => faithful.presents presented
  intro _
  apply triple_bind (Q := fun _ h => Faithful blob fingerprint h ∧ ((∀ e ∈ h.trace, Compares e) → presented = blob))
  · apply triple_modify
    rintro h ⟨faithful, is⟩
    refine ⟨fun compares => ?_, is⟩
    obtain ⟨trusts, before⟩ := faithful compares
    exact ⟨⟨trusts.complete, is compares, trusts.ready, trusts.fingerprint⟩, before⟩
  intro _
  apply triple_lift_bind _ fun h both => both.1
  intro print hashed
  apply triple_bind (Q := fun _ => Faithful blob fingerprint)
  · apply triple_modify
    rintro h ⟨faithful, is⟩ compares
    obtain ⟨trusts, before⟩ := faithful compares
    rw [is compares, printed] at hashed
    exact ⟨⟨trusts.complete, trusts.blob, rfl, (Option.some.inj hashed).symm⟩, before⟩
  intro _
  apply stays_lift_bind
  intro secret _
  apply triple_self_bind
  intro c
  apply stays_lift_bind
  intro exchangeHash _
  apply triple_bind (stays_modify fun h faithful => faithful.update fun _ => rfl)
  intro _
  apply stays_ensure_bind
  intro _
  apply triple_bind (stays_log fun h faithful => faithful.log (by simp [Unpresented, presents]))
  intro _
  exact stays_bind (stays_modify fun h faithful => faithful.update fun _ => rfl) fun _ => stays_pure _

theorem exchanges_faithful (printed : noxtls.hash blob = some fingerprint) :
    Exchanges noxtls env (Faithful blob fingerprint) (Faithful blob fingerprint) where
  asks h faithful := faithful
  receives n := faithful_of_always (always_recvInto background_unpresented passive_trust hearing_unpresented n)
  sends _ _ payload _ := faithful_of_always (always_sendPacket background_unpresented passive_trust payload
    (by simp [Unpresented, presents]) (by simp [Unpresented, presents]))
  kexinitClient _ _ faithful := faithful.update fun _ => rfl
  kexinitServer _ _ faithful := faithful.update fun _ => rfl
  kexinitExchanged _ faithful := faithful.update fun _ => rfl
  weaker _ := id
  takes := takeReply_faithful printed
  derives := by
    apply triple_self_bind
    intro c
    apply stays_ensure_bind
    intro _
    apply stays_lift_bind
    intro keys _
    exact stays_modify fun h faithful => faithful.update fun _ => rfl
  complete h faithful compares := by
    obtain ⟨trusts, before⟩ := faithful compares
    exact ⟨⟨rfl, trusts.blob, trusts.ready, trusts.fingerprint⟩, before⟩
  entered h faithful := faithful.log (by simp [Unpresented, presents])
  left _ h faithful := faithful.log (by simp [Unpresented, presents])
  done _ _ h faithful := faithful.log (by simp [Unpresented, presents])

theorem calling_faithful (printed : noxtls.hash blob = some fingerprint) :
    Calling noxtls env (Faithful blob fingerprint) (Faithful blob fingerprint) (Faithful blob fingerprint) where
  weaker _ := id
  sharper _ := id
  keyed _ faithful _ := faithful
  opened _ faithful _ := faithful
  receives := (exchanges_faithful printed).receives
  handles := (exchanges_faithful printed).handles
  exchanges := (exchanges_faithful printed).exchangesKexinit
  waits := (exchanges_faithful printed).waits
  sends _ _ payload _ := faithful_of_always (always_sendPacket background_unpresented passive_trust payload
    (by simp [Unpresented, presents]) (by simp [Unpresented, presents]))
  userauthReady _ faithful := faithful.update fun _ => rfl
  connectionReady _ faithful := faithful.update fun _ => rfl
  authenticated _ faithful := faithful.update fun _ => rfl
  localChannel _ faithful := faithful.update fun _ => rfl
  channelOpen _ _ _ _ faithful := faithful.update fun _ => rfl
  channelClosed _ faithful := faithful.update fun _ => rfl
  exitStatus _ _ faithful := faithful.update fun _ => rfl
  ident ident _ faithful := faithful.update (f := fun c => { c with clientIdent := ident }) fun _ => rfl
  username _ _ faithful := faithful.update fun _ => rfl
  host _ _ faithful := faithful.update fun _ => rfl
  password _ _ faithful := faithful.update fun _ => rfl
  privateKey _ _ faithful := faithful.update fun _ => rfl
  publicKey _ _ faithful := faithful.update fun _ => rfl
  noKey _ faithful := faithful.update fun _ => rfl

end Faithful

/-! ## The first host key of a connection -/

/-- The fingerprint in the context is that of its host key. -/
structure Printed (noxtls : Noxtls) (h : Host Client) : Prop where
  ready : h.self.serverHostKeyReady = true
  hash : noxtls.hash h.self.serverHostKeyBlob = some h.self.serverHostKeyFingerprint

/-- Of a state nothing is known. -/
abbrev Whatever (_ : Host Client) : Prop := True

section Printed

variable {noxtls : Noxtls} {env : Env} {h h' : Host Client}

theorem stays_whatever {α : Type} (m : Prog Client α) : Stays Whatever Whatever m := by
  constructor
  intro h _
  rcases m.run h with ⟨o, h'⟩
  cases o <;> exact trivial

theorem Triple.whatever {α : Type} {P I S : Host Client → Prop} {m : Prog Client α} {Q : α → Host Client → Prop}
    (triple : Triple P m Q (Breaks I S)) : Triple P m Q (Breaks Whatever Whatever) := by
  apply triple.mono (fun _ => id) (fun _ _ => id)
  intro e h _
  cases e <;> exact trivial

theorem Printed.update (printed : Printed noxtls h) {f : Client → Client} (same : ∀ c, trust (f c) = trust c) :
    Printed noxtls { h with self := f h.self } := by
  have same := same h.self
  simp only [trust, Prod.mk.injEq] at same
  obtain ⟨-, blob, ready, fingerprint⟩ := same
  exact ⟨ready.trans printed.ready, by dsimp only; rw [blob, fingerprint, printed.hash]⟩

theorem printed_of_always {α : Type} {m : Prog Client α} (always : Always (Quiet (fun _ => True) trust) m) :
    Stays (Printed noxtls) (Printed noxtls) m := by
  apply stays_of_always (fun _ => id) always
  rintro h h' ⟨same, -⟩ printed
  simp only [trust, Prod.mk.injEq] at same
  obtain ⟨-, blob, ready, fingerprint⟩ := same
  exact ⟨ready.trans printed.ready, by rw [blob, fingerprint, printed.hash]⟩

/-- What a reply is taken into: a host key and its fingerprint. -/
theorem takeReply_printed (priv pub : List UInt8) (m : Mem) (reply : KexReply) :
    Triple Whatever (takeReply noxtls priv pub m reply) (fun _ => Printed noxtls) (Breaks Whatever Whatever) ∧
      Stays (Printed noxtls) (Printed noxtls) (takeReply noxtls priv pub m reply) := by
  -- from the fingerprint on both are the same
  have rest : ∀ fingerprint, noxtls.hash (reply.hostKeyBlob.bytes m) = some fingerprint →
      Triple (fun h => h.self.serverHostKeyBlob = reply.hostKeyBlob.bytes m)
        (do
          modify (setFingerprint fingerprint)
          let serverPub := reply.serverPub.bytes m
          let secret ← lift .failed (noxtls.x25519SharedSecret priv serverPub)
          let c ← self
          let exchangeHash ← lift .failed (computeExchangeHash noxtls c.clientIdent c.serverIdent
            c.kexinitClientPayload c.kexinitServerPayload (reply.hostKeyBlob.bytes m) pub serverPub secret)
          modify (setExchangeHash exchangeHash)
          ensure ((verifyServerHostKeySignature noxtls m reply.hostKeyBlob reply.signature exchangeHash).isOk = true)
            .failed
          log (.hostKeyVerified (reply.hostKeyBlob.bytes m) exchangeHash secret)
          modify (setSecret secret)
          pure (exchangeHash, secret))
        (fun _ => Printed noxtls) (Breaks (Printed noxtls) (Printed noxtls)) := by
    intro fingerprint hashed
    apply triple_bind (Q := fun _ => Printed noxtls)
    · apply triple_modify
      intro h stored
      refine ⟨rfl, ?_⟩
      show noxtls.hash h.self.serverHostKeyBlob = some fingerprint
      rw [stored, hashed]
    intro _
    apply stays_lift_bind
    intro secret _
    apply triple_self_bind
    intro c
    apply stays_lift_bind
    intro exchangeHash _
    apply stays_bind (stays_modify fun h printed => printed.update fun _ => rfl)
    intro _
    apply stays_ensure_bind
    intro _
    apply stays_bind (stays_log fun h printed => ⟨printed.ready, printed.hash⟩)
    intro _
    exact stays_bind (stays_modify fun h printed => printed.update fun _ => rfl) fun _ => stays_pure _
  constructor
  · unfold takeReply
    apply triple_bind (stays_whatever _)
    intro _
    apply triple_bind (Q := fun _ h => h.self.serverHostKeyBlob = reply.hostKeyBlob.bytes m)
    · exact triple_modify fun _ _ => rfl
    intro _
    apply triple_lift_bind _ fun _ _ => trivial
    exact fun fingerprint hashed => Triple.whatever (rest fingerprint hashed)
  · constructor
    intro h printed
    unfold takeReply
    rw [log_bind_run, modify_bind_run]
    cases hashed : noxtls.hash (reply.hostKeyBlob.bytes m) with
    | none =>
        -- a hash that works on one input works on all
        have works := printed.hash
        unfold Noxtls.hash at hashed works
        split at hashed
        · cases hashed
        · rw [if_neg ‹_›] at works
          cases works
    | some fingerprint => exact (rest fingerprint hashed).ends _ rfl

theorem proposing_printed : Proposing noxtls env (Printed noxtls) (Printed noxtls) where
  asks _ printed := ⟨printed.ready, printed.hash⟩
  receives n := printed_of_always (always_recvInto ⟨⟨fun _ => trivial, trivial, trivial⟩, fun _ _ => trivial,
    fun _ _ => trivial⟩ passive_trust ⟨fun _ => trivial, fun _ => trivial⟩ n)
  sends _ _ payload _ := printed_of_always (always_sendPacket ⟨⟨fun _ => trivial, trivial, trivial⟩, fun _ _ => trivial,
    fun _ _ => trivial⟩ passive_trust payload trivial trivial)
  kexinitClient _ _ printed := printed.update fun _ => rfl
  kexinitServer _ _ printed := printed.update fun _ => rfl
  kexinitExchanged _ printed := printed.update fun _ => rfl

theorem deriveKeys_printed : Stays (Printed noxtls) (Printed noxtls) (deriveKeys noxtls env) := by
  apply triple_self_bind
  intro c
  apply stays_ensure_bind
  intro _
  apply stays_lift_bind
  intro keys _
  exact stays_modify fun h printed => printed.update fun _ => rfl

theorem exchanges_printed : Exchanges noxtls env (Printed noxtls) (Printed noxtls) where
  toProposing := proposing_printed
  weaker _ := id
  takes priv pub m reply := (takeReply_printed priv pub m reply).2
  derives := deriveKeys_printed
  complete _ printed := ⟨printed.ready, printed.hash⟩
  entered _ printed := ⟨printed.ready, printed.hash⟩
  left _ _ printed := ⟨printed.ready, printed.hash⟩
  done _ _ _ printed := ⟨printed.ready, printed.hash⟩

/-- The context trusts its host key. -/
def Settled (noxtls : Noxtls) (h : Host Client) : Prop := Printed noxtls h ∧ h.self.keyExchangeComplete = true

theorem exchangeKeys_settled : Triple Whatever (exchangeKeys noxtls env (waitForMessage noxtls env))
    (fun _ => Settled noxtls) (Breaks Whatever Whatever) := by
  apply triple_bind (stays_whatever _)
  intro generated
  apply stays_lift_bind
  rintro ⟨priv, pub⟩ -
  apply stays_lift_bind
  intro init _
  apply triple_bind (stays_whatever _)
  intro _
  apply triple_bind (stays_whatever _)
  rintro ⟨rx, m⟩
  apply stays_ensure_bind
  intro _
  apply stays_lift_bind
  intro reply _
  apply triple_bind (takeReply_printed priv pub m reply).1
  rintro ⟨exchangeHash, secret⟩
  apply Triple.whatever
  apply triple_bind (proposing_printed.sends 21 (by simp) [21] rfl).failAs
  intro _
  apply triple_bind (exchanges_printed.waits 21 255 2048).failAs
  rintro ⟨rx', _⟩
  apply stays_ensure_bind
  intro _
  apply triple_bind deriveKeys_printed.failAs
  intro _
  apply triple_bind (Q := fun _ => Settled noxtls)
  · exact triple_modify fun h printed => ⟨⟨printed.ready, printed.hash⟩, rfl⟩
  intro _
  exact triple_log fun h settled => ⟨⟨settled.1.ready, settled.1.hash⟩, settled.2⟩

/-- A connection that was made trusts a host key. -/
theorem connect_settled : Triple Whatever (connect noxtls env) (fun _ => Settled noxtls) (Breaks Whatever Whatever) := by
  have performs : Triple Whatever (performCurve25519Kex noxtls env) (fun _ => Settled noxtls)
      (Breaks Whatever Whatever) := by
    apply triple_self_bind
    intro c
    apply stays_ensure_bind
    intro _
    apply triple_bind (stays_whatever _)
    intro _
    exact triple_leaving exchangeKeys_settled (fun _ h settled => ⟨⟨settled.1.ready, settled.1.hash⟩, settled.2⟩)
      (fun _ _ => id) fun _ => id
  have proposing : Proposing noxtls env Whatever Whatever :=
    ⟨⟨fun _ => id, fun _ _ _ _ => stays_whatever _, fun _ _ => id, fun _ _ => id, fun _ => id⟩, fun _ => stays_whatever _⟩
  exact triple_connect (fun _ => id) (fun _ => stays_whatever _) (stays_whatever _) (fun _ _ => id) (fun _ => id)
    (proposing.exchanges performs)

end Printed

/-! ## Host key continuity -/

/-- The calls made while the connection is used, from the state `h` it was made in. -/
def uses (noxtls : Noxtls) (env : Env) (h : Host Client) (calls : List Call) : Host Client :=
  ((Calls.run noxtls env calls).run { h with trace := [] }).2

/-- **A connection keeps its host key if nobody shows another.**  After `connect` the
fingerprint is that of the host key, and if every host key that is presented from then on,
in whichever exchange, is the one the context has, it is the first one, and the
fingerprint is the one the caller saw. -/
theorem host_key_stays (noxtls : Noxtls) (env : Env) (c : Client) (tick : Nat) (inbox : List UInt8) (h : Host Client)
    (calls : List Call) (connected : (connect noxtls env).run ⟨c, tick, inbox, []⟩ = (.ok (), h))
    (used : ∀ call ∈ calls, call ≠ .connect ∧ call ≠ .close)
    (compares : ∀ e ∈ (uses noxtls env h calls).trace, Compares e) :
    noxtls.hash h.self.serverHostKeyBlob = some h.self.serverHostKeyFingerprint ∧
      Trusts h.self.serverHostKeyBlob h.self.serverHostKeyFingerprint (uses noxtls env h calls).self ∧
      ∀ e ∈ (uses noxtls env h calls).trace,
        Trusts h.self.serverHostKeyBlob h.self.serverHostKeyFingerprint e.2 ∧
        ∀ presented ∈ presents e.1, presented = h.self.serverHostKeyBlob := by
  have settled : Settled noxtls h := by
    have ends := (@connect_settled noxtls env).ends ⟨c, tick, inbox, []⟩ trivial
    rwa [connected] at ends
  have starts : Faithful h.self.serverHostKeyBlob h.self.serverHostKeyFingerprint { h with trace := [] } :=
    fun _ => ⟨⟨settled.2, rfl, settled.1.ready, rfl⟩, fun _ member => absurd member List.not_mem_nil⟩
  have stays : Stays (Faithful h.self.serverHostKeyBlob h.self.serverHostKeyFingerprint)
      (Faithful h.self.serverHostKeyBlob h.self.serverHostKeyFingerprint) (Calls.run noxtls env calls) := by
    apply stays_calls
    intro call member
    exact (calling_faithful settled.1.hash).stays call (used call member).1 fun is => absurd is (used call member).2
  exact ⟨settled.1.hash, stays.keeps _ starts compares⟩

namespace Probe

/-- The server's lane once the exchange under `hostKey` is complete. -/
def keyedLane (hostKey : List UInt8) : Lane :=
  let hash := exchangeHash (ed25519Blob hostKey)
  let secret := List.zipWith (· + ·) (Sample.fit 32 [5]) (Sample.fit 32 [9])
  let keys := rfcKeys noxtls (encodedSecret false secret) hash hash
  ⟨true, keys.s2cKey, keys.s2cMacKey, keys.s2cIv, 3⟩

/-- An exchange under the first host key and, encrypted, one under the second. -/
def twice (first second : List UInt8) : List UInt8 :=
  greeting [kexinit, reply first, [21]] ++ sealAll noxtls (keyedLane first) [kexinit, reply second, [21]]

def other : List UInt8 := List.replicate 32 1

theorem hash_other : exchangeHash (ed25519Blob other) = 35 :: zeros 31 := by decide +kernel

theorem reply_other : reply other = replyFor other 35 := reply_eq hash_other

theorem keyed_zeros : keyedLane (zeros 32) = ⟨true, 120 :: zeros 15, 122 :: zeros 31, 118 :: zeros 15, 3⟩ := by
  rw [keyedLane, hash_zeros]
  decide +kernel

/-- An exchange under the host key of zeros and, encrypted, one with this reply. -/
def twiceWith (second : List UInt8) : List UInt8 :=
  greeting [kexinit, replyFor (zeros 32) 3, [21]] ++
    sealAll noxtls ⟨true, 120 :: zeros 15, 122 :: zeros 31, 118 :: zeros 15, 3⟩ [kexinit, second, [21]]

theorem twice_zeros (second : List UInt8) : twice (zeros 32) second = twiceWith (reply second) := by
  rw [twice, reply_zeros, keyed_zeros, twiceWith]

/-- The client after it connected to this server. -/
def connected (inbox : List UInt8) : Host Client := ((connect noxtls brisk).run ⟨Client.init 22, 0, inbox, []⟩).2

theorem connected_run (inbox : List UInt8)
    (ok : ((connect noxtls brisk).run ⟨Client.init 22, 0, inbox, []⟩).1 = .ok ()) :
    (connect noxtls brisk).run ⟨Client.init 22, 0, inbox, []⟩ = (.ok (), connected inbox) :=
  Prod.ext ok rfl

end Probe

/-- A rekey under the same host key. -/
theorem host_key_stays_rekeyed :
    Trusts (Probe.connected (Probe.twice (zeros 32) (zeros 32))).self.serverHostKeyBlob
      (Probe.connected (Probe.twice (zeros 32) (zeros 32))).self.serverHostKeyFingerprint
      (uses Probe.noxtls Probe.brisk (Probe.connected (Probe.twice (zeros 32) (zeros 32))) [.rekey]).self := by
  have ran : ((connect Probe.noxtls Probe.brisk).run ⟨Client.init 22, 0, Probe.twice (zeros 32) (zeros 32), []⟩).1 =
        .ok () ∧
      ∀ e ∈ (uses Probe.noxtls Probe.brisk (Probe.connected (Probe.twice (zeros 32) (zeros 32))) [.rekey]).trace,
        Compares e := by
    rw [Probe.twice_zeros, Probe.reply_zeros]
    decide +kernel
  have stays := host_key_stays Probe.noxtls Probe.brisk (Client.init 22) 0 (Probe.twice (zeros 32) (zeros 32)) _
    [.rekey] (Probe.connected_run _ ran.1) (by simp) ran.2
  exact stays.2.1

/-- A rekey under another host key goes through. -/
theorem host_key_changes :
    ¬ ∀ (noxtls : Noxtls) (env : Env) (c : Client) (tick : Nat) (inbox : List UInt8) (h : Host Client)
      (calls : List Call), (connect noxtls env).run ⟨c, tick, inbox, []⟩ = (.ok (), h) →
      (∀ call ∈ calls, call ≠ .connect ∧ call ≠ .close) →
      ∀ e ∈ (uses noxtls env h calls).trace, ∀ exchangeHash secret, e.1 = .kexDone exchangeHash secret →
        e.2.serverHostKeyBlob = h.self.serverHostKeyBlob := by
  intro stays
  have ran : ((connect Probe.noxtls Probe.brisk).run ⟨Client.init 22, 0, Probe.twice (zeros 32) Probe.other, []⟩).1 =
        .ok () ∧
      ((uses Probe.noxtls Probe.brisk (Probe.connected (Probe.twice (zeros 32) Probe.other)) [.rekey]).trace.any
        fun e => match e.1 with
          | .kexDone _ _ => e.2.serverHostKeyBlob ≠
              (Probe.connected (Probe.twice (zeros 32) Probe.other)).self.serverHostKeyBlob
          | _ => false) = true := by
    rw [Probe.twice_zeros, Probe.reply_other]
    decide +kernel
  obtain ⟨⟨event, c⟩, member, apart⟩ := List.any_eq_true.1 ran.2
  have is := stays _ _ _ _ _ _ [.rekey] (Probe.connected_run _ ran.1) (by simp) _ member
  cases event with
  | kexDone exchangeHash secret => exact absurd (is exchangeHash secret rfl) (of_decide_eq_true apart)
  | _ => cases apart

end NoxSsh.Client
