/-
# Transport.Kex — what the key exchange computes

The computations that both programs carry a copy of: the KEXINIT payload, the
exchange hash, the six transport keys, the check of a host key signature.  Each
copy fills fixed buffers and gives up when one is full; the `_some` lemmas say
that for values of the sizes the callers pass none is, and what the result is.
-/
import NoxSsh.Transport.Noxtls

namespace NoxSsh.Transport

open Theory Wire

set_option autoImplicit false

/-! ## Identification -/

/-- `NETNOX_SSH_MAX_BANNER_LINES`. -/
def maxBannerLines : Nat := 8

/-- `strncmp(line, "SSH-", 4) == 0`. -/
def isIdentLine (line : List UInt8) : Bool := line.take 4 = ascii "SSH-"

/-- `snprintf("%s\r\n", ident)` into a buffer of 258 bytes. -/
def txIdent (ident : List UInt8) : List UInt8 := (ident ++ [13, 10]).take 257

/-! ## KEXINIT -/

/-- `NETNOX_SSH_MAX_KEXINIT_PAYLOAD_LEN`. -/
def maxKexinitPayloadLen : Nat := 32768

def appendNamelists (max : Nat) : List String → List UInt8 → Option (List UInt8)
  | [], payload => some payload
  | list :: lists, payload =>
      match payloadAppendNamelist max list payload with
      | none => none
      | some payload => appendNamelists max lists payload

/-- Ten name lists behind the message number and the cookie, then
`first_kex_packet_follows` and the reserved word. -/
def buildKexinitPayload (max : Nat) (lists : List String) (cookie : List UInt8) : Option (List UInt8) :=
  match appendNamelists max lists (20 :: cookie) with
  | none => none
  | some payload => if payload.length + 1 + 4 > max then none else some (payload ++ 0 :: be32 0)

/-- The bytes of the payload. -/
def kexinitPayload (lists : List String) (cookie : List UInt8) : List UInt8 :=
  20 :: cookie ++ (lists.map ascii).flatMap sshString ++ 0 :: be32 0

theorem appendNamelists_some {max : Nat} :
    ∀ (lists : List String) (payload : List UInt8),
      payload.length + ((lists.map ascii).flatMap sshString).length ≤ max →
      appendNamelists max lists payload = some (payload ++ (lists.map ascii).flatMap sshString) := by
  intro lists
  induction lists with
  | nil =>
      intro payload _
      simp [appendNamelists]
  | cons list lists ih =>
      intro payload fits
      simp only [List.map_cons, List.flatMap_cons, List.length_append, length_sshString] at fits ⊢
      have first : payloadAppendNamelist max list payload = some (payload ++ sshString (ascii list)) :=
        payloadAppendString_some (by omega)
      rw [appendNamelists, first]
      dsimp only
      rw [ih _ (by simp only [List.length_append, length_sshString]; omega), List.append_assoc]

theorem buildKexinitPayload_some {max : Nat} {lists : List String} {cookie : List UInt8}
    (fits : (kexinitPayload lists cookie).length ≤ max) :
    buildKexinitPayload max lists cookie = some (kexinitPayload lists cookie) := by
  simp only [kexinitPayload, List.length_append, List.length_cons, length_be32] at fits
  rw [buildKexinitPayload, appendNamelists_some lists _ (by simp only [List.length_cons]; omega)]
  dsimp only
  rw [if_neg (by simp only [List.length_append, List.length_cons]; omega), kexinitPayload]

theorem heads_kexinit {max : Nat} {lists : List String} {cookie : List UInt8} :
    Heads 20 (buildKexinitPayload max lists cookie) := by
  have lists_heads : ∀ (lists : List String) (payload out : List UInt8), payload.head? = some 20 →
      appendNamelists max lists payload = some out → out.head? = some 20 := by
    intro lists
    induction lists with
    | nil =>
        intro payload out heads is
        obtain rfl := Option.some.inj is
        exact heads
    | cons list lists ih =>
        intro payload out heads is
        rw [appendNamelists] at is
        split at is
        · simp at is
        · rename_i longer first
          obtain ⟨more, rfl⟩ := appends_string payload longer first
          refine ih _ out ?_ is
          rw [List.head?_append, heads]
          rfl
  intro out is
  unfold buildKexinitPayload at is
  split at is
  · simp at is
  · rename_i payload built
    split at is
    · simp at is
    · obtain rfl := Option.some.inj is
      rw [List.head?_append, lists_heads lists _ payload rfl built]
      rfl

/-! ## The exchange hash -/

/-- `V_C || V_S || I_C || I_S || K_S || Q_C || Q_S || K` in a buffer of 4096 bytes. -/
def computeExchangeHash (noxtls : Noxtls)
    (clientIdent serverIdent kexinitClient kexinitServer hostKeyBlob clientPub serverPub secret : List UInt8) :
    Option (List UInt8) := do
  let input ← payloadAppendString 4096 clientIdent []
  let input ← payloadAppendString 4096 serverIdent input
  let input ← payloadAppendString 4096 kexinitClient input
  let input ← payloadAppendString 4096 kexinitServer input
  let input ← payloadAppendString 4096 hostKeyBlob input
  let input ← payloadAppendString 4096 clientPub input
  let input ← payloadAppendString 4096 serverPub input
  let input ← bufAppendMpintBe 4096 secret input
  noxtls.hash input

def exchangeInput
    (clientIdent serverIdent kexinitClient kexinitServer hostKeyBlob clientPub serverPub secret : List UInt8) :
    List UInt8 :=
  sshString clientIdent ++ sshString serverIdent ++ sshString kexinitClient ++ sshString kexinitServer ++
    sshString hostKeyBlob ++ sshString clientPub ++ sshString serverPub ++ mpint secret

theorem computeExchangeHash_some {noxtls : Noxtls} (sha : noxtls.shaInit = true)
    {clientIdent serverIdent kexinitClient kexinitServer hostKeyBlob clientPub serverPub secret : List UInt8}
    (fits : clientIdent.length + serverIdent.length + kexinitClient.length + kexinitServer.length +
      hostKeyBlob.length + clientPub.length + serverPub.length + secret.length + 33 ≤ 4096) :
    computeExchangeHash noxtls clientIdent serverIdent kexinitClient kexinitServer hostKeyBlob clientPub
      serverPub secret = some (noxtls.sha256 (exchangeInput clientIdent serverIdent kexinitClient
        kexinitServer hostKeyBlob clientPub serverPub secret)) := by
  unfold computeExchangeHash exchangeInput
  rw [payloadAppendString_some (by simp; omega), Option.bind_eq_bind, Option.bind_some,
    payloadAppendString_some (by simp; omega), Option.bind_some,
    payloadAppendString_some (by simp; omega), Option.bind_some,
    payloadAppendString_some (by simp; omega), Option.bind_some,
    payloadAppendString_some (by simp; omega), Option.bind_some,
    payloadAppendString_some (by simp; omega), Option.bind_some,
    payloadAppendString_some (by simp; omega), Option.bind_some,
    bufAppendMpintBe_some (by simp; omega), Option.bind_some, Noxtls.hash, if_pos sha, List.nil_append]

theorem length_exchangeHash {noxtls : Noxtls}
    {clientIdent serverIdent kexinitClient kexinitServer hostKeyBlob clientPub serverPub secret hash : List UInt8}
    (is : computeExchangeHash noxtls clientIdent serverIdent kexinitClient kexinitServer hostKeyBlob
      clientPub serverPub secret = some hash) : hash.length = 32 := by
  unfold computeExchangeHash at is
  simp only [Option.bind_eq_bind, Option.bind_eq_some_iff] at is
  obtain ⟨_, -, _, -, _, -, _, -, _, -, _, -, _, -, input, -, hashed⟩ := is
  unfold Noxtls.hash at hashed
  split at hashed
  · obtain rfl := Option.some.inj hashed
    exact noxtls.length_sha256 input
  · simp at hashed

/-! ## The transport keys -/

/-- The shared secret as the key derivation takes it: an mpint, or the raw 32
bytes when `NETNOX_SSH_KEY_DERIV_MPINT` is `0`. -/
def encodeSecret (raw : Bool) (secret : List UInt8) : Option (List UInt8) :=
  if raw then some secret else bufAppendMpintBe 37 secret []

/-- The extension loop: `HASH(K || H || all output so far)`. -/
def extendKeyBlock (noxtls : Noxtls) (kEnc exchangeHash : List UInt8) (outLen : Nat) :
    Nat → List UInt8 → Option (List UInt8)
  | 0, out => some out
  | turns + 1, out =>
      if out.length < outLen then do
        let cont ← bufAppend 2048 kEnc []
        let cont ← bufAppend 2048 exchangeHash cont
        let cont ← bufAppend 2048 out cont
        let digest ← noxtls.hash cont
        extendKeyBlock noxtls kEnc exchangeHash outLen turns (out ++ digest.take (outLen - out.length))
      else some out

/-- `derive_key_block`.  The source keeps one buffer, `session_id`, and appends it
on both sides of the selector: as the exchange hash and as the session identifier. -/
def deriveKeyBlock (noxtls : Noxtls) (raw : Bool) (secret sessionId : List UInt8) (selector : UInt8)
    (outLen : Nat) : Option (List UInt8) := do
  let kEnc ← encodeSecret raw secret
  let seed ← bufAppend 1024 kEnc []
  let seed ← bufAppend 1024 sessionId seed
  let seed ← bufAppend 1024 [selector] seed
  let seed ← bufAppend 1024 sessionId seed
  let digest ← noxtls.hash seed
  extendKeyBlock noxtls kEnc sessionId outLen outLen (digest.take outLen)

structure TransportKeys where
  c2sIv : List UInt8
  s2cIv : List UInt8
  c2sKey : List UInt8
  s2cKey : List UInt8
  c2sMacKey : List UInt8
  s2cMacKey : List UInt8
  deriving DecidableEq, Repr

/-- `derive_transport_keys`, the letters `A` to `F` in order.  The hash works for
all six or fails at the first, so a failure has written nothing. -/
def deriveTransportKeys (noxtls : Noxtls) (raw : Bool) (secret sessionId : List UInt8) :
    Option TransportKeys := do
  let c2sIv ← deriveKeyBlock noxtls raw secret sessionId 65 16
  let s2cIv ← deriveKeyBlock noxtls raw secret sessionId 66 16
  let c2sKey ← deriveKeyBlock noxtls raw secret sessionId 67 16
  let s2cKey ← deriveKeyBlock noxtls raw secret sessionId 68 16
  let c2sMacKey ← deriveKeyBlock noxtls raw secret sessionId 69 32
  let s2cMacKey ← deriveKeyBlock noxtls raw secret sessionId 70 32
  some ⟨c2sIv, s2cIv, c2sKey, s2cKey, c2sMacKey, s2cMacKey⟩

/-- RFC 4253 section 7.2: `HASH(K || H || letter || session_id)`, cut to the key's length. -/
def rfcKey (noxtls : Noxtls) (kEnc exchangeHash sessionId : List UInt8) (selector : UInt8) (outLen : Nat) :
    List UInt8 :=
  (noxtls.sha256 (kEnc ++ exchangeHash ++ [selector] ++ sessionId)).take outLen

def rfcKeys (noxtls : Noxtls) (kEnc exchangeHash sessionId : List UInt8) : TransportKeys where
  c2sIv := rfcKey noxtls kEnc exchangeHash sessionId 65 16
  s2cIv := rfcKey noxtls kEnc exchangeHash sessionId 66 16
  c2sKey := rfcKey noxtls kEnc exchangeHash sessionId 67 16
  s2cKey := rfcKey noxtls kEnc exchangeHash sessionId 68 16
  c2sMacKey := rfcKey noxtls kEnc exchangeHash sessionId 69 32
  s2cMacKey := rfcKey noxtls kEnc exchangeHash sessionId 70 32

/-- What `encodeSecret` gives for a secret of 32 bytes. -/
def encodedSecret (raw : Bool) (secret : List UInt8) : List UInt8 := if raw then secret else mpint secret

theorem encodeSecret_some {raw : Bool} {secret : List UInt8} (length : secret.length = 32) :
    encodeSecret raw secret = some (encodedSecret raw secret) := by
  unfold encodeSecret encodedSecret
  cases raw with
  | true => rfl
  | false =>
      rw [if_neg (by simp), if_neg (by simp), bufAppendMpintBe_some (by simp; omega), List.nil_append]

theorem length_encodedSecret_le (raw : Bool) {secret : List UInt8} (length : secret.length = 32) :
    (encodedSecret raw secret).length ≤ 37 := by
  have bound := length_mpint_le secret
  unfold encodedSecret
  split <;> omega

/-- A whole block is there before the extension loop: it does not turn. -/
theorem extendKeyBlock_full {noxtls : Noxtls} {kEnc exchangeHash out : List UInt8} {outLen : Nat}
    (full : outLen ≤ out.length) (turns : Nat) :
    extendKeyBlock noxtls kEnc exchangeHash outLen turns out = some out := by
  cases turns with
  | zero => rfl
  | succ turns => rw [extendKeyBlock, if_neg (by omega)]

theorem deriveKeyBlock_some {noxtls : Noxtls} (sha : noxtls.shaInit = true) {raw : Bool}
    {secret sessionId : List UInt8} (secretLen : secret.length = 32) (idLen : sessionId.length = 32)
    (selector : UInt8) {outLen : Nat} (short : outLen ≤ 32) :
    deriveKeyBlock noxtls raw secret sessionId selector outLen =
      some (rfcKey noxtls (encodedSecret raw secret) sessionId sessionId selector outLen) := by
  have bound := length_encodedSecret_le raw secretLen
  unfold deriveKeyBlock rfcKey
  rw [encodeSecret_some secretLen, Option.bind_eq_bind, Option.bind_some,
    bufAppend_some (by simp; omega), Option.bind_some,
    bufAppend_some (by simp; omega), Option.bind_some,
    bufAppend_some (by simp; omega), Option.bind_some,
    bufAppend_some (by simp; omega), Option.bind_some, Noxtls.hash, if_pos sha, Option.bind_some,
    extendKeyBlock_full (by rw [List.length_take, noxtls.length_sha256]; omega), List.nil_append]

theorem deriveTransportKeys_some {noxtls : Noxtls} (sha : noxtls.shaInit = true) {raw : Bool}
    {secret sessionId : List UInt8} (secretLen : secret.length = 32) (idLen : sessionId.length = 32) :
    deriveTransportKeys noxtls raw secret sessionId =
      some (rfcKeys noxtls (encodedSecret raw secret) sessionId sessionId) := by
  unfold deriveTransportKeys rfcKeys
  simp only [deriveKeyBlock_some sha secretLen idLen _ (show 16 ≤ 32 by decide),
    deriveKeyBlock_some sha secretLen idLen _ (show 32 ≤ 32 by decide), Option.bind_eq_bind, Option.bind_some]

theorem length_rfcKey (noxtls : Noxtls) (kEnc exchangeHash sessionId : List UInt8) (selector : UInt8)
    {outLen : Nat} (short : outLen ≤ 32) :
    (rfcKey noxtls kEnc exchangeHash sessionId selector outLen).length = outLen := by
  rw [rfcKey, List.length_take, noxtls.length_sha256]
  omega

/-! ## Host keys and signatures -/

def algEd25519 : List UInt8 := ascii "ssh-ed25519"

/-- An `ssh-ed25519` blob: the name and the key, or the name and the signature. -/
def ed25519Blob (bytes : List UInt8) : List UInt8 := sshString algEd25519 ++ sshString bytes

/-- Both kinds of blob are built in buffers that are large enough. -/
def buildEd25519Blob (max : Nat) (bytes : List UInt8) : Option (List UInt8) := do
  let blob ← payloadAppendString max algEd25519 []
  payloadAppendString max bytes blob

@[simp] theorem length_algEd25519 : algEd25519.length = 11 := rfl

@[simp] theorem length_ed25519Blob (bytes : List UInt8) : (ed25519Blob bytes).length = 19 + bytes.length := by
  simp only [ed25519Blob, List.length_append, length_sshString, length_algEd25519]
  omega

/-- KEX_ECDH_INIT with a public value. -/
def initPayload (pub : List UInt8) : List UInt8 := [30] ++ sshString pub

/-- KEX_ECDH_REPLY under an `ssh-ed25519` host key. -/
def replyPayload (hostKey serverPub signature : List UInt8) : List UInt8 :=
  [31] ++ sshString (ed25519Blob hostKey) ++ sshString serverPub ++ sshString (ed25519Blob signature)

theorem length_replyPayload {hostKey serverPub signature : List UInt8} (keyLen : hostKey.length = 32)
    (pubLen : serverPub.length = 32) (signatureLen : signature.length = 64) :
    (replyPayload hostKey serverPub signature).length = 179 := by
  simp [replyPayload, keyLen, pubLen, signatureLen]

theorem buildEd25519Blob_some {max : Nat} {bytes : List UInt8} (fits : 19 + bytes.length ≤ max) :
    buildEd25519Blob max bytes = some (ed25519Blob bytes) := by
  unfold buildEd25519Blob ed25519Blob
  rw [payloadAppendString_some (by simp; omega), Option.bind_eq_bind, Option.bind_some,
    payloadAppendString_some (by simp; omega), List.nil_append]

/-- The key size the client picks for a modulus. -/
def rsaKeySize (modulusLen : Nat) : Option RsaKeySize :=
  if modulusLen ≤ 128 then some .bit1024
  else if modulusLen ≤ 256 then some .bit2048
  else if modulusLen ≤ 384 then some .bit3072
  else if modulusLen ≤ 512 then some .bit4096
  else none

/-- Right-align a number in a buffer of `n` zero bytes. -/
def rightAlign (n : Nat) (bytes : List UInt8) : List UInt8 := zeros (n - bytes.length) ++ bytes

/-- The RSA half of the signature check: modulus and exponent without leading
zeros, SHA-256 for `rsa-sha2-256` and SHA-1 for `ssh-rsa`. -/
def verifyRsaSignature (noxtls : Noxtls) (exponent modulus : List UInt8) (hash : HashAlgo)
    (signature exchangeHash : List UInt8) : Except NetnoxReturn Unit :=
  let modulus := modulus.dropWhile (· == 0)
  let exponent := exponent.dropWhile (· == 0)
  if modulus = [] ∨ exponent = [] then .error .failed
  else match rsaKeySize modulus.length with
    | none => .error .failed
    | some size =>
        match noxtls.rsaKeyInit size with
        | none => .error .failed
        | some keyBytes =>
            if modulus.length > keyBytes ∨ exponent.length > keyBytes then .error .failed
            else if signature.length > keyBytes then .error .failed
            else if keyBytes > 512 then .error .failed
            else if noxtls.rsaVerify (rightAlign keyBytes modulus) (rightAlign keyBytes exponent) hash
              exchangeHash (rightAlign keyBytes signature) then .ok ()
            else .error .failed

/-- `netnox_ssh_verify_server_host_key_signature`; the two blobs are views into
the reply, and their own strings are read with the same wrapping sums. -/
def verifyServerHostKeySignature (noxtls : Noxtls) (m : Mem) (hostKeyBlob sigBlob : View)
    (exchangeHash : List UInt8) : Except NetnoxReturn Unit :=
  if hostKeyBlob.len = 0 ∨ sigBlob.len = 0 ∨ exchangeHash = [] then .error .badParam
  else
    let hk := m.at hostKeyBlob.start
    let sig := m.at sigBlob.start
    match payloadReadStringView hk hostKeyBlob.len 0, payloadReadStringView sig sigBlob.len 0 with
    | some (hkAlg, hkOff), some (sigAlg, sigOff) =>
        match payloadReadStringView sig sigBlob.len sigOff with
        | none => .error .failed
        | some (sigData, _) =>
            if hkAlg.bytes hk = algEd25519 ∧ sigAlg.bytes sig = algEd25519 then
              match payloadReadStringView hk hostKeyBlob.len hkOff with
              | none => .error .failed
              | some (key, _) =>
                  if key.len ≠ 32 ∨ sigData.len ≠ 64 then .error .failed
                  else if noxtls.ed25519Verify (key.bytes hk) exchangeHash (sigData.bytes sig) then .ok ()
                  else .error .failed
            else if hkAlg.bytes hk = ascii "ssh-rsa" ∧
                (sigAlg.bytes sig = ascii "rsa-sha2-256" ∨ sigAlg.bytes sig = ascii "ssh-rsa") then
              match payloadReadStringView hk hostKeyBlob.len hkOff with
              | none => .error .failed
              | some (exponent, hkOff) =>
                  match payloadReadStringView hk hostKeyBlob.len hkOff with
                  | none => .error .failed
                  | some (modulus, _) =>
                      verifyRsaSignature noxtls (exponent.bytes hk) (modulus.bytes hk)
                        (if sigAlg.len = 12 then .sha256 else .sha1) (sigData.bytes sig) exchangeHash
            else .error .failed
    | _, _ => .error .failed

/-- An `ssh-ed25519` signature over the hash, under the key of the blob. -/
theorem verifyServerHostKeySignature_ed25519 {noxtls : Noxtls} {m : Mem} {hkStart sigStart : Nat}
    {key signature exchangeHash : List UInt8} (keyLen : key.length = 32) (sigLen : signature.length = 64)
    (hash : exchangeHash ≠ []) (hk : Holds m hkStart (ed25519Blob key))
    (sig : Holds m sigStart (ed25519Blob signature))
    (verifies : noxtls.ed25519Verify key exchangeHash signature = true) :
    verifyServerHostKeySignature noxtls m ⟨hkStart, 51⟩ ⟨sigStart, 83⟩ exchangeHash = .ok () := by
  obtain ⟨hkName, hkKey⟩ := holds_append.1 hk
  obtain ⟨sigName, sigData⟩ := holds_append.1 sig
  rw [length_sshString, length_algEd25519] at hkKey sigData
  have hkName' : Holds (m.at hkStart) 0 (sshString algEd25519) := Holds.at hkName
  have hkKey' : Holds (m.at hkStart) 15 (sshString key) := Holds.at hkKey
  have sigName' : Holds (m.at sigStart) 0 (sshString algEd25519) := Holds.at sigName
  have sigData' : Holds (m.at sigStart) 15 (sshString signature) := Holds.at sigData
  have readName : payloadReadStringView (m.at hkStart) 51 0 = some (⟨4, 11⟩, 15) :=
    payloadReadStringView_holds hkName' (by simp) (by decide)
  have readSigName : payloadReadStringView (m.at sigStart) 83 0 = some (⟨4, 11⟩, 15) :=
    payloadReadStringView_holds sigName' (by simp) (by decide)
  have readKey := payloadReadStringView_holds hkKey' (show 15 + (4 + key.length) ≤ 51 by omega) (by decide)
  have readSig := payloadReadStringView_holds sigData' (show 15 + (4 + signature.length) ≤ 83 by omega)
    (by decide)
  have showName : View.bytes ⟨4, 11⟩ (m.at hkStart) = algEd25519 := view_sshString hkName'
  have showSigName : View.bytes ⟨4, 11⟩ (m.at sigStart) = algEd25519 := view_sshString sigName'
  have showKey := view_sshString hkKey'
  have showSig := view_sshString sigData'
  rw [verifyServerHostKeySignature, if_neg (by simp [hash])]
  simp only [readName, readSigName, readSig, showName, showSigName, readKey, true_and, if_true]
  rw [if_neg (by simp [keyLen, sigLen]), showKey, showSig, if_pos verifies]

end NoxSsh.Transport
