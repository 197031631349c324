/-
# Transport.Noxtls — the cryptographic library, as the program sees it

The primitives live in a library that is not part of this repository.  They are
a parameter, `Noxtls`: what each call takes and returns, with the sizes of the
output buffers as fields.  Everything else the program relies on is stated where
it is used, as a named law (`CtrMode`, `KeyAgreement`, `SignatureScheme`).

HMAC-SHA-256 and the counter increment are the program's own code and are
modelled here.  `ctrIncrementBlocks` walks the sixteen bytes from the last to the
first with a carry; `beNat_ctrIncrementBlocks` says that this is addition modulo
`2 ^ 128`.
-/
import NoxSsh.Wire.Payload

namespace NoxSsh.Transport

open Theory Wire

set_option autoImplicit false

/-- The key sizes `noxtls_rsa_key_init` knows. -/
inductive RsaKeySize where
  | bit1024
  | bit2048
  | bit3072
  | bit4096
  deriving DecidableEq, Repr

inductive HashAlgo where
  | sha1
  | sha256
  deriving DecidableEq, Repr

/-- The library's calls.  `none` is any return code but success. -/
structure Noxtls where
  /-- `noxtls_sha_init` for SHA-256 succeeds. -/
  shaInit : Bool
  sha256 : List UInt8 → List UInt8
  /-- `noxtls_aes_encrypt_ctr` with a 128-bit key: key, input, counter block. -/
  aesEncryptCtr : List UInt8 → List UInt8 → List UInt8 → Option (List UInt8)
  /-- `noxtls_x25519_generate_key` draws its own randomness: private and public key. -/
  x25519GenerateKey : Nat → Option (List UInt8 × List UInt8)
  x25519ClampScalar : List UInt8 → List UInt8
  x25519PublicKey : List UInt8 → Option (List UInt8)
  /-- Private key, peer's public key. -/
  x25519SharedSecret : List UInt8 → List UInt8 → Option (List UInt8)
  ed25519PublicKey : List UInt8 → Option (List UInt8)
  /-- Secret key, message. -/
  ed25519Sign : List UInt8 → List UInt8 → Option (List UInt8)
  /-- Public key, message, signature. -/
  ed25519Verify : List UInt8 → List UInt8 → List UInt8 → Bool
  /-- `noxtls_rsa_key_init`: the `key_bytes` of a fresh key. -/
  rsaKeyInit : RsaKeySize → Option Nat
  /-- Modulus, exponent, hash, message, signature. -/
  rsaVerify : List UInt8 → List UInt8 → HashAlgo → List UInt8 → List UInt8 → Bool
  length_sha256 : ∀ data, (sha256 data).length = 32
  length_aesEncryptCtr : ∀ key data counter out,
    aesEncryptCtr key data counter = some out → out.length = data.length
  length_x25519GenerateKey : ∀ t priv pub,
    x25519GenerateKey t = some (priv, pub) → priv.length = 32 ∧ pub.length = 32
  length_x25519PublicKey : ∀ priv pub, x25519PublicKey priv = some pub → pub.length = 32
  length_x25519SharedSecret : ∀ priv pub secret,
    x25519SharedSecret priv pub = some secret → secret.length = 32
  length_ed25519PublicKey : ∀ sk pk, ed25519PublicKey sk = some pk → pk.length = 32
  length_ed25519Sign : ∀ sk message sig, ed25519Sign sk message = some sig → sig.length = 64

/-- `netnox_ssh_sha256`, and the three calls that stand open-coded elsewhere. -/
def Noxtls.hash (noxtls : Noxtls) (data : List UInt8) : Option (List UInt8) :=
  if noxtls.shaInit then some (noxtls.sha256 data) else none

/-! ## HMAC -/

/-- A 64-byte pad of `fill` with the key XORed in. -/
def hmacPad (fill : UInt8) (key : List UInt8) : List UInt8 :=
  (List.range 64).map fun i => fill ^^^ (key[i]?).getD 0

def hmacSha256 (noxtls : Noxtls) (key data : List UInt8) : Option (List UInt8) :=
  if noxtls.shaInit then
    let key := if key.length > 64 then noxtls.sha256 key else key
    let inner := noxtls.sha256 (hmacPad 0x36 key ++ data)
    some (noxtls.sha256 (hmacPad 0x5C key ++ inner))
  else none

theorem length_hmacSha256 {noxtls : Noxtls} {key data mac : List UInt8}
    (computed : hmacSha256 noxtls key data = some mac) : mac.length = 32 := by
  unfold hmacSha256 at computed
  split at computed
  · simp only [Option.some.injEq] at computed
    rw [← computed, noxtls.length_sha256]
  · simp at computed

/-! ## The counter block -/

/-- The loop of `ctr_increment_blocks`, over the bytes last to first. -/
def ctrIncrementLoop : List UInt8 → Nat → List UInt8
  | [], _ => []
  | c :: rest, carry =>
      if carry > 0 then UInt8.ofNat ((carry + c.toNat) % 256) :: ctrIncrementLoop rest ((carry + c.toNat) / 256)
      else c :: rest

def ctrIncrementBlocks (counter : List UInt8) (nBlocks : Nat) : List UInt8 :=
  (ctrIncrementLoop counter.reverse nBlocks).reverse

@[simp] theorem length_ctrIncrementLoop (bytes : List UInt8) (carry : Nat) :
    (ctrIncrementLoop bytes carry).length = bytes.length := by
  induction bytes generalizing carry with
  | nil => rfl
  | cons c rest ih =>
      unfold ctrIncrementLoop
      split <;> simp [ih]

@[simp] theorem length_ctrIncrementBlocks (counter : List UInt8) (nBlocks : Nat) :
    (ctrIncrementBlocks counter nBlocks).length = counter.length := by
  simp [ctrIncrementBlocks]

theorem ofDigits_ctrIncrementLoop (bytes : List UInt8) (carry : Nat) :
    Nat.ofDigits 256 ((ctrIncrementLoop bytes carry).map UInt8.toNat) =
      (Nat.ofDigits 256 (bytes.map UInt8.toNat) + carry) % 256 ^ bytes.length := by
  have bound : ∀ l : List UInt8, Nat.ofDigits 256 (l.map UInt8.toNat) < 256 ^ l.length := by
    intro l
    have := beNat_lt l.reverse
    simpa [beNat] using this
  induction bytes generalizing carry with
  | nil => simp [ctrIncrementLoop, Nat.mod_one]
  | cons c rest ih =>
      unfold ctrIncrementLoop
      split
      · have low : (UInt8.ofNat ((carry + c.toNat) % 256)).toNat = (carry + c.toNat) % 256 := by
          simp
        simp only [List.map_cons, Nat.ofDigits_cons, List.length_cons, ih, low]
        -- the low digit keeps the remainder, the quotient is carried on
        generalize Nat.ofDigits 256 (rest.map UInt8.toNat) = tail
        have split : c.toNat + 256 * tail + carry =
            (carry + c.toNat) % 256 + 256 * (tail + (carry + c.toNat) / 256) := by omega
        rw [split, Nat.pow_succ, Nat.mul_comm (256 ^ rest.length) 256, Nat.mod_mul,
          Nat.add_mul_mod_self_left, Nat.mod_mod, Nat.add_mul_div_left _ _ (by decide),
          Nat.div_eq_of_lt (Nat.mod_lt _ (by decide)), Nat.zero_add]
      · obtain rfl : carry = 0 := by omega
        rw [Nat.add_zero, Nat.mod_eq_of_lt (bound (c :: rest))]

/-- Incrementing the counter is addition modulo `2 ^ 128`, across every carry. -/
theorem beNat_ctrIncrementBlocks (counter : List UInt8) (nBlocks : Nat) :
    beNat (ctrIncrementBlocks counter nBlocks) = (beNat counter + nBlocks) % 256 ^ counter.length := by
  unfold beNat ctrIncrementBlocks
  rw [List.reverse_reverse, ofDigits_ctrIncrementLoop, List.length_reverse]

/-- Two increments are one. -/
theorem ctrIncrementBlocks_add (counter : List UInt8) (a b : Nat) :
    ctrIncrementBlocks (ctrIncrementBlocks counter a) b = ctrIncrementBlocks counter (a + b) := by
  apply beNat_inj (by simp)
  rw [beNat_ctrIncrementBlocks, beNat_ctrIncrementBlocks, beNat_ctrIncrementBlocks,
    length_ctrIncrementBlocks, Nat.mod_add_mod, Nat.add_assoc]

/-! ## What is assumed of the library -/

/-- `noxtls_aes_encrypt_ctr` succeeds and XORs its input with the key stream of
consecutive counter blocks, the counter taken as a 128-bit big-endian number. -/
def CtrMode (noxtls : Noxtls) : Prop :=
  ∃ block : List UInt8 → Nat → Nat → UInt8, ∀ key data counter, counter.length = 16 →
    noxtls.aesEncryptCtr key data counter =
      some (ctrStream (fun n => block key (n % 2 ^ 128)) (beNat counter) data)

/-- The key stream depends on the counter block only through its value. -/
theorem ctrStream_wrap (block : Nat → Nat → UInt8) (start : Nat) (data : List UInt8) :
    ctrStream (fun n => block (n % 2 ^ 128)) (start % 2 ^ 128) data =
      ctrStream (fun n => block (n % 2 ^ 128)) start data := by
  unfold ctrStream
  simp only [Nat.mod_add_mod]

/-- A generated key and a random scalar agree on the secret, whichever side computes it. -/
structure KeyAgreement (noxtls : Noxtls) : Prop where
  generates : ∀ t, ∃ priv pub, noxtls.x25519GenerateKey t = some (priv, pub)
  publishes : ∀ seed, ∃ pub, noxtls.x25519PublicKey (noxtls.x25519ClampScalar seed) = some pub
  secret : ∀ t priv pub seed pub', noxtls.x25519GenerateKey t = some (priv, pub) →
    noxtls.x25519PublicKey (noxtls.x25519ClampScalar seed) = some pub' →
    ∃ shared, noxtls.x25519SharedSecret priv pub' = some shared ∧
      noxtls.x25519SharedSecret (noxtls.x25519ClampScalar seed) pub = some shared

/-- Verification accepts what signing produced. -/
structure SignatureScheme (noxtls : Noxtls) : Prop where
  publishes : ∀ sk, ∃ pk, noxtls.ed25519PublicKey sk = some pk
  signs : ∀ sk pk message, noxtls.ed25519PublicKey sk = some pk →
    ∃ sig, noxtls.ed25519Sign sk message = some sig ∧ noxtls.ed25519Verify pk message sig = true

/-! ## A small library that keeps the laws

Nothing secret about it: it stands in where a statement has to be run. -/

namespace Sample

/-- Cut or fill to `n` bytes. -/
def fit (n : Nat) (bytes : List UInt8) : List UInt8 := (bytes ++ zeros n).take n

@[simp] theorem length_fit (n : Nat) (bytes : List UInt8) : (fit n bytes).length = n := by
  simp [fit, zeros]

def sum (data : List UInt8) : Nat := data.foldl (fun a b => (a * 257 + b.toNat + 1) % 4294967291) 7

def digest (data : List UInt8) : List UInt8 := (List.range 32).map fun i => UInt8.ofNat (sum data / (i + 1))

def block (key : List UInt8) (n i : Nat) : UInt8 := (key[i]?).getD 0 + UInt8.ofNat n

def sign (pk message : List UInt8) : List UInt8 := digest (pk ++ message) ++ digest (message ++ pk)

def noxtls : Noxtls where
  shaInit := true
  sha256 := digest
  aesEncryptCtr key data counter :=
    some (ctrStream (fun n => block key (n % 2 ^ 128)) (beNat counter) data)
  x25519GenerateKey t := some (fit 32 [UInt8.ofNat t], fit 32 [UInt8.ofNat t])
  x25519ClampScalar seed := seed
  x25519PublicKey priv := some (fit 32 priv)
  x25519SharedSecret priv pub := some (List.zipWith (· + ·) (fit 32 priv) (fit 32 pub))
  ed25519PublicKey sk := some (fit 32 sk)
  ed25519Sign sk message := some (sign (fit 32 sk) message)
  ed25519Verify pk message sig := sig = sign pk message
  rsaKeyInit _ := none
  rsaVerify _ _ _ _ _ := false
  length_sha256 data := by simp [digest]
  length_aesEncryptCtr key data counter out is := by
    obtain rfl := Option.some.inj is
    simp
  length_x25519GenerateKey t priv pub is := by
    simp only [Option.some.injEq, Prod.mk.injEq] at is
    obtain ⟨rfl, rfl⟩ := is
    simp
  length_x25519PublicKey priv pub is := by
    obtain rfl := Option.some.inj is
    simp
  length_x25519SharedSecret priv pub secret is := by
    obtain rfl := Option.some.inj is
    simp
  length_ed25519PublicKey sk pk is := by
    obtain rfl := Option.some.inj is
    simp
  length_ed25519Sign sk message sig is := by
    obtain rfl := Option.some.inj is
    simp [sign, digest]

/-- The same with a key stream of zeros, which is quicker to run. -/
def plain : Noxtls :=
  { noxtls with
    aesEncryptCtr := fun _ data _ => some data
    length_aesEncryptCtr := by
      intro _ _ _ _ is
      rw [Option.some.inj is] }

theorem ctrMode : CtrMode noxtls := ⟨block, fun _ _ _ _ => rfl⟩

theorem keyAgreement : KeyAgreement noxtls where
  generates t := ⟨_, _, rfl⟩
  publishes seed := ⟨_, rfl⟩
  secret := by
    rintro t priv pub seed pub' ⟨⟩ ⟨⟩
    refine ⟨_, rfl, ?_⟩
    have same : ∀ n bytes, fit n (fit n bytes) = fit n bytes := by
      intro n bytes
      rw [fit, List.take_left' (by simp)]
    simp only [noxtls, same]
    rw [List.zipWith_comm_of_comm fun a b => UInt8.add_comm a b]

theorem signatureScheme : SignatureScheme noxtls where
  publishes sk := ⟨_, rfl⟩
  signs := by
    rintro sk pk message ⟨⟩
    exact ⟨_, rfl, by simp [noxtls]⟩

end Sample

end NoxSsh.Transport
