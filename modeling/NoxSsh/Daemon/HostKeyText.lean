/-
# Daemon.HostKeyText — the host key as it is printed, and the blobs it is read from

`print_host_public_key` writes the blob of the host key as 68 letters taken from an
alphabet, `decode_blob` reads such letters back from a range of byte values each.  Both
pack three bytes into one word.

The two undo each other (`host_key_text_inverse`): the printed letters are decoded to the
key's blob, and no other 68 letters are.
-/
import NoxSsh.Daemon.AuthorizedKeys

namespace NoxSsh.Daemon

open Theory Wire Transport

set_option autoImplicit false

/-! ## Printing -/

def alphabet : List UInt8 := ascii "ABCDEFGHIJKLMNOPQRSTUVWXYZabcdefghijklmnopqrstuvwxyz0123456789+/"

/-- The 19 bytes in front of the key. -/
def hostKeyPrefix : List UInt8 :=
  [0, 0, 0, 11, 115, 115, 104, 45, 101, 100, 50, 53, 53, 49, 57, 0, 0, 0, 32]

/-- The letter of the six low bits. -/
def letterAt (x : UInt32) : UInt8 := alphabet.getD (x &&& 63).toNat 0

/-- The loop of `print_host_public_key`, three bytes at a time. -/
def encodeLoop : List UInt8 → List UInt8
  | a :: b :: c :: rest =>
      let x : UInt32 := (a.toUInt32 <<< 16) ||| (b.toUInt32 <<< 8) ||| c.toUInt32
      letterAt (x >>> 18) :: letterAt (x >>> 12) :: letterAt (x >>> 6) :: letterAt x :: encodeLoop rest
  | _ => []

/-- The 68 characters for a public key. -/
def encodedHostKey (key : List UInt8) : List UInt8 := encodeLoop (hostKeyPrefix ++ key)

/-- `print_host_public_key`: what it prints. -/
def printHostPublicKey (noxtls : Noxtls) (seed : List UInt8) : Option (List UInt8) := do
  let key ← noxtls.ed25519PublicKey seed
  pure (ascii "ssh-ed25519 " ++ encodedHostKey key ++ ascii " noxsshd-host" ++ [10])

/-! ## Decoding -/

/-- `b64val`. -/
def b64val (c : UInt8) : Option UInt32 :=
  if 65 ≤ c ∧ c ≤ 90 then some (c.toUInt32 - 65)
  else if 97 ≤ c ∧ c ≤ 122 then some (c.toUInt32 - 97 + 26)
  else if 48 ≤ c ∧ c ≤ 57 then some (c.toUInt32 - 48 + 52)
  else if c = 43 then some 62
  else if c = 47 then some 63
  else none

/-- The loop of `decode_blob`, four letters at a time. -/
def decodeLoop : List UInt8 → Option (List UInt8)
  | p :: q :: r :: s :: rest => do
      let a ← b64val p
      let b ← b64val q
      let c ← b64val r
      let d ← b64val s
      let x := (a <<< 18) ||| (b <<< 12) ||| (c <<< 6) ||| d
      let more ← decodeLoop rest
      pure ((x >>> 16).toUInt8 :: (x >>> 8).toUInt8 :: x.toUInt8 :: more)
  | [] => some []
  | _ => none

section Packing

theorem toNat_shift {x s : UInt32} (n : Nat) (is : s.toNat = n) (short : n < 32) (small : 2 ^ n * x.toNat < 2 ^ 32) :
    (x <<< s).toNat = 2 ^ n * x.toNat := by
  rw [UInt32.toNat_shiftLeft, is, Nat.mod_eq_of_lt short, Nat.shiftLeft_eq, Nat.mul_comm]
  exact Nat.mod_eq_of_lt small

/-- Fields that do not overlap are added. -/
theorem toNat_pack {a b c d : UInt32} (ha : a.toNat < 64) (hb : b.toNat < 64) (hc : c.toNat < 64) (hd : d.toNat < 64) :
    ((a <<< 18) ||| (b <<< 12) ||| (c <<< 6) ||| d).toNat = Base64.join a.toNat b.toNat c.toNat d.toNat := by
  have first := Nat.two_pow_add_eq_or_of_lt (i := 18) (b := 2 ^ 12 * b.toNat) (by omega) a.toNat
  have third := Nat.two_pow_add_eq_or_of_lt (i := 6) (b := d.toNat) (by omega) ((a.toNat * 64 + b.toNat) * 64 + c.toNat)
  have high : (a <<< 18).toNat = 2 ^ 18 * a.toNat := toNat_shift 18 rfl (by decide) (by omega)
  have upper : (b <<< 12).toNat = 2 ^ 12 * b.toNat := toNat_shift 12 rfl (by decide) (by omega)
  have lower : (c <<< 6).toNat = 2 ^ 6 * c.toNat := toNat_shift 6 rfl (by decide) (by omega)
  have second := Nat.two_pow_add_eq_or_of_lt (i := 12) (b := 2 ^ 6 * c.toNat) (by omega) (2 ^ 6 * a.toNat + b.toNat)
  rw [UInt32.toNat_or, UInt32.toNat_or, UInt32.toNat_or, high, upper, lower, ← first]
  rw [show 2 ^ 18 * a.toNat + 2 ^ 12 * b.toNat = 2 ^ 12 * (2 ^ 6 * a.toNat + b.toNat) by omega, ← second]
  rw [show 2 ^ 12 * (2 ^ 6 * a.toNat + b.toNat) + 2 ^ 6 * c.toNat =
    2 ^ 6 * ((a.toNat * 64 + b.toNat) * 64 + c.toNat) by omega, ← third, Base64.join]
  omega

theorem toNat_join (a b c : UInt8) :
    ((a.toUInt32 <<< 16) ||| (b.toUInt32 <<< 8) ||| c.toUInt32).toNat = a.toNat * 65536 + b.toNat * 256 + c.toNat := by
  have ha := a.toNat_lt
  have hb := b.toNat_lt
  have hc := c.toNat_lt
  have first := Nat.two_pow_add_eq_or_of_lt (i := 16) (b := 2 ^ 8 * b.toNat) (by omega) a.toNat
  have second := Nat.two_pow_add_eq_or_of_lt (i := 8) (b := c.toNat) (by omega) (2 ^ 8 * a.toNat + b.toNat)
  have high : (a.toUInt32 <<< 16).toNat = 2 ^ 16 * a.toNat := toNat_shift 16 rfl (by decide) (by simp; omega)
  have lower : (b.toUInt32 <<< 8).toNat = 2 ^ 8 * b.toNat := toNat_shift 8 rfl (by decide) (by simp; omega)
  rw [UInt32.toNat_or, UInt32.toNat_or, high, lower, UInt8.toNat_toUInt32, ← first]
  rw [show 2 ^ 16 * a.toNat + 2 ^ 8 * b.toNat = 2 ^ 8 * (2 ^ 8 * a.toNat + b.toNat) by omega, ← second]
  omega

theorem alphabet_eq : alphabet = (List.range 64).map Base64.letter := by decide +kernel

theorem letterAt_eq (x : UInt32) : letterAt x = Base64.letter (x.toNat % 64) := by
  have bits : (x &&& 63).toNat = x.toNat % 64 := by
    rw [UInt32.toNat_and]
    exact Nat.and_two_pow_sub_one_eq_mod x.toNat 6
  have inside : x.toNat % 64 < 64 := Nat.mod_lt _ (by decide)
  rw [letterAt, bits, alphabet_eq]
  simp [inside]

theorem encodeLoop_eq : ∀ (bytes : List UInt8), encodeLoop bytes = Base64.encode bytes
  | [] => rfl
  | [_] => rfl
  | [_, _] => rfl
  | a :: b :: c :: rest => by
      have ih := encodeLoop_eq rest
      have joined := toNat_join a b c
      have := a.toNat_lt
      have := b.toNat_lt
      have := c.toNat_lt
      rw [encodeLoop, Base64.encode, Base64.lettersOf]
      generalize (a.toUInt32 <<< 16) ||| (b.toUInt32 <<< 8) ||| c.toUInt32 = x at joined ⊢
      have high : (x >>> 18).toNat % 64 = (a.toNat * 65536 + b.toNat * 256 + c.toNat) / 262144 := by
        rw [UInt32.toNat_shiftRight, joined, Nat.shiftRight_eq_div_pow]
        simp
        omega
      have upper : (x >>> 12).toNat % 64 = (a.toNat * 65536 + b.toNat * 256 + c.toNat) / 4096 % 64 := by
        rw [UInt32.toNat_shiftRight, joined, Nat.shiftRight_eq_div_pow]
        rfl
      have lower : (x >>> 6).toNat % 64 = (a.toNat * 65536 + b.toNat * 256 + c.toNat) / 64 % 64 := by
        rw [UInt32.toNat_shiftRight, joined, Nat.shiftRight_eq_div_pow]
        rfl
      rw [letterAt_eq, letterAt_eq, letterAt_eq, letterAt_eq, high, upper, lower, joined, ih]
      rfl

theorem toNat_above {c k : UInt8} (above : k ≤ c) : (c.toUInt32 - k.toUInt32).toNat = c.toNat - k.toNat := by
  have wide : k.toUInt32 ≤ c.toUInt32 := by
    rw [UInt32.le_iff_toNat_le]
    simpa [UInt8.le_iff_toNat_le] using above
  rw [UInt32.toNat_sub_of_le _ _ wide]
  simp

theorem b64val_eq (c : UInt8) : (b64val c).map UInt32.toNat = Base64.value c := by
  have small := c.toNat_lt
  unfold b64val Base64.value
  split
  · rename_i upper
    have is := toNat_above upper.1
    exact congrArg some is
  split
  · rename_i lower
    have is := toNat_above lower.1
    rw [Option.map_some, UInt32.toNat_add, show (c.toUInt32 - 97).toNat = c.toNat - 97 from is]
    exact congrArg some (Nat.mod_eq_of_lt (by simp; omega))
  split
  · rename_i digit
    have is := toNat_above digit.1
    rw [Option.map_some, UInt32.toNat_add, show (c.toUInt32 - 48).toNat = c.toNat - 48 from is]
    exact congrArg some (Nat.mod_eq_of_lt (by simp; omega))
  split
  · rfl
  split
  · rfl
  · rfl

/-- A letter has a value for both or for neither. -/
theorem b64val_cases (c : UInt8) :
    (b64val c = none ∧ Base64.value c = none) ∨ ∃ v, b64val c = some v ∧ Base64.value c = some v.toNat ∧ v.toNat < 64 := by
  have same := b64val_eq c
  cases known : b64val c with
  | none =>
      rw [known] at same
      exact .inl ⟨rfl, same.symm⟩
  | some v =>
      rw [known] at same
      exact .inr ⟨v, rfl, same.symm, (Base64.letter_of_value same.symm).2⟩

/-- The three bytes of a word. -/
theorem bytesOf_word (x : UInt32) : Base64.bytesOf x.toNat = [(x >>> 16).toUInt8, (x >>> 8).toUInt8, x.toUInt8] := by
  have high : (x >>> 16).toUInt8 = UInt8.ofNat (x.toNat / 65536) := by
    rw [← UInt8.toNat_inj, UInt32.toNat_toUInt8, UInt32.toNat_shiftRight, UInt8.toNat_ofNat', Nat.shiftRight_eq_div_pow]
    simp
  have middle : (x >>> 8).toUInt8 = UInt8.ofNat (x.toNat / 256) := by
    rw [← UInt8.toNat_inj, UInt32.toNat_toUInt8, UInt32.toNat_shiftRight, UInt8.toNat_ofNat', Nat.shiftRight_eq_div_pow]
    simp
  rw [Base64.bytesOf, high, middle, UInt8.ofNat_uInt32ToNat]

theorem decodeLoop_eq : ∀ (text : List UInt8), decodeLoop text = Base64.decode text
  | [] => rfl
  | [_] => rfl
  | [_, _] => rfl
  | [_, _, _] => rfl
  | p :: q :: r :: s :: rest => by
      have ih := decodeLoop_eq rest
      rw [decodeLoop, Base64.decode, ih]
      rcases b64val_cases p with ⟨bits, value⟩ | ⟨a, bits, value, ha⟩ <;> rw [bits, value]
      · rfl
      rcases b64val_cases q with ⟨bits, value⟩ | ⟨b, bits, value, hb⟩ <;> rw [bits, value]
      · rfl
      rcases b64val_cases r with ⟨bits, value⟩ | ⟨c, bits, value, hc⟩ <;> rw [bits, value]
      · rfl
      rcases b64val_cases s with ⟨bits, value⟩ | ⟨d, bits, value, hd⟩ <;> rw [bits, value]
      · rfl
      have packed := toNat_pack ha hb hc hd
      cases Base64.decode rest with
      | none => simp only [Option.bind_eq_bind, Option.bind_some, Option.bind_none]
      | some more =>
          simp only [Option.bind_eq_bind, Option.bind_some, ← packed, bytesOf_word, List.cons_append, List.nil_append]

end Packing

/-! ## The two together -/

section Inverse

variable {key token blob : List UInt8}

theorem hostKeyPrefix_eq (sized : key.length = 32) : hostKeyPrefix ++ key = ed25519Blob key := by
  rw [keyBlob_split sized]
  rfl

theorem encodedHostKey_eq (sized : key.length = 32) : encodedHostKey key = Base64.encode (ed25519Blob key) := by
  rw [encodedHostKey, hostKeyPrefix_eq sized, encodeLoop_eq]

/-- `decode_blob` with its own loop. -/
theorem decodeBlob_eq (src : List UInt8) :
    decodeBlob src = if src.length ≠ 68 then none else match decodeLoop src with
      | none => none
      | some out => if out.take 19 = hostKeyPrefix then some out else none := by
  rw [decodeLoop_eq]
  rfl

/-- What is accepted is a blob with a key in it. -/
theorem blob_of_decodeBlob (read : decodeBlob token = some blob) :
    (blob.drop 19).length = 32 ∧ blob = ed25519Blob (blob.drop 19) := by
  rw [decodeBlob] at read
  split at read
  · cases read
  rename_i long
  split at read
  · cases read
  rename_i out known
  split at read
  swap
  · cases read
  rename_i named
  obtain rfl := Option.some.inj read
  have whole := Base64.length_decode _ _ known
  have size : (out.drop 19).length = 32 := by
    rw [List.length_drop]
    omega
  refine ⟨size, ?_⟩
  rw [keyBlob_split size, ← named, List.take_append_drop]

end Inverse

/-- **Printing and decoding a host key are inverse.**  For every seed whose public key is
`key`, what is printed between the name and the comment are 68 characters, they depend on
the key only, and they are decoded to its blob of 51 bytes.  Every token of 68 characters
that is decoded is what is printed for the key it yields; so two tokens that yield one key
are one. -/
theorem host_key_text_inverse (noxtls : Noxtls) :
    (∀ seed key, noxtls.ed25519PublicKey seed = some key →
      printHostPublicKey noxtls seed =
        some (ascii "ssh-ed25519 " ++ encodedHostKey key ++ ascii " noxsshd-host" ++ [10])) ∧
    (∀ key : List UInt8, key.length = 32 → (encodedHostKey key).length = 68 ∧
      decodeBlob (encodedHostKey key) = some (ed25519Blob key) ∧ (ed25519Blob key).length = 51) ∧
    (∀ token blob, decodeBlob token = some blob →
      ∃ key, key.length = 32 ∧ blob = ed25519Blob key ∧ token = encodedHostKey key) ∧
    ∀ token token' blob, decodeBlob token = some blob → decodeBlob token' = some blob → token = token' := by
  have printed : ∀ token blob, decodeBlob token = some blob → token = encodedHostKey (blob.drop 19) := by
    intro token blob read
    obtain ⟨sized, is⟩ := blob_of_decodeBlob read
    have all : (blob.drop 19).take 32 = blob.drop 19 := List.take_of_length_le (Nat.le_of_eq sized)
    rw [encodedHostKey_eq sized]
    exact (decodeBlob_iff sized token).1 ⟨blob, read, all⟩
  refine ⟨?_, ?_, ?_, ?_⟩
  · intro seed key has
    rw [printHostPublicKey, has]
    rfl
  · intro key sized
    rw [encodedHostKey_eq sized]
    obtain ⟨blob, read, is⟩ := (decodeBlob_iff sized _).2 rfl
    obtain ⟨size, isBlob⟩ := blob_of_decodeBlob read
    have all : (blob.drop 19).take 32 = blob.drop 19 := List.take_of_length_le (Nat.le_of_eq size)
    rw [all] at is
    rw [is] at isBlob
    exact ⟨length_keyText sized, isBlob ▸ read, length_keyBlob sized⟩
  · intro token blob read
    obtain ⟨sized, is⟩ := blob_of_decodeBlob read
    exact ⟨_, sized, is, printed token blob read⟩
  · intro token token' blob read read'
    rw [printed token blob read, printed token' blob read']

/-- The key of zeros. -/
theorem host_key_text_inverse_zeros :
    decodeBlob (encodedHostKey (zeros 32)) = some (ed25519Blob (zeros 32)) :=
  ((host_key_text_inverse Sample.plain).2.1 (zeros 32) rfl).2.1

end NoxSsh.Daemon
