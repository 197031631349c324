/-
# Wire.Payload — how a payload is written and read

Both sides of the program carry the same small codec: bounded appends into a
fixed buffer, and readers that walk a received payload with a running offset.
The two copies in the source are the same code; one definition stands for both.

A buffer under construction is the list of its bytes together with the capacity
the C caller passes as `payload_max`.  A received payload is memory: the readers
add 32-bit numbers taken from the peer, the sum can wrap, and a view that comes
out of a wrapped sum starts inside the payload and runs past it.  What such a
view shows is whatever `Mem` holds there.

`Holds` says what stands at an address.  Reading back what was appended
(`payloadReadStringView_holds`) and inverting a successful read whose length is
known to be small (`payloadReadStringView_some`) are both stated with it.
-/
import NoxSsh.Theory.Bytes

namespace NoxSsh.Wire

open Theory

set_option autoImplicit false

/-- The failure codes; `NETNOX_RETURN_SUCCESS` is not one of them, success is a value. -/
inductive NetnoxReturn where
  | failed
  | badParam
  | null
  | insuffMemory
  | portInUse
  | portNotExit
  | invalidPkt
  | unknownProtocol
  | authRejected
  deriving DecidableEq, Repr

/-- What a `uint32_t` keeps of a sum. -/
def wrap32 (n : Nat) : Nat := n % 4294967296

/-- What a `uint64_t` keeps of a sum. -/
@[irreducible] def wrap64 (n : Nat) : Nat := n % 18446744073709551616

theorem wrap32_of_lt {n : Nat} (small : n < 4294967296) : wrap32 n = n := Nat.mod_eq_of_lt small

theorem wrap32_lt (n : Nat) : wrap32 n < 4294967296 := Nat.mod_lt _ (by decide)

/-- The bytes of a string literal of the source. -/
def ascii (s : String) : List UInt8 := s.toList.map fun c => UInt8.ofNat c.toNat

theorem ascii_nil : ascii "" = [] := rfl

/-- `n` bytes of `memset(…, 0, …)`. -/
def zeros (n : Nat) : List UInt8 := List.replicate n 0

/-- `netnox_ssh_copy_string` into a field of `size` bytes. -/
def copyString (size : Nat) (src : List UInt8) : Except NetnoxReturn (List UInt8) :=
  if src.length > size - 1 then .error .badParam else .ok src

/-! ## Appending -/

/-- RFC 4251 `string`: a 32-bit length and the bytes. -/
def sshString (s : List UInt8) : List UInt8 := be32 s.length ++ s

@[simp] theorem length_sshString (s : List UInt8) : (sshString s).length = 4 + s.length := by
  simp [sshString]

def payloadAppendU8 (max : Nat) (value : UInt8) (payload : List UInt8) : Option (List UInt8) :=
  if payload.length + 1 > max then none else some (payload ++ [value])

def payloadAppendU32 (max value : Nat) (payload : List UInt8) : Option (List UInt8) :=
  if payload.length + 4 > max then none else some (payload ++ be32 value)

def payloadAppendString (max : Nat) (str payload : List UInt8) : Option (List UInt8) :=
  if payload.length + 4 + str.length > max then none else some (payload ++ be32 str.length ++ str)

/-- A name list is a `string` whose bytes come from a C string. -/
def payloadAppendNamelist (max : Nat) (list : String) (payload : List UInt8) : Option (List UInt8) :=
  payloadAppendString max (ascii list) payload

def bufAppend (max : Nat) (bytes out : List UInt8) : Option (List UInt8) :=
  if out.length + bytes.length > max then none else some (out ++ bytes)

/-- RFC 4251 `mpint` of an unsigned big-endian number: leading zeros dropped, a
zero byte in front when the top bit is set. -/
def bufAppendMpintBe (max : Nat) (input out : List UInt8) : Option (List UInt8) :=
  match input.dropWhile (· == 0) with
  | [] => payloadAppendU32 max 0 out
  | top :: rest =>
      if top &&& 0x80 ≠ 0 then do
        let out ← payloadAppendU32 max ((top :: rest).length + 1) out
        let out ← bufAppend max [0] out
        bufAppend max (top :: rest) out
      else do
        let out ← payloadAppendU32 max (top :: rest).length out
        bufAppend max (top :: rest) out

theorem payloadAppendU8_some {max : Nat} {value : UInt8} {payload : List UInt8}
    (fits : payload.length + 1 ≤ max) :
    payloadAppendU8 max value payload = some (payload ++ [value]) := by
  rw [payloadAppendU8, if_neg (by omega)]

theorem payloadAppendU32_some {max value : Nat} {payload : List UInt8}
    (fits : payload.length + 4 ≤ max) :
    payloadAppendU32 max value payload = some (payload ++ be32 value) := by
  rw [payloadAppendU32, if_neg (by omega)]

theorem payloadAppendString_some {max : Nat} {str payload : List UInt8}
    (fits : payload.length + (4 + str.length) ≤ max) :
    payloadAppendString max str payload = some (payload ++ sshString str) := by
  rw [payloadAppendString, if_neg (by omega), sshString, List.append_assoc]

theorem bufAppend_some {max : Nat} {bytes out : List UInt8} (fits : out.length + bytes.length ≤ max) :
    bufAppend max bytes out = some (out ++ bytes) := by
  rw [bufAppend, if_neg (by omega)]

/-- The bytes `bufAppendMpintBe` adds. -/
def mpint (input : List UInt8) : List UInt8 :=
  match input.dropWhile (· == 0) with
  | [] => sshString []
  | top :: rest => if top &&& 0x80 ≠ 0 then sshString (0 :: top :: rest) else sshString (top :: rest)

theorem length_mpint_le (input : List UInt8) : (mpint input).length ≤ 5 + input.length := by
  have shorter : (input.dropWhile (· == 0)).length ≤ input.length :=
    (List.dropWhile_sublist _).length_le
  unfold mpint
  revert shorter
  cases input.dropWhile (· == 0) with
  | nil =>
      intro _
      simp only [length_sshString, List.length_nil]
      omega
  | cons top rest =>
      intro shorter
      simp only [List.length_cons] at shorter
      dsimp only
      split <;> simp only [length_sshString, List.length_cons] <;> omega

/-- With room for it the `mpint` is appended. -/
theorem bufAppendMpintBe_fits {max : Nat} {input out : List UInt8} (fits : out.length + (mpint input).length ≤ max) :
    bufAppendMpintBe max input out = some (out ++ mpint input) := by
  unfold mpint at fits ⊢
  unfold bufAppendMpintBe
  revert fits
  cases input.dropWhile (· == 0) with
  | nil =>
      dsimp only
      rw [length_sshString]
      intro fits
      rw [payloadAppendU32_some (by simp at fits; omega)]
      simp [sshString]
  | cons top rest =>
      dsimp only
      split
      · rw [length_sshString, List.length_cons]
        intro fits
        rw [payloadAppendU32_some (by omega), Option.bind_eq_bind, Option.bind_some,
          bufAppend_some (by simp at fits ⊢; omega), Option.bind_some, bufAppend_some (by simp at fits ⊢; omega)]
        simp [sshString]
      · rw [length_sshString]
        intro fits
        rw [payloadAppendU32_some (by omega), Option.bind_eq_bind, Option.bind_some,
          bufAppend_some (by simp at fits ⊢; omega)]
        simp [sshString]

theorem bufAppendMpintBe_some {max : Nat} {input out : List UInt8}
    (fits : out.length + (5 + input.length) ≤ max) :
    bufAppendMpintBe max input out = some (out ++ mpint input) := by
  have most := length_mpint_le input
  exact bufAppendMpintBe_fits (by omega)

/-! ## Message numbers -/

/-- Whatever is built starts with this number. -/
def Heads (number : UInt8) (built : Option (List UInt8)) : Prop :=
  ∀ payload, built = some payload → payload.head? = some number

theorem heads_u8 (max : Nat) (number : UInt8) : Heads number (payloadAppendU8 max number []) := by
  intro payload is
  unfold payloadAppendU8 at is
  split at is
  · simp at is
  · obtain rfl := Option.some.inj is
    rfl

/-- Appending keeps the number. -/
theorem Heads.then {number : UInt8} {built : Option (List UInt8)} (heads : Heads number built)
    {append : List UInt8 → Option (List UInt8)}
    (appends : ∀ payload out, append payload = some out → ∃ more, out = payload ++ more) :
    Heads number (built >>= append) := by
  intro out is
  obtain ⟨payload, first, second⟩ := Option.bind_eq_some_iff.1 is
  obtain ⟨more, rfl⟩ := appends payload out second
  rw [List.head?_append, heads payload first]
  rfl

theorem appends_u8 {max : Nat} {value : UInt8} (payload out : List UInt8)
    (is : payloadAppendU8 max value payload = some out) : ∃ more, out = payload ++ more := by
  unfold payloadAppendU8 at is
  split at is
  · simp at is
  · exact ⟨_, (Option.some.inj is).symm⟩

theorem appends_u32 {max value : Nat} (payload out : List UInt8)
    (is : payloadAppendU32 max value payload = some out) : ∃ more, out = payload ++ more := by
  unfold payloadAppendU32 at is
  split at is
  · simp at is
  · exact ⟨_, (Option.some.inj is).symm⟩

theorem appends_string {max : Nat} {str : List UInt8} (payload out : List UInt8)
    (is : payloadAppendString max str payload = some out) : ∃ more, out = payload ++ more := by
  unfold payloadAppendString at is
  split at is
  · simp at is
  · rw [List.append_assoc] at is
    exact ⟨_, (Option.some.inj is).symm⟩

/-! ## Reading -/

/-- A pointer into a payload and a length, as `payload_read_string_view` returns them. -/
structure View where
  start : Nat
  len : Nat
  deriving DecidableEq, Repr

/-- What the view shows. -/
def View.bytes (v : View) (m : Mem) : List UInt8 := slice m v.start v.len

def payloadReadU32 (m : Mem) (payloadLen offset : Nat) : Option (Nat × Nat) :=
  if wrap32 (offset + 4) > payloadLen then none
  else some (beNat (slice m offset 4), wrap32 (offset + 4))

def payloadReadStringView (m : Mem) (payloadLen offset : Nat) : Option (View × Nat) :=
  match payloadReadU32 m payloadLen offset with
  | none => none
  | some (strLen, offset) =>
      if wrap32 (offset + strLen) > payloadLen then none
      else some (⟨offset, strLen⟩, wrap32 (offset + strLen))

/-- `s` stands in `m` at address `off`. -/
def Holds (m : Mem) (off : Nat) (s : List UInt8) : Prop := slice m off s.length = s

theorem holds_append {m : Mem} {off : Nat} {a b : List UInt8} :
    Holds m off (a ++ b) ↔ Holds m off a ∧ Holds m (off + a.length) b := by
  unfold Holds
  rw [List.length_append, slice_add]
  constructor
  · intro joined
    exact List.append_inj joined (length_slice m off a.length)
  · rintro ⟨first, second⟩
    rw [first, second]

theorem holds_memOf (bytes : List UInt8) (rest : Mem) : Holds (memOf bytes rest) 0 bytes :=
  slice_memOf_self bytes rest

theorem Holds.at {m : Mem} {base off : Nat} {s : List UInt8} (stands : Holds m (base + off) s) :
    Holds (m.at base) off s := by
  unfold Holds
  rw [slice_at]
  exact stands

theorem Holds.view {m : Mem} {off n : Nat} {s : List UInt8} (stands : Holds m off s)
    (length : s.length = n) : View.bytes ⟨off, n⟩ m = s := by
  subst length
  exact stands

theorem payloadReadU32_holds {m : Mem} {len off n : Nat} (stands : Holds m off (be32 n))
    (inside : off + 4 ≤ len) (small : len < 4294967296) :
    payloadReadU32 m len off = some (wrap32 n, off + 4) := by
  have here : slice m off 4 = be32 n := stands
  rw [payloadReadU32, wrap32_of_lt (by omega), if_neg (by omega), here, beNat_be32, wrap32]

/-- What was appended as a string is read back as a view of it. -/
theorem payloadReadStringView_holds {m : Mem} {len off : Nat} {s : List UInt8}
    (stands : Holds m off (sshString s)) (inside : off + (4 + s.length) ≤ len)
    (small : len < 4294967296) :
    payloadReadStringView m len off = some (⟨off + 4, s.length⟩, off + (4 + s.length)) := by
  have header := (holds_append.1 stands).1
  rw [payloadReadStringView, payloadReadU32_holds header (by omega) small]
  simp only [wrap32_of_lt (show s.length < 4294967296 by omega)]
  rw [wrap32_of_lt (by omega), if_neg (by omega), Nat.add_assoc]

theorem view_sshString {m : Mem} {off : Nat} {s : List UInt8} (stands : Holds m off (sshString s)) :
    View.bytes ⟨off + 4, s.length⟩ m = s :=
  ((holds_append.1 stands).2).view rfl

theorem payloadReadU32_some {m : Mem} {len off n off' : Nat} (read : payloadReadU32 m len off = some (n, off'))
    (small : off + 4 < 4294967296) :
    off' = off + 4 ∧ off + 4 ≤ len ∧ n = beNat (slice m off 4) := by
  rw [payloadReadU32, wrap32_of_lt small] at read
  split at read
  · exact absurd read (by simp)
  · simp only [Option.some.injEq, Prod.mk.injEq] at read
    exact ⟨read.2.symm, by omega, read.1.symm⟩

/-- What stands behind a payload does not matter to a length field of it. -/
theorem payloadReadU32_memOf {p : List UInt8} (rest rest' : Mem) {off : Nat} (small : off + 4 < 4294967296) :
    payloadReadU32 (memOf p rest) p.length off = payloadReadU32 (memOf p rest') p.length off := by
  rw [payloadReadU32, payloadReadU32, wrap32_of_lt small]
  split
  · rfl
  · rw [slice_memOf p rest (by omega), slice_memOf p rest' (by omega)]

theorem payloadReadStringView_memOf {p : List UInt8} (rest rest' : Mem) {off : Nat}
    (small : off + 4 < 4294967296) :
    payloadReadStringView (memOf p rest) p.length off = payloadReadStringView (memOf p rest') p.length off := by
  rw [payloadReadStringView, payloadReadStringView, payloadReadU32_memOf rest rest' small]

/-- A successful read of a string whose length cannot make the sum wrap: the
view lies inside the payload and the bytes from `off` on are its encoding. -/
theorem payloadReadStringView_some {m : Mem} {len off off' : Nat} {v : View}
    (read : payloadReadStringView m len off = some (v, off'))
    (short : off + (4 + v.len) < 4294967296) :
    v.start = off + 4 ∧ off' = off + (4 + v.len) ∧ off' ≤ len ∧
      slice m off (4 + v.len) = sshString (v.bytes m) := by
  rw [payloadReadStringView] at read
  split at read
  · exact absurd read (by simp)
  · rename_i strLen next header
    obtain ⟨rfl, inside, rfl⟩ := payloadReadU32_some header (by omega)
    split at read
    · exact absurd read (by simp)
    · rename_i fits
      simp only [Option.some.injEq, Prod.mk.injEq] at read
      obtain ⟨rfl, rfl⟩ := read
      dsimp only at short ⊢
      rw [wrap32_of_lt (by omega)] at fits ⊢
      refine ⟨rfl, by omega, by omega, ?_⟩
      rw [slice_add, sshString, View.bytes, length_slice, be32_beNat (by simp)]

/-- After a successful read the offset stays inside the payload, wrapped or not. -/
theorem payloadReadStringView_le {m : Mem} {len off off' : Nat} {v : View}
    (read : payloadReadStringView m len off = some (v, off')) : off' ≤ len := by
  rw [payloadReadStringView] at read
  split at read
  · exact absurd read (by simp)
  · split at read
    · exact absurd read (by simp)
    · simp only [Option.some.injEq, Prod.mk.injEq] at read
      omega

/-! ## Name lists and KEXINIT -/

/-- Walk a comma-separated list, `word` being the part of the current name
already passed. -/
def namelistScan (token : List UInt8) : List UInt8 → List UInt8 → Bool
  | word, [] => word == token
  | word, c :: rest =>
      if c = 44 then word == token || namelistScan token [] rest
      else namelistScan token (word ++ [c]) rest

def namelistContains (list token : List UInt8) : Bool := token ≠ [] && namelistScan token [] list

/-- Read one name list for each token and require the token in it. -/
def kexinitOffers (m : Mem) (payloadLen : Nat) : List String → Nat → Option Nat
  | [], offset => some offset
  | token :: tokens, offset =>
      match payloadReadStringView m payloadLen offset with
      | none => none
      | some (field, offset) =>
          if namelistContains (field.bytes m) (ascii token) then
            kexinitOffers m payloadLen tokens offset
          else none

/-- The algorithms required of the peer, in the order KEXINIT lists them. -/
def requiredAlgs : List String :=
  ["curve25519-sha256", "ssh-ed25519", "aes128-ctr", "aes128-ctr", "hmac-sha2-256",
    "hmac-sha2-256", "none", "none"]

def kexinitHeaderLen : Nat := 1 + 16

/-- The client's check of a server KEXINIT. -/
def validateServerKexinit (m : Mem) (payloadLen : Nat) : Except NetnoxReturn Unit :=
  if payloadLen < kexinitHeaderLen then .error .badParam
  else if m 0 ≠ 20 then .error .failed
  else match kexinitOffers m payloadLen requiredAlgs kexinitHeaderLen with
    | none => .error .failed
    | some _ => .ok ()

/-- The server's check of a client KEXINIT: it also reads the two language lists. -/
def validateClientKexinit (m : Mem) (payloadLen : Nat) : Except NetnoxReturn Unit :=
  if payloadLen < kexinitHeaderLen then .error .badParam
  else if m 0 ≠ 20 then .error .failed
  else match kexinitOffers m payloadLen requiredAlgs kexinitHeaderLen with
    | none => .error .failed
    | some offset =>
        match payloadReadStringView m payloadLen offset with
        | none => .error .failed
        | some (_, offset) =>
            match payloadReadStringView m payloadLen offset with
            | none => .error .failed
            | some _ => .ok ()

/-- Each list offers the token required of it: the check passes over all of them. -/
theorem kexinitOffers_some {m : Mem} {len : Nat} (small : len < 4294967296) :
    ∀ (lists : List (List UInt8)) (tokens : List String) (off : Nat),
      List.Forall₂ (fun list token => namelistContains list (ascii token) = true) lists tokens →
      Holds m off (lists.flatMap sshString) → off + (lists.flatMap sshString).length ≤ len →
      kexinitOffers m len tokens off = some (off + (lists.flatMap sshString).length) := by
  intro lists tokens
  induction lists generalizing tokens with
  | nil =>
      rintro off ⟨⟩ - -
      rfl
  | cons list lists ih =>
      rintro off (_ | ⟨offered, offers⟩) stands inside
      simp only [List.flatMap_cons, List.length_append, length_sshString] at stands inside ⊢
      obtain ⟨here, later⟩ := holds_append.1 stands
      rw [length_sshString] at later
      rw [kexinitOffers, payloadReadStringView_holds here (by omega) small]
      simp only [view_sshString here, offered, if_true]
      rw [ih _ _ offers later (by omega), Nat.add_assoc]

theorem required_offered :
    List.Forall₂ (fun list token => namelistContains list (ascii token) = true) (requiredAlgs.map ascii) requiredAlgs := by
  rw [List.forall₂_map_left_iff, List.forall₂_same]
  decide

/-- Both programs accept a payload that offers what is required. -/
theorem validates_kexinit {payload cookie languages otherLanguages tail : List UInt8} {lists : List (List UInt8)}
    (is : payload = 20 :: cookie ++ lists.flatMap sshString ++ (sshString languages ++ (sshString otherLanguages ++ tail)))
    (cookieLen : cookie.length = 16) (small : payload.length < 4294967296)
    (offered : List.Forall₂ (fun list token => namelistContains list (ascii token) = true) lists requiredAlgs) (rest : Mem) :
    validateServerKexinit (memOf payload rest) payload.length = .ok () ∧
      validateClientKexinit (memOf payload rest) payload.length = .ok () := by
  have first : memOf payload rest 0 = 20 := by rw [is]; rfl
  have length : payload.length = 17 + (lists.flatMap sshString).length +
      (4 + languages.length + (4 + otherLanguages.length + tail.length)) := by
    rw [is]
    simp only [List.length_append, List.length_cons, length_sshString, cookieLen]
  have whole := holds_memOf payload rest
  generalize memOf payload rest = m at first whole ⊢
  rw [is] at whole
  obtain ⟨front, back⟩ := holds_append.1 whole
  have stands : Holds m kexinitHeaderLen (lists.flatMap sshString) := by
    have lists := (holds_append.1 front).2
    rwa [List.length_cons, cookieLen] at lists
  have offers := kexinitOffers_some small lists requiredAlgs kexinitHeaderLen offered stands
    (by rw [length, kexinitHeaderLen]; omega)
  rw [List.length_append, List.length_cons, cookieLen, Nat.zero_add] at back
  obtain ⟨here, more⟩ := holds_append.1 back
  rw [length_sshString] at more
  have reads := @payloadReadStringView_holds m payload.length _ _ here (by omega) small
  have readsOther := @payloadReadStringView_holds m payload.length _ _ (holds_append.1 more).1 (by omega) small
  have long : ¬ payload.length < kexinitHeaderLen := by rw [length, kexinitHeaderLen]; omega
  constructor
  · rw [validateServerKexinit, if_neg long, if_neg (not_not.2 first), offers]
  · rw [validateClientKexinit, if_neg long, if_neg (not_not.2 first), offers]
    dsimp only
    rw [show kexinitHeaderLen = 16 + 1 from rfl, reads]
    dsimp only
    rw [readsOther]
end NoxSsh.Wire
