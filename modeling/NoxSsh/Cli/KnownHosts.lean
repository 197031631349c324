/-
# Cli.KnownHosts — trust on first use

`noxssh_verify_host_key` looks for the host and the port in the file of known hosts, line
by line with `fgets` and `sscanf`.  Where there is no record and the mode or the user
allows it, one is appended.

A record is found again and stays the first one of its host, whatever else the file holds,
as long as the file is empty or ends with the end of a line when a record is appended:
then no host is ever accepted with two fingerprints (`trust_is_kept`).  Behind a last line
without an end the record is lost.
-/
import Mathlib.Data.List.TakeWhile
import Mathlib.Data.Nat.Digits.Lemmas
import NoxSsh.Cli.Values
import NoxSsh.Theory.Lines

namespace NoxSsh.Cli

open Theory Wire

set_option autoImplicit false

/-! ## Words on a line -/

/-- `%255s` and the like. -/
def scanWord (width : Nat) (text : List UInt8) : Option (List UInt8 × List UInt8) :=
  let text := text.dropWhile isSpace
  let word := (text.take width).takeWhile fun c => !isSpace c
  if word = [] then none else some (word, text.drop word.length)

/-- How much of the text is a sign. -/
def signLength : List UInt8 → Nat
  | 45 :: _ => 1
  | 43 :: _ => 1
  | _ => 0

/-- `%u`: a sign and digits, as `strtoul` takes them, in an `unsigned int`. -/
def scanUnsigned (text : List UInt8) : Option (Nat × List UInt8) :=
  let text := text.dropWhile isSpace
  let word := text.take (signLength text) ++ (text.drop (signLength text)).takeWhile isDigit
  (strtoul word).map fun n => (n % 4294967296, text.drop word.length)

/-- What `%u` writes. -/
def decimal (n : Nat) : List UInt8 :=
  if n = 0 then [48] else (Nat.digits 10 n).reverse.map fun digit => UInt8.ofNat (48 + digit)

def hexDigit (n : Nat) : UInt8 := if n < 10 then UInt8.ofNat (48 + n) else UInt8.ofNat (87 + n)

/-- `noxssh_bytes_to_hex`. -/
def bytesToHex (bytes : List UInt8) : List UInt8 :=
  bytes.flatMap fun b => [hexDigit (b.toNat / 16), hexDigit (b.toNat % 16)]

/-! ## The file -/

/-- One line of the loop of `noxssh_lookup_known_host`: the host, the port and the
fingerprint. -/
def entryOf (line : List UInt8) : Option (List UInt8 × Nat × List UInt8) :=
  if line.head? = some 35 ∨ line.head? = some 10 ∨ line.head? = some 13 then none
  else do
    let (fileHost, rest) ← scanWord 255 (cString line)
    let (filePort, rest) ← scanUnsigned rest
    let (fileHex, _) ← scanWord 64 rest
    pure (fileHost, filePort, fileHex)

/-- The fingerprint, if the line is about this host and port. -/
def hexFor (host : List UInt8) (port : Nat) (line : List UInt8) : Option (List UInt8) := do
  let (fileHost, filePort, fileHex) ← entryOf line
  if fileHost = host ∧ filePort = port then some fileHex else none

/-- `noxssh_lookup_known_host`. -/
def lookupKnownHost (known host : List UInt8) (port : Nat) : Option (List UInt8) :=
  (buffers 10 1399 known.length known).findSome? (hexFor host port)

/-- `"%s %u %s\n"`. -/
def knownHostRecord (host : List UInt8) (port : Nat) (hex : List UInt8) : List UInt8 :=
  host ++ [32] ++ decimal port ++ [32] ++ hex ++ [10]

/-- `noxssh_append_known_host`, if the directory and the file are there to be written. -/
def appendKnownHost (writable : Bool) (known host : List UInt8) (port : Nat) (hex : List UInt8) :
    Option (List UInt8) :=
  if writable then some (known ++ knownHostRecord host port hex) else none

/-! ## The verdict -/

/-- What a call is given: the answer is what `fgets` returns, if it is asked for. -/
structure Query where
  host : List UInt8
  port : Nat
  fingerprint : List UInt8
  strictHostKeyChecking : HostKeyCheck
  pinnedFingerprintHex : List UInt8
  batchMode : Bool
  answer : Option (List UInt8)
  writable : Bool
  deriving DecidableEq, Repr

/-- The ways out of `noxssh_verify_host_key`, by what they print. -/
inductive Verdict where
  | noFingerprint
  | pinMismatch
  | pinned
  | known
  | changed
  | changedContinuing
  | unknownStrict
  | unknownAccepted
  | unknownBatch
  | saved
  | failedToPersist
  | noAnswer
  | notTrusted
  deriving DecidableEq, Repr

/-- What it returns: 1 or 0. -/
def Verdict.trusted : Verdict → Bool
  | pinned | known | changedContinuing | unknownAccepted | saved => true
  | noFingerprint | pinMismatch | changed | unknownStrict | unknownBatch | failedToPersist | noAnswer
  | notTrusted => false

/-- The record is appended, or cannot be. -/
def saveHost (q : Query) (known : List UInt8) : Verdict × List UInt8 :=
  match appendKnownHost q.writable known q.host q.port (bytesToHex q.fingerprint) with
  | none => (.failedToPersist, known)
  | some known => (.saved, known)

/-- `strcmp` with the two ways to say yes. -/
def saysYes (answer : List UInt8) : Bool :=
  cString answer = ascii "yes" ++ [10] || cString answer = ascii "yes" ++ [13, 10]

/-- The question. -/
def askUser (q : Query) (known : List UInt8) : Verdict × List UInt8 :=
  match q.answer with
  | none => (.noAnswer, known)
  | some answer => if saysYes answer then saveHost q known else (.notTrusted, known)

/-- A host without a record. -/
def meetHost (q : Query) (known : List UInt8) : Verdict × List UInt8 :=
  match q.strictHostKeyChecking with
  | .yes => (.unknownStrict, known)
  | .no => (.unknownAccepted, known)
  | .acceptNew => saveHost q known
  | .ask => if q.batchMode then (.unknownBatch, known) else askUser q known

/-- `noxssh_verify_host_key`, on the content of the file. -/
def verifyHostKey (q : Query) (known : List UInt8) : Verdict × List UInt8 :=
  let actualHex := bytesToHex q.fingerprint
  if q.fingerprint.length ≠ 32 then (.noFingerprint, known)
  else if q.pinnedFingerprintHex ≠ [] then
    (if actualHex ≠ q.pinnedFingerprintHex then .pinMismatch else .pinned, known)
  else
    match lookupKnownHost known q.host q.port with
    | some knownHex =>
        (if knownHex = actualHex then .known
          else if q.strictHostKeyChecking = .no then .changedContinuing
          else .changed, known)
    | none => meetHost q known

/-- One call after the other, on one file. -/
def verifyAll : List Query → List UInt8 → List (Query × Verdict)
  | [], _ => []
  | q :: queries, known => (q, (verifyHostKey q known).1) :: verifyAll queries (verifyHostKey q known).2

/-! ## What is written is read -/

/-- A name without blanks that is no comment. -/
structure IsHost (host : List UInt8) : Prop where
  some_ : host ≠ []
  short : host.length ≤ 255
  plain : ∀ c ∈ host, isSpace c = false ∧ c ≠ 0 ∧ c ≠ 10
  first : ∀ c ∈ host.head?, c ≠ 35

structure IsHex (hex : List UInt8) : Prop where
  some_ : hex ≠ []
  short : hex.length ≤ 64
  plain : ∀ c ∈ hex, isSpace c = false ∧ c ≠ 0 ∧ c ≠ 10

section Words

theorem hexDigit_plain : ∀ n < 16, isSpace (hexDigit n) = false ∧ hexDigit n ≠ 0 ∧ hexDigit n ≠ 10 := by
  decide +kernel

theorem hexPairs_bytesToHex (bytes : List UInt8) : hexPairs (bytesToHex bytes) = some bytes := by
  have digits : ∀ n < 256, hexNibble (hexDigit (n / 16)) = some (n / 16) ∧
      hexNibble (hexDigit (n % 16)) = some (n % 16) := by
    decide +kernel
  induction bytes with
  | nil => rfl
  | cons b bytes ih =>
      obtain ⟨high, low⟩ := digits b.toNat b.toNat_lt
      have whole : b.toNat / 16 * 16 + b.toNat % 16 = b.toNat := by omega
      show hexPairs (hexDigit _ :: hexDigit _ :: bytesToHex bytes) = _
      rw [hexPairs, high, low, ih]
      show some (UInt8.ofNat (b.toNat / 16 * 16 + b.toNat % 16) :: bytes) = _
      rw [whole, UInt8.ofNat_toNat]

theorem bytesToHex_inj {a b : List UInt8} (same : bytesToHex a = bytesToHex b) : a = b := by
  have read := hexPairs_bytesToHex a
  rw [same, hexPairs_bytesToHex b] at read
  exact (Option.some.inj read).symm

theorem length_bytesToHex (bytes : List UInt8) : (bytesToHex bytes).length = 2 * bytes.length := by
  induction bytes with
  | nil => rfl
  | cons b bytes ih =>
      show (hexDigit _ :: hexDigit _ :: bytesToHex bytes).length = _
      simp only [List.length_cons, ih]
      omega

theorem bytesToHex_plain {bytes : List UInt8} {c : UInt8} (mem : c ∈ bytesToHex bytes) :
    isSpace c = false ∧ c ≠ 0 ∧ c ≠ 10 := by
  obtain ⟨b, -, digit⟩ := List.mem_flatMap.1 mem
  have small := b.toNat_lt
  simp only [List.mem_cons, List.not_mem_nil, or_false] at digit
  rcases digit with rfl | rfl
  · exact hexDigit_plain _ (by omega)
  · exact hexDigit_plain _ (by omega)

theorem digit_plain : ∀ digit < 10, isDigit (UInt8.ofNat (48 + digit)) = true ∧
    (UInt8.ofNat (48 + digit)).toNat - 48 = digit := by
  decide +kernel

theorem isDigit_plain : ∀ n < 256, isDigit (UInt8.ofNat n) = true → isSpace (UInt8.ofNat n) = false ∧
    UInt8.ofNat n ≠ 45 ∧ UInt8.ofNat n ≠ 43 ∧ UInt8.ofNat n ≠ 0 ∧ UInt8.ofNat n ≠ 10 := by
  decide +kernel

theorem isDigit.plain {c : UInt8} (is : isDigit c = true) :
    isSpace c = false ∧ c ≠ 45 ∧ c ≠ 43 ∧ c ≠ 0 ∧ c ≠ 10 := by
  have plain := isDigit_plain c.toNat c.toNat_lt
  rw [UInt8.ofNat_toNat] at plain
  exact plain is

theorem decimal_digits (n : Nat) {c : UInt8} (mem : c ∈ decimal n) : isDigit c = true := by
  rw [decimal] at mem
  split at mem
  · obtain rfl := List.mem_singleton.1 mem
    decide +kernel
  · obtain ⟨digit, inside, rfl⟩ := List.mem_map.1 mem
    exact (digit_plain digit (Nat.digits_lt_base (by decide) (List.mem_reverse.1 inside))).1

theorem decimal_ne_nil (n : Nat) : decimal n ≠ [] := by
  rw [decimal]
  split
  · simp
  · rename_i some_
    simpa [Nat.digits_ne_nil_iff_ne_zero] using some_

/-- The digits stand for the number. -/
theorem foldl_decimal (n : Nat) : (decimal n).foldl (fun n c => n * 10 + (c.toNat - 48)) 0 = n := by
  rw [decimal]
  split
  · rename_i none
    rw [none]
    rfl
  · have below : ∀ digit ∈ Nat.digits 10 n, digit < 10 := fun digit mem => Nat.digits_lt_base (by decide) mem
    rw [List.foldl_map, List.foldl_reverse]
    calc (Nat.digits 10 n).foldr (fun digit n => n * 10 + ((UInt8.ofNat (48 + digit)).toNat - 48)) 0
        = Nat.ofDigits 10 (Nat.digits 10 n) := by
          generalize Nat.digits 10 n = digits at below
          induction digits with
          | nil => rfl
          | cons digit digits ih =>
              rw [List.foldr_cons, ih fun d mem => below d (by simp [mem]),
                (digit_plain digit (below digit (by simp))).2, Nat.ofDigits_cons]
              ring
      _ = n := Nat.ofDigits_digits 10 n

/-- A word up to a blank. -/
theorem scanWord_word {width : Nat} {word rest : List UInt8} {blank : UInt8} (some_ : word ≠ [])
    (fits : word.length ≤ width) (plain : ∀ c ∈ word, isSpace c = false) (is : isSpace blank = true) :
    scanWord width (word ++ blank :: rest) = some (word, blank :: rest) := by
  have starts : (word ++ blank :: rest).dropWhile isSpace = word ++ blank :: rest := by
    obtain ⟨c, more, rfl⟩ := List.exists_cons_of_ne_nil some_
    rw [List.cons_append, List.dropWhile_cons_of_neg]
    simp [plain c (by simp)]
  have cut : ((word ++ blank :: rest).take width).takeWhile (fun c => !isSpace c) = word := by
    obtain ⟨k, rfl⟩ := Nat.exists_eq_add_of_le fits
    rw [List.take_length_add_append, List.takeWhile_append_of_pos fun c mem => by simp [plain c mem]]
    cases k with
    | zero => simp
    | succ k => simp [is]
  rw [scanWord]
  simp only [starts, cut]
  rw [if_neg some_, List.drop_left]

theorem scanWord_blank (width : Nat) (text : List UInt8) : scanWord width (32 :: text) = scanWord width text := by
  have skipped : (32 :: text).dropWhile isSpace = text.dropWhile isSpace :=
    List.dropWhile_cons_of_pos (by decide +kernel)
  rw [scanWord, scanWord, skipped]

/-- `strtoul` takes the digits back. -/
theorem wholeNumber_decimal (n : Nat) : wholeNumber (decimal n) = some (false, n) := by
  have digits : ∀ d ∈ decimal n, isDigit d = true := fun d mem => decimal_digits n mem
  have whole := foldl_decimal n
  obtain ⟨c, more, is⟩ := List.exists_cons_of_ne_nil (decimal_ne_nil n)
  rw [is] at digits whole ⊢
  obtain ⟨notBlank, notMinus, notPlus, -⟩ := isDigit.plain (digits c (by simp))
  have starts : (c :: more).dropWhile isSpace = c :: more := by
    rw [List.dropWhile_cons_of_neg]
    simp [notBlank]
  have all : (c :: more).all isDigit = true := List.all_eq_true.2 digits
  rw [wholeNumber]
  simp only [starts]
  split
  · rename_i minus
    exact absurd (List.cons.inj minus).1 notMinus
  · rename_i plus
    exact absurd (List.cons.inj plus).1 notPlus
  · rw [if_neg (by simp [all]), whole]

/-- A number up to a blank. -/
theorem scanUnsigned_decimal {n : Nat} (small : n < 4294967296) (rest : List UInt8) :
    scanUnsigned (32 :: (decimal n ++ 32 :: rest)) = some (n, 32 :: rest) := by
  obtain ⟨c, more, is⟩ := List.exists_cons_of_ne_nil (decimal_ne_nil n)
  have digits : ∀ d ∈ decimal n, isDigit d = true := fun d mem => decimal_digits n mem
  obtain ⟨notBlank, notMinus, notPlus, -⟩ := isDigit.plain (digits c (by simp [is]))
  have skipped : (32 :: (decimal n ++ 32 :: rest)).dropWhile isSpace = decimal n ++ 32 :: rest := by
    rw [List.dropWhile_cons_of_pos (by decide +kernel), is, List.cons_append, List.dropWhile_cons_of_neg]
    simp [notBlank]
  have unsigned : signLength (decimal n ++ 32 :: rest) = 0 := by
    rw [is, List.cons_append, signLength]
    · exact fun _ same => notMinus (List.cons.inj same).1
    · exact fun _ same => notPlus (List.cons.inj same).1
  have run : (decimal n ++ 32 :: rest).takeWhile isDigit = decimal n := by
    rw [List.takeWhile_append_of_pos digits, List.takeWhile_cons_of_neg (by decide +kernel), List.append_nil]
  rw [scanUnsigned]
  simp only [skipped, unsigned, List.take_zero, List.nil_append, List.drop_zero, run, strtoul, wholeNumber_decimal,
    Option.map_some, List.drop_left]
  rw [if_neg (by omega), if_neg (by decide), Nat.mod_eq_of_lt small]

/-- A record is read as it was written. -/
theorem entryOf_record {host hex : List UInt8} {port : Nat} (isHost : IsHost host) (small : port < 65536)
    (isHex : IsHex hex) : entryOf (knownHostRecord host port hex) = some (host, port, hex) := by
  obtain ⟨c, more, is⟩ := List.exists_cons_of_ne_nil isHost.some_
  have noZero : ∀ c ∈ knownHostRecord host port hex, c ≠ 0 := by
    intro c mem
    simp only [knownHostRecord, List.mem_append, List.mem_singleton] at mem
    rcases mem with ((((mem | rfl) | mem) | rfl) | mem) | rfl
    · exact (isHost.plain c mem).2.1
    · decide
    · exact (isDigit.plain (decimal_digits port mem)).2.2.2.1
    · decide
    · exact (isHex.plain c mem).2.1
    · decide
  have whole : cString (knownHostRecord host port hex) = host ++ 32 :: (decimal port ++ 32 :: (hex ++ [10])) := by
    rw [cString, List.takeWhile_eq_self_iff.2 fun c mem => by simpa using noZero c mem, knownHostRecord]
    simp
  have first : (knownHostRecord host port hex).head? = some c := by
    rw [knownHostRecord, is]
    simp
  have plain := isHost.plain c (by simp [is])
  have notComment : ¬ (some c = some 35 ∨ some c = some 10 ∨ some c = some 13) := by
    rintro (same | same | same)
    · exact isHost.first c (by simp [is]) (Option.some.inj same)
    · exact plain.2.2 (Option.some.inj same)
    · rw [Option.some.inj same] at plain
      exact absurd plain.1 (by decide +kernel)
  have hostRead : scanWord 255 (host ++ 32 :: (decimal port ++ 32 :: (hex ++ [10]))) =
      some (host, 32 :: (decimal port ++ 32 :: (hex ++ [10]))) :=
    scanWord_word isHost.some_ isHost.short (fun c mem => (isHost.plain c mem).1) (by decide +kernel)
  have hexRead : scanWord 64 (32 :: (hex ++ [10])) = some (hex, [10]) := by
    rw [scanWord_blank]
    exact scanWord_word isHex.some_ isHex.short (fun c mem => (isHex.plain c mem).1) (by decide +kernel)
  rw [entryOf, first, if_neg notComment, whole, hostRead]
  simp [scanUnsigned_decimal (show port < 4294967296 by omega), hexRead]

end Words

/-! ## The first record -/

/-- The file is empty or ends with the end of a line. -/
def Complete (known : List UInt8) : Prop := ∀ c ∈ known.getLast?, c = 10

/-- A call without a pin, in one of the modes that do not take any key, about a host that
can stand on a line. -/
structure Ordinary (q : Query) : Prop where
  isHost : IsHost q.host
  port : q.port < 65536
  fingerprint : q.fingerprint.length = 32
  checked : q.strictHostKeyChecking ≠ .no
  unpinned : q.pinnedFingerprintHex = []
  writable : q.writable = true

/-- The host is unknown, and the mode or the user allows to save it. -/
def ComesToSave (q : Query) (known : List UInt8) : Prop :=
  lookupKnownHost known q.host q.port = none ∧
    (q.strictHostKeyChecking = .acceptNew ∨
      q.strictHostKeyChecking = .ask ∧ q.batchMode = false ∧ ∃ answer ∈ q.answer, saysYes answer = true)

/-- No record is appended to a last line without an end. -/
def SavesComplete : List Query → List UInt8 → Prop
  | [], _ => True
  | q :: queries, known =>
      (ComesToSave q known → Complete known) ∧ SavesComplete queries (verifyHostKey q known).2

section Records

variable {known host hex : List UInt8} {port : Nat} {q : Query}

theorem Ordinary.isHex (ordinary : Ordinary q) : IsHex (bytesToHex q.fingerprint) where
  some_ none := by
    have size := length_bytesToHex q.fingerprint
    rw [none, ordinary.fingerprint] at size
    cases size
  short := by rw [length_bytesToHex, ordinary.fingerprint]
  plain _ mem := bytesToHex_plain mem

theorem length_decimal {n : Nat} (small : n < 65536) : (decimal n).length ≤ 5 := by
  rw [decimal]
  split
  · decide
  · rw [List.length_map, List.length_reverse]
    exact (Nat.digits_length_le_iff (by decide) n).2 (by omega)

/-- A record is one line. -/
theorem buffers_record (ordinary : Ordinary q) :
    buffers 10 1399 (knownHostRecord q.host q.port (bytesToHex q.fingerprint)).length
        (knownHostRecord q.host q.port (bytesToHex q.fingerprint)) =
      [knownHostRecord q.host q.port (bytesToHex q.fingerprint)] := by
  have fresh : 10 ∉ q.host ++ [32] ++ decimal q.port ++ [32] ++ bytesToHex q.fingerprint := by
    simp only [List.mem_append, List.mem_singleton, not_or]
    refine ⟨⟨⟨⟨fun mem => ?_, by decide⟩, fun mem => ?_⟩, by decide⟩, fun mem => ?_⟩
    · exact (ordinary.isHost.plain 10 mem).2.2 rfl
    · exact (isDigit.plain (decimal_digits q.port mem)).2.2.2.2 rfl
    · exact (ordinary.isHex.plain 10 mem).2.2 rfl
  have short : (q.host ++ [32] ++ decimal q.port ++ [32] ++ bytesToHex q.fingerprint).length < 1399 := by
    have digits := length_decimal ordinary.port
    have name := ordinary.isHost.short
    have value := ordinary.isHex.short
    simp only [List.length_append, List.length_singleton]
    omega
  have read := @readLine_line _ _ 10 1399 _ [] fresh short
  rw [knownHostRecord, List.length_append, List.length_singleton, buffers, read]
  cases (q.host ++ [32] ++ decimal q.port ++ [32] ++ bytesToHex q.fingerprint).length with
  | zero => rfl
  | succ k => rfl

/-- The record behind a complete file is looked at last. -/
theorem lookup_append (complete : Complete known) (ordinary : Ordinary q) :
    lookupKnownHost (known ++ knownHostRecord q.host q.port (bytesToHex q.fingerprint)) host port =
      (lookupKnownHost known host port).or
        (hexFor host port (knownHostRecord q.host q.port (bytesToHex q.fingerprint))) := by
  rw [lookupKnownHost, buffers_append (by decide) _ _ complete, buffers_record ordinary, List.findSome?_append,
    List.findSome?_singleton]
  rfl

theorem complete_append (q : Query) :
    Complete (known ++ knownHostRecord q.host q.port (bytesToHex q.fingerprint)) := by
  intro c last
  rw [knownHostRecord, ← List.append_assoc, List.getLast?_concat] at last
  exact (Option.some.inj last).symm

theorem hexFor_record (ordinary : Ordinary q) :
    hexFor q.host q.port (knownHostRecord q.host q.port (bytesToHex q.fingerprint)) =
      some (bytesToHex q.fingerprint) := by
  rw [hexFor, entryOf_record ordinary.isHost ordinary.port ordinary.isHex]
  simp

/-- A call leaves the file as it is, or comes to save and appends the record. -/
theorem verifyHostKey_file (ordinary : Ordinary q) (known : List UInt8) :
    (verifyHostKey q known).2 = known ∧
        ((verifyHostKey q known).1.trusted = true →
          lookupKnownHost known q.host q.port = some (bytesToHex q.fingerprint)) ∨
      ComesToSave q known ∧
        (verifyHostKey q known).2 = known ++ knownHostRecord q.host q.port (bytesToHex q.fingerprint) := by
  have saves : saveHost q known = (.saved, known ++ knownHostRecord q.host q.port (bytesToHex q.fingerprint)) := by
    rw [saveHost, appendKnownHost, ordinary.writable]
    rfl
  rw [verifyHostKey]
  simp only [ordinary.fingerprint, ordinary.unpinned, ne_eq, not_true_eq_false, ite_false]
  cases found : lookupKnownHost known q.host q.port with
  | some knownHex =>
      left
      refine ⟨rfl, fun trusted => ?_⟩
      dsimp only at trusted
      split at trusted
      · rename_i same
        rw [same]
      · rw [if_neg ordinary.checked] at trusted
        cases trusted
  | none =>
      dsimp only
      rw [meetHost]
      cases mode : q.strictHostKeyChecking with
      | no => exact absurd mode ordinary.checked
      | yes => exact .inl ⟨rfl, fun trusted => by cases trusted⟩
      | acceptNew => exact .inr ⟨⟨found, .inl mode⟩, by rw [saves]⟩
      | ask =>
          dsimp only
          cases batch : q.batchMode with
          | true => exact .inl ⟨rfl, fun trusted => by cases trusted⟩
          | false =>
              rw [if_neg (by simp), askUser]
              cases said : q.answer with
              | none => exact .inl ⟨rfl, fun trusted => by cases trusted⟩
              | some answer =>
                  dsimp only
                  by_cases yes : saysYes answer = true
                  · rw [if_pos yes, saves]
                    exact .inr ⟨⟨found, .inr ⟨mode, batch, answer, said, yes⟩⟩, rfl⟩
                  · rw [if_neg yes]
                    exact .inl ⟨rfl, fun trusted => by cases trusted⟩

/-- A record that is there stays. -/
theorem lookup_stays (ordinary : Ordinary q) (complete : ComesToSave q known → Complete known)
    (found : lookupKnownHost known host port = some hex) :
    lookupKnownHost (verifyHostKey q known).2 host port = some hex := by
  rcases verifyHostKey_file ordinary known with ⟨same, -⟩ | ⟨saves, appended⟩
  · rw [same, found]
  · rw [appended, lookup_append (complete saves) ordinary, found]
    rfl

/-- Whoever is trusted has a record afterwards. -/
theorem lookup_trusted (ordinary : Ordinary q) (complete : ComesToSave q known → Complete known)
    (trusted : (verifyHostKey q known).1.trusted = true) :
    lookupKnownHost (verifyHostKey q known).2 q.host q.port = some (bytesToHex q.fingerprint) := by
  rcases verifyHostKey_file ordinary known with ⟨same, found⟩ | ⟨saves, appended⟩
  · rw [same, found trusted]
  · rw [appended, lookup_append (complete saves) ordinary, saves.1, hexFor_record ordinary]
    rfl

/-- A complete file stays complete. -/
theorem savesComplete_of_complete {queries : List Query} (ordinary : ∀ q ∈ queries, Ordinary q)
    (complete : Complete known) : SavesComplete queries known := by
  induction queries generalizing known with
  | nil => trivial
  | cons q queries ih =>
      refine ⟨fun _ => complete, ih (fun q mem => ordinary q (List.mem_cons_of_mem _ mem)) ?_⟩
      rcases verifyHostKey_file (ordinary q List.mem_cons_self) known with ⟨same, -⟩ | ⟨-, appended⟩
      · rw [same]
        exact complete
      · rw [appended]
        exact complete_append q

/-- Where there is a record it is the fingerprint of every later call that trusts the host. -/
theorem trusted_later {queries : List Query} (ordinary : ∀ q ∈ queries, Ordinary q)
    (complete : SavesComplete queries known) (found : lookupKnownHost known host port = some hex)
    {call : Query × Verdict} (mem : call ∈ verifyAll queries known) (trusted : call.2.trusted = true)
    (sameHost : call.1.host = host) (samePort : call.1.port = port) :
    bytesToHex call.1.fingerprint = hex := by
  induction queries generalizing known with
  | nil => cases mem
  | cons q queries ih =>
      have first := ordinary q List.mem_cons_self
      have later := lookup_stays first complete.1 found
      rcases List.mem_cons.1 mem with rfl | mem
      · have own := lookup_trusted first complete.1 trusted
        subst sameHost samePort
        exact Option.some.inj (own.symm.trans later)
      · exact ih (fun q mem => ordinary q (List.mem_cons_of_mem _ mem)) complete.2 later mem

end Records

/-- **Trust on first use.**  Whatever the file holds, in every run of calls none of which
appends a record to a last line without an end, two calls that trust the same host and
port were given the same fingerprint. -/
theorem trust_is_kept (known : List UInt8) (queries : List Query) (ordinary : ∀ q ∈ queries, Ordinary q)
    (complete : SavesComplete queries known) :
    ∀ first ∈ verifyAll queries known, ∀ second ∈ verifyAll queries known,
      first.2.trusted = true → second.2.trusted = true →
      first.1.host = second.1.host → first.1.port = second.1.port →
      first.1.fingerprint = second.1.fingerprint := by
  intro first mem second mem' trusted trusted' sameHost samePort
  apply bytesToHex_inj
  induction queries generalizing known with
  | nil => cases mem
  | cons q queries ih =>
      have others : ∀ q ∈ queries, Ordinary q := fun q mem => ordinary q (List.mem_cons_of_mem _ mem)
      have saved : ∀ call : Query × Verdict, call = (q, (verifyHostKey q known).1) → call.2.trusted = true →
          lookupKnownHost (verifyHostKey q known).2 call.1.host call.1.port =
            some (bytesToHex call.1.fingerprint) := by
        rintro _ rfl trusted
        exact lookup_trusted (ordinary q List.mem_cons_self) complete.1 trusted
      rcases List.mem_cons.1 mem with is | mem
      · rcases List.mem_cons.1 mem' with is' | mem'
        · rw [is, is']
        · have same := trusted_later others complete.2 (saved first is trusted) mem' trusted' sameHost.symm samePort.symm
          exact same.symm
      · rcases List.mem_cons.1 mem' with is' | mem'
        · exact trusted_later others complete.2 (saved second is' trusted') mem trusted sameHost samePort
        · exact ih _ others complete.2 mem mem'

/-- A host that is met for the first time. -/
def met (seed : UInt8) : Query :=
  { host := ascii "h", port := 22, fingerprint := List.replicate 32 seed, strictHostKeyChecking := .acceptNew,
    pinnedFingerprintHex := [], batchMode := false, answer := none, writable := true }

theorem ordinary_met (seed : UInt8) : Ordinary (met seed) where
  isHost := by
    have isHost : IsHost (ascii "h") := ⟨by decide, by decide, by decide +kernel, by decide +kernel⟩
    exact isHost
  port := show 22 < 65536 by decide
  fingerprint := List.length_replicate
  checked is := by cases is
  unpinned := rfl
  writable := rfl

/-- The second key of a host is refused. -/
theorem trust_is_kept_met :
    (verifyAll [met 1, met 2, met 1] []).map (fun r => r.2.trusted) = [true, false, true] ∧
      ∀ first ∈ verifyAll [met 1, met 2, met 1] [], ∀ second ∈ verifyAll [met 1, met 2, met 1] [],
        first.2.trusted = true → second.2.trusted = true →
        first.1.host = second.1.host → first.1.port = second.1.port →
        first.1.fingerprint = second.1.fingerprint := by
  have ordinary : ∀ q ∈ [met 1, met 2, met 1], Ordinary q := by
    intro q mem
    simp only [List.mem_cons, List.not_mem_nil, or_false] at mem
    rcases mem with rfl | rfl | rfl
    · exact ordinary_met 1
    · exact ordinary_met 2
    · exact ordinary_met 1
  exact ⟨by decide +kernel, trust_is_kept [] _ ordinary (savesComplete_of_complete ordinary fun c last => by cases last)⟩

/-- Behind a comment without an end two keys of one host are accepted. -/
theorem record_lost :
    (∀ q ∈ [met 1, met 2], Ordinary q) ∧
      verifyAll [met 1, met 2] (ascii "#") = [(met 1, .saved), (met 2, .saved)] ∧
      (met 1).host = (met 2).host ∧ (met 1).port = (met 2).port ∧ (met 1).fingerprint ≠ (met 2).fingerprint := by
  refine ⟨fun q mem => ?_, by decide +kernel, rfl, rfl, by decide +kernel⟩
  simp only [List.mem_cons, List.not_mem_nil, or_false] at mem
  rcases mem with rfl | rfl
  · exact ordinary_met 1
  · exact ordinary_met 2

end NoxSsh.Cli
