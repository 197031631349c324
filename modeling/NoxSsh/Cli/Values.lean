/-
# Cli.Values — numbers, hex and modes on the command line

What the program reads out of one word: a number with `strtoul` or `strtol`, which must
take the whole word, a run of hex digits, and the mode of host key checking.  A word is
the bytes of a C string before its terminator.
-/
import NoxSsh.Wire.Payload

namespace NoxSsh.Cli

open Wire

set_option autoImplicit false

/-- What a C string function sees of a buffer. -/
def cString (buffer : List UInt8) : List UInt8 := buffer.takeWhile (· ≠ 0)

/-! ## Numbers -/

def isSpace (c : UInt8) : Bool := c = 32 || (9 ≤ c && c ≤ 13)

def isDigit (c : UInt8) : Bool := 48 ≤ c && c ≤ 57

/-- Blanks, a sign and digits to the end of the word: the sign and the number. -/
def wholeNumber (word : List UInt8) : Option (Bool × Nat) :=
  let (negative, digits) := match word.dropWhile isSpace with
    | 45 :: rest => (true, rest)
    | 43 :: rest => (false, rest)
    | rest => (false, rest)
  if digits = [] ∨ digits.all isDigit = false then none
  else some (negative, digits.foldl (fun n c => n * 10 + (c.toNat - 48)) 0)

/-- `strtoul`, base 10, if it takes the whole word: clamped, and a minus sign negates the
unsigned number. -/
def strtoul (word : List UInt8) : Option Nat :=
  (wholeNumber word).map fun (negative, n) =>
    if n > 18446744073709551615 then 18446744073709551615
    else if negative then (18446744073709551616 - n) % 18446744073709551616
    else n

/-- `strtol`, base 10, if it takes the whole word: clamped. -/
def strtol (word : List UInt8) : Option Int :=
  (wholeNumber word).map fun (negative, n) =>
    if negative then max (-n) (-9223372036854775808) else min n 9223372036854775807

/-! ## Hex -/

/-- `noxssh_hex_nibble`. -/
def hexNibble (c : UInt8) : Option Nat :=
  if 48 ≤ c ∧ c ≤ 57 then some (c.toNat - 48)
  else if 97 ≤ c ∧ c ≤ 102 then some (c.toNat - 97 + 10)
  else if 65 ≤ c ∧ c ≤ 70 then some (c.toNat - 65 + 10)
  else none

def hexPairs : List UInt8 → Option (List UInt8)
  | [] => some []
  | hi :: lo :: rest => do
      let h ← hexNibble hi
      let l ← hexNibble lo
      let more ← hexPairs rest
      pure (UInt8.ofNat (h * 16 + l) :: more)
  | [_] => none

/-- `noxssh_hex_to_bytes` into `outLen` bytes. -/
def hexToBytes (hex : List UInt8) (outLen : Nat) : Option (List UInt8) :=
  if hex.length ≠ outLen * 2 then none else hexPairs hex

/-- `noxssh_is_valid_hex_fingerprint`. -/
def isValidHexFingerprint (word : List UInt8) : Bool :=
  word.length = 64 && word.all fun c => (hexNibble c).isSome

/-- `tolower` of the C locale. -/
def toLower (c : UInt8) : UInt8 := if 65 ≤ c ∧ c ≤ 90 then c - 65 + 97 else c

/-! ## Modes -/

/-- `noxssh_ascii_equals_ignore_case`. -/
def asciiEqualsIgnoreCase (a b : List UInt8) : Bool := a.map toLower = b.map toLower

/-- `NOXSSH_HOSTKEY_CHECK_*`. -/
inductive HostKeyCheck where
  | ask
  | yes
  | no
  | acceptNew
  deriving DecidableEq, Repr

/-- `noxssh_parse_strict_host_key_mode`. -/
def parseStrictHostKeyMode (value : List UInt8) : Option HostKeyCheck :=
  let is := fun name => asciiEqualsIgnoreCase value (ascii name)
  if is "yes" || is "true" then some .yes
  else if is "no" || is "off" || is "false" then some .no
  else if is "accept-new" then some .acceptNew
  else if is "ask" then some .ask
  else none

end NoxSsh.Cli
