/-
# Wire.StringView — the three readers of a string, and the sums that wrap

The client library, the server and the command line client each have a reader of SSH
strings; the first two are the same code (`payloadReadStringView`), the third reads the
length itself.  All three add a 32-bit length of the peer's choosing to an offset in
32-bit arithmetic and compare the sum with the length of the payload.

A sum that wraps can land inside the payload.  The reader then returns a view that runs
past the end, and an offset that may lie before the one it was given.  Everywhere else
the view is the string and the offset stands behind it (`reads_inside_iff`).
-/
import NoxSsh.Wire.Payload

namespace NoxSsh.Wire

open Theory

set_option autoImplicit false

/-- `noxssh_read_ssh_string_view` of the command line client. -/
def noxsshReadSshStringView (m : Mem) (bufLen offset : Nat) : Option (View × Nat) :=
  if wrap32 (offset + 4) > bufLen then none
  else
    let len := beNat (slice m offset 4)
    let offset := wrap32 (offset + 4)
    if wrap32 (offset + len) > bufLen then none
    else some (⟨offset, len⟩, wrap32 (offset + len))

/-- The readers of the client library and the server, and of the command line client. -/
def stringReaders : List (Mem → Nat → Nat → Option (View × Nat)) := [payloadReadStringView, noxsshReadSshStringView]

/-- What the reader returns is the string behind the four length bytes, it ends inside the
payload, and the new offset is its end. -/
def ReadsInside (read : Mem → Nat → Nat → Option (View × Nat)) (m : Mem) (payloadLen offset : Nat) : Prop :=
  ∀ v next, read m payloadLen offset = some (v, next) →
    offset + 4 + v.len ≤ payloadLen ∧ v.bytes m = slice m (offset + 4) v.len ∧
      v.len = beNat (slice m offset 4) ∧ next = offset + 4 + v.len

/-- The two bodies compute the same. -/
theorem noxsshReadSshStringView_eq : noxsshReadSshStringView = payloadReadStringView := by
  funext m bufLen offset
  unfold noxsshReadSshStringView payloadReadStringView payloadReadU32
  by_cases short : wrap32 (offset + 4) > bufLen
  · rw [if_pos short, if_pos short]
  · rw [if_neg short, if_neg short]

theorem beNat_slice_lt (m : Mem) (offset : Nat) : beNat (slice m offset 4) < 4294967296 := by
  have bound := beNat_lt (slice m offset 4)
  rwa [length_slice] at bound

/-- The reader, where the length field cannot wrap: all that is compared is the end. -/
theorem payloadReadStringView_eq {m : Mem} {payloadLen offset : Nat} (small : offset + 4 < 4294967296) :
    payloadReadStringView m payloadLen offset =
      if offset + 4 ≤ payloadLen ∧ wrap32 (offset + 4 + beNat (slice m offset 4)) ≤ payloadLen then
        some (⟨offset + 4, beNat (slice m offset 4)⟩, wrap32 (offset + 4 + beNat (slice m offset 4)))
      else none := by
  unfold payloadReadStringView payloadReadU32
  rw [wrap32_of_lt small]
  by_cases room : offset + 4 ≤ payloadLen
  · rw [if_neg (by omega)]
    dsimp only
    by_cases fits : wrap32 (offset + 4 + beNat (slice m offset 4)) ≤ payloadLen
    · rw [if_neg (by omega), if_pos ⟨room, fits⟩]
    · rw [if_pos (by omega), if_neg fun both => fits both.2]
  · rw [if_pos (by omega), if_neg fun both => room both.1]

/-- **When a string is read inside the payload.**  For every payload, length and offset, each
of the three readers stays inside if and only if the sum of offset and length does not wrap
into the payload. -/
theorem reads_inside_iff (m : Mem) (payloadLen offset : Nat) (small : payloadLen < 2 ^ 31) (inside : offset ≤ payloadLen) :
    ∀ read ∈ stringReaders, ReadsInside read m payloadLen offset ↔
      (offset + 4 ≤ payloadLen → offset + 4 + beNat (slice m offset 4) < 2 ^ 32 ∨
        payloadLen + 2 ^ 32 < offset + 4 + beNat (slice m offset 4)) := by
  have bound := beNat_slice_lt m offset
  have main : ReadsInside payloadReadStringView m payloadLen offset ↔
      (offset + 4 ≤ payloadLen → offset + 4 + beNat (slice m offset 4) < 2 ^ 32 ∨
        payloadLen + 2 ^ 32 < offset + 4 + beNat (slice m offset 4)) := by
    unfold ReadsInside
    rw [payloadReadStringView_eq (by omega), wrap32]
    constructor
    · intro reads room
      by_contra wraps
      have lands : offset + 4 ≤ payloadLen ∧
          (offset + 4 + beNat (slice m offset 4)) % 4294967296 ≤ payloadLen := by omega
      have read := reads _ _ (if_pos lands)
      have stays := read.1
      dsimp only at stays
      omega
    · intro apart v next read
      rw [Option.ite_none_right_eq_some] at read
      obtain ⟨⟨room, fits⟩, is⟩ := read
      obtain ⟨rfl, rfl⟩ := Prod.mk.inj (Option.some.inj is)
      have low : offset + 4 + beNat (slice m offset 4) < 4294967296 := by
        have cases := apart room
        omega
      rw [Nat.mod_eq_of_lt low] at fits ⊢
      exact ⟨fits, rfl, rfl, rfl⟩
  intro read member
  rcases List.mem_cons.1 member with rfl | member
  · exact main
  · obtain rfl := List.mem_singleton.1 member
    rw [noxsshReadSshStringView_eq]
    exact main

/-- A string of five bytes that fills the payload. -/
theorem reads_inside_iff_five :
    ReadsInside noxsshReadSshStringView (memOf (sshString (ascii "hello")) fun _ => 0) 9 0 ↔
      (0 + 4 ≤ 9 → 0 + 4 + beNat (slice (memOf (sshString (ascii "hello")) fun _ => 0) 0 4) < 2 ^ 32 ∨
        9 + 2 ^ 32 < 0 + 4 + beNat (slice (memOf (sshString (ascii "hello")) fun _ => 0) 0 4)) :=
  reads_inside_iff _ 9 0 (by decide) (by decide) _ (by simp [stringReaders])

/-- With the length `2 ^ 32 - 1` the sum is 3: the reader returns four gigabytes of a
payload of five bytes, and an offset inside its own length field. -/
theorem reads_past_the_end :
    ¬ ∀ (m : Mem) (payloadLen offset : Nat), payloadLen < 2 ^ 31 → offset ≤ payloadLen →
      ∀ read ∈ stringReaders, ReadsInside read m payloadLen offset := by
  intro inside
  have reads := inside (memOf [255, 255, 255, 255, 0] fun _ => 0) 5 0 (by decide) (by decide) payloadReadStringView
    (by simp [stringReaders])
  have read : payloadReadStringView (memOf [255, 255, 255, 255, 0] fun _ => 0) 5 0 = some (⟨4, 4294967295⟩, 3) := by
    decide
  exact absurd (reads _ _ read).1 (by decide)

end NoxSsh.Wire
