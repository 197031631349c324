/-
# Wire.Namelist — name lists by their indices

`netnox_ssh_namelist_contains` walks a list with two 32-bit indices and compares the part
between them with the token.  Here each byte is read through the list, so that a read
outside of it would show (`Indexed.namelistContains`).  There is none, and the answer is
whether the token is one of the parts between the commas (`namelist_contains_iff`), as the
check of a KEXINIT takes it to be (`indexed_eq`).

The length of the token is cast to 32 bits.  Every caller passes a literal.
-/
import NoxSsh.Protocol.Negotiation

namespace NoxSsh.Wire

set_option autoImplicit false

theorem toNat_succ {n bound : UInt32} (below : n < bound) : (n + 1).toNat = n.toNat + 1 := by
  have less := UInt32.lt_iff_toNat_lt.1 below
  have most := bound.toNat_lt
  rw [UInt32.toNat_add, UInt32.toNat_one, Nat.mod_eq_of_lt (by omega)]

namespace Indexed

/-! ## The function -/

/-- `strlen`, the token being what stands in front of its terminator at least. -/
def strlen (str : List UInt8) : Nat := (str.takeWhile (· ≠ 0)).length

/-- `memcmp(&list[start], token, n) == 0`, `none` where it would read outside. -/
def memcmpZero (list : List UInt8) (start : Nat) (token : List UInt8) (n : Nat) : Option Bool :=
  if start + n ≤ list.length ∧ n ≤ token.length then some ((list.drop start).take n == token.take n) else none

/-- The inner loop: on to the next comma, or to the end. -/
def commaFrom (list : List UInt8) (listLen stop : UInt32) : Option UInt32 :=
  if stop < listLen then
    match list[stop.toNat]? with
    | none => none
    | some c => if c = 44 then some stop else commaFrom list listLen (stop + 1)
  else some stop
termination_by listLen.toNat - stop.toNat
decreasing_by
  have next := toNat_succ ‹stop < listLen›
  have less := UInt32.lt_iff_toNat_lt.1 ‹stop < listLen›
  omega

theorem commaFrom_ge {list : List UInt8} {listLen start stop : UInt32}
    (found : commaFrom list listLen start = some stop) : start.toNat ≤ stop.toNat := by
  fun_induction commaFrom list listLen start with
  | case1 start inside outside => cases found
  | case2 start inside here => cases found; exact Nat.le_refl _
  | case3 start inside c here other ih =>
      have next := toNat_succ inside
      have later := ih found
      omega
  | case4 start inside => cases found; exact Nat.le_refl _

/-- The outer loop, from the name that begins at `start`. -/
def containsFrom (list token : List UInt8) (listLen tokenLen start : UInt32) : Option Bool :=
  if start < listLen then
    match _found : commaFrom list listLen start with
    | none => none
    | some stop =>
        match if stop - start = tokenLen then memcmpZero list start.toNat token tokenLen.toNat else some false with
        | none => none
        | some true => some true
        | some false =>
            if stop ≥ listLen then some false else containsFrom list token listLen tokenLen (stop + 1)
  else some false
termination_by listLen.toNat - start.toNat
decreasing_by
  have below := UInt32.not_le.1 ‹¬ stop ≥ listLen›
  have later := commaFrom_ge _found
  have next := toNat_succ below
  have less := UInt32.lt_iff_toNat_lt.1 below
  omega

/-- `netnox_ssh_namelist_contains` of a list of `listLen` bytes. -/
def namelistContains (list : List UInt8) (listLen : UInt32) (token : List UInt8) : Option Bool :=
  let tokenLen := UInt32.ofNat (strlen token)
  if tokenLen = 0 then some false else containsFrom list token listLen tokenLen 0

/-! ## Its loops -/

section Loops

variable {list token : List UInt8} {listLen tokenLen start stop : UInt32}

/-- The inner loop passes over a part without a comma, and stops at the end or at a comma. -/
theorem commaFrom_spec (whole : list.length = listLen.toNat) (start : UInt32) (within : start.toNat ≤ list.length) :
    ∃ stop word, commaFrom list listLen start = some stop ∧ 44 ∉ word ∧ stop.toNat = start.toNat + word.length ∧
      (list.drop start.toNat = word ∨ ∃ rest, list.drop start.toNat = word ++ 44 :: rest) := by
  fun_induction commaFrom list listLen start with
  | case1 start inside outside =>
      have less := UInt32.lt_iff_toNat_lt.1 inside
      rw [List.getElem?_eq_none_iff] at outside
      omega
  | case2 start inside here =>
      have less := (List.getElem?_eq_some_iff.1 here).1
      have cut := List.drop_eq_getElem_cons less
      rw [(List.getElem?_eq_some_iff.1 here).2] at cut
      exact ⟨start, [], rfl, List.not_mem_nil, rfl, Or.inr ⟨_, cut⟩⟩
  | case3 start inside c here other ih =>
      have next := toNat_succ inside
      have less := (List.getElem?_eq_some_iff.1 here).1
      have cut := List.drop_eq_getElem_cons less
      rw [(List.getElem?_eq_some_iff.1 here).2] at cut
      obtain ⟨stop, word, found, free, length, rest⟩ := ih (by omega)
      rw [next] at rest
      refine ⟨stop, c :: word, found, by simp [Ne.symm other, free], by simp; omega, ?_⟩
      rw [cut]
      exact rest.imp (fun part => by rw [part]) fun ⟨left, part⟩ => ⟨left, by rw [part, List.cons_append]⟩
  | case4 start inside =>
      have last : listLen.toNat ≤ start.toNat := UInt32.le_iff_toNat_le.1 (UInt32.not_lt.1 inside)
      exact ⟨start, [], rfl, List.not_mem_nil, rfl, Or.inl (List.drop_of_length_le (by omega))⟩

/-- The part is compared as a whole, inside the list and inside the token. -/
theorem compare_part {word rest : List UInt8} (fits : tokenLen.toNat ≤ token.length)
    (part : list.drop start.toNat = word ++ rest) (within : start.toNat ≤ list.length)
    (length : stop.toNat = start.toNat + word.length) :
    (if stop - start = tokenLen then memcmpZero list start.toNat token tokenLen.toNat else some false) =
      some (token.take tokenLen.toNat == word) := by
  have below : start ≤ stop := UInt32.le_iff_toNat_le.2 (by omega)
  have apart : (stop - start).toNat = word.length := by
    rw [UInt32.toNat_sub_of_le _ _ below]
    omega
  have sizes := congrArg List.length part
  rw [List.length_drop, List.length_append] at sizes
  by_cases same : stop - start = tokenLen
  · rw [same] at apart
    rw [if_pos same, memcmpZero, if_pos (by omega), part, apart, List.take_left]
    rw [BEq.comm]
  · rw [if_neg same]
    have other : token.take tokenLen.toNat ≠ word := by
      intro is
      have lengths := congrArg List.length is
      rw [List.length_take_of_le fits] at lengths
      exact same (UInt32.toNat_inj.1 (by omega))
    rw [beq_false_of_ne other]

/-- From the start of a part the loop looks for the token in all that are left. -/
theorem containsFrom_spec (whole : list.length = listLen.toNat) (fits : tokenLen.toNat ≤ token.length)
    (named : tokenLen ≠ 0) (start : UInt32) (within : start.toNat ≤ list.length) :
    containsFrom list token listLen tokenLen start =
      some (((list.drop start.toNat).splitOn 44).contains (token.take tokenLen.toNat)) := by
  induction left : listLen.toNat - start.toNat using Nat.strong_induction_on generalizing start with
  | _ left ih =>
      rw [containsFrom]
      by_cases inside : start < listLen
      · obtain ⟨stop, word, found, free, length, parts⟩ := commaFrom_spec whole start within
        rw [if_pos inside]
        split
        · rename_i none
          cases found.symm.trans none
        · rename_i stop' found'
          obtain rfl := Option.some.inj (found.symm.trans found')
          rcases parts with part | ⟨rest, part⟩
          · rw [compare_part fits (part.trans (List.append_nil word).symm) within length, part,
              List.splitOn_eq_singleton free, List.contains_cons, List.contains_nil, Bool.or_false]
            have last : stop ≥ listLen := by
              rw [ge_iff_le, UInt32.le_iff_toNat_le, length, ← whole, ← part, List.length_drop]
              omega
            cases token.take tokenLen.toNat == word with
            | true => rfl
            | false => exact if_pos last
          · rw [compare_part fits part within length, part, List.splitOn_append_cons_self_of_not_mem free,
              List.contains_cons]
            have lengths := congrArg List.length part
            rw [List.length_drop, List.length_append, List.length_cons] at lengths
            have below : stop < listLen := by
              rw [UInt32.lt_iff_toNat_lt]
              omega
            have next := toNat_succ below
            have tail : list.drop (stop + 1).toNat = rest := by
              rw [next, length, Nat.add_assoc, ← List.drop_drop, part, List.append_cons]
              exact List.drop_left' (by simp)
            cases token.take tokenLen.toNat == word with
            | true => rfl
            | false =>
                refine (if_neg (UInt32.not_le.2 below)).trans ?_
                rw [ih _ (by omega) (stop + 1) (by omega) rfl, tail, Bool.false_or]
      · have last : listLen.toNat ≤ start.toNat := UInt32.le_iff_toNat_le.1 (UInt32.not_lt.1 inside)
        have empty : token.take tokenLen.toNat ≠ [] := by
          intro none
          have lengths := congrArg List.length none
          rw [List.length_take_of_le fits, List.length_nil] at lengths
          exact named (UInt32.toNat_inj.1 lengths)
        rw [if_neg inside, List.drop_of_length_le (by omega), List.splitOn_nil, List.contains_cons, List.contains_nil,
          beq_false_of_ne empty, Bool.or_false]

end Loops

/-! ## The answer -/

theorem strlen_eq {token : List UInt8} (text : 0 ∉ token) : strlen token = token.length := by
  rw [strlen, List.takeWhile_eq_self_iff.2]
  intro c mem
  simpa using ne_of_mem_of_not_mem mem text

/-- What is looked for is as much of the token as a 32-bit length tells. -/
theorem namelistContains_eq {list token : List UInt8} {listLen : UInt32} (whole : list.length = listLen.toNat)
    (text : 0 ∉ token) :
    namelistContains list listLen token =
      some (decide (token.length % 2 ^ 32 ≠ 0) && (list.splitOn 44).contains (token.take (token.length % 2 ^ 32))) := by
  have length : (UInt32.ofNat token.length).toNat = token.length % 2 ^ 32 := UInt32.toNat_ofNat'
  rw [namelistContains, strlen_eq text]
  by_cases zero : UInt32.ofNat token.length = 0
  · rw [zero] at length
    rw [if_pos zero, ← length]
    rfl
  · have some_ : token.length % 2 ^ 32 ≠ 0 := by
      rw [← length]
      exact fun none => zero (UInt32.toNat_inj.1 none)
    have fits : (UInt32.ofNat token.length).toNat ≤ token.length := length ▸ Nat.mod_le _ _
    rw [if_neg zero, containsFrom_spec whole fits zero 0 (Nat.zero_le _), length, decide_eq_true some_, Bool.true_and]
    rfl

/-- A short token is looked for as the check of a KEXINIT does. -/
theorem indexed_eq {list token : List UInt8} {listLen : UInt32} (whole : list.length = listLen.toNat)
    (text : 0 ∉ token) (short : token.length < 2 ^ 32) :
    namelistContains list listLen token = some (Wire.namelistContains list token) := by
  rw [namelistContains_eq whole text, Nat.mod_eq_of_lt short, List.take_length, Option.some.injEq]
  rw [Bool.eq_iff_iff, Wire.namelistContains, Bool.and_eq_true, Bool.and_eq_true, Protocol.namelistScan_iff,
    Protocol.modifyHead_nil, List.contains_iff_mem]
  simp

end Indexed

/-- **Name-list membership.**  For every list of bytes and every token the function returns,
without a read outside the list or the token; and a token that is not empty and shorter than
`2 ^ 32` bytes is found just if it is one of the parts of the list between its commas. -/
theorem namelist_contains_iff (list token : List UInt8) (listLen : UInt32) (whole : list.length = listLen.toNat)
    (text : 0 ∉ token) :
    (∃ found, Indexed.namelistContains list listLen token = some found) ∧
      (token ≠ [] → token.length < 2 ^ 32 →
        (Indexed.namelistContains list listLen token = some true ↔ token ∈ list.splitOn 44)) := by
  refine ⟨⟨_, Indexed.namelistContains_eq whole text⟩, fun named short => ?_⟩
  rw [Indexed.namelistContains_eq whole text, Nat.mod_eq_of_lt short, List.take_length, Option.some.injEq,
    Bool.and_eq_true, decide_eq_true_eq, List.contains_iff_mem]
  exact and_iff_right fun none => named (List.length_eq_zero_iff.1 none)

/-- The last of three parts, the one in front of it empty. -/
theorem namelist_contains_iff_last :
    Indexed.namelistContains (ascii "a,,none") 7 (ascii "none") = some true ↔
      ascii "none" ∈ (ascii "a,,none").splitOn 44 :=
  (namelist_contains_iff (ascii "a,,none") (ascii "none") 7 (by decide) (by decide)).2 (by decide) (by decide)

/-- A long token whose cast length is one is looked for by its first byte. -/
theorem namelistContains_replicate {n : Nat} (long : 2 ≤ n) (cast : n % 2 ^ 32 = 1) :
    (0 ∉ List.replicate n (97 : UInt8) ∧ List.replicate n (97 : UInt8) ≠ []) ∧
      Indexed.namelistContains [97] 1 (List.replicate n 97) = some true ∧
      List.replicate n 97 ∉ [(97 : UInt8)].splitOn 44 := by
  have text : (0 : UInt8) ∉ List.replicate n 97 := fun mem => absurd (List.eq_of_mem_replicate mem) (by decide)
  refine ⟨⟨text, ?_⟩, ?_, ?_⟩
  · rw [Ne, List.replicate_eq_nil_iff]
    omega
  · rw [Indexed.namelistContains_eq rfl text, List.length_replicate, cast, List.take_replicate,
      Nat.min_eq_left (by omega)]
    decide
  · rw [List.splitOn_eq_singleton (by decide), List.mem_singleton]
    intro same
    have lengths := congrArg List.length same
    rw [List.length_replicate, List.length_singleton] at lengths
    omega

/-- Of a token of `2 ^ 32 + 1` bytes only the first is looked for. -/
theorem namelist_contains_cast :
    (0 ∉ List.replicate 4294967297 (97 : UInt8) ∧ List.replicate 4294967297 (97 : UInt8) ≠ []) ∧
      Indexed.namelistContains [97] 1 (List.replicate 4294967297 97) = some true ∧
      List.replicate 4294967297 97 ∉ [(97 : UInt8)].splitOn 44 :=
  namelistContains_replicate (by decide) (by decide)

end NoxSsh.Wire
