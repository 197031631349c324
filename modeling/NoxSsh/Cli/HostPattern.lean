/-
# Cli.HostPattern — host patterns of the configuration

`noxssh_host_pattern_match` compares a host with one pattern, trying for a `*` all that may
follow it.  `noxssh_host_list_matches` does so for the words of a list, and a word with `!`
in front that matches ends the list.

A list means what its words mean, in any order (`host_list_means`): some pattern matches
and no negated one does.
-/
import NoxSsh.Cli.Values
import NoxSsh.Theory.Patterns

namespace NoxSsh.Cli

open Theory Wire

set_option autoImplicit false

/-! ## Matching -/

/-- The loop for a `*`: the test on all that is left, from each place on and at the end. -/
def anyRest (test : List UInt8 → Bool) : List UInt8 → Bool
  | [] => test []
  | c :: rest => test (c :: rest) || anyRest test rest

/-- `noxssh_host_pattern_match`. -/
def hostPatternMatch : List UInt8 → List UInt8 → Bool
  | [], host => host = []
  | p :: pattern, host =>
      if p = 42 then anyRest (hostPatternMatch pattern) host
      else match host with
        | [] => false
        | c :: rest =>
            if p = 63 then hostPatternMatch pattern rest
            else toLower p = toLower c && hostPatternMatch pattern rest

/-- The separators of a list. -/
def isBlank (c : UInt8) : Bool := c = 32 || c = 9

/-- `strtok` until it finds no more. -/
def tokens (text : List UInt8) : List (List UInt8) := (text.splitOnP isBlank).filter (· ≠ [])

/-- A `!` in front is taken off. -/
def negated : List UInt8 → Bool × List UInt8
  | 33 :: token => (true, token)
  | token => (false, token)

/-- The loop over the tokens. -/
def listLoop (host : List UInt8) : List (List UInt8) → Bool → Bool → Bool
  | [], matched, hasPositive => if hasPositive then matched else false
  | token :: rest, matched, hasPositive =>
      let (negate, token) := negated token
      if token = [] then listLoop host rest matched hasPositive
      else
        let hasPositive := hasPositive || !negate
        if hostPatternMatch token host then
          if negate then false else listLoop host rest true hasPositive
        else listLoop host rest matched hasPositive

/-- `noxssh_host_list_matches`. -/
def hostListMatches (patterns host : List UInt8) : Bool :=
  listLoop host (tokens (patterns.take 1023)) false false

/-! ## What the patterns mean -/

/-- `*` and `?`. -/
def symbolOf (c : UInt8) : Symbol UInt8 := if c = 42 then .many else if c = 63 then .one else .exactly c

/-- The host is the pattern with its wildcards replaced, but for case. -/
def HostFills (pattern host : List UInt8) : Prop :=
  Fills (fun a b => toLower a = toLower b) (pattern.map symbolOf) host

/-- Some pattern matches, and no negated one does. -/
def ListMeans (patterns host : List UInt8) : Prop :=
  (∃ word, IsWord isBlank patterns word ∧ word.head? ≠ some 33 ∧ HostFills word host) ∧
    ∀ word, IsWord isBlank patterns (33 :: word) → word ≠ [] → ¬ HostFills word host

section Pattern

variable {pattern host : List UInt8}

theorem anyRest_iff {test : List UInt8 → Bool} :
    anyRest test host = true ↔ ∃ rest, rest <:+ host ∧ test rest = true := by
  induction host with
  | nil => simp [anyRest]
  | cons c host ih =>
      simp only [anyRest, Bool.or_eq_true, ih, List.suffix_cons_iff]
      constructor
      · rintro (here | ⟨rest, later, is⟩)
        · exact ⟨c :: host, .inl rfl, here⟩
        · exact ⟨rest, .inr later, is⟩
      · rintro ⟨rest, rfl | later, is⟩
        · exact .inl is
        · exact .inr ⟨rest, later, is⟩

/-- The matcher finds what the pattern means. -/
theorem hostPatternMatch_iff : hostPatternMatch pattern host = true ↔ HostFills pattern host := by
  induction pattern generalizing host with
  | nil => simp [hostPatternMatch, HostFills, fills_nil]
  | cons p pattern ih =>
      by_cases star : p = 42
      · simp only [hostPatternMatch, star, if_true, HostFills, List.map_cons, symbolOf, fills_many, anyRest_iff, ih]
      · by_cases mark : p = 63
        · cases host <;> simp [hostPatternMatch, mark, HostFills, symbolOf, fills_one, ih]
        · cases host <;> simp [hostPatternMatch, star, mark, HostFills, symbolOf, fills_exactly, ih]

/-- Nothing but the empty host fills the empty pattern. -/
theorem hostFills_nil : HostFills [] host ↔ host = [] := fills_nil

end Pattern

section Lists

variable {host token : List UInt8} {tokens : List (List UInt8)} {matched hasPositive : Bool}

/-- A token in front of the others. -/
theorem negated_cases (token : List UInt8) :
    (∃ rest, token = 33 :: rest ∧ negated token = (true, rest)) ∨ (token.head? ≠ some 33 ∧ negated token = (false, token)) := by
  unfold negated
  split
  · exact .inl ⟨_, rfl, rfl⟩
  · rename_i other
    refine .inr ⟨fun is => ?_, rfl⟩
    cases token with
    | nil => cases is
    | cons c rest =>
        obtain rfl : c = 33 := Option.some.inj is
        exact other rest rfl

/-- The loop: no negated token matches, and one of the others does or did before. -/
theorem listLoop_iff (all : ∀ token ∈ tokens, token ≠ []) (before : matched = true → hasPositive = true) :
    listLoop host tokens matched hasPositive = true ↔
      (matched = true ∨ ∃ token ∈ tokens, token.head? ≠ some 33 ∧ HostFills token host) ∧
        ∀ word, 33 :: word ∈ tokens → word ≠ [] → ¬ HostFills word host := by
  induction tokens generalizing matched hasPositive with
  | nil =>
      cases matched <;> simp_all [listLoop]
  | cons token tokens ih =>
      have ih := @ih
      have some_ := all token List.mem_cons_self
      have others : ∀ token ∈ tokens, token ≠ [] := fun token mem => all token (List.mem_cons_of_mem _ mem)
      rcases negated_cases token with ⟨word, rfl, is⟩ | ⟨positive, is⟩
      · -- a negated pattern
        by_cases empty : word = []
        · subst empty
          simp [listLoop, is, ih others before]
        · by_cases matches_ : hostPatternMatch word host = true
          · simp [listLoop, is, empty, matches_, hostPatternMatch_iff.1 matches_]
          · have apart : ¬ HostFills word host := fun fills => matches_ (hostPatternMatch_iff.2 fills)
            simp [listLoop, is, empty, matches_, apart, ih others before]
      · have different : ∀ word, 33 :: word ≠ token := by
          rintro word rfl
          exact positive rfl
        by_cases matches_ : hostPatternMatch token host = true
        · have fills := hostPatternMatch_iff.1 matches_
          simp [listLoop, is, some_, matches_, fills, positive, different, ih others]
        · have apart : ¬ HostFills token host := fun fills => matches_ (hostPatternMatch_iff.2 fills)
          simp [listLoop, is, some_, matches_, apart, different, ih others]

theorem hostListMatches_iff {patterns : List UInt8} (fits : patterns.length ≤ 1023) :
    hostListMatches patterns host = true ↔ ListMeans patterns host := by
  have all : ∀ token ∈ Cli.tokens patterns, token ≠ [] := by
    intro token mem
    simpa using (List.mem_filter.1 mem).2
  have words : ∀ token, token ∈ Cli.tokens patterns ↔ IsWord isBlank patterns token := fun _ => mem_words_iff
  have start := @listLoop_iff host _ false false all (by simp)
  rw [hostListMatches, List.take_of_length_le fits, start, ListMeans]
  simp [words]

end Lists

/-- **Host lists mean what they say.**  A list of at most 1023 bytes matches a host exactly if
one of its patterns without `!` does and none of those with one, whatever their order; and a
pattern does if the host comes out of it by replacing each `*` and `?`, but for case. -/
theorem host_list_means (patterns host : List UInt8) (fits : patterns.length ≤ 1023) (some_ : host ≠ []) :
    (hostListMatches patterns host = true ↔
      (∃ word, IsWord isBlank patterns word ∧ word.head? ≠ some 33 ∧ hostPatternMatch word host = true) ∧
        ∀ word, IsWord isBlank patterns (33 :: word) → ¬ hostPatternMatch word host = true) ∧
    ∀ pattern, hostPatternMatch pattern host = true ↔ HostFills pattern host := by
  refine ⟨?_, fun pattern => hostPatternMatch_iff⟩
  have whole : ∀ word, HostFills word host → word ≠ [] := by
    rintro word fills rfl
    exact some_ (hostFills_nil.1 fills)
  simp only [hostListMatches_iff fits, ListMeans, hostPatternMatch_iff]
  constructor
  · rintro ⟨some_, none⟩
    exact ⟨some_, fun word is fills => none word is (whole word fills) fills⟩
  · rintro ⟨some_, none⟩
    exact ⟨some_, fun word is _ => none word is⟩

theorem host_list_means_inner :
    hostListMatches (ascii "*.Net !inner.*") (ascii "inner.net") = true ↔
      (∃ word, IsWord isBlank (ascii "*.Net !inner.*") word ∧ word.head? ≠ some 33 ∧
        hostPatternMatch word (ascii "inner.net") = true) ∧
      ∀ word, IsWord isBlank (ascii "*.Net !inner.*") (33 :: word) → ¬ hostPatternMatch word (ascii "inner.net") = true :=
  (host_list_means (ascii "*.Net !inner.*") (ascii "inner.net") (by decide) (by decide)).1

example : hostListMatches (ascii "*.Net !inner.*") (ascii "inner.net") = false := by decide
example : hostListMatches (ascii "!outer.* in*.N?t") (ascii "inner.net") = true := by decide

end NoxSsh.Cli
