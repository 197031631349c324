/-
# Cli.Config — the settings in ~/.ssh/config

`noxssh_load_ssh_config_for_host` reads the file through a buffer of 1023 characters and
takes each buffer for a line.  A `Host` line turns the lines below it on or off; of the
others the first acceptable value of each keyword is kept, cut to the room of its field.

So every field has the first acceptable value of the text whose lines are cut after 1023
bytes, and that of the text itself exactly where the cuts change none (`config_first_iff`).
What separates keyword and value is looked for at its first character only: an `=` behind a
blank becomes part of the value (`separators_iff`).
-/
import Mathlib.Data.List.DropRight
import NoxSsh.Cli.HostPattern
import NoxSsh.Theory.Lines

namespace NoxSsh.Cli

open Theory Wire

set_option autoImplicit false

/-! ## Directives -/

/-- `noxssh_ltrim`. -/
def ltrim (s : List UInt8) : List UInt8 := s.dropWhile isSpace

/-- `noxssh_rtrim`. -/
def rtrim (s : List UInt8) : List UInt8 := s.rdropWhile isSpace

/-- What `strpbrk` looks for. -/
def isSeparator (c : UInt8) : Bool := c = 32 || c = 9 || c = 61

/-- The keyword and the value of a line that has both. -/
def directive (line : List UInt8) : Option (List UInt8 × List UInt8) :=
  let p := rtrim (ltrim (cString line))
  if p.head? = some 35 then none
  else
    match p.dropWhile (fun c => !isSeparator c) with
    | [] => none
    | _ :: rest =>
        let value := rtrim (ltrim rest)
        if value = [] then none else some (p.takeWhile (fun c => !isSeparator c), value)

/-- The keywords, in the order in which they are compared. -/
inductive Keyword where
  | hostName
  | user
  | port
  | identityFile
  | userKnownHostsFile
  | strictHostKeyChecking
  | batchMode
  | connectTimeout
  | serverAliveInterval
  | serverAliveCountMax
  | rekeyInterval
  deriving DecidableEq, Repr

def Keyword.all : List Keyword :=
  [.hostName, .user, .port, .identityFile, .userKnownHostsFile, .strictHostKeyChecking, .batchMode, .connectTimeout,
    .serverAliveInterval, .serverAliveCountMax, .rekeyInterval]

def Keyword.name : Keyword → List UInt8
  | .hostName => ascii "HostName"
  | .user => ascii "User"
  | .port => ascii "Port"
  | .identityFile => ascii "IdentityFile"
  | .userKnownHostsFile => ascii "UserKnownHostsFile"
  | .strictHostKeyChecking => ascii "StrictHostKeyChecking"
  | .batchMode => ascii "BatchMode"
  | .connectTimeout => ascii "ConnectTimeout"
  | .serverAliveInterval => ascii "ServerAliveInterval"
  | .serverAliveCountMax => ascii "ServerAliveCountMax"
  | .rekeyInterval => ascii "RekeyInterval"

def hostKeyword : List UInt8 := ascii "Host"

/-- The chain of comparisons with the key. -/
def keywordOf (key : List UInt8) : Option Keyword := Keyword.all.find? fun k => asciiEqualsIgnoreCase key k.name

/-! ## Values -/

/-- `noxssh_get_home_dir` into 1024 characters, from the environment. -/
def getHomeDir : Option (List UInt8) → Option (List UInt8)
  | none => none
  | some home => if home = [] ∨ 1024 ≤ home.length then none else some home

/-- A path that begins at the home directory. -/
def isHomePath : List UInt8 → Bool
  | 126 :: c :: _ => c = 47 || c = 92
  | _ => false

/-- `noxssh_expand_home_path`. -/
def expandHomePath (home : Option (List UInt8)) (inPath : List UInt8) (outLen : Nat) : List UInt8 :=
  let copied := inPath.take (outLen - 1)
  if isHomePath inPath then
    match getHomeDir home with
    | none => copied
    | some home => if (home ++ inPath.drop 1).length < outLen then home ++ inPath.drop 1 else copied
  else copied

def portNumber (value : List UInt8) : Option Nat := (strtoul value).filter fun n => 0 < n && n ≤ 65535

def numberUpTo (most : Nat) (value : List UInt8) : Option Nat := (strtoul value).filter (· ≤ most)

/-- `noxssh_ssh_config_t`; the flag of a field and the field in one. -/
structure SshConfig where
  hostName : Option (List UInt8) := none
  user : Option (List UInt8) := none
  identityFile : Option (List UInt8) := none
  userKnownHostsFile : Option (List UInt8) := none
  port : Option Nat := none
  strictHostKeyChecking : Option HostKeyCheck := none
  batchMode : Option Bool := none
  connectTimeoutMs : Option Nat := none
  serverAliveIntervalSec : Option Nat := none
  serverAliveCountMax : Option Nat := none
  rekeyIntervalSec : Option Nat := none
  deriving DecidableEq

/-- The branch of a keyword: a field that is set stays. -/
def SshConfig.give (cfg : SshConfig) (home : Option (List UInt8)) (value : List UInt8) : Keyword → SshConfig
  | .hostName => { cfg with hostName := cfg.hostName <|> some (value.take 255) }
  | .user => { cfg with user := cfg.user <|> some (value.take 64) }
  | .port => { cfg with port := cfg.port <|> portNumber value }
  | .identityFile => { cfg with identityFile := cfg.identityFile <|> some (expandHomePath home value 1024) }
  | .userKnownHostsFile =>
      { cfg with userKnownHostsFile := cfg.userKnownHostsFile <|> some (expandHomePath home value 1024) }
  | .strictHostKeyChecking =>
      { cfg with strictHostKeyChecking := cfg.strictHostKeyChecking <|> parseStrictHostKeyMode value }
  | .batchMode => { cfg with batchMode := cfg.batchMode <|> some (asciiEqualsIgnoreCase value (ascii "yes")) }
  | .connectTimeout =>
      { cfg with connectTimeoutMs := cfg.connectTimeoutMs <|> (numberUpTo 600 value).map (· * 1000) }
  | .serverAliveInterval =>
      { cfg with serverAliveIntervalSec := cfg.serverAliveIntervalSec <|> numberUpTo 3600 value }
  | .serverAliveCountMax => { cfg with serverAliveCountMax := cfg.serverAliveCountMax <|> numberUpTo 100 value }
  | .rekeyInterval => { cfg with rekeyIntervalSec := cfg.rekeyIntervalSec <|> numberUpTo 86400 value }

/-! ## Loading -/

/-- The loop's body: whether the block is active, and what is set so far. -/
def takeLine (home : Option (List UInt8)) (hostAlias : List UInt8) (state : Bool × SshConfig) (line : List UInt8) :
    Bool × SshConfig :=
  match directive line with
  | none => state
  | some (key, value) =>
      if asciiEqualsIgnoreCase key hostKeyword then (hostListMatches value hostAlias, state.2)
      else if state.1 = false then state
      else
        match keywordOf key with
        | none => state
        | some k => (state.1, state.2.give home value k)

/-- `noxssh_load_ssh_config_for_host`, with what the environment says is the home directory
and the content of the file, if it can be opened. -/
def loadSshConfigForHost (home file : Option (List UInt8)) (hostAlias : List UInt8) : Bool × SshConfig :=
  match getHomeDir home, file with
  | some _, some text => (true, ((buffers 10 1023 text.length text).foldl (takeLine home hostAlias) (false, {})).2)
  | _, _ => (false, {})

/-! ## What the lines say -/

/-- What a field can hold. -/
inductive Value where
  | text (bytes : List UInt8)
  | number (n : Nat)
  | mode (check : HostKeyCheck)
  | flag (is : Bool)
  deriving DecidableEq

def SshConfig.get (cfg : SshConfig) : Keyword → Option Value
  | .hostName => cfg.hostName.map .text
  | .user => cfg.user.map .text
  | .port => cfg.port.map .number
  | .identityFile => cfg.identityFile.map .text
  | .userKnownHostsFile => cfg.userKnownHostsFile.map .text
  | .strictHostKeyChecking => cfg.strictHostKeyChecking.map .mode
  | .batchMode => cfg.batchMode.map .flag
  | .connectTimeout => cfg.connectTimeoutMs.map .number
  | .serverAliveInterval => cfg.serverAliveIntervalSec.map .number
  | .serverAliveCountMax => cfg.serverAliveCountMax.map .number
  | .rekeyInterval => cfg.rekeyIntervalSec.map .number

/-- A value as the keyword's field means it, if it is acceptable. -/
def Keyword.means (home value : List UInt8) : Keyword → Option Value
  | .hostName => some (.text value)
  | .user => some (.text value)
  | .port => (portNumber value).map .number
  | .identityFile => some (.text (if isHomePath value then home ++ value.drop 1 else value))
  | .userKnownHostsFile => some (.text (if isHomePath value then home ++ value.drop 1 else value))
  | .strictHostKeyChecking => (parseStrictHostKeyMode value).map .mode
  | .batchMode => some (.flag (asciiEqualsIgnoreCase value (ascii "yes")))
  | .connectTimeout => ((numberUpTo 600 value).map (· * 1000)).map .number
  | .serverAliveInterval => (numberUpTo 3600 value).map .number
  | .serverAliveCountMax => (numberUpTo 100 value).map .number
  | .rekeyInterval => (numberUpTo 86400 value).map .number

/-- A value as it is kept. -/
def Keyword.keeps (home : Option (List UInt8)) (value : List UInt8) : Keyword → Option Value
  | .hostName => some (.text (value.take 255))
  | .user => some (.text (value.take 64))
  | .identityFile => some (.text (expandHomePath home value 1024))
  | .userKnownHostsFile => some (.text (expandHomePath home value 1024))
  | k => k.means [] value

/-- The room of a field that holds text. -/
def Keyword.room : Keyword → Nat
  | .hostName => 255
  | .user => 64
  | _ => 1023

/-- The pattern list of a `Host` line. -/
def hostPatterns (line : List UInt8) : Option (List UInt8) :=
  (directive line).bind fun d => if asciiEqualsIgnoreCase d.1 hostKeyword then some d.2 else none

/-- The last `Host` line is for the host. -/
def Under (hostAlias : List UInt8) (before : List (List UInt8)) : Prop :=
  ∃ earlier host within patterns, before = earlier ++ host :: within ∧ hostPatterns host = some patterns ∧
    ListMeans patterns hostAlias ∧ ∀ line ∈ within, hostPatterns line = none

/-- How values are read. -/
abbrev Reading : Type := List UInt8 → Keyword → Option Value

/-- A line below the others gives the keyword a value. -/
def Gives (reading : Reading) (hostAlias : List UInt8) (k : Keyword) (before : List (List UInt8)) (line : List UInt8)
    (v : Value) : Prop :=
  ∃ key value, directive line = some (key, value) ∧ asciiEqualsIgnoreCase key k.name = true ∧
    Under hostAlias before ∧ reading value k = some v

/-- No line gives the keyword a value. -/
def Unset (reading : Reading) (hostAlias : List UInt8) (k : Keyword) (lines : List (List UInt8)) : Prop :=
  ∀ before line after v, lines = before ++ line :: after → ¬ Gives reading hostAlias k before line v

/-- The first value that the keyword is given. -/
def First (reading : Reading) (hostAlias : List UInt8) (k : Keyword) (lines : List (List UInt8)) (v : Value) : Prop :=
  ∃ before line after, lines = before ++ line :: after ∧ Gives reading hostAlias k before line v ∧
    Unset reading hostAlias k before

section Keywords

variable {key value : List UInt8} {home : Option (List UInt8)}

theorem Keyword.mem_all (k : Keyword) : k ∈ Keyword.all := by cases k <;> decide

theorem Keyword.name_injective {k k' : Keyword} (same : asciiEqualsIgnoreCase k.name k'.name = true) : k = k' := by
  have each : ∀ a ∈ Keyword.all, ∀ b ∈ Keyword.all, asciiEqualsIgnoreCase a.name b.name = true → a = b := by
    decide +kernel
  exact each k k.mem_all k' k'.mem_all same

/-- The chain finds the keyword that the key is. -/
theorem keywordOf_iff {k : Keyword} : keywordOf key = some k ↔ asciiEqualsIgnoreCase key k.name = true := by
  have is_of : ∀ {k : Keyword}, keywordOf key = some k → asciiEqualsIgnoreCase key k.name = true := by
    intro k found
    rw [keywordOf] at found
    exact @List.find?_some _ (fun k : Keyword => asciiEqualsIgnoreCase key k.name) _ _ found
  constructor
  · exact is_of
  · intro is
    cases found : keywordOf key with
    | none =>
        rw [keywordOf, List.find?_eq_none] at found
        exact absurd is (found k k.mem_all)
    | some k' =>
        have is' := is_of found
        have same : asciiEqualsIgnoreCase k'.name k.name = true := by
          rw [asciiEqualsIgnoreCase, decide_eq_true_eq] at is is' ⊢
          exact is'.symm.trans is
        rw [Keyword.name_injective same]

theorem not_host {k : Keyword} (is : asciiEqualsIgnoreCase key k.name = true) :
    asciiEqualsIgnoreCase key hostKeyword = false := by
  have each : ∀ a ∈ Keyword.all, asciiEqualsIgnoreCase a.name hostKeyword = false := by decide +kernel
  rw [asciiEqualsIgnoreCase, decide_eq_true_eq] at is
  have apart := each k k.mem_all
  rw [asciiEqualsIgnoreCase, ← is] at apart
  exact apart

/-- Each branch fills its own field, if it is not set. -/
theorem SshConfig.get_give (cfg : SshConfig) (k k' : Keyword) :
    (cfg.give home value k).get k' = if k' = k then cfg.get k <|> k.keeps home value else cfg.get k' := by
  have orElse : ∀ {α : Type} (f : α → Value) (a b : Option α), (a <|> b).map f = (a.map f <|> b.map f) := by
    intro α f a b
    cases a <;> rfl
  cases k <;> cases k' <;> first | rfl | exact orElse _ _ _

end Keywords

section Lines

variable {hostAlias : List UInt8} {k : Keyword} {reading : Reading} {lines : List (List UInt8)} {line : List UInt8}
variable {v : Value}

/-- The last line is the one looked at, or it is one of those behind. -/
theorem concat_split {α : Type} {lines before after : List α} {line x : α} :
    lines ++ [line] = before ++ x :: after ↔
      (before = lines ∧ x = line ∧ after = []) ∨ ∃ later, after = later ++ [line] ∧ lines = before ++ x :: later := by
  rcases List.eq_nil_or_concat' after with rfl | ⟨later, last, rfl⟩
  · rw [List.append_singleton_inj]
    constructor
    · rintro ⟨rfl, rfl⟩
      exact .inl ⟨rfl, rfl, rfl⟩
    · rintro (⟨rfl, rfl, -⟩ | ⟨later, none, -⟩)
      · exact ⟨rfl, rfl⟩
      · simp at none
  · rw [← List.cons_append, ← List.append_assoc, List.append_singleton_inj]
    constructor
    · rintro ⟨rfl, rfl⟩
      exact .inr ⟨later, rfl, rfl⟩
    · rintro (⟨-, -, none⟩ | ⟨later', is, rfl⟩)
      · simp at none
      · obtain ⟨rfl, rfl⟩ := List.append_singleton_inj.1 is
        exact ⟨rfl, rfl⟩

theorem under_host {patterns : List UInt8} (is : hostPatterns line = some patterns) :
    Under hostAlias (lines ++ [line]) ↔ ListMeans patterns hostAlias := by
  constructor
  · rintro ⟨earlier, host, within, patterns', splits, isHost, means, none⟩
    rcases concat_split.1 splits with ⟨-, rfl, -⟩ | ⟨later, rfl, -⟩
    · rw [is] at isHost
      cases isHost
      exact means
    · have noHost := none line (by simp)
      rw [is] at noHost
      cases noHost
  · intro means
    exact ⟨lines, line, [], patterns, rfl, is, means, by simp⟩

theorem under_other (is : hostPatterns line = none) : Under hostAlias (lines ++ [line]) ↔ Under hostAlias lines := by
  constructor
  · rintro ⟨earlier, host, within, patterns, splits, isHost, means, none⟩
    rcases concat_split.1 splits with ⟨-, rfl, -⟩ | ⟨later, rfl, rfl⟩
    · rw [is] at isHost
      cases isHost
    · exact ⟨earlier, host, later, patterns, rfl, isHost, means, fun line mem => none line (by simp [mem])⟩
  · rintro ⟨earlier, host, within, patterns, rfl, isHost, means, none⟩
    refine ⟨earlier, host, within ++ [line], patterns, by simp, isHost, means, fun other mem => ?_⟩
    rcases List.mem_append.1 mem with mem | mem
    · exact none other mem
    · rw [List.mem_singleton.1 mem]
      exact is

theorem not_under_nil : ¬ Under hostAlias [] := by
  rintro ⟨earlier, host, within, patterns, splits, -⟩
  simp at splits

theorem unset_nil : Unset reading hostAlias k [] := by
  intro before line after v splits
  simp at splits

theorem unset_concat :
    Unset reading hostAlias k (lines ++ [line]) ↔
      Unset reading hostAlias k lines ∧ ∀ v, ¬ Gives reading hostAlias k lines line v := by
  constructor
  · intro unset
    refine ⟨fun before line' after v splits => ?_, fun v => unset lines line [] v rfl⟩
    exact unset before line' (after ++ [line]) v (by simp [splits])
  · rintro ⟨unset, last⟩ before line' after v splits
    rcases concat_split.1 splits with ⟨rfl, rfl, -⟩ | ⟨later, -, is⟩
    · exact last v
    · exact unset before line' later v is

theorem first_concat :
    First reading hostAlias k (lines ++ [line]) v ↔
      First reading hostAlias k lines v ∨ (Unset reading hostAlias k lines ∧ Gives reading hostAlias k lines line v) := by
  constructor
  · rintro ⟨before, line', after, splits, gives, unset⟩
    rcases concat_split.1 splits with ⟨rfl, rfl, -⟩ | ⟨later, -, is⟩
    · exact .inr ⟨unset, gives⟩
    · exact .inl ⟨before, line', later, is, gives, unset⟩
  · rintro (⟨before, line', after, is, gives, unset⟩ | ⟨unset, gives⟩)
    · exact ⟨before, line', after ++ [line], by simp [is], gives, unset⟩
    · exact ⟨lines, line, [], rfl, gives, unset⟩

/-- A value that is given is not given as well as not. -/
theorem First.not_unset (first : First reading hostAlias k lines v) : ¬ Unset reading hostAlias k lines := by
  obtain ⟨before, line, after, is, gives, -⟩ := first
  exact fun unset => unset before line after v is gives

end Lines

section Loop

variable {home : Option (List UInt8)} {hostAlias line : List UInt8} {state : Bool × SshConfig}

/-- What a line makes of the block. -/
theorem takeLine_active :
    (takeLine home hostAlias state line).1 =
      match hostPatterns line with
      | some patterns => hostListMatches patterns hostAlias
      | none => state.1 := by
  unfold takeLine hostPatterns
  cases directive line with
  | none => rfl
  | some d =>
      by_cases host : asciiEqualsIgnoreCase d.1 hostKeyword = true
      · simp [host]
      · by_cases active : state.1 = false
        · simp [host, active]
        · cases found : keywordOf d.1 <;> simp [host, active, found]

/-- What it makes of a field. -/
theorem takeLine_get (k : Keyword) :
    (takeLine home hostAlias state line).2.get k =
      (state.2.get k <|> (directive line).bind fun d =>
        if asciiEqualsIgnoreCase d.1 k.name = true ∧ state.1 = true then k.keeps home d.2 else none) := by
  have same : ∀ a : Option Value, (a <|> none) = a := fun a => by cases a <;> rfl
  unfold takeLine
  cases directive line with
  | none => exact (same _).symm
  | some d =>
      rw [Option.bind_some]
      by_cases host : asciiEqualsIgnoreCase d.1 hostKeyword = true
      · have apart : ¬ asciiEqualsIgnoreCase d.1 k.name = true := by
          intro is
          rw [not_host is] at host
          cases host
        simp [host, apart, same]
      · by_cases active : state.1 = false
        · simp [host, active, same]
        · cases found : keywordOf d.1 with
          | none =>
              have apart : ¬ asciiEqualsIgnoreCase d.1 k.name = true := by
                intro is
                rw [keywordOf_iff.2 is] at found
                cases found
              simp [host, active, found, apart, same]
          | some k' =>
              by_cases own : k = k'
              · subst own
                simp [host, active, found, keywordOf_iff.1 found, SshConfig.get_give]
              · have apart : ¬ asciiEqualsIgnoreCase d.1 k.name = true := by
                  intro is
                  rw [keywordOf_iff.2 is] at found
                  exact own (Option.some.inj found)
                simp [host, active, found, apart, own, SshConfig.get_give, same]

theorem length_rtrim_ltrim (s : List UInt8) : (rtrim (ltrim s)).length ≤ s.length :=
  (List.rdropWhile_prefix _ _).length_le.trans (List.dropWhile_suffix _).length_le

theorem length_directive {key value : List UInt8} (is : directive line = some (key, value)) :
    value.length ≤ line.length := by
  have inLine := length_rtrim_ltrim (cString line)
  have inString : (cString line).length ≤ line.length := (List.takeWhile_prefix _).length_le
  rw [directive] at is
  dsimp only at is
  split at is
  · cases is
  · split at is
    · cases is
    · rename_i c rest found
      have inRest : (c :: rest).length ≤ (rtrim (ltrim (cString line))).length := by
        rw [← found]
        exact (List.dropWhile_suffix _).length_le
      have inValue := length_rtrim_ltrim rest
      rw [List.length_cons] at inRest
      split at is
      · cases is
      · cases is
        omega

theorem length_hostPatterns {patterns : List UInt8} (is : hostPatterns line = some patterns) :
    patterns.length ≤ line.length := by
  rw [hostPatterns, Option.bind_eq_some_iff] at is
  obtain ⟨⟨key, value⟩, found, is⟩ := is
  split at is
  · cases is
    exact length_directive found
  · cases is

/-- After some lines the block is active if the last `Host` line is for the host, and every
field has the first value that they give. -/
theorem takeLines (lines : List (List UInt8)) (short : ∀ line ∈ lines, line.length ≤ 1023) :
    ((lines.foldl (takeLine home hostAlias) (false, {})).1 = true ↔ Under hostAlias lines) ∧
      ∀ k, (∀ v, (lines.foldl (takeLine home hostAlias) (false, {})).2.get k = some v ↔
          First (Keyword.keeps home) hostAlias k lines v) ∧
        ((lines.foldl (takeLine home hostAlias) (false, {})).2.get k = none ↔
          Unset (Keyword.keeps home) hostAlias k lines) := by
  induction lines using List.reverseRecOn with
  | nil =>
      refine ⟨by simp [not_under_nil], fun k => ⟨fun v => ?_, ?_⟩⟩
      · have unset : SshConfig.get {} k = none := by cases k <;> rfl
        simp only [List.foldl_nil, unset]
        constructor
        · intro is
          cases is
        · intro first
          exact absurd unset_nil first.not_unset
      · have unset : SshConfig.get {} k = none := by cases k <;> rfl
        simp only [List.foldl_nil, unset, true_iff]
        exact unset_nil
  | append_singleton lines line ih =>
      obtain ⟨active, fields⟩ := ih fun line mem => short line (by simp [mem])
      rw [List.foldl_append, List.foldl_cons, List.foldl_nil]
      generalize lines.foldl (takeLine home hostAlias) (false, {}) = state at active fields ⊢
      constructor
      · rw [takeLine_active]
        cases host : hostPatterns line with
        | none => rw [under_other host, ← active]
        | some patterns =>
            rw [under_host host]
            exact hostListMatches_iff ((length_hostPatterns host).trans (short line (by simp)))
      · intro k
        obtain ⟨given, unset⟩ := fields k
        have gives : ∀ v, Gives (Keyword.keeps home) hostAlias k lines line v ↔ ((directive line).bind fun d =>
            if asciiEqualsIgnoreCase d.1 k.name = true ∧ state.1 = true then k.keeps home d.2 else none) = some v := by
          intro v
          rw [Gives, ← active]
          cases found : directive line with
          | none => simp
          | some d =>
              obtain ⟨key, value⟩ := d
              simp [and_assoc]
        simp only [takeLine_get, first_concat, unset_concat, gives, ← given, ← unset]
        generalize ((directive line).bind fun d =>
          if asciiEqualsIgnoreCase d.1 k.name = true ∧ state.1 = true then k.keeps home d.2 else none) = here
        cases state.2.get k <;> cases here <;> simp

end Loop

/-! ## The first acceptable value -/

section Buffers

variable {home : Option (List UInt8)} {h hostAlias text : List UInt8}

theorem rtrim_append {s blanks : List UInt8} (all : ∀ c ∈ blanks, isSpace c = true) : rtrim (s ++ blanks) = rtrim s := by
  rw [rtrim, rtrim, List.rdropWhile, List.rdropWhile, List.reverse_append, List.dropWhile_append_of_pos]
  simpa using all

theorem ltrim_append {s blanks : List UInt8} (all : ∀ c ∈ blanks, isSpace c = true) :
    rtrim (ltrim (s ++ blanks)) = rtrim (ltrim s) := by
  rw [ltrim, ltrim, List.dropWhile_append]
  split
  · rename_i none
    rw [List.isEmpty_iff] at none
    have blank : blanks.dropWhile isSpace = [] := List.dropWhile_eq_nil_iff.2 all
    rw [none, blank]
  · exact rtrim_append all

/-- The end of a line does not change what it says. -/
theorem directive_ends {line : List UInt8} : directive (line ++ [10]) = directive line := by
  have trimmed : rtrim (ltrim (cString (line ++ [10]))) = rtrim (ltrim (cString line)) := by
    rw [cString, cString, List.takeWhile_append]
    split
    · rename_i all
      have whole : line.takeWhile (· ≠ 0) = line := (List.takeWhile_prefix _).eq_of_length all
      have blank : ∀ c ∈ ([10] : List UInt8).takeWhile (· ≠ 0), isSpace c = true := by decide +kernel
      rw [whole]
      exact ltrim_append blank
    · rfl
  rw [directive, directive, trimmed]

theorem takeLine_ends (state : Bool × SshConfig) (line : List UInt8) :
    takeLine home hostAlias state (line ++ [10]) = takeLine home hostAlias state line := by
  rw [takeLine, takeLine, directive_ends]

theorem takeLine_nil (state : Bool × SshConfig) : takeLine home hostAlias state [] = state := rfl

/-- The loop takes the cut lines one after the other. -/
theorem load_eq (homed : getHomeDir home = some h) :
    loadSshConfigForHost home (some text) hostAlias =
      (true, ((cutLines 10 1023 text).foldl (takeLine home hostAlias) (false, {})).2) := by
  have same := @foldl_buffers _ _ 1023 (takeLine home hostAlias) _ 10 (by decide)
    (fun state line _ => takeLine_ends state line) takeLine_nil text.length text (Nat.le_refl _) (false, {})
  simp only [loadSshConfigForHost, homed, same]

theorem length_cutLines {line : List UInt8} (mem : line ∈ cutLines 10 1023 text) : line.length ≤ 1023 := by
  obtain ⟨whole, -, mem⟩ := List.mem_flatMap.1 mem
  exact length_of_mem_cut (by decide) mem

end Buffers

/-- Every field has the first acceptable value that the lines of the text give. -/
def Meets (home : Option (List UInt8)) (h hostAlias text : List UInt8) : Prop :=
  ∀ k v, (loadSshConfigForHost home (some text) hostAlias).2.get k = some v ↔
    First (Keyword.means h) hostAlias k (text.splitOn 10) v

/-- The values of a line fit in the fields. -/
def HasRoom (h line : List UInt8) : Prop :=
  ∀ key value (k : Keyword) bytes, directive line = some (key, value) → asciiEqualsIgnoreCase key k.name = true →
    k.means h value = some (.text bytes) → bytes.length ≤ k.room

section Short

variable {home : Option (List UInt8)} {h hostAlias value : List UInt8} {lines : List (List UInt8)}
variable {reading reading' : Reading}

/-- A value with room is kept as it is meant. -/
theorem keeps_eq (homed : getHomeDir home = some h) (k : Keyword)
    (room : ∀ bytes, k.means h value = some (.text bytes) → bytes.length ≤ k.room) :
    k.keeps home value = k.means h value := by
  have path : ∀ bytes, (if isHomePath value then h ++ value.drop 1 else value) = bytes → bytes.length ≤ 1023 →
      expandHomePath home value 1024 = bytes := by
    intro bytes is fits
    rw [expandHomePath]
    by_cases tilde : isHomePath value = true
    · rw [if_pos tilde] at is ⊢
      rw [homed]
      dsimp only
      rw [is, if_pos (by omega)]
    · rw [if_neg tilde] at is ⊢
      rw [is, List.take_of_length_le (by omega)]
  cases k with
  | hostName => exact congrArg (some ∘ Value.text) (List.take_of_length_le (room value rfl))
  | user => exact congrArg (some ∘ Value.text) (List.take_of_length_le (room value rfl))
  | identityFile => exact congrArg (some ∘ Value.text) (path _ rfl (room _ rfl))
  | userKnownHostsFile => exact congrArg (some ∘ Value.text) (path _ rfl (room _ rfl))
  | _ => rfl

/-- What counts is how the values of the lines are read. -/
theorem first_congr (same : ∀ line ∈ lines, ∀ key value (k : Keyword), directive line = some (key, value) →
    asciiEqualsIgnoreCase key k.name = true → reading value k = reading' value k) (k : Keyword) (v : Value) :
    First reading hostAlias k lines v ↔ First reading' hostAlias k lines v := by
  have gives : ∀ before line v, line ∈ lines → (Gives reading hostAlias k before line v ↔
      Gives reading' hostAlias k before line v) := by
    intro before line v mem
    constructor
    · rintro ⟨key, value, is, named, under, reads⟩
      exact ⟨key, value, is, named, under, (same line mem key value k is named).symm.trans reads⟩
    · rintro ⟨key, value, is, named, under, reads⟩
      exact ⟨key, value, is, named, under, (same line mem key value k is named).trans reads⟩
  constructor
  · rintro ⟨before, line, after, rfl, here, unset⟩
    refine ⟨before, line, after, rfl, (gives _ _ _ (by simp)).1 here, ?_⟩
    rintro earlier line' later w rfl
    exact fun given => unset earlier line' later w rfl ((gives _ _ _ (by simp)).2 given)
  · rintro ⟨before, line, after, rfl, here, unset⟩
    refine ⟨before, line, after, rfl, (gives _ _ _ (by simp)).2 here, ?_⟩
    rintro earlier line' later w rfl
    exact fun given => unset earlier line' later w rfl ((gives _ _ _ (by simp)).1 given)

end Short

/-- **First match wins, up to the length of a line.**  For every text, host and home directory
the fields have the first acceptable values that the text gives exactly if cutting its
lines after 1023 bytes and the values to the room of their fields changes none of them.
So they do if no line is longer and every value fits. -/
theorem config_first_iff (home : Option (List UInt8)) (h hostAlias text : List UInt8)
    (homed : getHomeDir home = some h) :
    (Meets home h hostAlias text ↔ ∀ k v,
      First (Keyword.keeps home) hostAlias k (cutLines 10 1023 text) v ↔
        First (Keyword.means h) hostAlias k (text.splitOn 10) v) ∧
    ((∀ line ∈ text.splitOn 10, line.length ≤ 1023 ∧ HasRoom h line) → Meets home h hostAlias text) := by
  have kept : ∀ k v, (loadSshConfigForHost home (some text) hostAlias).2.get k = some v ↔
      First (Keyword.keeps home) hostAlias k (cutLines 10 1023 text) v := by
    intro k v
    rw [load_eq homed]
    exact ((takeLines (cutLines 10 1023 text) fun line => length_cutLines).2 k).1 v
  constructor
  · simp only [Meets, kept]
  · intro fits k v
    have whole := (@takeLines home hostAlias (text.splitOn 10) fun line mem => (fits line mem).1).2 k
    rw [load_eq homed, foldl_cutLines (by decide) (fun line mem => (fits line mem).1) takeLine_nil, whole.1]
    apply first_congr
    intro line mem key value k is named
    exact keeps_eq homed k fun bytes => (fits line mem).2 key value k bytes is named

/-- A comment that is longer than the buffer. -/
def longComment : List UInt8 := ascii "#" ++ List.replicate 1022 120 ++ ascii "Host *"

theorem config_first_iff_plain : Meets (some (ascii "/root")) (ascii "/root") (ascii "a") (ascii "Host a") := by
  refine (config_first_iff (some (ascii "/root")) (ascii "/root") (ascii "a") (ascii "Host a") rfl).2 ?_
  intro line mem
  have one : (ascii "Host a").splitOn 10 = [ascii "Host a"] := by decide
  rw [one, List.mem_singleton] at mem
  subst mem
  refine ⟨by decide, fun key value k bytes is named _ => ?_⟩
  have host : directive (ascii "Host a") = some (hostKeyword, ascii "a") := by decide
  rw [host] at is
  cases is
  exact absurd (not_host named) (by decide)

/-- The end of the comment turns the next line on. -/
theorem config_first_comment :
    ¬ Meets (some (ascii "/root")) (ascii "/root") (ascii "a") (longComment ++ [10] ++ ascii "Port 22") := by
  intro meets
  have loaded : (loadSshConfigForHost (some (ascii "/root")) (some (longComment ++ [10] ++ ascii "Port 22"))
      (ascii "a")).2.get .port = some (.number 22) := by
    decide +kernel
  obtain ⟨before, line, after, splits, ⟨key, value, -, -, ⟨earlier, host, within, patterns, rfl, is, -⟩, -⟩, -⟩ :=
    (meets .port (.number 22)).1 loaded
  have noHost : ∀ line ∈ (longComment ++ [10] ++ ascii "Port 22").splitOn 10, hostPatterns line = none := by
    decide +kernel
  rw [noHost host (by rw [splits]; simp)] at is
  cases is

/-! ## Separators -/

/-- `Host` or one of the keywords. -/
def IsKey (key : List UInt8) : Prop :=
  asciiEqualsIgnoreCase key hostKeyword = true ∨ ∃ k : Keyword, asciiEqualsIgnoreCase key k.name = true

/-- Blanks and at most one `=`. -/
structure IsSeparators (sep : List UInt8) : Prop where
  some_ : sep ≠ []
  only : ∀ c ∈ sep, isSeparator c = true
  once : sep.count 61 ≤ 1

/-- A value without blanks at its ends that does not begin with `=`. -/
structure IsValue (value : List UInt8) : Prop where
  some_ : value ≠ []
  first : ∀ c ∈ value.head?, isSpace c = false ∧ c ≠ 61
  last : ∀ c ∈ value.getLast?, isSpace c = false
  plain : ∀ c ∈ value, c ≠ 0 ∧ c ≠ 10

/-- Blanks within a line. -/
def IsBlanks (blanks : List UInt8) : Prop := ∀ c ∈ blanks, isSpace c = true ∧ c ≠ 10

/-- The replacement leaves the result as it is, wherever the line stands. -/
def Interchangeable (line line' : List UInt8) : Prop :=
  ∀ home hostAlias before after, (∀ c ∈ before.getLast?, c = 10) → (∀ c ∈ after.head?, c = 10) →
    loadSshConfigForHost home (some (before ++ line ++ after)) hostAlias =
      loadSshConfigForHost home (some (before ++ line' ++ after)) hostAlias

/-- What is left of a separator behind its first character and the blanks after it. -/
def leftover (sep : List UInt8) : List UInt8 := sep.tail.dropWhile isBlank

/-- The pieces of both lines give the same first values and leave the block the same, in a
block that applies and in one that does not. -/
def SameEffect (line line' : List UInt8) : Prop :=
  ∀ home h hostAlias, getHomeDir home = some h → ∀ start ∈ [[], [ascii "Host *"]],
    (∀ k v, First (Keyword.keeps home) hostAlias k (start ++ cut 1023 line) v ↔
      First (Keyword.keeps home) hostAlias k (start ++ cut 1023 line') v) ∧
    ((Under hostAlias (start ++ cut 1023 line) ↔ Under hostAlias (start ++ cut 1023 line')) ∨
      ∀ k, ¬ Unset (Keyword.keeps home) hostAlias k (start ++ cut 1023 line))

/-- The keyword reads the same from two values. -/
def ReadsSame (key value value' : List UInt8) : Prop :=
  (asciiEqualsIgnoreCase key hostKeyword = true →
    ∀ hostAlias, hostListMatches value hostAlias = hostListMatches value' hostAlias) ∧
  ∀ k : Keyword, asciiEqualsIgnoreCase key k.name = true →
    ∀ home h, getHomeDir home = some h → k.keeps home value = k.keeps home value'

section Parsing

variable {indent key sep value trail : List UInt8}

/-- A key has letters only. -/
theorem IsKey.letters (is : IsKey key) :
    key ≠ [] ∧ ∀ c ∈ key, isSpace c = false ∧ isSeparator c = false ∧ c ≠ 0 ∧ c ≠ 35 := by
  have each : ∀ name ∈ hostKeyword :: Keyword.all.map Keyword.name,
      name ≠ [] ∧ ∀ l ∈ name.map toLower, 97 ≤ l ∧ l ≤ 122 := by
    decide +kernel
  have lower : ∀ n < 256, 97 ≤ toLower (UInt8.ofNat n) ∧ toLower (UInt8.ofNat n) ≤ 122 →
      isSpace (UInt8.ofNat n) = false ∧ isSeparator (UInt8.ofNat n) = false ∧ UInt8.ofNat n ≠ 0 ∧ UInt8.ofNat n ≠ 35 := by
    decide +kernel
  have named : ∃ name ∈ hostKeyword :: Keyword.all.map Keyword.name, key.map toLower = name.map toLower := by
    rcases is with host | ⟨k, named⟩
    · exact ⟨hostKeyword, by simp, by simpa [asciiEqualsIgnoreCase] using host⟩
    · refine ⟨k.name, List.mem_cons_of_mem _ (List.mem_map_of_mem k.mem_all), ?_⟩
      simpa [asciiEqualsIgnoreCase] using named
  obtain ⟨name, mem, same⟩ := named
  obtain ⟨some_, letters⟩ := each name mem
  refine ⟨?_, fun c memKey => ?_⟩
  · rintro rfl
    exact some_ (by simpa using same.symm)
  · have small := letters (toLower c) (same ▸ List.mem_map_of_mem memKey)
    have is := lower c.toNat c.toNat_lt
    rw [UInt8.ofNat_toNat] at is
    exact is small

theorem ltrim_of_head {s : List UInt8} (head : ∀ c ∈ s.head?, isSpace c = false) : ltrim s = s := by
  cases s with
  | nil => rfl
  | cons c s => simp [ltrim, head c rfl]

theorem rtrim_of_last {s : List UInt8} (last : ∀ c ∈ s.getLast?, isSpace c = false) : rtrim s = s := by
  rcases List.eq_nil_or_concat' s with rfl | ⟨s, c, rfl⟩
  · rfl
  · simp [rtrim, last c (by simp)]

theorem ltrim_blanks {blanks s : List UInt8} (all : ∀ c ∈ blanks, isSpace c = true) : ltrim (blanks ++ s) = ltrim s :=
  List.dropWhile_append_of_pos all

/-- Only blanks of the separators are trimmed. -/
theorem ltrim_separators (value : List UInt8) (first : ∀ c ∈ value.head?, isSpace c = false) :
    ∀ sep : List UInt8, (∀ c ∈ sep, isSeparator c = true) → ltrim (sep ++ value) = sep.dropWhile isBlank ++ value
  | [], _ => ltrim_of_head first
  | c :: sep, only => by
      have ih := ltrim_separators value first sep fun c mem => only c (List.mem_cons_of_mem _ mem)
      have is : c = 32 ∨ c = 9 ∨ c = 61 := by simpa [isSeparator, or_assoc] using only c List.mem_cons_self
      rw [ltrim] at ih
      rcases is with rfl | rfl | rfl <;> simp [ltrim, isSpace, isBlank, ih]

/-- The line is read as its key, and what the separators leave in front of the value. -/
theorem directive_line (isIndent : IsBlanks indent) (isKey : IsKey key) (isSep : IsSeparators sep) (isValue : IsValue value)
    (isTrail : IsBlanks trail) : directive (indent ++ key ++ sep ++ value ++ trail) = some (key, leftover sep ++ value) := by
  obtain ⟨someKey, letters⟩ := isKey.letters
  obtain ⟨c, sep, rfl⟩ := List.exists_cons_of_ne_nil isSep.some_
  obtain ⟨a, rest, rfl⟩ := List.exists_cons_of_ne_nil someKey
  have plain : cString (indent ++ a :: rest ++ c :: sep ++ value ++ trail) =
      indent ++ a :: rest ++ c :: sep ++ value ++ trail := by
    apply takeWhile_all
    simp only [List.mem_append, not_or]
    refine ⟨⟨⟨⟨fun mem => ?_, fun mem => ?_⟩, fun mem => ?_⟩, fun mem => ?_⟩, fun mem => ?_⟩
    · exact absurd (isIndent 0 mem).1 (by decide)
    · exact (letters 0 mem).2.2.1 rfl
    · exact absurd (isSep.only 0 mem) (by decide)
    · exact (isValue.plain 0 mem).1 rfl
    · exact absurd (isTrail 0 mem).1 (by decide)
  have lastIs : ∀ b ∈ (a :: rest ++ c :: sep ++ value).getLast?, isSpace b = false := by
    intro b mem
    rw [List.getLast?_append_of_ne_nil _ isValue.some_] at mem
    exact isValue.last b mem
  have trimmed : rtrim (ltrim (cString (indent ++ a :: rest ++ c :: sep ++ value ++ trail))) =
      a :: rest ++ c :: sep ++ value := by
    rw [plain, ltrim_append fun c mem => (isTrail c mem).1, List.append_assoc, List.append_assoc,
      ltrim_blanks fun c mem => (isIndent c mem).1, ← List.append_assoc]
    rw [ltrim_of_head (by simpa using (letters a (by simp)).1), rtrim_of_last lastIs]
  have isName : ∀ b ∈ a :: rest, (!isSeparator b) = true := fun b mem => by simp [(letters b mem).2.1]
  have ends : (!isSeparator c) = false := by simp [isSep.only c (by simp)]
  have behind : rtrim (ltrim (sep ++ value)) = sep.dropWhile isBlank ++ value := by
    rw [ltrim_separators value (fun b mem => (isValue.first b mem).1) sep fun b mem => isSep.only b (by simp [mem])]
    apply rtrim_of_last
    intro b mem
    rw [List.getLast?_append_of_ne_nil _ isValue.some_] at mem
    exact isValue.last b mem
  have left : (a :: rest ++ c :: sep ++ value).dropWhile (fun b => !isSeparator b) = c :: (sep ++ value) := by
    rw [List.append_assoc, List.dropWhile_append_of_pos isName]
    simp [ends]
  have right : (a :: rest ++ c :: sep ++ value).takeWhile (fun b => !isSeparator b) = a :: rest := by
    rw [List.append_assoc, List.takeWhile_append_of_pos isName]
    simp [ends]
  have notComment : ¬ (a :: rest ++ c :: sep ++ value).head? = some 35 := by
    simpa using (letters a (by simp)).2.2.2
  rw [directive]
  simp only [trimmed, left, right, behind]
  rw [if_neg notComment, if_neg (by simp [isValue.some_])]
  rfl

end Parsing

/-- What the pieces of a line do below the others. -/
def effect (home : Option (List UInt8)) (hostAlias : List UInt8) (start : List (List UInt8)) (line : List UInt8) :
    Bool × SshConfig :=
  (start ++ cut 1023 line).foldl (takeLine home hostAlias) (false, {})

section Effects

variable {home : Option (List UInt8)} {h hostAlias line line' : List UInt8} {start : List (List UInt8)}

theorem SshConfig.ext_get {c d : SshConfig} (same : ∀ k, c.get k = d.get k) : c = d := by
  have text : Function.Injective (Option.map Value.text) := Option.map_injective fun _ _ => Value.text.inj
  have number : Function.Injective (Option.map Value.number) := Option.map_injective fun _ _ => Value.number.inj
  have mode : Function.Injective (Option.map Value.mode) := Option.map_injective fun _ _ => Value.mode.inj
  have flag : Function.Injective (Option.map Value.flag) := Option.map_injective fun _ _ => Value.flag.inj
  cases c
  cases d
  simp only [SshConfig.mk.injEq]
  exact ⟨text (same .hostName), text (same .user), text (same .identityFile), text (same .userKnownHostsFile),
    number (same .port), mode (same .strictHostKeyChecking), flag (same .batchMode), number (same .connectTimeout),
    number (same .serverAliveInterval), number (same .serverAliveCountMax), number (same .rekeyInterval)⟩

theorem orElse_none (o : Option Value) : (o <|> none) = o := by cases o <;> rfl

/-- What lines do depends on the block they begin in; what was set before stays. -/
theorem takeLines_from (state : Bool × SshConfig) (lines : List (List UInt8)) :
    (lines.foldl (takeLine home hostAlias) state).1 = (lines.foldl (takeLine home hostAlias) (state.1, {})).1 ∧
      ∀ k, (lines.foldl (takeLine home hostAlias) state).2.get k =
        (state.2.get k <|> (lines.foldl (takeLine home hostAlias) (state.1, {})).2.get k) := by
  induction lines using List.reverseRecOn with
  | nil =>
      refine ⟨rfl, fun k => ?_⟩
      have unset : SshConfig.get {} k = none := by cases k <;> rfl
      rw [List.foldl_nil, List.foldl_nil, unset, orElse_none]
  | append_singleton lines line ih =>
      obtain ⟨active, fields⟩ := ih
      simp only [List.foldl_append, List.foldl_cons, List.foldl_nil]
      constructor
      · rw [takeLine_active, takeLine_active, active]
      · intro k
        rw [takeLine_get, takeLine_get, fields, active]
        cases state.2.get k <;> rfl

theorem keepsAll {state : Bool × SshConfig} (full : ∀ k, state.2.get k ≠ none) (lines : List (List UInt8)) :
    (lines.foldl (takeLine home hostAlias) state).2 = state.2 := by
  apply SshConfig.ext_get
  intro k
  rw [(takeLines_from state lines).2 k]
  cases found : state.2.get k with
  | none => exact absurd found (full k)
  | some v => rfl

/-- Every host is under `Host *`. -/
theorem take_any : [ascii "Host *"].foldl (takeLine home hostAlias) (false, {}) = (true, {}) := by
  have any : hostPatternMatch [42] hostAlias = true := by
    show anyRest (hostPatternMatch []) hostAlias = true
    exact anyRest_iff.2 ⟨[], List.nil_suffix, rfl⟩
  have is : hostListMatches (ascii "*") hostAlias = true := by
    show listLoop hostAlias [[42]] false false = true
    have positive : negated [42] = (false, [42]) := rfl
    simp [listLoop, positive, any]
  have host : directive (ascii "Host *") = some (hostKeyword, ascii "*") := by decide
  rw [List.foldl_cons, List.foldl_nil, takeLine, host]
  simp only [is]
  rfl

/-- A block that applies is one below `Host *`. -/
theorem exists_start (active : Bool) :
    ∃ start ∈ [[], [ascii "Host *"]], start.foldl (takeLine home hostAlias) (false, {}) = (active, {}) := by
  cases active with
  | false => exact ⟨[], by simp, rfl⟩
  | true => exact ⟨_, by simp, take_any⟩

theorem effect_lines (mem : start ∈ [[], [ascii "Host *"]]) :
    ∀ piece ∈ start ++ cut 1023 line, piece.length ≤ 1023 := by
  intro piece inPieces
  rcases List.mem_append.1 inPieces with inStart | inCut
  · have each : ∀ start ∈ [[], [ascii "Host *"]], ∀ piece ∈ start, piece.length ≤ 1023 := by decide
    exact each start mem piece inStart
  · exact length_of_mem_cut (by decide) inCut

/-- The same effect is the same state, up to a block that nothing can be set in any more. -/
theorem sameEffect_iff :
    SameEffect line line' ↔ ∀ home h hostAlias, getHomeDir home = some h → ∀ start ∈ [[], [ascii "Host *"]],
      (effect home hostAlias start line).2 = (effect home hostAlias start line').2 ∧
        ((effect home hostAlias start line).1 = (effect home hostAlias start line').1 ∨
          ∀ k, (effect home hostAlias start line).2.get k ≠ none) := by
  constructor
  all_goals
    intro same home h hostAlias homed start mem
    obtain ⟨fields, active⟩ := same home h hostAlias homed start mem
    obtain ⟨under, given⟩ := @takeLines home hostAlias _ (@effect_lines line start mem)
    obtain ⟨under', given'⟩ := @takeLines home hostAlias _ (@effect_lines line' start mem)
  · refine ⟨SshConfig.ext_get fun k => Option.ext fun v => ?_, active.imp (fun same => ?_) fun full k none => ?_⟩
    · exact ((given k).1 v).trans ((fields k v).trans ((given' k).1 v).symm)
    · exact Bool.eq_iff_iff.2 (under.trans (same.trans under'.symm))
    · exact full k ((given k).2.1 none)
  · refine ⟨fun k v => ?_, active.imp (fun same => ?_) fun full k unset => ?_⟩
    · rw [← (given k).1 v, ← (given' k).1 v]
      exact iff_of_eq (congrArg (fun c : SshConfig => c.get k = some v) fields)
    · rw [← under, ← under']
      exact Bool.eq_iff_iff.1 same
    · exact full k ((given k).2.2 unset)

end Effects

/-- A value that the keyword takes. -/
def Keyword.sample : Keyword → List UInt8
  | .strictHostKeyChecking => ascii "yes"
  | _ => ascii "1"

/-- A line that gives it. -/
def Keyword.sampleLine (k : Keyword) : List UInt8 := k.name ++ ascii " " ++ k.sample

section Contexts

variable {home : Option (List UInt8)} {h hostAlias line line' key value value' : List UInt8}

theorem load_none (none : getHomeDir home = none) (file : Option (List UInt8)) :
    loadSshConfigForHost home file hostAlias = (false, {}) := by
  simp [loadSshConfigForHost, none]

/-- Below the start, and above nothing or one more line. -/
theorem load_effect (homed : getHomeDir home = some h) {start : List (List UInt8)} (mem : start ∈ [[], [ascii "Host *"]]) :
    ∃ before, (∀ c ∈ before.getLast?, c = 10) ∧ ∀ line, 10 ∉ line →
      (loadSshConfigForHost home (some (before ++ line ++ [])) hostAlias = (true, (effect home hostAlias start line).2)) ∧
      ∀ k : Keyword, loadSshConfigForHost home (some (before ++ line ++ 10 :: k.sampleLine)) hostAlias =
        (true, (takeLine home hostAlias (effect home hostAlias start line) k.sampleLine).2) := by
  have last : ∀ k : Keyword, cutLines 10 1023 k.sampleLine = [k.sampleLine] := by
    intro k
    cases k <;> decide +kernel
  have any : cutLines 10 1023 (ascii "Host *") = [ascii "Host *"] := by decide +kernel
  simp only [List.mem_cons, List.not_mem_nil, or_false] at mem
  rcases mem with rfl | rfl
  · refine ⟨[], by simp, fun line fresh => ⟨?_, fun k => ?_⟩⟩
    · rw [load_eq homed, List.append_nil, List.nil_append, cutLines_line fresh]
      rfl
    · rw [load_eq homed, List.nil_append, cutLines_append_cons, cutLines_line fresh, last, List.foldl_append]
      rfl
  · refine ⟨ascii "Host *" ++ [10], by simp, fun line fresh => ⟨?_, fun k => ?_⟩⟩
    · rw [load_eq homed, List.append_nil, List.append_assoc, List.singleton_append, cutLines_append_cons, any,
        cutLines_line fresh]
      rfl
    · rw [load_eq homed, List.append_assoc, List.append_assoc, List.singleton_append, cutLines_append_cons, any,
        cutLines_append_cons, cutLines_line fresh, last, ← List.append_assoc, List.foldl_append]
      rfl

theorem take_sample (k : Keyword) (state : Bool × SshConfig)
    (unset : state.2.get k = none) :
    (takeLine home hostAlias state k.sampleLine).2.get k = none ↔ state.1 = false := by
  have is : directive k.sampleLine = some (k.name, k.sample) := by cases k <;> decide +kernel
  have own : asciiEqualsIgnoreCase k.name k.name = true := by simp [asciiEqualsIgnoreCase]
  have others : ∀ k : Keyword, k.means [] k.sample ≠ none := by intro k; cases k <;> decide +kernel
  have other := others k
  have taken : k.keeps home k.sample ≠ none := by
    cases k with
    | hostName => exact Option.some_ne_none _
    | user => exact Option.some_ne_none _
    | identityFile => exact Option.some_ne_none _
    | userKnownHostsFile => exact Option.some_ne_none _
    | _ => exact other
  rw [takeLine_get, is, unset, Option.bind_some]
  cases active : state.1 <;> simp [own, taken]

/-- Lines may be exchanged exactly if they have the same effect. -/
theorem interchangeable_iff (fresh : 10 ∉ line) (fresh' : 10 ∉ line') :
    Interchangeable line line' ↔ SameEffect line line' := by
  rw [sameEffect_iff]
  constructor
  · intro law home h hostAlias homed start mem
    obtain ⟨before, above, loads⟩ := @load_effect home h hostAlias homed start mem
    obtain ⟨alone, follows⟩ := loads line fresh
    obtain ⟨alone', follows'⟩ := loads line' fresh'
    have fields : (effect home hostAlias start line).2 = (effect home hostAlias start line').2 := by
      have equal := law home hostAlias before [] above (by simp)
      rw [alone, alone'] at equal
      exact (Prod.mk.inj equal).2
    refine ⟨fields, ?_⟩
    by_cases full : ∀ k, (effect home hostAlias start line).2.get k ≠ none
    · exact .inr full
    · -- a line for what is not set tells the blocks apart
      left
      obtain ⟨k, unset⟩ := not_forall.1 full
      rw [not_not] at unset
      have equal := law home hostAlias before (10 :: k.sampleLine) above (by simp)
      rw [follows, follows'] at equal
      have first := @take_sample home hostAlias k (effect home hostAlias start line) unset
      have second := @take_sample home hostAlias k (effect home hostAlias start line') (fields ▸ unset)
      rw [(Prod.mk.inj equal).2, second] at first
      cases left : (effect home hostAlias start line).1 <;> cases right : (effect home hostAlias start line').1 <;>
        simp_all
  · intro same home hostAlias before after above below
    cases homed : getHomeDir home with
    | none => rw [load_none homed, load_none homed]
    | some h =>
        obtain ⟨head, tail, around⟩ := @cutLines_around _ 1023 _ 10 before after above below
        rw [load_eq homed, load_eq homed, around line fresh, around line' fresh']
        simp only [List.foldl_append]
        generalize head.foldl (takeLine home hostAlias) (false, {}) = state
        obtain ⟨start, mem, starts⟩ := @exists_start home hostAlias state.1
        obtain ⟨fields, active⟩ := same home h hostAlias homed start mem
        simp only [effect, List.foldl_append, starts] at fields active
        obtain ⟨here, given⟩ := @takeLines_from home hostAlias state (cut 1023 line)
        obtain ⟨here', given'⟩ := @takeLines_from home hostAlias state (cut 1023 line')
        have equal : ((cut 1023 line).foldl (takeLine home hostAlias) state).2 =
            ((cut 1023 line').foldl (takeLine home hostAlias) state).2 := by
          apply SshConfig.ext_get
          intro k
          rw [given k, given' k, fields]
        rcases active with alike | full
        · have states : (cut 1023 line).foldl (takeLine home hostAlias) state =
              (cut 1023 line').foldl (takeLine home hostAlias) state :=
            Prod.ext (here.trans (alike.trans here'.symm)) equal
          rw [states]
        · -- nothing more can be set
          have all : ∀ k, ((cut 1023 line).foldl (takeLine home hostAlias) state).2.get k ≠ none := by
            intro k
            rw [given k]
            cases state.2.get k with
            | none => exact full k
            | some v => exact Option.some_ne_none v
          rw [keepsAll all tail, equal]
          rw [equal] at all
          rw [keepsAll all tail]

/-- A line that fits has the effect of what its keyword reads. -/
theorem interchangeable_short (isKey : IsKey key) (is : directive line = some (key, value))
    (is' : directive line' = some (key, value')) (fresh : 10 ∉ line) (fresh' : 10 ∉ line') (fits : line.length ≤ 1023)
    (fits' : line'.length ≤ 1023) : Interchangeable line line' ↔ ReadsSame key value value' := by
  have some_ : ∀ {line value}, directive line = some (key, value) → line ≠ [] := by
    rintro line value is rfl
    cases is
  have once := @cut_short _ 1023 line (by decide) fits (some_ is)
  have once' := @cut_short _ 1023 line' (by decide) fits' (some_ is')
  rw [interchangeable_iff fresh fresh', sameEffect_iff]
  constructor
  · intro same
    refine ⟨fun host hostAlias => ?_, fun k named home h homed => ?_⟩
    · obtain ⟨-, active⟩ := same (some (ascii "/")) (ascii "/") hostAlias rfl [] (by simp)
      simp only [effect, once, once', List.nil_append, List.foldl_cons, List.foldl_nil, takeLine, is, is', host,
        if_true] at active
      exact active.resolve_right fun full => full .port rfl
    · obtain ⟨fields, -⟩ := same home h [] homed [ascii "Host *"] (by simp)
      simp only [effect, once, once', List.foldl_append, take_any] at fields
      have given := congrArg (fun c => SshConfig.get c k) fields
      have unset : SshConfig.get {} k = none := by cases k <;> rfl
      simpa [takeLine_get, is, is', named, unset] using given
  · rintro ⟨hosts, keys⟩ home h hostAlias homed start mem
    have alike : ∀ state, takeLine home hostAlias state line = takeLine home hostAlias state line' := by
      intro state
      rcases isKey with host | ⟨k, named⟩
      · simp [takeLine, is, is', host, hosts host hostAlias]
      · have host := not_host named
        have found := keywordOf_iff.2 named
        have same : ∀ c : SshConfig, c.give home value k = c.give home value' k := by
          intro c
          apply SshConfig.ext_get
          intro k'
          rw [SshConfig.get_give, SshConfig.get_give, keys k named home h homed]
        simp [takeLine, is, is', host, found, same]
    have equal : effect home hostAlias start line = effect home hostAlias start line' := by
      rw [effect, effect, once, once', List.foldl_append, List.foldl_append]
      exact alike _
    exact ⟨congrArg Prod.snd equal, .inl (congrArg Prod.fst equal)⟩

end Contexts

/-- **Separators.**  A line's separators may be exchanged in every file exactly if its pieces
have the same effect with both.  For lines that fit in the buffer they have exactly if the
keyword reads the same from what the two separators leave in front of the value: so it is
if they leave nothing, which is to say if no `=` stands behind the first character. -/
theorem separators_iff (indent key sep sep' value trail : List UInt8) (isIndent : IsBlanks indent) (isKey : IsKey key)
    (isSep : IsSeparators sep) (isSep' : IsSeparators sep') (isValue : IsValue value) (isTrail : IsBlanks trail) :
    (Interchangeable (indent ++ key ++ sep ++ value ++ trail) (indent ++ key ++ sep' ++ value ++ trail) ↔
      SameEffect (indent ++ key ++ sep ++ value ++ trail) (indent ++ key ++ sep' ++ value ++ trail)) ∧
    ((indent ++ key ++ sep ++ value ++ trail).length ≤ 1023 → (indent ++ key ++ sep' ++ value ++ trail).length ≤ 1023 →
      (Interchangeable (indent ++ key ++ sep ++ value ++ trail) (indent ++ key ++ sep' ++ value ++ trail) ↔
        ReadsSame key (leftover sep ++ value) (leftover sep' ++ value))) := by
  have fresh : ∀ sep, IsSeparators sep → 10 ∉ indent ++ key ++ sep ++ value ++ trail := by
    intro sep isSep
    simp only [List.mem_append, not_or]
    refine ⟨⟨⟨⟨fun mem => ?_, fun mem => ?_⟩, fun mem => ?_⟩, fun mem => ?_⟩, fun mem => (isTrail 10 mem).2 rfl⟩
    · exact (isIndent 10 mem).2 rfl
    · exact absurd (isKey.letters.2 10 mem).1 (by decide)
    · exact absurd (isSep.only 10 mem) (by decide)
    · exact (isValue.plain 10 mem).2 rfl
  refine ⟨interchangeable_iff (fresh sep isSep) (fresh sep' isSep'), fun fits fits' => ?_⟩
  exact interchangeable_short isKey (directive_line isIndent isKey isSep isValue isTrail)
    (directive_line isIndent isKey isSep' isValue isTrail) (fresh sep isSep) (fresh sep' isSep') fits fits'

theorem isKey_port : IsKey (ascii "Port") := .inr ⟨.port, by decide⟩

theorem isValue_port : IsValue (ascii "22") where
  some_ := by decide +kernel
  first := by decide +kernel
  last := by decide +kernel
  plain := by decide +kernel

theorem isSeparators_equals : IsSeparators (ascii "=") where
  some_ := by decide +kernel
  only := by decide +kernel
  once := by decide +kernel

theorem isSeparators_blank {blank : List UInt8} (is : blank = ascii "= " ∨ blank = ascii " =") : IsSeparators blank := by
  rcases is with rfl | rfl
  · exact ⟨by decide +kernel, by decide +kernel, by decide +kernel⟩
  · exact ⟨by decide +kernel, by decide +kernel, by decide +kernel⟩

theorem separators_iff_port :
    Interchangeable ([] ++ ascii "Port" ++ ascii "=" ++ ascii "22" ++ [])
        ([] ++ ascii "Port" ++ ascii "= " ++ ascii "22" ++ []) ↔
      ReadsSame (ascii "Port") (leftover (ascii "=") ++ ascii "22") (leftover (ascii "= ") ++ ascii "22") :=
  (separators_iff [] (ascii "Port") (ascii "=") (ascii "= ") (ascii "22") [] (by simp [IsBlanks]) isKey_port
    isSeparators_equals (isSeparators_blank (.inl rfl)) isValue_port (by simp [IsBlanks])).2
    (by decide +kernel) (by decide +kernel)

/-- `Port=22` sets the port, `Port =22` does not. -/
theorem separators_port :
    IsKey (ascii "Port") ∧ IsSeparators (ascii "=") ∧ IsSeparators (ascii " =") ∧ IsValue (ascii "22") ∧
      ¬ Interchangeable (ascii "Port" ++ ascii "=" ++ ascii "22") (ascii "Port" ++ ascii " =" ++ ascii "22") := by
  refine ⟨isKey_port, isSeparators_equals, isSeparators_blank (.inr rfl), isValue_port, fun law => ?_⟩
  have equal := law (some (ascii "/root")) (ascii "a") (ascii "Host a" ++ [10]) []
    (by decide +kernel) (by decide +kernel)
  have apart : loadSshConfigForHost (some (ascii "/root"))
      (some (ascii "Host a" ++ [10] ++ (ascii "Port" ++ ascii "=" ++ ascii "22") ++ [])) (ascii "a") ≠
        loadSshConfigForHost (some (ascii "/root"))
          (some (ascii "Host a" ++ [10] ++ (ascii "Port" ++ ascii " =" ++ ascii "22") ++ [])) (ascii "a") := by
    decide +kernel
  exact apart equal

end NoxSsh.Cli
