/-
# Cli.Arguments — the words of a command line

The loop of `main` over `argv`: options with their values, the first other word is the
target, the second begins the remote command.  There an inner loop appends the words that
follow, each after a space, as long as they fit 512 bytes, and moves the index of the outer
loop with it.  The first word that does not fit ends it, and what is left goes back to the
outer loop: options take effect, other words are dropped.

So the command is everything from its first word on exactly if that fits, with two corners:
an empty last word needs one byte more than it takes, and the inner index has 16 bits
(`command_whole_iff`).

`main` later fills in what no option set from `~/.ssh/config`; it does not touch the
command.
-/
import NoxSsh.Cli.Values

namespace NoxSsh.Cli

open Wire

set_option autoImplicit false

/-- A word of `argv`. -/
abbrev Arg := List UInt8

/-! ## Options -/

/-- What the options set, with the values `main` starts from. -/
structure Switches where
  port : Nat := 22
  portSetCli : Bool := false
  connectRetries : Nat := 0
  connectTimeoutMs : Nat := 0
  connectTimeoutSetCli : Bool := false
  ioTimeoutMs : Nat := 0
  serverAliveIntervalSec : Nat := 0
  serverAliveIntervalSetCli : Bool := false
  serverAliveCountMax : Nat := 3
  serverAliveCountMaxSetCli : Bool := false
  rekeyIntervalSec : Nat := 0
  rekeyIntervalSetCli : Bool := false
  identityFilePath : List UInt8 := []
  identityFileSet : Bool := false
  password : List UInt8 := []
  passwordSet : Bool := false
  debugLevel : Nat := 0
  requestPty : Bool := true
  batchMode : Bool := false
  batchModeSetCli : Bool := false
  strictHostKeyChecking : HostKeyCheck := .ask
  strictHostKeyCheckingSetCli : Bool := false
  pinnedHostkeyHex : List UInt8 := []
  knownHostsFilePath : List UInt8 := []
  knownHostsFileSetCli : Bool := false
  ed25519PrivateKey : List UInt8 := zeros 32
  ed25519KeySet : Bool := false
  deriving DecidableEq, Repr

/-- How `main` returns from the loop: the status, what it prints, and whether the usage follows. -/
structure Exit where
  status : Nat
  prints : List UInt8
  usage : Bool
  deriving DecidableEq, Repr

/-- What an option does. -/
abbrev Change := Switches → Switches

/-- An option with a value, and what it says when there is none. -/
def valueOption (missing : String) (next : Option Arg) (take : Arg → Except Exit Change) :
    Except Exit (Bool × Change) :=
  match next with
  | none => .error ⟨1, ascii missing, true⟩
  | some value => (take value).map fun change => (true, change)

/-- An option with a number in bounds, and what it says of others. -/
def numberOption (missing invalid : String) (read : Arg → Option Nat) (set : Nat → Change) (next : Option Arg) :
    Except Exit (Bool × Change) :=
  valueOption missing next fun value => match read value with
    | none => .error ⟨1, ascii invalid ++ value ++ [10], false⟩
    | some number => .ok (set number)

/-- A number of `strtoul` that is at most `most`. -/
def upTo (most : Nat) (word : Arg) : Option Nat := (strtoul word).filter (· ≤ most)

/-- `-p`. -/
def portOption : Option Arg → Except Exit (Bool × Change) :=
  numberOption "" "ERROR: Invalid port: " (fun word => (upTo 65535 word).filter (· ≠ 0)) fun port s =>
    { s with port := port, portSetCli := true }

/-- `--connect-retries`. -/
def connectRetriesOption : Option Arg → Except Exit (Bool × Change) :=
  numberOption "ERROR: --connect-retries requires an integer value.\n" "ERROR: Invalid --connect-retries value: "
    (fun word => ((strtol word).filter fun n => 0 ≤ n ∧ n ≤ 100).map Int.toNat) fun n s =>
      { s with connectRetries := n }

/-- `--connect-timeout`. -/
def connectTimeoutOption : Option Arg → Except Exit (Bool × Change) :=
  numberOption "ERROR: --connect-timeout requires a millisecond value.\n" "ERROR: Invalid --connect-timeout value: "
    (upTo 600000) fun n s => { s with connectTimeoutMs := n, connectTimeoutSetCli := true }

/-- `--io-timeout`. -/
def ioTimeoutOption : Option Arg → Except Exit (Bool × Change) :=
  numberOption "ERROR: --io-timeout requires a millisecond value.\n" "ERROR: Invalid --io-timeout value: "
    (upTo 600000) fun n s => { s with ioTimeoutMs := n }

/-- `--server-alive-interval`. -/
def serverAliveIntervalOption : Option Arg → Except Exit (Bool × Change) :=
  numberOption "ERROR: --server-alive-interval requires a second value.\n"
    "ERROR: Invalid --server-alive-interval value: " (upTo 3600) fun n s =>
      { s with serverAliveIntervalSec := n, serverAliveIntervalSetCli := true }

/-- `--server-alive-count-max`. -/
def serverAliveCountMaxOption : Option Arg → Except Exit (Bool × Change) :=
  numberOption "ERROR: --server-alive-count-max requires a count value.\n"
    "ERROR: Invalid --server-alive-count-max value: " (upTo 100) fun n s =>
      { s with serverAliveCountMax := n, serverAliveCountMaxSetCli := true }

/-- `--rekey-interval`. -/
def rekeyIntervalOption : Option Arg → Except Exit (Bool × Change) :=
  numberOption "ERROR: --rekey-interval requires a second value.\n" "ERROR: Invalid --rekey-interval value: "
    (upTo 86400) fun n s => { s with rekeyIntervalSec := n, rekeyIntervalSetCli := true }

/-- `-i`. -/
def identityOption (next : Option Arg) : Except Exit (Bool × Change) :=
  valueOption "ERROR: -i requires a path to an identity file.\n" next fun path =>
    .ok fun s => { s with identityFilePath := path.take 1023, identityFileSet := true }

/-- `-w`. -/
def passwordOption (next : Option Arg) : Except Exit (Bool × Change) :=
  valueOption "" next fun password => .ok fun s => { s with password := password.take 128, passwordSet := true }

/-- `--strict-host-key-checking`. -/
def strictHostKeyCheckingOption (next : Option Arg) : Except Exit (Bool × Change) :=
  valueOption "ERROR: --strict-host-key-checking requires a mode.\n" next fun value =>
    match parseStrictHostKeyMode value with
    | none => .error ⟨1, ascii "ERROR: Invalid --strict-host-key-checking value: " ++ value ++ [10], true⟩
    | some mode => .ok fun s => { s with strictHostKeyChecking := mode, strictHostKeyCheckingSetCli := true }

/-- `--host-key-pin`. -/
def hostKeyPinOption (next : Option Arg) : Except Exit (Bool × Change) :=
  valueOption "ERROR: --host-key-pin requires a 64-hex fingerprint argument.\n" next fun value =>
    if isValidHexFingerprint value = false then
      .error ⟨1, ascii "ERROR: Invalid --host-key-pin value. Expected 64 hex chars.\n", false⟩
    else .ok fun s => { s with pinnedHostkeyHex := value.map toLower }

/-- `--known-hosts-file`. -/
def knownHostsFileOption (next : Option Arg) : Except Exit (Bool × Change) :=
  valueOption "ERROR: --known-hosts-file requires a path.\n" next fun path =>
    .ok fun s => { s with knownHostsFilePath := path.take 1023, knownHostsFileSetCli := true }

/-- `--ed25519-key`. -/
def ed25519KeyOption (next : Option Arg) : Except Exit (Bool × Change) :=
  valueOption "ERROR: --ed25519-key requires a 64-hex private key seed.\n" next fun value =>
    match hexToBytes value 32 with
    | none => .error ⟨1, ascii "ERROR: Invalid --ed25519-key value. Expected 64 hex chars.\n", false⟩
    | some key => .ok fun s => { s with ed25519PrivateKey := key, ed25519KeySet := true }

/-- An option without a value. -/
def flag (change : Change) : Option (Except Exit (Bool × Change)) := some (.ok (false, change))

/-- What a word is as an option, knowing the next one: whether it takes that one too, and
what it does.  Nothing, if it is no option. -/
def optionOf (arg : Arg) (next : Option Arg) : Option (Except Exit (Bool × Change)) :=
  if arg = ascii "-p" then some (portOption next)
  else if arg = ascii "--connect-retries" then some (connectRetriesOption next)
  else if arg = ascii "--connect-timeout" then some (connectTimeoutOption next)
  else if arg = ascii "--io-timeout" then some (ioTimeoutOption next)
  else if arg = ascii "--server-alive-interval" then some (serverAliveIntervalOption next)
  else if arg = ascii "--server-alive-count-max" then some (serverAliveCountMaxOption next)
  else if arg = ascii "--rekey-interval" then some (rekeyIntervalOption next)
  else if arg = ascii "-i" then some (identityOption next)
  else if arg = ascii "-w" then some (passwordOption next)
  else if arg = ascii "-d" ∨ arg = ascii "-dd" ∨ arg = ascii "-ddd" then
    flag fun s => { s with debugLevel := arg.length - 1 }
  else if arg = ascii "-T" then flag fun s => { s with requestPty := false }
  else if arg = ascii "--batch" then flag fun s => { s with batchMode := true, batchModeSetCli := true }
  else if arg = ascii "--strict-host-key" then
    flag fun s => { s with strictHostKeyChecking := .yes, strictHostKeyCheckingSetCli := true }
  else if arg = ascii "--strict-host-key-checking" then some (strictHostKeyCheckingOption next)
  else if arg = ascii "--host-key-pin" then some (hostKeyPinOption next)
  else if arg = ascii "--known-hosts-file" then some (knownHostsFileOption next)
  else if arg = ascii "--ed25519-key" then some (ed25519KeyOption next)
  else if arg = ascii "-h" ∨ arg = ascii "--help" then some (.error ⟨0, [], true⟩)
  else if arg.head? = some 45 then some (.error ⟨1, ascii "ERROR: Unknown option: " ++ arg ++ [10], true⟩)
  else none

/-! ## The loops -/

/-- What the loop has: the switches, the target, and the command once there is one. -/
structure Line where
  switches : Switches
  target : Option Arg
  command : Option (List UInt8)
  deriving DecidableEq, Repr

/-- What a `uint16_t` keeps. -/
def wrap16 (n : Nat) : Nat := n % 65536

/-- The inner loop, with the words from `j` on that are left; the index of the outer loop
follows. -/
def appendArgs : List Arg → Nat → Nat → List UInt8 → Nat × List UInt8
  | [], _, i, command => (i, command)
  | arg :: args, j, i, command =>
      let remaining := 512 - command.length
      if remaining < 2 ∨ arg.length + 1 > remaining then (i, command)
      else appendArgs args (j + 1) j (command ++ 32 :: arg)

/-- The words the inner loop goes over; its index and its bound have 16 bits. -/
def counted (argv : List Arg) (i : Nat) : List Arg := (argv.take (wrap16 argv.length)).drop (wrap16 (i + 1))

/-- The command that begins with this word, the `i`-th. -/
def takeCommand (argv : List Arg) (i : Nat) (arg : Arg) : Nat × List UInt8 :=
  let command := arg.take 512
  if command.length < 512 then appendArgs (counted argv i) (wrap16 (i + 1)) i command else (i, command)

/-- A word that is no option. -/
def takeWord (argv : List Arg) (i : Nat) (arg : Arg) (line : Line) : Nat × Line :=
  match line.target with
  | none => (i, { line with target := some arg })
  | some _ => match line.command with
    | some _ => (i, line)
    | none =>
        let (i, command) := takeCommand argv i arg
        (i, { line with command := some command })

/-- The outer loop, for at most `turns` turns; none if that is not enough. -/
def parseLoop (argv : List Arg) : Nat → Nat → Line → Option (Except Exit Line)
  | 0, _, _ => none
  | turns + 1, i, line =>
      match argv[i]? with
      | none => some (.ok line)
      | some arg =>
          match optionOf arg argv[i + 1]? with
          | some (.error exit) => some (.error exit)
          | some (.ok (takesNext, change)) =>
              parseLoop argv turns (if takesNext then i + 2 else i + 1) { line with switches := change line.switches }
          | none =>
              let (i, line) := takeWord argv i arg line
              parseLoop argv turns (i + 1) line

/-- `main` up to the check that there is a target. -/
def parseArgs (argv : List Arg) (turns : Nat) : Option (Except Exit Line) :=
  if argv.length < 2 then some (.error ⟨1, [], true⟩)
  else (parseLoop argv turns 1 ⟨{}, none, none⟩).map fun parsed => do
    let line ← parsed
    if line.target = none then .error ⟨1, [], true⟩ else .ok line

/-! ## What the command should be -/

/-- Where the command begins, from the `i`-th word on: at the first word that is neither an
option nor its value, after the target. -/
def commandFrom : List Arg → Nat → Bool → Option Nat
  | [], _, _ => none
  | arg :: args, i, targetSeen =>
      match optionOf arg args.head? with
      | some (.error _) => none
      | some (.ok (true, _)) => match args with
        | [] => none
        | _ :: args => commandFrom args (i + 2) targetSeen
      | some (.ok (false, _)) => commandFrom args (i + 1) targetSeen
      | none => if targetSeen then some i else commandFrom args (i + 1) true

def commandIndex (argv : List Arg) : Option Nat := commandFrom (argv.drop 1) 1 false

/-- A word and those after it, each after a space. -/
def joined (arg : Arg) (args : List Arg) : List UInt8 := arg ++ args.flatMap (32 :: ·)

/-- It fits; an empty word at the end needs one byte more. -/
def Fits (arg : Arg) (args : List Arg) : Prop :=
  (joined arg args).length ≤ 512 ∧ ¬ ((joined arg args).length = 512 ∧ args.getLast? = some [])

/-! ## The inner loop -/

section Inner

theorem joined_cons (arg next : Arg) (args : List Arg) : joined arg (next :: args) = joined (arg ++ 32 :: next) args := by
  simp [joined]

/-- The loop appends some of the words, at most all. -/
theorem appendArgs_prefix (args : List Arg) : ∀ (j i : Nat) (command : List UInt8),
    ∃ n, (appendArgs args j i command).2 = joined command (args.take n) := by
  induction args with
  | nil => exact fun _ _ command => ⟨0, by simp [appendArgs, joined]⟩
  | cons arg args ih =>
      intro j i command
      rw [appendArgs]
      split
      · exact ⟨0, by simp [joined]⟩
      · obtain ⟨n, is⟩ := ih (j + 1) j (command ++ 32 :: arg)
        exact ⟨n + 1, by rw [is, List.take_succ_cons, joined_cons]⟩

theorem length_joined (arg : Arg) (args : List Arg) :
    (joined arg args).length = arg.length + (args.flatMap (32 :: ·)).length := List.length_append

/-- Words that are left out are missed. -/
theorem length_joined_take (arg : Arg) (args : List Arg) (n : Nat) (short : n < args.length) :
    (joined arg (args.take n)).length < (joined arg args).length := by
  have whole : (args.flatMap (32 :: ·)).length = ((args.take n).flatMap (32 :: ·)).length +
      ((args.drop n).flatMap (32 :: ·)).length := by
    rw [← List.length_append, ← List.flatMap_append, List.take_append_drop]
  obtain ⟨next, rest, is⟩ := List.exists_cons_of_ne_nil (l := args.drop n) (by simpa using short)
  rw [length_joined, length_joined, whole, is, List.flatMap_cons, List.length_append, List.length_cons]
  omega

theorem joined_nil (arg : Arg) : joined arg [] = arg := List.append_nil arg

/-- A word after it does not change whether the rest fits. -/
theorem fits_cons (arg next : Arg) {args : List Arg} (more : args ≠ []) :
    Fits arg (next :: args) ↔ Fits (arg ++ 32 :: next) args := by
  obtain ⟨last, rest, rfl⟩ := List.exists_cons_of_ne_nil more
  rw [Fits, Fits, joined_cons, List.getLast?_cons_cons]

theorem fits_one (arg next : Arg) : Fits arg [next] ↔ arg.length + next.length + 1 ≤ 512 ∧
    ¬ (arg.length = 511 ∧ next = []) := by
  have size : (joined arg [next]).length = arg.length + next.length + 1 := by
    rw [joined_cons, joined_nil, List.length_append, List.length_cons]
    omega
  rw [Fits, size, List.getLast?_singleton, Option.some_inj]
  constructor
  · rintro ⟨fits, room⟩
    refine ⟨fits, fun ⟨full, empty⟩ => room ⟨?_, empty⟩⟩
    rw [empty, full]
    rfl
  · rintro ⟨fits, room⟩
    refine ⟨fits, fun ⟨full, empty⟩ => room ⟨?_, empty⟩⟩
    rw [empty, List.length_nil] at full
    omega

/-- The loop appends all words exactly if they fit. -/
theorem appendArgs_iff (args : List Arg) : ∀ (j i : Nat) (command : List UInt8), args ≠ [] →
    ((appendArgs args j i command).2 = joined command args ↔ Fits command args) := by
  induction args with
  | nil => exact fun _ _ _ none => absurd rfl none
  | cons arg args ih =>
      intro j i command _
      have size : (joined command (arg :: args)).length =
          command.length + arg.length + 1 + (args.flatMap (32 :: ·)).length := by
        rw [joined_cons, length_joined, List.length_append, List.length_cons]
        omega
      rw [appendArgs]
      split
      · -- the word is left out, so the command is too short, and it did not fit
        rename_i full
        refine iff_of_false (fun is => ?_) fun ⟨fits, room⟩ => ?_
        · have := congrArg List.length is
          rw [size] at this
          dsimp only at this
          omega
        · rw [size] at fits room
          obtain rfl : arg = [] := List.length_eq_zero_iff.1 (by omega)
          have none : args = [] := by
            by_contra more
            obtain ⟨next, rest, rfl⟩ := List.exists_cons_of_ne_nil more
            rw [List.flatMap_cons, List.length_append, List.length_cons] at fits
            simp only [List.length_nil] at fits full
            omega
          subst none
          simp only [List.length_nil, List.flatMap_nil, List.getLast?_singleton] at fits full room
          exact room ⟨by omega, trivial⟩
      · rename_i room
        rw [joined_cons]
        by_cases more : args = []
        · subst more
          rw [joined_nil, fits_one]
          refine iff_of_true rfl ⟨by omega, fun ⟨full, _⟩ => room (.inl ?_)⟩
          omega
        · rw [fits_cons _ _ more]
          exact ih _ _ _ more

/-- Fewer words fit as well. -/
theorem fits_take {arg : Arg} {args : List Arg} (n : Nat) (fits : Fits arg args) : Fits arg (args.take n) := by
  by_cases short : n < args.length
  · have less := length_joined_take arg args n short
    exact ⟨by have := fits.1; omega, fun ⟨full, _⟩ => by have := fits.1; omega⟩
  · rwa [List.take_of_length_le (by omega)]

theorem fits_nil {arg : Arg} : Fits arg [] ↔ arg.length ≤ 512 := by
  rw [Fits, joined_nil]
  exact ⟨And.left, fun fits => ⟨fits, fun both => by cases both.2⟩⟩

/-- The loop appends as many words as fit. -/
theorem appendArgs_most (args : List Arg) : ∀ (j i : Nat) (command : List UInt8), command.length ≤ 512 →
    ∃ n, (appendArgs args j i command).2 = joined command (args.take n) ∧ Fits command (args.take n) ∧
      (n < args.length → ¬ Fits command (args.take (n + 1))) := by
  induction args with
  | nil => exact fun _ _ command small => ⟨0, (joined_nil command).symm, fits_nil.2 small, by simp⟩
  | cons arg args ih =>
      intro j i command small
      rw [appendArgs]
      split
      · rename_i full
        refine ⟨0, (joined_nil command).symm, fits_nil.2 small, fun _ fits => ?_⟩
        rw [List.take_succ_cons, List.take_zero, fits_one] at fits
        have room := fits.2
        rw [← List.length_eq_zero_iff] at room
        omega
      · rename_i room
        obtain ⟨n, is, fits, most⟩ := ih (j + 1) j (command ++ 32 :: arg) (by simp; omega)
        refine ⟨n + 1, by rw [is, List.take_succ_cons, joined_cons], ?_, fun more fits' => ?_⟩
        · rw [List.take_succ_cons]
          by_cases last : args.take n = []
          · rw [last, fits_one]
            omega
          · exact (fits_cons _ _ last).2 fits
        · have left : n < args.length := Nat.lt_of_succ_lt_succ more
          rw [List.take_succ_cons, fits_cons _ _ (List.ne_nil_of_length_pos (by simp; omega))] at fits'
          exact most left fits'

/-- There is one such number of words. -/
theorem take_unique {arg : Arg} {args : List Arg} {n m : Nat} (fits : Fits arg (args.take n))
    (most : n < args.length → ¬ Fits arg (args.take (n + 1))) (fits' : Fits arg (args.take m))
    (most' : m < args.length → ¬ Fits arg (args.take (m + 1))) : args.take n = args.take m := by
  have least {a b : Nat} (less : a < b) (inside : a < args.length) (fits : Fits arg (args.take b)) :
      Fits arg (args.take (a + 1)) := by
    have := fits_take (a + 1) fits
    rwa [List.take_take, Nat.min_eq_left less] at this
  rcases Nat.lt_trichotomy n m with less | rfl | more
  · by_cases inside : n < args.length
    · exact absurd (least less inside fits') (most inside)
    · rw [List.take_of_length_le (by omega), List.take_of_length_le (by omega)]
  · rfl
  · by_cases inside : m < args.length
    · exact absurd (least more inside fits) (most' inside)
    · rw [List.take_of_length_le (by omega), List.take_of_length_le (by omega)]

theorem eq_nil_of_joined {arg : Arg} {args : List Arg} (short : (joined arg args).length ≤ arg.length) : args = [] := by
  by_contra more
  have := length_joined_take arg args 0 (List.length_pos_iff.2 more)
  rw [List.take_zero, joined_nil] at this
  omega

/-- What the command is made of. -/
theorem takeCommand_iff (argv : List Arg) (i : Nat) (arg : Arg) :
    (takeCommand argv i arg).2 = joined arg (counted argv i) ↔ Fits arg (counted argv i) := by
  rw [takeCommand]
  generalize counted argv i = args
  by_cases small : arg.length < 512
  · rw [List.take_of_length_le (by omega), if_pos small]
    by_cases none : args = []
    · subst none
      rw [appendArgs, joined_nil, fits_nil]
      exact iff_of_true rfl (by omega)
    · exact appendArgs_iff args _ _ _ none
  · rw [if_neg (by rw [List.length_take]; omega)]
    have size := length_joined arg args
    constructor
    · intro is
      have cut := congrArg List.length is
      rw [List.length_take] at cut
      obtain rfl := @eq_nil_of_joined arg args (by omega)
      rw [fits_nil]
      rw [joined_nil] at cut
      omega
    · rintro ⟨fits, -⟩
      obtain rfl := @eq_nil_of_joined arg args (by omega)
      rw [joined_nil] at fits ⊢
      exact List.take_of_length_le fits

/-- It is never longer than the words it is made of. -/
theorem length_takeCommand (argv : List Arg) (i : Nat) (arg : Arg) :
    (takeCommand argv i arg).2.length ≤ (joined arg (counted argv i)).length := by
  rw [takeCommand]
  generalize counted argv i = args
  have part : ∀ command n, command.length ≤ arg.length →
      (joined command (args.take n)).length ≤ (joined arg args).length := by
    intro command n short
    have whole : ((args.take n).flatMap (32 :: ·)).length ≤ (args.flatMap (32 :: ·)).length := by
      conv => rhs; rw [← List.take_append_drop n args, List.flatMap_append, List.length_append]
      omega
    rw [length_joined, length_joined]
    omega
  have cut : (arg.take 512).length ≤ arg.length := by rw [List.length_take]; omega
  split
  · obtain ⟨n, is⟩ := appendArgs_prefix args (wrap16 (i + 1)) i (arg.take 512)
    rw [is]
    exact part _ n cut
  · have := part (arg.take 512) 0 cut
    rwa [List.take_zero, joined_nil] at this

end Inner

/-! ## The whole line -/

section Whole

variable {argv : List Arg}

/-- The words after the `i`-th. -/
def following (argv : List Arg) (i : Nat) : List Arg := argv.drop (i + 1)

/-- As many of the words the index picks as fit come to the same. -/
def Picked (argv : List Arg) (i : Nat) (arg : Arg) : Prop :=
  ∃ n, joined arg ((counted argv i).take n) = joined arg (following argv i) ∧ Fits arg ((counted argv i).take n) ∧
    (n < (counted argv i).length → ¬ Fits arg ((counted argv i).take (n + 1)))

/-- The words fit and are counted in 16 bits; or, past the 65535th, those the index picks
instead come to the same. -/
def Whole (argv : List Arg) (i : Nat) (arg : Arg) : Prop :=
  Fits arg (following argv i) ∧ (argv.length < 65536 ∨ following argv i = []) ∨ 65536 ≤ i + 1 ∧ Picked argv i arg

/-- That is what the inner loop appends. -/
theorem takeCommand_picked (i : Nat) (arg : Arg) :
    (takeCommand argv i arg).2 = joined arg (following argv i) ↔ Picked argv i arg := by
  rw [takeCommand, Picked]
  generalize counted argv i = args
  by_cases small : arg.length < 512
  · rw [List.take_of_length_le (by omega), if_pos small]
    obtain ⟨n, is, fits, most⟩ := appendArgs_most args (wrap16 (i + 1)) i arg (Nat.le_of_lt small)
    constructor
    · exact fun whole => ⟨n, is.symm.trans whole, fits, most⟩
    · rintro ⟨m, whole, fits', most'⟩
      obtain same : args.take n = args.take m := take_unique fits most fits' most'
      rw [is, same, whole]
  · have size := length_joined arg (following argv i)
    rw [if_neg (by rw [List.length_take]; omega)]
    constructor
    · intro is
      have cut := congrArg List.length is
      rw [List.length_take] at cut
      refine ⟨0, ?_, ?_, fun some_ fits => ?_⟩
      · rw [List.take_zero, @eq_nil_of_joined arg (following argv i) (by omega)]
      · rw [List.take_zero, fits_nil]
        omega
      · have more := length_joined_take arg (args.take 1) 0 (by rw [List.length_take]; omega)
        rw [List.take_zero, joined_nil] at more
        have : (joined arg (args.take 1)).length ≤ 512 := fits.1
        omega
    · rintro ⟨n, is, fits, -⟩
      have whole := fits.1
      rw [is] at whole
      have last : following argv i = [] := @eq_nil_of_joined arg (following argv i) (by omega)
      rw [last, joined_nil] at whole ⊢
      exact List.take_of_length_le whole

theorem counted_short (short : argv.length < 65536) {i : Nat} (inside : i < argv.length) :
    counted argv i = following argv i := by
  rw [counted, wrap16, wrap16, Nat.mod_eq_of_lt short, Nat.mod_eq_of_lt (by omega), List.take_length, following]

theorem counted_last {i : Nat} (inside : i < argv.length) (last : following argv i = []) : counted argv i = [] := by
  rw [following, List.drop_eq_nil_iff] at last
  rw [counted, show i + 1 = argv.length by omega, List.drop_eq_nil_iff, List.length_take]
  exact Nat.min_le_left _ _

/-- With more than 65535 words the index stops too early. -/
theorem counted_long {i : Nat} (long : 65536 ≤ argv.length) (early : i + 1 < 65536) (more : following argv i ≠ []) :
    ∃ n < (following argv i).length, counted argv i = (following argv i).take n := by
  refine ⟨argv.length % 65536 - (i + 1), ?_, ?_⟩
  · have some_ := List.length_pos_iff.2 more
    rw [following, List.length_drop] at some_ ⊢
    omega
  · rw [counted, following, wrap16, wrap16, Nat.mod_eq_of_lt early, List.drop_take]

/-- The command is all the words exactly under this condition. -/
theorem takeCommand_whole {i : Nat} (inside : i < argv.length) (arg : Arg) :
    (takeCommand argv i arg).2 = joined arg (following argv i) ↔ Whole argv i arg := by
  have own := takeCommand_iff argv i arg
  by_cases late : 65536 ≤ i + 1
  · constructor
    · exact fun is => .inr ⟨late, (takeCommand_picked i arg).1 is⟩
    · rintro (⟨fits, short | last⟩ | ⟨-, picked⟩)
      · omega
      · rw [counted_last inside last] at own
        rw [last] at fits ⊢
        exact own.2 fits
      · exact (takeCommand_picked i arg).2 picked
  by_cases short : argv.length < 65536 ∨ following argv i = []
  · have same : counted argv i = following argv i := by
      rcases short with short | last
      · exact counted_short short inside
      · rw [counted_last inside last, last]
    rw [same] at own
    rw [own]
    exact ⟨fun fits => .inl ⟨fits, short⟩, fun whole => whole.elim And.left fun both => absurd both.1 late⟩
  · rw [not_or] at short
    obtain ⟨n, less, is⟩ := counted_long (by omega) (by omega) short.2
    have most := length_takeCommand argv i arg
    have fewer := length_joined_take arg (following argv i) n less
    rw [is] at most
    refine iff_of_false (fun whole => ?_) ?_
    · rw [whole] at most
      omega
    · rintro (⟨-, counts⟩ | ⟨late', -⟩)
      · exact counts.elim short.1 short.2
      · exact late late'

/-- A command that was taken stays. -/
theorem parseLoop_command (turns : Nat) : ∀ (i : Nat) (line parsed : Line) (command : List UInt8) (target : Arg),
    line.command = some command → line.target = some target → parseLoop argv turns i line = some (.ok parsed) →
    parsed.command = some command := by
  induction turns with
  | zero => exact fun _ _ _ _ _ _ _ stops => by cases stops
  | succ turns ih =>
      intro i line parsed command target is seen parses
      rw [parseLoop] at parses
      split at parses
      · obtain rfl := Except.ok.inj (Option.some.inj parses)
        exact is
      · split at parses
        · cases parses
        · rename_i change _
          exact ih _ { line with switches := change line.switches } parsed command target is seen parses
        · rw [takeWord, seen] at parses
          simp only [is] at parses
          exact ih _ _ parsed command target is seen parses

/-- Until then the loop goes through the words as `commandFrom` does. -/
theorem parseLoop_scan (turns : Nat) : ∀ (i : Nat) (line parsed : Line) (command : List UInt8),
    line.command = none → parseLoop argv turns i line = some (.ok parsed) → parsed.command = some command →
    ∃ at_ arg, commandFrom (argv.drop i) i line.target.isSome = some at_ ∧ argv[at_]? = some arg ∧
      command = (takeCommand argv at_ arg).2 := by
  induction turns with
  | zero => exact fun _ _ _ _ _ stops => by cases stops
  | succ turns ih =>
      intro i line parsed command fresh parses asked
      rw [parseLoop] at parses
      split at parses
      · obtain rfl := Except.ok.inj (Option.some.inj parses)
        rw [fresh] at asked
        cases asked
      rename_i arg here
      have split_ : argv.drop i = arg :: argv.drop (i + 1) := by
        obtain ⟨inside, is⟩ := List.getElem?_eq_some_iff.1 here
        rw [List.drop_eq_getElem_cons inside, is]
      have next : (argv.drop (i + 1)).head? = argv[i + 1]? := List.head?_drop
      rw [split_, commandFrom.eq_def]
      dsimp only
      rw [next]
      cases is : optionOf arg argv[i + 1]? with
      | none =>
          rw [is] at parses
          dsimp only at parses ⊢
          cases seen : line.target with
          | none =>
              rw [takeWord, seen] at parses
              obtain ⟨at_, first, scan, there, taken⟩ :=
                ih (i + 1) { line with target := some arg } parsed command fresh parses asked
              exact ⟨at_, first, scan, there, taken⟩
          | some target =>
              rw [takeWord, seen] at parses
              simp only [fresh] at parses
              have kept := parseLoop_command turns _
                { line with target := some target, command := some (takeCommand argv i arg).2 } parsed _ target
                rfl rfl parses
              rw [kept] at asked
              exact ⟨i, arg, rfl, here, (Option.some.inj asked).symm⟩
      | some option =>
          rw [is] at parses
          cases option with
          | error exit => cases parses
          | ok does =>
              obtain ⟨takesNext, change⟩ := does
              dsimp only at parses ⊢
              obtain ⟨at_, first, scan, there, taken⟩ :=
                ih _ { line with switches := change line.switches } parsed command fresh parses asked
              cases takesNext with
              | false => exact ⟨at_, first, scan, there, taken⟩
              | true =>
                  have later : argv.drop (i + 2) = (argv.drop (i + 1)).drop 1 := by rw [List.drop_drop]
                  refine ⟨at_, first, ?_, there, taken⟩
                  revert scan
                  simp only [if_true]
                  rw [later]
                  cases argv.drop (i + 1) with
                  | nil => exact fun none => by cases none
                  | cons value rest => exact id

/-- Each turn moves on, and only the command can move the index back, once. -/
theorem parseLoop_returns (turns : Nat) : ∀ (i : Nat) (line : Line),
    (if line.command = none then argv.length + 1 else 0) + (argv.length - i) < turns →
    ∃ parsed, parseLoop argv turns i line = some parsed := by
  induction turns with
  | zero => exact fun _ _ few => absurd few (Nat.not_lt_zero _)
  | succ turns ih =>
      intro i line enough
      rw [parseLoop]
      split
      · exact ⟨_, rfl⟩
      rename_i arg here
      have inside : i < argv.length := (List.getElem?_eq_some_iff.1 here).1
      split
      · exact ⟨_, rfl⟩
      · apply ih
        generalize (if line.command = none then argv.length + 1 else 0) = ahead at enough ⊢
        split <;> omega
      · obtain ⟨switches, target, command⟩ := line
        cases target with
        | none =>
            refine ih (i + 1) ⟨switches, some arg, command⟩ ?_
            generalize (if command = none then argv.length + 1 else 0) = ahead at enough ⊢
            omega
        | some target => cases command with
          | some command =>
              refine ih (i + 1) ⟨switches, some target, some command⟩ ?_
              simp only [reduceCtorEq, if_false] at enough ⊢
              omega
          | none =>
              refine ih _ ⟨switches, some target, some _⟩ ?_
              simp only [reduceCtorEq, if_true, if_false] at enough ⊢
              omega

/-- With enough turns the arguments are always parsed or refused. -/
theorem parseArgs_returns (argv : List Arg) : ∃ parsed, parseArgs argv (2 * argv.length + 2) = some parsed := by
  rw [parseArgs]
  split
  · exact ⟨_, rfl⟩
  · obtain ⟨parsed, is⟩ := @parseLoop_returns argv (2 * argv.length + 2) 1 ⟨{}, none, none⟩ (by
      rw [if_pos rfl]
      omega)
    exact ⟨_, by rw [is]; rfl⟩

/-- **The remote command is what was typed, if it fits.**  Wherever the options let the
program go on with a command, it is every word from the first one after the target on,
joined by spaces, exactly under `Whole`. -/
theorem command_whole_iff (argv : List Arg) (turns : Nat) (line : Line) (command : List UInt8)
    (parses : parseArgs argv turns = some (.ok line)) (asked : line.command = some command) :
    ∃ i arg, commandIndex argv = some i ∧ argv[i]? = some arg ∧
      (command = joined arg (following argv i) ↔ Whole argv i arg) := by
  rw [parseArgs] at parses
  split at parses
  · cases parses
  obtain ⟨parsed, loops, is⟩ := Option.map_eq_some_iff.1 parses
  cases parsed with
  | error exit => cases is
  | ok parsed =>
      simp only [bind, Except.bind] at is
      split at is
      · cases is
      obtain rfl := Except.ok.inj is
      obtain ⟨i, arg, index, here, rfl⟩ := parseLoop_scan turns 1 _ parsed command rfl loops asked
      exact ⟨i, arg, index, here, takeCommand_whole (List.getElem?_eq_some_iff.1 here).1 arg⟩

end Whole

namespace Sample

def listing : List Arg := [ascii "noxssh", ascii "host", ascii "ls", ascii "-l"]

/-- A command whose second word does not fit. -/
def overlong : List Arg := [ascii "noxssh", ascii "host", ascii "ls", List.replicate 510 97]

end Sample

theorem command_whole_sample :
    ∃ i arg, commandIndex Sample.listing = some i ∧ Sample.listing[i]? = some arg ∧
      (ascii "ls -l" = joined arg (following Sample.listing i) ↔ Whole Sample.listing i arg) :=
  command_whole_iff Sample.listing 10 ⟨{}, some (ascii "host"), some (ascii "ls -l")⟩ (ascii "ls -l") (by rfl) rfl

set_option maxRecDepth 4000 in
/-- The word is left out and the rest is executed. -/
theorem overlong_command_cut :
    ¬ ∀ (argv : List Arg) (turns : Nat) (line : Line) (command : List UInt8),
      parseArgs argv turns = some (.ok line) → line.command = some command →
      ∃ i arg, commandIndex argv = some i ∧ argv[i]? = some arg ∧ command = joined arg (following argv i) := by
  intro whole
  have parses : parseArgs Sample.overlong 10 = some (.ok ⟨{}, some (ascii "host"), some (ascii "ls")⟩) := by rfl
  obtain ⟨i, arg, index, here, is⟩ := whole _ _ _ _ parses rfl
  have two : commandIndex Sample.overlong = some 2 := by rfl
  obtain rfl := Option.some.inj (two.symm.trans index)
  have more : following Sample.overlong 2 ≠ [] := by decide
  have size := length_joined_take arg _ 0 (List.length_pos_iff.2 more)
  rw [List.take_zero, joined_nil, ← is] at size
  obtain rfl : ascii "ls" = arg := Option.some.inj here
  exact absurd size (Nat.lt_irrefl _)

end NoxSsh.Cli
