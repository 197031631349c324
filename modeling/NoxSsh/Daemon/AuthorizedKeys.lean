/-
# Daemon.AuthorizedKeys — who may log in with which key

`authorized_user_key` looks the account up, checks the home directory, `.ssh` and
`authorized_keys`, and reads the file with `fgets` into a buffer of 8192 bytes.  Every
buffer is taken for a line, and for a C string: a line that does not fit comes in pieces,
and a zero byte ends it early.  So the keys of a file are the keys of its pieces
(`authorized_iff_piece`), and they are the keys of its lines if no line is longer than a
buffer and no byte is zero (`authorized_of_short_lines`); in general exactly under the
condition of `authorized_by_line_iff`.

What the file system and the account database answer is a `Machine`; the length of a path
is counted as the source does.  The content of the file is what `fgets` reads until it
stops.
-/
import NoxSsh.Theory.Base64
import NoxSsh.Theory.Lines
import NoxSsh.Transport.Kex
import Mathlib.Data.List.TakeWhile

namespace NoxSsh.Daemon

open Theory Wire Transport

set_option autoImplicit false

/-! ## The file -/

/-- The 19 bytes an `ssh-ed25519` blob begins with. -/
def blobHead : List UInt8 := [0, 0, 0, 11] ++ ascii "ssh-ed25519" ++ [0, 0, 0, 32]

/-- `decode_blob`: the bytes of 68 letters, if they are an `ssh-ed25519` blob. -/
def decodeBlob (src : List UInt8) : Option (List UInt8) :=
  if src.length ≠ 68 then none
  else match Base64.decode src with
    | none => none
    | some out => if out.take 19 = blobHead then some out else none

/-- Space and tab. -/
def isBlank (c : UInt8) : Bool := c = 32 || c = 9

/-- What ends a token. -/
def endsToken (c : UInt8) : Bool := c = 32 || c = 9 || c = 13 || c = 10

/-- What a C string function sees of a buffer. -/
def cString (buffer : List UInt8) : List UInt8 := buffer.takeWhile (· ≠ 0)

/-- What the loop of `authorized_user_key` makes of one buffer; without a key every key is
as good. -/
def authorizes (key : Option (List UInt8)) (buffer : List UInt8) : Bool :=
  let alg := (cString buffer).dropWhile isBlank
  if alg.take 11 ≠ ascii "ssh-ed25519" ∨ (alg.drop 11).head?.any isBlank = false then false
  else
    let blob := (alg.drop 11).dropWhile isBlank
    match decodeBlob (blob.takeWhile fun c => !endsToken c) with
    | none => false
    | some decoded => match key with
      | none => true
      | some key => (decoded.drop 19).take 32 = key

/-- The loop, for at most `turns` turns; `fgets` has one place less than the buffer. -/
def keyLoop (key : Option (List UInt8)) : Nat → List UInt8 → Bool
  | 0, _ => false
  | turns + 1, text =>
      match readLine 10 8191 text with
      | none => false
      | some (line, rest) => if authorizes key line then true else keyLoop key turns rest

/-! ## The account -/

/-- What the checks look at: `S_ISDIR`, `S_ISREG`, `st_mode & 022`, `st_uid`, `st_size`. -/
structure FileStat where
  isDirectory : Bool
  isRegular : Bool
  othersWrite : Bool
  uid : Nat
  size : Nat
  deriving DecidableEq, Repr

/-- The fields of `struct passwd` that are read; an absent string is an empty one. -/
structure Passwd where
  uid : Nat
  dir : List UInt8
  shell : List UInt8
  deriving DecidableEq, Repr

/-- An open file: `fstat`, whether `fdopen` succeeds, and what is read. -/
structure OpenFile where
  fstat : Option FileStat
  fdopen : Bool
  text : List UInt8
  deriving DecidableEq, Repr

/-- What the machine answers. -/
structure Machine where
  getpwnam : List UInt8 → Option Passwd
  stat : List UInt8 → Option FileStat
  lstat : List UInt8 → Option FileStat
  /-- With `O_RDONLY | O_CLOEXEC | O_NOFOLLOW`. -/
  openRead : List UInt8 → Option OpenFile

/-- Of the account or root, and nobody else writes to it. -/
def FileStat.trusted (st : FileStat) (account : Passwd) : Bool :=
  !st.othersWrite && (st.uid = account.uid || st.uid = 0)

/-- A user name that names an account with a usable shell. -/
def usableAccount (machine : Machine) (username : List UInt8) : Option Passwd := do
  guard (username ≠ [] ∧ 47 ∉ username ∧ 92 ∉ username)
  let account ← machine.getpwnam username
  guard (account.dir ≠ [] ∧ account.shell ≠ [] ∧ ¬ ascii "nologin" <:+: account.shell ∧
    ¬ ascii "false" <:+: account.shell)
  guard (account.dir.length + 22 ≤ 4096)
  pure account

/-- The content of the account's `authorized_keys`, if all checks pass. -/
def authorizedKeysText (machine : Machine) (username : List UInt8) : Option (List UInt8) := do
  let account ← usableAccount machine username
  let home ← machine.stat account.dir
  guard (home.isDirectory ∧ home.trusted account)
  let ssh ← machine.lstat (account.dir ++ ascii "/.ssh")
  guard (ssh.isDirectory ∧ ssh.trusted account)
  let file ← machine.openRead (account.dir ++ ascii "/.ssh/authorized_keys")
  let st ← file.fstat
  guard (st.isRegular ∧ st.size ≤ 65536 ∧ st.trusted account)
  guard file.fdopen
  pure file.text

/-- `authorized_user_key`. -/
def authorizedUserKey (machine : Machine) (username : List UInt8) (key : Option (List UInt8)) : Bool :=
  match authorizedKeysText machine username with
  | none => false
  | some text => keyLoop key (text.length + 1) text

/-- `noxsshd_authorized_ed25519`. -/
def authorizedEd25519 (machine : Machine) (username key : List UInt8) : Bool :=
  authorizedUserKey machine username (some key)

/-- `noxsshd_authorized_user_ready`. -/
def authorizedUserReady (machine : Machine) (username : List UInt8) : Bool := authorizedUserKey machine username none

/-! ## What a line says -/

/-- The line grants the key: blanks, `ssh-ed25519`, blanks, and a token that is the key's
blob in base64. -/
def Grants (key line : List UInt8) : Prop :=
  ∃ indent gap rest, line = indent ++ algEd25519 ++ gap ++ Base64.encode (ed25519Blob key) ++ rest ∧
    (∀ c ∈ indent, isBlank c = true) ∧ (∀ c ∈ gap, isBlank c = true) ∧ gap ≠ [] ∧
    ∀ c ∈ rest.head?, endsToken c = true

section Grants

variable {key line : List UInt8}

theorem length_keyBlob (sized : key.length = 32) : (ed25519Blob key).length = 51 := by
  rw [length_ed25519Blob, sized]

theorem length_keyText (sized : key.length = 32) : (Base64.encode (ed25519Blob key)).length = 68 := by
  rw [Base64.length_encode _ (by rw [length_keyBlob sized]), length_keyBlob sized]

theorem length_blobHead : blobHead.length = 19 := by decide

/-- The blob of a key has the 19 bytes the source compares before it. -/
theorem keyBlob_split (sized : key.length = 32) :
    ed25519Blob key = blobHead ++ key := by
  have len : be32 key.length = [0, 0, 0, 32] := by rw [sized]; decide
  have name : be32 algEd25519.length = [0, 0, 0, 11] := by decide
  rw [ed25519Blob, sshString, sshString, len, name]
  simp only [List.append_assoc]
  rfl

/-- A token is the key's blob exactly if it is decoded to it. -/
theorem decodeBlob_iff (sized : key.length = 32) (token : List UInt8) :
    (∃ decoded, decodeBlob token = some decoded ∧ (decoded.drop 19).take 32 = key) ↔
      token = Base64.encode (ed25519Blob key) := by
  constructor
  · rintro ⟨decoded, read, is⟩
    rw [decodeBlob] at read
    split at read
    · cases read
    rename_i long
    split at read
    · cases read
    rename_i out known
    split at read
    swap
    · cases read
    rename_i named
    obtain rfl := Option.some.inj read
    have back := Base64.encode_of_decode _ _ known
    have size : out.length = 51 := by
      have whole := Base64.length_decode _ _ known
      omega
    have blob : out = ed25519Blob key := by
      have all : (out.drop 19).take 32 = out.drop 19 := List.take_of_length_le (by rw [List.length_drop]; omega)
      rw [keyBlob_split sized, ← named, ← is, all, List.take_append_drop]
    rw [← blob, back]
  · rintro rfl
    refine ⟨ed25519Blob key, ?_, ?_⟩
    · rw [decodeBlob, if_neg (by rw [length_keyText sized]; simp),
        Base64.decode_encode _ (by rw [length_keyBlob sized])]
      simp only
      rw [if_pos]
      rw [keyBlob_split sized]
      exact List.take_left' length_blobHead
    · rw [keyBlob_split sized, List.drop_left' length_blobHead, ← sized, List.take_length]

/-- A letter is neither blank nor the end of a token, of a line or of a string. -/
theorem letter_plain : ∀ v < 64, isBlank (Base64.letter v) = false ∧ endsToken (Base64.letter v) = false ∧
    Base64.letter v ≠ 0 ∧ Base64.letter v ≠ 10 := by decide

theorem keyText_plain (key : List UInt8) : ∀ c ∈ Base64.encode (ed25519Blob key),
    isBlank c = false ∧ endsToken c = false ∧ c ≠ 0 ∧ c ≠ 10 := by
  intro c mem
  obtain ⟨v, small, rfl⟩ := Base64.letters_encode _ c mem
  exact letter_plain v small

/-- What a buffer is taken for: the key it authorizes is the one its C string grants. -/
theorem authorizes_iff (sized : key.length = 32) (buffer : List UInt8) :
    authorizes (some key) buffer = true ↔ Grants key (cString buffer) := by
  rw [authorizes]
  generalize cString buffer = line
  dsimp only
  constructor
  · intro is
    split at is
    · cases is
    rename_i named
    rw [not_or, not_not, Bool.not_eq_false] at named
    obtain ⟨name, spaced⟩ := named
    split at is
    · cases is
    rename_i decoded read
    have token := (decodeBlob_iff sized _).1 ⟨decoded, read, by simpa using is⟩
    refine ⟨line.takeWhile isBlank, ((line.dropWhile isBlank).drop 11).takeWhile isBlank,
      (((line.dropWhile isBlank).drop 11).dropWhile isBlank).dropWhile fun c => !endsToken c, ?_, ?_, ?_, ?_, ?_⟩
    · rw [← token, List.append_assoc, List.takeWhile_append_dropWhile, List.append_assoc,
        List.takeWhile_append_dropWhile, List.append_assoc, algEd25519, ← name, List.take_append_drop,
        List.takeWhile_append_dropWhile]
    · exact fun c mem => List.mem_takeWhile_imp mem
    · exact fun c mem => List.mem_takeWhile_imp mem
    · intro none
      revert spaced
      cases after : (line.dropWhile isBlank).drop 11 with
      | nil => simp
      | cons c rest =>
          rw [after] at none
          intro spaced
          rw [List.takeWhile_cons_of_pos (by simpa using spaced)] at none
          cases none
    · intro c head
      have ends := List.head?_dropWhile_not (fun c => !endsToken c) (((line.dropWhile isBlank).drop 11).dropWhile isBlank)
      rw [Option.mem_def.1 head] at ends
      simpa using ends
  · rintro ⟨indent, gap, rest, rfl, indented, spaces, spaced, ended⟩
    have alg : (indent ++ algEd25519 ++ gap ++ Base64.encode (ed25519Blob key) ++ rest).dropWhile isBlank =
        algEd25519 ++ (gap ++ (Base64.encode (ed25519Blob key) ++ rest)) := by
      simp only [List.append_assoc]
      rw [List.dropWhile_append_of_pos indented]
      rfl
    have plain := keyText_plain key
    obtain ⟨c, text, is⟩ : ∃ c text, Base64.encode (ed25519Blob key) = c :: text :=
      List.exists_cons_of_length_pos (by rw [length_keyText sized]; decide)
    have blob : (gap ++ (Base64.encode (ed25519Blob key) ++ rest)).dropWhile isBlank =
        Base64.encode (ed25519Blob key) ++ rest := by
      rw [List.dropWhile_append_of_pos spaces, is, List.cons_append, List.dropWhile_cons_of_neg]
      rw [(plain c (is ▸ List.mem_cons_self)).1]
      exact Bool.false_ne_true
    have token : (Base64.encode (ed25519Blob key) ++ rest).takeWhile (fun c => !endsToken c) =
        Base64.encode (ed25519Blob key) := by
      rw [List.takeWhile_append_of_pos fun c mem => by simp [(plain c mem).2.1]]
      cases rest with
      | nil => simp
      | cons d rest => rw [List.takeWhile_cons_of_neg (by simp [ended d rfl]), List.append_nil]
    obtain ⟨b, more, rfl⟩ := List.exists_cons_of_ne_nil spaced
    obtain ⟨decoded, read, same⟩ := (decodeBlob_iff sized _).2 rfl
    rw [alg, List.take_left' length_algEd25519, List.drop_left' length_algEd25519, blob, token, read]
    rw [if_neg]
    · simpa using same
    · rw [not_or, not_not, Bool.not_eq_false]
      exact ⟨rfl, spaces b List.mem_cons_self⟩

theorem not_grants_nil : ¬ Grants key [] := by
  rintro ⟨indent, gap, rest, is, -⟩
  have := congrArg List.length is
  simp only [List.length_append, List.length_nil, length_algEd25519] at this
  omega

theorem blank_plain {c : UInt8} (blank : isBlank c = true) : c ≠ 0 ∧ c ≠ 10 := by
  constructor
  · rintro rfl
    cases blank
  · rintro rfl
    cases blank

/-- Up to the end of the token there is no end of a string or a line. -/
theorem stem_plain {indent gap : List UInt8} (indented : ∀ c ∈ indent, isBlank c = true)
    (spaces : ∀ c ∈ gap, isBlank c = true) :
    ∀ c ∈ indent ++ algEd25519 ++ gap ++ Base64.encode (ed25519Blob key), c ≠ 0 ∧ c ≠ 10 := by
  have name : ∀ c ∈ algEd25519, c ≠ 0 ∧ c ≠ 10 := fun c member => by
    have plain : algEd25519.all (fun c => c ≠ 0 ∧ c ≠ 10) = true := by decide
    simpa using List.all_eq_true.1 plain c member
  intro c mem
  simp only [List.mem_append] at mem
  rcases mem with ((mem | mem) | mem) | mem
  · exact blank_plain (indented c mem)
  · exact name c mem
  · exact blank_plain (spaces c mem)
  · exact (keyText_plain key c mem).2.2

/-- The end of a line does not matter to what it grants. -/
theorem grants_line : Grants key (line ++ [10]) ↔ Grants key line := by
  constructor
  · rintro ⟨indent, gap, rest, is, indented, spaces, spaced, ended⟩
    rcases List.eq_nil_or_concat' rest with rfl | ⟨rest, d, rfl⟩
    · have mem : 10 ∈ line ++ [10] := List.mem_append_right _ List.mem_cons_self
      rw [is, List.append_nil] at mem
      exact absurd rfl (stem_plain indented spaces 10 mem).2
    · rw [← List.append_assoc] at is
      obtain ⟨rfl, -⟩ := List.append_inj' is rfl
      refine ⟨indent, gap, rest, rfl, indented, spaces, spaced, ?_⟩
      cases rest with
      | nil => nofun
      | cons e rest => exact ended
  · rintro ⟨indent, gap, rest, rfl, indented, spaces, spaced, ended⟩
    refine ⟨indent, gap, rest ++ [10], by simp only [List.append_assoc], indented, spaces, spaced, ?_⟩
    cases rest with
    | nil =>
        rintro c ⟨⟩
        rfl
    | cons d rest => exact ended

/-- A zero byte before it hides it altogether. -/
theorem cString_line : Grants key (cString (line ++ [10])) ↔ Grants key (cString line) := by
  rw [cString, cString, List.takeWhile_append]
  split
  · rename_i all
    rw [(List.takeWhile_prefix _).eq_of_length all]
    exact grants_line
  · exact Iff.rfl

end Grants

/-! ## What a file grants -/

section Files

variable {machine : Machine} {username key text line : List UInt8}

theorem keyLoop_iff (key : Option (List UInt8)) (turns : Nat) (text : List UInt8) :
    keyLoop key turns text = true ↔ ∃ buffer ∈ buffers 10 8191 turns text, authorizes key buffer = true := by
  induction turns generalizing text with
  | zero => simp [keyLoop, buffers]
  | succ turns ih =>
      rw [keyLoop, buffers]
      cases readLine 10 8191 text with
      | none => simp
      | some next =>
          obtain ⟨buffer, rest⟩ := next
          dsimp only
          rw [List.exists_mem_cons_iff, ← ih]
          cases authorizes key buffer <;> simp

/-- The keys of a file are those of the C strings in the pieces of its lines. -/
theorem authorized_iff_piece (sized : key.length = 32) (checked : authorizedKeysText machine username = some text) :
    authorizedEd25519 machine username key = true ↔
      ∃ line ∈ text.splitOn 10, ∃ piece, Piece 8191 line piece ∧ Grants key (cString piece) := by
  rw [authorizedEd25519, authorizedUserKey, checked]
  dsimp only
  rw [keyLoop_iff]
  simp only [authorizes_iff sized]
  exact exists_buffer_iff (P := fun buffer => Grants key (cString buffer)) (by decide) (fun _ _ => cString_line)
    not_grants_nil _ _ (Nat.le_succ _)

/-- No buffer ends between the last blank before the name and the end of the token. -/
def Unbroken (line : List UInt8) : Prop :=
  let indent := (line.takeWhile isBlank).length
  let gap := ((line.drop (indent + 11)).takeWhile isBlank).length
  indent / 8191 = (indent + gap + 78) / 8191

/-- The numbers of blanks are those before the name and before the token. -/
theorem unbroken_iff {indent gap rest : List UInt8} (sized : key.length = 32) (indented : ∀ c ∈ indent, isBlank c = true)
    (spaces : ∀ c ∈ gap, isBlank c = true) :
    Unbroken (indent ++ algEd25519 ++ gap ++ Base64.encode (ed25519Blob key) ++ rest) ↔
      indent.length / 8191 = (indent.length + gap.length + 78) / 8191 := by
  have before : (indent ++ algEd25519 ++ gap ++ Base64.encode (ed25519Blob key) ++ rest).takeWhile isBlank = indent := by
    simp only [List.append_assoc]
    rw [List.takeWhile_append_of_pos indented]
    exact List.append_nil indent
  obtain ⟨c, text, is⟩ : ∃ c text, Base64.encode (ed25519Blob key) = c :: text :=
    List.exists_cons_of_length_pos (by rw [length_keyText sized]; decide)
  have between : ((indent ++ algEd25519 ++ gap ++ Base64.encode (ed25519Blob key) ++ rest).drop
      (indent.length + 11)).takeWhile isBlank = gap := by
    have named : (indent ++ algEd25519).length = indent.length + 11 := by rw [List.length_append, length_algEd25519]
    rw [List.append_assoc, List.append_assoc, List.drop_left' named, is, List.takeWhile_append_of_pos spaces,
      List.cons_append, List.takeWhile_cons_of_neg, List.append_nil]
    rw [(keyText_plain key c (is ▸ List.mem_cons_self)).1]
    exact Bool.false_ne_true
  rw [Unbroken, before, between]

/-- A line that is unbroken is read, wherever it stands. -/
theorem unbroken_read (sized : key.length = 32) (grants : Grants key line) (unbroken : Unbroken line) :
    ∃ piece, Piece 8191 line piece ∧ Grants key (cString piece) := by
  obtain ⟨indent, gap, rest, rfl, indented, spaces, spaced, ended⟩ := grants
  have inside := (unbroken_iff sized indented spaces).1 unbroken
  obtain ⟨k, start⟩ : ∃ k, k = indent.length / 8191 * 8191 := ⟨_, rfl⟩
  -- the piece: what is left of the blanks, the stem, and some of the rest
  have fewer : ∀ c ∈ indent.drop k, isBlank c = true := fun c mem => indented c (List.mem_of_mem_drop mem)
  obtain ⟨stem, isStem⟩ : ∃ stem, stem = indent.drop k ++ algEd25519 ++ gap ++ Base64.encode (ed25519Blob key) := ⟨_, rfl⟩
  have fits : stem.length ≤ 8191 := by
    rw [isStem]
    simp only [List.length_append, List.length_drop, length_algEd25519, length_keyText sized]
    omega
  have dropped : (indent ++ algEd25519 ++ gap ++ Base64.encode (ed25519Blob key) ++ rest).drop k = stem ++ rest := by
    rw [isStem]
    simp only [List.append_assoc]
    rw [List.drop_append_of_le_length (by omega)]
  have taken : (stem ++ rest).take 8191 = stem ++ rest.take (8191 - stem.length) := by
    rw [List.take_append, List.take_of_length_le fits]
  have seen : cString (stem ++ rest.take (8191 - stem.length)) = stem ++ cString (rest.take (8191 - stem.length)) := by
    rw [cString, List.takeWhile_append_of_pos]
    · rfl
    · intro c mem
      rw [isStem] at mem
      simpa using (stem_plain fewer spaces c mem).1
  refine ⟨stem ++ rest.take (8191 - stem.length), ⟨indent.length / 8191, ?_, by rw [← start, dropped, taken]⟩, ?_⟩
  · simp only [List.length_append, length_algEd25519]
    omega
  · rw [seen]
    refine ⟨indent.drop k, gap, _, by rw [isStem], fewer, spaces, spaced, ?_⟩
    intro c head
    rw [← isStem] at head
    cases rest with
    | nil => simp [cString] at head
    | cons d rest =>
        cases room : 8191 - stem.length with
        | zero =>
            rw [room] at head
            cases head
        | succ m =>
            rw [room, List.take_succ_cons, cString, List.takeWhile_cons] at head
            split at head
            · obtain rfl := Option.some.inj head
              exact ended d rfl
            · cases head

/-- A piece of the line is taken for a line that grants the key, and not rightly: the line
itself does not, or a buffer breaks it. -/
def Stray (key line : List UInt8) : Prop :=
  ¬ (Grants key line ∧ Unbroken line) ∧ ∃ piece, Piece 8191 line piece ∧ Grants key (cString piece)

/-- **`authorized_keys` is read line by line only as far as the buffer goes.**  A key is
accepted exactly if a line grants it, if and only if some line that grants it is unbroken,
or else a broken line that grants it and a stray piece that seems to come together. -/
theorem authorized_by_line_iff (machine : Machine) (username key text : List UInt8) (sized : key.length = 32)
    (checked : authorizedKeysText machine username = some text) :
    (authorizedEd25519 machine username key = true ↔ ∃ line ∈ text.splitOn 10, Grants key line) ↔
      (∃ line ∈ text.splitOn 10, Grants key line ∧ Unbroken line) ∨
      ((∃ line ∈ text.splitOn 10, Grants key line ∧ ¬ Unbroken line) ↔ ∃ line ∈ text.splitOn 10, Stray key line) := by
  have code : authorizedEd25519 machine username key = true ↔
      (∃ line ∈ text.splitOn 10, Grants key line ∧ Unbroken line) ∨ ∃ line ∈ text.splitOn 10, Stray key line := by
    rw [authorized_iff_piece sized checked]
    constructor
    · rintro ⟨line, mem, read⟩
      by_cases rightly : Grants key line ∧ Unbroken line
      · exact .inl ⟨line, mem, rightly⟩
      · exact .inr ⟨line, mem, rightly, read⟩
    · rintro (⟨line, mem, grants, unbroken⟩ | ⟨line, mem, -, read⟩)
      · exact ⟨line, mem, unbroken_read sized grants unbroken⟩
      · exact ⟨line, mem, read⟩
  have lines : (∃ line ∈ text.splitOn 10, Grants key line) ↔
      (∃ line ∈ text.splitOn 10, Grants key line ∧ Unbroken line) ∨
        ∃ line ∈ text.splitOn 10, Grants key line ∧ ¬ Unbroken line := by
    constructor
    · rintro ⟨line, mem, grants⟩
      by_cases unbroken : Unbroken line
      · exact .inl ⟨line, mem, grants, unbroken⟩
      · exact .inr ⟨line, mem, grants, unbroken⟩
    · rintro (⟨line, mem, grants, -⟩ | ⟨line, mem, grants, -⟩) <;> exact ⟨line, mem, grants⟩
  rw [code, lines]
  by_cases plain : ∃ line ∈ text.splitOn 10, Grants key line ∧ Unbroken line
  · simp only [plain, true_or]
  · simp only [plain, false_or]
    exact iff_comm

/-- With lines no longer than a buffer and no zero byte it is read line by line. -/
theorem authorized_of_short_lines (sized : key.length = 32) (checked : authorizedKeysText machine username = some text)
    (short : ∀ line ∈ text.splitOn 10, line.length ≤ 8191) (clean : ∀ line ∈ text.splitOn 10, 0 ∉ line) :
    authorizedEd25519 machine username key = true ↔ ∃ line ∈ text.splitOn 10, Grants key line := by
  rw [authorized_iff_piece sized checked]
  have own : ∀ line ∈ text.splitOn 10, (∃ piece, Piece 8191 line piece ∧ Grants key (cString piece)) ↔ Grants key line := by
    intro line mem
    have whole : cString line = line := by
      rw [cString, List.takeWhile_eq_self_iff]
      intro c inside
      simpa using fun is : c = 0 => clean line mem (is ▸ inside)
    simp only [piece_short (short line mem)]
    constructor
    · rintro ⟨piece, ⟨-, rfl⟩, grants⟩
      rwa [whole] at grants
    · intro grants
      refine ⟨line, ⟨?_, rfl⟩, by rwa [whole]⟩
      rintro rfl
      exact not_grants_nil grants
  constructor
  · rintro ⟨line, mem, read⟩
    exact ⟨line, mem, (own line mem).1 read⟩
  · rintro ⟨line, mem, grants⟩
    exact ⟨line, mem, (own line mem).2 grants⟩

end Files

/-! ## A comment that grants a key -/

namespace Sample

/-- A machine with one account, whose files are in order and whose keys are `text`. -/
def machine (text : List UInt8) : Machine where
  getpwnam _ := some ⟨1000, ascii "/home/user", ascii "/bin/sh"⟩
  stat _ := some ⟨true, false, false, 1000, 4096⟩
  lstat _ := some ⟨true, false, false, 1000, 4096⟩
  openRead _ := some ⟨some ⟨false, true, false, 1000, text.length⟩, true, text⟩

theorem machine_text {text : List UInt8} (small : text.length ≤ 65536) :
    authorizedKeysText (machine text) (ascii "user") = some text := by
  have account : usableAccount (machine text) (ascii "user") = some ⟨1000, ascii "/home/user", ascii "/bin/sh"⟩ := by
    rfl
  rw [authorizedKeysText, account]
  simp [machine, FileStat.trusted, small, guard]

/-- The line for a key of zeros. -/
def keyLine : List UInt8 := algEd25519 ++ [32] ++ Base64.encode (ed25519Blob (zeros 32))

theorem grants_keyLine : Grants (zeros 32) keyLine :=
  ⟨[], [32], [], by rw [List.append_nil]; rfl, by simp, by simp [isBlank], by simp, by simp⟩

/-- A comment of a buffer's length, and the line in it. -/
def comment : List UInt8 := List.replicate 8191 35 ++ keyLine

end Sample

theorem authorized_by_line_sample :
    (authorizedEd25519 (Sample.machine Sample.keyLine) (ascii "user") (zeros 32) = true ↔
      ∃ line ∈ Sample.keyLine.splitOn 10, Grants (zeros 32) line) ↔
      (∃ line ∈ Sample.keyLine.splitOn 10, Grants (zeros 32) line ∧ Unbroken line) ∨
      ((∃ line ∈ Sample.keyLine.splitOn 10, Grants (zeros 32) line ∧ ¬ Unbroken line) ↔
        ∃ line ∈ Sample.keyLine.splitOn 10, Stray (zeros 32) line) :=
  authorized_by_line_iff _ _ _ _ (by decide) (Sample.machine_text (by decide))

/-- The second buffer of the comment is taken for a line. -/
theorem comment_authorizes :
    ¬ ∀ (machine : Machine) (username key text : List UInt8), key.length = 32 → text.length ≤ 65536 →
      authorizedKeysText machine username = some text →
      (authorizedEd25519 machine username key = true ↔ ∃ line ∈ text.splitOn 10, Grants key line) := by
  intro byLine
  have size : Sample.keyLine.length = 80 := by decide
  have small : Sample.comment.length ≤ 65536 := by
    rw [Sample.comment, List.length_append, List.length_replicate, size]
    decide
  have fresh : 10 ∉ Sample.comment := by
    rw [Sample.comment, List.mem_append, List.mem_replicate]
    rintro (⟨-, is⟩ | mem)
    · cases is
    · revert mem
      decide
  have oneLine : Sample.comment.splitOn 10 = [Sample.comment] := List.splitOn_eq_singleton fresh
  have accepted : authorizedEd25519 (Sample.machine Sample.comment) (ascii "user") (zeros 32) = true := by
    rw [authorized_iff_piece (by decide) (Sample.machine_text small), oneLine]
    refine ⟨_, List.mem_singleton.2 rfl, Sample.keyLine, ⟨1, ?_, ?_⟩, ?_⟩
    · rw [Sample.comment, List.length_append, List.length_replicate, size]
      decide
    · rw [Sample.comment, Nat.one_mul, List.drop_left' List.length_replicate, List.take_of_length_le (by rw [size]; decide)]
    · have whole : cString Sample.keyLine = Sample.keyLine := by decide
      rw [whole]
      exact Sample.grants_keyLine
  have line := (byLine _ _ _ _ (by decide) small (Sample.machine_text small)).1 accepted
  rw [oneLine] at line
  obtain ⟨_, mem, indent, gap, rest, is, indented, -⟩ := line
  rw [List.mem_singleton.1 mem, Sample.comment, List.replicate_succ] at is
  cases indent with
  | nil => cases is
  | cons c indent =>
      obtain ⟨rfl, -⟩ := List.cons.inj is
      cases indented 35 List.mem_cons_self

end NoxSsh.Daemon
