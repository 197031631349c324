/-
# Daemon.HostSeed — the persistent host seed

`host_seed` reads the 32-byte seed from its file, or makes a new one and writes it to a
file it creates.  Around it are the system calls, and each answers as it likes: a
transfer moves some of the bytes, is interrupted or fails; an `openat` may fail with
any code.  What cannot happen is what the kernel rules out: a file that is not there is
not opened, and with `O_EXCL` one that is there is not created.

The world is one directory entry, the one the path names, and nobody else touches it.
`goto out` is a failure; `goto remove_created` is a failure that `createSeed` catches.
-/
import NoxSsh.Theory.Proc
import NoxSsh.Wire.Payload

namespace NoxSsh.Daemon

open Theory Proc Wire

set_option autoImplicit false

/-! ## The file system -/

/-- What `fstat` shows of the parent directory: `S_ISDIR`, no `022` bits, the caller's own. -/
structure Directory where
  isDirectory : Bool
  guarded : Bool
  owned : Bool
  deriving DecidableEq, Repr

/-- The entry the path names: `S_ISREG`, the caller's own, no `077` bits, and its bytes. -/
structure File where
  regular : Bool
  owned : Bool
  guarded : Bool
  bytes : List UInt8
  deriving DecidableEq, Repr

inductive Errno where
  | enoent
  | eexist
  | other
  deriving DecidableEq, Repr

/-- What `read` and `write` answer: a number of bytes at most, `EINTR`, another error. -/
inductive Transfer where
  | moved (upTo : Nat)
  | interrupted
  | failed
  deriving DecidableEq, Repr

inductive Random where
  | bytes (bytes : List UInt8)
  | interrupted
  | failed
  deriving DecidableEq, Repr

/-- The answers of the kernel, each call being told how many there were before it. -/
structure Kernel where
  openParent : Nat → List UInt8 → Bool
  fstat : Nat → Bool
  /-- An error, or what the entry allows. -/
  openat : Nat → List UInt8 → Option Errno
  /-- What a new file looks like to `fstat`. -/
  created : Nat → Bool × Bool × Bool
  getrandom : Nat → Random
  write : Nat → Transfer
  read : Nat → Transfer
  fsync : Nat → Bool
  close : Nat → Bool
  unlinkat : Nat → Bool

/-- What a call did with the file. -/
inductive Deed where
  | created
  | wrote (bytes : List UInt8)
  | synced (done : Bool)
  | closed (done : Bool)
  | unlinked (done : Bool)
  deriving DecidableEq, Repr

/-- The entry, the caller's buffer, which descriptors are open, and the deeds so far. -/
structure World where
  directory : Directory
  file : Option File
  seed : List UInt8
  fdOpen : Bool
  parentOpen : Bool
  tick : Nat
  deeds : List Deed
  deriving DecidableEq, Repr

/-- A part of `host_seed`; a failure of it is a `goto`. -/
abbrev Part (α : Type) := Proc Unit World α

section Primitives

variable {α : Type}

/-- A system call. -/
def call (answers : Nat → α) : Part α := ⟨fun w => (.ok (answers w.tick), { w with tick := w.tick + 1 })⟩

def note (deed : Deed) : Part Unit := update fun w => { w with deeds := w.deeds ++ [deed] }

def setFd (isOpen : Bool) : Part Unit := update fun w => { w with fdOpen := isOpen }

def setParent (isOpen : Bool) : Part Unit := update fun w => { w with parentOpen := isOpen }

def setFile (file : Option File) : Part Unit := update fun w => { w with file := file }

/-- `bytes` at `pos` of the buffer. -/
def splice (pos : Nat) (bytes seed : List UInt8) : List UInt8 :=
  seed.take pos ++ bytes ++ seed.drop (pos + bytes.length)

def store (pos : Nat) (bytes : List UInt8) : Part Unit := update fun w => { w with seed := splice pos bytes w.seed }

end Primitives

/-! ## The path -/

/-- Trailing slashes of a reversed path, but for the first character of it. -/
def trimSlashes : List UInt8 → List UInt8
  | [] => []
  | [c] => [c]
  | c :: d :: rest => if c = 47 then trimSlashes (d :: rest) else c :: d :: rest

/-- The parent directory and the final component, if `host_seed` takes the path. -/
def seedPath (path : List UInt8) : Option (List UInt8 × List UInt8) :=
  let name := (path.reverse.takeWhile (· ≠ 47)).reverse
  let slash := path.length - (name.length + 1)
  if 47 ∉ path ∨ slash ≥ 4096 ∨ slash = 0 then none
  else if name = [] ∨ name = ascii "." ∨ name = ascii ".." then none
  else some ((trimSlashes (path.take slash).reverse).reverse, name)

section Functions

variable (kernel : Kernel)

/-! ## The functions -/

/-- The loop of `random_seed`. -/
def randomSeed : Nat → Nat → Part Unit
  | 0, _ => stall
  | turns + 1, pos =>
      if pos < 32 then do
        match ← call kernel.getrandom with
        | .bytes bytes =>
            let got := bytes.take (32 - pos)
            if got = [] then fail ()
            else do
              store pos got
              randomSeed turns (pos + got.length)
        | .interrupted => randomSeed turns pos
        | .failed => fail ()
      else pure ()

/-- The open and the check of the parent directory. -/
def openParent (parent : List UInt8) : Part Unit := do
  let opened ← call fun t => kernel.openParent t parent
  ensure (opened = true) ()
  setParent true
  let seen ← call kernel.fstat
  let w ← state
  ensure (seen = true ∧ w.directory.isDirectory = true ∧ w.directory.guarded = true ∧ w.directory.owned = true) ()

/-- `openat` for reading: the code of a failure, or the descriptor is open. -/
def openRead (name : List UInt8) : Part (Option Errno) := do
  match ← call fun t => kernel.openat t name with
  | some e => pure (some e)
  | none => do
      match (← state).file with
      | none => pure (some .enoent)
      | some _ => do
          setFd true
          pure none

/-- `openat` with `O_CREAT | O_EXCL`. -/
def openExclusive (name : List UInt8) : Part (Option Errno) := do
  match ← call fun t => kernel.openat t name with
  | some e => pure (some e)
  | none => do
      match (← state).file with
      | some _ => pure (some .eexist)
      | none => do
          let (regular, owned, guarded) ← call kernel.created
          setFile (some ⟨regular, owned, guarded, []⟩)
          note .created
          setFd true
          pure none

/-- What `fstat` must show of the seed file. -/
def Fits (size : Nat) (f : File) : Prop :=
  f.regular = true ∧ f.owned = true ∧ f.guarded = true ∧ f.bytes.length = size

instance (size : Nat) (f : File) : Decidable (Fits size f) := inferInstanceAs (Decidable (_ ∧ _))

/-- The check of the open file. -/
def checkFile (size : Nat) : Part File := do
  let seen ← call kernel.fstat
  ensure (seen = true) ()
  let f ← lift () (← state).file
  ensure (Fits size f) ()
  pure f

/-- The loop that writes the seed. -/
def writeSeed : Nat → Nat → Part Unit
  | 0, _ => stall
  | turns + 1, pos =>
      if pos < 32 then do
        match ← call kernel.write with
        | .moved upTo => do
            let w ← state
            let written := (w.seed.drop pos).take (min upTo (32 - pos))
            if written = [] then fail ()
            else do
              setFile (w.file.map fun f => { f with bytes := f.bytes ++ written })
              note (.wrote written)
              writeSeed turns (pos + written.length)
        | .interrupted => writeSeed turns pos
        | .failed => fail ()
      else pure ()

/-- From the creation of the file to its `close`. -/
def fillFile (turns : Nat) : Part Unit := do
  let _ ← checkFile kernel 0
  writeSeed kernel turns 0
  let synced ← call kernel.fsync
  note (.synced synced)
  let closed ← call kernel.close
  note (.closed closed)
  setFd false
  ensure (synced = true ∧ closed = true) ()

/-- `close` of a descriptor that may be open; false if it failed. -/
def closeFile : Part Bool := do
  if (← state).fdOpen then do
    let closed ← call kernel.close
    note (.closed closed)
    setFd false
    pure closed
  else pure true

def closeParent : Part Bool := do
  if (← state).parentOpen then do
    let closed ← call kernel.close
    setParent false
    pure closed
  else pure true

/-- `remove_created`. -/
def removeCreated : Part Unit := do
  let _ ← closeFile kernel
  let done ← call kernel.unlinkat
  note (.unlinked done)
  if done then setFile none else pure ()

/-- A new seed in a new file, or false if somebody else has made the file. -/
def createSeed (turns : Nat) (name : List UInt8) : Part Bool := do
  randomSeed kernel turns 0
  match ← openExclusive kernel name with
  | none => do
      match ← attempt (fillFile kernel turns) with
      | none => do
          removeCreated kernel
          fail ()
      | some () => do
          -- a complete seed is kept even if the directory cannot be synced
          let synced ← call kernel.fsync
          ensure (synced = true) ()
          pure true
  | some .eexist => pure false
  | some _ => fail ()

/-- The loop that reads the seed. -/
def readSeed (f : File) : Nat → Nat → Part Unit
  | 0, _ => stall
  | turns + 1, pos =>
      if pos < 32 then do
        match ← call kernel.read with
        | .moved upTo =>
            let got := (f.bytes.drop pos).take (min upTo (32 - pos))
            if got = [] then fail ()
            else do
              store pos got
              readSeed f turns (pos + got.length)
        | .interrupted => readSeed f turns pos
        | .failed => fail ()
      else pure ()

/-- The read behind the seed, which must find the end of the file. -/
def readEnd (f : File) : Part Unit := do
  match ← call kernel.read with
  | .moved upTo => ensure ((f.bytes.drop 32).take (min upTo 1) = []) ()
  | .interrupted => fail ()
  | .failed => fail ()

/-- The file is opened for reading unless it is open already. -/
def reopen (name : List UInt8) : Part (Option Errno) := do
  if (← state).fdOpen then pure none else openRead kernel name

/-- The seed of a file that is there. -/
def reuseSeed (turns : Nat) (name : List UInt8) : Part Unit := do
  let opened ← reopen kernel name
  ensure (opened = none) ()
  let f ← checkFile kernel 32
  readSeed kernel f turns 0
  readEnd kernel f

/-- `host_seed` up to its label `out`. -/
def obtainSeed (turns : Nat) (parent name : List UInt8) : Part Unit := do
  openParent kernel parent
  match ← openRead kernel name with
  | some .enoent => do
      let created ← createSeed kernel turns name
      if created then pure () else reuseSeed kernel turns name
  | _ => reuseSeed kernel turns name

/-- `host_seed`; each of its loops makes at most `turns` turns. -/
def hostSeed (turns : Nat) (path : List UInt8) : Part Int :=
  match seedPath path with
  | none => pure (-1)
  | some (parent, name) => do
      let done ← attempt (obtainSeed kernel turns parent name)
      let fileClosed ← closeFile kernel
      let parentClosed ← closeParent kernel
      if done = some () ∧ fileClosed = true ∧ parentClosed = true then pure 0
      else do
        update fun w => { w with seed := zeros 32 }
        pure (-1)

end Functions

end NoxSsh.Daemon
