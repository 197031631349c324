/-
# Daemon.Identity — the host identity does not change

Whatever the kernel answers, a call of `host_seed` leaves a file that was there as it
was, and a file it made itself is either complete and kept, or gone if it could be
removed (`hostSeed_spec`).  So once a call has returned a seed, the file holds it, and
every later call that returns one returns the same (`identity_stable`).
-/
import NoxSsh.Daemon.HostSeed

namespace NoxSsh.Daemon

open Theory Proc Wire

set_option autoImplicit false

/-! ## Deeds -/

def Deed.written : Deed → List UInt8
  | .wrote bytes => bytes
  | _ => []

/-- The bytes a call wrote to the file it made. -/
def written (deeds : List Deed) : List UInt8 := deeds.flatMap Deed.written

@[simp] theorem written_append (a b : List Deed) : written (a ++ b) = written a ++ written b := by
  simp [written]

@[simp] theorem written_single (deed : Deed) : written [deed] = deed.written := by
  simp [written]

/-- All 32 bytes were written, synced and closed. -/
def Completed (deeds : List Deed) : Prop :=
  (written deeds).length = 32 ∧ .synced true ∈ deeds ∧ .closed true ∈ deeds

instance (deeds : List Deed) : Decidable (Completed deeds) := inferInstanceAs (Decidable (_ ∧ _))

/-! ## What is known at each point -/

/-- The parent directory passes its check. -/
def Directory.Sound (d : Directory) : Prop := d.isDirectory = true ∧ d.guarded = true ∧ d.owned = true

/-- The call has made no file, and the entry is as it was. -/
structure Untouched (d : Directory) (before : Option File) (w : World) : Prop where
  directory : w.directory = d
  file : w.file = before
  seed : w.seed.length = 32
  deeds : w.deeds = []

/-- The buffer begins with the first `pos` bytes of the file that was there. -/
structure Reading (d : Directory) (f : File) (pos : Nat) (w : World) : Prop where
  untouched : Untouched d (some f) w
  read : w.seed.take pos = f.bytes.take pos

/-- The call has made a file, and has done nothing with it yet. -/
structure Created (d : Directory) (w : World) : Prop where
  directory : w.directory = d
  sound : d.Sound
  seed : w.seed.length = 32
  deeds : w.deeds = [.created]

/-- The call has made the file and written the first `pos` bytes of the seed to it. -/
structure Writing (d : Directory) (pos : Nat) (w : World) : Prop where
  directory : w.directory = d
  sound : d.Sound
  file : ∃ f, w.file = some f ∧ f.regular = true ∧ f.owned = true ∧ f.guarded = true ∧ f.bytes = w.seed.take pos
  seed : w.seed.length = 32
  created : .created ∈ w.deeds
  bytes : written w.deeds = w.seed.take pos
  unsynced : ∀ done, .synced done ∉ w.deeds
  unclosed : ∀ done, .closed done ∉ w.deeds

/-- The file the call made is complete. -/
structure Kept (d : Directory) (w : World) : Prop where
  directory : w.directory = d
  sound : d.Sound
  file : ∃ f, w.file = some f ∧ Fits 32 f ∧ f.bytes = written w.deeds
  seed : w.seed = written w.deeds
  created : .created ∈ w.deeds
  completed : Completed w.deeds

/-- The file the call made cannot become complete any more. -/
structure Spoilt (d : Directory) (w : World) : Prop where
  directory : w.directory = d
  seed : w.seed.length = 32
  created : .created ∈ w.deeds
  incomplete : (written w.deeds).length ≠ 32 ∨ .synced true ∉ w.deeds ∨ (.closed true ∉ w.deeds ∧ w.fdOpen = false)

/-- The incomplete file is gone, if it could be removed. -/
structure Removed (d : Directory) (w : World) : Prop where
  directory : w.directory = d
  seed : w.seed.length = 32
  created : .created ∈ w.deeds
  incomplete : ¬ Completed w.deeds
  closed : w.fdOpen = false
  gone : .unlinked false ∈ w.deeds ∨ w.file = none

theorem length_splice {pos : Nat} {bytes seed : List UInt8} (inside : pos + bytes.length ≤ seed.length) :
    (splice pos bytes seed).length = seed.length := by
  simp only [splice, List.length_append, List.length_take, List.length_drop]
  omega

theorem take_splice {pos : Nat} (bytes : List UInt8) {seed : List UInt8} (inside : pos ≤ seed.length) :
    (splice pos bytes seed).take (pos + bytes.length) = seed.take pos ++ bytes := by
  rw [splice, List.take_append_of_le_length (by simp; omega), List.take_of_length_le (by simp)]

section Rules

variable {α β : Type} {P : World → Prop} {Q : α → World → Prop} {E : Option Unit → World → Prop}

theorem triple_call {answers : Nat → α} (post : ∀ w, P w → ∀ a, Q a { w with tick := w.tick + 1 }) :
    Triple P (call answers) Q E := ⟨fun w holds => post w holds _⟩

/-- A call and what its answer leads to. -/
theorem triple_call_bind {answers : Nat → α} {k : α → Part β} {T : β → World → Prop}
    (same : ∀ w, P w → P { w with tick := w.tick + 1 }) (rest : ∀ a, Triple P (k a) T E) :
    Triple P (call answers >>= k) T E :=
  triple_bind (triple_call fun w holds _ => same w holds) rest

end Rules

/-! ## The entry is not touched -/

section Untouched

variable {d : Directory} {before : Option File} {w w' : World} {kernel : Kernel} {S : World → Prop}

theorem Untouched.keep (untouched : Untouched d before w) (directory : w'.directory = w.directory)
    (file : w'.file = w.file) (seed : w'.seed.length = w.seed.length) (deeds : w'.deeds = w.deeds) :
    Untouched d before w' where
  directory := directory.trans untouched.directory
  file := file.trans untouched.file
  seed := seed.trans untouched.seed
  deeds := deeds.trans untouched.deeds

theorem Untouched.tick {n : Nat} (untouched : Untouched d before w) : Untouched d before { w with tick := n } :=
  untouched.keep rfl rfl rfl rfl

/-- Bytes put into the buffer leave the entry alone. -/
theorem Untouched.store {pos : Nat} {bytes : List UInt8} (untouched : Untouched d before w)
    (inside : pos + bytes.length ≤ 32) : Untouched d before { w with seed := splice pos bytes w.seed } :=
  untouched.keep rfl rfl (length_splice (untouched.seed ▸ inside)) rfl

theorem randomSeed_untouched :
    ∀ turns pos, pos ≤ 32 → Stays (Untouched d before) (fun _ => True) (randomSeed kernel turns pos) := by
  intro turns
  induction turns with
  | zero => exact fun pos _ => stays_stall fun _ _ => trivial
  | succ turns ih =>
      intro pos inside
      rw [randomSeed]
      apply triple_ite _ fun _ => stays_pure ()
      intro more
      apply triple_call_bind fun _ untouched => untouched.tick
      intro answer
      cases answer with
      | bytes bytes =>
          have short : (bytes.take (32 - pos)).length ≤ 32 - pos := List.length_take_le _ _
          apply stays_ite (stays_fail ())
          apply stays_bind
          · apply triple_update
            intro w untouched
            exact untouched.store (by omega)
          · exact fun _ => ih _ (by omega)
      | interrupted => exact ih pos inside
      | failed => exact stays_fail ()

theorem openParent_untouched (parent : List UInt8) :
    Triple (Untouched d before) (openParent kernel parent) (fun _ w => Untouched d before w ∧ d.Sound)
      (Breaks (Untouched d before) fun _ => True) := by
  rw [openParent]
  apply triple_call_bind fun _ untouched => untouched.tick
  intro opened
  apply stays_ensure_bind
  intro _
  apply triple_bind (Q := fun _ => Untouched d before)
  · apply triple_update
    exact fun w untouched => untouched.keep rfl rfl rfl rfl
  · intro _
    apply triple_call_bind fun _ untouched => untouched.tick
    intro seen
    apply triple_state_bind
    intro w untouched
    apply triple_ensure ()
    · exact fun w' is => is ▸ untouched
    · exact fun ⟨_, sound⟩ w' is => ⟨is ▸ untouched, untouched.directory ▸ sound⟩

theorem openRead_untouched (name : List UInt8) :
    Stays (Untouched d before) (fun _ => True) (openRead kernel name) := by
  rw [openRead]
  apply triple_call_bind fun _ untouched => untouched.tick
  intro answer
  cases answer with
  | some e => exact stays_pure (some e)
  | none =>
      apply triple_state_bind
      intro w untouched
      cases w.file with
      | none => exact triple_pure _ fun w' is => is ▸ untouched
      | some f =>
          apply triple_bind (Q := fun _ => Untouched d before)
          · apply triple_update
            exact fun w' is => is ▸ untouched.keep rfl rfl rfl rfl
          · exact fun _ => stays_pure none

/-- The file that passed its check is the one that is there. -/
theorem checkFile_spec {P : World → Prop} (same : ∀ w, P w → P { w with tick := w.tick + 1 }) (size : Nat) :
    Triple P (checkFile kernel size) (fun f w => P w ∧ w.file = some f ∧ Fits size f) (Breaks P fun _ => True) := by
  rw [checkFile]
  apply triple_call_bind same
  intro seen
  apply stays_ensure_bind
  intro _
  apply triple_state_bind
  intro w holds
  apply triple_lift_bind
  · exact fun w' is => is ▸ holds
  · intro f there
    apply triple_ensure_bind
    · exact fun w' is => is ▸ holds
    · intro fits
      apply triple_pure
      intro w' is
      subst is
      exact ⟨holds, there, fits⟩

/-! ### The seed of a file that is there -/

theorem readSeed_reading {f : File} (size : f.bytes.length = 32) :
    ∀ turns pos, pos ≤ 32 → Triple (Reading d f pos) (readSeed kernel f turns pos) (fun _ => Reading d f 32)
      (Breaks (Untouched d (some f)) fun _ => True) := by
  intro turns
  induction turns with
  | zero => exact fun pos _ => triple_stall fun _ _ => trivial
  | succ turns ih =>
      intro pos inside
      rw [readSeed]
      apply triple_ite
      · intro more
        apply triple_call_bind fun _ reading => ⟨reading.untouched.tick, reading.read⟩
        intro answer
        cases answer with
        | moved upTo =>
            have got : ((f.bytes.drop pos).take (min upTo (32 - pos))).length = min upTo (32 - pos) := by
              simp only [List.length_take, List.length_drop, size]
              omega
            apply triple_ite
            · exact fun _ => triple_fail () fun _ reading => reading.untouched
            · intro _
              apply triple_bind (Q := fun _ => Reading d f (pos + min upTo (32 - pos)))
              · apply triple_update
                intro w reading
                refine ⟨reading.untouched.store (by omega), ?_⟩
                have spliced := take_splice ((f.bytes.drop pos).take (min upTo (32 - pos)))
                  (reading.untouched.seed ▸ inside)
                rw [got] at spliced
                rw [spliced, reading.read, List.take_add]
              · intro _
                rw [got]
                exact ih _ (by omega)
        | interrupted => exact ih pos inside
        | failed => exact triple_fail () fun _ reading => reading.untouched
      · intro full
        have all : pos = 32 := by omega
        exact triple_pure () fun w reading => all ▸ reading

theorem readEnd_reading {f : File} :
    Triple (Reading d f 32) (readEnd kernel f) (fun _ => Reading d f 32) (Breaks (Untouched d (some f)) fun _ => True) := by
  have weaker : ∀ w, Reading d f 32 w → Untouched d (some f) w := fun _ reading => reading.untouched
  rw [readEnd]
  apply triple_call_bind fun _ reading => ⟨reading.untouched.tick, reading.read⟩
  intro answer
  cases answer with
  | moved upTo => exact triple_ensure () weaker fun _ _ => id
  | interrupted => exact triple_fail () weaker
  | failed => exact triple_fail () weaker

/-- The call has the seed of the file that was there. -/
def Reused (d : Directory) (before : Option File) (w : World) : Prop :=
  Untouched d before w ∧ ∃ f, before = some f ∧ Fits 32 f ∧ w.seed = f.bytes

theorem Reading.reused {f : File} (reading : Reading d f 32 w) (fits : Fits 32 f) : Reused d (some f) w := by
  have read := reading.read
  rw [List.take_of_length_le (by rw [reading.untouched.seed]), List.take_of_length_le (by rw [fits.2.2.2])] at read
  exact ⟨reading.untouched, f, rfl, fits, read⟩

theorem reopen_untouched (name : List UInt8) : Stays (Untouched d before) (fun _ => True) (reopen kernel name) := by
  rw [reopen]
  apply triple_bind (Q := fun _ => Untouched d before)
  · exact ⟨fun w untouched => untouched⟩
  · exact fun w => stays_ite (stays_pure none) (openRead_untouched name)

theorem reuseSeed_reused (turns : Nat) (name : List UInt8) :
    Triple (Untouched d before) (reuseSeed kernel turns name) (fun _ => Reused d before)
      (Breaks (Untouched d before) fun _ => True) := by
  rw [reuseSeed]
  apply triple_bind (reopen_untouched name)
  intro opened
  apply stays_ensure_bind
  intro _
  apply triple_bind (checkFile_spec (fun _ untouched => untouched.tick) 32)
  intro f
  constructor
  intro w known
  obtain ⟨untouched, there, fits⟩ := known
  have is : before = some f := untouched.file.symm.trans there
  subst is
  apply Triple.ends _ w (show Reading d f 0 w from ⟨untouched, rfl⟩)
  apply triple_bind (readSeed_reading fits.2.2.2 turns 0 (by omega))
  intro _
  exact readEnd_reading.mono (fun _ => id) (fun _ _ reading => reading.reused fits) fun _ _ => id

end Untouched

/-! ## A file of the call's own -/

section Made

variable {d : Directory} {before : Option File} {w w' : World} {kernel : Kernel}

theorem Writing.keep {pos : Nat} (writing : Writing d pos w) (directory : w'.directory = w.directory)
    (file : w'.file = w.file) (seed : w'.seed = w.seed) (deeds : w'.deeds = w.deeds) : Writing d pos w' where
  directory := directory.trans writing.directory
  sound := writing.sound
  file := by rw [file, seed]; exact writing.file
  seed := seed ▸ writing.seed
  created := deeds ▸ writing.created
  bytes := by rw [deeds, seed]; exact writing.bytes
  unsynced := deeds ▸ writing.unsynced
  unclosed := deeds ▸ writing.unclosed

theorem Writing.spoilt {pos : Nat} (writing : Writing d pos w) : Spoilt d w where
  directory := writing.directory
  seed := writing.seed
  created := writing.created
  incomplete := .inr (.inl (writing.unsynced true))

/-- The next bytes of the seed are in the file. -/
theorem Writing.wrote {pos n : Nat} (writing : Writing d pos w) :
    Writing d (pos + n) { w with
      file := w.file.map fun f => { f with bytes := f.bytes ++ (w.seed.drop pos).take n },
      deeds := w.deeds ++ [.wrote ((w.seed.drop pos).take n)] } where
  directory := writing.directory
  sound := writing.sound
  file := by
    obtain ⟨f, there, regular, owned, guarded, bytes⟩ := writing.file
    simp only [there, Option.map_some]
    exact ⟨_, rfl, regular, owned, guarded, by rw [bytes, ← List.take_add]⟩
  seed := writing.seed
  created := List.mem_append_left _ writing.created
  bytes := by
    rw [written_append, written_single, writing.bytes, List.take_add]
    rfl
  unsynced := fun done => by simpa using writing.unsynced done
  unclosed := fun done => by simpa using writing.unclosed done

theorem writeSeed_writing :
    ∀ turns pos, pos ≤ 32 → Triple (Writing d pos) (writeSeed kernel turns pos) (fun _ => Writing d 32)
      (Breaks (Spoilt d) fun _ => True) := by
  intro turns
  induction turns with
  | zero => exact fun pos _ => triple_stall fun _ _ => trivial
  | succ turns ih =>
      intro pos inside
      rw [writeSeed]
      apply triple_ite
      · intro more
        apply triple_call_bind fun _ writing => writing.keep rfl rfl rfl rfl
        intro answer
        cases answer with
        | moved upTo =>
            apply triple_state_bind
            intro w writing
            have count : ((w.seed.drop pos).take (min upTo (32 - pos))).length = min upTo (32 - pos) := by
              simp only [List.length_take, List.length_drop, writing.seed]
              omega
            apply triple_ite
            · exact fun _ => triple_fail () fun w' is => is ▸ writing.spoilt
            · intro _
              constructor
              intro w' is
              subst is
              rw [setFile, note, update_bind_run, update_bind_run, count]
              exact (ih _ (by omega)).ends _ writing.wrote
        | interrupted => exact ih pos inside
        | failed => exact triple_fail () fun _ writing => writing.spoilt
      · intro full
        have all : pos = 32 := by omega
        exact triple_pure () fun w writing => all ▸ writing

/-- The whole seed is in the file, and the file was synced and closed. -/
theorem Writing.kept (writing : Writing d 32 w) {n : Nat} :
    Kept d { w with tick := n, deeds := w.deeds ++ [.synced true] ++ [.closed true], fdOpen := false } := by
  have all : w.seed.take 32 = w.seed := List.take_of_length_le (by rw [writing.seed])
  have done : written (w.deeds ++ [.synced true] ++ [.closed true]) = w.seed := by
    rw [written_append, written_append, writing.bytes, all]
    simp [Deed.written]
  obtain ⟨f, there, regular, owned, guarded, bytes⟩ := writing.file
  constructor
  · exact writing.directory
  · exact writing.sound
  · refine ⟨f, there, ⟨regular, owned, guarded, ?_⟩, ?_⟩
    · rw [bytes, all, writing.seed]
    · rw [done, bytes, all]
  · exact done.symm
  · simp [writing.created]
  · refine ⟨?_, ?_, ?_⟩
    · rw [done, writing.seed]
    · simp
    · simp

/-- The file was not synced or not closed. -/
theorem Writing.failed (writing : Writing d 32 w) {synced closed : Bool} (failed : ¬ (synced = true ∧ closed = true))
    {n : Nat} :
    Spoilt d { w with tick := n, deeds := w.deeds ++ [.synced synced] ++ [.closed closed], fdOpen := false } where
  directory := writing.directory
  seed := writing.seed
  created := by simp [writing.created]
  incomplete := by
    have unsynced := writing.unsynced true
    have unclosed := writing.unclosed true
    cases synced with
    | false => exact .inr (.inl (by simp [unsynced]))
    | true =>
        cases closed with
        | false => exact .inr (.inr ⟨by simp [unclosed], rfl⟩)
        | true => exact absurd ⟨rfl, rfl⟩ failed

theorem Created.tick {n : Nat} (created : Created d w) : Created d { w with tick := n } :=
  ⟨created.directory, created.sound, created.seed, created.deeds⟩

theorem Created.spoilt (created : Created d w) : Spoilt d w where
  directory := created.directory
  seed := created.seed
  created := by simp [created.deeds]
  incomplete := .inr (.inl (by simp [created.deeds]))

/-- The new file passed its check. -/
theorem Created.writing {f : File} (created : Created d w) (there : w.file = some f) (fits : Fits 0 f) :
    Writing d 0 w where
  directory := created.directory
  sound := created.sound
  file := ⟨f, there, fits.1, fits.2.1, fits.2.2.1, by simpa using fits.2.2.2⟩
  seed := created.seed
  created := by simp [created.deeds]
  bytes := by simp [created.deeds, Deed.written]
  unsynced := by simp [created.deeds]
  unclosed := by simp [created.deeds]

theorem fillFile_fills (turns : Nat) :
    Triple (Created d) (fillFile kernel turns) (fun _ => Kept d) (Breaks (Spoilt d) fun _ => True) := by
  rw [fillFile]
  apply triple_bind (Q := fun _ => Writing d 0)
  · apply (checkFile_spec (fun _ created => created.tick) 0).mono (fun _ => id)
    · exact fun f w ⟨created, there, fits⟩ => created.writing there fits
    · intro e w
      cases e with
      | none => exact id
      | some _ => exact Created.spoilt
  · intro _
    apply triple_bind (writeSeed_writing turns 0 (by omega))
    intro _
    constructor
    intro w writing
    show Post _ _ ((ensure (kernel.fsync w.tick = true ∧ kernel.close (w.tick + 1) = true) ()).run { w with
      tick := w.tick + 2,
      deeds := w.deeds ++ [Deed.synced (kernel.fsync w.tick)] ++ [Deed.closed (kernel.close (w.tick + 1))],
      fdOpen := false })
    by_cases done : kernel.fsync w.tick = true ∧ kernel.close (w.tick + 1) = true
    · rw [ensure, if_pos done, done.1, done.2]
      exact writing.kept
    · rw [ensure, if_neg done]
      exact writing.failed done

theorem Spoilt.removed (spoilt : Spoilt d w) (closed : w.fdOpen = false) (n : Nat) (done : Bool) :
    Removed d { w with tick := n, deeds := w.deeds ++ [.unlinked done], file := if done then none else w.file } where
  directory := spoilt.directory
  seed := spoilt.seed
  created := List.mem_append_left _ spoilt.created
  incomplete := by
    rintro ⟨all, synced, shut⟩
    rcases spoilt.incomplete with short | unsynced | ⟨unclosed, -⟩
    · exact short (by simpa [Deed.written] using all)
    · exact unsynced (by simpa using synced)
    · exact unclosed (by simpa using shut)
  closed := closed
  gone := by
    cases done with
    | false => exact .inl (by simp)
    | true => exact .inr rfl

theorem closeFile_spoilt {E : Option Unit → World → Prop} :
    Triple (Spoilt d) (closeFile kernel) (fun _ w => Spoilt d w ∧ w.fdOpen = false) E := by
  rw [closeFile]
  apply triple_state_bind
  intro w spoilt
  apply triple_ite
  · intro isOpen
    constructor
    intro w' is
    subst is
    refine ⟨⟨spoilt.directory, spoilt.seed, List.mem_append_left _ spoilt.created, ?_⟩, rfl⟩
    rcases spoilt.incomplete with short | unsynced | ⟨-, shut⟩
    · exact .inl (by simpa [Deed.written] using short)
    · exact .inr (.inl (by simpa using unsynced))
    · rw [shut] at isOpen
      cases isOpen
  · intro shut
    apply triple_pure
    intro w' is
    subst is
    exact ⟨spoilt, by simpa using shut⟩

theorem removeCreated_removes {E : Option Unit → World → Prop} :
    Triple (Spoilt d) (removeCreated kernel) (fun _ => Removed d) E := by
  rw [removeCreated]
  apply triple_bind closeFile_spoilt
  intro _
  constructor
  rintro w ⟨spoilt, shut⟩
  show Post _ _ ((if kernel.unlinkat w.tick then setFile none else pure ()).run { w with
    tick := w.tick + 1, deeds := w.deeds ++ [.unlinked (kernel.unlinkat w.tick)] })
  have removed := spoilt.removed shut (w.tick + 1) (kernel.unlinkat w.tick)
  cases done : kernel.unlinkat w.tick with
  | false =>
      rw [done] at removed
      exact removed
  | true =>
      rw [done] at removed
      exact removed

/-- `O_EXCL` makes a file only where there is none. -/
theorem openExclusive_created (sound : d.Sound) (name : List UInt8) :
    Triple (Untouched d before) (openExclusive kernel name)
      (fun e w => if e = none then before = none ∧ Created d w else Untouched d before w)
      (Breaks (Untouched d before) fun _ => True) := by
  rw [openExclusive]
  apply triple_call_bind fun _ untouched => untouched.tick
  intro answer
  cases answer with
  | some e => exact triple_pure _ fun w untouched => untouched
  | none =>
      apply triple_state_bind
      intro w untouched
      cases there : w.file with
      | some f => exact triple_pure _ fun w' is => is ▸ untouched
      | none =>
          constructor
          intro w' is
          subst is
          have absent : before = none := untouched.file.symm.trans there
          have quiet : w'.deeds ++ [Deed.created] = [.created] := by rw [untouched.deeds, List.nil_append]
          exact ⟨absent, untouched.directory, sound, untouched.seed, quiet⟩

/-- The call fails: the entry is as it was, or the file it made is complete, or gone. -/
def Missed (d : Directory) (before : Option File) (w : World) : Prop :=
  Untouched d before w ∨ before = none ∧ (Kept d w ∨ Removed d w)

theorem createSeed_creates (sound : d.Sound) (turns : Nat) (name : List UInt8) :
    Triple (Untouched d before) (createSeed kernel turns name)
      (fun made w => if made then before = none ∧ Kept d w else Untouched d before w)
      (Breaks (Missed d before) fun _ => True) := by
  rw [createSeed]
  apply triple_bind ((randomSeed_untouched turns 0 (by omega)).under fun _ => .inl)
  intro _
  apply triple_bind ((openExclusive_created sound name).under fun _ => .inl)
  intro e
  match e with
  | some .eexist => exact triple_pure false fun w untouched => untouched
  | some .enoent => exact triple_fail () fun w untouched => .inl untouched
  | some .other => exact triple_fail () fun w untouched => .inl untouched
  | none =>
      by_cases absent : before = none
      · apply triple_bind (Q := fun filled w => if filled = some () then Kept d w else Spoilt d w)
        · apply Triple.caught ((fillFile_fills turns).mono (fun w made => made.2) (fun _ _ => id) fun _ _ => id)
          exact fun w spoilt => spoilt
        · intro filled
          match filled with
          | none =>
              apply triple_bind (removeCreated_removes.mono (fun w spoilt => spoilt) (fun _ _ => id) fun _ _ => id)
              intro _
              exact triple_fail () fun w removed => .inr ⟨absent, .inr removed⟩
          | some () =>
              apply triple_bind (Q := fun _ => Kept d)
              · apply triple_call
                exact fun w kept a => ⟨kept.directory, kept.sound, kept.file, kept.seed, kept.created, kept.completed⟩
              · intro synced
                apply triple_ensure_bind
                · exact fun w kept => .inr ⟨absent, .inl kept⟩
                · exact fun _ => triple_pure true fun w kept => ⟨absent, kept⟩
      · exact ⟨fun w made => absurd made.1 absent⟩

/-- The call has a seed, and the file holds it. -/
def Obtained (d : Directory) (before : Option File) (w : World) : Prop :=
  Reused d before w ∨ before = none ∧ Kept d w

theorem obtainSeed_obtains (turns : Nat) (parent name : List UInt8) :
    Triple (Untouched d before) (obtainSeed kernel turns parent name) (fun _ => Obtained d before)
      (Breaks (Missed d before) fun _ => True) := by
  have reuse : Triple (Untouched d before) (reuseSeed kernel turns name) (fun _ => Obtained d before)
      (Breaks (Missed d before) fun _ => True) := by
    apply ((reuseSeed_reused turns name).under fun _ => .inl).mono (fun _ => id) (fun _ _ => .inl) fun _ _ => id
  rw [obtainSeed]
  apply triple_bind ((openParent_untouched parent).under fun _ => .inl)
  intro _
  apply triple_given
  intro sound
  apply triple_bind ((openRead_untouched name).under fun _ => .inl)
  intro e
  match e with
  | some .enoent =>
      apply triple_bind (createSeed_creates sound turns name)
      intro made
      cases made with
      | true => exact triple_pure () fun w made => .inr made
      | false => exact reuse
  | some .eexist => exact reuse
  | some .other => exact reuse
  | none => exact reuse

end Made

/-! ## A call -/

section Call

variable {d : Directory} {before : Option File} {w w' : World} {kernel : Kernel}

/-- What a call leaves of the entry. -/
structure Settled (d : Directory) (before : Option File) (w : World) : Prop where
  unchanged : ∀ f, before = some f → w.file = some f
  kept : .created ∈ w.deeds → Completed w.deeds → d.Sound ∧ ∃ f, w.file = some f ∧ Fits 32 f ∧ f.bytes = written w.deeds
  removed : .created ∈ w.deeds → ¬ Completed w.deeds → .unlinked false ∉ w.deeds → w.file = none

theorem Settled.keep (settled : Settled d before w) (file : w'.file = w.file) (deeds : w'.deeds = w.deeds) :
    Settled d before w' where
  unchanged := by rw [file]; exact settled.unchanged
  kept := by rw [file, deeds]; exact settled.kept
  removed := by rw [file, deeds]; exact settled.removed

/-- The entry is as it was, and the call made no file. -/
theorem settled_of_unmade (file : w.file = before) (unmade : .created ∉ w.deeds) : Settled d before w where
  unchanged := fun _ is => file.trans is
  kept := fun made => absurd made unmade
  removed := fun made => absurd made unmade

theorem Kept.settled (kept : Kept d w) : Settled d none w where
  unchanged := nofun
  kept := fun _ _ => ⟨kept.sound, kept.file⟩
  removed := fun _ incomplete => absurd kept.completed incomplete

theorem Removed.settled (removed : Removed d w) : Settled d none w where
  unchanged := nofun
  kept := fun _ completed => absurd completed removed.incomplete
  removed := fun _ _ unrefused => removed.gone.resolve_left unrefused

theorem Missed.settled (missed : Missed d before w) : Settled d before w := by
  rcases missed with untouched | ⟨rfl, kept | removed⟩
  · exact settled_of_unmade untouched.file (by simp [untouched.deeds])
  · exact kept.settled
  · exact removed.settled

theorem Kept.closed (kept : Kept d w) {n : Nat} {done : Bool} :
    Kept d { w with tick := n, deeds := w.deeds ++ [.closed done], fdOpen := false } := by
  have same : written (w.deeds ++ [.closed done]) = written w.deeds := by simp [Deed.written]
  obtain ⟨all, synced, closed⟩ := kept.completed
  constructor
  · exact kept.directory
  · exact kept.sound
  · rw [same]
    exact kept.file
  · rw [same]
    exact kept.seed
  · exact List.mem_append_left _ kept.created
  · exact ⟨same ▸ all, List.mem_append_left _ synced, List.mem_append_left _ closed⟩

/-- The buffer holds the seed the file holds. -/
def Agrees (w : World) : Prop := ∃ f, w.file = some f ∧ Fits 32 f ∧ w.seed = f.bytes

theorem Obtained.agrees (obtained : Obtained d before w) : Agrees w := by
  rcases obtained with ⟨untouched, f, is, fits, seed⟩ | ⟨-, kept⟩
  · exact ⟨f, untouched.file.trans is, fits, seed⟩
  · obtain ⟨f, there, fits, bytes⟩ := kept.file
    exact ⟨f, there, fits, kept.seed.trans bytes.symm⟩

theorem Obtained.missed (obtained : Obtained d before w) : Missed d before w := by
  rcases obtained with reused | ⟨absent, kept⟩
  · exact .inl reused.1
  · exact .inr ⟨absent, .inl kept⟩

theorem closeFile_settled {E : Option Unit → World → Prop} {c : Prop} :
    Triple (fun w => (c → Agrees w) ∧ Missed d before w) (closeFile kernel)
      (fun _ w => (c → Agrees w) ∧ Settled d before w) E := by
  rw [closeFile]
  apply triple_state_bind
  rintro w ⟨agrees, missed⟩
  apply triple_ite
  · intro isOpen
    constructor
    intro w' is
    subst is
    refine ⟨agrees, ?_⟩
    rcases missed with untouched | ⟨rfl, kept | removed⟩
    · have unmade : Deed.created ∉ w'.deeds ++ [.closed (kernel.close w'.tick)] := by simp [untouched.deeds]
      exact settled_of_unmade untouched.file unmade
    · exact kept.closed.settled
    · rw [removed.closed] at isOpen
      cases isOpen
  · exact fun _ => triple_pure true fun w' is => is ▸ ⟨agrees, missed.settled⟩

theorem closeParent_settled {E : Option Unit → World → Prop} {c : Prop} :
    Triple (fun w => (c → Agrees w) ∧ Settled d before w) (closeParent kernel)
      (fun _ w => (c → Agrees w) ∧ Settled d before w) E := by
  rw [closeParent]
  apply triple_state_bind
  rintro w ⟨agrees, settled⟩
  apply triple_ite
  · intro _
    constructor
    intro w' is
    subst is
    exact ⟨agrees, settled.keep rfl rfl⟩
  · exact fun _ => triple_pure true fun w' is => is ▸ ⟨agrees, settled⟩

/-- How a call ends. -/
structure Ended (d : Directory) (before : Option File) (rc : Int) (w : World) : Prop where
  settled : Settled d before w
  seeded : rc = 0 → Agrees w
  zeroed : rc ≠ 0 → w.seed = zeros 32

theorem hostSeed_ends (kernel : Kernel) (turns : Nat) {path : List UInt8} (taken : seedPath path ≠ none) :
    Triple (Untouched d before) (hostSeed kernel turns path) (fun rc => Ended d before rc)
      (Breaks (fun _ => False) fun _ => True) := by
  rw [hostSeed]
  split
  · exact absurd ‹_› taken
  · rename_i parent name is
    apply triple_bind (Q := fun done w => (done = some () → Agrees w) ∧ Missed d before w)
    · apply Triple.caught ((obtainSeed_obtains turns parent name).mono (fun _ => id) _ fun _ _ => id)
      · exact fun w missed => ⟨nofun, missed⟩
      · exact fun _ w obtained => ⟨fun _ => obtained.agrees, obtained.missed⟩
    · intro done
      apply triple_bind closeFile_settled
      intro fileClosed
      apply triple_bind closeParent_settled
      intro parentClosed
      apply triple_ite
      · exact fun ⟨obtained, _⟩ => triple_pure 0 fun w ⟨agrees, settled⟩ => ⟨settled, fun _ => agrees obtained, nofun⟩
      · intro _
        constructor
        rintro w ⟨-, settled⟩
        exact ⟨settled.keep rfl rfl, nofun, fun _ => rfl⟩

end Call

/-! ## A call without errors -/

/-- No call fails, and what is there is opened and read. -/
structure Kernel.ErrorFree (kernel : Kernel) : Prop where
  openParent : ∀ t parent, kernel.openParent t parent = true
  fstat : ∀ t, kernel.fstat t = true
  openat : ∀ t name, kernel.openat t name = none
  read : ∀ t, ∃ n, 0 < n ∧ kernel.read t = .moved n
  close : ∀ t, kernel.close t = true

section ErrorFree

variable {α β : Type} {d : Directory} {f : File} {w : World} {kernel : Kernel}

theorem returns_call_bind {late : World → Prop} {answers : Nat → α} {a : α} {k : α → Part β} {Q : β → World → Prop}
    (is : answers w.tick = a) (rest : Returns late (k a) Q { w with tick := w.tick + 1 }) :
    Returns late (call answers >>= k) Q w := by
  subst is
  exact rest

/-- Each turn of the loop reads at least a byte. -/
theorem readSeed_returns (errorFree : kernel.ErrorFree) (size : f.bytes.length = 32) :
    ∀ turns pos w, pos ≤ 32 → 32 - pos < turns →
      Returns (fun _ => False) (readSeed kernel f turns pos) (fun _ _ => True) w := by
  intro turns
  induction turns with
  | zero => exact fun pos w _ enough => absurd enough (by omega)
  | succ turns ih =>
      intro pos w inside enough
      rw [readSeed]
      by_cases more : pos < 32
      · obtain ⟨n, some, moved⟩ := errorFree.read w.tick
        have count : ((f.bytes.drop pos).take (min n (32 - pos))).length = min n (32 - pos) := by
          simp only [List.length_take, List.length_drop, size]
          omega
        have got : (f.bytes.drop pos).take (min n (32 - pos)) ≠ [] := by
          intro none
          rw [none, List.length_nil] at count
          omega
        rw [if_pos more]
        apply returns_call_bind moved
        dsimp only
        rw [if_neg got, count]
        exact ih _ { w with tick := w.tick + 1, seed := splice pos _ w.seed } (by omega) (by omega)
      · rw [if_neg more]
        exact returns_of_run rfl trivial

theorem readEnd_returns (errorFree : kernel.ErrorFree) (size : f.bytes.length = 32) :
    Returns (fun _ => False) (readEnd kernel f) (fun _ _ => True) w := by
  obtain ⟨n, -, moved⟩ := errorFree.read w.tick
  have last : (f.bytes.drop 32).take (min n 1) = [] := by
    rw [List.drop_of_length_le (by rw [size]), List.take_nil]
  rw [readEnd]
  apply returns_call_bind moved
  show Returns _ (ensure _ ()) _ _
  rw [ensure, if_pos last]
  exact returns_of_run rfl trivial

theorem checkFile_returns (errorFree : kernel.ErrorFree) (there : w.file = some f) (fits : Fits 32 f) :
    Returns (fun _ => False) (checkFile kernel 32) (fun f' _ => f' = f) w := by
  rw [checkFile]
  apply returns_call_bind (errorFree.fstat _)
  apply returns_ensure_bind rfl
  show Returns _ (lift () w.file >>= _) _ _
  apply returns_lift_bind there
  apply returns_ensure_bind fits
  exact returns_of_run rfl rfl

/-- The file that was opened is read. -/
theorem reuseSeed_returns (errorFree : kernel.ErrorFree) {turns : Nat} (enough : 32 < turns) (name : List UInt8)
    (isOpen : w.fdOpen = true) (there : w.file = some f) (fits : Fits 32 f) :
    Returns (fun _ => False) (reuseSeed kernel turns name) (fun _ _ => True) w := by
  have already : (reopen kernel name).run w = (.ok none, w) := by
    show (if w.fdOpen = true then pure none else openRead kernel name : Part (Option Errno)).run w = _
    rw [if_pos isOpen]
    rfl
  rw [reuseSeed]
  apply Returns.bind (returns_of_run already ⟨rfl, rfl⟩ : Returns _ _ (fun e w' => e = none ∧ w' = w) w)
  rintro e w' ⟨rfl, rfl⟩
  apply returns_ensure_bind rfl
  apply (checkFile_returns errorFree there fits).bind
  rintro f' checked rfl
  apply (readSeed_returns errorFree fits.2.2.2 turns 0 checked (by omega) (by omega)).bind
  exact fun _ _ _ => readEnd_returns errorFree fits.2.2.2

/-- The world at the start of a call. -/
def fresh (d : Directory) (file : Option File) (buffer : List UInt8) : World :=
  { directory := d, file := file, seed := buffer, fdOpen := false, parentOpen := false, tick := 0, deeds := [] }

theorem obtainSeed_returns (errorFree : kernel.ErrorFree) {turns : Nat} (enough : 32 < turns) (sound : d.Sound)
    (fits : Fits 32 f) (parent name buffer : List UInt8) :
    Returns (fun _ => False) (obtainSeed kernel turns parent name) (fun _ _ => True) (fresh d (some f) buffer) := by
  have opened : (openParent kernel parent).run (fresh d (some f) buffer) =
      (.ok (), { fresh d (some f) buffer with tick := 2, parentOpen := true }) := by
    rw [openParent]
    show (ensure (kernel.openParent 0 parent = true) () >>= _).run _ = _
    rw [ensure_bind_pos (errorFree.openParent 0 parent)]
    show (ensure (kernel.fstat 1 = true ∧ d.isDirectory = true ∧ d.guarded = true ∧ d.owned = true) ()).run _ = _
    rw [ensure, if_pos ⟨errorFree.fstat 1, sound⟩]
    rfl
  have read : (openRead kernel name).run { fresh d (some f) buffer with tick := 2, parentOpen := true } =
      (.ok none, { fresh d (some f) buffer with tick := 3, parentOpen := true, fdOpen := true }) := by
    simp only [openRead, call, bind_run, fresh, errorFree.openat]
    rfl
  rw [obtainSeed, Returns, bind_ok opened, bind_ok read]
  exact reuseSeed_returns errorFree enough name rfl rfl fits

theorem closeFile_true (errorFree : kernel.ErrorFree) (w : World) :
    ∃ w', (closeFile kernel).run w = (.ok true, w') := by
  cases isOpen : w.fdOpen with
  | false => exact ⟨w, by simp [closeFile, bind_run, isOpen]⟩
  | true => exact ⟨_, by simp [closeFile, call, note, setFd, bind_run, isOpen, errorFree.close]; rfl⟩

theorem closeParent_true (errorFree : kernel.ErrorFree) (w : World) :
    ∃ w', (closeParent kernel).run w = (.ok true, w') := by
  cases isOpen : w.parentOpen with
  | false => exact ⟨w, by simp [closeParent, bind_run, isOpen]⟩
  | true => exact ⟨_, by simp [closeParent, call, setParent, bind_run, isOpen, errorFree.close]; rfl⟩

/-- A seed that is there is returned by a call without errors. -/
theorem hostSeed_returns (errorFree : kernel.ErrorFree) {turns : Nat} (enough : 32 < turns) (sound : d.Sound)
    (fits : Fits 32 f) {path : List UInt8} (taken : seedPath path ≠ none) (buffer : List UInt8) :
    ((hostSeed kernel turns path).run (fresh d (some f) buffer)).1 = .ok 0 := by
  rw [hostSeed]
  split
  · exact absurd ‹_› taken
  · rename_i parent name is
    have returns := obtainSeed_returns errorFree enough sound fits parent name buffer
    obtain ⟨_, w, ran, -⟩ := returns.ok id
    obtain ⟨w', fileClosed⟩ := closeFile_true errorFree w
    obtain ⟨w'', parentClosed⟩ := closeParent_true errorFree w'
    rw [bind_ok (attempt_ok ran), bind_ok fileClosed, bind_ok parentClosed]
    rfl

end ErrorFree

/-! ## Calls one after the other -/

/-- A call: how the kernel answers it, and the caller's buffer. -/
structure Attempt where
  kernel : Kernel
  turns : Nat
  buffer : List UInt8
  sized : buffer.length = 32

structure Report where
  attempt : Attempt
  before : Option File
  outcome : Outcome Unit Int
  world : World

def Attempt.report (attempt : Attempt) (d : Directory) (path : List UInt8) (file : Option File) : Report :=
  let ended := (hostSeed attempt.kernel attempt.turns path).run (fresh d file attempt.buffer)
  { attempt := attempt, before := file, outcome := ended.1, world := ended.2 }

/-- The calls made on `path`, each finding the file the one before left.  A call that
has not come back is the last. -/
def runCalls (d : Directory) (path : List UInt8) : List Attempt → Option File → List Report
  | [], _ => []
  | attempt :: rest, file =>
      let report := attempt.report d path file
      report :: if report.outcome = .stuck then [] else runCalls d path rest report.world.file

section Sequence

variable {d : Directory} {path : List UInt8} {file : Option File} {rc : Int}

theorem report_ends (taken : seedPath path ≠ none) (attempt : Attempt)
    (is : (attempt.report d path file).outcome = .ok rc) : Ended d file rc (attempt.report d path file).world := by
  have start : Untouched d file (fresh d file attempt.buffer) := ⟨rfl, rfl, attempt.sized, rfl⟩
  have ends := (hostSeed_ends attempt.kernel attempt.turns taken).ends _ start
  revert ends is
  rw [Attempt.report]
  dsimp only
  rcases (hostSeed attempt.kernel attempt.turns path).run (fresh d file attempt.buffer) with ⟨o, w⟩
  rintro rfl
  exact id

theorem report_comes_back (taken : seedPath path ≠ none) (attempt : Attempt)
    (back : (attempt.report d path file).outcome ≠ .stuck) : ∃ rc, (attempt.report d path file).outcome = .ok rc := by
  have start : Untouched d file (fresh d file attempt.buffer) := ⟨rfl, rfl, attempt.sized, rfl⟩
  have ends := (hostSeed_ends attempt.kernel attempt.turns taken).ends _ start
  revert ends back
  rw [Attempt.report]
  dsimp only
  rcases (hostSeed attempt.kernel attempt.turns path).run (fresh d file attempt.buffer) with ⟨o, w⟩
  cases o with
  | ok rc => exact fun _ _ => ⟨rc, rfl⟩
  | err e => exact fun _ never => never.elim
  | stuck => exact fun back => absurd rfl back

theorem mem_runCalls_cons {attempt : Attempt} {rest : List Attempt} {r : Report}
    (member : r ∈ runCalls d path (attempt :: rest) file) :
    r = attempt.report d path file ∨
      (attempt.report d path file).outcome ≠ .stuck ∧ r ∈ runCalls d path rest (attempt.report d path file).world.file := by
  rw [runCalls] at member
  generalize attempt.report d path file = first at member ⊢
  rw [List.mem_cons] at member
  apply member.imp_right
  intro later
  by_cases stuck : first.outcome = .stuck
  · rw [if_pos stuck] at later
    cases later
  · rw [if_neg stuck] at later
    exact ⟨stuck, later⟩

/-- What holds of a call, whatever file it finds, holds of every call of a sequence. -/
theorem runCalls_each {Q : Report → Prop} (each : ∀ (attempt : Attempt) file, Q (attempt.report d path file)) :
    ∀ attempts file, ∀ r ∈ runCalls d path attempts file, Q r := by
  intro attempts
  induction attempts with
  | nil => exact fun _ _ member => absurd member List.not_mem_nil
  | cons attempt rest ih =>
      intro file r member
      rcases mem_runCalls_cons member with is | ⟨-, later⟩
      · rw [is]
        exact each attempt file
      · exact ih _ r later

/-- Once the file is there, every call finds it. -/
theorem runCalls_of_file (taken : seedPath path ≠ none) {f : File} :
    ∀ attempts, ∀ r ∈ runCalls d path attempts (some f), r = r.attempt.report d path (some f) := by
  intro attempts
  induction attempts with
  | nil => exact fun _ member => absurd member List.not_mem_nil
  | cons attempt rest ih =>
      intro r member
      rcases mem_runCalls_cons member with is | ⟨back, later⟩
      · have same : r.attempt = attempt := by rw [is, Attempt.report]
        rw [same]
        exact is
      · obtain ⟨rc, is⟩ := report_comes_back taken attempt back
        rw [(report_ends taken attempt is).settled.unchanged f rfl] at later
        exact ih r later

/-- A call that returns 0 where a file is, returns what is in the file. -/
theorem report_seed (taken : seedPath path ≠ none) {f : File} (attempt : Attempt)
    (is : (attempt.report d path (some f)).outcome = .ok 0) : (attempt.report d path (some f)).world.seed = f.bytes := by
  have ended := report_ends taken attempt is
  obtain ⟨f', there, -, seed⟩ := ended.seeded rfl
  rw [ended.settled.unchanged f rfl] at there
  cases there
  exact seed

theorem report_errorFree (taken : seedPath path ≠ none) {f : File} (attempt : Attempt) (sound : d.Sound)
    (fits : Fits 32 f) (errorFree : attempt.kernel.ErrorFree) (enough : 32 < attempt.turns) :
    (attempt.report d path (some f)).outcome = .ok 0 :=
  hostSeed_returns errorFree enough sound fits taken attempt.buffer

/-- Of two calls of a sequence: both have the same seed, if they have one, and what the
first completed the second returns, if it meets no error. -/
def Consistent (r r' : Report) : Prop :=
  (r.outcome = .ok 0 → r'.outcome = .ok 0 → r'.world.seed = r.world.seed) ∧
    (.created ∈ r.world.deeds → Completed r.world.deeds → r'.attempt.kernel.ErrorFree → 32 < r'.attempt.turns →
      r'.outcome = .ok 0 ∧ r'.world.seed = written r.world.deeds)

theorem report_consistent (taken : seedPath path ≠ none) (attempt : Attempt) (is : (attempt.report d path file).outcome = .ok rc)
    (rest : List Attempt) {r : Report} (later : r ∈ runCalls d path rest (attempt.report d path file).world.file) :
    Consistent (attempt.report d path file) r := by
  have ended := report_ends taken attempt is
  constructor
  · intro first second
    rw [first] at is
    cases is
    obtain ⟨f, there, -, seed⟩ := ended.seeded rfl
    rw [there] at later
    have same := runCalls_of_file taken rest r later
    rw [same] at second ⊢
    rw [report_seed taken r.attempt second, seed]
  · intro made completed errorFree enough
    obtain ⟨sound, f, there, fits, bytes⟩ := ended.settled.kept made completed
    rw [there] at later
    have same := runCalls_of_file taken rest r later
    have returned : (r.attempt.report d path (some f)).outcome = .ok 0 :=
      report_errorFree taken r.attempt sound fits errorFree enough
    rw [same]
    exact ⟨returned, (report_seed taken r.attempt returned).trans bytes⟩

theorem runCalls_consistent (taken : seedPath path ≠ none) :
    ∀ attempts file, (runCalls d path attempts file).Pairwise Consistent := by
  intro attempts
  induction attempts with
  | nil => exact fun _ => .nil
  | cons attempt rest ih =>
      intro file
      rw [runCalls]
      by_cases stuck : (attempt.report d path file).outcome = .stuck
      · rw [if_pos stuck]
        exact List.pairwise_singleton _ _
      · obtain ⟨rc, is⟩ := report_comes_back taken attempt stuck
        rw [if_neg stuck]
        exact .cons (fun r later => report_consistent taken attempt is rest later) (ih _)

end Sequence

/-- The calls of `host_seed` on one path, however the kernel answers them: those that
return 0 return the same 32 bytes; the others leave the buffer zero; a file that was there
is unchanged; a file of the call's own is gone if the call fails and could remove it,
unless it was written, synced and closed, and then it is kept, and returned by every later
call without errors. -/
theorem identity_stable (d : Directory) {path : List UInt8} (taken : seedPath path ≠ none) (attempts : List Attempt)
    (file : Option File) :
    (runCalls d path attempts file).Pairwise Consistent ∧
      ∀ r ∈ runCalls d path attempts file, ∀ rc, r.outcome = .ok rc →
        (rc = 0 → r.world.seed.length = 32) ∧
        (rc ≠ 0 → r.world.seed = zeros 32) ∧
        (∀ f, r.before = some f → r.world.file = some f) ∧
        (rc ≠ 0 → .created ∈ r.world.deeds → .unlinked false ∉ r.world.deeds →
          if Completed r.world.deeds then ∃ f, r.world.file = some f ∧ f.bytes = written r.world.deeds
          else r.world.file = none) := by
  refine ⟨runCalls_consistent taken attempts file, runCalls_each ?_ attempts file⟩
  intro attempt before rc is
  have ended := report_ends taken attempt is
  refine ⟨fun zero => ?_, ended.zeroed, ended.settled.unchanged, fun _ made unrefused => ?_⟩
  · obtain ⟨f, -, fits, seed⟩ := ended.seeded zero
    rw [seed, fits.2.2.2]
  · split
    · obtain ⟨-, f, there, -, bytes⟩ := ended.settled.kept made ‹_›
      exact ⟨f, there, bytes⟩
    · exact ended.settled.removed made ‹_› unrefused

/-! ## A seed that was kept -/

namespace Sample

/-- A kernel that moves five bytes at a time, and syncs what `synced` says. -/
def kernel (synced : Nat → Bool) : Kernel where
  openParent := fun _ _ => true
  fstat := fun _ => true
  openat := fun _ _ => none
  created := fun _ => (true, true, true)
  getrandom := fun t => .bytes [UInt8.ofNat t, 7, 9]
  write := fun _ => .moved 5
  read := fun _ => .moved 5
  fsync := synced
  close := fun _ => true
  unlinkat := fun _ => true

/-- A call in which the directory cannot be synced, and one without errors. -/
def attempts : List Attempt :=
  [{ kernel := kernel fun t => t < 26, turns := 40, buffer := zeros 32, sized := rfl },
    { kernel := kernel fun _ => true, turns := 40, buffer := zeros 32, sized := rfl }]

def directory : Directory := { isDirectory := true, guarded := true, owned := true }

def path : List UInt8 := [47, 97, 47, 98]

end Sample

theorem identity_stable_retained :
    (runCalls Sample.directory Sample.path Sample.attempts none).map Report.outcome = [.ok (-1), .ok 0] ∧
      (runCalls Sample.directory Sample.path Sample.attempts none).Pairwise Consistent :=
  ⟨by decide +kernel, (identity_stable Sample.directory (by decide) Sample.attempts none).1⟩

end NoxSsh.Daemon
