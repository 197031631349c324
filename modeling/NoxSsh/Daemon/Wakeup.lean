/-
# Daemon.Wakeup — the accept loop and the end of a child that nobody sees

`SIGCHLD` has a handler that does nothing: its only effect is that an `accept` which
is asleep returns with `EINTR`, so that the loop goes back to its top and waits for the
child.  `Process` adds to the loop of `Daemon.Listen` what that depends on: whether
`accept` is asleep, whether a signal is on its way, and whether one arrived during
the sleep.

A child that ends between the last `waitpid` of the loop and the sleep is not seen.
Its place still counts as taken when the next connection is judged, so whether a
connection is turned away with good reason depends on exactly that
(`turned_away_iff`).  A connection for which `fork` fails is closed as well.
-/
import NoxSsh.Daemon.Listen

namespace NoxSsh.Daemon

open Theory

set_option autoImplicit false

/-- What happens to the daemon: a step of the loop, or something of the signal. -/
inductive Incident where
  | loop (h : Happening)
  /-- `accept` has found no connection and goes to sleep. -/
  | sleeps
  /-- The handler of `SIGCHLD` runs. -/
  | signal
  deriving DecidableEq, Repr

structure Process where
  listener : Listener
  asleep : Bool
  /-- `SIGCHLD` is on its way. -/
  pending : Bool
  /-- The handler ran during the sleep. -/
  interrupted : Bool
  deriving DecidableEq, Repr

/-- What the system calls may return.  `waitpid` finds none only where no child has ended,
and `EINTR` needs a signal during the sleep. -/
def permits (p : Process) : Happening → Bool
  | .noneReaped => p.listener.children.all Child.alive
  | .acceptFails interrupted => !interrupted || p.interrupted
  | _ => true

/-- The sleep ends with `accept`, and the end of a child sends the signal. -/
def settle (p : Process) (l : Listener) : Happening → Process
  | .childEnds _ => { p with listener := l, pending := true }
  | .accepts => { p with listener := l, asleep := false, interrupted := false }
  | .acceptFails _ => { p with listener := l, asleep := false, interrupted := false }
  | _ => { p with listener := l }

def incident (p : Process) : Incident → Option Process
  | .loop h => if permits p h then (step p.listener h).map fun l => settle p l h else none
  | .sleeps => if p.listener.standing = .accept then some { p with asleep := true } else none
  | .signal => if p.pending then some { p with pending := false, interrupted := p.interrupted || p.asleep } else none

def started : Process := ⟨listening, false, false, false⟩

inductive Turn : Process → List Incident → Process → Prop
  | happens {p p' : Process} {i : Incident} (is : incident p i = some p') : Turn p [i] p'

/-- The steps of the loop in a history. -/
def loopOf (history : List Incident) : List Happening :=
  history.filterMap fun
    | .loop h => some h
    | _ => none

/-- How many children have ended since `waitpid` last found none. -/
def unseen (history : List Incident) : Nat :=
  history.foldl (fun n i => match i with
    | .loop (.childEnds _) => n + 1
    | .loop .noneReaped => 0
    | _ => n) 0

/-- The step closes a connection that nobody will serve. -/
def TurnsAway (p : Process) : Incident → Prop
  | .loop .accepts => 4 ≤ p.listener.active
  | .loop .forkFails => True
  | _ => False

instance (p : Process) (i : Incident) : Decidable (TurnsAway p i) := by
  unfold TurnsAway
  split <;> infer_instance

/-! ## One step -/

/-- The count is exact, and behind the reaping loop the children that have ended are those
that have ended since. -/
structure Watched (history : List Incident) (p : Process) : Prop where
  counted : Counted (loopOf history) p.listener
  ended : p.listener.standing ≠ .waitpid →
    p.listener.children.countP (fun child => !child.alive) = unseen history

section Steps

variable {history : List Incident} {p p' : Process} {i : Incident}

theorem dead_endChild {pid : Nat} {children : List Child} (pids : (children.map Child.pid).Nodup)
    (running : ⟨pid, true⟩ ∈ children) :
    (children.map (endChild pid)).countP (fun child => !child.alive) =
      children.countP (fun child => !child.alive) + 1 := by
  have fewer := alive_endChild pids running
  have before := List.length_eq_countP_add_countP Child.alive (l := children)
  have after := List.length_eq_countP_add_countP Child.alive (l := children.map (endChild pid))
  simp only [List.length_map, Bool.not_eq_true, Bool.decide_eq_false] at before after
  omega

/-- Nothing of the loop has happened. -/
theorem Watched.waits (watched : Watched history p) (quiet : ∀ h, i ≠ .loop h) (same : p'.listener = p.listener) :
    Watched (history ++ [i]) p' := by
  have loop : loopOf (history ++ [i]) = loopOf history := by
    cases i with
    | loop h => exact absurd rfl (quiet h)
    | _ => simp [loopOf]
  have ends : unseen (history ++ [i]) = unseen history := by
    cases i with
    | loop h => exact absurd rfl (quiet h)
    | _ => simp [unseen]
  constructor
  · rw [loop, same]
    exact watched.counted
  · rw [ends, same]
    exact watched.ended

theorem watched_step (watched : Watched history p) (is : incident p i = some p') : Watched (history ++ [i]) p' := by
  cases i with
  | sleeps =>
      simp only [incident, Option.ite_none_right_eq_some, Option.some.injEq] at is
      obtain ⟨-, rfl⟩ := is
      exact watched.waits (by simp) rfl
  | signal =>
      simp only [incident, Option.ite_none_right_eq_some, Option.some.injEq] at is
      obtain ⟨-, rfl⟩ := is
      exact watched.waits (by simp) rfl
  | loop h =>
      simp only [incident, Option.ite_none_right_eq_some, Option.map_eq_some_iff] at is
      obtain ⟨permitted, l, moved, rfl⟩ := is
      have loop : loopOf (history ++ [.loop h]) = loopOf history ++ [h] := by simp [loopOf]
      have listener : (settle p l h).listener = l := by cases h <;> rfl
      constructor
      · rw [loop, listener]
        exact step_counted watched.counted moved
      · rw [listener]
        intro behind
        cases h with
        | childEnds pid =>
            simp only [step, Option.ite_none_right_eq_some, Option.some.injEq] at moved
            obtain ⟨running, rfl⟩ := moved
            have more := dead_endChild watched.counted.pids running
            rw [watched.ended behind] at more
            simpa [unseen] using more
        | reaped pid =>
            simp only [step, Option.ite_none_right_eq_some, Option.some.injEq] at moved
            obtain ⟨⟨standing, -⟩, rfl⟩ := moved
            exact absurd standing behind
        | noneReaped =>
            simp only [step, Option.ite_none_right_eq_some, Option.some.injEq] at moved
            obtain ⟨-, rfl⟩ := moved
            have all : ∀ child ∈ p.listener.children, child.alive = true := by simpa [permits] using permitted
            have none : p.listener.children.countP (fun child => !child.alive) = 0 := by
              rw [List.countP_eq_zero]
              intro child member
              simp [all child member]
            simpa [unseen] using none
        | acceptFails interrupted =>
            simp only [step, Option.ite_none_right_eq_some, Option.some.injEq] at moved
            obtain ⟨-, rfl⟩ := moved
            exact absurd rfl behind
        | accepts =>
            simp only [step, Option.ite_none_right_eq_some, Option.some.injEq] at moved
            obtain ⟨standing, rfl⟩ := moved
            have same := watched.ended (by rw [standing]; decide)
            simpa [unseen] using same
        | forkFails =>
            simp only [step, Option.ite_none_right_eq_some, Option.some.injEq] at moved
            obtain ⟨-, rfl⟩ := moved
            exact absurd rfl behind
        | forks pid =>
            simp only [step, Option.ite_none_right_eq_some, Option.some.injEq] at moved
            obtain ⟨-, rfl⟩ := moved
            exact absurd rfl behind

end Steps

/-! ## Every run -/

theorem watched_path {history : List Incident} {p : Process} (path : Path Turn started history p) :
    Watched history p := by
  apply path.invariant (I := Watched)
  · exact ⟨counted_listening, fun behind => absurd rfl behind⟩
  · intro seen q new q' watched turn
    cases turn with
    | happens is => exact watched_step watched is

/-- **Who is turned away with good reason.**  Whatever the order of connections, ends of
children and signals: when the daemon closes a connection without serving it, four
children are alive if and only if no child has ended since `waitpid` last found none,
and it was not `fork` that failed. -/
theorem turned_away_iff {history : List Incident} {p p' : Process} {i : Incident} (path : Path Turn started history p)
    (is : incident p i = some p') (away : TurnsAway p i) :
    alive (loopOf history) = 4 ↔ unseen history = 0 ∧ i ≠ .loop .forkFails := by
  have watched := watched_path path
  have counted := watched.counted
  have split := List.length_eq_countP_add_countP Child.alive (l := p.listener.children)
  simp only [Bool.not_eq_true, Bool.decide_eq_false] at split
  have ended := counted.ended
  have exact' := counted.exact
  have few := counted.few
  unfold alive
  cases i with
  | loop h =>
      simp only [incident, Option.ite_none_right_eq_some, Option.map_eq_some_iff] at is
      obtain ⟨-, l, moved, -⟩ := is
      cases h with
      | accepts =>
          simp only [step, Option.ite_none_right_eq_some] at moved
          have dead := watched.ended (by rw [moved.1]; decide)
          have full : 4 ≤ p.listener.active := away
          simp only [ne_eq, Incident.loop.injEq, reduceCtorEq, not_false_eq_true, and_true]
          omega
      | forkFails =>
          simp only [step, Option.ite_none_right_eq_some] at moved
          have room := counted.room moved.1
          simp only [ne_eq, not_true_eq_false, and_false, iff_false]
          omega
      | _ => exact absurd away id
  | _ => exact absurd away id

/-! ## Histories step by step -/

/-- The process after these incidents, if they can happen. -/
def follow (p : Process) : List Incident → Option Process
  | [] => some p
  | i :: rest => (incident p i).bind fun q => follow q rest

theorem path_of_follow {p p' : Process} {incidents : List Incident} (is : follow p incidents = some p') :
    Path Turn p incidents p' := by
  induction incidents generalizing p with
  | nil =>
      obtain rfl := Option.some.inj is
      exact .nil p
  | cons i rest ih =>
      obtain ⟨q, first, later⟩ := Option.bind_eq_some_iff.1 is
      exact (Path.single (.happens first)).trans (ih later)

/-- A connection that is served by the child `pid`. -/
def served (pid : Nat) : List Incident := [.loop .noneReaped, .sleeps, .loop .accepts, .loop (.forks pid)]

def fourServed : List Incident := served 1 ++ served 2 ++ served 3 ++ served 4 ++ [.loop .noneReaped]

def fourChildren : List Child := [⟨1, true⟩, ⟨2, true⟩, ⟨3, true⟩, ⟨4, true⟩]

/-- The fifth connection while four children are alive. -/
theorem turned_away_iff_full :
    alive (loopOf fourServed) = 4 ↔ unseen fourServed = 0 ∧ Incident.loop .accepts ≠ .loop .forkFails := by
  have reached : follow started fourServed = some ⟨⟨.accept, 4, fourChildren⟩, false, false, false⟩ := by decide
  have closed : incident ⟨⟨.accept, 4, fourChildren⟩, false, false, false⟩ (.loop .accepts) =
      some ⟨⟨.waitpid, 4, fourChildren⟩, false, false, false⟩ := by decide
  exact turned_away_iff (path_of_follow reached) closed (by decide)

/-- Child 2 ends just before `accept` goes to sleep, the handler runs, and the next
connection is closed while three children are alive. -/
def lostSignal : List Incident := fourServed ++ [.loop (.childEnds 2), .signal, .sleeps]

theorem turned_away_without_need :
    ¬ ∀ (history : List Incident) (p p' : Process) (i : Incident), Path Turn started history p →
      incident p i = some p' → TurnsAway p i → alive (loopOf history) = 4 := by
  intro full
  have reached : follow started lostSignal =
      some ⟨⟨.accept, 4, [⟨1, true⟩, ⟨2, false⟩, ⟨3, true⟩, ⟨4, true⟩]⟩, true, false, false⟩ := by
    decide
  have three : alive (loopOf lostSignal) = 3 := by decide
  have four := full lostSignal _ ⟨⟨.waitpid, 4, [⟨1, true⟩, ⟨2, false⟩, ⟨3, true⟩, ⟨4, true⟩]⟩, false, false, false⟩
    (.loop .accepts) (path_of_follow reached) (by decide) (by decide)
  omega

end NoxSsh.Daemon
