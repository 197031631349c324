/-
# Daemon.Listen — the accept loop of the daemon and its children

`noxsshd_listen_posix` forks a child for each connection and counts them in a local
variable.  Children end whenever they like; the daemon learns of it at the top of its
loop, where it waits for as many as have ended.  A step is one system call of the
loop with the statements up to the next one, or the end of a child in between:
nothing but the loop itself can see the count.

The descriptors, the socket options and what a child does are left out.
-/
import NoxSsh.Theory.Machine

namespace NoxSsh.Daemon

open Theory

set_option autoImplicit false

/-! ## The loop -/

/-- A connection's child, until the daemon has waited for it. -/
structure Child where
  pid : Nat
  alive : Bool
  deriving DecidableEq, Repr

/-- The system call the loop stands at. -/
inductive Standing where
  | waitpid
  | accept
  | fork
  deriving DecidableEq, Repr

structure Listener where
  standing : Standing
  active : Nat
  children : List Child
  deriving DecidableEq, Repr

/-- What can happen: a child ends, or the system call returns. -/
inductive Happening where
  | childEnds (pid : Nat)
  /-- `waitpid` returned this child. -/
  | reaped (pid : Nat)
  /-- `waitpid` returned zero or failed. -/
  | noneReaped
  /-- `accept` failed, with `EINTR` or another error. -/
  | acceptFails (interrupted : Bool)
  | accepts
  | forkFails
  | forks (pid : Nat)
  deriving DecidableEq, Repr

/-- `active` is an `unsigned`. -/
def wrapUnsigned (n : Nat) : Nat := n % 4294967296

/-- The child's process is over, and its entry is still there. -/
def endChild (pid : Nat) (child : Child) : Child := if child.pid = pid then { child with alive := false } else child

def step (s : Listener) : Happening → Option Listener
  | .childEnds pid =>
      if ⟨pid, true⟩ ∈ s.children then some { s with children := s.children.map (endChild pid) } else none
  | .reaped pid =>
      if s.standing = .waitpid ∧ ⟨pid, false⟩ ∈ s.children then
        some { s with active := if s.active ≠ 0 then s.active - 1 else s.active
                      children := s.children.erase ⟨pid, false⟩ }
      else none
  | .noneReaped => if s.standing = .waitpid then some { s with standing := .accept } else none
  | .acceptFails _ => if s.standing = .accept then some { s with standing := .waitpid } else none
  | .accepts =>
      if s.standing = .accept then
        some { s with standing := if s.active ≥ 4 then .waitpid else .fork }
      else none
  | .forkFails => if s.standing = .fork then some { s with standing := .waitpid } else none
  | .forks pid =>
      if s.standing = .fork ∧ pid ∉ s.children.map Child.pid then
        some { standing := .waitpid, active := wrapUnsigned (s.active + 1), children := s.children ++ [⟨pid, true⟩] }
      else none

/-- The loop as it is entered. -/
def listening : Listener := ⟨.waitpid, 0, []⟩

/-- The loop as a machine that shows what happens. -/
inductive Move : Listener → List Happening → Listener → Prop
  | happens {s s' : Listener} {h : Happening} (is : step s h = some s') : Move s [h] s'

/-! ## Counting a history -/

def isFork : Happening → Bool
  | .forks _ => true
  | _ => false

def isReap : Happening → Bool
  | .reaped _ => true
  | _ => false

def isEnd : Happening → Bool
  | .childEnds _ => true
  | _ => false

/-- How many connection children were forked and not yet waited for, by the history alone. -/
def unreaped (history : List Happening) : Nat := history.countP isFork - history.countP isReap

/-- How many of them are still running. -/
def alive (history : List Happening) : Nat := history.countP isFork - history.countP isEnd

/-- The count is exact, there is room for a child that is about to be forked, and
the history says the same as the children do. -/
structure Counted (history : List Happening) (s : Listener) : Prop where
  exact : s.active = s.children.length
  few : s.active ≤ 4
  room : s.standing = .fork → s.active < 4
  pids : (s.children.map Child.pid).Nodup
  reaped : history.countP isReap + s.children.length = history.countP isFork
  ended : history.countP isEnd + s.children.countP Child.alive = history.countP isFork

/-! ## One step -/

section Children

variable {pid : Nat} {children : List Child}

theorem pids_endChild (pid : Nat) (children : List Child) :
    (children.map (endChild pid)).map Child.pid = children.map Child.pid := by
  rw [List.map_map]
  apply List.map_congr_left
  intro child _
  simp only [Function.comp_apply, endChild]
  split <;> rfl

theorem endChild_of_absent (absent : pid ∉ children.map Child.pid) : children.map (endChild pid) = children := by
  have same : children.map (endChild pid) = children.map id := by
    apply List.map_congr_left
    intro child mem
    apply if_neg
    rintro rfl
    exact absent (List.mem_map_of_mem mem)
  rw [same, List.map_id]

/-- The end of a running child takes it from those that run. -/
theorem alive_endChild (pids : (children.map Child.pid).Nodup) (running : ⟨pid, true⟩ ∈ children) :
    (children.map (endChild pid)).countP Child.alive + 1 = children.countP Child.alive := by
  induction children with
  | nil => simp at running
  | cons child children ih =>
      rw [List.map_cons, List.nodup_cons] at pids
      rcases List.mem_cons.1 running with rfl | later
      · rw [List.map_cons, endChild_of_absent pids.1, List.countP_cons_of_neg (by simp [endChild]),
          List.countP_cons_of_pos rfl]
      · have other : child.pid ≠ pid := by
          rintro rfl
          exact pids.1 (List.mem_map.2 ⟨_, later, rfl⟩)
        have same : endChild pid child = child := if_neg other
        have rest := ih pids.2 later
        rw [List.map_cons, same, List.countP_cons, List.countP_cons]
        omega

/-- Waiting for a child takes none from those that run. -/
theorem alive_erase (exited : ⟨pid, false⟩ ∈ children) :
    (children.erase ⟨pid, false⟩).countP Child.alive = children.countP Child.alive := by
  rw [(List.perm_cons_erase exited).countP_eq, List.countP_cons_of_neg (by simp)]

end Children

section Steps

variable {history : List Happening} {s s' : Listener}

/-- A call that neither forks nor waits moves the loop along. -/
theorem Counted.moves (counted : Counted history s) {standing : Standing} {h : Happening}
    (plain : isFork h = false ∧ isReap h = false ∧ isEnd h = false) (room : standing = .fork → s.active < 4) :
    Counted (history ++ [h]) { s with standing := standing } where
  exact := counted.exact
  few := counted.few
  room := room
  pids := counted.pids
  reaped := by simpa [plain] using counted.reaped
  ended := by simpa [plain] using counted.ended

theorem Counted.childEnds (counted : Counted history s) {pid : Nat} (running : ⟨pid, true⟩ ∈ s.children) :
    Counted (history ++ [.childEnds pid]) { s with children := s.children.map (endChild pid) } where
  exact := by simpa using counted.exact
  few := counted.few
  room := counted.room
  pids := by
    rw [pids_endChild]
    exact counted.pids
  reaped := by simpa [isReap, isFork] using counted.reaped
  ended := by
    have fewer := alive_endChild counted.pids running
    have ended := counted.ended
    simp only [List.countP_append, List.countP_singleton, isEnd, isFork, if_true, Bool.false_eq_true, if_false]
    omega

theorem Counted.reaps (counted : Counted history s) (standing : s.standing = .waitpid) {pid : Nat}
    (exited : ⟨pid, false⟩ ∈ s.children) :
    Counted (history ++ [.reaped pid]) { s with
      active := if s.active ≠ 0 then s.active - 1 else s.active
      children := s.children.erase ⟨pid, false⟩ } := by
  have gone := List.length_erase_of_mem exited
  have some := List.length_pos_of_mem exited
  have exact' := counted.exact
  have few := counted.few
  have reaped := counted.reaped
  rw [if_pos (by omega)]
  constructor
  · show s.active - 1 = (s.children.erase ⟨pid, false⟩).length
    omega
  · show s.active - 1 ≤ 4
    omega
  · intro forking
    rw [standing] at forking
    cases forking
  · exact counted.pids.sublist (List.erase_sublist.map Child.pid)
  · simp only [List.countP_append, List.countP_singleton, isReap, isFork, if_true, Bool.false_eq_true, if_false]
    omega
  · dsimp only
    rw [alive_erase exited]
    simpa [isEnd, isFork] using counted.ended

theorem Counted.forks (counted : Counted history s) (standing : s.standing = .fork) {pid : Nat}
    (fresh : pid ∉ s.children.map Child.pid) :
    Counted (history ++ [.forks pid])
      { standing := .waitpid, active := wrapUnsigned (s.active + 1), children := s.children ++ [⟨pid, true⟩] } := by
  have little := counted.room standing
  have whole : wrapUnsigned (s.active + 1) = s.active + 1 := Nat.mod_eq_of_lt (by omega)
  rw [whole]
  constructor
  · simpa using counted.exact
  · exact little
  · intro forking
    cases forking
  · rw [List.map_append, List.nodup_append]
    refine ⟨counted.pids, by simp, ?_⟩
    rintro a mem b isNew rfl
    simp only [List.map_cons, List.map_nil, List.mem_singleton] at isNew
    exact fresh (isNew ▸ mem)
  · have reaped := counted.reaped
    simp only [List.countP_append, List.countP_singleton, List.length_append, List.length_singleton, isReap, isFork,
      if_true, Bool.false_eq_true, if_false]
    omega
  · have ended := counted.ended
    simp only [List.countP_append, List.countP_singleton, isEnd, isFork, if_true, Bool.false_eq_true, if_false]
    omega

/-- What one step does, whichever it is. -/
theorem step_counted {h : Happening} (counted : Counted history s) (is : step s h = some s') :
    Counted (history ++ [h]) s' := by
  cases h with
  | childEnds pid =>
      simp only [step, Option.ite_none_right_eq_some, Option.some.injEq] at is
      obtain ⟨running, rfl⟩ := is
      exact counted.childEnds running
  | reaped pid =>
      simp only [step, Option.ite_none_right_eq_some, Option.some.injEq] at is
      obtain ⟨⟨standing, exited⟩, rfl⟩ := is
      exact counted.reaps standing exited
  | noneReaped =>
      simp only [step, Option.ite_none_right_eq_some, Option.some.injEq] at is
      obtain ⟨-, rfl⟩ := is
      exact counted.moves ⟨rfl, rfl, rfl⟩ (by simp)
  | acceptFails interrupted =>
      simp only [step, Option.ite_none_right_eq_some, Option.some.injEq] at is
      obtain ⟨-, rfl⟩ := is
      exact counted.moves ⟨rfl, rfl, rfl⟩ (by simp)
  | accepts =>
      simp only [step, Option.ite_none_right_eq_some, Option.some.injEq] at is
      obtain ⟨-, rfl⟩ := is
      apply counted.moves ⟨rfl, rfl, rfl⟩
      intro forking
      by_contra full
      rw [if_pos (by omega)] at forking
      cases forking
  | forkFails =>
      simp only [step, Option.ite_none_right_eq_some, Option.some.injEq] at is
      obtain ⟨-, rfl⟩ := is
      exact counted.moves ⟨rfl, rfl, rfl⟩ (by simp)
  | forks pid =>
      simp only [step, Option.ite_none_right_eq_some, Option.some.injEq] at is
      obtain ⟨⟨standing, fresh⟩, rfl⟩ := is
      exact counted.forks standing fresh

end Steps

theorem counted_listening : Counted [] listening :=
  ⟨rfl, by decide, by decide, by decide, rfl, rfl⟩

/-! ## Every run -/

/-- **At most four sessions.**  In every state that any interleaving of connections,
failures and ends of children leads to, the count is the number of forked children that
have not been waited for, and at most four of them are running. -/
theorem at_most_four_sessions {history : List Happening} {s : Listener} (path : Path Move listening history s) :
    s.active = s.children.length ∧ s.active = unreaped history ∧
      s.children.countP Child.alive = alive history ∧ alive history ≤ 4 := by
  have counted : Counted history s := path.invariant counted_listening fun counted move => by
    cases move with
    | happens is => exact step_counted counted is
  have running : s.children.countP Child.alive ≤ s.children.length := List.countP_le_length
  have exact' := counted.exact
  have reaped := counted.reaped
  have ended := counted.ended
  have few := counted.few
  unfold unreaped alive
  omega

/-- One connection, whose child has ended and is not waited for yet. -/
def oneConnection : List Happening := [.noneReaped, .accepts, .forks 7, .childEnds 7]

theorem at_most_four_sessions_one :
    1 = unreaped oneConnection ∧ 0 = alive oneConnection ∧ alive oneConnection ≤ 4 := by
  have waited : Path Move listening [.noneReaped] ⟨.accept, 0, []⟩ := .single (.happens rfl)
  have accepted : Path Move listening [.noneReaped, .accepts] ⟨.fork, 0, []⟩ := waited.snoc (.happens rfl)
  have forked : Path Move listening [.noneReaped, .accepts, .forks 7] ⟨.waitpid, 1, [⟨7, true⟩]⟩ :=
    accepted.snoc (.happens rfl)
  have ended : Path Move listening oneConnection ⟨.waitpid, 1, [⟨7, false⟩]⟩ := forked.snoc (.happens rfl)
  exact (at_most_four_sessions ended).2

end NoxSsh.Daemon
