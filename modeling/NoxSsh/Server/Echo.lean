/-
# Server.Echo — a child that echoes, and a server that writes before it reads

`srv_write_child` writes a whole packet before anything is read back.  A child that copies its
input to its output can take what the two pipes hold (`Theory.Pipes`); what a packet brings
beyond that is never taken, both sides wait, and after ten seconds the write is refused and the
session fails.

`Traffic` counts what was written to the child and read from it, and what is left of the packet
that is being written.  A packet for which there is room when it arrives is written without a
deadlock, however the two run (`echo_never_deadlocks`).
-/
import NoxSsh.Theory.Pipes
import NoxSsh.Server.Completion

namespace NoxSsh.Server

open Theory Proc Wire Transport

set_option autoImplicit false

/-! ## What crosses the pipes -/

def pipeAct (o : Sight) : Option (PipeAct UInt8) :=
  match o.1 with
  | .childInput bytes => some (.write bytes)
  | .childEot => some (.write [4])
  | .childOutput bytes => some (.read bytes)
  | .childRefused => some .refuse
  | _ => none

def pipeActs (seen : List Sight) : List (PipeAct UInt8) := seen.filterMap pipeAct

/-- How many bytes for the child a session takes from a packet. -/
def brought (o : Sight) : Nat :=
  match o.1 with
  | .received payload =>
      if o.2.1.channelOpen && o.2.1.sessionStarted then ((dataOf o.2.1 payload).getD []).length else 0
  | _ => 0

/-- What was written to the child, what was read from it, and what is left of the packet
received last. -/
structure Traffic where
  fed : Nat
  drained : Nat
  left : Nat

namespace Traffic

def enter (t : Traffic) (o : Sight) : Traffic :=
  match o.1 with
  | .received _ => { t with left := brought o }
  | .childInput bytes => { t with fed := t.fed + bytes.length, left := t.left - bytes.length }
  | .childEot => { t with fed := t.fed + 1 }
  | .childOutput bytes => { t with drained := t.drained + bytes.length }
  | _ => t

end Traffic

def traffic (seen : List Sight) : Traffic := seen.foldl Traffic.enter ⟨0, 0, 0⟩

theorem enter_counts (t : Traffic) (o : Sight) :
    (t.enter o).fed = t.fed + bytesPut (pipeActs [o]) ∧ (t.enter o).drained = t.drained + bytesGot (pipeActs [o]) := by
  obtain ⟨e, c, due⟩ := o
  cases e <;> simp [Traffic.enter, pipeActs, pipeAct, List.filterMap, bytesPut, bytesGot, PipeAct.put, PipeAct.got]

/-- The traffic counts what crosses the pipes. -/
theorem traffic_counts (seen : List Sight) :
    (traffic seen).fed = bytesPut (pipeActs seen) ∧ (traffic seen).drained = bytesGot (pipeActs seen) := by
  induction seen using List.reverseRecOn with
  | nil => exact ⟨rfl, rfl⟩
  | append_singleton seen o ih =>
      obtain ⟨fed, drained⟩ := enter_counts (traffic seen) o
      have after : traffic (seen ++ [o]) = (traffic seen).enter o := by simp [traffic]
      have acts : pipeActs (seen ++ [o]) = pipeActs seen ++ pipeActs [o] := List.filterMap_append
      rw [after, acts, bytesPut_append, bytesGot_append, fed, drained, ih.1, ih.2]
      exact ⟨rfl, rfl⟩

/-! ## What the server writes -/

/-- What is written to the child is left of the packet, and no packet is left when the end of
input is written to a terminal. -/
def Draws (t : Traffic) (o : Sight) : Prop :=
  match o.1 with
  | .childInput bytes => bytes.length ≤ t.left
  | .childEot => t.left = 0
  | _ => True

/-- In a session whatever was received is what is left to write. -/
def Owes (t : Traffic) : Phase → Channel → Prop
  | .told _ _ p, c => t.left = ((dataOf c p).getD []).length
  | _, _ => True

section Writing

variable {t : Traffic} {c c' : Channel} {φ φ' : Phase} {seen new : List Sight} {payload data : List UInt8}
  {all : Bool}

/-- The messages of the server. -/
def Uttered (o : Sight) : Prop := ∃ p, o.1 = .sending p ∨ o.1 = .sent p

theorem Says.spoken (call : Says c payload all seen) : ∀ o ∈ seen, Uttered o := by
  cases call with
  | failed due => exact fun o mem => ⟨payload, .inl (by rw [List.mem_singleton.1 mem])⟩
  | sent due due' =>
      intro o mem
      rcases List.mem_pair.1 mem with rfl | rfl
      · exact ⟨payload, .inl rfl⟩
      · exact ⟨payload, .inr rfl⟩

theorem SaysAll.spoken {payloads : List (List UInt8)} (calls : SaysAll c payloads all seen) :
    ∀ o ∈ seen, Uttered o := by
  induction calls with
  | nil => simp
  | failed call => exact call.spoken
  | sent call _ ih =>
      intro o mem
      exact (List.mem_append.1 mem).elim (call.spoken o) (ih o)

theorem audit_spoken (spoken : ∀ o ∈ seen, Uttered o) : Audit Traffic.enter Draws t seen := by
  induction seen generalizing t with
  | nil => trivial
  | cons o seen ih =>
      obtain ⟨p, is⟩ := spoken o List.mem_cons_self
      refine ⟨?_, ih fun o mem => spoken o (List.mem_cons_of_mem _ mem)⟩
      rw [Draws]
      rcases is with is | is <;> rw [is] <;> trivial

theorem feeds_draws (feeds : Feeds c data seen) (enough : data.length ≤ t.left) :
    Audit Traffic.enter Draws t seen ∧ (seen.foldl Traffic.enter t).left = t.left - data.length := by
  induction feeds generalizing t with
  | nil => exact ⟨trivial, rfl⟩
  | @cons bytes more seen due feeds ih =>
      rw [List.length_append] at enough
      obtain ⟨audit, left⟩ := ih (t := t.enter (.childInput bytes, c, due)) (by simp only [Traffic.enter]; omega)
      refine ⟨⟨by simp only [Draws]; omega, audit⟩, ?_⟩
      rw [List.foldl_cons, left, List.length_append]
      simp only [Traffic.enter]
      omega

/-- Every move bears the audit. -/
theorem Move.draws (so : Stage φ c ∧ Owes t φ c) (move : Move (φ, c) new (φ', c')) :
    Audit Traffic.enter Draws t new ∧ Stage φ' c' ∧ Owes (new.foldl Traffic.enter t) φ' c' := by
  obtain ⟨stage, owes⟩ := so
  have stage' := move.stage stage
  suffices rest : Audit Traffic.enter Draws t new ∧ Owes (new.foldl Traffic.enter t) φ' c' from
    ⟨rest.1, stage', rest.2⟩
  cases move with
  | tell d child p due =>
      obtain ⟨-, isOpen, started⟩ := stage
      refine ⟨⟨trivial, trivial⟩, ?_⟩
      simp [Owes, Traffic.enter, brought, isOpen, started]
  | feed d child p data _ seen is feeds =>
      refine ⟨(feeds_draws feeds ?_).1, trivial⟩
      rw [show t.left = _ from owes, is]
      exact le_rfl
  | choke d child p taken left due _ seen is some feeds =>
      have enough : taken.length ≤ t.left := by
        rw [show t.left = _ from owes, is]
        simp
      exact ⟨audit_append.2 ⟨(feeds_draws feeds enough).1, trivial, trivial⟩, trivial⟩
  | eot d child p due e _ is number written =>
      have none : dataOf c p = none := by rw [dataOf, if_neg (by simp [number])]
      have nothing : t.left = 0 := by
        rw [show t.left = _ from owes, none]
        rfl
      rcases written with rfl | rfl
      · exact ⟨⟨nothing, trivial⟩, trivial⟩
      · exact ⟨⟨trivial, trivial⟩, trivial⟩
  | hello | top | hear | start | goOn | reap => exact ⟨⟨trivial, trivial⟩, trivial⟩
  | output d child bytes due _ seen _ _ _ spoken | outputFails d child bytes due _ seen _ _ _ spoken =>
      exact ⟨⟨trivial, audit_spoken spoken.spoken⟩, trivial⟩
  | complete d child status _ seen _ _ spoken | incomplete d child status _ seen _ _ spoken =>
      exact ⟨audit_spoken spoken.spoken, trivial⟩
  | confirmOpen p o _ seen _ _ _ spoken | unconfirmed p o _ seen _ _ _ spoken =>
      exact ⟨audit_spoken spoken.spoken, trivial⟩
  | toppedUp d p len _ all seen _ _ spoken | refused d p _ all seen _ spoken =>
      exact ⟨audit_spoken spoken.spoken, trivial⟩
  | confirmed d p _ seen _ spoken | granted d p _ seen _ spoken | unanswered d p _ seen _ spoken =>
      exact ⟨audit_spoken spoken.spoken, trivial⟩
  | answered d p _ seen _ _ _ spoken | unclosed d p _ seen _ _ _ spoken =>
      exact ⟨audit_spoken spoken.spoken, trivial⟩
  | peerClose d child p _ seen _ _ _ spoken | peerCloseFails d child p _ seen _ _ _ spoken =>
      exact ⟨audit_spoken spoken.spoken, trivial⟩
  | topUp d child _ seen _ spoken | noTopUp d child _ seen _ spoken =>
      exact ⟨audit_spoken spoken.spoken, trivial⟩
  | _ => exact ⟨trivial, trivial⟩

end Writing

/-! ## Room -/

/-- There is room in the pipes for what the session takes from a packet when it arrives. -/
def Room (A B : Nat) (t : Traffic) (o : Sight) : Prop := 0 < brought o → t.fed + brought o ≤ t.drained + (A + B)

instance (A B : Nat) (t : Traffic) (o : Sight) : Decidable (Room A B t o) :=
  inferInstanceAs (Decidable (_ → _))

/-- There is room for what is left to write. -/
def Fits (A B : Nat) (t : Traffic) : Prop := 0 < t.left → t.fed + t.left ≤ t.drained + (A + B)

theorem Fits.enter {A B : Nat} {t : Traffic} {o : Sight} (fits : Fits A B t) (draws : Draws t o)
    (room : Room A B t o) : Fits A B (t.enter o) := by
  obtain ⟨e, c, due⟩ := o
  cases e with
  | received payload => exact room
  | childInput bytes =>
      intro more
      have few : bytes.length ≤ t.left := draws
      have before := fits (by simp only [Traffic.enter] at more; omega)
      simp only [Traffic.enter] at more ⊢
      omega
  | childEot =>
      intro more
      have none : t.left = 0 := draws
      simp only [Traffic.enter] at more
      omega
  | childOutput bytes =>
      intro more
      have before := fits more
      simp only [Traffic.enter] at more ⊢
      omega
  | _ => exact fits

/-- Room for every packet is room at every time. -/
theorem fits_always {A B : Nat} {seen : List Sight} (draws : Each (fun before o => Draws (traffic before) o) seen)
    (room : Each (fun before o => Room A B (traffic before) o) seen) :
    ∀ before after, seen = before ++ after → Fits A B (traffic before) := by
  intro before
  induction before using List.reverseRecOn with
  | nil => exact fun _ _ more => absurd more (by decide)
  | append_singleton before o ih =>
      intro after is
      rw [List.append_assoc, List.singleton_append] at is
      have step : traffic (before ++ [o]) = (traffic before).enter o := by simp [traffic]
      rw [step]
      exact (ih _ is).enter (draws before o after is) (room before o after is)

/-- The server has bytes of a packet left to write, and neither it nor the child can move. -/
def Deadlocked (A B : Nat) (seen : List Sight) : Prop :=
  0 < (traffic seen).left ∧ ∃ pipes, PipeRun A B (pipeActs seen) pipes ∧ BothFull A B pipes

theorem Fits.free {A B : Nat} {seen : List Sight} (fits : Fits A B (traffic seen)) : ¬ Deadlocked A B seen := by
  rintro ⟨more, pipes, run, full, blocked⟩
  have count := conserves run
  obtain ⟨fed, drained⟩ := traffic_counts seen
  have room := fits more
  omega

section Runs

variable (noxtls : Noxtls) (env : Env) (setup : Setup) (inbox : List UInt8) (turns : Nat)

theorem served_draws :
    Each (fun before o => Draws (traffic before) o) (sights (served noxtls env setup inbox turns).trace) := by
  obtain ⟨phase, path, -⟩ := served_path noxtls env setup inbox turns
  have start : Stage .handshake freshChannel ∧ Owes ⟨0, 0, 0⟩ .handshake freshChannel := ⟨⟨rfl, rfl⟩, trivial⟩
  have audited := path.audit (K := fun t s => Stage s.1 s.2 ∧ Owes t s.1 s.2) (Q := Draws) start fun so move =>
    move.draws so
  exact audit_iff_each.1 audited.1

/-- **No deadlock with an echoing child.**  In every run of the server in which there is room in
the pipes for each packet of channel data when it arrives: no state of the run, with whatever
the child has copied so far, is a deadlock; and if the child's side of the run is that of a
child that echoes, no data is refused. -/
theorem echo_never_deadlocks (A B : Nat)
    (room : Each (fun before o => Room A B (traffic before) o) (sights (served noxtls env setup inbox turns).trace)) :
    (∀ before after, sights (served noxtls env setup inbox turns).trace = before ++ after → ¬ Deadlocked A B before) ∧
      ∀ pipes, PipeRun A B (pipeActs (sights (served noxtls env setup inbox turns).trace)) pipes →
        Each (fun before o => o.1 = .childRefused → (traffic before).left = 0)
          (sights (served noxtls env setup inbox turns).trace) := by
  have free : ∀ before after, sights (served noxtls env setup inbox turns).trace = before ++ after →
      ¬ Deadlocked A B before := fun before after is =>
    (fits_always (served_draws noxtls env setup inbox turns) room before after is).free
  refine ⟨free, fun pipes run before o after is refused => ?_⟩
  have acts : pipeActs (sights (served noxtls env setup inbox turns).trace) =
      pipeActs before ++ .refuse :: pipeActs after := by
    obtain ⟨e, c, due⟩ := o
    obtain rfl : e = .childRefused := refused
    rw [is]
    simp [pipeActs, pipeAct]
  obtain ⟨full, there, isFull⟩ := refused_full run _ _ _ acts rfl
  by_contra more
  exact free before (o :: after) is ⟨Nat.pos_of_ne_zero more, full, there, isFull⟩

end Runs

/-! ## Three bytes for two pipes of one -/

namespace Probe

/-- The child takes a byte at a time; what is asked of it at `tick` is refused. -/
def clogged (tick : Nat) : Env :=
  { brisk with
    poll := fun _ => .ready ⟨true, false, false⟩ ⟨false, false, false⟩
    childWrite := fun t => if t = tick then 0 else 1, waitpid := fun _ => none }

/-- A client that runs `cat` and sends it these bytes. -/
def typed (tick : Nat) (bytes : List UInt8) : Host Server :=
  visit (clogged tick) 6 [openWith 5 1000, exec "cat", data bytes]

end Probe

theorem audit_room {A B : Nat} {seen : List Sight} (audit : Audit Traffic.enter (Room A B) ⟨0, 0, 0⟩ seen) :
    Each (fun before o => Room A B (traffic before) o) seen :=
  audit_iff_each.1 audit

/-- Three bytes fit into two pipes of two. -/
theorem echo_never_deadlocks_cat :
    (∀ before after, sights (Probe.typed 0 [1, 2, 3]).trace = before ++ after → ¬ Deadlocked 2 2 before) ∧
      ∀ pipes, PipeRun 2 2 (pipeActs (sights (Probe.typed 0 [1, 2, 3]).trace)) pipes →
        Each (fun before o => o.1 = .childRefused → (traffic before).left = 0) (sights (Probe.typed 0 [1, 2, 3]).trace) :=
  echo_never_deadlocks Sample.plain (Probe.clogged 0) Probe.setup
    (Probe.stream [Probe.openWith 5 1000, Probe.exec "cat", Probe.data [1, 2, 3]]) 6 2 2
    (audit_room (by rw [Probe.stream_eq]; decide +kernel))

/-- Into two pipes of one they do not: the third byte is refused. -/
theorem echo_deadlocks :
    ∃ before o after, sights (Probe.typed 143 [1, 2, 3]).trace = before ++ o :: after ∧ Deadlocked 1 1 before ∧
      o.1 = .childRefused := by
  have run : ((sights (Probe.typed 143 [1, 2, 3]).trace).drop 19).head?.map Prod.fst = some .childRefused ∧
      0 < (traffic ((sights (Probe.typed 143 [1, 2, 3]).trace).take 19)).left ∧
      pipeActs ((sights (Probe.typed 143 [1, 2, 3]).trace).take 19) = [.write [1], .write [2]] := by
    rw [Probe.typed, Probe.visit_eq]
    decide +kernel
  obtain ⟨first, unwritten, acts⟩ := run
  have there : ∃ o after, (sights (Probe.typed 143 [1, 2, 3]).trace).drop 19 = o :: after ∧ o.1 = .childRefused := by
    cases rest : (sights (Probe.typed 143 [1, 2, 3]).trace).drop 19 with
    | nil =>
        rw [rest] at first
        cases first
    | cons o after =>
        rw [rest] at first
        exact ⟨o, after, rfl, Option.some.inj first⟩
  obtain ⟨o, after, is, refused⟩ := there
  refine ⟨(sights (Probe.typed 143 [1, 2, 3]).trace).take 19, o, after, ?_, ⟨unwritten, ⟨[2], [1]⟩, ?_, rfl, rfl⟩, refused⟩
  · rw [← is, List.take_append_drop]
  · rw [acts]
    have one : PipeRun 1 1 [PipeAct.write [(1 : UInt8)]] ⟨[1], []⟩ :=
      (Path.nil _).snoc (PipeMove.write [1] [] [] (by decide))
    have copied : PipeRun 1 1 [PipeAct.write [(1 : UInt8)]] ⟨[], [1]⟩ :=
      one.snoc (PipeMove.copy 1 [] [] Nat.zero_lt_one)
    exact copied.snoc (PipeMove.write [2] [] [1] (by decide))

end NoxSsh.Server
