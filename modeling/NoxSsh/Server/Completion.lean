/-
# Server.Completion — how a session comes to its end

A session is over when the child's output is at an end and the child was reaped.
The end of the output is only noticed by a read, and the child is only watched
while the client's window is not empty: a child that is done is seen off in every
state but those in which its last byte took the last of the window
(`completes_iff`), and there the session waits for the client until it fails.
-/
import NoxSsh.Server.Replies

namespace NoxSsh.Server

open Theory Proc Wire Transport

set_option autoImplicit false

/-- Where a run of `serve_one` stops if its session is given no turns: at the top of
the session's loop, if it gets there. -/
def entered (noxtls : Noxtls) (env : Env) (setup : Setup) (inbox : List UInt8) (turns : Nat) :
    Outcome NetnoxReturn Unit × Host Server :=
  (do
    let now ← ask env.clock
    modify (setHandshakeDeadline (wrap64 (now + 30000)))
    failAs .failed (handshakeToEncrypted noxtls env)
    serveLoop noxtls env 0 turns 0 : Prog Server Unit).run ⟨setup.server, 0, inbox, []⟩

/-! ## A child that is done -/

/-- `poll` is interrupted some number of times and then answers. -/
inductive Polls (env : Env) (answer : PollAnswer → Prop) : Nat → Prop
  | now {t : Nat} (is : answer (env.poll t)) : Polls env answer t
  | interrupted {t : Nat} (is : env.poll t = .interrupted) (later : Polls env answer (t + 1)) : Polls env answer t

/-- The session polls the child too. -/
def watches (child : Child) (s : Server) : Bool := !child.outputEof && s.remoteWindowSize ≠ 0

/-- What `poll` answers if the client is silent and the child has closed its output. -/
def Silence (watched : Bool) : PollAnswer → Prop
  | .ready transport output =>
      watched = true ∧ transport = ⟨false, false, false⟩ ∧ (output.pollin || output.pollhup) = true
  | .timeout => watched = false
  | _ => False

/-- The child has exited and closed its output, all of it has been read, and the
client is silent. -/
structure Finished (env : Env) (child : Child) (h : Host Server) : Prop where
  output : ∀ t, h.tick ≤ t → env.childRead t = .eof
  exited : child.reaped = none → ∀ t, h.tick ≤ t → env.waitpid t ≠ none
  silent : Polls env (Silence (watches child h.self)) h.tick

section Session

variable {noxtls : Noxtls} {env : Env} {child : Child} {h : Host Server}

/-- Exit status, EOF and CLOSE follow within some number of turns, up to the first
that fails, and no packet is received for it. -/
def Completes (noxtls : Noxtls) (env : Env) (child : Child) (h : Host Server) : Prop :=
  ∃ turns status all before seen,
    sights ((sessionLoop noxtls env turns child).run h).2.trace = sights h.trace ++ (before ++ seen) ∧
    heardIn before = [] ∧ messages before = [] ∧
    SaysAll (channel h.self) [exitStatusMessage h.self.remoteChannelId (exitCode status),
      channelMessage 96 h.self.remoteChannelId, channelMessage 97 h.self.remoteChannelId] all seen ∧
    (all = true → ((sessionLoop noxtls env turns child).run h).1 = .ok ())

theorem saysAll_some {c : Channel} {payload : List UInt8} {more : List (List UInt8)} {all : Bool} {seen : List Sight}
    (calls : SaysAll c (payload :: more) all seen) : seen ≠ [] := by
  cases calls with
  | failed call => cases call with | failed due => simp
  | sent call => cases call with | sent due due' => simp

/-! ### The end of a turn -/

/-- The child is seen off: reaped if it has not been, and the client told. -/
def SeenOff (turn : Outcome NetnoxReturn Turn × Host Server) (h : Host Server) : Prop :=
  ∃ status all before seen, turn.1 = .ok (if all then .complete else .broken false) ∧
    sights turn.2.trace = sights h.trace ++ (before ++ seen) ∧ heardIn before = [] ∧ messages before = [] ∧
    SaysAll (channel h.self) [exitStatusMessage h.self.remoteChannelId (exitCode status),
      channelMessage 96 h.self.remoteChannelId, channelMessage 97 h.self.remoteChannelId] all seen

variable (env) in
theorem reapChild_reaps (exited : child.reaped = none → env.waitpid h.tick ≠ none) :
    ∃ status before h', (reapChild env child).run h = (.ok (some status), h') ∧
      sights h'.trace = sights h.trace ++ before ∧ heardIn before = [] ∧ messages before = [] ∧ h'.self = h.self := by
  rw [reapChild]
  cases reaped : child.reaped with
  | some status =>
      rw [if_neg (by simp)]
      exact ⟨status, [], h, rfl, by simp, rfl, rfl, rfl⟩
  | none =>
      obtain ⟨status, answer⟩ := Option.ne_none_iff_exists'.1 (exited reaped)
      rw [if_pos rfl]
      refine ⟨status, [(.childReaped status, channel h.self, rekeyDue h.self)],
        ⟨h.self, h.tick + 1, h.inbox, h.trace ++ [(.childReaped status, h.self)]⟩, ?_, ?_, rfl, rfl, rfl⟩
      · rw [ask_bind_run, answer]
        rfl
      · rw [sights_append, sights_loud rfl]

theorem sessionReap_seenOff (ended : child.outputEof = true)
    (exited : child.reaped = none → env.waitpid h.tick ≠ none) :
    SeenOff ((sessionReap noxtls env child).run h) h := by
  obtain ⟨status, before, h₁, reaps, observed, unheard, silent, same⟩ := reapChild_reaps env exited
  rw [sessionReap, bind_ok reaps]
  dsimp only
  rw [ended]
  dsimp only
  rcases farewell_spoke noxtls env (exitCode status) h₁ with
    ⟨h₂, ran, seen, spoken, observed', -⟩ | ⟨e, h₂, ran, seen, spoken, observed', -⟩
  · rw [same] at spoken
    refine ⟨status, true, before, seen, ?_, ?_, unheard, silent, spoken⟩
    · rw [bind_run, attempt_run, ran]
      rfl
    · rw [bind_run, attempt_run, ran]
      show sights h₂.trace = _
      rw [observed', observed, List.append_assoc]
  · rw [same] at spoken
    refine ⟨status, false, before, seen, ?_, ?_, unheard, silent, spoken⟩
    · rw [bind_run, attempt_run, ran]
      rfl
    · rw [bind_run, attempt_run, ran]
      show sights h₂.trace = _
      rw [observed', observed, List.append_assoc]

/-! ### Turns -/

theorem sessionTurn_interrupted (fresh : rekeyDue h.self = false) (is : env.poll h.tick = .interrupted) :
    (sessionTurn noxtls env child).run h = (.ok (.again child), { h with tick := h.tick + 1 }) := by
  rw [sessionTurn, self_bind_run]
  dsimp only
  rw [if_neg (by simp [fresh]), ask_bind_run, is]
  rfl

theorem sessionTurn_due (due : rekeyDue h.self = true) :
    (sessionTurn noxtls env child).run h = (.ok (.broken false), h) := by
  rw [sessionTurn, self_bind_run]
  dsimp only
  rw [if_pos due]
  rfl

/-- Nobody polls the child and the client is silent: the wait runs out. -/
theorem sessionTurn_idle (fresh : rekeyDue h.self = false) (running : child.outputEof = false)
    (is : env.poll h.tick = .timeout) :
    (sessionTurn noxtls env child).run h = (.ok (.broken false), { h with tick := h.tick + 1 }) := by
  rw [sessionTurn, self_bind_run]
  dsimp only
  rw [if_neg (by simp [fresh]), ask_bind_run, is]
  dsimp only
  rw [if_neg (by simp [running])]
  rfl

theorem readCap_pos {s : Server} (large : s.remoteWindowSize ≠ 0) : readCap s ≠ 0 := by
  unfold readCap
  dsimp only
  split <;> omega

/-- The read that notices the end of the output. -/
theorem sessionOutput_eof (is : env.childRead h.tick = .eof) :
    (sessionOutput noxtls env child).run h =
      (.ok (some { child with outputEof := true }), { h with tick := h.tick + 1 }) := by
  rw [sessionOutput, ask_bind_run, is]
  rfl

theorem sessionTurn_seenOff (fresh : rekeyDue h.self = false) (output : ∀ t, h.tick ≤ t → env.childRead t = .eof)
    (exited : child.reaped = none → ∀ t, h.tick ≤ t → env.waitpid t ≠ none)
    (silent : Silence (watches child h.self) (env.poll h.tick))
    (able : child.outputEof = true ∨ h.self.remoteWindowSize ≠ 0) :
    SeenOff ((sessionTurn noxtls env child).run h) h := by
  rw [sessionTurn, self_bind_run]
  dsimp only
  rw [if_neg (by simp [fresh]), ask_bind_run]
  cases answer : env.poll h.tick with
  | interrupted => simp [answer, Silence] at silent
  | error => simp [answer, Silence] at silent
  | timeout =>
      have unwatched : watches child h.self = false := by simpa [answer, Silence] using silent
      have ended : child.outputEof = true := by
        rcases able with ended | some
        · exact ended
        · simpa [watches, some] using unwatched
      dsimp only
      rw [if_pos ended]
      exact sessionReap_seenOff (h := { h with tick := h.tick + 1 }) ended fun alive => exited alive _ (Nat.le_succ _)
  | ready transport child' =>
      rw [answer] at silent
      obtain ⟨watched, rfl, ready⟩ := silent
      have watched' : (!child.outputEof && decide (h.self.remoteWindowSize ≠ 0)) = true := watched
      have large : h.self.remoteWindowSize ≠ 0 := by
        rw [Bool.and_eq_true] at watched'
        exact of_decide_eq_true watched'.2
      dsimp only
      rw [if_neg (by simp), if_neg (by simp), watched', ready, sessionChild, if_pos (Bool.and_self true),
        self_bind_run]
      dsimp only
      rw [if_neg (readCap_pos large), bind_ok (sessionOutput_eof (output _ (Nat.le_succ _)))]
      exact sessionReap_seenOff (h := { h with tick := h.tick + 1 + 1 }) rfl fun alive => exited alive _ (by simp; omega)

/-! ### The loop -/

theorem sessionLoop_again {turns : Nat} {child' : Child} {h' : Host Server}
    (turn : (sessionTurn noxtls env child).run h = (.ok (.again child'), h')) :
    (sessionLoop noxtls env (turns + 1) child).run h = (sessionLoop noxtls env turns child').run h' := by
  rw [sessionLoop, bind_ok turn]

theorem sessionLoop_broken {turns : Nat} {peerClosed : Bool} {h' : Host Server}
    (turn : (sessionTurn noxtls env child).run h = (.ok (.broken peerClosed), h')) :
    (sessionLoop noxtls env (turns + 1) child).run h =
      (if peerClosed then .ok () else .err .failed, { h' with self := setChannelOpen false h'.self }) := by
  rw [sessionLoop, bind_ok turn]
  dsimp only
  rw [modify_bind_run]
  cases peerClosed <;> rfl

theorem completes_seenOff (off : SeenOff ((sessionTurn noxtls env child).run h) h) : Completes noxtls env child h := by
  obtain ⟨status, all, before, seen, turn, observed, unheard, silent, spoken⟩ := off
  have ran : (sessionTurn noxtls env child).run h =
      (.ok (if all then .complete else .broken false), ((sessionTurn noxtls env child).run h).2) := by rw [← turn]
  refine ⟨1, status, all, before, seen, ?_, unheard, silent, spoken, ?_⟩
  · cases all with
    | true =>
        rw [sessionLoop, bind_ok ran]
        exact observed
    | false =>
        rw [sessionLoop_broken ran]
        exact observed
  · rintro rfl
    rw [sessionLoop, bind_ok ran]
    rfl

theorem completes_later (fresh : rekeyDue h.self = false) (is : env.poll h.tick = .interrupted)
    (later : Completes noxtls env child { h with tick := h.tick + 1 }) : Completes noxtls env child h := by
  obtain ⟨turns, status, all, before, seen, observed, rest⟩ := later
  refine ⟨turns + 1, status, all, before, seen, ?_⟩
  rw [sessionLoop_again (sessionTurn_interrupted fresh is)]
  exact ⟨observed, rest⟩

theorem completes_of_able (finished : Finished env child h) (fresh : rekeyDue h.self = false)
    (able : child.outputEof = true ∨ h.self.remoteWindowSize ≠ 0) : Completes noxtls env child h := by
  obtain ⟨output, exited, silent⟩ := finished
  obtain ⟨t, start⟩ : ∃ t, t = h.tick := ⟨_, rfl⟩
  obtain ⟨watched, same⟩ : ∃ watched, watched = watches child h.self := ⟨_, rfl⟩
  rw [← start, ← same] at silent
  induction silent generalizing h with
  | now is =>
      subst start same
      exact completes_seenOff (sessionTurn_seenOff fresh output exited is able)
  | interrupted is later ih =>
      subst start
      exact completes_later fresh is (ih (h := { h with tick := h.tick + 1 }) fresh able
        (fun t after => output t (by simp at after; omega)) (fun alive t after => exited alive t (by simp at after; omega))
        rfl same)

/-- With the window empty and the end of the output unread nothing more can be seen. -/
theorem stalls (silent : Polls env (Silence (watches child h.self)) h.tick)
    (unable : rekeyDue h.self = true ∨ child.outputEof = false ∧ h.self.remoteWindowSize = 0) (turns : Nat) :
    sights ((sessionLoop noxtls env turns child).run h).2.trace = sights h.trace := by
  obtain ⟨t, start⟩ : ∃ t, t = h.tick := ⟨_, rfl⟩
  obtain ⟨watched, same⟩ : ∃ watched, watched = watches child h.self := ⟨_, rfl⟩
  rw [← start, ← same] at silent
  induction silent generalizing h turns with
  | now is =>
      subst start same
      cases turns with
      | zero => rfl
      | succ turns =>
          by_cases due : rekeyDue h.self = true
          · rw [sessionLoop_broken (sessionTurn_due due)]
          · obtain ⟨running, empty⟩ := unable.resolve_left due
            have unwatched : watches child h.self = false := by simp [watches, empty]
            rw [unwatched] at is
            have idle : env.poll h.tick = .timeout := by
              cases answer : env.poll h.tick with
              | timeout => rfl
              | _ => simp [answer, Silence] at is
            rw [sessionLoop_broken (sessionTurn_idle (by simpa using due) running idle)]
  | interrupted is later ih =>
      subst start
      cases turns with
      | zero => rfl
      | succ turns =>
          by_cases due : rekeyDue h.self = true
          · rw [sessionLoop_broken (sessionTurn_due due)]
          · rw [sessionLoop_again (sessionTurn_interrupted (by simpa using due) is)]
            exact ih (h := { h with tick := h.tick + 1 }) unable turns rfl same

/-- **Completion.**  A child that is done is seen off without a packet of the client
exactly if the end of its output was read or the client's window is not empty, and
the rekey limit is not reached. -/
theorem completes_iff (finished : Finished env child h) :
    Completes noxtls env child h ↔
      rekeyDue h.self = false ∧ (child.outputEof = true ∨ h.self.remoteWindowSize ≠ 0) := by
  constructor
  · rintro ⟨turns, status, all, before, seen, observed, -, -, spoken, -⟩
    by_contra unable
    have unable : rekeyDue h.self = true ∨ child.outputEof = false ∧ h.self.remoteWindowSize = 0 := by
      cases due : rekeyDue h.self with
      | true => exact .inl rfl
      | false => simpa [due, not_or] using unable
    rw [stalls finished.silent unable] at observed
    have nothing : before ++ seen = [] := by simpa using observed
    exact saysAll_some spoken (List.append_eq_nil_iff.1 nothing).2
  · rintro ⟨fresh, able⟩
    exact completes_of_able finished fresh able

end Session

namespace Probe

/-- A request to run a command, no reply wanted. -/
def exec (command : String) : List UInt8 :=
  [98] ++ be32 0 ++ sshString (ascii "exec") ++ [0] ++ sshString (ascii command)

/-- The child's end of the pipe is closed whenever it is polled. -/
def hungUp : Env := { brisk with poll := fun _ => .ready ⟨false, false, false⟩ ⟨false, true, false⟩ }

/-- The session of a client that opened a channel with this window. -/
def session (env : Env) (window : Nat) : Outcome NetnoxReturn Unit × Host Server :=
  entered Sample.plain env setup (stream [openWith 5 window, exec "true"]) 6

end Probe

/-- While the window is open, a child that hung up is done. -/
theorem finished_hungUp {h : Host Server} (opened : h.self.remoteWindowSize = 1000) :
    Finished Probe.hungUp ⟨false, none⟩ h := by
  have watched : watches ⟨false, none⟩ h.self = true := by simp [watches, opened]
  refine ⟨fun _ _ => rfl, fun _ _ _ => by simp [Probe.hungUp, Probe.brisk, calm], .now ?_⟩
  rw [watched]
  exact ⟨rfl, rfl, rfl⟩

theorem completes_iff_hungUp :
    let h := (Probe.session Probe.hungUp 1000).2
    (Probe.session Probe.hungUp 1000).1 = .stuck ∧ h.self.sessionStarted = true ∧ (Completes Sample.plain Probe.hungUp ⟨false, none⟩ h ↔
      rekeyDue h.self = false ∧ ((⟨false, none⟩ : Child).outputEof = true ∨ h.self.remoteWindowSize ≠ 0)) := by
  have state : (Probe.session Probe.hungUp 1000).1 = .stuck ∧ (Probe.session Probe.hungUp 1000).2.self.sessionStarted = true ∧
      (Probe.session Probe.hungUp 1000).2.self.remoteWindowSize = 1000 := by
    rw [Probe.session, Probe.stream_eq]
    decide +kernel
  exact ⟨state.1, state.2.1, completes_iff (finished_hungUp state.2.2)⟩

/-- With an empty window the child's output is not watched: nothing more comes. -/
theorem finished_brisk {h : Host Server} (empty : h.self.remoteWindowSize = 0) :
    Finished Probe.brisk ⟨false, none⟩ h ∧ ¬ Completes Sample.plain Probe.brisk ⟨false, none⟩ h := by
  have unwatched : watches ⟨false, none⟩ h.self = false := by simp [watches, empty]
  have silent : Polls Probe.brisk (Silence (watches ⟨false, none⟩ h.self)) h.tick := by
    rw [unwatched]
    exact .now rfl
  refine ⟨⟨fun _ _ => rfl, fun _ _ _ => by simp [Probe.brisk, calm], silent⟩, ?_⟩
  rintro ⟨turns, status, all, before, seen, observed, -, -, spoken, -⟩
  rw [stalls silent (.inr ⟨rfl, empty⟩)] at observed
  have nothing : before ++ seen = [] := by simpa using observed
  exact saysAll_some spoken (List.append_eq_nil_iff.1 nothing).2

/-- A client that opened with an empty window and a child that wrote nothing: the
session never tells how it ended. -/
theorem empty_window_never_completes :
    let h := (Probe.session Probe.brisk 0).2
    (Probe.session Probe.brisk 0).1 = .stuck ∧ h.self.sessionStarted = true ∧ Finished Probe.brisk ⟨false, none⟩ h ∧
      ¬ Completes Sample.plain Probe.brisk ⟨false, none⟩ h := by
  have state : (Probe.session Probe.brisk 0).1 = .stuck ∧ (Probe.session Probe.brisk 0).2.self.sessionStarted = true ∧
      (Probe.session Probe.brisk 0).2.self.remoteWindowSize = 0 := by
    rw [Probe.session, Probe.stream_eq]
    decide +kernel
  have done := finished_brisk state.2.2
  exact ⟨state.1, state.2.1, done.1, done.2⟩

end NoxSsh.Server
