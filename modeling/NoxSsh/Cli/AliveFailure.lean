/-
# Cli.AliveFailure — what the shell does after a failed rekey or keepalive

`noxssh_wait_socket_or_keepalive` returns -1 when a rekey or a keepalive has failed, and
`noxssh_drain_shell_output` takes every number that is not positive and not -2 for the end
of the output: it returns 0, and `noxssh_interactive_shell` asks the user for a line and sends
it.  So the shell stops only where the sending fails as well.  If from the failure on the
transport moves nothing, and the user neither types `exit` nor ends the input, no byte follows
the failure and the loop ends with an error (`shell_stops`).
-/
import NoxSsh.Client.Broken
import NoxSsh.Client.Data
import NoxSsh.Cli.Session

namespace NoxSsh.Cli

open Theory Proc Wire Transport Client

set_option autoImplicit false

/-! ## Failures in a trace -/

def isAliveFailed : Event → Bool
  | .aliveFailed _ => true
  | _ => false

/-- What was recorded after the first failure. -/
def sinceFailure (trace : List (Event × Client)) : List (Event × Client) :=
  (trace.dropWhile fun e => !isAliveFailed e.1).tail

theorem sinceFailure_split {before after : List (Event × Client)} {t : Nat} {c : Client}
    (clean : ∀ e ∈ before, isAliveFailed e.1 = false) :
    sinceFailure (before ++ (.aliveFailed t, c) :: after) = after := by
  rw [sinceFailure, List.dropWhile_append_of_pos (fun e mem => by simp [clean e mem])]
  simp [isAliveFailed]

/-- From the time `t` on the transport moves nothing, and the user goes on typing. -/
structure DeadFrom (env : Env) (t : Nat) : Prop where
  sends : ∀ t', t ≤ t' → env.send t' = 0
  receives : ∀ t', t ≤ t' → env.recv t' = 0
  typed : ∀ t', t ≤ t' → ∃ line, env.fgets t' = some line ∧ line ≠ ascii "exit\n" ∧ line ≠ ascii "exit\r\n"

/-! ## Before a failure -/

section Before

variable {noxtls : Noxtls} {env : Env} {intervals : Intervals} {h₀ : Host Client}

/-- Nothing failed since `h₀`. -/
abbrev Clean (h₀ h : Host Client) : Prop := Since (fun e => isAliveFailed e = false) h₀ h

/-- Something failed since `h₀`, and the connection lived on. -/
def Survived (env : Env) (h₀ h : Host Client) : Prop :=
  ∃ t c new, h.trace = h₀.trace ++ new ∧ (.aliveFailed t, c) ∈ new ∧ ¬ DeadFrom env t

/-- Since `h₀` nothing failed with which the connection died. -/
def Unharmed (env : Env) (h₀ h : Host Client) : Prop := Clean h₀ h ∨ Survived env h₀ h

/-- The connection died with the first failure since `h₀`, and no byte went out since. -/
def Stopped (env : Env) (h₀ h : Host Client) : Prop :=
  ∃ t c before after, h.trace = h₀.trace ++ (before ++ (.aliveFailed t, c) :: after) ∧
    (∀ e ∈ before, isAliveFailed e.1 = false) ∧ wireOf after = [] ∧ t ≤ h.tick ∧ DeadFrom env t

theorem chatter_clean : KexChatter fun e => isAliveFailed e = false :=
  ⟨⟨⟨fun _ => rfl, rfl, rfl⟩, fun _ _ => rfl, fun _ _ => rfl⟩, ⟨fun _ => rfl, fun _ => rfl⟩,
    ⟨fun _ => rfl, fun _ _ _ => rfl⟩, fun _ _ _ _ => ⟨rfl, rfl⟩, rfl, fun _ => rfl, fun _ _ => rfl⟩

theorem Survived.grow {h h' : Host Client} (survived : Survived env h₀ h)
    (grown : ∃ more, h'.trace = h.trace ++ more) : Survived env h₀ h' := by
  obtain ⟨t, c, new, trace, mem, alive⟩ := survived
  obtain ⟨more, grown⟩ := grown
  exact ⟨t, c, new ++ more, by rw [grown, trace, List.append_assoc], List.mem_append_left _ mem, alive⟩

theorem Unharmed.clean {h h' : Host Client} (unharmed : Unharmed env h₀ h) (clean : Clean h h') :
    Unharmed env h₀ h' := by
  rcases unharmed with before | survived
  · exact .inl ((quiet_order _ _).trans before clean)
  · obtain ⟨-, new, grown, -⟩ := clean
    exact .inr (survived.grow ⟨new, grown⟩)

/-- What records no failure from wherever it starts. -/
theorem stays_unharmed {α : Type} {m : Prog Client α} (since : ∀ h, Stays (Clean h) (Clean h) m) :
    Stays (Unharmed env h₀) (Unharmed env h₀) m := by
  have always : Always (fun h h' => Clean h h') m := fun h => (since h).keeps h ((quiet_order _ _).refl h)
  exact stays_of_always (fun _ => id) always fun h h' clean unharmed => unharmed.clean clean

theorem serving_clean (h : Host Client) : Serving noxtls env (Clean h) (Clean h) (Clean h) :=
  serving_since chatter_clean (fun _ _ _ _ => ⟨rfl, rfl⟩) h

theorem asks_clean (h : Host Client) : Clean h { h with tick := h.tick + 1 } := quiet_of_eq rfl rfl

theorem looping_unharmed : Looping noxtls env (Unharmed env h₀)
    (fun h => Unharmed env h₀ h ∨ Stopped env h₀ h) (Unharmed env h₀) where
  asks h unharmed := unharmed.clean (asks_clean h)
  rekeys := stays_unharmed fun h => (serving_clean h).rekeys
  keepalives := stays_unharmed fun h => (serving_clean h).sendsKeepalive
  weaker _ := id
  receives := stays_unharmed fun h =>
    (serving_clean h).receivesData (fun _ _ since => quiet_update since fun _ => rfl) maxDataLen
  prints data h unharmed := unharmed.clean (quiet_log ((quiet_order _ _).refl h) rfl)
  fails h unharmed := by
    rcases unharmed with ⟨-, before, trace, clean⟩ | survived
    · by_cases dead : DeadFrom env h.tick
      · exact .inr ⟨h.tick, h.self, before, [], by simp [trace], fun e mem => (clean e mem).1, rfl, le_rfl, dead⟩
      · exact .inl (.inr ⟨h.tick, h.self, before ++ [(.aliveFailed h.tick, h.self)], by simp [trace], by simp, dead⟩)
    · exact .inl (.inr (survived.grow ⟨_, rfl⟩))

end Before

/-! ## After it -/

section After

variable {noxtls : Noxtls} {env : Env} {intervals : Intervals} {h₀ : Host Client}

theorem broken_stopped : Broken env (Stopped env h₀) where
  asks h stopped := by
    obtain ⟨t, c, before, after, trace, clean, silent, passed, dead⟩ := stopped
    exact ⟨t, c, before, after, trace, clean, silent, by dsimp only; omega, dead⟩
  changes _ _ stopped := stopped
  logs e h quiet stopped := by
    obtain ⟨t, c, before, after, trace, clean, silent, passed, dead⟩ := stopped
    refine ⟨t, c, before, after ++ [(e, h.self)], by simp [trace], clean, ?_, passed, dead⟩
    rw [wireOf_append, silent, wireOf_single, quiet, List.append_nil]
  sends h stopped := by
    obtain ⟨t, _, _, _, _, _, _, passed, dead⟩ := stopped
    exact dead.sends h.tick passed
  receives h stopped := by
    obtain ⟨t, _, _, _, _, _, _, passed, dead⟩ := stopped
    exact dead.receives h.tick passed

theorem Dooms.endures {α : Type} {I : Host Client → Prop} {m : Prog Client α} (dooms : Dooms I m) : Endures I m :=
  Triple.mono dooms (fun _ => id) (fun _ _ never => never.elim) fun _ _ => id

theorem waiting_stopped : Waiting noxtls env (Stopped env h₀) (Stopped env h₀) fun _ => False where
  asks := broken_stopped.asks
  rekeys := Dooms.endures (dooms_rekey broken_stopped)
  keepalives := Dooms.endures (dooms_sendKeepalive broken_stopped)
  fails h := broken_stopped.logs _ h rfl

/-- A drain finds no end of the output. -/
theorem drains_stopped (firstWaitMs : Nat) (a : Alive) :
    Triple (Stopped env h₀) (drainShellOutput noxtls env intervals firstWaitMs a)
      (fun r h => Stopped env h₀ h ∧ r.1 ≠ .closed) (Hangs fun _ => False) := by
  apply triple_bind (Q := fun _ => Stopped env h₀)
  · exact (waiting_stopped.waits _ _ _).mono (fun _ => id) (fun _ _ either => either.elim id And.left) fun _ _ => id
  · rintro ⟨waited, a⟩
    cases waited with
    | readable =>
        have first : ∀ turns, Triple (Stopped env h₀) (drainLoop noxtls env intervals (turns + 1) a)
            (fun r h => Stopped env h₀ h ∧ r.1 ≠ .closed) (Hangs fun _ => False) := by
          intro turns
          apply triple_bind (dooms_attempt (dooms_recvData broken_stopped maxDataLen))
          intro received
          apply triple_given
          rintro rfl
          exact triple_pure _ fun h stopped => ⟨stopped, by simp⟩
        exact ⟨fun h stopped => (first h.inbox.length).ends h stopped⟩
    | aliveTimeout => exact triple_pure _ fun h stopped => ⟨stopped, by simp⟩
    | timeout => exact triple_pure _ fun h stopped => ⟨stopped, by simp⟩
    | failed => exact triple_pure _ fun h stopped => ⟨stopped, by simp⟩

/-- The line of the user is not sent. -/
theorem takesInput_stopped (a : Alive) : Triple (Stopped env h₀) (takeInput noxtls env a)
    (fun r h => Stopped env h₀ h ∧ r = .error .sendFailed) (Hangs fun _ => False) := by
  constructor
  intro h stopped
  obtain ⟨line, is, noExit, noExitCr⟩ : ∃ line, env.fgets h.tick = some line ∧ line ≠ ascii "exit\n" ∧
      line ≠ ascii "exit\r\n" := by
    obtain ⟨t, _, _, _, _, _, _, passed, dead⟩ := stopped
    exact dead.typed h.tick passed
  rw [takeInput, ask_bind_run, is]
  dsimp only
  rw [if_neg (by simp [noExit, noExitCr])]
  refine Triple.ends (P := Stopped env h₀) ?_ _ (broken_stopped.asks h stopped)
  apply triple_bind (dooms_attempt (dooms_sendData broken_stopped line))
  intro sent
  apply triple_given
  rintro rfl
  exact triple_pure _ fun h stopped => ⟨stopped, rfl⟩

/-- The result of a turn that ends the loop with an error. -/
def EndsBadly (r : Except ShellEnd Alive) : Prop := ∃ shellEnd, r = .error shellEnd ∧ shellEnd.isError = true

/-- What is not the end of the output is no good end. -/
theorem leftBy_some {ended : Drained} {shellEnd : ShellEnd} (left : leftBy ended = some shellEnd)
    (other : ended ≠ .closed) : shellEnd.isError = true := by
  cases ended with
  | closed => exact absurd rfl other
  | drained => cases left
  | failed =>
      obtain rfl := Option.some.inj left
      rfl
  | aliveTimeout =>
      obtain rfl := Option.some.inj left
      rfl

/-- The rest of a turn from the user's line on. -/
theorem entersLine_stopped {rest : Except ShellEnd Alive → Prog Client (Except ShellEnd Alive)}
    (ends : ∀ shellEnd, rest (.error shellEnd) = pure (.error shellEnd)) (a : Alive) :
    Triple (Stopped env h₀) (takeInput noxtls env a >>= rest)
      (fun r h => Stopped env h₀ h ∧ EndsBadly r) (Hangs fun _ => False) := by
  apply triple_bind (takesInput_stopped a)
  intro taken
  apply triple_given
  rintro rfl
  rw [ends]
  exact triple_pure _ fun h stopped => ⟨stopped, _, rfl, rfl⟩

theorem turns_stopped (a : Alive) : Triple (Stopped env h₀) (shellTurn noxtls env intervals a)
    (fun r h => Stopped env h₀ h ∧ EndsBadly r) (Hangs fun _ => False) := by
  apply triple_bind (drains_stopped _ _)
  rintro ⟨ended, a⟩
  apply triple_given
  intro other
  dsimp only
  cases left : leftBy ended with
  | some shellEnd =>
      exact triple_pure _ fun h stopped => ⟨stopped, shellEnd, rfl, leftBy_some left other⟩
  | none =>
      apply entersLine_stopped
      exact fun _ => rfl

end After

/-! ## The loop -/

section Loop

variable {noxtls : Noxtls} {env : Env} {intervals : Intervals} {h₀ : Host Client}

theorem takesInput_unharmed (a : Alive) :
    Triple (Unharmed env h₀) (takeInput noxtls env a) (fun _ => Unharmed env h₀) (Hangs (Unharmed env h₀)) := by
  have returns : ∀ r, Triple (Unharmed env h₀) (pure r : Prog Client (Except ShellEnd Alive))
      (fun _ => Unharmed env h₀) (Hangs (Unharmed env h₀)) := fun r => triple_pure r fun _ => id
  apply triple_bind (triple_ask fun h unharmed => unharmed.clean (asks_clean h))
  intro line
  cases line with
  | none => exact returns _
  | some line =>
      apply triple_ite fun _ => returns _
      intro _
      have sends : Stays (Unharmed env h₀) (Unharmed env h₀) (sendData noxtls env line) :=
        stays_unharmed fun h => sendData_since chatter_clean h (fun _ _ => ⟨rfl, rfl⟩) line
      apply triple_bind (caught sends)
      intro sent
      cases sent with
      | none => exact returns _
      | some _ =>
          apply triple_bind ((@looping_unharmed noxtls env h₀).toWaiting.hears a)
          exact fun _ => returns _

/-- Unharmed, or the connection died with a failure that said nothing. -/
theorem drains_unharmed (firstWaitMs : Nat) (a : Alive) :
    Triple (Unharmed env h₀) (drainShellOutput noxtls env intervals firstWaitMs a)
      (fun r h => Unharmed env h₀ h ∨ (Stopped env h₀ h ∧ r.1 = .drained)) (Hangs (Unharmed env h₀)) := by
  apply (looping_unharmed.drains firstWaitMs a).mono (fun _ => id) _ fun _ _ => id
  rintro ⟨ended, a⟩ h (unharmed | ⟨unharmed | stopped, is⟩)
  · exact .inl unharmed
  · exact .inl unharmed
  · exact .inr ⟨stopped, is⟩

theorem triple_or {α : Type} {P P' : Host Client → Prop} {m : Prog Client α} {Q : α → Host Client → Prop}
    {E : Option NetnoxReturn → Host Client → Prop} (first : Triple P m Q E) (second : Triple P' m Q E) :
    Triple (fun h => P h ∨ P' h) m Q E :=
  ⟨fun h either => either.elim (first.ends h) (second.ends h)⟩

/-- Unharmed, or the connection died and the loop goes on or ends with an error. -/
def Turned (env : Env) (h₀ : Host Client) (r : Except ShellEnd Alive) (h : Host Client) : Prop :=
  Unharmed env h₀ h ∨ (Stopped env h₀ h ∧ (EndsBadly r ∨ ∃ a, r = .ok a))

/-- What ends badly is no matter of the connection's death. -/
theorem turns_stopped_rest {m : Prog Client (Except ShellEnd Alive)} (turns : Triple (Stopped env h₀) m
    (fun r h => Stopped env h₀ h ∧ EndsBadly r) (Hangs fun _ => False)) :
    Triple (Stopped env h₀) m (Turned env h₀) (Hangs (Unharmed env h₀)) := by
  apply turns.mono (fun _ => id)
  · exact fun r h ⟨stopped, bad⟩ => .inr ⟨stopped, .inl bad⟩
  · rintro (_ | e) h never
    · exact never.elim
    · exact never.elim

theorem turns_unharmed (a : Alive) : Triple (Unharmed env h₀) (shellTurn noxtls env intervals a)
    (Turned env h₀) (Hangs (Unharmed env h₀)) := by
  have returns : ∀ r, Triple (Unharmed env h₀) (pure r) (Turned env h₀) (Hangs (Unharmed env h₀)) := fun r =>
    triple_pure r fun _ => .inl
  apply triple_bind (drains_unharmed _ _)
  rintro ⟨ended, a⟩
  apply triple_or
  · dsimp only
    cases leftBy ended with
    | some shellEnd => exact returns _
    | none =>
        apply triple_bind (takesInput_unharmed a)
        intro taken
        cases taken with
        | error shellEnd => exact returns _
        | ok a =>
            apply triple_bind (drains_unharmed _ _)
            rintro ⟨ended, a⟩
            apply triple_or
            · dsimp only
              cases leftBy ended with
              | some shellEnd => exact returns _
              | none => exact returns _
            · apply triple_given
              rintro rfl
              exact triple_pure _ fun h stopped => .inr ⟨stopped, .inr ⟨a, rfl⟩⟩
  · apply triple_given
    rintro rfl
    apply turns_stopped_rest
    apply entersLine_stopped
    exact fun _ => rfl

/-- A loop over which the connection has died ends in this turn. -/
theorem loops_stopped (turns : Nat) (a : Alive) : Triple (Stopped env h₀) (shellLoop noxtls env intervals (turns + 1) a)
    (fun shellEnd h => Stopped env h₀ h ∧ shellEnd.isError = true) (Hangs fun _ => False) := by
  apply triple_bind (turns_stopped a)
  intro r
  apply triple_given
  rintro ⟨shellEnd, rfl, bad⟩
  exact triple_pure _ fun h stopped => ⟨stopped, bad⟩

/-- How a loop over which the connection died ends. -/
def StopsBadly (env : Env) (h₀ : Host Client) (r : Outcome NetnoxReturn ShellEnd × Host Client) : Prop :=
  ∃ shellEnd h, r = (.ok shellEnd, h) ∧ shellEnd.isError = true ∧ Stopped env h₀ h

theorem stopsBadly_loop (turns : Nat) (a : Alive) {h : Host Client} (stopped : Stopped env h₀ h) :
    StopsBadly env h₀ ((shellLoop noxtls env intervals (turns + 1) a).run h) := by
  have post := (@loops_stopped noxtls env intervals h₀ turns a).ends h stopped
  revert post
  rcases (shellLoop noxtls env intervals (turns + 1) a).run h with ⟨o, h'⟩
  cases o with
  | ok shellEnd => exact fun post => ⟨shellEnd, h', rfl, post.2, post.1⟩
  | err e => exact False.elim
  | stuck => exact False.elim

/-- A loop that is unharmed, or over which the connection died: then a turn more ends it.  By
induction on the turns. -/
theorem loops_unharmed (turns : Nat) (a : Alive) {h : Host Client} (unharmed : Unharmed env h₀ h) :
    Unharmed env h₀ ((shellLoop noxtls env intervals turns a).run h).2 ∨
      (Stopped env h₀ ((shellLoop noxtls env intervals turns a).run h).2 ∧
        StopsBadly env h₀ ((shellLoop noxtls env intervals (turns + 1) a).run h)) := by
  induction turns generalizing a h with
  | zero => exact .inl unharmed
  | succ turns ih =>
      have turned := (@turns_unharmed noxtls env intervals h₀ a).ends h unharmed
      rw [shellLoop, shellLoop, bind_run, bind_run]
      revert turned
      rcases (shellTurn noxtls env intervals a).run h with ⟨o, h₁⟩
      cases o with
      | err e => exact False.elim
      | stuck => exact .inl
      | ok r =>
          rintro (unharmed | ⟨stopped, ended⟩)
          · cases r with
            | error shellEnd => exact .inl unharmed
            | ok a => exact ih a unharmed
          · rcases ended with ⟨shellEnd, rfl, bad⟩ | ⟨a, rfl⟩
            · exact .inr ⟨stopped, shellEnd, h₁, rfl, bad, stopped⟩
            · refine .inr ⟨?_, stopsBadly_loop turns a stopped⟩
              cases turns with
              | zero => exact stopped
              | succ turns =>
                  obtain ⟨shellEnd, h₂, ran, -, still⟩ := @stopsBadly_loop noxtls env intervals h₀ turns a h₁ stopped
                  dsimp only
                  rw [ran]
                  exact still

end Loop

/-- The first failure since `h₀` and everything after it. -/
theorem Stopped.silent {env : Env} {h₀ h : Host Client} {new : List (Event × Client)} (stopped : Stopped env h₀ h)
    (grown : h.trace = h₀.trace ++ new) : wireOf (sinceFailure new) = [] := by
  obtain ⟨t, c, before, after, trace, clean, silent, -, -⟩ := stopped
  obtain rfl : new = before ++ (.aliveFailed t, c) :: after := List.append_cancel_left (grown.symm.trans trace)
  rw [sinceFailure_split clean, silent]

namespace Probe

/-- Nothing comes in, a keepalive is due after a second, and the user types a line. -/
def quiet : Env :=
  { Client.Probe.brisk with
    select := fun _ => .timeout, time := fun t => if t = 0 then 1000 else 2000, fgets := fun _ => some (ascii "ls\n") }

def eager : Intervals := ⟨1, 3, 0⟩

/-- The packet of the first keepalive is not taken. -/
def stumbling : Env := { quiet with send := fun t => if t = 4 then 0 else 65536 }

/-- Nor is any other. -/
def dead : Env := { quiet with send := fun _ => 0, recv := fun _ => 0 }

/-- One turn of the shell. -/
def turned (env : Env) : Outcome NetnoxReturn ShellEnd × Host Client :=
  (interactiveShell Client.Probe.noxtls env eager 1).run (Client.Probe.opened 0 [])

end Probe

end NoxSsh.Cli
