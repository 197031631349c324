/-
# Cli.Session — the loops of the command line client

With an open channel `main` either prints the output of a command
(`noxssh_print_channel_output`) and takes its exit status, or runs the interactive shell
(`noxssh_interactive_shell`).  Both wait for the socket in slices of 250 ms, and in every
slice they may rekey and send a keepalive (`noxssh_wait_socket_or_keepalive`).

The functions return small numbers with three conventions.  Here every function has a type
of its own for them, with the source's number beside each value.  They do not fail: what
fails inside them is caught.
-/
import NoxSsh.Client.Calls

namespace NoxSsh.Cli

open Theory Proc Wire Transport Client

set_option autoImplicit false

/-- The options that concern the loops. -/
structure Intervals where
  keepaliveIntervalSec : Nat
  keepaliveCountMax : Nat
  rekeyIntervalSec : Nat

/-- What a loop hands from one wait to the next. -/
structure Alive where
  ioQuietSinceSec : Nat
  unansweredKeepaliveCount : Nat
  lastRekeySec : Nat

/-- What `noxssh_wait_socket_or_keepalive` returns. -/
inductive Waited where
  /-- Positive: there is something to read. -/
  | readable
  /-- 0 -/
  | timeout
  /-- -1 -/
  | failed
  /-- -2 -/
  | aliveTimeout
  deriving DecidableEq, Repr

/-- How `noxssh_print_channel_output` ended. -/
inductive Printed where
  | aliveTimeout
  | connectionLost
  | receiveFailed
  | outputEnded
  deriving DecidableEq, Repr

/-- What `noxssh_drain_shell_output` returns. -/
inductive Drained where
  /-- 1 -/
  | closed
  /-- 0 -/
  | drained
  /-- -1 -/
  | failed
  /-- -2 -/
  | aliveTimeout
  deriving DecidableEq, Repr

/-- How `noxssh_interactive_shell` ended. -/
inductive ShellEnd where
  | aliveTimeout
  | receiveFailed
  | channelClosed
  | inputEnded
  | exitTyped
  | sendFailed
  deriving DecidableEq, Repr

/-- The loop was left with one of its `ERROR` messages. -/
def ShellEnd.isError : ShellEnd → Bool
  | .aliveTimeout | .receiveFailed | .sendFailed => true
  | _ => false

section Functions

variable (noxtls : Noxtls) (env : Env) (intervals : Intervals)

/-- Record that a rekey or a keepalive failed. -/
def logAliveFailed : Prog Client Unit :=
  update fun h => { h with trace := h.trace ++ [(.aliveFailed h.tick, h.self)] }

/-- `noxssh_maybe_rekey`: the time of the last rekey, none if one fails. -/
def maybeRekey (lastRekeySec : Nat) : Prog Client (Option Nat) := do
  if intervals.rekeyIntervalSec = 0 then pure (some lastRekeySec)
  else do
    let nowSec ← ask env.time
    if nowSec < wrap64 (lastRekeySec + intervals.rekeyIntervalSec) then pure (some lastRekeySec)
    else do
      let rekeyed ← attempt (rekey noxtls env)
      match rekeyed with
      | none => pure none
      | some _ => pure (some nowSec)

/-- What a slice without an event does for the keepalive: it goes on, or it ends the wait. -/
def keepAlive (a : Alive) : Prog Client (Option Waited × Alive) := do
  if intervals.keepaliveIntervalSec = 0 then pure (none, a)
  else do
    let nowSec ← ask env.time
    if wrap64 (a.ioQuietSinceSec + intervals.keepaliveIntervalSec) ≤ nowSec then do
      let sent ← attempt (sendKeepalive noxtls env)
      match sent with
      | none => do
          logAliveFailed
          pure (some .failed, a)
      | some _ =>
          let count := wrap32 (a.unansweredKeepaliveCount + 1)
          if 0 < intervals.keepaliveCountMax ∧ intervals.keepaliveCountMax < count then
            pure (some .aliveTimeout, { a with unansweredKeepaliveCount := count })
          else pure (none, { a with unansweredKeepaliveCount := count, ioQuietSinceSec := nowSec })
    else pure (none, a)

/-- The slices of a wait, with what is left of it; every slice takes some. -/
def waitSlices : Nat → Nat → Alive → Prog Client (Waited × Alive)
  | 0, _, a => pure (.timeout, a)
  | turns + 1, remaining, a => do
      if remaining = 0 then pure (.timeout, a)
      else do
        let rekeyed ← maybeRekey noxtls env intervals a.lastRekeySec
        match rekeyed with
        | none => do
            logAliveFailed
            pure (.failed, a)
        | some lastRekeySec => do
            let a := { a with lastRekeySec := lastRekeySec }
            let ready ← ask env.select
            match ready with
            | .readable => pure (.readable, a)
            | .error => pure (.failed, a)
            | .timeout => do
                let (ended, a) ← keepAlive noxtls env intervals a
                match ended with
                | some waited => pure (waited, a)
                | none => waitSlices turns (remaining - min remaining 250) a

/-- `noxssh_wait_socket_or_keepalive`; no wait is zero in the callers. -/
def waitSocketOrKeepalive (waitMs : Nat) (a : Alive) : Prog Client (Waited × Alive) :=
  waitSlices noxtls env intervals waitMs waitMs a

/-- What both loops begin with. -/
def startAlive : Prog Client Alive := do
  let nowSec ← ask env.time
  pure ⟨nowSec, 0, nowSec⟩

/-- Output was printed: the peer is alive. -/
def heardFrom (a : Alive) : Prog Client Alive := do
  let nowSec ← ask env.time
  pure { a with ioQuietSinceSec := nowSec, unansweredKeepaliveCount := 0 }

/-! ## Command mode -/

/-- The loop of `noxssh_print_channel_output`. -/
def printLoop : Nat → Alive → Prog Client Printed
  | 0, _ => stall
  | turns + 1, a => do
      let (waited, a) ← waitSocketOrKeepalive noxtls env intervals 1000 a
      match waited with
      | .aliveTimeout => pure .aliveTimeout
      | .failed => pure .connectionLost
      | .timeout => printLoop turns a
      | .readable => do
          let received ← attempt (recvData noxtls env maxDataLen)
          match received with
          | none => pure .receiveFailed
          | some [] => pure .outputEnded
          | some data => do
              log (.printed data)
              let a ← heardFrom env a
              printLoop turns a

/-- `noxssh_print_channel_output`. -/
def printChannelOutput (turns : Nat) : Prog Client Printed := do
  log .outputStarted
  let a ← startAlive env
  printLoop noxtls env intervals turns a

/-- `netnox_ssh_client_get_remote_exit_status`. -/
def getRemoteExitStatus (c : Client) : Option Nat :=
  if c.remoteExitStatusValid = true then some c.remoteExitStatus else none

/-- What `main` returns in command mode. -/
def appExitCode (c : Client) : Nat :=
  match getRemoteExitStatus c with
  | some remoteStatus => remoteStatus % 256
  | none => 0

/-- `main` from the output of the command on: the exit code. -/
def commandOutput (turns : Nat) : Prog Client Nat := do
  let _ ← printChannelOutput noxtls env intervals turns
  let c ← self
  pure (appExitCode c)

/-! ## Interactive mode -/

/-- What `noxssh_drain_shell_output` makes of a wait. -/
def drainAfter (next : Alive → Prog Client (Drained × Alive)) : Waited × Alive → Prog Client (Drained × Alive)
  | (.aliveTimeout, a) => pure (.aliveTimeout, a)
  | (.readable, a) => next a
  | (_, a) => pure (.drained, a)

/-- The loop of `noxssh_drain_shell_output`. -/
def drainLoop : Nat → Alive → Prog Client (Drained × Alive)
  | 0, _ => stall
  | turns + 1, a => do
      let received ← attempt (recvData noxtls env maxDataLen)
      match received with
      | none => pure (.failed, a)
      | some [] => pure (.closed, a)
      | some data => do
          log (.printed data)
          let a ← heardFrom env a
          let waited ← waitSocketOrKeepalive noxtls env intervals 60 a
          drainAfter (drainLoop turns) waited

/-- `noxssh_drain_shell_output`. -/
def drainShellOutput (firstWaitMs : Nat) (a : Alive) : Prog Client (Drained × Alive) := do
  let waited ← waitSocketOrKeepalive noxtls env intervals firstWaitMs a
  drainAfter (fun a => byInbox fun turns => drainLoop noxtls env intervals turns a) waited

/-- What the shell makes of a drain: it goes on or it is left. -/
def leftBy : Drained → Option ShellEnd
  | .aliveTimeout => some .aliveTimeout
  | .failed => some .receiveFailed
  | .closed => some .channelClosed
  | .drained => none

/-- A line of input: it is sent, unless it is the last. -/
def takeInput (a : Alive) : Prog Client (Except ShellEnd Alive) := do
  let line ← ask env.fgets
  match line with
  | none => pure (.error .inputEnded)
  | some line =>
      if line = ascii "exit\n" ∨ line = ascii "exit\r\n" then pure (.error .exitTyped)
      else do
        let sent ← attempt (sendData noxtls env line)
        match sent with
        | none => pure (.error .sendFailed)
        | some _ => do
            let a ← heardFrom env a
            pure (.ok a)

/-- One turn of the loop of `noxssh_interactive_shell`: the loop goes on, or it is left. -/
def shellTurn (a : Alive) : Prog Client (Except ShellEnd Alive) := do
  let (ended, a) ← drainShellOutput noxtls env intervals 250 a
  match leftBy ended with
  | some shellEnd => pure (.error shellEnd)
  | none => do
      let taken ← takeInput noxtls env a
      match taken with
      | .error shellEnd => pure (.error shellEnd)
      | .ok a => do
          let (ended, a) ← drainShellOutput noxtls env intervals 300 a
          match leftBy ended with
          | some shellEnd => pure (.error shellEnd)
          | none => pure (.ok a)

/-- The loop of `noxssh_interactive_shell`. -/
def shellLoop : Nat → Alive → Prog Client ShellEnd
  | 0, _ => stall
  | turns + 1, a => do
      let turned ← shellTurn noxtls env intervals a
      match turned with
      | .error shellEnd => pure shellEnd
      | .ok a => shellLoop turns a

/-- `noxssh_interactive_shell`. -/
def interactiveShell (turns : Nat) : Prog Client ShellEnd := do
  let a ← startAlive env
  shellLoop noxtls env intervals turns a

end Functions

/-! ## What the loops keep -/

/-- The steps of a wait keep `I`; where a rekey or a keepalive has failed, there is `F`. -/
structure Waiting (noxtls : Noxtls) (env : Env) (I F S : Host Client → Prop) : Prop where
  asks : ∀ h, I h → I { h with tick := h.tick + 1 }
  rekeys : Stays I S (rekey noxtls env)
  keepalives : Stays I S (sendKeepalive noxtls env)
  fails : ∀ h, I h → F { h with trace := h.trace ++ [(.aliveFailed h.tick, h.self)] }

/-- So do the steps of a loop. -/
structure Looping (noxtls : Noxtls) (env : Env) (I F S : Host Client → Prop) : Prop extends
    Waiting noxtls env I F S where
  weaker : ∀ h, I h → S h
  receives : Stays I S (recvData noxtls env maxDataLen)
  prints : ∀ data h, I h → I { h with trace := h.trace ++ [(.printed data, h.self)] }

/-- The invariant goes on, or there was a failure and `mark` was returned. -/
def OrFailed (I F : Host Client → Prop) {α : Type} (mark : α) (r : α × Alive) (h : Host Client) : Prop :=
  I h ∨ (F h ∧ r.1 = mark)

/-- No failure leaves the loops; where they have not come back, there is `S`. -/
abbrev Hangs (S : Host Client → Prop) : Option NetnoxReturn → Host Client → Prop := Breaks (fun _ => False) S

section Looping

variable {noxtls : Noxtls} {env : Env} {intervals : Intervals} {I F S : Host Client → Prop} {α : Type} {mark : α}

theorem goes_on (r : α × Alive) : Triple I (pure r : Prog Client (α × Alive)) (OrFailed I F mark) (Hangs S) :=
  triple_pure r fun _ => .inl

/-- Another value means that nothing failed. -/
theorem OrFailed.kept {r : α × Alive} {h : Host Client} (either : OrFailed I F mark r h) (other : r.1 ≠ mark) : I h :=
  either.elim id fun failed => absurd failed.2 other

/-- What fails in a loop is caught. -/
theorem caught {β : Type} {m : Prog Client β} (stays : Stays I S m) :
    Triple I (attempt m) (fun _ => I) (Hangs S) :=
  Triple.caught (Q := fun _ => I) stays fun _ => id

section Waiting

variable (waiting : Waiting noxtls env I F S)

include waiting

theorem Waiting.maybeRekeys (lastRekeySec : Nat) :
    Triple I (maybeRekey noxtls env intervals lastRekeySec) (fun _ => I) (Hangs S) := by
  have returns : ∀ last, Triple I (pure last : Prog Client (Option Nat)) (fun _ => I) (Hangs S) := fun last =>
    triple_pure last fun _ => id
  apply triple_ite fun _ => returns _
  intro _
  apply triple_bind (triple_ask waiting.asks)
  intro nowSec
  apply triple_ite fun _ => returns _
  intro _
  apply triple_bind (caught waiting.rekeys)
  intro rekeyed
  cases rekeyed with
  | none => exact returns _
  | some _ => exact returns _

theorem Waiting.logsFailure (a : Alive) :
    Triple I (logAliveFailed >>= fun _ => pure (mark, a)) (OrFailed I F mark) (Hangs S) := by
  apply triple_bind (Q := fun _ => F)
  · exact triple_update waiting.fails
  · exact fun _ => triple_pure _ fun _ failed => .inr ⟨failed, rfl⟩

theorem Waiting.keepsAlive (a : Alive) :
    Triple I (keepAlive noxtls env intervals a) (OrFailed I F (some .failed)) (Hangs S) := by
  apply triple_ite fun _ => goes_on _
  intro _
  apply triple_bind (triple_ask waiting.asks)
  intro nowSec
  apply triple_ite _ fun _ => goes_on _
  intro _
  apply triple_bind (caught waiting.keepalives)
  intro sent
  cases sent with
  | none => exact waiting.logsFailure _
  | some _ => exact triple_ite (fun _ => goes_on _) fun _ => goes_on _

/-- By induction on the slices of the wait. -/
theorem Waiting.waits (turns remaining : Nat) (a : Alive) :
    Triple I (waitSlices noxtls env intervals turns remaining a) (OrFailed I F .failed) (Hangs S) := by
  induction turns generalizing remaining a with
  | zero => exact goes_on _
  | succ turns ih =>
      apply triple_ite fun _ => goes_on _
      intro _
      apply triple_bind (waiting.maybeRekeys _)
      intro rekeyed
      cases rekeyed with
      | none => exact waiting.logsFailure _
      | some lastRekeySec =>
          apply triple_bind (triple_ask waiting.asks)
          intro ready
          cases ready with
          | readable => exact goes_on _
          | error => exact goes_on _
          | timeout =>
              apply triple_bind (waiting.keepsAlive _)
              rintro ⟨ended, a⟩
              cases ended with
              | none => exact (ih _ _).mono (fun h either => either.kept (by simp)) (fun _ _ => id) fun _ _ => id
              | some waited =>
                  apply triple_pure
                  rintro h (kept | ⟨failed, is⟩)
                  · exact .inl kept
                  · exact .inr ⟨failed, Option.some.inj is⟩

theorem Waiting.hears (a : Alive) : Triple I (heardFrom env a) (fun _ => I) (Hangs S) :=
  triple_bind (triple_ask waiting.asks) fun _ => triple_pure _ fun _ => id

end Waiting

variable (looping : Looping noxtls env I F S)

include looping

theorem Looping.logsOutput (data : List UInt8) :
    Triple I (log (.printed data) : Prog Client Unit) (fun _ => I) (Hangs S) :=
  triple_log (looping.prints data)

/-- What a drain makes of its waits: of a failure it says nothing. -/
theorem Looping.waitsThen {next : Alive → Prog Client (Drained × Alive)} (waitMs : Nat) (a : Alive)
    (rest : ∀ a, Triple I (next a) (OrFailed I F .drained) (Hangs S)) :
    Triple I (waitSocketOrKeepalive noxtls env intervals waitMs a >>= drainAfter next) (OrFailed I F .drained)
      (Hangs S) := by
  apply triple_bind (looping.toWaiting.waits _ _ _)
  rintro ⟨waited, a⟩
  have kept : waited ≠ .failed → ∀ h, OrFailed I F .failed (waited, a) h → I h := fun other h either =>
    either.kept other
  cases waited with
  | readable => exact (rest a).mono (kept (by decide)) (fun _ _ => id) fun _ _ => id
  | aliveTimeout => exact (goes_on _).mono (kept (by decide)) (fun _ _ => id) fun _ _ => id
  | timeout => exact (goes_on _).mono (kept (by decide)) (fun _ _ => id) fun _ _ => id
  | failed => exact triple_pure _ fun h either => either.imp id fun failed => ⟨failed.1, rfl⟩

theorem Looping.drains (firstWaitMs : Nat) (a : Alive) :
    Triple I (drainShellOutput noxtls env intervals firstWaitMs a) (OrFailed I F .drained) (Hangs S) := by
  have loop : ∀ turns a, Triple I (drainLoop noxtls env intervals turns a) (OrFailed I F .drained) (Hangs S) := by
    intro turns
    induction turns with
    | zero => exact fun _ => triple_stall looping.weaker
    | succ turns ih =>
        intro a
        apply triple_bind (caught looping.receives)
        intro received
        match received with
        | none => exact goes_on _
        | some [] => exact goes_on _
        | some (byte :: data) =>
            apply triple_bind (looping.logsOutput _)
            intro _
            apply triple_bind (looping.toWaiting.hears a)
            intro a
            exact looping.waitsThen 60 a ih
  exact looping.waitsThen firstWaitMs a fun a => triple_byInbox fun turns => loop turns a

end Looping

end NoxSsh.Cli
