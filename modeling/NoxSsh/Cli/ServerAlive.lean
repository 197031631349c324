/-
# Cli.ServerAlive — when the client gives a server up

`noxssh_wait_socket_or_keepalive` counts every keepalive it sends as unanswered until there is
output to print.  The keepalive is an IGNORE, and nobody answers an IGNORE: the server's loop
reads it and goes on.  So a server whose command is silent is given up after
`keepalive_count_max + 1` intervals, however fast it reads (`silent_server_given_up`).

The counter is bounded by the time: between two outputs the clock has advanced by at least the
interval for every keepalive counted (`Paced`).  While the clock stays within the bound no wait
returns -2 (`no_alive_timeout`).
-/
import NoxSsh.Client.Data
import NoxSsh.Cli.Session
import NoxSsh.Server.Channel

namespace NoxSsh.Cli

open Theory Proc Wire Transport Client

set_option autoImplicit false

/-! ## The counter and the clock -/

/-- The clock does not wrap, and any two readings are less than `keepalive_count_max + 1`
intervals apart. -/
structure Brief (env : Env) (intervals : Intervals) : Prop where
  fits : ∀ t, env.time t + intervals.keepaliveIntervalSec < 18446744073709551616
  short : ∀ t t', env.time t' <
    env.time t + (intervals.keepaliveCountMax + 1) * intervals.keepaliveIntervalSec

/-- The counter cannot pass the maximum, or the time is too short for it. -/
def Spared (env : Env) (intervals : Intervals) : Prop :=
  4294967295 ≤ intervals.keepaliveCountMax ∨ Brief env intervals

/-- There was output at the time `t`, the last keepalive went out at the time `t'`, and every
keepalive counted took an interval. -/
def Paced (env : Env) (intervals : Intervals) (a : Alive) : Prop :=
  4294967295 ≤ intervals.keepaliveCountMax ∨ ∃ t t', a.ioQuietSinceSec = env.time t' ∧
    env.time t + a.unansweredKeepaliveCount * intervals.keepaliveIntervalSec ≤ a.ioQuietSinceSec

section Counting

variable {noxtls : Noxtls} {env : Env} {intervals : Intervals} {a : Alive}

theorem paced_heard (t last : Nat) : Paced env intervals ⟨env.time t, 0, last⟩ :=
  .inr ⟨t, t, rfl, by simp⟩

/-- A keepalive that is due is one of the tolerated, and the clock has kept pace. -/
theorem Paced.due (paced : Paced env intervals a) (spared : Spared env intervals) {t : Nat}
    (due : wrap64 (a.ioQuietSinceSec + intervals.keepaliveIntervalSec) ≤ env.time t) :
    wrap32 (a.unansweredKeepaliveCount + 1) ≤ intervals.keepaliveCountMax ∧
      Paced env intervals
        { a with unansweredKeepaliveCount := wrap32 (a.unansweredKeepaliveCount + 1), ioQuietSinceSec := env.time t } := by
  have bounded : wrap32 (a.unansweredKeepaliveCount + 1) < 4294967296 := Nat.mod_lt _ (by decide)
  rcases paced with most | ⟨heard, last, is, pace⟩
  · exact ⟨by omega, .inl most⟩
  rcases spared with most | brief
  · exact ⟨by omega, .inl most⟩
  have fits := brief.fits last
  rw [← is] at fits
  rw [wrap64, Nat.mod_eq_of_lt fits] at due
  have next : env.time heard + (a.unansweredKeepaliveCount + 1) * intervals.keepaliveIntervalSec ≤ env.time t := by
    rw [Nat.succ_mul]
    omega
  have below : a.unansweredKeepaliveCount + 1 < intervals.keepaliveCountMax + 1 := by
    have short := brief.short heard t
    exact Nat.lt_of_mul_lt_mul_right (show _ * intervals.keepaliveIntervalSec < _ by omega)
  have wrapped : wrap32 (a.unansweredKeepaliveCount + 1) ≤ a.unansweredKeepaliveCount + 1 := Nat.mod_le _ _
  refine ⟨by omega, .inr ⟨heard, t, rfl, ?_⟩⟩
  have less := Nat.mul_le_mul_right intervals.keepaliveIntervalSec wrapped
  dsimp only
  omega

/-- What is asked of the clock is one of its readings. -/
theorem reads_clock :
    Triple (fun _ => True) (ask env.time : Prog Client Nat) (fun now _ => True ∧ ∃ t, now = env.time t) fun _ _ => True :=
  ⟨fun h _ => ⟨trivial, h.tick, rfl⟩⟩

/-- Whatever a program does. -/
theorem does {α : Type} (m : Prog Client α) : Triple (fun _ => True) m (fun _ _ => True) fun _ _ => True := by
  constructor
  intro h _
  rcases m.run h with ⟨o, h'⟩
  cases o <;> trivial

/-- The counter is in pace with the clock and the wait is not given up. -/
def KeepsPace (env : Env) (intervals : Intervals) {α : Type} (mark : α) (r : α × Alive) (_ : Host Client) : Prop :=
  Paced env intervals r.2 ∧ r.1 ≠ mark

/-- What brings no such mark keeps the pace. -/
theorem keepsPace {α : Type} {mark : α} {r : α × Alive} (paced : Paced env intervals r.2) (other : r.1 ≠ mark) :
    Triple (fun _ => True) (pure r : Prog Client (α × Alive)) (KeepsPace env intervals mark) fun _ _ => True :=
  triple_pure r fun _ _ => ⟨paced, other⟩

theorem keepAlive_paced (spared : Spared env intervals) (paced : Paced env intervals a) :
    Triple (fun _ => True) (keepAlive noxtls env intervals a) (KeepsPace env intervals (some .aliveTimeout))
      fun _ _ => True := by
  apply triple_ite fun _ => keepsPace paced (by simp)
  intro _
  apply triple_bind reads_clock
  intro nowSec
  apply triple_given
  rintro ⟨t, rfl⟩
  apply triple_ite _ fun _ => keepsPace paced (by simp)
  intro due
  obtain ⟨few, next⟩ := paced.due spared due
  apply triple_bind (does _)
  intro sent
  cases sent with
  | none => exact triple_bind (does _) fun _ => keepsPace paced (by simp)
  | some _ =>
      dsimp only
      rw [if_neg (by omega)]
      exact keepsPace next (by simp)

/-- By induction on the slices of the wait. -/
theorem waitSlices_paced (spared : Spared env intervals) (turns remaining : Nat) (paced : Paced env intervals a) :
    Triple (fun _ => True) (waitSlices noxtls env intervals turns remaining a) (KeepsPace env intervals .aliveTimeout)
      fun _ _ => True := by
  induction turns generalizing remaining a with
  | zero => exact keepsPace paced (by simp)
  | succ turns ih =>
      apply triple_ite fun _ => keepsPace paced (by simp)
      intro _
      apply triple_bind (does _)
      intro rekeyed
      cases rekeyed with
      | none => exact triple_bind (does _) fun _ => keepsPace paced (by simp)
      | some lastRekeySec =>
          have still : Paced env intervals { a with lastRekeySec := lastRekeySec } := paced
          apply triple_bind (does _)
          intro ready
          cases ready with
          | readable => exact keepsPace still (by simp)
          | error => exact keepsPace still (by simp)
          | timeout =>
              apply triple_bind (keepAlive_paced spared still)
              rintro ⟨ended, a⟩
              refine ⟨fun h ⟨paced, other⟩ => ?_⟩
              cases ended with
              | none => exact (ih _ paced).ends h trivial
              | some waited =>
                  exact ⟨paced, fun is => other (congrArg some is)⟩

/-- By induction on the turns of the loop. -/
theorem printLoop_paced (spared : Spared env intervals) (turns : Nat) (paced : Paced env intervals a) :
    Triple (fun _ => True) (printLoop noxtls env intervals turns a) (fun ended _ => ended ≠ .aliveTimeout)
      fun _ _ => True := by
  induction turns generalizing a with
  | zero => exact triple_stall fun _ => id
  | succ turns ih =>
      apply triple_bind (waitSlices_paced spared _ _ paced)
      rintro ⟨waited, a⟩
      refine ⟨fun h ⟨paced, other⟩ => ?_⟩
      refine Triple.ends (P := fun _ => True) ?_ h trivial
      cases waited with
      | aliveTimeout => exact absurd rfl other
      | failed => exact triple_pure _ fun _ _ => by simp
      | timeout => exact ih paced
      | readable =>
          apply triple_bind (does _)
          intro received
          match received with
          | none => exact triple_pure _ fun _ _ => by simp
          | some [] => exact triple_pure _ fun _ _ => by simp
          | some (byte :: data) =>
              apply triple_bind (does _)
              intro _
              apply triple_bind (Q := fun a _ => True ∧ Paced env intervals a)
              · apply triple_bind reads_clock
                intro nowSec
                apply triple_given
                rintro ⟨t, rfl⟩
                exact triple_pure _ fun _ _ => ⟨trivial, paced_heard t _⟩
              · intro a
                exact triple_given fun paced => ih paced

end Counting

/-- **When no wait gives up.**  For every state of the client, everything that comes in and
everything the environment does: if any two readings of the clock are less than
`keepalive_count_max + 1` intervals apart, or the maximum is 4294967295, no wait of the output
loop gives the server up. -/
theorem no_alive_timeout (noxtls : Noxtls) (env : Env) (intervals : Intervals) (spared : Spared env intervals)
    (turns : Nat) (h h' : Host Client) (ended : Printed)
    (ran : (printChannelOutput noxtls env intervals turns).run h = (.ok ended, h')) : ended ≠ .aliveTimeout := by
  have starts : Triple (fun _ => True) (printChannelOutput noxtls env intervals turns)
      (fun ended _ => ended ≠ .aliveTimeout) fun _ _ => True := by
    apply triple_bind (does _)
    intro _
    apply triple_bind (Q := fun a _ => True ∧ Paced env intervals a)
    · apply triple_bind reads_clock
      intro nowSec
      apply triple_given
      rintro ⟨t, rfl⟩
      exact triple_pure _ fun _ _ => ⟨trivial, paced_heard t _⟩
    · intro a
      exact triple_given fun paced => printLoop_paced spared turns paced
  have post := starts.ends h trivial
  rw [ran] at post
  exact post

/-! ## A server that reads at once and has nothing to say -/

namespace Probe

/-- Nothing comes in, and the clock goes on. -/
def ticking : Env := { Client.Probe.brisk with select := fun _ => .timeout, time := fun t => 1000 + t }

/-- A keepalive a second, one of them tolerated. -/
def strict : Intervals := ⟨1, 1, 0⟩

/-- One keepalive goes out, and then the connection is lost. -/
def losing : Env :=
  { ticking with
    select := fun t => if t = 1 then .timeout else .error, time := fun t => if t = 0 then 1000 else 1001 }

/-- The output loop of a client whose command is silent. -/
def waited (env : Env) : Outcome NetnoxReturn Printed × Host Client :=
  (printChannelOutput Client.Probe.noxtls env strict 1).run (Client.Probe.opened 0 [])

/-- What the client sends is there at once, the child is still running. -/
def reading : Env :=
  { Client.Probe.brisk with
    poll := fun _ => .ready ⟨true, false, false⟩ ⟨false, false, false⟩, waitpid := fun _ => none }

/-- The server in its session with that client. -/
def host : Server :=
  { Server.init with
    transportFd := 3, authenticatedUser := ascii "ada", sessionStarted := true, connected := true
    kexinitExchanged := true, authenticated := true, channelOpen := true, keyExchangeComplete := true
    localWindowSize := 65536, remoteWindowSize := 65536, remoteMaxPacketSize := 32768
    rekeyThresholdBytes := 268435456 }

/-- The session on what the client sent. -/
def answered : Outcome NetnoxReturn Unit × Host Server :=
  (Server.sessionLoop Client.Probe.noxtls reading 2 ⟨false, none⟩).run
    ⟨host, 0, wireOf (waited ticking).2.trace, []⟩

end Probe

theorem brief_losing : Brief Probe.losing Probe.strict where
  fits t := by
    simp only [Probe.losing, Probe.strict]
    split <;> omega
  short t t' := by
    simp only [Probe.losing, Probe.strict]
    split <;> split <;> omega

/-- A keepalive is sent, and the connection ends for another reason. -/
theorem no_alive_timeout_losing :
    wireOf (Probe.waited Probe.losing).2.trace ≠ [] ∧ Printed.connectionLost ≠ .aliveTimeout := by
  refine ⟨by decide +kernel, ?_⟩
  have ran : (Probe.waited Probe.losing).1 = .ok .connectionLost := by decide +kernel
  exact no_alive_timeout Client.Probe.noxtls Probe.losing Probe.strict (.inr brief_losing) 1
    (Client.Probe.opened 0 []) (Probe.waited Probe.losing).2 .connectionLost (Prod.ext ran rfl)

/-- The server reads both keepalives, sends nothing and runs on; the client gives it up. -/
theorem silent_server_given_up :
    (Probe.waited Probe.ticking).1 = .ok .aliveTimeout ∧ Probe.answered.1 = .stuck ∧ Probe.answered.2.inbox = [] ∧
      Probe.answered.2.trace.filterMap (fun e => e.1.received?) = [[2, 0, 0, 0, 0], [2, 0, 0, 0, 0]] ∧
      wireOf Probe.answered.2.trace = [] := by
  decide +kernel

end NoxSsh.Cli
