/-
# Transport.Host — a party, its sockets and what can be seen of a run

One party of the protocol is its C context (`netnox_ssh_client_t` or
`netnox_ssh_server_t`, the type parameter `π`), the bytes that are on their way
to it, and the record of what it did.

Everything the operating system decides is in `Env`, indexed by a counter that
advances at every call: how many bytes a `send_cb` or `recv_cb` call moves (zero
is a failure), what the clock says, which random bytes come out, what the child
process does.  A statement over all environments and all incoming bytes is
therefore a statement over all behaviours of the outside, including every
fragmentation.  `recv_cb` on an empty inbox does not return.

The trace keeps every event with the context as it stood then, oldest first.
-/
import NoxSsh.Theory.Proc
import NoxSsh.Wire.Payload

namespace NoxSsh.Transport

open Theory Proc Wire

set_option autoImplicit false

/-- A wait status: `WEXITSTATUS` or `WTERMSIG`. -/
inductive WaitStatus where
  | exited (code : UInt8)
  | signaled (signal : Nat)
  deriving DecidableEq, Repr

/-- What an observer of a party sees. -/
inductive Event where
  /-- Bytes one `send_cb` call took. -/
  | wire (bytes : List UInt8)
  /-- A deadline had passed, or the clock failed, when a loop looked. -/
  | expired
  /-- `recv_cb` wrote past the end of the buffer it was given. -/
  | overflow
  /-- `recv_cb` is called.  Since it was last called the clock showed `looked` to
  the check of a deadline, or nobody looked. -/
  | receiving (looked : Option Nat)
  /-- A send function was called with this payload. -/
  | sending (payload : List UInt8)
  /-- That call returned success. -/
  | sent (payload : List UInt8)
  /-- A receive function returned success with this payload. -/
  | received (payload : List UInt8)
  | macComputed (message tag : List UInt8)
  | macAccepted (message tag : List UInt8)
  /-- `publickey_allowed_cb` was asked. -/
  | keyAllowed (user key : List UInt8) (answer : Bool)
  /-- `srv_run_session_unix` got past its checks; `none` is the login shell. -/
  | sessionStarted (command : Option (List UInt8))
  | childInput (bytes : List UInt8)
  /-- End of input went to a terminal as the character EOT. -/
  | childEot
  /-- The child is gone, or took nothing for ten seconds. -/
  | childRefused
  | childOutput (bytes : List UInt8)
  | childReaped (status : WaitStatus)
  /-- The session loop goes on after a packet. -/
  | sessionGoesOn
  /-- `serve_one` is at the top of its loop with this close deadline. -/
  | serving (closeDeadlineMs : Nat)
  /-- `netnox_ssh_perform_curve25519_kex` got past its check. -/
  | kexEntered
  /-- It returned, with success or not. -/
  | kexLeft (completed : Bool)
  /-- The client took this host key from a KEX_ECDH_REPLY that it could read. -/
  | hostKeyPresented (blob : List UInt8)
  /-- The signature over the exchange hash verified under this host key. -/
  | hostKeyVerified (blob exchangeHash sharedSecret : List UInt8)
  /-- The client completed the key exchange with this hash and shared secret. -/
  | kexDone (exchangeHash sharedSecret : List UInt8)
  /-- `netnox_ssh_client_recv_data` captured the status of the remote command. -/
  | exitStatus (status : Nat)
  /-- A rekey or a keepalive failed in `noxssh_wait_socket_or_keepalive`, when the
  environment had been asked this often. -/
  | aliveFailed (asked : Nat)
  /-- `noxssh_print_channel_output` was reached. -/
  | outputStarted
  /-- The command line client wrote this to standard output. -/
  | printed (bytes : List UInt8)
  deriving DecidableEq, Repr

/-- What `poll` reports of one descriptor. -/
structure Revents where
  pollin : Bool
  pollhup : Bool
  pollerr : Bool
  deriving DecidableEq, Repr

inductive PollAnswer where
  | interrupted
  | error
  | timeout
  | ready (transport child : Revents)
  deriving DecidableEq, Repr

/-- What `select` on the socket answers the command line client. -/
inductive Readiness where
  | readable
  | timeout
  | error
  deriving DecidableEq, Repr

inductive ChildRead where
  | bytes (output : List UInt8)
  | eof
  | again
  | error
  deriving DecidableEq, Repr

/-- The answers of everything outside the two programs. -/
structure Env where
  /-- How many bytes the call takes at most; zero is a failure. -/
  send : Nat → Nat
  /-- How many bytes the call delivers at most; zero is a failure. -/
  recv : Nat → Nat
  /-- Milliseconds of the monotonic clock; `UINT64_MAX` is a failure. -/
  clock : Nat → Nat
  getrandom : Nat → Option Mem
  rand : Nat → Mem
  /-- What a buffer holds behind the bytes last written to it. -/
  stale : Nat → Mem
  /-- `NETNOX_SSH_KEY_DERIV_MPINT` is set to `0`. -/
  rawKeyDerivation : Bool
  publickeyAllowed : Nat → List UInt8 → List UInt8 → Bool
  malloc : Nat → Bool
  poll : Nat → PollAnswer
  fork : Nat → Bool
  childRead : Nat → ChildRead
  childWrite : Nat → Nat
  waitpid : Nat → Option WaitStatus
  /-- `time(NULL)`. -/
  time : Nat → Nat
  select : Nat → Readiness
  /-- The C string `fgets` on standard input leaves in the line buffer, if any. -/
  fgets : Nat → Option (List UInt8)

/-- The transport neither fails nor hangs up, and there is randomness. -/
structure Live (env : Env) : Prop where
  send : ∀ t, 0 < env.send t
  recv : ∀ t, 0 < env.recv t
  random : ∀ t, env.getrandom t ≠ none

/-- An environment in which everything works: one byte at a time in, all of it
out, a still clock, zeros for randomness. -/
def calm : Env where
  send _ := 4096
  recv _ := 1
  clock _ := 1000
  getrandom _ := some fun _ => 0
  rand _ := fun _ => 0
  stale _ := fun _ => 0
  rawKeyDerivation := false
  publickeyAllowed _ _ _ := true
  malloc _ := true
  poll _ := .timeout
  fork _ := true
  childRead _ := .eof
  childWrite _ := 4096
  waitpid _ := some (.exited 0)
  time _ := 1000
  select _ := .readable
  fgets _ := none

theorem live_calm : Live calm := ⟨by simp [calm], by simp [calm], by simp [calm]⟩

structure Host (π : Type) where
  self : π
  tick : Nat
  inbox : List UInt8
  trace : List (Event × π)

/-- A C function of a party: it returns, fails with a code, or has not come back. -/
abbrev Prog (π α : Type) := Proc NetnoxReturn (Host π) α

section Primitives

variable {π α : Type}

def self : Prog π π := ⟨fun h => (.ok h.self, h)⟩

def modify (f : π → π) : Prog π Unit := update fun h => { h with self := f h.self }

def log (e : Event) : Prog π Unit := update fun h => { h with trace := h.trace ++ [(e, h.self)] }

/-- Ask the outside for an answer. -/
def ask (answers : Nat → α) : Prog π α :=
  ⟨fun h => (.ok (answers h.tick), { h with tick := h.tick + 1 })⟩

/-- One `send_cb` call: the number of bytes taken, zero on failure. -/
def sendCb (env : Env) (data : List UInt8) : Prog π Nat := do
  let upTo ← ask env.send
  let taken := min upTo data.length
  if taken = 0 then pure 0
  else do
    log (.wire (data.take taken))
    pure taken

/-- What `recv_cb` delivers: at most `len` bytes, none on failure. -/
def takeInbox (env : Env) (len : Nat) : Prog π (List UInt8) := ⟨fun h =>
  let upTo := min (env.recv h.tick) len
  if upTo = 0 then (.ok [], { h with tick := h.tick + 1 })
  else if h.inbox = [] then (.stuck, h)
  else (.ok (h.inbox.take upTo), { h with tick := h.tick + 1, inbox := h.inbox.drop upTo })⟩

/-- One `recv_cb` call for at most `len` bytes, after a look at the clock or none. -/
def recvCb (env : Env) (looked : Option Nat) (len : Nat) : Prog π (List UInt8) := do
  log (.receiving looked)
  takeInbox env len

/-- A loop with more turns than there are bytes on the way: every turn takes one. -/
def byInbox {α : Type} (loop : Nat → Prog π α) : Prog π α := ⟨fun h => (loop (h.inbox.length + 1)).run h⟩

/-- Run `m` and record how it ended. -/
def leaving (event : Bool → Event) (m : Prog π α) : Prog π α :=
  ending m fun done h => { h with trace := h.trace ++ [(event done, h.self)] }

end Primitives

section Runs

variable {π α : Type} (h : Host π)

@[simp] theorem self_run : (self : Prog π π).run h = (.ok h.self, h) := rfl

@[simp] theorem modify_run (f : π → π) : (modify f).run h = (.ok (), { h with self := f h.self }) := rfl

@[simp] theorem log_run (e : Event) :
    (log e).run h = (.ok (), { h with trace := h.trace ++ [(e, h.self)] }) := rfl

@[simp] theorem ask_run (answers : Nat → α) :
    (ask answers).run h = (.ok (answers h.tick), { h with tick := h.tick + 1 }) := rfl

variable (k : π → Prog π α) (l : Unit → Prog π α)

@[simp] theorem self_bind_run : (self >>= k).run h = (k h.self).run h := rfl

@[simp] theorem modify_bind_run (f : π → π) :
    (modify f >>= l).run h = (l ()).run { h with self := f h.self } := rfl

@[simp] theorem log_bind_run (e : Event) :
    (log e >>= l).run h = (l ()).run { h with trace := h.trace ++ [(e, h.self)] } := rfl

@[simp] theorem ask_bind_run {β : Type} (answers : Nat → β) (k : β → Prog π α) :
    (ask answers >>= k).run h = (k (answers h.tick)).run { h with tick := h.tick + 1 } := rfl

end Runs

section Settles

variable {π α : Type}

theorem settles_self : Settles (self : Prog π π) := fun _ => by simp

theorem settles_modify (f : π → π) : Settles (modify f : Prog π Unit) := fun _ => by simp

theorem settles_log (e : Event) : Settles (log e : Prog π Unit) := fun _ => by simp

theorem settles_ask (answers : Nat → α) : Settles (ask answers : Prog π α) := fun _ => by simp

theorem settles_sendCb (env : Env) (data : List UInt8) : Settles (sendCb env data : Prog π Nat) := by
  refine settles_bind (settles_ask _) fun upTo => settles_ite (settles_pure 0) ?_
  exact settles_bind (settles_log _) fun _ => settles_pure _

end Settles

/-! ## The bytes on the wire -/

def Event.wireBytes : Event → List UInt8
  | .wire bytes => bytes
  | _ => []

/-- Everything a trace put on the wire. -/
def wireOf {π : Type} (trace : List (Event × π)) : List UInt8 :=
  trace.flatMap fun e => e.1.wireBytes

@[simp] theorem wireOf_nil {π : Type} : wireOf ([] : List (Event × π)) = [] := rfl

@[simp] theorem wireOf_append {π : Type} (a b : List (Event × π)) :
    wireOf (a ++ b) = wireOf a ++ wireOf b := by
  simp [wireOf]

@[simp] theorem wireOf_single {π : Type} (e : Event) (p : π) : wireOf [(e, p)] = e.wireBytes := by
  simp [wireOf]

/-- No deadline had passed whenever one was looked at. -/
def InTime {π : Type} (trace : List (Event × π)) : Prop := ∀ e ∈ trace, e.1 ≠ .expired

theorem inTime_append {π : Type} {a b : List (Event × π)} :
    InTime (a ++ b) ↔ InTime a ∧ InTime b := by
  simp only [InTime, List.mem_append]
  exact ⟨fun all => ⟨fun e he => all e (.inl he), fun e he => all e (.inr he)⟩,
    fun both e he => he.elim (both.1 e) (both.2 e)⟩

/-- The events that moving bytes records by itself. -/
structure Plumbing (ok : Event → Prop) : Prop where
  wire : ∀ bytes, ok (.wire bytes)
  expired : ok .expired
  overflow : ok .overflow

/-- The events that receiving packets records. -/
structure Hearing (ok : Event → Prop) : Prop where
  receiving : ∀ looked, ok (.receiving looked)
  received : ∀ payload, ok (.received payload)

/-- The events that moving packets records by itself. -/
structure Background (ok : Event → Prop) : Prop extends Plumbing ok where
  macComputed : ∀ message tag, ok (.macComputed message tag)
  macAccepted : ∀ message tag, ok (.macAccepted message tag)

/-- Sending a message with this number may be recorded. -/
def Speaks (ok : Event → Prop) (number : UInt8) : Prop :=
  ∀ payload, payload.head? = some number → ok (.sending payload) ∧ ok (.sent payload)

/-! ## Steps that leave a part of the context alone -/

/-- From `h` to `h'` the part `view` of the context never changed, and only
events with `ok` were recorded. -/
def Quiet {π γ : Type} (ok : Event → Prop) (view : π → γ) (h h' : Host π) : Prop :=
  view h'.self = view h.self ∧
    ∃ new, h'.trace = h.trace ++ new ∧ ∀ e ∈ new, ok e.1 ∧ view e.2 = view h.self

section Quiet

variable {π γ α : Type} {ok : Event → Prop} {view : π → γ}

theorem quiet_order (ok : Event → Prop) (view : π → γ) : StepOrder (Quiet ok view) where
  refl h := ⟨rfl, [], by simp, by simp⟩
  trans := by
    rintro s t u ⟨same, new, grown, kept⟩ ⟨same', new', grown', kept'⟩
    refine ⟨same'.trans same, new ++ new', by rw [grown', grown, List.append_assoc], ?_⟩
    intro e he
    rcases List.mem_append.1 he with he | he
    · exact kept e he
    · exact ⟨(kept' e he).1, (kept' e he).2.trans same⟩

/-- Nothing is recorded and the context is the same. -/
theorem quiet_of_eq {h h' : Host π} (same : h'.self = h.self) (silent : h'.trace = h.trace) :
    Quiet ok view h h' :=
  ⟨by rw [same], [], by simp [silent], by simp⟩

theorem always_self : Always (Quiet ok view) (self : Prog π π) :=
  fun _ => quiet_of_eq rfl rfl

theorem always_ask (answers : Nat → α) : Always (Quiet ok view) (ask answers : Prog π α) :=
  fun _ => quiet_of_eq rfl rfl

theorem always_modify {f : π → π} (keeps : ∀ p, view (f p) = view p) :
    Always (Quiet ok view) (modify f) :=
  fun h => ⟨keeps h.self, [], by simp, by simp⟩

theorem always_log {e : Event} (fine : ok e) : Always (Quiet ok view) (log e : Prog π Unit) :=
  fun h => ⟨rfl, [(e, h.self)], rfl, by simp [fine]⟩

/-- A relation within which a party may wait and take in bytes. -/
structure Plain (R : Host π → Host π → Prop) : Prop extends StepOrder R where
  asked : ∀ h, R h { h with tick := h.tick + 1 }
  took : ∀ (h : Host π) (n : Nat), R h { h with tick := h.tick + 1, inbox := h.inbox.drop n }

theorem quiet_plain (ok : Event → Prop) (view : π → γ) : Plain (Quiet ok view) where
  toStepOrder := quiet_order ok view
  asked _ := quiet_of_eq rfl rfl
  took _ _ := quiet_of_eq rfl rfl

section Plain

variable {R : Host π → Host π → Prop} (plain : Plain R)

include plain

theorem Plain.self : Always R (self : Prog π π) := fun h => plain.refl h

theorem Plain.ask (answers : Nat → α) : Always R (ask answers : Prog π α) := fun h => plain.asked h

theorem Plain.takeInbox (env : Env) (len : Nat) : Always R (takeInbox env len : Prog π (List UInt8)) := by
  intro h
  unfold Transport.takeInbox
  dsimp only
  split
  · exact plain.asked h
  · split
    · exact plain.refl h
    · exact plain.took h _

theorem Plain.recvCb {looked : Option Nat} (receiving : Always R (log (.receiving looked) : Prog π Unit)) (env : Env)
    (len : Nat) : Always R (recvCb env looked len : Prog π (List UInt8)) :=
  always_bind plain.toStepOrder receiving fun _ => plain.takeInbox env len

theorem Plain.sendCb (wire : ∀ bytes, Always R (log (.wire bytes) : Prog π Unit)) (env : Env) (data : List UInt8) :
    Always R (sendCb env data : Prog π Nat) := by
  have order := plain.toStepOrder
  refine always_bind order (plain.ask _) fun upTo => ?_
  refine always_ite (always_pure order _) ?_
  exact always_bind order (wire _) fun _ => always_pure order _

end Plain

/-- Quiet, with what may be recorded decided by the part that does not change. -/
def Within (permit : γ → Event → Prop) (view : π → γ) (h h' : Host π) : Prop :=
  Quiet (permit (view h.self)) view h h'

theorem within_order (permit : γ → Event → Prop) (view : π → γ) : StepOrder (Within permit view) where
  refl h := (quiet_order _ view).refl h
  trans := by
    intro s t u first second
    refine (quiet_order _ view).trans first ?_
    unfold Within at second
    rwa [first.1] at second

theorem Quiet.mono {ok ok' : Event → Prop} {h h' : Host π} (quiet : Quiet ok view h h')
    (more : ∀ e, ok e → ok' e) : Quiet ok' view h h' := by
  obtain ⟨same, new, grown, kept⟩ := quiet
  exact ⟨same, new, grown, fun e he => ⟨more e.1 (kept e he).1, (kept e he).2⟩⟩

theorem always_within {permit : γ → Event → Prop} {m : Prog π α}
    (always : ∀ g, Always (Quiet (permit g) view) m) : Always (Within permit view) m :=
  fun h => always (view h.self) h

end Quiet

/-! ## The primitives under an invariant -/

section Steps

variable {π α : Type} {P I S : Host π → Prop} {m : Prog π α} {Q : α → Host π → Prop}

theorem triple_self_bind {k : π → Prog π α} (rest : ∀ p, Triple P (k p) Q (Breaks I S)) :
    Triple P (self >>= k) Q (Breaks I S) :=
  ⟨fun h => (rest h.self).ends h⟩

theorem triple_modify {f : π → π} {Q : Unit → Host π → Prop} {E : Option NetnoxReturn → Host π → Prop}
    (post : ∀ h, P h → Q () { h with self := f h.self }) : Triple P (modify f) Q E := ⟨post⟩

theorem triple_log {e : Event} {Q : Unit → Host π → Prop} {E : Option NetnoxReturn → Host π → Prop}
    (post : ∀ h, P h → Q () { h with trace := h.trace ++ [(e, h.self)] }) : Triple P (log e) Q E := ⟨post⟩

theorem stays_modify {f : π → π} {E : Option NetnoxReturn → Host π → Prop}
    (keeps : ∀ h, I h → I { h with self := f h.self }) : Triple I (modify f) (fun _ => I) E := ⟨keeps⟩

theorem stays_log {e : Event} {E : Option NetnoxReturn → Host π → Prop}
    (keeps : ∀ h, I h → I { h with trace := h.trace ++ [(e, h.self)] }) : Triple I (log e) (fun _ => I) E := ⟨keeps⟩

theorem triple_ask {answers : Nat → α} {E : Option NetnoxReturn → Host π → Prop}
    (asks : ∀ h, P h → P { h with tick := h.tick + 1 }) : Triple P (ask answers) (fun _ => P) E := ⟨asks⟩

theorem triple_byInbox {loop : Nat → Prog π α} {E : Option NetnoxReturn → Host π → Prop}
    (each : ∀ turns, Triple P (loop turns) Q E) : Triple P (byInbox loop) Q E :=
  ⟨fun h => (each (h.inbox.length + 1)).ends h⟩

theorem triple_leaving {event : Bool → Event} {Q' : α → Host π → Prop} {E : Option NetnoxReturn → Host π → Prop}
    {E' : Option NetnoxReturn → Host π → Prop} (triple : Triple P m Q E)
    (returned : ∀ a h, Q a h → Q' a { h with trace := h.trace ++ [(event true, h.self)] })
    (failed : ∀ e h, E (some e) h → E' (some e) { h with trace := h.trace ++ [(event false, h.self)] })
    (stuck : ∀ h, E none h → E' none h) : Triple P (leaving event m) Q' E' := by
  constructor
  intro h holds
  have post := triple.ends h holds
  rw [leaving, ending_run]
  revert post
  rcases m.run h with ⟨o, h'⟩
  cases o with
  | ok a => exact returned a h'
  | err e => exact failed e h'
  | stuck => exact stuck h'

end Steps

end NoxSsh.Transport
