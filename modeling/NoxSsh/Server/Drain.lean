/-
# Server.Drain — the close wait cannot be extended

After the channel is closed `serve_one` goes on until its client hangs up, for ten
seconds at most.  Each turn of its loop is a `Lap`: a wait, if a deadline is set, then
one packet and whatever the packet leads to.

Once the deadline is set, every lap keeps it, reads nothing unless the clock was before
it, opens nothing and starts nothing; and the first lap that finds the deadline passed is
the last (`drain_bounded`).  No clock has to be steady for this.
-/
import NoxSsh.Server.Channels
import NoxSsh.Server.Talk
import Mathlib.Data.List.Chain

namespace NoxSsh.Server

open Theory Proc Wire Transport

set_option autoImplicit false

/-! ## Laps -/

/-- A turn that was taken: the deadline it had, the state before and after it, how it ended. -/
structure Lap where
  closeDeadlineMs : Nat
  before : Host Server
  outcome : Outcome NetnoxReturn Next
  after : Host Server

/-- The turn from `h` with this deadline. -/
def lapFrom (noxtls : Noxtls) (env : Env) (sessionTurns closeDeadlineMs : Nat) (h : Host Server) : Lap where
  closeDeadlineMs := closeDeadlineMs
  before := h
  outcome := ((lap noxtls env sessionTurns closeDeadlineMs).run h).1
  after := ((lap noxtls env sessionTurns closeDeadlineMs).run h).2

/-- All turns of the loop. -/
def laps (noxtls : Noxtls) (env : Env) (sessionTurns : Nat) : Nat → Nat → Host Server → List Lap
  | 0, _, _ => []
  | turns + 1, closeDeadlineMs, h =>
      let turn := lapFrom noxtls env sessionTurns closeDeadlineMs h
      match turn.outcome with
      | .ok (.again closeDeadlineMs) => turn :: laps noxtls env sessionTurns turns closeDeadlineMs turn.after
      | _ => [turn]

/-- How the loop comes back after its last turn. -/
def Lap.returns (turn : Lap) : Outcome NetnoxReturn Unit :=
  match turn.outcome with
  | .ok .done => .ok ()
  | .ok (.again _) => .stuck
  | .err e => .err e
  | .stuck => .stuck

/-- The turns before the loop of a run that got there. -/
def servedLaps (noxtls : Noxtls) (env : Env) (setup : Setup) (inbox : List UInt8) (turns : Nat) : List Lap :=
  match (failAs .failed (handshakeToEncrypted noxtls env)).run
      ⟨setHandshakeDeadline (wrap64 (env.clock 0 + 30000)) setup.server, 1, inbox, []⟩ with
  | (.ok _, h) => laps noxtls env turns turns 0 h
  | _ => []

section Laps

variable {noxtls : Noxtls} {env : Env} {sessionTurns : Nat}

/-- The turns are the run: it ends where and as the last of them does. -/
theorem laps_run (turns : Nat) : ∀ (closeDeadlineMs : Nat) (h : Host Server),
    ∀ turn ∈ (laps noxtls env sessionTurns turns closeDeadlineMs h).getLast?,
      (serveLoop noxtls env sessionTurns turns closeDeadlineMs).run h = (turn.returns, turn.after) := by
  induction turns with
  | zero => exact fun _ _ _ none => by cases none
  | succ turns ih =>
      intro d h turn last
      rw [serveLoop_lap]
      rw [laps] at last
      dsimp only [lapFrom] at last
      revert last
      rcases (lap noxtls env sessionTurns d).run h with ⟨o, h'⟩
      have only : ∀ o, some (⟨d, h, o, h'⟩ : Lap) = some turn → turn = ⟨d, h, o, h'⟩ := fun _ is => (Option.some.inj is).symm
      cases o with
      | err e => exact fun last => by rw [only _ last]; rfl
      | stuck => exact fun last => by rw [only _ last]; rfl
      | ok next =>
          cases next with
          | done => exact fun last => by rw [only _ last]; rfl
          | again d' =>
              dsimp only
              intro last
              cases turns with
              | zero =>
                  rw [only _ last]
                  rfl
              | succ turns =>
                  apply ih d' h' turn
                  rw [laps] at last ⊢
                  revert last
                  dsimp only [lapFrom]
                  split <;> exact id

end Laps

/-! ## The deadline -/

section Deadline

variable {noxtls : Noxtls} {env : Env} {d : Nat} {h : Host Server}

/-- What comes out of starting the wait: the deadline there was, or ten seconds from the
last look at the clock. -/
def Begun (env : Env) (d d' : Nat) (h : Host Server) : Prop :=
  d' = d ∨ d = 0 ∧ 0 < h.tick ∧ d' = env.clock (h.tick - 1) + 10000

theorem triple_beginCloseWait (d : Nat) {P : Host Server → Prop} :
    Triple P (beginCloseWait env d) (Begun env d) fun _ _ => True := by
  apply triple_ite
  · exact fun _ => triple_pure _ fun _ _ => .inl rfl
  · intro unset
    constructor
    intro h _
    rw [ask_bind_run]
    by_cases fine : env.clock h.tick ≠ clockFailed ∧ env.clock h.tick ≤ clockFailed - 10000
    · rw [ensure_bind_pos fine]
      exact .inr ⟨by omega, Nat.succ_pos _, rfl⟩
    · rw [ensure_bind_neg fine]
      trivial

/-- Anything at all. -/
theorem triple_any {α : Type} {P : Host Server → Prop} (m : Prog Server α) :
    Triple P m (fun _ _ => True) fun _ _ => True := by
  constructor
  intro h _
  rcases m.run h with ⟨o, h'⟩
  cases o <;> trivial

theorem triple_begun {α : Type} {P : Host Server → Prop} {first : Prog Server α} (d : Nat) :
    Triple P (first >>= fun _ => pure d) (Begun env d) fun _ _ => True :=
  triple_bind (triple_any first) fun _ => triple_pure _ fun _ _ => .inl rfl

theorem triple_channelEnd (d : Nat) (p : List UInt8) (m : Mem) {P : Host Server → Prop} :
    Triple P (channelEnd noxtls env d p m) (Begun env d) fun _ _ => True := by
  apply triple_bind (triple_any _)
  intro _
  apply triple_ite
  · exact fun _ => triple_failAs _ (triple_beginCloseWait d) fun _ _ => id
  · exact fun _ => triple_pure _ fun _ _ => .inl rfl

theorem triple_runAndClose_begun (turns : Nat) (wantReply : Bool) (command : Option (List UInt8)) (d : Nat)
    {P : Host Server → Prop} :
    Triple P (runAndClose noxtls env turns wantReply command d) (Begun env d) fun _ _ => True := by
  apply triple_bind (triple_any _)
  intro _
  apply triple_bind (triple_any _)
  intro _
  exact triple_failAs _ (triple_beginCloseWait d) fun _ _ => id

theorem triple_channelRequest_begun (turns d : Nat) (p : List UInt8) (m : Mem) {P : Host Server → Prop} :
    Triple P (channelRequest noxtls env turns d p m) (Begun env d) fun _ _ => True := by
  have stops : ∀ {P : Host Server → Prop}, Triple P (pure d : Prog Server Nat) (Begun env d) fun _ _ => True :=
    triple_pure _ fun _ _ => .inl rfl
  apply triple_bind (triple_any _)
  intro s
  apply triple_ite (fun _ => stops)
  intro _
  apply triple_bind (triple_any _)
  rintro ⟨chan, off⟩
  apply triple_ite (fun _ => stops)
  intro _
  apply triple_bind (triple_any _)
  rintro ⟨req, off⟩
  apply triple_bind (triple_any _)
  intro _
  apply triple_bind (triple_any _)
  intro s
  apply triple_ite
  · intro _
    split
    · exact triple_begun d
    · apply triple_bind (triple_any _)
      exact fun _ => triple_begun d
  intro _
  apply triple_ite
  · intro _
    split
    · exact triple_begun d
    · exact triple_runAndClose_begun turns _ _ d
  intro _
  apply triple_ite
  · exact fun _ => triple_ite (fun _ => triple_begun d) fun _ => triple_runAndClose_begun turns _ _ d
  · exact fun _ => triple_begun d

/-- What the loop goes on with. -/
def GoesOn (env : Env) (d : Nat) : Next → Host Server → Prop
  | .done, _ => True
  | .again d', h => Begun env d d' h

theorem triple_dispatch_begun (turns d : Nat) (p : List UInt8) (m : Mem) {P : Host Server → Prop} :
    Triple P (dispatch noxtls env turns d p m) (GoesOn env d) fun _ _ => True := by
  have goesOn : ∀ m : Prog Server Unit, Triple P (goOn d m) (GoesOn env d) fun _ _ => True := fun m =>
    triple_bind (triple_any m) fun _ => triple_pure _ fun _ _ => .inl rfl
  have ends : Triple P (goOnWith (channelEnd noxtls env d p m)) (GoesOn env d) fun _ _ => True :=
    triple_bind (triple_channelEnd d p m) fun _ => triple_pure _ fun _ => id
  have passes : Triple P (pure (.again d) : Prog Server Next) (GoesOn env d) fun _ _ => True :=
    triple_pure _ fun _ _ => .inl rfl
  unfold dispatch
  split
  · exact passes
  · exact triple_pure _ fun _ _ => trivial
  · exact passes
  · exact passes
  · exact goesOn _
  · exact goesOn _
  · exact goesOn _
  · exact goesOn _
  · exact triple_bind (triple_channelRequest_begun turns d p m) fun _ => triple_pure _ fun _ => id
  · exact goesOn _
  · exact ends
  · exact ends
  · exact passes

theorem triple_lap_begun (sessionTurns d : Nat) {P : Host Server → Prop} :
    Triple P (lap noxtls env sessionTurns d) (GoesOn env d) fun _ _ => True := by
  apply triple_bind (triple_any _)
  intro _
  apply triple_bind (triple_any _)
  intro ready
  cases ready with
  | retry => exact triple_pure _ fun _ _ => .inl rfl
  | «over» => exact triple_pure _ fun _ _ => trivial
  | error => exact triple_fail _ fun _ _ => trivial
  | readable =>
      apply triple_bind (triple_any _)
      intro got
      cases got with
      | none => exact triple_pure _ fun _ _ => trivial
      | some arrival =>
          apply triple_ite
          · exact fun _ => triple_pure _ fun _ _ => .inl rfl
          · intro _
            apply triple_bind (triple_any _)
            intro s
            apply triple_bind (triple_any _)
            exact fun _ => triple_dispatch_begun sessionTurns d arrival.1 arrival.2

end Deadline

/-! ## What a lap of the wait does -/

/-- No channel is confirmed and no session starts. -/
def Uneventful : Event → Prop
  | .sessionStarted _ => False
  | .sending payload => payload.head? ≠ some 91
  | .sent payload => payload.head? ≠ some 91
  | _ => True

/-- Nor does a packet come in. -/
def Still (e : Event) : Prop := Uneventful e ∧ e.received? = none

/-- A lap of the wait: the channel is closed, and nothing is opened or started.  It reads
one packet at most, and none unless the clock was before the deadline; at or past the
deadline it is the last. -/
structure Drains (env : Env) (turn : Lap) : Prop where
  closed : turn.before.self.channelOpen = false
  record : ∃ new, turn.after.trace = turn.before.trace ++ (.serving turn.closeDeadlineMs, turn.before.self) :: new ∧
    (∀ e ∈ new, Uneventful e.1) ∧ (pick Event.received? new).length ≤ 1 ∧
    (¬ (env.clock turn.before.tick ≠ clockFailed ∧ env.clock turn.before.tick < turn.closeDeadlineMs) →
      new = [] ∧ turn.after.inbox = turn.before.inbox)
  ends : turn.closeDeadlineMs ≤ env.clock turn.before.tick → turn.outcome = .ok .done ∨ turn.outcome = .err .failed

section Drains

variable {noxtls : Noxtls} {env : Env} {d : Nat} {h : Host Server}

theorem background_still : Background Still :=
  ⟨⟨fun _ => ⟨trivial, rfl⟩, ⟨trivial, rfl⟩, ⟨trivial, rfl⟩⟩, fun _ _ => ⟨trivial, rfl⟩, fun _ _ => ⟨trivial, rfl⟩⟩

theorem speaks_still {number : UInt8} (other : number ≠ 91) : Speaks Still number := by
  intro payload heads
  have apart : payload.head? ≠ some 91 := by
    rw [heads]
    exact fun is => other (Option.some.inj is)
  exact ⟨⟨apart, rfl⟩, ⟨apart, rfl⟩⟩

theorem chatter_still : Chatter Still := ⟨background_still, fun _ other => speaks_still other⟩

theorem loginChatter_still : LoginChatter Still fun _ : Server => () :=
  ⟨background_still, passive_unit, speaks_still (by decide), speaks_still (by decide), speaks_still (by decide),
    fun _ _ _ => ⟨trivial, rfl⟩, fun _ => rfl, fun _ _ => rfl⟩

/-- With the channel closed and the deadline set no packet opens or starts anything. -/
theorem dispatch_still (turns : Nat) (p : List UInt8) (m : Mem) (waits : d ≠ 0) (closed : h.self.channelOpen = false) :
    Quiet Still (fun _ => ()) h ((dispatch noxtls env turns d p m).run h).2 := by
  have order : StepOrder (Quiet Still fun _ : Server => ()) := quiet_order _ _
  have goesOn : ∀ m : Prog Server Unit, Always (Quiet Still fun _ => ()) m →
      Quiet Still (fun _ => ()) h ((goOn d m).run h).2 := fun m always =>
    always_bind order always (fun _ => always_pure order _) h
  have ends : Quiet Still (fun _ => ()) h ((goOnWith (channelEnd noxtls env d p m)).run h).2 :=
    always_bind order (always_channelEnd chatter_still.channel steady_unit _ p m) (fun _ => always_pure order _) h
  unfold dispatch
  split
  · exact order.refl h
  · exact order.refl h
  · exact order.refl h
  · exact order.refl h
  · exact goesOn _ (always_failAs _ (always_handleGlobalRequest background_still passive_unit
      (speaks_still (by decide)) p m))
  · exact goesOn _ (always_serviceRequest background_still passive_unit (speaks_still (by decide)) (fun _ => rfl)
      (fun _ => rfl) p m)
  · exact goesOn _ (always_userauthRequest loginChatter_still p m)
  · rw [goOn, channelOpenRequest, bind_run, ensure_bind_neg waits]
    exact order.refl h
  · rw [goOnWith, channelRequest, bind_run, self_bind_run, if_pos closed]
    exact order.refl h
  · exact goesOn _ (always_channelData chatter_still.channel steady_unit p m)
  · exact ends
  · exact ends
  · exact order.refl h

/-- Reading a packet and dispatching it. -/
theorem serveTurn_still (turns : Nat) (waits : d ≠ 0) (closed : h.self.channelOpen = false) :
    ∃ new, ((serveTurn noxtls env turns d).run h).2.trace = h.trace ++ new ∧ (∀ e ∈ new, Uneventful e.1) ∧
      (pick Event.received? new).length ≤ 1 := by
  have quiet : Always (Quiet Uneventful fun _ : Server => ()) (recvInto noxtls env maxPacketLen) :=
    always_recvInto ⟨⟨fun _ => trivial, trivial, trivial⟩, fun _ _ => trivial, fun _ _ => trivial⟩ passive_unit
      ⟨fun _ => trivial, fun _ => trivial⟩ _
  have open_ : Always (Quiet (fun _ => True) fun s : Server => s.channelOpen) (recvInto noxtls env maxPacketLen) :=
    always_recvInto ⟨⟨fun _ => trivial, trivial, trivial⟩, fun _ _ => trivial, fun _ _ => trivial⟩
      (by apply Passive.of_fields <;> intros <;> rfl) ⟨fun _ => trivial, fun _ => trivial⟩ _
  obtain ⟨-, new, grown, shut⟩ := quiet h
  have same := (open_ h).1
  obtain ⟨silent, last, j, grown', mute, few, one, -, -⟩ := heard_recvInto noxtls env maxPacketLen h
  have count : (pick Event.received? new).length ≤ 1 := by
    have is : new = silent ++ last := by
      rw [grown, List.append_assoc] at grown'
      exact List.append_cancel_left grown'
    have none : pick Event.received? silent = [] := pick_eq_nil fun e mem => (mute e mem).1.2
    rw [is, pick_append, none, List.nil_append]
    have less : (pick Event.received? last).length ≤ last.length := List.length_filterMap_le _ _
    omega
  have here : ∃ more, ((recvInto noxtls env maxPacketLen).run h).2.trace = h.trace ++ more ∧ (∀ e ∈ more, Uneventful e.1) ∧
      (pick Event.received? more).length ≤ 1 := ⟨new, grown, fun e mem => (shut e mem).1, count⟩
  rw [serveTurn, bind_run, attempt_run]
  revert here grown same
  rcases (recvInto noxtls env maxPacketLen).run h with ⟨o, h₁⟩
  intro grown same here
  cases o with
  | stuck => exact here
  | err e => exact here
  | ok arrival =>
      obtain ⟨p, m⟩ := arrival
      dsimp only
      split
      · exact here
      · rw [self_bind_run]
        by_cases early : rekeyDue h₁.self = false
        · rw [ensure_bind_pos early]
          obtain ⟨-, more, grown₂, still⟩ := @dispatch_still noxtls env d h₁ turns p m waits (same.trans closed)
          refine ⟨new ++ more, by rw [grown₂, grown, List.append_assoc], ?_, ?_⟩
          · intro e mem
            rcases List.mem_append.1 mem with mem | mem
            · exact (shut e mem).1
            · exact (still e mem).1.1
          · have none : pick Event.received? more = [] := pick_eq_nil fun e mem => (still e mem).1.2
            rw [pick_append, none, List.append_nil]
            exact count
        · rw [ensure_bind_neg early]
          exact here

/-- The wait looks at the clock first, and only then can a packet be there. -/
theorem packetReady_waits (waits : d ≠ 0) :
    ∃ answer h₁, (packetReady env d).run h = (.ok answer, h₁) ∧ h₁.self = h.self ∧ h₁.inbox = h.inbox ∧
      h₁.trace = h.trace ∧
      (answer = .readable ∨ answer = .retry → env.clock h.tick ≠ clockFailed ∧ env.clock h.tick < d) := by
  rw [packetReady, if_pos waits, waitClosePacket, ask_bind_run, self_bind_run]
  dsimp only
  split
  · exact ⟨_, _, rfl, rfl, rfl, rfl, by simp⟩
  rename_i sound
  have read : env.clock h.tick ≠ clockFailed := fun is => sound (.inl is)
  split
  · exact ⟨_, _, rfl, rfl, rfl, rfl, by simp⟩
  rename_i early
  have before : env.clock h.tick ≠ clockFailed ∧ env.clock h.tick < d := ⟨read, Nat.lt_of_not_le early⟩
  rw [ask_bind_run]
  split
  · exact ⟨_, _, rfl, rfl, rfl, rfl, fun _ => before⟩
  · exact ⟨_, _, rfl, rfl, rfl, rfl, fun _ => before⟩
  · exact ⟨_, _, rfl, rfl, rfl, rfl, fun _ => before⟩
  · split
    · exact ⟨_, _, rfl, rfl, rfl, rfl, fun _ => before⟩
    split
    · exact ⟨_, _, rfl, rfl, rfl, rfl, fun _ => before⟩
    · exact ⟨_, _, rfl, rfl, rfl, rfl, fun _ => before⟩

theorem lap_drains (sessionTurns : Nat) (waits : d ≠ 0) (closed : h.self.channelOpen = false) :
    Drains env (lapFrom noxtls env sessionTurns d h) := by
  obtain ⟨answer, h₁, ready, same, sameInbox, silent, timely⟩ :=
    @packetReady_waits env d ⟨h.self, h.tick, h.inbox, h.trace ++ [(.serving d, h.self)]⟩ waits
  have ran : (lap noxtls env sessionTurns d).run h = (afterWait noxtls env sessionTurns d answer).run h₁ := by
    rw [lap, log_bind_run, bind_ok ready]
  -- every answer but a packet leaves the connection as it is
  have rests : ∀ o, (d ≤ env.clock h.tick → o = .ok .done ∨ o = .err .failed) → Drains env ⟨d, h, o, h₁⟩ :=
    fun o ends => ⟨closed, ⟨[], by rw [silent], by simp, by simp, fun _ => ⟨rfl, sameInbox⟩⟩, ends⟩
  rw [lapFrom, ran]
  cases answer with
  | retry =>
      have before := (timely (.inr rfl)).2
      exact rests _ fun late => absurd before (Nat.not_lt.2 late)
  | «over» => exact rests _ fun _ => .inl rfl
  | error => exact rests _ fun _ => .inr rfl
  | readable =>
      have before := timely (.inl rfl)
      obtain ⟨new, grown, shut, one⟩ := @serveTurn_still noxtls env d h₁ sessionTurns waits
        (by rw [same]; exact closed)
      refine ⟨closed, ⟨new, ?_, shut, one, fun late => absurd before late⟩, fun late => ?_⟩
      · show ((serveTurn noxtls env sessionTurns d).run h₁).2.trace = _
        rw [grown, silent, List.append_assoc]
        rfl
      · exact absurd before.2 (Nat.not_lt.2 late)

end Drains

/-! ## The flags between laps -/

section Flags

variable {noxtls : Noxtls} {env : Env} {d : Nat} {h : Host Server}

/-- A lap that goes on leaves the flags as the deadline says. -/
theorem lap_idle {sessionTurns d' : Nat} {h' : Host Server} (idle : Idle d (channel h.self))
    (ran : (lap noxtls env sessionTurns d).run h = (.ok (.again d'), h')) : Idle d' (channel h'.self) := by
  obtain ⟨phase, ⟨seen, -, path⟩, post⟩ := @follows_lap noxtls env d h sessionTurns
  rw [ran] at path post
  obtain rfl : phase = .serve d' := post
  have told : Path Move (.serve d, channel h.self) seen (.serve d', channel h'.self) := path
  suffices stage : Stage (.serve d') (channel h'.self) from stage
  apply told.invariant (I := fun _ s => Stage s.1 s.2)
  · exact idle
  · exact fun {_ _ _ _} stage move => Move.stage stage move

end Flags

/-! ## The whole wait -/

/-- From one lap to the next: it goes on where the last stopped, with the deadline that
one left; the deadline is set to ten seconds after a look at the clock, and once. -/
structure Then (env : Env) (a b : Lap) : Prop where
  state : b.before = a.after
  goesOn : a.outcome = .ok (.again b.closeDeadlineMs)
  deadline : Begun env a.closeDeadlineMs b.closeDeadlineMs b.before

section Whole

variable {noxtls : Noxtls} {env : Env}

/-- The first lap of the loop is the one it is entered with. -/
theorem laps_head {sessionTurns turns d : Nat} {h : Host Server} :
    ∀ turn ∈ (laps noxtls env sessionTurns turns d h).head?, turn = lapFrom noxtls env sessionTurns d h := by
  intro turn first
  cases turns with
  | zero => cases first
  | succ turns =>
      rw [laps] at first
      split at first <;> exact (Option.some.inj first).symm

theorem laps_drain (sessionTurns turns : Nat) : ∀ (d : Nat) (h : Host Server), Idle d (channel h.self) →
    List.IsChain (Then env) (laps noxtls env sessionTurns turns d h) ∧
    (d ≠ 0 → ∀ turn ∈ laps noxtls env sessionTurns turns d h, turn.closeDeadlineMs = d) ∧
    List.Pairwise (fun a b => a.closeDeadlineMs ≠ 0 → b.closeDeadlineMs = a.closeDeadlineMs)
      (laps noxtls env sessionTurns turns d h) ∧
    ∀ turn ∈ laps noxtls env sessionTurns turns d h, turn.closeDeadlineMs ≠ 0 → Drains env turn := by
  induction turns with
  | zero => exact fun d h _ => ⟨List.isChain_nil, by simp [laps], List.Pairwise.nil, by simp [laps]⟩
  | succ turns ih =>
      intro d h idle
      have own : (lapFrom noxtls env sessionTurns d h).closeDeadlineMs = d := rfl
      have drains : d ≠ 0 → Drains env (lapFrom noxtls env sessionTurns d h) := fun waits =>
        lap_drains sessionTurns waits (idle.2 waits)
      rw [laps]
      split
      · rename_i d' goesOn
        have ran : (lap noxtls env sessionTurns d).run h =
            (.ok (.again d'), (lapFrom noxtls env sessionTurns d h).after) := Prod.ext goesOn rfl
        obtain ⟨chain, kept, pairs, each⟩ := ih d' _ (lap_idle idle ran)
        have begun : Begun env d d' (lapFrom noxtls env sessionTurns d h).after := by
          have post := (@triple_lap_begun noxtls env sessionTurns d fun _ => True).ends h trivial
          rw [ran] at post
          exact post
        have same : d ≠ 0 → d' = d := fun waits => begun.resolve_right fun set => waits set.1
        refine ⟨List.isChain_cons.2 ⟨?_, chain⟩, ?_, List.pairwise_cons.2 ⟨?_, pairs⟩, ?_⟩
        · intro next first
          obtain rfl := laps_head next first
          exact ⟨rfl, goesOn, begun⟩
        · intro waits turn mem
          rcases List.mem_cons.1 mem with rfl | mem
          · rfl
          · rw [kept (by rw [same waits]; exact waits) turn mem, same waits]
        · intro turn mem waits
          rw [own] at waits ⊢
          rw [kept (by rw [same waits]; exact waits) turn mem, same waits]
        · intro turn mem waits
          rcases List.mem_cons.1 mem with rfl | mem
          · exact drains waits
          · exact each turn mem waits
      · refine ⟨List.isChain_singleton _, fun _ turn mem => ?_, List.pairwise_singleton _ _, fun turn mem waits => ?_⟩
        · rw [List.mem_singleton.1 mem]
          exact own
        · obtain rfl := List.mem_singleton.1 mem
          exact drains waits

/-- A lap that does not go on has none after it. -/
theorem last_of_chain {turns : List Lap} {turn : Lap} (chain : List.IsChain (Then env) turns) (mem : turn ∈ turns)
    (stops : turn.outcome = .ok .done ∨ turn.outcome = .err .failed) : turns.getLast? = some turn := by
  obtain ⟨before, after, rfl⟩ := List.append_of_mem mem
  cases after with
  | nil => simp
  | cons next after =>
      have then_ : Then env turn next := (List.isChain_cons.1 (List.isChain_append.1 chain).2.1).1 next rfl
      rw [then_.goesOn] at stops
      rcases stops with stops | stops <;> cases stops

/-- The flags the handshake leaves. -/
theorem handshake_idle (h h' : Host Server) (unstarted : h.self.sessionStarted = false)
    (ran : (failAs .failed (handshakeToEncrypted noxtls env)).run h = (.ok (), h')) : Idle 0 (channel h'.self) := by
  have shakes : Always (Quiet Early channel) (failAs .failed (handshakeToEncrypted noxtls env)) :=
    always_failAs _ (always_handshakeToEncrypted kexChatter_early unkeyed_channel)
  have same : channel ((failAs .failed (handshakeToEncrypted noxtls env)).run h).2.self = channel h.self := (shakes h).1
  rw [ran] at same
  rw [same]
  exact ⟨fun _ => unstarted, fun set => absurd rfl set⟩

/-- The run of the loop is the run of its laps. -/
theorem servedLaps_run {setup : Setup} {inbox : List UInt8} {turns : Nat} :
    ∀ turn ∈ (servedLaps noxtls env setup inbox turns).getLast?,
      (serveOne noxtls env turns).run ⟨setup.server, 0, inbox, []⟩ = (turn.returns, turn.after) := by
  intro turn last
  have begins : (serveOne noxtls env turns).run ⟨setup.server, 0, inbox, []⟩ =
      (failAs .failed (handshakeToEncrypted noxtls env) >>= fun _ => serveLoop noxtls env turns turns 0).run
        ⟨setHandshakeDeadline (wrap64 (env.clock 0 + 30000)) setup.server, 1, inbox, []⟩ := by
    rw [serveOne, ask_bind_run, modify_bind_run]
  rw [begins, bind_run]
  rw [servedLaps] at last
  split at last
  · rename_i shaken h ran
    rw [ran]
    exact laps_run turns 0 h turn last
  · cases last

/-- Once the close wait has begun it lasts until its deadline and no longer.  The laps of
a run follow one another, the deadline is set to ten seconds after a look at the clock and
never again, every lap with a deadline drains, and the one that finds the deadline passed
is the last and ends the run. -/
theorem drain_bounded (noxtls : Noxtls) (env : Env) (setup : Setup) (inbox : List UInt8) (turns : Nat) :
    List.IsChain (Then env) (servedLaps noxtls env setup inbox turns) ∧
    List.Pairwise (fun a b => a.closeDeadlineMs ≠ 0 → b.closeDeadlineMs = a.closeDeadlineMs)
      (servedLaps noxtls env setup inbox turns) ∧
    (∀ turn ∈ servedLaps noxtls env setup inbox turns, turn.closeDeadlineMs ≠ 0 → Drains env turn) ∧
    (∀ turn ∈ servedLaps noxtls env setup inbox turns, turn.closeDeadlineMs ≠ 0 →
      turn.closeDeadlineMs ≤ env.clock turn.before.tick →
      (servedLaps noxtls env setup inbox turns).getLast? = some turn ∧
      (serveOutcome noxtls env setup inbox turns = .ok () ∨ serveOutcome noxtls env setup inbox turns = .err .failed)) ∧
    ∀ turn ∈ (servedLaps noxtls env setup inbox turns).getLast?,
      serveOutcome noxtls env setup inbox turns = turn.returns ∧ served noxtls env setup inbox turns = turn.after := by
  have drained : List.IsChain (Then env) (servedLaps noxtls env setup inbox turns) ∧
      List.Pairwise (fun a b => a.closeDeadlineMs ≠ 0 → b.closeDeadlineMs = a.closeDeadlineMs)
        (servedLaps noxtls env setup inbox turns) ∧
      ∀ turn ∈ servedLaps noxtls env setup inbox turns, turn.closeDeadlineMs ≠ 0 → Drains env turn := by
    rw [servedLaps]
    split
    · rename_i shaken ran
      obtain ⟨chain, -, pairs, each⟩ := @laps_drain noxtls env turns turns 0 _
        (handshake_idle _ _ rfl ran)
      exact ⟨chain, pairs, each⟩
    · exact ⟨List.isChain_nil, List.Pairwise.nil, by simp⟩
  have returns : ∀ turn ∈ (servedLaps noxtls env setup inbox turns).getLast?,
      serveOutcome noxtls env setup inbox turns = turn.returns ∧ served noxtls env setup inbox turns = turn.after := by
    intro turn last
    rw [serveOutcome, served, servedLaps_run turn last]
    exact ⟨rfl, rfl⟩
  obtain ⟨chain, pairs, each⟩ := drained
  refine ⟨chain, pairs, each, fun turn mem waits late => ?_, returns⟩
  have stops := (each turn mem waits).ends late
  have last := last_of_chain chain mem stops
  refine ⟨last, ?_⟩
  rw [(returns turn last).1, Lap.returns]
  rcases stops with stops | stops
  · rw [stops]
    exact .inl rfl
  · rw [stops]
    exact .inr rfl

end Whole

end NoxSsh.Server
