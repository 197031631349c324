/-
# Server.LateInput — the results of a child, and the input that comes too late for it

In every turn the loop of `srv_run_session_unix` takes a packet of the client before it reads
what the child wrote.  Data the child does not take breaks the loop, and what the child wrote
and its exit status are lost.

A run of the loop is a sequence of places: the top of a turn, and the point in a turn where the
packet is dealt with and the child is not (`Place`).  `Attends` says what the client, the
operating system and the child do at each of them.  If the child takes the data of every packet,
all that it wrote is forwarded and exit status, EOF and CLOSE are sent (`results_delivered`).
-/
import NoxSsh.Theory.Iterate
import NoxSsh.Server.Completion
import NoxSsh.Protocol.Dialogue

namespace NoxSsh.Server

open Theory Proc Wire Transport

set_option autoImplicit false

/-! ## Output, read and forwarded -/

def outputIn (o : Sight) : List UInt8 :=
  match o.1 with
  | .childOutput bytes => bytes
  | _ => []

def forwardedIn (o : Sight) : List UInt8 :=
  match o.1 with
  | .sent payload => if payload.head? = some 94 then payload.drop 9 else []
  | _ => []

/-- What was read from the child. -/
def outputOf (seen : List Sight) : List UInt8 := seen.flatMap outputIn

/-- What of it was sent to the client. -/
def forwardedOf (seen : List Sight) : List UInt8 := seen.flatMap forwardedIn

@[simp] theorem outputOf_append (a b : List Sight) : outputOf (a ++ b) = outputOf a ++ outputOf b :=
  List.flatMap_append

@[simp] theorem forwardedOf_append (a b : List Sight) : forwardedOf (a ++ b) = forwardedOf a ++ forwardedOf b :=
  List.flatMap_append

/-- No output is read or forwarded. -/
def Dry (seen : List Sight) : Prop := outputOf seen = [] ∧ forwardedOf seen = []

theorem dry_nil : Dry [] := ⟨rfl, rfl⟩

theorem Dry.append {a b : List Sight} (first : Dry a) (second : Dry b) : Dry (a ++ b) := by
  rw [Dry, outputOf_append, forwardedOf_append, first.1, first.2, second.1, second.2]
  exact ⟨rfl, rfl⟩

theorem dry_single {o : Sight} (read : outputIn o = []) (sent : forwardedIn o = []) : Dry [o] := by
  simp [Dry, outputOf, forwardedOf, read, sent]

section Messages

variable {c : Channel} {payload data : List UInt8} {all : Bool} {seen : List Sight}

theorem Says.dry (spoken : Says c payload all seen) (other : payload.head? ≠ some 94) : Dry seen := by
  cases spoken <;> simp [Dry, outputOf, forwardedOf, outputIn, forwardedIn, other]

theorem Feeds.dry (feeds : Feeds c data seen) : Dry seen := by
  induction feeds with
  | nil => exact dry_nil
  | cons due _ ih => exact Dry.append (dry_single rfl rfl) ih

theorem Says.forwards {id : Nat} (spoken : Says c (dataMessage id data) true seen) :
    outputOf seen = [] ∧ forwardedOf seen = data := by
  cases spoken with
  | sent due due' =>
      have body := messageData_dataMessage id data
      rw [messageData] at body
      refine ⟨rfl, ?_⟩
      simp only [forwardedOf, List.flatMap_cons, List.flatMap_nil, forwardedIn, List.nil_append, List.append_nil]
      rw [if_pos (show (dataMessage id data).head? = some 94 from rfl), body]

end Messages

/-! ## The places of a turn -/

/-- How the first half of a turn ends. -/
inductive Half where
  | done (turn : Turn)
  /-- The child is next, and has output to read or not. -/
  | child (ready : Bool)
  deriving DecidableEq

section Turns

variable (noxtls : Noxtls) (env : Env)

/-- A turn up to the child. -/
def turnInput (child : Child) : Prog Server Half := do
  let s ← self
  if rekeyDue s then pure (.done (.broken false))
  else do
    let watched := !child.outputEof && s.remoteWindowSize ≠ 0
    match ← ask env.poll with
    | .interrupted => pure (.done (.again child))
    | .error => pure (.done (.broken false))
    | .timeout => if child.outputEof then pure (.child false) else pure (.done (.broken false))
    | .ready transport output =>
        let childReady := watched && (output.pollin || output.pollhup)
        if transport.pollerr || transport.pollhup then pure (.done (.broken false))
        else if transport.pollin then do
          match ← attempt (recvInto noxtls env maxPacketLen) with
          | none => pure (.done (.broken false))
          | some (payload, m) =>
              match ← sessionPacket noxtls env payload m with
              | some peerClosed => pure (.done (.broken peerClosed))
              | none => do
                  log .sessionGoesOn
                  pure (.child childReady)
        else pure (.child childReady)

/-- The rest of the turn. -/
def turnChild (child : Child) : Half → Prog Server Turn
  | .done turn => pure turn
  | .child ready => sessionChild noxtls env child ready

/-- What follows a turn. -/
def afterTurn (turns : Nat) : Turn → Prog Server Unit
  | .again child => sessionLoop noxtls env turns child
  | .complete => pure ()
  | .broken peerClosed => do
      modify (setChannelOpen false)
      if peerClosed then pure () else fail .failed

theorem sessionTurn_halves (child : Child) (h : Host Server) :
    (sessionTurn noxtls env child).run h = (turnInput noxtls env child >>= turnChild noxtls env child).run h := by
  rw [sessionTurn, turnInput, self_bind_run, bind_assoc_run, self_bind_run]
  dsimp only
  by_cases due : rekeyDue h.self = true
  · rw [if_pos due, if_pos due]
    rfl
  rw [if_neg due, if_neg due, bind_assoc_run, ask_bind_run, ask_bind_run]
  cases env.poll h.tick with
  | interrupted | error => rfl
  | timeout =>
      dsimp only
      split <;> rfl
  | ready transport output =>
      dsimp only
      split
      · rfl
      split
      swap
      · rfl
      rw [bind_assoc_run]
      rw [bind_run, bind_run]
      rcases (attempt (recvInto noxtls env maxPacketLen)).run { h with tick := h.tick + 1 } with ⟨o, h₁⟩
      rcases o with got | _ | _
      swap
      · rfl
      swap
      · rfl
      rcases got with _ | ⟨payload, m⟩
      · rfl
      dsimp only
      rw [bind_assoc_run, bind_run, bind_run]
      rcases (sessionPacket noxtls env payload m).run h₁ with ⟨o, h₂⟩
      rcases o with answer | _ | _
      · cases answer <;> rfl
      · rfl
      · rfl

theorem sessionLoop_halves (turns : Nat) (child : Child) (h : Host Server) :
    (sessionLoop noxtls env (turns + 1) child).run h =
      (turnInput noxtls env child >>= fun half =>
        turnChild noxtls env child half >>= afterTurn noxtls env turns).run h := by
  have unfold : (sessionLoop noxtls env (turns + 1) child).run h =
      (sessionTurn noxtls env child >>= afterTurn noxtls env turns).run h := by
    rw [sessionLoop, bind_run, bind_run]
    rcases (sessionTurn noxtls env child).run h with ⟨o, h₁⟩
    rcases o with turn | _ | _
    · cases turn <;> rfl
    · rfl
    · rfl
  rw [unfold, ← bind_assoc_run]
  exact bind_congr_run (sessionTurn_halves noxtls env child h) _

/-- The top of a turn, or where the child is next. -/
structure Place where
  ready : Option Bool
  child : Child
  host : Host Server

namespace Place

/-- The place that follows, if the loop goes on. -/
def next (p : Place) : Option Place :=
  match p.ready with
  | none =>
      match (turnInput noxtls env p.child).run p.host with
      | (.ok (.child ready), h) => some ⟨some ready, p.child, h⟩
      | (.ok (.done (.again child)), h) => some ⟨none, child, h⟩
      | _ => none
  | some ready =>
      match (sessionChild noxtls env p.child ready).run p.host with
      | (.ok (.again child), h) => some ⟨none, child, h⟩
      | _ => none

/-- The loop from here on. -/
def rest (turns : Nat) (p : Place) : Outcome NetnoxReturn Unit × Host Server :=
  match p.ready with
  | none => (sessionLoop noxtls env turns p.child).run p.host
  | some ready => (sessionChild noxtls env p.child ready >>= afterTurn noxtls env turns).run p.host

variable {noxtls env} {p q : Place} {child child' : Child} {h h' : Host Server} {ready : Bool}

theorem next_heard (ran : (turnInput noxtls env child).run h = (.ok (.child ready), h')) :
    next noxtls env ⟨none, child, h⟩ = some ⟨some ready, child, h'⟩ := by
  simp only [next, ran]

theorem next_interrupted (ran : (turnInput noxtls env child).run h = (.ok (.done (.again child')), h')) :
    next noxtls env ⟨none, child, h⟩ = some ⟨none, child', h'⟩ := by
  simp only [next, ran]

theorem next_turned (ran : (sessionChild noxtls env child ready).run h = (.ok (.again child'), h')) :
    next noxtls env ⟨some ready, child, h⟩ = some ⟨none, child', h'⟩ := by
  simp only [next, ran]

theorem next_complete (ran : (sessionChild noxtls env child ready).run h = (.ok .complete, h')) :
    next noxtls env ⟨some ready, child, h⟩ = none := by
  simp only [next, ran]

/-- How one place comes after another. -/
theorem next_cases (step : next noxtls env p = some q) :
    (∃ child h ready h', p = ⟨none, child, h⟩ ∧ (turnInput noxtls env child).run h = (.ok (.child ready), h') ∧
        q = ⟨some ready, child, h'⟩) ∨
      (∃ child h child' h', p = ⟨none, child, h⟩ ∧
        (turnInput noxtls env child).run h = (.ok (.done (.again child')), h') ∧ q = ⟨none, child', h'⟩) ∨
      ∃ ready child h child' h', p = ⟨some ready, child, h⟩ ∧
        (sessionChild noxtls env child ready).run h = (.ok (.again child'), h') ∧ q = ⟨none, child', h'⟩ := by
  obtain ⟨stage, child, h⟩ := p
  cases stage with
  | none =>
      simp only [next] at step
      split at step
      · rename_i ready h' ran
        exact .inl ⟨child, h, ready, h', rfl, ran, (Option.some.inj step).symm⟩
      · rename_i child' h' ran
        exact .inr (.inl ⟨child, h, child', h', rfl, ran, (Option.some.inj step).symm⟩)
      · cases step
  | some ready =>
      simp only [next] at step
      split at step
      · rename_i child' h' ran
        exact .inr (.inr ⟨ready, child, h, child', h', rfl, ran, (Option.some.inj step).symm⟩)
      · cases step

theorem rest_next (step : next noxtls env p = some q) (turns : Nat) :
    ∃ more, rest noxtls env more p = rest noxtls env turns q := by
  rcases next_cases step with ⟨child, h, ready, h', rfl, ran, rfl⟩ | ⟨child, h, child', h', rfl, ran, rfl⟩ |
    ⟨ready, child, h, child', h', rfl, ran, rfl⟩
  · refine ⟨turns + 1, (sessionLoop_halves noxtls env turns child h).trans ?_⟩
    rw [bind_ok ran]
    rfl
  · refine ⟨turns + 1, (sessionLoop_halves noxtls env turns child h).trans ?_⟩
    rw [bind_ok ran]
    rfl
  · refine ⟨turns, ?_⟩
    show (sessionChild noxtls env child ready >>= afterTurn noxtls env turns).run h = _
    rw [bind_ok ran]
    rfl

theorem rest_visits (visits : Visits (next noxtls env) p q) (turns : Nat) :
    ∃ more, rest noxtls env more p = rest noxtls env turns q := by
  refine visits.invariant (I := fun q => ∀ turns, ∃ more, rest noxtls env more p = rest noxtls env turns q)
    (fun turns => ⟨turns, rfl⟩) ?_ turns
  intro t u _ here step turns
  obtain ⟨more, same⟩ := rest_next step turns
  obtain ⟨all, same'⟩ := here more
  exact ⟨all, same'.trans same⟩

end Place

end Turns

/-! ## The client -/

/-- The messages of the client: data within the window, credit, end of input. -/
inductive Ordinary (s : Server) : List UInt8 → Prop
  | data (bytes : List UInt8) (fits : bytes.length ≤ s.localWindowSize) :
      Ordinary s ([94] ++ be32 s.localChannelId ++ sshString bytes)
  | credit (amount : Nat) (fits : s.remoteWindowSize + amount < 4294967296) :
      Ordinary s ([93] ++ be32 s.localChannelId ++ be32 amount)
  | eof : Ordinary s ([96] ++ be32 s.localChannelId)

/-- The next packet on the way is one of them. -/
def Offers (noxtls : Noxtls) (h : Host Server) : Prop :=
  ∃ last payload payloads rest, Awaiting noxtls last (payload :: payloads) rest h ∧ Ordinary h.self payload

/-- The child takes so many bytes, beginning at the tick. -/
inductive Takes (env : Env) : Nat → Nat → Prop
  | all (t : Nat) : Takes env t 0
  | some (t n : Nat) (more : 0 < env.childWrite t) (later : Takes env (t + 1) (n - env.childWrite t)) :
      Takes env t n

/-- The child takes the data of the packet received next. -/
def InputTaken (noxtls : Noxtls) (env : Env) (h : Host Server) : Prop :=
  ∀ payload m h₁ data, (recvInto noxtls env maxPacketLen).run h = (.ok (payload, m), h₁) →
    dataOf (channel h₁.self) payload = some data → Takes env h₁.tick data.length

/-- What `poll` may answer: no error, no hang-up, and a time limit only when nobody waits for
the child. -/
def Pleasant (child : Child) : PollAnswer → Prop
  | .interrupted => True
  | .error => False
  | .timeout => child.outputEof = true
  | .ready transport _ => transport.pollerr = false ∧ transport.pollhup = false

/-! ### Sending -/

section Live

variable {noxtls : Noxtls} {env : Env} {h h' : Host Server} {child : Child}

/-- What sending and receiving leave alone. -/
structure Same (h h' : Host Server) : Prop where
  block : HasBlock (sendSide.lane h'.self)
  core : core h'.self = core h.self

variable (noxtls env h) in
/-- A message goes out, or a deadline came first. -/
theorem sends_live (sha : noxtls.shaInit = true) (ctr : CtrMode noxtls) (live : Live env) {payload : List UInt8}
    (on : onChannel payload = true) (small : payload.length ≤ 34980) (block : HasBlock (sendSide.lane h.self)) :
    (∃ h', (sendPacket noxtls env payload).run h = (.ok (), h') ∧ Spoke payload true h h' ∧ Same h h') ∨
      ∃ e h', (sendPacket noxtls env payload).run h = (.err e, h') ∧ Late h' := by
  have nonempty : payload ≠ [] := by
    rintro rfl
    simp [onChannel] at on
  have returns := sendPacket_live sha ctr live.send live.random nonempty small block
  rcases sendPacket_spoke noxtls env payload on h with ⟨h', ran, spoke⟩ | ⟨e, h', ran, -⟩
  · rw [Returns, ran] at returns
    obtain ⟨padding, bytes, now, length, seals, moved⟩ := returns
    have lane := sendSide.lane_step countSent (fun _ _ => rfl) (plainPacket payload padding).length
      (armSend now h.self)
    rw [← moved.self, lane_armSend] at lane
    refine .inl ⟨h', ran, spoke, ?_, by rw [moved.self, core_sendStep]⟩
    rw [lane]
    exact block.after _
  · rw [Returns, ran] at returns
    exact .inr ⟨e, h', ran, returns⟩

/-! ### A packet -/

theorem writeChild_takes {t n : Nat} (takes : Takes env t n) : ∀ (data : List UInt8) (turns : Nat) (h : Host Server),
    h.tick = t → data.length = n → n ≤ turns →
    ∃ seen h', (writeChild env .childInput turns data).run h = (.ok true, h') ∧ Feeds (channel h.self) data seen ∧
      sights h'.trace = sights h.trace ++ seen ∧ h'.self = h.self := by
  induction takes with
  | all t =>
      rintro data turns h - length -
      obtain rfl := List.length_eq_zero_iff.1 length
      exact ⟨[], h, by rw [writeChild, pure_run], .nil, by simp, rfl⟩
  | some t n more _ ih =>
      rintro data turns h rfl length enough
      cases data with
      | nil => exact ⟨[], h, by rw [writeChild, pure_run], .nil, by simp, rfl⟩
      | cons c data =>
          rw [List.length_cons] at length
          obtain ⟨turns, rfl⟩ : ∃ less, turns = less + 1 := ⟨turns - 1, by omega⟩
          rw [writeChild, ask_bind_run]
          dsimp only
          have took : min (env.childWrite h.tick) (c :: data).length ≠ 0 := by simp only [List.length_cons]; omega
          rw [if_neg took, log_bind_run]
          obtain ⟨seen, h', ran, feeds, observed, same⟩ :=
            ih ((c :: data).drop (min (env.childWrite h.tick) (c :: data).length)) turns
              ⟨h.self, h.tick + 1, h.inbox, h.trace ++
                [(.childInput ((c :: data).take (min (env.childWrite h.tick) (c :: data).length)), h.self)]⟩
              rfl (by rw [List.length_drop, List.length_cons]; omega) (by omega)
          rw [sights_append, sights_loud rfl, List.append_assoc] at observed
          refine ⟨_, h', ran, ?_, observed, same⟩
          have whole := @Feeds.cons _ ((c :: data).take (min (env.childWrite h.tick) (c :: data).length)) _ _
            (rekeyDue h.self) feeds
          rwa [List.take_append_drop] at whole

section Reading

variable {s : Server} (stale : Mem)

theorem sessionData_ordinary {bytes : List UInt8} (id : s.localChannelId = 0) (short : bytes.length ≤ 34980)
    (fits : bytes.length ≤ s.localWindowSize) :
    sessionData s ([94] ++ be32 s.localChannelId ++ sshString bytes)
      (memOf ([94] ++ be32 s.localChannelId ++ sshString bytes) stale) = some bytes := by
  have size : ([94] ++ be32 s.localChannelId ++ sshString bytes).length = 9 + bytes.length := by
    simp
    omega
  have stands := holds_memOf ([94] ++ be32 s.localChannelId ++ sshString bytes) stale
  rw [holds_append, holds_append] at stands
  obtain ⟨⟨-, number⟩, string⟩ := stands
  have recipient := @payloadReadU32_holds _ ([94] ++ be32 s.localChannelId ++ sshString bytes).length _ _ number
    (by simp) (by omega)
  rw [wrap32_of_lt (by omega)] at recipient
  have read := @payloadReadStringView_holds _ ([94] ++ be32 s.localChannelId ++ sshString bytes).length _ _ string
    (by rw [size]; simp; omega) (by omega)
  have view := view_sshString string
  rw [sessionData, show (1 : Nat) = 0 + [(94 : UInt8)].length from rfl, recipient]
  dsimp only
  rw [show 0 + [(94 : UInt8)].length + 4 = 0 + ([94] ++ be32 s.localChannelId).length by simp, read]
  dsimp only
  rw [view, if_neg]
  rintro (other | longer | many)
  · exact other rfl
  · exact longer (by rw [size]; simp; omega)
  · omega

theorem adjustedWindow_ordinary {amount : Nat} (id : s.localChannelId = 0)
    (fits : s.remoteWindowSize + amount < 4294967296) :
    adjustedWindow s ([93] ++ be32 s.localChannelId ++ be32 amount)
      (memOf ([93] ++ be32 s.localChannelId ++ be32 amount) stale) = some (s.remoteWindowSize + amount) := by
  have stands := holds_memOf ([93] ++ be32 s.localChannelId ++ be32 amount) stale
  rw [holds_append, holds_append] at stands
  obtain ⟨⟨-, number⟩, credit⟩ := stands
  have recipient := @payloadReadU32_holds _ ([93] ++ be32 s.localChannelId ++ be32 amount).length _ _ number
    (by simp) (by simp)
  rw [wrap32_of_lt (by omega)] at recipient
  have read := @payloadReadU32_holds _ ([93] ++ be32 s.localChannelId ++ be32 amount).length _ _ credit
    (by simp) (by simp)
  rw [wrap32_of_lt (by omega)] at read
  rw [adjustedWindow, show (1 : Nat) = 0 + [(93 : UInt8)].length from rfl, recipient]
  dsimp only
  rw [show 0 + [(93 : UInt8)].length + 4 = 0 + ([93] ++ be32 s.localChannelId).length by simp, read]
  dsimp only
  rw [if_neg]
  rintro (other | many)
  · exact other rfl
  · omega

theorem handleChannelEnd_ordinary (id : h.self.localChannelId = 0) :
    (handleChannelEnd noxtls env ([96] ++ be32 h.self.localChannelId)
      (memOf ([96] ++ be32 h.self.localChannelId) stale)).run h = (.ok (), h) := by
  have stands := holds_memOf ([96] ++ be32 h.self.localChannelId) stale
  rw [holds_append] at stands
  have recipient := @payloadReadU32_holds _ ([96] ++ be32 h.self.localChannelId).length _ _ stands.2 (by simp)
    (by simp)
  rw [wrap32_of_lt (by omega)] at recipient
  rw [handleChannelEnd, self_bind_run, ensure_bind_pos, if_neg (by simp)]
  · rfl
  · exact ⟨by simp, .inl rfl, congrArg (Option.map Prod.fst) recipient⟩

end Reading

/-- What a packet does to the session: credit comes in, and no output of the child is moved. -/
structure Tended (h h' : Host Server) : Prop where
  block : HasBlock (sendSide.lane h'.self)
  pty : h'.self.wantPty = h.self.wantPty
  id : h'.self.localChannelId = h.self.localChannelId
  peer : h'.self.remoteChannelId = h.self.remoteChannelId
  window : h.self.remoteWindowSize ≤ h'.self.remoteWindowSize
  dry : ∃ seen, sights h'.trace = sights h.trace ++ seen ∧ Dry seen

theorem Tended.trans {h'' : Host Server} (first : Tended h h') (second : Tended h' h'') : Tended h h'' := by
  obtain ⟨seen, observed, dry⟩ := first.dry
  obtain ⟨more, observed', dry'⟩ := second.dry
  exact ⟨second.block, second.pty.trans first.pty, second.id.trans first.id, second.peer.trans first.peer,
    first.window.trans second.window, seen ++ more, by rw [observed', observed, List.append_assoc], dry.append dry'⟩

/-- The context is the same but for its lanes, deadlines and counts. -/
theorem Same.tended (same : Same h h') {seen : List Sight} (observed : sights h'.trace = sights h.trace ++ seen)
    (dry : Dry seen) : Tended h h' where
  block := same.block
  pty := @eq_of_core _ Server.wantPty (fun _ => rfl) _ _ same.core
  id := @eq_of_core _ Server.localChannelId (fun _ => rfl) _ _ same.core
  peer := @eq_of_core _ Server.remoteChannelId (fun _ => rfl) _ _ same.core
  window := (@eq_of_core _ Server.remoteWindowSize (fun _ => rfl) _ _ same.core).ge
  dry := ⟨seen, observed, dry⟩

/-- A tick passes. -/
theorem tended_tick (block : HasBlock (sendSide.lane h.self)) : Tended h { h with tick := h.tick + 1 } :=
  ⟨block, rfl, rfl, rfl, le_rfl, [], (List.append_nil _).symm, dry_nil⟩

variable (noxtls env h) in
theorem maybeWindowAdjust_live (sha : noxtls.shaInit = true) (ctr : CtrMode noxtls) (live : Live env)
    (block : HasBlock (sendSide.lane h.self)) :
    (∃ h', (maybeWindowAdjust noxtls env).run h = (.ok (), h') ∧ Tended h h') ∨
      ∃ e h', (maybeWindowAdjust noxtls env).run h = (.err e, h') ∧ Late h' := by
  by_cases much : h.self.localWindowSize > 65536
  · exact .inl ⟨h, maybeWindowAdjust_enough much, block, rfl, rfl, rfl, le_rfl, [], (List.append_nil _).symm, dry_nil⟩
  · rw [maybeWindowAdjust_little (by omega)]
    rcases sends_live noxtls env { h with self := setLocalWindow (h.self.localWindowSize + 262144) h.self } sha ctr
      live (show onChannel (windowAdjust h.self.localChannelId) = true from rfl) (by simp [windowAdjust]) block with
      ⟨h', ran, ⟨seen, spoken, observed, -⟩, same⟩ | late
    · have tended := same.tended observed (spoken.dry (by simp [windowAdjust]))
      exact .inl ⟨h', ran, tended.block, tended.pty, tended.id, tended.peer, tended.window, tended.dry⟩
    · exact .inr late

section Kinds

variable {payload data : List UInt8} {m : Mem}

/-- The three kinds of packets, as the loop takes them. -/
theorem sessionPacket_data (number : payload.head? = some 94) (is : sessionData h.self payload m = some data) :
    (sessionPacket noxtls env payload m).run h = (do
      if ← writeChild env .childInput data.length data then do
        modify (setLocalWindow (h.self.localWindowSize - data.length))
        orBreak (maybeWindowAdjust noxtls env)
      else pure (some false) : Prog Server (Option Bool)).run h := by
  rw [sessionPacket, self_bind_run, number, is]
  rfl

theorem sessionPacket_credit {window : Nat} (number : payload.head? = some 93)
    (is : adjustedWindow h.self payload m = some window) :
    (sessionPacket noxtls env payload m).run h = (.ok none, { h with self := setRemoteWindow window h.self }) := by
  rw [sessionPacket, self_bind_run, number, is]
  rfl

theorem sessionPacket_eof (number : payload.head? = some 96) (pty : h.self.wantPty = false)
    (is : (handleChannelEnd noxtls env payload m).run h = (.ok (), h)) :
    (sessionPacket noxtls env payload m).run h = (.ok none, h) := by
  rw [sessionPacket, self_bind_run, number, pty]
  show (attempt (handleChannelEnd noxtls env payload m) >>= _).run h = _
  rw [bind_run, attempt_run, is]
  rfl

end Kinds

/-- A packet of the client's is dealt with, if the child takes its data. -/
theorem sessionPacket_live (sha : noxtls.shaInit = true) (ctr : CtrMode noxtls) (live : Live env) (stale : Mem)
    {payload : List UInt8} (ordinary : Ordinary h.self payload) (small : payload.length ≤ 34980)
    (block : HasBlock (sendSide.lane h.self)) (id : h.self.localChannelId = 0) (pty : h.self.wantPty = false)
    (taken : ∀ data, dataOf (channel h.self) payload = some data → Takes env h.tick data.length) :
    (∃ h', (sessionPacket noxtls env payload (memOf payload stale)).run h = (.ok none, h') ∧ Tended h h') ∨
      ∃ h', (sessionPacket noxtls env payload (memOf payload stale)).run h = (.ok (some false), h') ∧ Late h' := by
  cases ordinary with
  | data bytes fits =>
      have short : bytes.length ≤ 34980 := by
        simp at small
        omega
      have is := sessionData_ordinary stale id short fits
      have data := sessionData_some (by simp) (by unfold maxPacketLen; omega) is
      obtain ⟨seen, h₁, wrote, feeds, observed, same⟩ :=
        writeChild_takes (taken bytes data) bytes bytes.length h rfl rfl le_rfl
      rw [sessionPacket_data rfl is, bind_ok wrote, if_pos rfl, modify_bind_run]
      have fed : Tended h { h₁ with self := setLocalWindow (h.self.localWindowSize - bytes.length) h₁.self } := by
        rw [same]
        exact ⟨block, rfl, rfl, rfl, le_rfl, seen, observed, feeds.dry⟩
      rcases maybeWindowAdjust_live noxtls env _ sha ctr live fed.block with ⟨h₂, ran, tended⟩ | ⟨e, h₂, ran, late⟩
      · refine .inl ⟨h₂, ?_, fed.trans tended⟩
        rw [orBreak, bind_run, attempt_run, ran]
        rfl
      · refine .inr ⟨h₂, ?_, late⟩
        rw [orBreak, bind_run, attempt_run, ran]
        rfl
  | credit amount fits =>
      refine .inl ⟨_, sessionPacket_credit rfl (adjustedWindow_ordinary stale id fits), block, rfl, rfl, rfl, ?_, [],
        (List.append_nil _).symm, dry_nil⟩
      exact Nat.le_add_right _ _
  | eof =>
      exact .inl ⟨h, sessionPacket_eof rfl pty (handleChannelEnd_ordinary stale id), block, rfl, rfl, rfl, le_rfl, [],
        (List.append_nil _).symm, dry_nil⟩

/-! ### The first half of a turn -/

theorem Ordinary.keep {payload : List UInt8} (ordinary : Ordinary h.self payload)
    (same : core h'.self = core h.self) : Ordinary h'.self payload := by
  have id := @eq_of_core _ Server.localChannelId (fun _ => rfl) _ _ same
  have localWindow := @eq_of_core _ Server.localWindowSize (fun _ => rfl) _ _ same
  have remoteWindow := @eq_of_core _ Server.remoteWindowSize (fun _ => rfl) _ _ same
  cases ordinary with
  | data bytes fits =>
      rw [← id]
      exact .data bytes (by omega)
  | credit amount fits =>
      rw [← id]
      exact .credit amount (by omega)
  | eof =>
      rw [← id]
      exact .eof

/-- The next packet is received, or a deadline came first. -/
theorem recvInto_offered (ctr : CtrMode noxtls) (live : Live env) (offers : Offers noxtls h) :
    (∃ payload stale h', (recvInto noxtls env maxPacketLen).run h = (.ok (payload, memOf payload stale), h') ∧
        Ordinary h'.self payload ∧ payload.length ≤ 34980 ∧ Tended h h') ∨
      ∃ e h', (recvInto noxtls env maxPacketLen).run h = (.err e, h') ∧ Late h' := by
  obtain ⟨last, payload, payloads, rest, awaiting, ordinary⟩ := offers
  have small : payload.length ≤ 34980 := by
    obtain ⟨-, sender, frames, sealed, -⟩ := awaiting
    cases sealed with
    | cons small => exact small
  have returns := hears_live ctr live (show payload.length ≤ maxPacketLen by unfold maxPacketLen; omega) awaiting
  rcases recvInto_seen noxtls env h with ⟨p, stale, h', ran, -, -, observed⟩ | ⟨o, h', ran, failed, -⟩
  · rw [Returns, ran] at returns
    obtain ⟨⟨stale', is⟩, -, awaiting', same⟩ := returns
    obtain ⟨rfl, -⟩ := Prod.mk.inj is
    exact .inl ⟨p, stale, h', ran, ordinary.keep same, small,
      Same.tended ⟨awaiting'.block, same⟩ observed (dry_single rfl rfl)⟩
  · rw [Returns, ran] at returns
    cases o with
    | ok got => exact absurd rfl (failed got)
    | err e => exact .inr ⟨e, h', ran, returns⟩
    | stuck => exact returns.elim

/-- Where the first half of a turn leads: back to the top, or to the child. -/
def HeadsFor (child : Child) (h : Host Server) (half : Half) : Prop :=
  half = .done (.again child) ∨
    ∃ ready, half = .child ready ∧ (ready = true → child.outputEof = false ∧ h.self.remoteWindowSize ≠ 0)

theorem turnInput_live (sha : noxtls.shaInit = true) (ctr : CtrMode noxtls) (live : Live env)
    (block : HasBlock (sendSide.lane h.self)) (id : h.self.localChannelId = 0) (pty : h.self.wantPty = false)
    (fresh : rekeyDue h.self = false) (pleasant : Pleasant child (env.poll h.tick))
    (offers : ∀ transport output, env.poll h.tick = .ready transport output → transport.pollin = true →
      Offers noxtls { h with tick := h.tick + 1 } ∧ InputTaken noxtls env { h with tick := h.tick + 1 }) :
    (∃ half h', (turnInput noxtls env child).run h = (.ok half, h') ∧ Tended h h' ∧ HeadsFor child h half) ∨
      ∃ h', (turnInput noxtls env child).run h = (.ok (.done (.broken false)), h') ∧ Late h' := by
  rw [turnInput, self_bind_run]
  dsimp only
  rw [if_neg (by simp [fresh]), ask_bind_run]
  cases answer : env.poll h.tick with
  | interrupted => exact .inl ⟨_, _, rfl, tended_tick block, .inl rfl⟩
  | error =>
      rw [answer] at pleasant
      exact pleasant.elim
  | timeout =>
      rw [answer] at pleasant
      dsimp only
      rw [if_pos (show child.outputEof = true from pleasant)]
      exact .inl ⟨_, _, rfl, tended_tick block, .inr ⟨false, rfl, fun never => by cases never⟩⟩
  | ready transport output =>
      rw [answer] at pleasant
      obtain ⟨noError, noHangup⟩ : transport.pollerr = false ∧ transport.pollhup = false := pleasant
      have watched : ∀ ready, ready = ((!child.outputEof && decide (h.self.remoteWindowSize ≠ 0)) &&
          (output.pollin || output.pollhup)) → ready = true →
            child.outputEof = false ∧ h.self.remoteWindowSize ≠ 0 := by
        rintro _ rfl ready
        rw [Bool.and_eq_true, Bool.and_eq_true] at ready
        exact ⟨by simpa using ready.1.1, of_decide_eq_true ready.1.2⟩
      dsimp only
      rw [if_neg (by simp [noError, noHangup])]
      by_cases readable : transport.pollin = true
      swap
      · rw [if_neg readable]
        exact .inl ⟨_, _, rfl, tended_tick block, .inr ⟨_, rfl, watched _ rfl⟩⟩
      rw [if_pos readable]
      obtain ⟨offered, takes⟩ := offers transport output answer readable
      rcases recvInto_offered ctr live offered with
        ⟨payload, stale, h₁, ran, ordinary, small, heard⟩ | ⟨e, h₁, ran, late⟩
      swap
      · refine .inr ⟨h₁, ?_, late⟩
        rw [bind_run, attempt_run, ran]
        rfl
      rw [bind_ok (attempt_ok ran)]
      dsimp only
      have ticked := (tended_tick block).trans heard
      rcases sessionPacket_live sha ctr live stale ordinary small heard.block (heard.id.trans id)
        (heard.pty.trans pty) (fun data is => takes _ _ _ data ran is) with ⟨h₂, dealt, tended⟩ | ⟨h₂, dealt, late⟩
      swap
      · refine .inr ⟨h₂, ?_, late⟩
        rw [bind_ok dealt]
        rfl
      rw [bind_ok dealt]
      dsimp only
      rw [log_bind_run]
      have logged : Tended h₂ { h₂ with trace := h₂.trace ++ [(.sessionGoesOn, h₂.self)] } :=
        ⟨tended.block, rfl, rfl, rfl, le_rfl, _, by rw [sights_append, sights_loud rfl], dry_single rfl rfl⟩
      exact .inl ⟨_, _, rfl, (ticked.trans tended).trans logged, .inr ⟨_, rfl, watched _ rfl⟩⟩

/-! ### The child -/

theorem reapChild_tended (block : HasBlock (sendSide.lane h.self))
    (known : ∀ status ∈ child.reaped, ∃ t, env.waitpid t = some status) :
    ∃ reaped h', (reapChild env child).run h = (.ok reaped, h') ∧ Tended h h' ∧
      (reaped = none → child.reaped = none ∧ env.waitpid h.tick = none) ∧
      ∀ status ∈ reaped, ∃ t, env.waitpid t = some status := by
  rw [reapChild]
  cases is : child.reaped with
  | some status =>
      rw [if_neg (by simp)]
      refine ⟨some status, h, rfl, ⟨block, rfl, rfl, rfl, le_rfl, [], (List.append_nil _).symm, dry_nil⟩, ?_, ?_⟩
      · exact fun none => by cases none
      · rwa [is] at known
  | none =>
      rw [if_pos rfl]
      cases answer : env.waitpid h.tick with
      | none =>
          refine ⟨none, { h with tick := h.tick + 1 }, ?_, tended_tick block, fun _ => ⟨rfl, rfl⟩, by simp⟩
          rw [ask_bind_run, answer, pure_run]
      | some status =>
          refine ⟨some status, ⟨h.self, h.tick + 1, h.inbox, h.trace ++ [(.childReaped status, h.self)]⟩,
            ?_, ?_, ?_, ?_⟩
          · rw [ask_bind_run, answer]
            rfl
          · exact ⟨block, rfl, rfl, rfl, le_rfl, _, by rw [sights_append, sights_loud rfl], dry_single rfl rfl⟩
          · exact fun none => by cases none
          · rintro _ ⟨⟩
            exact ⟨h.tick, answer⟩

variable (noxtls env h) in
theorem sends_returns (sha : noxtls.shaInit = true) (ctr : CtrMode noxtls) (live : Live env) {payload : List UInt8}
    (on : onChannel payload = true) (small : payload.length ≤ 34980) (block : HasBlock (sendSide.lane h.self)) :
    Returns Late (sendPacket noxtls env payload) (fun _ h' => HasBlock (sendSide.lane h'.self)) h := by
  rcases sends_live noxtls env h sha ctr live on small block with ⟨h', ran, -, same⟩ | ⟨e, h', ran, late⟩
  · exact returns_of_run ran same.block
  · exact returns_of_err ran late

theorem farewell_live (sha : noxtls.shaInit = true) (ctr : CtrMode noxtls) (live : Live env) (status : Nat)
    (block : HasBlock (sendSide.lane h.self)) :
    Returns Late (do
      sendExitStatus noxtls env status
      sendChannelEof noxtls env
      sendChannelClose noxtls env) (fun _ _ => True) h := by
  have first : Returns Late (sendExitStatus noxtls env status) (fun _ h' => HasBlock (sendSide.lane h'.self)) h := by
    rw [Returns, sendExitStatus_run]
    exact sends_returns noxtls env h sha ctr live rfl (by simp [exitStatusMessage, ascii]) block
  have second : ∀ h : Host Server, HasBlock (sendSide.lane h.self) → Returns Late (sendChannelEof noxtls env)
      (fun _ h' => HasBlock (sendSide.lane h'.self)) h := by
    intro h block
    rw [Returns, sendChannelEof, sendChannelMessage_run (by decide)]
    exact sends_returns noxtls env h sha ctr live rfl (by simp [channelMessage]) block
  have third : ∀ h : Host Server, HasBlock (sendSide.lane h.self) → Returns Late (sendChannelClose noxtls env)
      (fun _ _ => True) h := by
    intro h block
    rw [Returns, sendChannelClose, sendChannelMessage_run (by decide)]
    exact (sends_returns noxtls env h sha ctr live rfl (by simp [channelMessage]) block).mono fun _ _ _ => trivial
  exact first.bind fun _ h₁ block₁ => (second h₁ block₁).bind fun _ h₂ block₂ => third h₂ block₂

/-- The last turn: the child's output is at an end, it was reaped, and exit status, EOF and
CLOSE went out. -/
def SignedOff (env : Env) (child : Child) (h : Host Server) (r : Outcome NetnoxReturn Turn × Host Server) : Prop :=
  child.outputEof = true ∧ ∃ status before seen, r.1 = .ok .complete ∧
    sights r.2.trace = sights h.trace ++ (before ++ seen) ∧ Dry before ∧ (∃ t, env.waitpid t = some status) ∧
    ∃ c : Channel, c.remoteChannelId = h.self.remoteChannelId ∧
      SaysAll c [exitStatusMessage c.remoteChannelId (exitCode status), channelMessage 96 c.remoteChannelId,
        channelMessage 97 c.remoteChannelId] true seen

/-- The loop goes on with the child, which is reaped or not, and no output was moved. -/
def Reaps (env : Env) (child : Child) (h : Host Server) (r : Outcome NetnoxReturn Turn × Host Server) : Prop :=
  ∃ reaped h', r = (.ok (.again { child with reaped := reaped }), h') ∧ Tended h h' ∧
    (child.outputEof = true → child.reaped = none ∧ env.waitpid h.tick = none) ∧
    ∀ status ∈ reaped, ∃ t, env.waitpid t = some status

def BrokenLate (r : Outcome NetnoxReturn Turn × Host Server) : Prop := r.1 = .ok (.broken false) ∧ Late r.2

theorem sessionReap_live (sha : noxtls.shaInit = true) (ctr : CtrMode noxtls) (live : Live env)
    (block : HasBlock (sendSide.lane h.self)) (known : ∀ status ∈ child.reaped, ∃ t, env.waitpid t = some status) :
    Reaps env child h ((sessionReap noxtls env child).run h) ∨
      SignedOff env child h ((sessionReap noxtls env child).run h) ∨ BrokenLate ((sessionReap noxtls env child).run h) := by
  obtain ⟨reaped, h₁, ran, tended, unreaped, known'⟩ := reapChild_tended block known
  obtain ⟨ended, was⟩ := child
  rw [sessionReap, bind_ok ran]
  dsimp only
  cases ended with
  | false => exact .inl ⟨reaped, h₁, rfl, tended, (fun never => by cases never), known'⟩
  | true =>
      cases reaped with
      | none => exact .inl ⟨none, h₁, rfl, tended, fun _ => unreaped rfl, known'⟩
      | some status =>
          dsimp only
          right
          have returns := farewell_live sha ctr live (exitCode status) tended.block
          rcases farewell_spoke noxtls env (exitCode status) h₁ with
            ⟨h₂, said, seen, spoken, observed, -⟩ | ⟨e, h₂, said, -⟩
          · obtain ⟨before, observed', dry⟩ := tended.dry
            refine .inl ⟨rfl, status, before, seen, ?_, ?_, dry, known' status rfl, channel h₁.self, tended.peer,
              spoken⟩
            · rw [bind_run, attempt_run, said]
              rfl
            · rw [bind_run, attempt_run, said]
              show sights h₂.trace = _
              rw [observed, observed', List.append_assoc]
          · rw [Returns, said] at returns
            refine .inr ⟨?_, ?_⟩
            · rw [bind_run, attempt_run, said]
              rfl
            · rw [bind_run, attempt_run, said]
              exact returns

/-- What the second half of a turn reads of the child's output, if it looks at all. -/
inductive Reads (env : Env) (child : Child) (t : Nat) : Bool → Child → List Sight → Prop
  | not : Reads env child t false child []
  | piece (bytes piece : List UInt8) (seen : List Sight) (answer : env.childRead t = .bytes bytes)
      (some : piece ≠ []) (first : piece <+: bytes) (read : outputOf seen = piece) (sent : forwardedOf seen = piece) :
      Reads env child t true child seen
  | ended (answer : env.childRead t = .eof) : Reads env child t true { child with outputEof := true } []
  | nothing (answer : env.childRead t = .again) : Reads env child t true child []

/-- A pipe gives what was written to it, in order, and tells its end after the last of it. -/
def Piped (output read : List UInt8) : ChildRead → Prop
  | .bytes bytes => bytes ≠ [] ∧ read ++ bytes <+: output
  | .eof => read = output
  | .again => True
  | .error => False

/-- The context after a piece of output, apart from the client's window. -/
structure Alongside (h h' : Host Server) : Prop where
  block : HasBlock (sendSide.lane h'.self)
  pty : h'.self.wantPty = h.self.wantPty
  id : h'.self.localChannelId = h.self.localChannelId
  peer : h'.self.remoteChannelId = h.self.remoteChannelId

theorem sessionOutput_live (sha : noxtls.shaInit = true) (ctr : CtrMode noxtls) (live : Live env)
    (block : HasBlock (sendSide.lane h.self)) (large : h.self.remoteWindowSize ≠ 0) {output read : List UInt8}
    (piped : Piped output read (env.childRead h.tick)) :
    (∃ child' h' seen, (sessionOutput noxtls env child).run h = (.ok (some child'), h') ∧
        Reads env child h.tick true child' seen ∧ sights h'.trace = sights h.trace ++ seen ∧ Alongside h h') ∨
      ∃ h', (sessionOutput noxtls env child).run h = (.ok none, h') ∧ Late h' := by
  rw [sessionOutput, ask_bind_run]
  cases answer : env.childRead h.tick with
  | error =>
      rw [answer] at piped
      exact piped.elim
  | eof => exact .inl ⟨_, _, [], rfl, .ended answer, (List.append_nil _).symm, block, rfl, rfl, rfl⟩
  | again => exact .inl ⟨_, _, [], rfl, .nothing answer, (List.append_nil _).symm, block, rfl, rfl, rfl⟩
  | bytes bytes =>
      rw [answer] at piped
      obtain ⟨some, -⟩ : bytes ≠ [] ∧ read ++ bytes <+: output := piped
      have cap := readCap_pos large
      obtain ⟨inWindow, inChunk, -⟩ := readCap_le h.self
      have chunk : maxChunk h.self ≤ 4096 := by
        unfold maxChunk
        split <;> omega
      have filled : bytes.take (readCap h.self) ≠ [] := by
        rw [Ne, List.take_eq_nil_iff]
        exact not_or.2 ⟨cap, some⟩
      have size : (bytes.take (readCap h.self)).length ≤ readCap h.self := List.length_take_le _ _
      have hands := sendChannelDataChunk_run noxtls env filled
        (h := ⟨h.self, h.tick + 1, h.inbox, h.trace ++ [(.childOutput (bytes.take (readCap h.self)), h.self)]⟩)
        (size.trans inChunk) (size.trans inWindow)
      dsimp only
      rw [self_bind_run]
      dsimp only
      rw [if_neg filled, log_bind_run, bind_run, attempt_run, hands]
      rcases sends_live noxtls env
        ⟨setRemoteWindow (h.self.remoteWindowSize - (bytes.take (readCap h.self)).length) h.self, h.tick + 1, h.inbox,
          h.trace ++ [(.childOutput (bytes.take (readCap h.self)), h.self)]⟩ sha ctr live
        (show onChannel (dataMessage h.self.remoteChannelId (bytes.take (readCap h.self))) = true from rfl)
        (by simp [dataMessage]; omega) block with ⟨h', ran, ⟨seen, spoken, observed, -⟩, same⟩ | ⟨e, h', ran, late⟩
      · rw [ran]
        rw [sights_append, sights_loud rfl, List.append_assoc] at observed
        obtain ⟨dry, forwarded⟩ := spoken.forwards
        refine .inl ⟨child, h', _, rfl, ?_, observed, same.block, ?_, ?_, ?_⟩
        · refine .piece bytes _ _ answer filled (List.take_prefix _ _) ?_ ?_
          · rw [outputOf_append, dry, List.append_nil]
            simp [outputOf, outputIn]
          · rw [forwardedOf_append, forwarded]
            rfl
        · exact (@eq_of_core _ Server.wantPty (fun _ => rfl) _ _ same.core).trans rfl
        · exact (@eq_of_core _ Server.localChannelId (fun _ => rfl) _ _ same.core).trans rfl
        · exact (@eq_of_core _ Server.remoteChannelId (fun _ => rfl) _ _ same.core).trans rfl
      · rw [ran]
        exact .inr ⟨h', rfl, late⟩

theorem sessionChild_live (sha : noxtls.shaInit = true) (ctr : CtrMode noxtls) (live : Live env) (ready : Bool)
    (block : HasBlock (sendSide.lane h.self)) (known : ∀ status ∈ child.reaped, ∃ t, env.waitpid t = some status)
    (watched : ready = true → h.self.remoteWindowSize ≠ 0) {output read : List UInt8}
    (piped : ready = true → Piped output read (env.childRead h.tick)) :
    BrokenLate ((sessionChild noxtls env child ready).run h) ∨ ∃ child₁ h₁ seen,
      Reads env child h.tick ready child₁ seen ∧ (ready = false → h₁ = h) ∧ sights h₁.trace = sights h.trace ++ seen ∧
      Alongside h h₁ ∧ (Reaps env child₁ h₁ ((sessionChild noxtls env child ready).run h) ∨
        SignedOff env child₁ h₁ ((sessionChild noxtls env child ready).run h)) := by
  rw [sessionChild]
  cases ready with
  | false =>
      rw [if_neg (by decide)]
      rcases sessionReap_live sha ctr live block known with reaps | off | broken
      · exact .inr ⟨child, h, [], .not, fun _ => rfl, (List.append_nil _).symm, ⟨block, rfl, rfl, rfl⟩, .inl reaps⟩
      · exact .inr ⟨child, h, [], .not, fun _ => rfl, (List.append_nil _).symm, ⟨block, rfl, rfl, rfl⟩, .inr off⟩
      · exact .inl broken
  | true =>
      rw [if_pos rfl, self_bind_run, if_neg (readCap_pos (watched rfl))]
      rcases @sessionOutput_live noxtls env h child sha ctr live block (watched rfl) output read (piped rfl) with
        ⟨child₁, h₁, seen, ran, reads, observed, beside⟩ | ⟨h₁, ran, late⟩
      swap
      · left
        rw [bind_ok ran]
        exact ⟨rfl, late⟩
      rw [bind_ok ran]
      have known₁ : ∀ status ∈ child₁.reaped, ∃ t, env.waitpid t = some status := by
        cases reads <;> exact known
      rcases sessionReap_live sha ctr live beside.block known₁ with reaps | off | broken
      · exact .inr ⟨child₁, h₁, seen, reads, (fun never => by cases never), observed, beside, .inl reaps⟩
      · exact .inr ⟨child₁, h₁, seen, reads, (fun never => by cases never), observed, beside, .inr off⟩
      · exact .inl broken

end Live

/-! ## From place to place -/

/-- What was observed from `h₀` on. -/
def since (h₀ h : Host Server) : List Sight := (sights h.trace).drop (sights h₀.trace).length

theorem since_append {h₀ h h' : Host Server} {seen : List Sight}
    (told : sights h.trace = sights h₀.trace ++ since h₀ h) (observed : sights h'.trace = sights h.trace ++ seen) :
    since h₀ h' = since h₀ h ++ seen ∧ sights h'.trace = sights h₀.trace ++ since h₀ h' := by
  have is : since h₀ h' = since h₀ h ++ seen := by rw [since, observed, told, List.append_assoc, List.drop_left]
  refine ⟨is, ?_⟩
  rw [is, observed, told, List.append_assoc]

/-- What holds of a place of a session that began at `h₀`: what was read was forwarded, and
it is all of the output once the end was read. -/
structure Stands (env : Env) (output : List UInt8) (h₀ : Host Server) (p : Place) : Prop where
  block : HasBlock (sendSide.lane p.host.self)
  pty : p.host.self.wantPty = false
  id : p.host.self.localChannelId = 0
  peer : p.host.self.remoteChannelId = h₀.self.remoteChannelId
  known : ∀ status ∈ p.child.reaped, ∃ t, env.waitpid t = some status
  watched : p.ready = some true → p.child.outputEof = false ∧ p.host.self.remoteWindowSize ≠ 0
  told : sights p.host.trace = sights h₀.trace ++ since h₀ p.host
  forwarded : forwardedOf (since h₀ p.host) = outputOf (since h₀ p.host)
  ended : p.child.outputEof = true → outputOf (since h₀ p.host) = output

/-- What is left to read, and the end of it. -/
def left (output : List UInt8) (h₀ : Host Server) (p : Place) : Nat :=
  output.length - (outputOf (since h₀ p.host)).length + if p.child.outputEof then 0 else 1

/-- What the client, the operating system and the child do at a place. -/
structure Attends (noxtls : Noxtls) (env : Env) (output : List UInt8) (h₀ : Host Server) (p : Place) : Prop where
  fresh : p.ready = none → rekeyDue p.host.self = false
  pleasant : p.ready = none → Pleasant p.child (env.poll p.host.tick)
  offers : p.ready = none → ∀ transport output, env.poll p.host.tick = .ready transport output →
    transport.pollin = true → Offers noxtls { p.host with tick := p.host.tick + 1 }
  piped : p.ready = some true → Piped output (outputOf (since h₀ p.host)) (env.childRead p.host.tick)

/-- If there is a packet at the top of a turn, the child takes its data. -/
def TakesInput (noxtls : Noxtls) (env : Env) (p : Place) : Prop :=
  p.ready = none → ∀ transport output, env.poll p.host.tick = .ready transport output → transport.pollin = true →
    InputTaken noxtls env { p.host with tick := p.host.tick + 1 }

/-- There is something to be done for the child: output or its end to read, and then its exit
status to take. -/
def GetsOn (env : Env) (p : Place) : Prop :=
  ∃ ready, p.ready = some ready ∧
    (p.child.outputEof = true → p.child.reaped ≠ none ∨ env.waitpid p.host.tick ≠ none) ∧
    (p.child.outputEof = false → ready = true ∧ env.childRead p.host.tick ≠ .again)

section Places

variable {noxtls : Noxtls} {env : Env} {output : List UInt8} {h₀ : Host Server} {p : Place} {child child' : Child}
  {h h' : Host Server}

/-- The first half keeps the place in order. -/
theorem Stands.input (stands : Stands env output h₀ ⟨none, child, h⟩) (tended : Tended h h') (ready : Option Bool)
    (watched : ready = some true → child.outputEof = false ∧ h.self.remoteWindowSize ≠ 0) :
    Stands env output h₀ ⟨ready, child, h'⟩ ∧
      left output h₀ ⟨ready, child, h'⟩ = left output h₀ ⟨none, child, h⟩ := by
  obtain ⟨seen, observed, read, sent⟩ := tended.dry
  obtain ⟨grown, told⟩ := since_append stands.told observed
  have same : outputOf (since h₀ h') = outputOf (since h₀ h) := by rw [grown, outputOf_append, read, List.append_nil]
  have sentSame : forwardedOf (since h₀ h') = forwardedOf (since h₀ h) := by
    rw [grown, forwardedOf_append, sent, List.append_nil]
  refine ⟨⟨tended.block, tended.pty.trans stands.pty, tended.id.trans stands.id, tended.peer.trans stands.peer,
    stands.known, ?_, told, ?_, ?_⟩, ?_⟩
  · intro is
    obtain ⟨running, large⟩ := watched is
    have window := tended.window
    exact ⟨running, by dsimp only; omega⟩
  · exact sentSame.trans (stands.forwarded.trans same.symm)
  · exact fun ended => same.trans (stands.ended ended)
  · simp only [left, same]

/-- What the second half reads. -/
theorem Reads.reads {ready : Bool} {seen : List Sight} (reads : Reads env child h.tick ready child' seen)
    (stands : Stands env output h₀ ⟨some ready, child, h⟩)
    (piped : ready = true → Piped output (outputOf (since h₀ h)) (env.childRead h.tick))
    (observed : sights h'.trace = sights h.trace ++ seen) :
    forwardedOf (since h₀ h') = outputOf (since h₀ h') ∧
      (child'.outputEof = true → outputOf (since h₀ h') = output) ∧
      left output h₀ ⟨none, child', h'⟩ ≤ left output h₀ ⟨some ready, child, h⟩ ∧
      (child.outputEof = false → ready = true → env.childRead h.tick ≠ .again →
        left output h₀ ⟨none, child', h'⟩ < left output h₀ ⟨some ready, child, h⟩) := by
  obtain ⟨grown, -⟩ := since_append stands.told observed
  cases reads with
  | not =>
      rw [List.append_nil] at grown
      refine ⟨?_, ?_, ?_, fun _ never => by cases never⟩
      · rw [grown]
        exact stands.forwarded
      · rw [grown]
        exact stands.ended
      · simp only [left, grown]
        exact le_rfl
  | nothing answer =>
      rw [List.append_nil] at grown
      refine ⟨?_, ?_, ?_, fun _ _ never => absurd answer never⟩
      · rw [grown]
        exact stands.forwarded
      · rw [grown]
        exact stands.ended
      · simp only [left, grown]
        exact le_rfl
  | ended answer =>
      rw [List.append_nil] at grown
      have all : outputOf (since h₀ h) = output := by
        have is := piped rfl
        rwa [answer] at is
      obtain ⟨running, -⟩ := stands.watched rfl
      dsimp only at running
      refine ⟨?_, ?_, ?_, fun _ _ _ => ?_⟩
      · rw [grown]
        exact stands.forwarded
      · rw [grown]
        exact fun _ => all
      · simp only [left, grown, running]
        simp
      · simp only [left, grown, running]
        simp
  | piece bytes piece seen answer some first read sent =>
      obtain ⟨running, -⟩ := stands.watched rfl
      dsimp only at running
      have is := piped rfl
      rw [answer] at is
      obtain ⟨-, more⟩ : bytes ≠ [] ∧ outputOf (since h₀ h) ++ bytes <+: output := is
      have fits := more.length_le
      have cut := first.length_le
      have pos := List.length_pos_iff.2 some
      rw [List.length_append] at fits
      refine ⟨?_, ?_, ?_, fun _ _ _ => ?_⟩
      · have before := stands.forwarded
        dsimp only at before
        rw [grown, forwardedOf_append, outputOf_append, read, sent, before]
      · rw [running]
        exact fun never => by cases never
      · simp only [left, grown, outputOf_append, read, List.length_append, running]
        omega
      · simp only [left, grown, outputOf_append, read, List.length_append, running]
        omega

end Places

/-! ## The session -/

section Session

variable (noxtls : Noxtls) (env : Env)

/-- `srv_run_session_unix` enters its loop. -/
def begins (h₀ : Host Server) : Place := ⟨none, ⟨false, none⟩, h₀⟩

/-- The client keeps the connection open with enough window and within its own, nothing fails
but the child's input, the child writes `output` and exits; without an end to the session there
is something to be done for the child again and again.  No terminal was asked for. -/
structure Cooperates (output : List UInt8) (h₀ : Host Server) : Prop where
  sha : noxtls.shaInit = true
  ctr : CtrMode noxtls
  live : Live env
  block : HasBlock (sendSide.lane h₀.self)
  id : h₀.self.localChannelId = 0
  pty : h₀.self.wantPty = false
  punctual : ∀ turns, ¬ Late ((sessionLoop noxtls env turns ⟨false, none⟩).run h₀).2
  attends : ∀ p, Visits (Place.next noxtls env) (begins h₀) p → Attends noxtls env output h₀ p
  fair : (∀ n, iterate (Place.next noxtls env) (begins h₀) n ≠ none) →
    ∀ n, ∃ m p, n ≤ m ∧ iterate (Place.next noxtls env) (begins h₀) m = some p ∧ GetsOn env p

/-- The session returns; all of the output was forwarded, and exit status, EOF and CLOSE were
sent after it. -/
def Delivers (output : List UInt8) (h₀ : Host Server) : Prop :=
  ∃ turns h' before seen status, (sessionLoop noxtls env turns ⟨false, none⟩).run h₀ = (.ok (), h') ∧
    sights h'.trace = sights h₀.trace ++ (before ++ seen) ∧ outputOf before = output ∧ forwardedOf before = output ∧
    (∃ t, env.waitpid t = some status) ∧ ∃ c : Channel, c.remoteChannelId = h₀.self.remoteChannelId ∧
      SaysAll c [exitStatusMessage c.remoteChannelId (exitCode status), channelMessage 96 c.remoteChannelId,
        channelMessage 97 c.remoteChannelId] true seen

variable {noxtls env} {output : List UInt8} {h₀ : Host Server} {p : Place}

/-- From a place the loop goes on to the next, or the child is signed off. -/
theorem Stands.step (cooperates : Cooperates noxtls env output h₀)
    (visits : Visits (Place.next noxtls env) (begins h₀) p) (stands : Stands env output h₀ p) (takes : TakesInput noxtls env p) :
    (∃ q, Place.next noxtls env p = some q ∧ Stands env output h₀ q ∧ left output h₀ q ≤ left output h₀ p ∧
        (GetsOn env p → left output h₀ q < left output h₀ p)) ∨ Delivers noxtls env output h₀ := by
  have attends := cooperates.attends p visits
  -- a deadline would be seen at the end of the loop
  have inTime : ∀ turns, ¬ Late (Place.rest noxtls env turns p).2 := by
    intro turns late
    obtain ⟨more, same⟩ := Place.rest_visits visits turns
    rw [← same] at late
    exact cooperates.punctual more late
  obtain ⟨ready, child, h⟩ := p
  cases ready with
  | none =>
      rcases turnInput_live cooperates.sha cooperates.ctr cooperates.live stands.block stands.id stands.pty
        (attends.fresh rfl) (attends.pleasant rfl) (fun transport output answer readable =>
          ⟨attends.offers rfl transport output answer readable, takes rfl transport output answer readable⟩) with
        ⟨half, h', ran, tended, rfl | ⟨ready, rfl, watched⟩⟩ | ⟨h', ran, late⟩
      · obtain ⟨stands', same⟩ := stands.input tended none fun never => by cases never
        refine .inl ⟨_, Place.next_interrupted ran, stands', same.le, ?_⟩
        rintro ⟨_, never, -⟩
        cases never
      · obtain ⟨stands', same⟩ := stands.input tended (some ready) fun is => watched (Option.some.inj is)
        refine .inl ⟨_, Place.next_heard ran, stands', same.le, ?_⟩
        rintro ⟨_, never, -⟩
        cases never
      · refine absurd ?_ (inTime 1)
        rw [Place.rest, sessionLoop_halves, bind_ok ran]
        exact late
  | some ready =>
      have watched : ready = true → h.self.remoteWindowSize ≠ 0 := by
        rintro rfl
        exact (stands.watched rfl).2
      have piped : ready = true → Piped output (outputOf (since h₀ h)) (env.childRead h.tick) := by
        rintro rfl
        exact attends.piped rfl
      rcases sessionChild_live cooperates.sha cooperates.ctr cooperates.live ready stands.block stands.known watched
        piped with ⟨broken, late⟩ | ⟨child₁, h₁, seen, reads, idle, observed, beside, reaps | off⟩
      · refine absurd ?_ (inTime 0)
        have ran : (sessionChild noxtls env child ready).run h =
            (.ok (.broken false), ((sessionChild noxtls env child ready).run h).2) := by rw [← broken]
        show Late ((sessionChild noxtls env child ready >>= afterTurn noxtls env 0).run h).2
        rw [bind_ok ran]
        exact late
      · obtain ⟨reaped, h', ran, tended, unreaped, known⟩ := reaps
        obtain ⟨sent, ended, le, lt⟩ := reads.reads stands piped observed
        obtain ⟨-, told⟩ := since_append stands.told observed
        obtain ⟨more, observed', read, quiet⟩ := tended.dry
        obtain ⟨grown, told'⟩ := since_append told observed'
        have same : outputOf (since h₀ h') = outputOf (since h₀ h₁) := by
          rw [grown, outputOf_append, read, List.append_nil]
        have stands' : Stands env output h₀ ⟨none, { child₁ with reaped := reaped }, h'⟩ :=
          { block := tended.block
            pty := tended.pty.trans (beside.pty.trans stands.pty)
            id := tended.id.trans (beside.id.trans stands.id)
            peer := tended.peer.trans (beside.peer.trans stands.peer)
            known := known
            watched := fun never => by cases never
            told := told'
            forwarded := by
              dsimp only
              rw [same, ← sent, grown, forwardedOf_append, quiet, List.append_nil]
            ended := fun is => same.trans (ended is) }
        have rank : left output h₀ ⟨none, { child₁ with reaped := reaped }, h'⟩ =
            left output h₀ ⟨none, child₁, h₁⟩ := by
          simp only [left, same]
        refine .inl ⟨_, Place.next_turned ran, stands', by rw [rank]; exact le, ?_⟩
        rintro ⟨_, ⟨⟩, exited, running⟩
        rw [rank]
        by_cases atEnd : child.outputEof = true
        · -- nobody looks at the child any more, and it can be reaped
          have unwatched : ready = false := by
            cases ready with
            | false => rfl
            | true =>
                have running := (stands.watched rfl).1
                dsimp only at running
                rw [atEnd] at running
                cases running
          obtain rfl := idle unwatched
          have still : child₁ = child := by
            subst unwatched
            cases reads
            rfl
          subst still
          obtain ⟨unreaped, unexited⟩ := unreaped atEnd
          rcases exited atEnd with was | exited
          · exact absurd unreaped was
          · exact absurd unexited exited
        · have open' : child.outputEof = false := by simpa using atEnd
          obtain ⟨is, some⟩ := running open'
          exact lt open' is some
      · obtain ⟨atEnd, status, before, farewell, complete, observed', ⟨read, quiet⟩, waited, c, peer, spoken⟩ := off
        obtain ⟨sent, ended, -, -⟩ := reads.reads stands piped observed
        obtain ⟨-, told⟩ := since_append stands.told observed
        obtain ⟨turns, same⟩ := Place.rest_visits visits 0
        have ran : (sessionChild noxtls env child ready).run h =
            (.ok .complete, ((sessionChild noxtls env child ready).run h).2) := by rw [← complete]
        have last : Place.rest noxtls env 0 ⟨some ready, child, h⟩ =
            (.ok (), ((sessionChild noxtls env child ready).run h).2) := by
          show (sessionChild noxtls env child ready >>= afterTurn noxtls env 0).run h = _
          rw [bind_ok ran]
          rfl
        right
        refine ⟨turns, _, since h₀ h₁ ++ before, farewell, status, same.trans last, ?_, ?_, ?_, waited, c, ?_, spoken⟩
        · rw [observed', told]
          simp only [List.append_assoc]
        · rw [outputOf_append, read, List.append_nil, ended atEnd]
        · rw [forwardedOf_append, quiet, List.append_nil, sent, ended atEnd]
        · rw [peer, beside.peer]
          exact stands.peer

/-- **Late input.**  If the child takes the data of every packet, all that it wrote is
forwarded, and then exit status, EOF and CLOSE are sent. -/
theorem results_delivered (cooperates : Cooperates noxtls env output h₀)
    (takes : ∀ p, Visits (Place.next noxtls env) (begins h₀) p → TakesInput noxtls env p) :
    Delivers noxtls env output h₀ := by
  by_contra never
  have start : Stands env output h₀ (begins h₀) :=
    { block := cooperates.block
      pty := cooperates.pty
      id := cooperates.id
      peer := rfl
      known := by simp [begins]
      watched := fun never => by cases never
      told := by simp [since, begins]
      forwarded := by simp [since, begins, outputOf, forwardedOf]
      ended := fun never => by cases never }
  have step : ∀ p, Visits (Place.next noxtls env) (begins h₀) p → Stands env output h₀ p → ∃ q,
      Place.next noxtls env p = some q ∧ Stands env output h₀ q ∧ left output h₀ q ≤ left output h₀ p ∧
        (GetsOn env p → left output h₀ q < left output h₀ p) := fun p visits stands =>
    (stands.step cooperates visits (takes p visits)).resolve_right never
  have stands : ∀ p, Visits (Place.next noxtls env) (begins h₀) p → Stands env output h₀ p := fun p visits =>
    visits.invariant start fun t u before stands is => by
      obtain ⟨q, same, stands', -⟩ := step t before stands
      obtain rfl := Option.some.inj (same.symm.trans is)
      exact stands'
  obtain ⟨p, visits, ends⟩ := @iterate_ends _ _ _ (left output h₀) (GetsOn env)
    (fun t u before is => by
      obtain ⟨q, same, -, le, -⟩ := step t before (stands t before)
      obtain rfl := Option.some.inj (same.symm.trans is)
      exact le)
    (fun t u before drop is => by
      obtain ⟨q, same, -, -, lt⟩ := step t before (stands t before)
      obtain rfl := Option.some.inj (same.symm.trans is)
      exact lt drop)
    cooperates.fair
  obtain ⟨q, goes, -⟩ := step p visits (stands p visits)
  rw [ends] at goes
  cases goes

end Session

/-! ## A client that types one byte -/

namespace Probe

/-- The child has written `hi` and exited when the byte comes. -/
def quick : Env :=
  { brisk with
    poll := fun _ => .ready ⟨true, false, false⟩ ⟨true, false, false⟩
    childRead := fun _ => .bytes (ascii "hi")
    childWrite := fun _ => 0 }

/-- The session of a client that runs `cat` and sends it the byte 7, where its loop begins. -/
def typing (env : Env) : Host Server :=
  (entered Sample.plain env setup (stream [openWith 5 1000, exec "cat", data [7]]) 6).2

/-- Where the loop begins with this inbox. -/
def typingOn (inbox : List UInt8) (env : Env) : Host Server := (entered Sample.plain env setup inbox 6).2

theorem typing_on : typing = typingOn (stream [openWith 5 1000, exec "cat", data [7]]) := rfl

/-- The child takes the byte, writes `hi` and exits. -/
def patient : Env :=
  { brisk with
    poll := fun t => if t = 0 then .ready ⟨true, false, false⟩ ⟨true, false, false⟩
      else .ready ⟨false, false, false⟩ ⟨false, true, false⟩
    childRead := fun t => if t ≤ 20 then .bytes (ascii "hi") else .eof
    waitpid := fun t => if t < 24 then none else some (.exited 0) }

/-- A server with a session. -/
def seat : Server :=
  { setup.server with
    keyExchangeComplete := true
    authenticated := true
    authenticatedUser := ascii "ada"
    channelOpen := true
    sessionStarted := true
    remoteChannelId := 5
    localWindowSize := 65536
    remoteWindowSize := 1000
    remoteMaxPacketSize := 32768 }

/-- The places of its session: the packet, the output, another turn, the end of the output. -/
def seated : Host Server := ⟨seat, 0, sealAll Sample.plain (recvSide.lane seat) [data [7]], []⟩

def fed : Host Server := ((turnInput Sample.plain patient ⟨false, none⟩).run seated).2

def answered : Host Server := ((sessionChild Sample.plain patient ⟨false, none⟩ true).run fed).2

def hungUpOn : Host Server := ((turnInput Sample.plain patient ⟨false, none⟩).run answered).2

end Probe

theorem ctrMode_plain : CtrMode Sample.plain := by
  refine ⟨fun _ _ _ => 0, fun key data counter _ => ?_⟩
  show some data = some _
  rw [Option.some.injEq]
  exact List.ext_getElem (by simp) fun i _ _ => by simp [ctrStream]

theorem live_brisk {env : Env} (send : env.send = Probe.brisk.send) (recv : env.recv = Probe.brisk.recv)
    (random : env.getrandom = Probe.brisk.getrandom) : Live env := by
  refine ⟨?_, ?_, ?_⟩
  · simp [send, Probe.brisk]
  · simp [recv, Probe.brisk]
  · simp [random, Probe.brisk, calm]

theorem takes_always {env : Env} (always : ∀ t, 0 < env.childWrite t) (t n : Nat) : Takes env t n := by
  induction n using Nat.strong_induction_on generalizing t with
  | _ n ih =>
      cases n with
      | zero => exact .all t
      | succ n =>
          have more := always t
          exact .some t (n + 1) more (ih _ (by omega) (t + 1))

/-- A host whose inbox is one packet with one byte of data. -/
structure OneByte (h : Host Server) : Prop where
  counters : (sendSide.lane h.self).counter.length = 16 ∧ (recvSide.lane h.self).counter.length = 16
  id : h.self.localChannelId = 0
  pty : h.self.wantPty = false
  fresh : rekeyDue h.self = false
  window : 1 ≤ h.self.localWindowSize
  sealed : sealPacket Sample.plain (recvSide.lane h.self) (plainPacket (Probe.data [7])
    (zeros (paddingLen (recvSide.lane h.self).encrypted (Probe.data [7]).length))) = some h.inbox
  inTime : ∀ e ∈ h.trace, e.1 ≠ .expired

theorem OneByte.offers {h : Host Server} (one : OneByte h) (t : Nat) : Offers Sample.plain { h with tick := t } := by
  have ordinary : Ordinary h.self ([94] ++ be32 h.self.localChannelId ++ sshString [7]) := .data [7] one.window
  rw [one.id] at ordinary
  exact ⟨_, Probe.data [7], [], [], ⟨fun _ => one.counters.1, recvSide.lane h.self, [h.inbox],
    .cons (by decide) (by simp [zeros]) one.sealed (.nil _), ⟨rfl, rfl, fun _ => ⟨rfl, rfl, rfl, one.counters.2⟩⟩,
    by simp⟩, ordinary⟩

/-- If the child refuses the byte, the session fails, with a client that cooperates. -/
theorem OneByte.destroys {env : Env} {output : List UInt8} {h : Host Server} (one : OneByte h) (live : Live env)
    (polled : env.poll h.tick = .ready ⟨true, false, false⟩ ⟨true, false, false⟩)
    (broken : ((turnInput Sample.plain env ⟨false, none⟩).run h).1 = .ok (.done (.broken false)))
    (inTime : ∀ e ∈ ((turnInput Sample.plain env ⟨false, none⟩).run h).2.trace, e.1 ≠ .expired) :
    Cooperates Sample.plain env output h ∧ ¬ Delivers Sample.plain env output h := by
  have ran : (turnInput Sample.plain env ⟨false, none⟩).run h =
      (.ok (.done (.broken false)), ((turnInput Sample.plain env ⟨false, none⟩).run h).2) := by rw [← broken]
  have fails : ∀ turns, (sessionLoop Sample.plain env (turns + 1) ⟨false, none⟩).run h =
      (.err .failed, { ((turnInput Sample.plain env ⟨false, none⟩).run h).2 with
        self := setChannelOpen false ((turnInput Sample.plain env ⟨false, none⟩).run h).2.self }) := by
    intro turns
    rw [sessionLoop_halves, bind_ok ran]
    rfl
  have stops : Place.next Sample.plain env (begins h) = none := by
    rw [Option.eq_none_iff_forall_ne_some]
    rintro q step
    rcases Place.next_cases step with ⟨child, h', ready, h₁, is, ran', -⟩ | ⟨child, h', child', h₁, is, ran', -⟩ |
      ⟨ready, child, h', child', h₁, is, -, -⟩
    · obtain ⟨rfl, rfl⟩ := (Place.mk.inj is).2
      rw [ran] at ran'
      cases ran'
    · obtain ⟨rfl, rfl⟩ := (Place.mk.inj is).2
      rw [ran] at ran'
      cases ran'
    · cases (Place.mk.inj is).1
  have only : ∀ p, Visits (Place.next Sample.plain env) (begins h) p → p = begins h := fun p visits =>
    visits.invariant (I := fun p => p = begins h) rfl fun t u _ is step => by
      rw [is, stops] at step
      cases step
  refine ⟨⟨rfl, ctrMode_plain, live, fun _ => one.counters.1, one.id, one.pty, ?_, ?_, ?_⟩, ?_⟩
  · rintro (_ | turns) late
    · exact late one.inTime
    · rw [fails] at late
      exact late inTime
  · intro p visits
    rw [only p visits]
    refine ⟨fun _ => one.fresh, fun _ => ?_, fun _ _ _ _ _ => one.offers _, fun never => by cases never⟩
    rw [show (begins h).host.tick = h.tick from rfl, polled]
    exact ⟨rfl, rfl⟩
  · intro endless
    have first : iterate (Place.next Sample.plain env) (begins h) 1 = none := stops
    exact absurd first (endless 1)
  · rintro ⟨_ | turns, h', before, seen, status, returned, -⟩
    · cases returned
    · rw [fails] at returned
      cases returned

/-- The child takes the byte, and `hi` and its exit status reach the client. -/
theorem results_delivered_patient : Delivers Sample.plain Probe.patient (ascii "hi") Probe.seated := by
  have first : (turnInput Sample.plain Probe.patient ⟨false, none⟩).run Probe.seated =
      (.ok (.child true), Probe.fed) := Prod.ext (by decide +kernel) rfl
  have second : (sessionChild Sample.plain Probe.patient ⟨false, none⟩ true).run Probe.fed =
      (.ok (.again ⟨false, none⟩), Probe.answered) := Prod.ext (by decide +kernel) rfl
  have third : (turnInput Sample.plain Probe.patient ⟨false, none⟩).run Probe.answered =
      (.ok (.child true), Probe.hungUpOn) := Prod.ext (by decide +kernel) rfl
  have last : (sessionChild Sample.plain Probe.patient ⟨false, none⟩ true).run Probe.hungUpOn =
      (.ok .complete, ((sessionChild Sample.plain Probe.patient ⟨false, none⟩ true).run Probe.hungUpOn).2) :=
    Prod.ext (by decide +kernel) rfl
  have one : OneByte Probe.seated :=
    ⟨by decide +kernel, rfl, rfl, by decide +kernel, by decide, by decide +kernel, by decide⟩
  have facts : Probe.fed.tick = 16 ∧ Probe.answered.tick = 24 ∧ Probe.hungUpOn.tick = 25 ∧
      rekeyDue Probe.answered.self = false ∧ outputOf (since Probe.seated Probe.fed) = [] ∧
      outputOf (since Probe.seated Probe.hungUpOn) = ascii "hi" ∧ (∀ e ∈ Probe.answered.trace, e.1 ≠ .expired) ∧
      ∀ e ∈ ((sessionChild Sample.plain Probe.patient ⟨false, none⟩ true).run Probe.hungUpOn).2.trace,
        e.1 ≠ .expired := by
    decide +kernel
  obtain ⟨fedTick, answeredTick, lastTick, fresh, before, after, inTime, inTime'⟩ := facts
  have stops : Place.next Sample.plain Probe.patient ⟨some true, ⟨false, none⟩, Probe.hungUpOn⟩ = none :=
    Place.next_complete last
  have four : ∀ p, Visits (Place.next Sample.plain Probe.patient) (begins Probe.seated) p → p = begins Probe.seated ∨
      p = ⟨some true, ⟨false, none⟩, Probe.fed⟩ ∨ p = ⟨none, ⟨false, none⟩, Probe.answered⟩ ∨
      p = ⟨some true, ⟨false, none⟩, Probe.hungUpOn⟩ := fun p visits => by
    apply visits.invariant (I := fun p => p = begins Probe.seated ∨ p = ⟨some true, ⟨false, none⟩, Probe.fed⟩ ∨
      p = ⟨none, ⟨false, none⟩, Probe.answered⟩ ∨ p = ⟨some true, ⟨false, none⟩, Probe.hungUpOn⟩) (.inl rfl)
    rintro t u _ (rfl | rfl | rfl | rfl) step
    · exact .inr (.inl (Option.some.inj (step.symm.trans (Place.next_heard first))))
    · exact .inr (.inr (.inl (Option.some.inj (step.symm.trans (Place.next_turned second)))))
    · exact .inr (.inr (.inr (Option.some.inj (step.symm.trans (Place.next_heard third)))))
    · rw [stops] at step
      cases step
  have silent : ∀ t, t ≠ 0 → Probe.patient.poll t = .ready ⟨false, false, false⟩ ⟨false, true, false⟩ :=
    fun _ later => if_neg later
  refine results_delivered
    ⟨rfl, ctrMode_plain, live_brisk rfl rfl rfl, fun _ => one.counters.1, rfl, rfl, ?_, ?_, ?_⟩ ?_
  · rintro (_ | _ | turns) late
    · exact late one.inTime
    · rw [sessionLoop_halves, bind_ok first] at late
      change Late ((sessionChild Sample.plain Probe.patient ⟨false, none⟩ true >>=
        afterTurn Sample.plain Probe.patient 0).run Probe.fed).2 at late
      rw [bind_ok second] at late
      exact late inTime
    · rw [sessionLoop_halves, bind_ok first] at late
      change Late ((sessionChild Sample.plain Probe.patient ⟨false, none⟩ true >>=
        afterTurn Sample.plain Probe.patient (turns + 1)).run Probe.fed).2 at late
      rw [bind_ok second] at late
      change Late ((sessionLoop Sample.plain Probe.patient (turns + 1) ⟨false, none⟩).run Probe.answered).2 at late
      rw [sessionLoop_halves, bind_ok third] at late
      change Late ((sessionChild Sample.plain Probe.patient ⟨false, none⟩ true >>=
        afterTurn Sample.plain Probe.patient turns).run Probe.hungUpOn).2 at late
      rw [bind_ok last] at late
      exact late inTime'
  · intro p visits
    rcases four p visits with rfl | rfl | rfl | rfl
    · exact ⟨fun _ => one.fresh, fun _ => ⟨rfl, rfl⟩, fun _ _ _ _ _ => one.offers _, fun never => by cases never⟩
    · refine ⟨(fun never => by cases never), (fun never => by cases never), (fun never => by cases never),
        fun _ => ?_⟩
      dsimp only
      rw [before, fedTick]
      exact ⟨by decide, List.prefix_refl _⟩
    · refine ⟨fun _ => fresh, fun _ => ?_, fun _ transport output is readable => ?_, fun never => by cases never⟩
      · dsimp only
        rw [answeredTick]
        exact ⟨rfl, rfl⟩
      · dsimp only at is
        rw [answeredTick, silent 24 (by decide)] at is
        cases is
        cases readable
    · refine ⟨(fun never => by cases never), (fun never => by cases never), (fun never => by cases never),
        fun _ => ?_⟩
      dsimp only
      rw [after, lastTick]
      exact rfl
  · intro endless
    have four : iterate (Place.next Sample.plain Probe.patient) (begins Probe.seated) 4 = none := by
      rw [iterate_succ (n := 3) (t := ⟨some true, ⟨false, none⟩, Probe.hungUpOn⟩), stops]
      rw [iterate_succ (n := 2) (t := ⟨none, ⟨false, none⟩, Probe.answered⟩), Place.next_heard third]
      rw [iterate_succ (n := 1) (t := ⟨some true, ⟨false, none⟩, Probe.fed⟩), Place.next_turned second]
      exact (iterate_succ (n := 0) rfl).trans (Place.next_heard first)
    exact absurd four (endless 4)
  · intro p visits top transport output is readable payload m h₁ data ran held
    exact takes_always (fun _ => by simp [Probe.patient, Probe.brisk, calm]) _ _

/-- The byte comes too late: the session fails, and neither the child's output nor its exit
status reaches the client. -/
theorem late_input_destroys :
    ∃ env h, Cooperates Sample.plain env (ascii "hi") h ∧ ¬ Delivers Sample.plain env (ascii "hi") h := by
  have facts : ((sendSide.lane (Probe.typing Probe.quick).self).counter.length = 16 ∧
      (recvSide.lane (Probe.typing Probe.quick).self).counter.length = 16) ∧
      (Probe.typing Probe.quick).self.localChannelId = 0 ∧ (Probe.typing Probe.quick).self.wantPty = false ∧
      rekeyDue (Probe.typing Probe.quick).self = false ∧ 1 ≤ (Probe.typing Probe.quick).self.localWindowSize ∧
      sealPacket Sample.plain (recvSide.lane (Probe.typing Probe.quick).self) (plainPacket (Probe.data [7])
        (zeros (paddingLen (recvSide.lane (Probe.typing Probe.quick).self).encrypted (Probe.data [7]).length))) =
          some (Probe.typing Probe.quick).inbox ∧
      (∀ e ∈ (Probe.typing Probe.quick).trace, e.1 ≠ .expired) ∧ (Probe.typing Probe.quick).tick = 132 ∧
      ((turnInput Sample.plain Probe.quick ⟨false, none⟩).run (Probe.typing Probe.quick)).1 =
        .ok (.done (.broken false)) ∧
      ∀ e ∈ ((turnInput Sample.plain Probe.quick ⟨false, none⟩).run (Probe.typing Probe.quick)).2.trace,
        e.1 ≠ .expired := by
    rw [Probe.typing_on, Probe.stream_eq]
    decide +kernel
  obtain ⟨counters, id, pty, fresh, window, sealed, inTime, tick, broken, inTime'⟩ := facts
  have one : OneByte (Probe.typing Probe.quick) := ⟨counters, id, pty, fresh, window, sealed, inTime⟩
  refine ⟨Probe.quick, Probe.typing Probe.quick, one.destroys (live_brisk rfl rfl rfl) ?_ broken inTime'⟩
  rw [tick]
  rfl

end NoxSsh.Server
