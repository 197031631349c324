/-
# Server.Replies — one reply for each request that wants one

Two dispatchers see channel requests.  The loop of `serve_one` has a reply for each
of them: between the moves a request is owed one (`owed`) or nothing is, and the
very next message pays.  The session reads them, applies a `window-change` and says
nothing.  So requests and replies alternate exactly in the runs in which no request
that wants a reply is missed and no reply fails to go out (`replies_alternate_iff`).
-/
import NoxSsh.Server.Closing

namespace NoxSsh.Server

open Theory Proc Wire Transport

set_option autoImplicit false

/-! ## Requests and replies -/

/-- CHANNEL_SUCCESS or CHANNEL_FAILURE. -/
def isReply (payload : List UInt8) : Bool := payload.head? = some 99 || payload.head? = some 100

/-- A request that wants a reply arrived for the open channel. -/
def wantsReply (o : Sight) : Bool := o.1.received?.any (asks o.2.1)

/-- It arrived in the session, or with the rekey limit reached. -/
def missed (o : Sight) : Bool := wantsReply o && (o.2.1.sessionStarted || o.2.2)

inductive Mark where
  | asked
  | replied
  deriving DecidableEq, Repr

def mark (o : Sight) : Option Mark :=
  if wantsReply o then some .asked else if o.1.sent?.any isReply then some .replied else none

/-- Requests that want a reply, and replies, as they came. -/
def marks (seen : List Sight) : List Mark := seen.filterMap mark

/-- How many replies were called for. -/
def replyCalls (seen : List Sight) : Nat := seen.countP fun o => o.1.sending?.any isReply

/-- Each request has its reply, and there are no others. -/
def Replied (seen : List Sight) : Prop := ∃ n, marks seen = (List.replicate n [Mark.asked, Mark.replied]).flatten

/-- A request is in hand that the next message answers. -/
def owed : Phase → Channel → Bool
  | .heard _ p false, c => asks c p
  | _, _ => false

section Marks

variable {c : Channel} {payload data : List UInt8} {payloads : List (List UInt8)} {all : Bool} {seen a b : List Sight}

@[simp] theorem marks_append (a b : List Sight) : marks (a ++ b) = marks a ++ marks b := by
  simp [marks]

@[simp] theorem replyCalls_append (a b : List Sight) : replyCalls (a ++ b) = replyCalls a + replyCalls b := by
  simp [replyCalls]

/-- Nothing was asked or answered. -/
structure Mute (seen : List Sight) : Prop where
  marks : marks seen = []
  calls : replyCalls seen = 0
  missed : seen.countP missed = 0

theorem mute_nil : Mute [] := ⟨rfl, rfl, rfl⟩

theorem Mute.append (first : Mute a) (second : Mute b) : Mute (a ++ b) := by
  constructor
  · rw [marks_append, first.marks, second.marks]
    rfl
  · rw [replyCalls_append, first.calls, second.calls]
  · rw [List.countP_append, first.missed, second.missed]

theorem mute_one {o : Sight} (received : o.1.received? = none) (sending : o.1.sending? = none) (sent : o.1.sent? = none) :
    Mute [o] := by
  constructor
  · simp [marks, mark, wantsReply, received, sent]
  · simp [replyCalls, sending]
  · simp [missed, wantsReply, received]

theorem says_mute (call : Says c payload all seen) (other : isReply payload = false) : Mute seen := by
  cases call with
  | failed due =>
      constructor <;>
        simp [marks, mark, wantsReply, replyCalls, missed, Event.received?, Event.sending?, Event.sent?, other]
  | sent due due' =>
      constructor <;>
        simp [marks, mark, wantsReply, replyCalls, missed, Event.received?, Event.sending?, Event.sent?, other]

theorem saysAll_mute (calls : SaysAll c payloads all seen) (other : ∀ p ∈ payloads, isReply p = false) : Mute seen := by
  induction calls with
  | nil => exact mute_nil
  | failed call => exact says_mute call (other _ (by simp))
  | sent call _ ih => exact (says_mute call (other _ (by simp))).append (ih fun p mem => other p (by simp [mem]))

theorem feeds_mute (feeds : Feeds c data seen) : Mute seen := by
  induction feeds with
  | nil => exact mute_nil
  | cons due _ ih => exact (mute_one (o := (.childInput _, c, due)) rfl rfl rfl).append ih

/-- A reply is marked if it goes out. -/
theorem says_reply (call : Says c payload all seen) (reply : isReply payload = true) :
    marks seen = (if all then [.replied] else []) ∧ replyCalls seen = 1 ∧ seen.countP missed = 0 := by
  cases call with
  | failed due =>
      simp [marks, mark, wantsReply, replyCalls, missed, Event.received?, Event.sending?, Event.sent?, reply]
  | sent due due' =>
      simp [marks, mark, wantsReply, replyCalls, missed, Event.received?, Event.sending?, Event.sent?, reply]

end Marks

/-! ## What a move asks and answers -/

/-- What a move shows of requests and replies, by what is owed before and after it. -/
inductive Answering (owes owes' : Bool) (new : List Sight) : Prop
  | mute (before : owes = false) (after : owes' = false) (mute : Mute new)
  | asked (before : owes = false) (after : owes' = true) (is : marks new = [.asked]) (calls : replyCalls new = 0)
      (fair : new.countP missed = 0)
  | missed (before : owes = false) (after : owes' = false) (is : marks new = [.asked]) (calls : replyCalls new = 0)
      (unfair : new.countP missed = 1)
  | answered (all : Bool) (before : owes = true) (after : owes' = false)
      (is : marks new = if all then [.replied] else []) (calls : replyCalls new = 1) (fair : new.countP missed = 0)

/-- A packet that wants no reply is as good as none. -/
theorem mute_received {p : List UInt8} {c : Channel} {due : Bool} (quiet : asks c p = false) :
    Mute [(.received p, c, due)] := by
  constructor <;>
    simp [marks, mark, wantsReply, replyCalls, missed, Event.received?, Event.sending?, Event.sent?, quiet]

theorem asked_received {p : List UInt8} {c : Channel} (due : Bool) (wants : asks c p = true) :
    marks [(.received p, c, due)] = [.asked] ∧ replyCalls [(.received p, c, due)] = 0 ∧
      [((.received p : Event), c, due)].countP missed = if c.sessionStarted || due then 1 else 0 := by
  simp [marks, mark, wantsReply, replyCalls, missed, Event.received?, Event.sending?, wants, List.countP_singleton]

theorem Move.answering {φ φ' : Phase} {c c' : Channel} {new : List Sight} (stage : Stage φ c)
    (move : Move (φ, c) new (φ', c')) : Answering (owed φ c) (owed φ' c') new := by
  have notAsked : ∀ {p : List UInt8} {n : UInt8}, p.head? = some n → n ≠ 98 → asks c p = false := by
    intro p n number other
    refine asks_other ?_
    rw [number]
    exact fun same => other (Option.some.inj same)
  cases move with
  | hello => exact .mute rfl rfl (mute_received (asks_closed stage.1))
  | shaken | unshaken | retry | leave | limit | unstarted | unforked | ignore | credit | enough | eof | peerCloseAgain
  | reject | abort | outputEnds | shut | left | wait | unwaited => exact .mute rfl rfl mute_nil
  | top | start | goOn | reap => exact .mute rfl rfl (mute_one rfl rfl rfl)
  | hear d p due =>
      cases wants : asks c p with
      | false =>
          have none : owed (.heard d p due) c = false := by cases due <;> simp [owed, wants]
          exact .mute rfl none (mute_received wants)
      | true =>
          obtain ⟨is, calls, unfair⟩ := asked_received due wants
          rw [(Idle.granted stage (asks_open wants)).2.2, Bool.false_or] at unfair
          cases due with
          | false => exact .asked rfl wants is calls unfair
          | true => exact .missed rfl rfl is calls unfair
  | tell d child p due =>
      cases wants : asks c p with
      | false => exact .mute rfl rfl (mute_received wants)
      | true =>
          obtain ⟨is, calls, unfair⟩ := asked_received due wants
          rw [stage.2.2, Bool.true_or, if_pos rfl] at unfair
          exact .missed rfl rfl is calls unfair
  | pass d p due _ quiet =>
      have none : owed (.heard d p due) c = false := by cases due <;> simp [owed, quiet]
      exact .mute none rfl mute_nil
  | drop d p failed _ quiet => exact .mute quiet rfl mute_nil
  | grantedSilently d p _ quiet => exact .mute quiet rfl mute_nil
  | confirmOpen p o _ seen is large closed call | unconfirmed p o _ seen is large closed call =>
      exact .mute (asks_closed closed) rfl (says_mute call rfl)
  | charged d p len _ is => exact .mute (notAsked (dataLenOf_number is) (by decide)) rfl mute_nil
  | toppedUp d p len _ all seen is little call =>
      exact .mute (notAsked (dataLenOf_number is) (by decide)) rfl (says_mute call rfl)
  | refused d p _ all seen wants call =>
      obtain ⟨is, calls, fair⟩ := says_reply call rfl
      exact .answered all wants rfl is calls fair
  | confirmed d p _ seen wants call | granted d p _ seen wants call | unanswered d p _ seen wants call =>
      obtain ⟨is, calls, fair⟩ := says_reply call rfl
      exact .answered _ wants rfl is calls fair
  | answered d p _ seen is number isOpen call | unclosed d p _ seen is number isOpen call =>
      exact .mute (notAsked number (by decide)) rfl (says_mute call rfl)
  | closedAlready d p _ is number closed => exact .mute (asks_closed closed) rfl mute_nil
  | feed d child p data _ seen is feeds => exact .mute rfl rfl (feeds_mute feeds)
  | choke d child p taken rest due _ seen is some feeds =>
      exact .mute rfl rfl ((feeds_mute feeds).append (mute_one rfl rfl rfl))
  | topUp d child _ seen little call | noTopUp d child _ seen little call => exact .mute rfl rfl (says_mute call rfl)
  | eot d child p due e _ is number written =>
      rcases written with rfl | rfl
      · exact .mute rfl rfl (mute_one rfl rfl rfl)
      · exact .mute rfl rfl (mute_one rfl rfl rfl)
  | peerClose d child p _ seen is number isOpen call | peerCloseFails d child p _ seen is number isOpen call =>
      exact .mute rfl rfl (says_mute call rfl)
  | output d child bytes due _ seen nonempty fits chunk call
  | outputFails d child bytes due _ seen nonempty fits chunk call =>
      have before : Mute [(.childOutput bytes, c, due)] := mute_one rfl rfl rfl
      exact .mute rfl rfl (before.append (says_mute call rfl))
  | complete d child status _ seen ended reaped calls | incomplete d child status _ seen ended reaped calls =>
      refine .mute rfl rfl (saysAll_mute calls fun p mem => ?_)
      simp only [List.mem_cons, List.not_mem_nil, or_false] at mem
      rcases mem with rfl | rfl | rfl <;> rfl

/-! ## Runs -/

/-- The requests so far: missed, answered for, or owed; with nothing missed and
every reply out they alternate. -/
structure Tallied (seen : List Sight) (φ : Phase) (c : Channel) : Prop where
  stage : Stage φ c
  sent : (marks seen).count .replied ≤ replyCalls seen
  asked : (marks seen).count .asked = seen.countP missed + replyCalls seen + if owed φ c then 1 else 0
  alternates : seen.countP missed = 0 → replyCalls seen = (marks seen).count .replied →
    ∃ n, marks seen = (List.replicate n [Mark.asked, Mark.replied]).flatten ++ if owed φ c then [.asked] else []

theorem Tallied.step {seen new : List Sight} {φ φ' : Phase} {c c' : Channel} (tallied : Tallied seen φ c)
    (move : Move (φ, c) new (φ', c')) : Tallied (seen ++ new) φ' c' := by
  obtain ⟨stage, sent, asked, alternates⟩ := tallied
  have stage' := move.stage stage
  cases move.answering stage with
  | mute before after mute =>
      rw [before] at asked alternates
      constructor
      · exact stage'
      · rw [marks_append, mute.marks, List.append_nil, replyCalls_append, mute.calls]
        exact sent
      · rw [marks_append, mute.marks, List.append_nil, replyCalls_append, mute.calls, List.countP_append, mute.missed,
          after]
        exact asked
      · rw [marks_append, mute.marks, List.append_nil, replyCalls_append, mute.calls, List.countP_append, mute.missed,
          after]
        exact alternates
  | asked before after is calls fair =>
      rw [before] at asked alternates
      constructor
      · exact stage'
      · rw [marks_append, is, List.count_append, replyCalls_append, calls]
        simpa using sent
      · rw [marks_append, is, List.count_append, replyCalls_append, calls, List.countP_append, fair, after]
        simpa using asked
      · rw [marks_append, is, List.count_append, replyCalls_append, calls, List.countP_append, fair, after]
        intro none all
        obtain ⟨n, pairs⟩ := alternates none (by simpa using all)
        exact ⟨n, by simpa using pairs⟩
  | missed before after is calls unfair =>
      rw [before] at asked
      constructor
      · exact stage'
      · rw [marks_append, is, List.count_append, replyCalls_append, calls]
        simpa using sent
      · rw [marks_append, is, List.count_append, replyCalls_append, calls, List.countP_append, unfair, after]
        simp only [List.count_singleton_self]
        omega
      · intro none
        rw [List.countP_append, unfair] at none
        omega
  | answered all before after is calls fair =>
      rw [before] at asked alternates
      cases all with
      | true =>
          constructor
          · exact stage'
          · rw [marks_append, is, List.count_append, replyCalls_append, calls]
            simpa using sent
          · rw [marks_append, is, List.count_append, replyCalls_append, calls, List.countP_append, fair, after]
            simpa [Nat.add_assoc] using asked
          · rw [marks_append, is, List.count_append, replyCalls_append, calls, List.countP_append, fair, after]
            intro none all
            obtain ⟨n, pairs⟩ := alternates none (by simpa using all)
            refine ⟨n + 1, ?_⟩
            rw [pairs, List.replicate_succ', List.flatten_append]
            simp
      | false =>
          constructor
          · exact stage'
          · rw [marks_append, is, List.count_append, replyCalls_append, calls]
            simp only [Bool.false_eq_true, if_false, List.count_nil]
            omega
          · rw [marks_append, is, List.count_append, replyCalls_append, calls, List.countP_append, fair, after]
            simpa [Nat.add_assoc] using asked
          · rw [marks_append, is, List.count_append, replyCalls_append, calls]
            intro _ all
            simp only [Bool.false_eq_true, if_false, List.count_nil] at all
            omega

theorem count_pairs (n : Nat) : ((List.replicate n [Mark.asked, Mark.replied]).flatten).count .asked = n ∧
    ((List.replicate n [Mark.asked, Mark.replied]).flatten).count .replied = n := by
  induction n with
  | zero => exact ⟨rfl, rfl⟩
  | succ n ih =>
      rw [List.replicate_succ, List.flatten_cons, List.count_append, List.count_append, ih.1, ih.2]
      exact ⟨Nat.add_comm _ _, Nat.add_comm _ _⟩

/-- **One reply for each request that wants one**, in order, exactly in the runs in
which no such request arrives in the session or at the rekey limit, and every reply
that is called for goes out. -/
theorem replies_alternate_iff (noxtls : Noxtls) (env : Env) (setup : Setup) (inbox : List UInt8) (turns : Nat) :
    let seen := sights (served noxtls env setup inbox turns).trace
    Replied seen ↔ (∀ o ∈ seen, missed o = false) ∧ replyCalls seen = (marks seen).count .replied := by
  intro seen
  obtain ⟨phase, path, ended⟩ := served_path noxtls env setup inbox turns
  have tallied : Tallied seen phase (channel (served noxtls env setup inbox turns).self) := by
    apply path.invariant (I := fun seen s => Tallied seen s.1 s.2)
    · exact ⟨⟨rfl, rfl⟩, Nat.le_refl 0, rfl, fun _ _ => ⟨0, rfl⟩⟩
    · intro seen t new u so move
      obtain ⟨φ, c⟩ := t
      obtain ⟨φ', c'⟩ := u
      exact Tallied.step so move
  obtain ⟨heard, -⟩ := ended.settled
  have paid : owed phase (channel (served noxtls env setup inbox turns).self) = false := by
    cases phase with
    | heard d p due => exact absurd rfl (heard d p due)
    | _ => rfl
  have asked := tallied.asked
  have sent := tallied.sent
  have alternates := tallied.alternates
  rw [paid] at asked alternates
  have none : seen.countP missed = 0 ↔ ∀ o ∈ seen, missed o = false := by
    rw [List.countP_eq_zero]
    simp
  rw [← none]
  constructor
  · rintro ⟨n, pairs⟩
    obtain ⟨askedN, repliedN⟩ := count_pairs n
    rw [← pairs] at askedN repliedN
    simp only [Bool.false_eq_true, if_false] at asked
    constructor <;> omega
  · rintro ⟨fair, all⟩
    obtain ⟨n, pairs⟩ := alternates fair all
    exact ⟨n, by simpa using pairs⟩

/-- A request in the session that wants a reply, here called `ping`, gets none. -/
theorem session_request_unanswered :
    ¬ Replied (sights (Probe.visit Probe.prompt 8 [Probe.openWith 5 1000,
      [98] ++ be32 0 ++ sshString (ascii "exec") ++ [0] ++ sshString (ascii "true"),
      [98] ++ be32 0 ++ sshString (ascii "ping") ++ [1]]).trace) := by
  have unanswered : marks (sights (Probe.visit Probe.prompt 8 [Probe.openWith 5 1000,
      [98] ++ be32 0 ++ sshString (ascii "exec") ++ [0] ++ sshString (ascii "true"),
      [98] ++ be32 0 ++ sshString (ascii "ping") ++ [1]]).trace) = [.asked] := by
    rw [Probe.visit_eq]
    decide +kernel
  rintro ⟨n, pairs⟩
  have counted := count_pairs n
  rw [← pairs, unanswered] at counted
  have one : 1 = n := counted.1
  have none : 0 = n := counted.2
  omega

end NoxSsh.Server
