/-
# Server.Closing — one session, one CLOSE, and what comes after it

The moves of the channel machine go forward: `rank` is how far a run has come, from
no channel to the end of it, and each message that may be sent once is sent where
the rank rises (`Move.speech`).  So a run opens once, starts one session, reports
one exit status and closes once; what an EOF or a CLOSE of the client is answered
with is a response property of the machine.

After its CLOSE the server still reads, and data that empties its window makes it
speak again (`silent_after_close`).
-/
import NoxSsh.Server.Ledger

namespace NoxSsh.Server

open Theory Proc Wire Transport

set_option autoImplicit false

/-! ## Messages in order -/

/-- The channel messages a run called for. -/
def messages (seen : List Sight) : List (List UInt8) := seen.filterMap fun o => o.1.sending?

/-- How often a message of this number was called for. -/
def spoken (number : UInt8) (seen : List Sight) : Nat :=
  (messages seen).countP fun message => message.head? = some number

def isStart : Event → Bool
  | .sessionStarted _ => true
  | _ => false

/-- How often a session was entered. -/
def starts (seen : List Sight) : Nat := seen.countP fun o => isStart o.1

section Messages

variable {c : Channel} {payload data : List UInt8} {payloads : List (List UInt8)} {all : Bool} {seen a b : List Sight}

@[simp] theorem messages_append (a b : List Sight) : messages (a ++ b) = messages a ++ messages b := by
  simp [messages]

@[simp] theorem spoken_append (number : UInt8) (a b : List Sight) :
    spoken number (a ++ b) = spoken number a + spoken number b := by
  simp [spoken]

@[simp] theorem starts_append (a b : List Sight) : starts (a ++ b) = starts a + starts b := by
  simp [starts]

theorem says_messages (call : Says c payload all seen) : messages seen = [payload] ∧ starts seen = 0 := by
  cases call <;> exact ⟨rfl, rfl⟩

theorem saysAll_messages (calls : SaysAll c payloads all seen) :
    messages seen <+: payloads ∧ starts seen = 0 ∧ (all = true → messages seen = payloads) := by
  induction calls with
  | nil => exact ⟨List.prefix_rfl, rfl, fun _ => rfl⟩
  | @failed payload more seen call =>
      obtain ⟨one, none⟩ := says_messages call
      rw [one]
      exact ⟨⟨more, rfl⟩, none, fun never => by cases never⟩
  | sent call _ ih =>
      obtain ⟨one, none⟩ := says_messages call
      obtain ⟨before, none', whole⟩ := ih
      rw [messages_append, one, starts_append, none, none']
      refine ⟨?_, rfl, fun all => ?_⟩
      · exact (List.prefix_cons_inj _).2 before
      · rw [whole all]
        rfl

theorem feeds_messages (feeds : Feeds c data seen) : messages seen = [] ∧ starts seen = 0 := by
  induction feeds with
  | nil => exact ⟨rfl, rfl⟩
  | cons due _ ih => exact ih

end Messages

/-! ## How far a run has come -/

/-- No channel yet, a channel, a session, the end of it. -/
def rank : Phase → Channel → Nat
  | .handshake, _ => 0
  | .serve d, c => if d ≠ 0 then 3 else if c.channelOpen then 1 else 0
  | .turn d, c => if d ≠ 0 then 3 else if c.channelOpen then 1 else 0
  | .heard d _ _, c => if d ≠ 0 then 3 else if c.channelOpen then 1 else 0
  | .granted _, _ => 1
  | .session _ _, _ => 2
  | .told _ _ _, _ => 2
  | .fed _ _, _ => 2
  | .content _ _, _ => 2
  | _, _ => 3

theorem rank_le (φ : Phase) (c : Channel) : rank φ c ≤ 3 := by
  unfold rank
  split <;> (try split) <;> (try split) <;> omega

theorem rank_idle {d : Nat} {c : Channel} (idle : Idle d c) (isOpen : c.channelOpen = true) :
    (if d ≠ 0 then 3 else if c.channelOpen then 1 else 0) = 1 := by
  have fresh := (idle.granted isOpen).1
  rw [if_neg (by omega), if_pos isOpen]

/-- Data is being dealt with that drains the server's window. -/
def Drained (φ : Phase) (c : Channel) : Prop :=
  ∃ d p len, φ = .heard d p false ∧ dataLenOf c p = some len ∧ (c.charge len).localWindowSize ≤ 65536

/-- What a move to phase `φ'` says that takes the rank from `i` to `j`; `drained` is
why it may credit the client outside a session. -/
inductive Speech (drained : Prop) (i j : Nat) (φ' : Phase) (new : List Sight) : Prop
  | quiet (forth : i ≤ j) (silent : messages new = []) (same : starts new = 0)
  | begins (source : i = 1) (target : j = 2) (silent : messages new = []) (one : starts new = 1)
  | opens (message : List UInt8) (source : i = 0) (target : 1 ≤ j) (one : messages new = [message])
      (number : message.head? = some 91) (same : starts new = 0)
  | talks (message : List UInt8) (forth : i ≤ j) (early : i ≤ 2) (one : messages new = [message])
      (number : message.head? = some 94 ∨ message.head? = some 99 ∨ message.head? = some 100)
      (same : starts new = 0)
  | credits (message : List UInt8) (forth : i ≤ j) (cause : i = 2 ∨ drained) (one : messages new = [message])
      (number : message.head? = some 93) (same : starts new = 0)
  | closes (message : List UInt8) (early : i ≤ 2) (target : j = 3) (one : messages new = [message])
      (number : message.head? = some 97) (same : starts new = 0)
  | leaves (exit eof close : List UInt8) (source : i = 2) (target : j = 3)
      (part : messages new <+: [exit, eof, close]) (whole : messages new = [exit, eof, close] ∨ φ' = .broken)
      (numbers : exit.head? = some 98 ∧ eof.head? = some 96 ∧ close.head? = some 97) (same : starts new = 0)

theorem Move.speech {φ φ' : Phase} {c c' : Channel} {new : List Sight} (stage : Stage φ c)
    (move : Move (φ, c) new (φ', c')) : Speech (Drained φ c) (rank φ c) (rank φ' c') φ' new := by
  cases move with
  | hello | shaken => exact .quiet (Nat.zero_le _) rfl rfl
  | top | retry | hear | pass | tell | ignore | enough | eof | goOn | outputEnds | reap | credit =>
      exact .quiet le_rfl rfl rfl
  | unshaken | leave | limit | drop | closedAlready | unstarted | unforked | reject | abort | shut | left | unwaited
  | peerCloseAgain => exact .quiet (rank_le _ _) rfl rfl
  | wait d d' _ set =>
      have end_ : rank (.serve d') c = 3 := if_pos set
      exact .quiet end_.ge rfl rfl
  | confirmOpen p o _ seen is large closed call =>
      obtain ⟨one, same⟩ := says_messages call
      refine .opens _ ?_ ?_ one rfl same
      · simp [rank, closed]
      · simp [rank, Channel.setOpen]
  | unconfirmed p o _ seen is large closed call =>
      obtain ⟨one, same⟩ := says_messages call
      refine .opens _ ?_ ?_ one rfl same
      · simp [rank, closed]
      · simp [rank]
  | charged d p len =>
      refine .quiet ?_ rfl rfl
      rw [rank, rank, (charge_flags len c).1]
  | toppedUp d p len _ all seen is little call =>
      obtain ⟨one, same⟩ := says_messages call
      refine .credits _ ?_ (.inr ⟨d, p, len, rfl, is, little⟩) one rfl same
      have flags : (c.charge len).topped.channelOpen = c.channelOpen := (charge_flags len c).1
      rw [rank, rank, flags]
  | refused d p _ all seen wants call =>
      obtain ⟨one, same⟩ := says_messages call
      have here : rank (.heard d p false) c = 1 := rank_idle stage (asks_open wants)
      exact .talks _ le_rfl (by omega) one (.inr (.inr rfl)) same
  | confirmed d p _ seen wants call =>
      obtain ⟨one, same⟩ := says_messages call
      have here : rank (.heard d p false) c = 1 := rank_idle stage (asks_open wants)
      exact .talks _ le_rfl (by omega) one (.inr (.inl rfl)) same
  | granted d p _ seen wants call =>
      obtain ⟨one, same⟩ := says_messages call
      have here : rank (.heard d p false) c = 1 := rank_idle stage (asks_open wants)
      exact .talks _ here.le (by omega) one (.inr (.inl rfl)) same
  | unanswered d p _ seen wants call =>
      obtain ⟨one, same⟩ := says_messages call
      have here : rank (.heard d p false) c = 1 := rank_idle stage (asks_open wants)
      exact .talks _ (rank_le _ _) (by omega) one (.inr (.inl rfl)) same
  | grantedSilently d p _ quiet isOpen number =>
      have here : rank (.heard d p false) c = 1 := rank_idle stage isOpen
      exact .quiet here.le rfl rfl
  | answered d p _ seen is number isOpen call =>
      obtain ⟨one, same⟩ := says_messages call
      have here : rank (.heard d p false) c = 1 := rank_idle stage isOpen
      exact .closes _ (by omega) rfl one rfl same
  | unclosed d p _ seen is number isOpen call =>
      obtain ⟨one, same⟩ := says_messages call
      have here : rank (.heard d p false) c = 1 := rank_idle stage isOpen
      exact .closes _ (by omega) rfl one rfl same
  | start => exact .begins rfl rfl rfl rfl
  | feed d child p data _ seen is feeds =>
      obtain ⟨silent, same⟩ := feeds_messages feeds
      exact .quiet le_rfl silent same
  | choke d child p taken left due _ seen is nonempty feeds =>
      obtain ⟨silent, same⟩ := feeds_messages feeds
      refine .quiet (rank_le _ _) ?_ ?_
      · rw [messages_append, silent]
        rfl
      · rw [starts_append, same]
        rfl
  | topUp d child _ seen little call =>
      obtain ⟨one, same⟩ := says_messages call
      exact .credits _ le_rfl (.inl rfl) one rfl same
  | noTopUp d child _ seen little call =>
      obtain ⟨one, same⟩ := says_messages call
      exact .credits _ (rank_le _ _) (.inl rfl) one rfl same
  | eot d child p due e _ is number written =>
      rcases written with rfl | rfl
      · exact .quiet le_rfl rfl rfl
      · exact .quiet le_rfl rfl rfl
  | peerClose d child p _ seen is number isOpen call =>
      obtain ⟨one, same⟩ := says_messages call
      exact .closes _ le_rfl rfl one rfl same
  | peerCloseFails d child p _ seen is number isOpen call =>
      obtain ⟨one, same⟩ := says_messages call
      exact .closes _ le_rfl rfl one rfl same
  | output d child bytes due _ seen nonempty fits chunk call =>
      obtain ⟨one, same⟩ := says_messages call
      exact .talks _ le_rfl le_rfl one (.inl rfl) same
  | outputFails d child bytes due _ seen nonempty fits chunk call =>
      obtain ⟨one, same⟩ := says_messages call
      exact .talks _ (rank_le _ _) le_rfl one (.inl rfl) same
  | complete d child status _ seen ended reaped calls =>
      obtain ⟨part, same, whole⟩ := saysAll_messages calls
      exact .leaves _ _ _ rfl rfl part (.inl (whole rfl)) ⟨rfl, rfl, rfl⟩ same
  | incomplete d child status _ seen ended reaped calls =>
      obtain ⟨part, same, -⟩ := saysAll_messages calls
      exact .leaves _ _ _ rfl rfl part (.inr rfl) ⟨rfl, rfl, rfl⟩ same

/-! ## Each message once -/

/-- Something happened at most once, and not before the rank was `due`. -/
def Once (count due rank : Nat) : Prop := count ≤ 1 ∧ (rank < due → count = 0)

/-- It may happen where the rank rises to what is due. -/
theorem Once.next {count due i j new : Nat} (once : Once count due i) (forth : i ≤ j)
    (rises : new = 0 ∨ new ≤ 1 ∧ i < due ∧ due ≤ j) : Once (count + new) due j := by
  obtain ⟨few, none⟩ := once
  constructor
  · omega
  · omega

/-- What a run has said, by how far it has come. -/
structure Quota (seen : List Sight) (rank : Nat) : Prop where
  opens : Once (spoken 91 seen) 1 rank
  begun : Once (starts seen) 2 rank
  closes : Once (spoken 97 seen) 3 rank
  exits : Once (spoken 98 seen) 3 rank

theorem spoken_one {n : UInt8} {message : List UInt8} {new : List Sight} (one : messages new = [message])
    (is : message.head? = some n) (number : UInt8) : spoken number new = if n = number then 1 else 0 := by
  rw [spoken, one, List.countP_singleton, is]
  by_cases same : n = number
  · simp [same]
  · simp [same]

theorem spoken_none {new : List Sight} (silent : messages new = []) (number : UInt8) : spoken number new = 0 := by
  rw [spoken, silent]
  rfl

/-- A prefix of exit status, EOF and CLOSE. -/
theorem spoken_farewell {exit eof close : List UInt8} {new : List Sight}
    (part : messages new <+: [exit, eof, close])
    (numbers : exit.head? = some 98 ∧ eof.head? = some 96 ∧ close.head? = some 97) :
    spoken 91 new = 0 ∧ spoken 97 new ≤ 1 ∧ spoken 98 new ≤ 1 := by
  obtain ⟨first, second, third⟩ := numbers
  have fewer : ∀ number : UInt8, spoken number new ≤
      [exit, eof, close].countP fun message => message.head? = some number :=
    fun number => part.sublist.countP_le
  have opens := fewer 91
  have closes := fewer 97
  have exits := fewer 98
  simp only [List.countP_cons, List.countP_nil, first, second, third] at opens closes exits
  exact ⟨by simpa using opens, by simpa using closes, by simpa using exits⟩

theorem Quota.step {seen new : List Sight} {i j : Nat} {drained : Prop} {φ' : Phase} (quota : Quota seen i)
    (speech : Speech drained i j φ' new) :
    Quota (seen ++ new) j := by
  obtain ⟨opens, begun, closes, exits⟩ := quota
  suffices rises : i ≤ j ∧ (spoken 91 new = 0 ∨ spoken 91 new ≤ 1 ∧ i < 1 ∧ 1 ≤ j) ∧
      (starts new = 0 ∨ starts new ≤ 1 ∧ i < 2 ∧ 2 ≤ j) ∧ (spoken 97 new = 0 ∨ spoken 97 new ≤ 1 ∧ i < 3 ∧ 3 ≤ j) ∧
      (spoken 98 new = 0 ∨ spoken 98 new ≤ 1 ∧ i < 3 ∧ 3 ≤ j) by
    obtain ⟨forth, one, two, three, four⟩ := rises
    constructor
    · rw [spoken_append]
      exact opens.next forth one
    · rw [starts_append]
      exact begun.next forth two
    · rw [spoken_append]
      exact closes.next forth three
    · rw [spoken_append]
      exact exits.next forth four
  cases speech with
  | quiet forth silent same =>
      exact ⟨forth, .inl (spoken_none silent _), .inl same, .inl (spoken_none silent _), .inl (spoken_none silent _)⟩
  | begins source target silent one =>
      exact ⟨by omega, .inl (spoken_none silent _), .inr ⟨one.le, by omega, by omega⟩, .inl (spoken_none silent _),
        .inl (spoken_none silent _)⟩
  | opens message source target one number same =>
      have counts := spoken_one one number
      exact ⟨by omega, .inr ⟨(counts 91).le, by omega, target⟩, .inl same, .inl (counts 97), .inl (counts 98)⟩
  | talks message forth early one number same =>
      rcases number with number | number | number
      all_goals
        have counts := spoken_one one number
        exact ⟨forth, .inl (counts 91), .inl same, .inl (counts 97), .inl (counts 98)⟩
  | credits message forth cause one number same =>
      have counts := spoken_one one number
      exact ⟨forth, .inl (counts 91), .inl same, .inl (counts 97), .inl (counts 98)⟩
  | closes message early target one number same =>
      have counts := spoken_one one number
      exact ⟨by omega, .inl (counts 91), .inl same, .inr ⟨(counts 97).le, by omega, by omega⟩, .inl (counts 98)⟩
  | leaves exit eof close source target part whole numbers same =>
      obtain ⟨none, one, one'⟩ := spoken_farewell part numbers
      exact ⟨by omega, .inl none, .inl same, .inr ⟨one, by omega, by omega⟩, .inr ⟨one', by omega, by omega⟩⟩

/-! ## What a packet is answered with -/

/-- The packets a move receives. -/
def heardIn (new : List Sight) : List (List UInt8) := new.filterMap fun o => o.1.received?

theorem says_heard {c : Channel} {payload : List UInt8} {all : Bool} {seen : List Sight}
    (call : Says c payload all seen) : heardIn seen = [] := by
  cases call <;> rfl

theorem saysAll_heard {c : Channel} {payloads : List (List UInt8)} {all : Bool} {seen : List Sight}
    (calls : SaysAll c payloads all seen) : heardIn seen = [] := by
  induction calls with
  | nil => rfl
  | failed call => exact says_heard call
  | @sent payload more all seen seen' call _ ih =>
      have first := says_heard call
      simp only [heardIn, List.filterMap_append] at first ih ⊢
      rw [first, ih]
      rfl

theorem feeds_heard {c : Channel} {data : List UInt8} {seen : List Sight} (feeds : Feeds c data seen) :
    heardIn seen = [] := by
  induction feeds with
  | nil => rfl
  | cons due _ ih => exact ih

/-- A packet is received alone, and then it is being dealt with. -/
inductive Hears (φ : Phase) (c : Channel) (new : List Sight) (φ' : Phase) (c' : Channel) : Prop
  | nothing (none : heardIn new = [])
  | early (p : List UInt8) (due : Bool) (is : new = [(.received p, c, due)]) (phase : φ = .handshake)
  | loop (d : Nat) (p : List UInt8) (due : Bool) (is : new = [(.received p, c, due)]) (same : c' = c)
      (phase : φ' = .heard d p due)
  | session (d : Nat) (child : Child) (p : List UInt8) (due : Bool) (is : new = [(.received p, c, due)])
      (same : c' = c) (phase : φ' = .told d child p)

theorem Move.hears {φ φ' : Phase} {c c' : Channel} {new : List Sight} (move : Move (φ, c) new (φ', c')) :
    Hears φ c new φ' c' := by
  cases move with
  | hello p due => exact .early p due rfl rfl
  | hear d p due => exact .loop d p due rfl rfl rfl
  | tell d child p due => exact .session d child p due rfl rfl rfl
  | confirmOpen _ _ _ _ _ _ _ call | unconfirmed _ _ _ _ _ _ _ call | toppedUp _ _ _ _ _ _ _ _ call
  | refused _ _ _ _ _ _ call | confirmed _ _ _ _ _ call | granted _ _ _ _ _ call | unanswered _ _ _ _ _ call
  | answered _ _ _ _ _ _ _ call | unclosed _ _ _ _ _ _ _ call | topUp _ _ _ _ _ call | noTopUp _ _ _ _ _ call
  | peerClose _ _ _ _ _ _ _ _ call | peerCloseFails _ _ _ _ _ _ _ _ call => exact .nothing (says_heard call)
  | output _ _ _ _ _ _ _ _ _ call | outputFails _ _ _ _ _ _ _ _ _ call =>
      have none := says_heard call
      exact .nothing none
  | complete _ _ _ _ _ _ _ calls | incomplete _ _ _ _ _ _ _ calls => exact .nothing (saysAll_heard calls)
  | feed _ _ _ _ _ _ _ feeds => exact .nothing (feeds_heard feeds)
  | choke _ _ _ _ _ due _ seen _ _ feeds =>
      have before := feeds_heard feeds
      refine .nothing ?_
      simp only [heardIn, List.filterMap_append] at before ⊢
      rw [before]
      rfl
  | eot _ _ _ _ _ _ _ _ written => rcases written with rfl | rfl <;> exact .nothing rfl
  | _ => exact .nothing rfl

/-! ### What a packet is not -/

theorem dataLenOf_number {c : Channel} {p : List UInt8} {len : Nat} (is : dataLenOf c p = some len) :
    p.head? = some 94 := by
  by_contra other
  rw [dataLenOf, if_neg other] at is
  cases is

theorem openRequestOf_number {p : List UInt8} {o : OpenRequest} (is : openRequestOf p = some o) :
    p.head? = some 90 := by
  by_contra other
  rw [openRequestOf, if_neg other] at is
  cases is

theorem asks_number {c : Channel} {p : List UInt8} (wants : asks c p = true) : p.head? = some 98 := by
  by_contra other
  rw [asks_other other] at wants
  cases wants

/-! ### CLOSE -/

/-- The rekey limit does not get in the way of a packet. -/
def Spared (o : Sight) : Prop := o.2.2 = false ∨ o.2.1.channelOpen = true ∧ o.2.1.sessionStarted = true

/-- The CLOSE for the channel as it stood. -/
def closeOf (o : Sight) : List UInt8 := channelMessage 97 o.2.1.remoteChannelId

/-- A well-formed CLOSE for the open channel. -/
def Closes (o : Sight) : Prop :=
  o.2.1.channelOpen = true ∧ ∃ p, o.1 = .received p ∧ ends o.2.1 p = true ∧ p.head? = some 97

instance (o : Sight) : Decidable (Closes o) :=
  decidable_of_iff (o.2.1.channelOpen = true ∧ ∃ p ∈ o.1.received?, ends o.2.1 p = true ∧ p.head? = some 97) <| by
    have received : ∀ p, p ∈ o.1.received? ↔ o.1 = .received p := by
      intro p
      cases o.1 <;> simp [Event.received?]
    simp only [Closes, received]

/-- The machine is about to answer, has called for the answer, or has answered. -/
def Closing (o : Sight) (after : List Sight) (s : Phase × Channel) : Prop :=
  (after = [] ∧ s.2 = o.2.1 ∧ ∃ p, o.1 = .received p ∧
    ((∃ d, s.1 = .heard d p o.2.2) ∨ ∃ d child, s.1 = .told d child p)) ∨
  (∃ x, after = [x] ∧ x.1 = .sending (closeOf o) ∧ (s.1 = .broken ∨ s.1 = .over true)) ∨
  ∃ x y rest, after = x :: y :: rest ∧ x.1 = .sending (closeOf o) ∧ y.1 = .sent (closeOf o)

/-- A packet that was received is in the hands of the loop or of the session, with
nothing said yet; in the handshake there is no channel. -/
theorem Move.hears_at {φ φ' : Phase} {c c' : Channel} {new before after : List Sight} {o : Sight} {p : List UInt8}
    (move : Move (φ, c) new (φ', c')) (split : new = before ++ o :: after) (got : o.1 = .received p) :
    before = [] ∧ after = [] ∧ o.2.1 = c ∧
      (φ = .handshake ∨ c' = c ∧ ((∃ d, φ' = .heard d p o.2.2) ∨ ∃ d child, φ' = .told d child p)) := by
  have here : p ∈ heardIn new := by
    rw [split, heardIn, List.filterMap_append, List.filterMap_cons, got]
    simp [Event.received?]
  rcases move.hears with none | ⟨q, due, is, phase⟩ | ⟨d, q, due, is, same, phase⟩ | ⟨d, child, q, due, is, same, phase⟩
  · rw [none] at here
    cases here
  all_goals
    rw [is] at split
    obtain ⟨rfl, rfl, rfl⟩ : before = [] ∧ o = (.received q, c, due) ∧ after = [] := by
      cases before with
      | nil => exact ⟨rfl, (List.cons.inj split).1.symm, (List.cons.inj split).2.symm⟩
      | cons x before => simp at split
    obtain rfl : q = p := by simpa using got
  · exact ⟨rfl, rfl, rfl, .inl phase⟩
  · exact ⟨rfl, rfl, rfl, .inr ⟨same, .inl ⟨d, phase⟩⟩⟩
  · exact ⟨rfl, rfl, rfl, .inr ⟨same, .inr ⟨d, child, phase⟩⟩⟩

theorem closing_fresh {φ φ' : Phase} {c c' : Channel} {new before after : List Sight} {o : Sight}
    (stage : Stage φ c) (move : Move (φ, c) new (φ', c')) (split : new = before ++ o :: after) (closes : Closes o) :
    Closing o after (φ', c') := by
  obtain ⟨isOpen, p, got, is, number⟩ := closes
  obtain ⟨-, rfl, same, phase⟩ := move.hears_at split got
  rcases phase with rfl | ⟨same', phase⟩
  · rw [same, stage.1] at isOpen
    cases isOpen
  · exact .inl ⟨rfl, same'.trans same.symm, p, got, phase⟩

theorem closing_later {φ φ' : Phase} {c c' : Channel} {new after : List Sight} {o : Sight} (stage : Stage φ c)
    (move : Move (φ, c) new (φ', c')) (closes : Closes o) (spared : Spared o) (closing : Closing o after (φ, c)) :
    Closing o (after ++ new) (φ', c') := by
  obtain ⟨isOpen, p, got, is, number⟩ := closes
  rcases closing with ⟨rfl, same, q, got', phase⟩ | ⟨x, rfl, sending, phase⟩ | ⟨x, y, rest, rfl, sending, sent⟩
  · obtain rfl : p = q := by simpa [got] using got'
    dsimp only at same
    rw [← same] at isOpen is
    have notData : ∀ {len}, dataLenOf c p ≠ some len := fun {len} is => by simp [dataLenOf_number is] at number
    have notAsk : ¬ asks c p = true := fun is => by simp [asks_number is] at number
    have answers : ∀ {all seen}, Says c (channelMessage 97 c.remoteChannelId) all seen →
        (all = false → φ' = .broken ∨ φ' = .over true) → Closing o ([] ++ seen) (φ', c') := by
      intro all seen call fails
      have close : closeOf o = channelMessage 97 c.remoteChannelId := by rw [closeOf, ← same]
      cases call with
      | failed due => exact .inr (.inl ⟨_, rfl, by rw [close], fails rfl⟩)
      | sent due due' => exact .inr (.inr ⟨_, _, [], rfl, by rw [close], by rw [close]⟩)
    rcases phase with ⟨d, rfl⟩ | ⟨d, child, rfl⟩
    · have fine : o.2.2 = false := by
        rcases spared with fine | ⟨-, started⟩
        · exact fine
        · rw [← same, (Idle.granted stage isOpen).2.2] at started
          cases started
      rw [fine] at move
      cases move with
      | pass _ _ _ _ quiet other => exact absurd ⟨is, number⟩ other
      | drop _ _ _ _ quiet other => simp [is] at other
      | confirmOpen _ _ _ _ opens | unconfirmed _ _ _ _ opens =>
          simp [openRequestOf_number opens] at number
      | charged _ _ _ _ data | toppedUp _ _ _ _ _ _ data => exact absurd data notData
      | refused _ _ _ _ _ wants | confirmed _ _ _ _ wants | granted _ _ _ _ wants | unanswered _ _ _ _ wants =>
          exact absurd wants notAsk
      | grantedSilently _ _ _ _ _ other => simp [number] at other
      | answered _ _ _ _ _ _ _ call => exact answers call fun never => by cases never
      | unclosed _ _ _ _ _ _ _ call => exact answers call fun _ => .inr rfl
      | closedAlready _ _ _ _ _ closed => simp [isOpen] at closed
    · cases move with
      | ignore _ _ _ _ other | reject _ _ _ _ other => simp [is] at other
      | credit _ _ _ _ other => simp [number] at other
      | feed _ _ _ _ _ _ data | choke _ _ _ _ _ _ _ _ data => exact absurd (dataOf_some data).2.2 notData
      | eof _ _ _ _ _ other | eot _ _ _ _ _ _ _ other => simp [number] at other
      | peerClose _ _ _ _ _ _ _ _ call => exact answers call fun never => by cases never
      | peerCloseFails _ _ _ _ _ _ _ _ call => exact answers call fun _ => .inl rfl
      | peerCloseAgain _ _ _ _ _ _ closed => simp [isOpen] at closed
  · rcases phase with rfl | rfl
    · cases move with
      | shut => exact .inr (.inl ⟨x, rfl, sending, .inr rfl⟩)
    · cases move
  · exact .inr (.inr ⟨x, y, rest ++ new, rfl, sending, sent⟩)

/-! ### EOF -/

def isServing : Event → Bool
  | .serving _ => true
  | _ => false

/-- A well-formed EOF for the channel. -/
def HalfCloses (o : Sight) : Prop := ∃ p, o.1 = .received p ∧ ends o.2.1 p = true ∧ p.head? = some 96

/-- The server is back at the top of a loop; the character EOT may go to a terminal first. -/
def Resumes (after : List Sight) : Prop :=
  (∃ x rest, after = x :: rest ∧ (isServing x.1 = true ∨ x.1 = .sessionGoesOn)) ∨
  ∃ x y rest, after = x :: y :: rest ∧ (x.1 = .childEot ∨ x.1 = .childRefused) ∧ y.1 = .sessionGoesOn

/-- The machine deals with the EOF, is done with it, or is back. -/
def GoingOn (o : Sight) (after : List Sight) (s : Phase × Channel) : Prop :=
  (after = [] ∧ s.2 = o.2.1 ∧ ∃ p, o.1 = .received p ∧
    ((∃ d, s.1 = .heard d p o.2.2) ∨ ∃ d child, s.1 = .told d child p)) ∨
  (after = [] ∧ ((∃ d, s.1 = .serve d) ∨ ∃ d child, s.1 = .content d child)) ∨
  (∃ x, after = [x] ∧ (x.1 = .childEot ∨ x.1 = .childRefused) ∧ ∃ d child, s.1 = .content d child) ∨
  Resumes after

theorem Resumes.append {after : List Sight} (resumes : Resumes after) (new : List Sight) :
    Resumes (after ++ new) := by
  rcases resumes with ⟨x, rest, rfl, back⟩ | ⟨x, y, rest, rfl, eot, back⟩
  · exact .inl ⟨x, rest ++ new, rfl, back⟩
  · exact .inr ⟨x, y, rest ++ new, rfl, eot, back⟩

theorem goingOn_later {φ φ' : Phase} {c c' : Channel} {new after : List Sight} {o : Sight} (stage : Stage φ c)
    (move : Move (φ, c) new (φ', c')) (halfCloses : HalfCloses o) (spared : Spared o)
    (goingOn : GoingOn o after (φ, c)) : GoingOn o (after ++ new) (φ', c') := by
  obtain ⟨p, got, is, number⟩ := halfCloses
  rcases goingOn with ⟨rfl, same, q, got', phase⟩ | ⟨rfl, ⟨d, rfl⟩ | ⟨d, child, rfl⟩⟩ | ⟨x, rfl, eot, d, child, rfl⟩ |
    resumes
  · obtain rfl : p = q := by simpa [got] using got'
    dsimp only at same
    rw [← same] at is
    have notData : ∀ {len}, dataLenOf c p ≠ some len := fun {len} is => by simp [dataLenOf_number is] at number
    have notAsk : ¬ asks c p = true := fun is => by simp [asks_number is] at number
    rcases phase with ⟨d, rfl⟩ | ⟨d, child, rfl⟩
    · have fine : o.2.2 = false := by
        rcases spared with fine | ⟨isOpen, started⟩
        · exact fine
        · rw [← same] at isOpen started
          rw [(Idle.granted stage isOpen).2.2] at started
          cases started
      rw [fine] at move
      cases move with
      | pass => exact .inr (.inl ⟨rfl, .inl ⟨d, rfl⟩⟩)
      | drop _ _ _ _ quiet other => simp [is] at other
      | confirmOpen _ _ _ _ opens | unconfirmed _ _ _ _ opens =>
          simp [openRequestOf_number opens] at number
      | charged _ _ _ _ data | toppedUp _ _ _ _ _ _ data => exact absurd data notData
      | refused _ _ _ _ _ wants | confirmed _ _ _ _ wants | granted _ _ _ _ wants | unanswered _ _ _ _ wants =>
          exact absurd wants notAsk
      | grantedSilently _ _ _ _ _ other => simp [number] at other
      | answered _ _ _ _ _ other | unclosed _ _ _ _ _ other | closedAlready _ _ _ _ other =>
          simp [number] at other
    · cases move with
      | ignore _ _ _ _ other | reject _ _ _ _ other => simp [is] at other
      | credit _ _ _ _ other => simp [number] at other
      | feed _ _ _ _ _ _ data | choke _ _ _ _ _ _ _ _ data => exact absurd (dataOf_some data).2.2 notData
      | eof => exact .inr (.inl ⟨rfl, .inr ⟨d, child, rfl⟩⟩)
      | eot _ _ _ due e _ _ _ written => exact .inr (.inr (.inl ⟨_, rfl, written, d, child, rfl⟩))
      | peerClose _ _ _ _ _ _ other | peerCloseFails _ _ _ _ _ _ other | peerCloseAgain _ _ _ _ _ other =>
          simp [number] at other
  · cases move with
    | top _ due => exact .inr (.inr (.inr (.inl ⟨_, [], rfl, .inl rfl⟩)))
  · cases move with
    | goOn _ _ due => exact .inr (.inr (.inr (.inl ⟨_, [], rfl, .inr rfl⟩)))
  · cases move with
    | goOn _ _ due => exact .inr (.inr (.inr (.inr ⟨x, _, [], rfl, eot, rfl⟩)))
  · exact .inr (.inr (.inr (resumes.append new)))

/-! ### Exit status -/

/-- After an exit status come EOF and CLOSE; what is missing of them is missing because
a message failed. -/
def Farewell (messages : List (List UInt8)) (phase : Phase) : Prop :=
  ∀ before exit after, messages = before ++ exit :: after → exit.head? = some 98 →
    (∃ eof close rest, after = eof :: close :: rest ∧ eof.head? = some 96 ∧ close.head? = some 97) ∨
      (phase = .broken ∨ phase = .over true) ∧ ∃ eof, after <+: [eof] ∧ eof.head? = some 96

/-- A move that does not say farewell does not report an exit status. -/
theorem Speech.silent {drained : Prop} {i j : Nat} {φ' : Phase} {new : List Sight}
    (speech : Speech drained i j φ' new) :
    (∃ exit eof close, messages new <+: [exit, eof, close] ∧ (messages new = [exit, eof, close] ∨ φ' = .broken) ∧
        exit.head? = some 98 ∧ eof.head? = some 96 ∧ close.head? = some 97) ∨
      ∀ message ∈ messages new, message.head? ≠ some 98 := by
  have other : spoken 98 new = 0 → ∀ message ∈ messages new, message.head? ≠ some 98 := by
    intro none message mem is
    have counted := List.countP_eq_zero.1 none message mem
    simp [is] at counted
  cases speech with
  | quiet forth silent same => exact .inr (other (spoken_none silent _))
  | begins source target silent one => exact .inr (other (spoken_none silent _))
  | opens message source target one number same => exact .inr (other (spoken_one one number 98))
  | talks message forth early one number same =>
      rcases number with number | number | number
      all_goals exact .inr (other (spoken_one one number 98))
  | credits message forth cause one number same => exact .inr (other (spoken_one one number 98))
  | closes message early target one number same => exact .inr (other (spoken_one one number 98))
  | leaves exit eof close source target part whole numbers same => exact .inl ⟨exit, eof, close, part, whole, numbers⟩

theorem prefix_three {α : Type} {l : List α} {a b c : α} (part : l <+: [a, b, c]) :
    l = [] ∨ l = [a] ∨ l = [a, b] ∨ l = [a, b, c] := by
  have short := part.length_le
  have cut := List.prefix_iff_eq_take.1 part
  generalize l.length = n at short cut
  match n, short with
  | 0, _ => exact .inl cut
  | 1, _ => exact .inr (.inl cut)
  | 2, _ => exact .inr (.inr (.inl cut))
  | 3, _ => exact .inr (.inr (.inr cut))

/-- The farewell itself. -/
theorem farewell_new {exit eof close x : List UInt8} {said before after : List (List UInt8)} {φ : Phase}
    (whole : said = [exit, eof, close] ∨ φ = .broken) (part : said <+: [exit, eof, close])
    (numbers : exit.head? = some 98 ∧ eof.head? = some 96 ∧ close.head? = some 97)
    (here : said = before ++ x :: after) (number : x.head? = some 98) :
    (∃ eof close rest, after = eof :: close :: rest ∧ eof.head? = some 96 ∧ close.head? = some 97) ∨
      (φ = .broken ∨ φ = .over true) ∧ ∃ eof, after <+: [eof] ∧ eof.head? = some 96 := by
  obtain ⟨isExit, isEof, isClose⟩ := numbers
  have first : ∀ {y : List UInt8} {n : UInt8}, y.head? = some n → n ≠ 98 → x ≠ y := by
    rintro y n is other rfl
    exact other (Option.some.inj (is.symm.trans number))
  have notEof := first isEof (by decide)
  have notClose := first isClose (by decide)
  rcases prefix_three part with rfl | rfl | rfl | rfl
  · simp at here
  · cases before with
    | nil =>
        obtain ⟨-, rfl⟩ := List.cons.inj here
        exact .inr ⟨.inl (whole.resolve_left (by simp)), eof, by simp, isEof⟩
    | cons y before => simp at here
  · match before, here with
    | [], here =>
        obtain ⟨-, rfl⟩ := List.cons.inj here
        exact .inr ⟨.inl (whole.resolve_left (by simp)), eof, List.prefix_rfl, isEof⟩
    | [_], here => exact absurd (List.cons.inj (List.cons.inj here).2).1.symm notEof
    | _ :: _ :: _, here => simp at here
  · match before, here with
    | [], here =>
        obtain ⟨-, rfl⟩ := List.cons.inj here
        exact .inl ⟨eof, close, [], rfl, isEof, isClose⟩
    | [_], here => exact absurd (List.cons.inj (List.cons.inj here).2).1.symm notEof
    | [_, _], here => exact absurd (List.cons.inj (List.cons.inj (List.cons.inj here).2).2).1.symm notClose
    | _ :: _ :: _ :: _, here => simp at here

/-- What is said to the end is said; where it broke off nothing more is said. -/
theorem Farewell.step {said : List (List UInt8)} {φ φ' : Phase} {c c' : Channel} {new : List Sight}
    (farewell : Farewell said φ) (stage : Stage φ c) (move : Move (φ, c) new (φ', c')) :
    Farewell (said ++ messages new) φ' := by
  have old : ∀ before exit more, said = before ++ exit :: more → exit.head? = some 98 →
      (∃ eof close rest, more ++ messages new = eof :: close :: rest ∧ eof.head? = some 96 ∧ close.head? = some 97) ∨
        (φ' = .broken ∨ φ' = .over true) ∧ ∃ eof, more ++ messages new <+: [eof] ∧ eof.head? = some 96 := by
    intro before exit more here number
    rcases farewell before exit more here number with ⟨eof, close, rest, rfl, numbers⟩ | ⟨rfl | rfl, eof, part, is⟩
    · exact .inl ⟨eof, close, rest ++ messages new, rfl, numbers⟩
    · cases move with
      | shut => exact .inr ⟨.inr rfl, eof, by simpa [messages] using part, is⟩
    · cases move
  have fresh : ∀ before exit more, messages new = before ++ exit :: more → exit.head? = some 98 →
      (∃ eof close rest, more = eof :: close :: rest ∧ eof.head? = some 96 ∧ close.head? = some 97) ∨
        (φ' = .broken ∨ φ' = .over true) ∧ ∃ eof, more <+: [eof] ∧ eof.head? = some 96 := by
    intro before exit more here number
    rcases (move.speech stage).silent with ⟨exit', eof, close, part, whole, numbers⟩ | none
    · exact farewell_new whole part numbers here number
    · exact absurd number (none exit (by simp [here]))
  intro before exit after joined number
  rcases List.append_eq_append_iff.1 joined with ⟨more, rfl, here⟩ | ⟨more, here, rest⟩
  · exact fresh more exit after here number
  · cases more with
    | nil => exact fresh [] exit after (by simpa using rest.symm) number
    | cons x more =>
        obtain ⟨rfl, rfl⟩ := List.cons.inj rest
        exact old before _ more here number

/-! ## Runs -/

/-- One session, one CLOSE, in order: what a run that ended in `o` shows. -/
structure Orderly (seen : List Sight) (o : Outcome NetnoxReturn Unit) : Prop where
  oneSession : starts seen ≤ 1
  oneOpen : spoken 91 seen ≤ 1
  oneClose : spoken 97 seen ≤ 1
  oneExit : spoken 98 seen ≤ 1
  /-- The exit status comes after all output and after the child. -/
  exitLast : Each (fun before x => ∀ p ∈ x.1.sending?, p.head? = some 98 →
    (book before).read = (book before).forwarded ∧ (book before).reaped ≠ none) seen
  /-- EOF and CLOSE come next, unless a message fails and the run with it. -/
  farewell : ∀ before exit after, messages seen = before ++ exit :: after → exit.head? = some 98 →
    (∃ eof close rest, after = eof :: close :: rest ∧ eof.head? = some 96 ∧ close.head? = some 97) ∨
      (∃ e, o = .err e) ∧ ∃ eof, after <+: [eof] ∧ eof.head? = some 96
  closeAnswered : ∀ before x after, seen = before ++ x :: after → Closes x → Spared x →
    (∃ y, after = [y] ∧ y.1 = .sending (closeOf x) ∧ ∃ e, o = .err e) ∨
      ∃ y z rest, after = y :: z :: rest ∧ y.1 = .sending (closeOf x) ∧ z.1 = .sent (closeOf x)
  closeOnce : ∀ before x after, seen = before ++ x :: after → 0 < spoken 97 before → spoken 97 (x :: after) = 0
  /-- After an EOF the server is at the top of a loop again, or `turns` were too few to see it. -/
  eofGoesOn : ∀ before x after, seen = before ++ x :: after → HalfCloses x → Spared x →
    (∃ y ∈ before, isServing y.1 = true) → after = [] ∧ o = .stuck ∨ Resumes after

/-- What the responses need to know of a state. -/
def Known (seen : List Sight) (s : Phase × Channel) : Prop :=
  Stage s.1 s.2 ∧ (s.1 = .handshake → ∀ o ∈ seen, isServing o.1 = false)

theorem Known.step {seen new : List Sight} {s s' : Phase × Channel} (known : Known seen s) (move : Move s new s') :
    Known (seen ++ new) s' := by
  obtain ⟨stage, early⟩ := known
  refine ⟨move.stage stage, fun phase o mem => ?_⟩
  obtain ⟨φ, c⟩ := s
  obtain ⟨φ', c'⟩ := s'
  obtain rfl : φ' = .handshake := phase
  cases move with
  | hello p due =>
      rcases List.mem_append.1 mem with old | new
      · exact early rfl o old
      · obtain rfl := List.mem_singleton.1 new
        rfl

section Paths

variable {seen : List Sight} {s : Phase × Channel} (path : Path Move (.handshake, freshChannel) seen s)

include path

theorem known_path : Known seen s :=
  path.invariant (I := Known) ⟨⟨rfl, rfl⟩, by simp⟩ fun known move => known.step move

theorem quota_path : Quota seen (rank s.1 s.2) := by
  suffices both : Stage s.1 s.2 ∧ Quota seen (rank s.1 s.2) from both.2
  apply path.invariant (I := fun seen s => Stage s.1 s.2 ∧ Quota seen (rank s.1 s.2))
  · refine ⟨⟨rfl, rfl⟩, ?_⟩
    exact ⟨⟨by decide, fun _ => rfl⟩, ⟨by decide, fun _ => rfl⟩, ⟨by decide, fun _ => rfl⟩, ⟨by decide, fun _ => rfl⟩⟩
  · intro seen t new u so move
    obtain ⟨φ, c⟩ := t
    obtain ⟨φ', c'⟩ := u
    exact ⟨Move.stage so.1 move, so.2.step (move.speech so.1)⟩

theorem farewell_path : Farewell (messages seen) s.1 := by
  suffices both : Stage s.1 s.2 ∧ Farewell (messages seen) s.1 from both.2
  apply path.invariant (I := fun seen s => Stage s.1 s.2 ∧ Farewell (messages seen) s.1)
  · refine ⟨⟨rfl, rfl⟩, ?_⟩
    intro before exit after is
    simp [messages] at is
  · intro seen t new u so move
    obtain ⟨φ, c⟩ := t
    obtain ⟨φ', c'⟩ := u
    rw [messages_append]
    exact ⟨Move.stage so.1 move, so.2.step so.1 move⟩

theorem closing_path : ∀ before o after, seen = before ++ o :: after → Closes o → Spared o → Closing o after s :=
  path.response (K := Known) (R := fun _ o after s => Closes o → Spared o → Closing o after s) ⟨⟨rfl, rfl⟩, by simp⟩
    (fun known move => known.step move)
    (fun known move is closes _ => closing_fresh known.1 move is closes)
    fun known move _ closing closes spared => closing_later known.1 move closes spared (closing closes spared)

theorem goingOn_path : ∀ before o after, seen = before ++ o :: after → HalfCloses o → Spared o →
    (∃ x ∈ before, isServing x.1 = true) → GoingOn o after s := by
  refine path.response (K := Known)
    (R := fun before o after s => HalfCloses o → Spared o → (∃ x ∈ before, isServing x.1 = true) → GoingOn o after s)
    ⟨⟨rfl, rfl⟩, by simp⟩ (fun known move => known.step move) ?_
    fun known move _ goingOn halfCloses spared late => goingOn_later known.1 move halfCloses spared
      (goingOn halfCloses spared late)
  intro seen t new u before o after known move is halfCloses spared late
  obtain ⟨p, got, -⟩ := halfCloses
  obtain ⟨rfl, rfl, same, phase⟩ := move.hears_at is got
  rcases phase with phase | ⟨same', phase⟩
  · obtain ⟨x, mem, serving⟩ := late
    rw [List.append_nil] at mem
    rw [known.2 phase x mem] at serving
    cases serving
  · exact .inl ⟨rfl, same'.trans same.symm, p, got, phase⟩

end Paths

/-- Where a run ends no packet is left to be answered. -/
theorem Ended.settled {o : Outcome NetnoxReturn Unit} {phase : Phase} {h : Host Server} (ended : Ended o phase h) :
    (∀ d p due, phase ≠ .heard d p due) ∧ (∀ d child p, phase ≠ .told d child p) ∧
      (∀ d child, phase ≠ .content d child) ∧ ∀ d, phase = .serve d → o = .stuck := by
  cases o with
  | ok _ =>
      obtain rfl : phase = .over false := ended
      exact ⟨by simp, by simp, by simp, by simp⟩
  | err _ =>
      obtain rfl : phase = .over true := ended
      exact ⟨by simp, by simp, by simp, by simp⟩
  | stuck =>
      have waiting : Waiting phase := ended
      refine ⟨?_, ?_, ?_, fun _ _ => rfl⟩
      · rintro d p due rfl
        exact waiting
      · rintro d child p rfl
        exact waiting
      · rintro d child rfl
        exact waiting

/-- **One session, one CLOSE, in order**, whatever the client and the child do. -/
theorem served_orderly (noxtls : Noxtls) (env : Env) (setup : Setup) (inbox : List UInt8) (turns : Nat) :
    Orderly (sights (served noxtls env setup inbox turns).trace) (serveOutcome noxtls env setup inbox turns) := by
  obtain ⟨phase, path, ended⟩ := served_path noxtls env setup inbox turns
  obtain ⟨heard, told, content, serving⟩ := ended.settled
  have quota := quota_path path
  have failed : phase = .broken ∨ phase = .over true → ∃ e, serveOutcome noxtls env setup inbox turns = .err e := by
    intro past
    cases outcome : serveOutcome noxtls env setup inbox turns with
    | err e => exact ⟨e, rfl⟩
    | ok _ =>
        rw [outcome] at ended
        obtain rfl : phase = .over false := ended
        simp at past
    | stuck =>
        rw [outcome] at ended
        rcases past with rfl | rfl <;> exact absurd ended id
  constructor
  · exact quota.begun.1
  · exact quota.opens.1
  · exact quota.closes.1
  · exact quota.exits.1
  · refine (served_accounts noxtls env setup inbox turns).1.mono fun before x entry p out number => ?_
    obtain ⟨empty, reaped⟩ := entry.exit p out number
    have lossless := entry.lossless
    rw [empty, List.append_nil] at lossless
    exact ⟨lossless, reaped⟩
  · intro before exit after is number
    rcases farewell_path path before exit after is number with whole | ⟨past, part⟩
    · exact .inl whole
    · exact .inr ⟨failed past, part⟩
  · intro before x after is closes spared
    rcases closing_path path before x after is closes spared with
      ⟨-, -, p, -, ⟨d, here⟩ | ⟨d, child, here⟩⟩ | ⟨y, rfl, sending, past⟩ | answered
    · exact absurd here (heard _ _ _)
    · exact absurd here (told _ _ _)
    · exact .inl ⟨y, rfl, sending, failed past⟩
    · exact .inr answered
  · intro before x after is once
    have all := quota.closes.1
    rw [is, spoken_append] at all
    omega
  · intro before x after is halfCloses spared late
    rcases goingOn_path path before x after is halfCloses spared late with
      ⟨-, -, p, -, ⟨d, here⟩ | ⟨d, child, here⟩⟩ | ⟨none, ⟨d, here⟩ | ⟨d, child, here⟩⟩ | ⟨y, -, -, d, child, here⟩ |
      resumes
    · exact absurd here (heard _ _ _)
    · exact absurd here (told _ _ _)
    · exact .inl ⟨none, serving _ here⟩
    · exact absurd here (content _ _)
    · exact absurd here (content _ _)
    · exact .inr resumes

/-- A CLOSE that arrives at the rekey limit is not answered: the run fails without trying. -/
theorem close_at_limit_not_answered :
    let setup := { Probe.setup with rekeyThresholdBytes := 449 }
    let inbox := Probe.stream [Probe.openWith 5 1000, channelMessage 97 0]
    ¬ ∀ before x after, sights (served Sample.plain Probe.brisk setup inbox 6).trace = before ++ x :: after →
      Closes x →
        (∃ y, after = [y] ∧ y.1 = .sending (closeOf x) ∧
          ∃ e, serveOutcome Sample.plain Probe.brisk setup inbox 6 = .err e) ∨
        ∃ y z rest, after = y :: z :: rest ∧ y.1 = .sending (closeOf x) ∧ z.1 = .sent (closeOf x) := by
  intro setup inbox answers
  obtain ⟨x, last, closes⟩ : ∃ x ∈ (sights (served Sample.plain Probe.brisk setup inbox 6).trace).getLast?, Closes x := by
    rw [show inbox = _ from Probe.stream_eq _]
    decide +kernel
  obtain ⟨before, is⟩ := List.getLast?_eq_some_iff.1 last
  rcases answers before x [] is closes with ⟨y, none, -⟩ | ⟨y, z, rest, none, -⟩
  · cases none
  · cases none

/-! ## After CLOSE

A watcher of the run notes whether CLOSE was called for, and counts the data that
makes the server top its window up afterwards. -/

structure Watch where
  closed : Bool
  late : Nat
  deriving DecidableEq, Repr

/-- CHANNEL_DATA that leaves the server little window, with the rekey limit not reached. -/
def drains (o : Sight) : Bool :=
  !o.2.2 && o.1.received?.any (tops o.2.1)

/-- A message of numbers 93 to 100. -/
def aboutOpen (payload : List UInt8) : Bool := payload.head?.any fun number => 93 ≤ number && number ≤ 100

def Watch.enter (w : Watch) (o : Sight) : Watch where
  closed := w.closed || o.1.sending?.any fun p => p.head? = some 97
  late := if w.closed && drains o then w.late + 1 else w.late

def watch (seen : List Sight) : Watch := seen.foldl Watch.enter ⟨false, 0⟩

/-- Nothing is said about a channel that was closed. -/
def Hushed (w : Watch) (o : Sight) : Prop := w.closed = true → ∀ p ∈ o.1.sending?, aboutOpen p = false

instance (w : Watch) (o : Sight) : Decidable (Hushed w o) :=
  inferInstanceAs (Decidable (w.closed = true → ∀ p ∈ o.1.sending?, aboutOpen p = false))

theorem each_watch {Q : Watch → Sight → Prop} {seen : List Sight} :
    Each (fun before o => Q (watch before) o) seen ↔ Audit Watch.enter Q ⟨false, 0⟩ seen :=
  audit_iff_each.symm

/-- What is audited: up to the first late data nothing is said. -/
def Mindful (w : Watch) (o : Sight) : Prop := w.late = 0 → Hushed w o

section Watching

variable {w : Watch} {new : List Sight}

theorem watch_closed : (new.foldl Watch.enter w).closed =
    (w.closed || (messages new).any fun p => p.head? = some 97) := by
  induction new generalizing w with
  | nil => simp [messages]
  | cons o new ih =>
      rw [List.foldl_cons, ih, Watch.enter]
      cases out : o.1.sending? with
      | none => simp [messages, out]
      | some p => simp [messages, out, Bool.or_assoc]

theorem watch_late_le : w.late ≤ (new.foldl Watch.enter w).late := by
  induction new generalizing w with
  | nil => exact Nat.le_refl _
  | cons o new ih =>
      have one : w.late ≤ (w.enter o).late := by
        unfold Watch.enter
        dsimp only
        split <;> omega
      exact one.trans ih

theorem audit_silent (silent : messages new = []) : Audit Watch.enter Mindful w new := by
  induction new generalizing w with
  | nil => trivial
  | cons o new ih =>
      cases out : o.1.sending? with
      | none =>
          refine ⟨fun _ _ p is => ?_, ih (by simpa [messages, out] using silent)⟩
          rw [out] at is
          cases is
      | some p => simp [messages, out] at silent

theorem audit_late (late : w.late ≠ 0) : Audit Watch.enter Mindful w new := by
  induction new generalizing w with
  | nil => trivial
  | cons o new ih =>
      have grows : w.late ≤ ([o].foldl Watch.enter w).late := watch_late_le
      exact ⟨fun none => absurd none late, ih (Nat.pos_iff_ne_zero.1 ((Nat.pos_iff_ne_zero.2 late).trans_le grows))⟩

/-- Before the CLOSE everything may be said, and the CLOSE comes last. -/
theorem audit_talk (still : w.closed = false)
    (last : ∀ before p after, messages new = before ++ p :: after → p.head? = some 97 → after = []) :
    Audit Watch.enter Mindful w new := by
  induction new generalizing w with
  | nil => trivial
  | cons o new ih =>
      refine ⟨fun _ closed => by simp [still] at closed, ?_⟩
      cases out : o.1.sending? with
      | none =>
          have same : messages (o :: new) = messages new := by simp [messages, out]
          rw [same] at last
          exact ih (by simp [Watch.enter, still, out]) last
      | some p =>
          have first : messages (o :: new) = p :: messages new := by simp [messages, out]
          rw [first] at last
          by_cases close : p.head? = some 97
          · exact audit_silent (last [] p _ rfl close)
          · refine ih (by simp [Watch.enter, still, out, close]) fun before q after is => ?_
            exact last (p :: before) q after (by rw [is, List.cons_append])

end Watching

theorem Move.into_heard {φ : Phase} {c c' : Channel} {new : List Sight} {d : Nat} {p : List UInt8} {due : Bool}
    (move : Move (φ, c) new (.heard d p due, c')) : new = [(.received p, c, due)] ∧ c' = c := by
  cases move with
  | hear => exact ⟨rfl, rfl⟩

/-- A channel that was closed stays so, and a packet that came after that and drains
the window has been counted. -/
structure Watched (w : Watch) (φ : Phase) (c : Channel) : Prop where
  stage : Stage φ c
  final : w.closed = true → rank φ c = 3
  counted : w.closed = true → w.late = 0 → ∀ d p, φ = .heard d p false → ∀ len, dataLenOf c p = some len →
    65536 < (c.charge len).localWindowSize

theorem Watched.audit {w : Watch} {φ φ' : Phase} {c c' : Channel} {new : List Sight} (watched : Watched w φ c)
    (move : Move (φ, c) new (φ', c')) : Audit Watch.enter Mindful w new := by
  have speech := move.speech watched.stage
  cases closed : w.closed with
  | false =>
      -- only a CLOSE that comes last can be followed by nothing
      have single : ∀ message, messages new = [message] →
          ∀ before p after, messages new = before ++ p :: after → p.head? = some 97 → after = [] := by
        intro message one before p after is _
        rw [one] at is
        have lengths := congrArg List.length is
        rw [List.length_append, List.length_singleton, List.length_cons] at lengths
        exact List.eq_nil_of_length_eq_zero (by omega)
      cases speech with
      | quiet _ silent => exact audit_silent silent
      | begins _ _ silent => exact audit_silent silent
      | opens message _ _ one => exact audit_talk closed (single message one)
      | talks message _ _ one => exact audit_talk closed (single message one)
      | credits message _ _ one => exact audit_talk closed (single message one)
      | closes message _ _ one => exact audit_talk closed (single message one)
      | leaves exit eof close _ _ part _ numbers =>
          refine audit_talk closed fun before p after is number => ?_
          obtain ⟨isExit, isEof, -⟩ := numbers
          have notExit : p ≠ exit := by
            rintro rfl
            simp [isExit] at number
          have notEof : p ≠ eof := by
            rintro rfl
            simp [isEof] at number
          rw [is] at part
          match before, part with
          | [], part => exact absurd ((List.cons_prefix_cons.1 part).1) notExit
          | [_], part => exact absurd (List.cons_prefix_cons.1 (List.cons_prefix_cons.1 part).2).1 notEof
          | _ :: _ :: more, part =>
              have short := part.length_le
              simp only [List.cons_append, List.length_cons, List.length_append, List.length_nil] at short
              exact List.eq_nil_of_length_eq_zero (by omega)
  | true =>
      have final := watched.final closed
      by_cases late : w.late = 0
      · cases speech with
        | quiet _ silent => exact audit_silent silent
        | begins _ _ silent => exact audit_silent silent
        | opens _ source | leaves _ _ _ source => omega
        | talks _ _ early | closes _ early => omega
        | credits message _ cause =>
            obtain ⟨d, p, len, here, is, little⟩ := cause.resolve_left (by omega)
            have enough := watched.counted closed late d p here len is
            omega
      · exact audit_late late

theorem Watched.step {w : Watch} {φ φ' : Phase} {c c' : Channel} {new : List Sight} (watched : Watched w φ c)
    (move : Move (φ, c) new (φ', c')) : Watched (new.foldl Watch.enter w) φ' c' := by
  have speech := move.speech watched.stage
  constructor
  · exact move.stage watched.stage
  · intro closed
    rw [watch_closed, Bool.or_eq_true] at closed
    have top := rank_le φ' c'
    rcases closed with closed | said
    · have final := watched.final closed
      cases speech <;> omega
    · obtain ⟨p, mem, number⟩ := List.any_eq_true.1 said
      have number := of_decide_eq_true number
      cases speech with
      | quiet _ silent => simp [silent] at mem
      | begins _ _ silent => simp [silent] at mem
      | closes _ _ target => exact target
      | leaves _ _ _ _ target => exact target
      | opens message _ _ one is | credits message _ _ one is =>
          rw [one, List.mem_singleton] at mem
          simp [mem, is] at number
      | talks message _ _ one is =>
          rw [one, List.mem_singleton] at mem
          simp [mem] at number
          simp [number] at is
  · rintro closed none d p rfl len is
    obtain ⟨rfl, rfl⟩ := move.into_heard
    by_contra little
    have closed : w.closed = true := by simpa [Watch.enter, Event.sending?] using closed
    have drain : drains (.received p, c', false) = true := tops_of is (Nat.not_lt.1 little)
    simp [Watch.enter, closed, drain] at none

/-- **Silence after CLOSE**, up to the first packet of data that drains the window. -/
theorem silent_after_close (noxtls : Noxtls) (env : Env) (setup : Setup) (inbox : List UInt8) (turns : Nat) :
    Each (fun before o => (watch before).late = 0 → Hushed (watch before) o)
      (sights (served noxtls env setup inbox turns).trace) := by
  obtain ⟨phase, path, -⟩ := served_path noxtls env setup inbox turns
  have start : Watched ⟨false, 0⟩ .handshake freshChannel := ⟨⟨rfl, rfl⟩, by simp, by simp⟩
  refine each_watch.2 (path.audit (K := fun w s => Watched w s.1 s.2) (Q := Mindful) start ?_).1
  intro w t new u watched move
  obtain ⟨φ, c⟩ := t
  obtain ⟨φ', c'⟩ := u
  exact ⟨Watched.audit watched move, Watched.step watched move⟩

/-- The client's packets are there when the server looks. -/
def Probe.prompt : Env := { Probe.brisk with poll := fun _ => .ready ⟨true, false, false⟩ ⟨false, false, false⟩ }

/-- One byte of data after the CLOSE was answered makes the server speak again. -/
theorem not_silent_after_close :
    ¬ Each (fun before o => Hushed (watch before) o)
      (sights (Probe.visit Probe.prompt 7 [Probe.openWith 5 1000, channelMessage 97 0, Probe.data [7]]).trace) := by
  rw [each_watch, Probe.visit_eq]
  decide +kernel

end NoxSsh.Server
