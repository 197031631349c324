/-
# Server.Ledger — the channel's accounts

A `Book` is what an observer notes down of a run: the window the client opened
with and the credit it gave since, the data that went out, what the child wrote
and took, the credit the server gave.  `Entry` is what holds of every observation
beside the book so far, `Accounts` what holds between two of them in each phase
of the channel machine; one case analysis of the moves proves both
(`Move.accounts`), and a run is a path of moves.

The results about the two windows, the data in both directions and the channel a
message names are read off an entry.
-/
import NoxSsh.Server.Channels
import NoxSsh.Server.Prelogin

namespace NoxSsh.Server

open Theory Proc Wire Transport

set_option autoImplicit false

/-! ## The book -/

/-- A CHANNEL_DATA that brings the window to where the server tops it up. -/
def tops (c : Channel) (payload : List UInt8) : Bool :=
  (dataLenOf c payload).any fun len => (c.charge len).localWindowSize ≤ 65536

/-- The data in a CHANNEL_DATA message: what follows number, channel and length. -/
def messageData (payload : List UInt8) : List UInt8 := payload.drop 9

/-- The channel a channel message names. -/
def recipientOf (payload : List UInt8) : Option Nat :=
  (payloadReadU32 (contents payload) payload.length 1).map Prod.fst

structure Book where
  /-- The packet received last. -/
  heard : Option (List UInt8)
  /-- The CHANNEL_OPEN that was confirmed. -/
  request : Option OpenRequest
  /-- The client's credit for the open channel, before the session and in it. -/
  lost : Nat
  credited : Nat
  /-- How much data was handed to the transport. -/
  charged : Nat
  /-- What was read from the child, what of it was sent, and the piece in between. -/
  read : List UInt8
  forwarded : List UInt8
  inHand : List UInt8
  /-- How many bytes the child took. -/
  fed : Nat
  /-- How often the server credited the open channel, and the packets that made it due. -/
  grants : Nat
  tops : Nat
  reaped : Option WaitStatus

namespace Book

def empty : Book := ⟨none, none, 0, 0, 0, [], [], [], 0, 0, 0, none⟩

def hear (c : Channel) (payload : List UInt8) (b : Book) : Book :=
  { b with
    heard := some payload
    lost := if c.channelOpen && !c.sessionStarted then b.lost + creditOf c payload else b.lost
    credited := if c.channelOpen && c.sessionStarted then b.credited + creditOf c payload else b.credited
    tops := if b.request.isSome && Server.tops c payload then b.tops + 1 else b.tops }

def grant (c : Channel) (b : Book) : Book := if c.channelOpen then { b with grants := b.grants + 1 } else b

def speak (c : Channel) (payload : List UInt8) (b : Book) : Book :=
  match payload.head? with
  | some 91 => { b with request := b.heard.bind openRequestOf }
  | some 93 => b.grant c
  | some 94 => { b with charged := b.charged + (messageData payload).length }
  | _ => b

def deliver (payload : List UInt8) (b : Book) : Book :=
  if payload.head? = some 94 then { b with forwarded := b.forwarded ++ messageData payload, inHand := [] } else b

def enter (b : Book) (o : Sight) : Book :=
  match o.1 with
  | .received payload => b.hear o.2.1 payload
  | .sending payload => b.speak o.2.1 payload
  | .sent payload => b.deliver payload
  | .childOutput bytes => { b with read := b.read ++ bytes, inHand := bytes }
  | .childInput bytes => { b with fed := b.fed + bytes.length }
  | .childReaped status => { b with reaped := some status }
  | _ => b

end Book

/-- The notes on a run. -/
def book (seen : List Sight) : Book := seen.foldl Book.enter Book.empty

/-! ## What holds -/

/-- The server is about to wait, or has just received a packet. -/
def atLoop : Event → Bool
  | .serving _ => true
  | .received _ => true
  | .sessionGoesOn => true
  | _ => false

/-- Flow control, at an observation `o` beside the book on what went before it. -/
structure Flow (b : Book) (o : Sight) : Prop where
  /-- What was sent is what was read, but for a piece that is sent next. -/
  lossless : b.read = b.forwarded ++ b.inHand
  inHand : b.inHand ≠ [] → o.1 = .sending (dataMessage o.2.1.remoteChannelId b.inHand) ∨
    o.1 = .sent (dataMessage o.2.1.remoteChannelId b.inHand)
  data : ∀ p ∈ o.1.sending?, p.head? = some 94 → p = dataMessage o.2.1.remoteChannelId b.inHand ∧
    ∀ req ∈ b.request, b.inHand.length ≤ req.maxPacket
  total : ∀ req ∈ b.request, b.forwarded.length ≤ req.window + b.credited
  /-- The client's window, in natural numbers. -/
  ledger : o.2.1.channelOpen = true →
    ∀ req ∈ b.request, o.2.1.remoteWindowSize + (b.enter o).charged = req.window + b.credited
  remoteWindow : o.2.1.remoteWindowSize < 4294967296
  /-- The server's window. -/
  fed : b.fed ≤ 65536 + 262144 * b.grants
  covered : o.2.1.channelOpen = true → atLoop o.1 = true →
    b.fed + o.2.1.localWindowSize ≤ 65536 + 262144 * b.grants
  localWindow : o.2.1.localWindowSize ≤ 327680

structure Entry (b : Book) (o : Sight) : Prop extends Flow b o where
  opened : o.2.1.channelOpen = true → b.request ≠ none
  addressed : ∀ req ∈ b.request, ∀ p ∈ o.1.sending?, onChannel p = true →
    recipientOf p = some (if p.head? = some 93 then 0 else req.sender)
  topUp : b.request ≠ none → ∀ p ∈ o.1.sending?, p.head? = some 93 → b.tops ≠ 0
  /-- The exit status comes when all output was sent and the child is gone. -/
  exit : ∀ p ∈ o.1.sending?, p.head? = some 98 → b.inHand = [] ∧ b.reaped ≠ none

/-- What holds of the book and the channel between two moves, in every phase. -/
structure Sound (b : Book) (c : Channel) : Prop where
  own : c.localChannelId = 0
  localWindow : c.localWindowSize ≤ 327680
  remoteWindow : c.remoteWindowSize < 4294967296
  blank : b.request = none → b = { Book.empty with heard := b.heard }
  opened : c.channelOpen = true → b.request ≠ none
  peer : ∀ req ∈ b.request, req.sender < 4294967296 ∧ c.remoteChannelId = req.sender ∧
    c.remoteMaxPacketSize = req.maxPacket ∧ 128 ≤ req.maxPacket
  lossless : b.read = b.forwarded ++ b.inHand
  charged : b.charged = b.read.length
  total : ∀ req ∈ b.request, b.charged ≤ req.window + b.credited
  fed : b.fed ≤ 65536 + 262144 * b.grants
  unreaped : c.sessionStarted = false → b.reaped = none

/-- The client's window accounts for all credit but `slack`. -/
def Level (b : Book) (c : Channel) (slack : Nat) : Prop :=
  c.channelOpen = true → ∀ req ∈ b.request, c.remoteWindowSize + b.charged + slack = req.window + b.credited

/-- The server's window is credit that was not used. -/
def Covered (b : Book) (c : Channel) : Prop :=
  c.channelOpen = true → b.fed + c.localWindowSize ≤ 65536 + 262144 * b.grants

def Settled (b : Book) (c : Channel) : Prop := b.inHand = [] ∧ Level b c 0 ∧ Covered b c

/-- No channel was opened yet. -/
def Unopened (d : Nat) (b : Book) (c : Channel) : Prop := d = 0 → c.channelOpen = false → b.request = none

def Accounts (b : Book) : Phase → Channel → Prop
  | .handshake, c => Settled b c ∧ b.request = none
  | .serve d, c => Settled b c ∧ Unopened d b c
  | .turn d, c => Settled b c ∧ Unopened d b c
  | .heard d p _, c => Settled b c ∧ Unopened d b c ∧ b.heard = some p ∧
      (b.request ≠ none → tops c p = true → b.tops ≠ 0)
  | .granted _, c => Settled b c
  | .session _ child, c => Settled b c ∧ child.reaped = b.reaped
  | .told _ child p, c => (b.inHand = [] ∧ Level b c (creditOf c p) ∧ Covered b c) ∧
      child.reaped = b.reaped ∧ (tops c p = true → b.tops ≠ 0)
  | .fed _ child, c => Settled b c ∧ child.reaped = b.reaped ∧ (c.localWindowSize ≤ 65536 → b.tops ≠ 0)
  | .content _ child, c => Settled b c ∧ child.reaped = b.reaped
  | .broken, _ => True
  | .leaving _, _ => b.inHand = []
  | .ending _, _ => b.inHand = []
  | .over failed, c => (failed = false → b.inHand = []) ∧ Level b c 0

/-! ## Messages and the book -/

section Messages

variable {b : Book} {c : Channel} {payload data : List UInt8} {all : Bool} {seen : List Sight}

theorem messageData_dataMessage (id : Nat) (data : List UInt8) : messageData (dataMessage id data) = data := by
  have number : dataMessage id data = (94 :: (be32 id ++ be32 data.length)) ++ data := by
    simp [dataMessage, sshString]
  have length : (94 :: (be32 id ++ be32 data.length)).length = 9 := by simp
  rw [messageData, number, ← length, List.drop_left]

theorem recipientOf_message (number : UInt8) {id : Nat} (small : id < 4294967296) (more : List UInt8) :
    recipientOf (number :: (be32 id ++ more)) = some id := by
  have written : number :: (be32 id ++ more) = [number] ++ be32 id ++ more := by simp
  have long : 5 ≤ (number :: (be32 id ++ more)).length := by
    simp only [List.length_cons, List.length_append, length_be32]
    omega
  have found : slice (contents (number :: (be32 id ++ more))) 1 4 = be32 id := by
    rw [contents, written]
    exact slice_memOf_append [number] (be32 id) more _
  rw [recipientOf, payloadReadU32, wrap32_of_lt (by decide), if_neg (by omega), found, beNat_be32,
    Nat.mod_eq_of_lt small]
  rfl

theorem recipientOf_channelMessage (number : UInt8) {id : Nat} (small : id < 4294967296) :
    recipientOf (channelMessage number id) = some id := by
  have is := recipientOf_message number small []
  rwa [List.append_nil] at is

theorem recipientOf_exitStatus {id : Nat} (small : id < 4294967296) (status : Nat) :
    recipientOf (exitStatusMessage id status) = some id := by
  rw [exitStatusMessage, List.append_assoc, List.append_assoc]
  exact recipientOf_message 98 small _

/-! ### Writing into the book -/

theorem speak_other (notOpen : payload.head? ≠ some 91) (notCredit : payload.head? ≠ some 93)
    (notData : payload.head? ≠ some 94) : b.speak c payload = b := by
  rw [Book.speak]
  split
  · rename_i is
    exact absurd is notOpen
  · rename_i is
    exact absurd is notCredit
  · rename_i is
    exact absurd is notData
  · rfl

theorem deliver_other (notData : payload.head? ≠ some 94) : b.deliver payload = b := if_neg notData

theorem deliver_data (id : Nat) (data : List UInt8) :
    b.deliver (dataMessage id data) = { b with forwarded := b.forwarded ++ data, inHand := [] } := by
  have number : (dataMessage id data).head? = some 94 := rfl
  rw [Book.deliver, if_pos number, messageData_dataMessage]

theorem speak_data (id : Nat) (data : List UInt8) :
    b.speak c (dataMessage id data) = { b with charged := b.charged + data.length } := by
  rw [Book.speak]
  simp only [dataMessage, List.head?_cons]
  rw [← dataMessage, messageData_dataMessage]

theorem says_audit {Q : Book → Sight → Prop} (spoken : Says c payload all seen)
    (sending : ∀ due, Q b (.sending payload, c, due))
    (sent : ∀ due, Q (b.speak c payload) (.sent payload, c, due)) : Audit Book.enter Q b seen := by
  cases spoken with
  | failed due => exact ⟨sending due, trivial⟩
  | sent due due' => exact ⟨sending due, sent due', trivial⟩

theorem says_book (spoken : Says c payload all seen) :
    seen.foldl Book.enter b = if all then (b.speak c payload).deliver payload else b.speak c payload := by
  cases spoken <;> rfl

/-- A message the book does not ask about. -/
theorem says_book_other (spoken : Says c payload all seen) (notOpen : payload.head? ≠ some 91)
    (notCredit : payload.head? ≠ some 93) (notData : payload.head? ≠ some 94) :
    seen.foldl Book.enter b = b := by
  rw [says_book spoken, speak_other notOpen notCredit notData, deliver_other notData, ite_self]

theorem feeds_book (feeds : Feeds c data seen) :
    seen.foldl Book.enter b = { b with fed := b.fed + data.length } := by
  induction feeds generalizing b with
  | nil => rfl
  | @cons bytes more seen due feeds ih =>
      rw [List.foldl_cons, ih, List.length_append, ← Nat.add_assoc]
      rfl

end Messages

/-! ## Between moves -/

section Accounts

variable {b : Book} {c : Channel} {p payload data : List UInt8} {all : Bool} {seen : List Sight}

theorem Sound.setOpen (sound : Sound b c) : Sound b (c.setOpen false) :=
  { sound with opened := fun isOpen => absurd isOpen (by simp [Channel.setOpen]) }

theorem Sound.opens (sound : Sound b c) (some : b.request ≠ none) : Sound b (c.setOpen true) :=
  { sound with opened := fun _ => some }

theorem Sound.started (sound : Sound b c) : Sound b c.started :=
  { sound with unreaped := fun never => by cases never }

theorem Sound.setLocal (sound : Sound b c) {n : Nat} (small : n ≤ 327680) : Sound b (c.setLocal n) :=
  { sound with localWindow := small }

theorem Sound.setRemote (sound : Sound b c) {n : Nat} (small : n < 4294967296) : Sound b (c.setRemote n) :=
  { sound with remoteWindow := small }

theorem Sound.charge (sound : Sound b c) (len : Nat) : Sound b (c.charge len) := by
  rw [Channel.charge]
  split
  · have small := sound.localWindow
    exact sound.setLocal (by omega)
  · exact sound

theorem Sound.topped (sound : Sound b c) (little : c.localWindowSize ≤ 65536) : Sound b c.topped :=
  sound.setLocal (by omega)

theorem Sound.hear (sound : Sound b c) (p : List UInt8) : Sound (b.hear c p) c where
  own := sound.own
  localWindow := sound.localWindow
  remoteWindow := sound.remoteWindow
  blank unopened := by
    have none : b.request = none := unopened
    have closed : c.channelOpen = false := by
      by_contra isOpen
      exact sound.opened (by simpa using isOpen) none
    rw [Book.hear, none, closed, sound.blank none]
    rfl
  opened := sound.opened
  peer := sound.peer
  lossless := sound.lossless
  charged := sound.charged
  total req is := by
    have before := sound.total req is
    simp only [Book.hear]
    split <;> omega
  fed := sound.fed
  unreaped := sound.unreaped

theorem Sound.feed (sound : Sound b c) {n : Nat} (fits : b.fed + n ≤ 65536 + 262144 * b.grants)
    (some : b.request ≠ none) : Sound { b with fed := b.fed + n } c :=
  { sound with blank := fun none => absurd none some, fed := fits }

theorem Sound.reap (sound : Sound b c) (some : b.request ≠ none) (started : c.sessionStarted = true)
    (status : WaitStatus) : Sound { b with reaped := Option.some status } c :=
  { sound with
    blank := fun none => absurd none some
    unreaped := fun never => by simp [started] at never }

theorem Sound.grant (sound : Sound b c) : Sound (b.grant c) c := by
  rw [Book.grant]
  split
  · rename_i isOpen
    have before := sound.fed
    exact { sound with
      blank := fun none => absurd none (sound.opened isOpen)
      fed := by simp only; omega }
  · exact sound

/-- The client opens its channel. -/
theorem Sound.confirm (sound : Sound b c) (unopened : b.request = none) {o : OpenRequest}
    (small : o.sender < 4294967296 ∧ o.window < 4294967296) (large : 128 ≤ o.maxPacket)
    (closed : c.channelOpen = false) : Sound { b with request := some o } (c.opened o) where
  own := rfl
  localWindow := by simp [Channel.opened]
  remoteWindow := small.2
  blank none := by cases none
  opened isOpen := by cases closed.symm.trans isOpen
  peer := by
    rintro _ ⟨⟩
    exact ⟨small.1, rfl, rfl, large⟩
  lossless := sound.lossless
  charged := sound.charged
  total := by
    rintro _ ⟨⟩
    rw [sound.blank unopened]
    exact Nat.zero_le _
  fed := sound.fed
  unreaped := sound.unreaped

/-- Data that was handed over is charged, delivered or not. -/
theorem Sound.forward (sound : Sound b c) (empty : b.inHand = []) (some : b.request ≠ none)
    (level : Level b c 0) (isOpen : c.channelOpen = true) (fits : data.length ≤ c.remoteWindowSize) :
    Sound { b with read := b.read ++ data, inHand := data, charged := b.charged + data.length }
      (c.setRemote (c.remoteWindowSize - data.length)) where
  own := sound.own
  localWindow := sound.localWindow
  remoteWindow := by
    have small := sound.remoteWindow
    simp only [Channel.setRemote]
    omega
  blank none := absurd none some
  opened := sound.opened
  peer := sound.peer
  lossless := by simp [sound.lossless, empty]
  charged := by simp [sound.charged]
  total req is := by
    have all := level isOpen req is
    simp only
    omega
  fed := sound.fed
  unreaped := sound.unreaped

theorem Sound.deliver (sound : Sound b c) (some : b.request ≠ none) :
    Sound { b with forwarded := b.forwarded ++ b.inHand, inHand := [] } c :=
  { sound with
    blank := fun none => absurd none some
    lossless := by simp [sound.lossless] }

theorem Settled.of_closed (empty : b.inHand = []) (closed : c.channelOpen = false) : Settled b c :=
  ⟨empty, fun isOpen => by simp [closed] at isOpen, fun isOpen => by simp [closed] at isOpen⟩

/-- What the readers can read out of a packet is small. -/
theorem openRequestOf_lt {o : OpenRequest} (is : openRequestOf p = some o) :
    o.sender < 4294967296 ∧ o.window < 4294967296 := by
  rw [openRequestOf] at is
  split at is
  swap
  · cases is
  rw [readOpenRequest] at is
  simp only [Option.bind_eq_bind, Option.bind_eq_some_iff] at is
  obtain ⟨⟨typ, off⟩, -, ⟨sender, off₁⟩, first, ⟨window, off₂⟩, second, ⟨maxPacket, off₃⟩, -, -, -, is⟩ := is
  obtain rfl := Option.some.inj is
  exact ⟨readU32_lt first, readU32_lt second⟩

/-! ### Entries -/

theorem enter_charged {e : Event} (silent : e.sending? = none) (due : Bool) :
    (b.enter (e, c, due)).charged = b.charged := by
  cases e with
  | sending p => simp [Event.sending?] at silent
  | sent p =>
      show (b.deliver p).charged = b.charged
      unfold Book.deliver
      split <;> rfl
  | _ => rfl

/-- Nothing is in hand, and the observation is not of a message going out. -/
theorem Sound.entry (sound : Sound b c) (empty : b.inHand = []) (level : Level b c 0) {e : Event}
    (silent : e.sending? = none) (covered : atLoop e = true → Covered b c) (due : Bool) : Entry b (e, c, due) where
  lossless := sound.lossless
  inHand some := absurd empty some
  data p is := by simp [silent] at is
  total req is := by
    have all := sound.total req is
    have charged := sound.charged
    rw [sound.lossless, List.length_append] at charged
    omega
  ledger isOpen req is := by
    rw [enter_charged silent]
    exact level isOpen req is
  remoteWindow := sound.remoteWindow
  fed := sound.fed
  covered isOpen loop := covered loop isOpen
  localWindow := sound.localWindow
  opened := sound.opened
  addressed req is p out := by simp [silent] at out
  topUp some p out := by simp [silent] at out
  exit p out := by simp [silent] at out

/-- A message that is neither a confirmation, nor credit, nor data, for the client's channel. -/
structure Plain (c : Channel) (payload : List UInt8) : Prop where
  notOpen : payload.head? ≠ some 91
  notCredit : payload.head? ≠ some 93
  notData : payload.head? ≠ some 94
  recipient : c.remoteChannelId < 4294967296 → recipientOf payload = some c.remoteChannelId

theorem plain_message (c : Channel) {number : UInt8} (notOpen : number ≠ 91) (notCredit : number ≠ 93)
    (notData : number ≠ 94) : Plain c (channelMessage number c.remoteChannelId) where
  notOpen is := notOpen (Option.some.inj is)
  notCredit is := notCredit (Option.some.inj is)
  notData is := notData (Option.some.inj is)
  recipient small := recipientOf_channelMessage number small

theorem plain_exitStatus (c : Channel) (status : Nat) : Plain c (exitStatusMessage c.remoteChannelId status) where
  notOpen is := absurd (Option.some.inj is) (by decide)
  notCredit is := absurd (Option.some.inj is) (by decide)
  notData is := absurd (Option.some.inj is) (by decide)
  recipient small := recipientOf_exitStatus small status

theorem Sound.plain (sound : Sound b c) (empty : b.inHand = []) (level : Level b c 0)
    (plain : Plain c payload) (reaped : payload.head? = some 98 → b.reaped ≠ none) (due : Bool) :
    Entry b (.sending payload, c, due) where
  lossless := sound.lossless
  inHand some := absurd empty some
  data p is number := by
    obtain rfl := Option.some.inj is
    exact absurd number plain.notData
  total req is := by
    have all := sound.total req is
    have charged := sound.charged
    rw [sound.lossless, List.length_append] at charged
    omega
  ledger isOpen req is := by
    have same : b.enter (.sending payload, c, due) = b := speak_other plain.notOpen plain.notCredit plain.notData
    rw [same]
    exact level isOpen req is
  remoteWindow := sound.remoteWindow
  fed := sound.fed
  covered _ loop := by cases loop
  localWindow := sound.localWindow
  opened := sound.opened
  addressed req is p out _ := by
    obtain rfl := Option.some.inj out
    obtain ⟨small, same, -⟩ := sound.peer req is
    rw [if_neg plain.notCredit, ← same]
    exact plain.recipient (by omega)
  topUp _ p out number := by
    obtain rfl := Option.some.inj out
    exact absurd number plain.notCredit
  exit p out number := by
    obtain rfl := Option.some.inj out
    exact ⟨empty, reaped number⟩

/-- Plain messages leave the book as it is. -/
theorem Sound.saysPlain (sound : Sound b c) (empty : b.inHand = []) (level : Level b c 0)
    (plain : Plain c payload) (reaped : payload.head? = some 98 → b.reaped ≠ none)
    (spoken : Says c payload all seen) :
    Audit Book.enter Entry b seen ∧ seen.foldl Book.enter b = b := by
  constructor
  · refine says_audit spoken (sound.plain empty level plain reaped) fun due => ?_
    rw [speak_other plain.notOpen plain.notCredit plain.notData]
    exact sound.entry empty level rfl (fun loop => by cases loop) due
  · exact says_book_other spoken plain.notOpen plain.notCredit plain.notData

theorem Sound.saysAllPlain (sound : Sound b c) (empty : b.inHand = []) (level : Level b c 0)
    {payloads : List (List UInt8)} (plain : ∀ payload ∈ payloads, Plain c payload) (reaped : b.reaped ≠ none)
    (spoken : SaysAll c payloads all seen) :
    Audit Book.enter Entry b seen ∧ seen.foldl Book.enter b = b := by
  induction spoken with
  | nil => exact ⟨trivial, rfl⟩
  | failed spoken => exact sound.saysPlain empty level (plain _ (by simp)) (fun _ => reaped) spoken
  | sent spoken _ ih =>
      obtain ⟨first, same⟩ := sound.saysPlain empty level (plain _ (by simp)) (fun _ => reaped) spoken
      obtain ⟨rest, same'⟩ := ih fun payload mem => plain payload (List.mem_cons_of_mem _ mem)
      rw [List.foldl_append, audit_append, same]
      exact ⟨⟨first, rest⟩, same'⟩

/-- Exit status, EOF and CLOSE. -/
theorem plain_farewell (c : Channel) (status : Nat) :
    ∀ payload ∈ [exitStatusMessage c.remoteChannelId status, channelMessage 96 c.remoteChannelId,
      channelMessage 97 c.remoteChannelId], Plain c payload := by
  intro payload mem
  simp only [List.mem_cons, List.not_mem_nil, or_false] at mem
  obtain rfl | rfl | rfl := mem
  · exact plain_exitStatus c status
  · exact plain_message c (by decide) (by decide) (by decide)
  · exact plain_message c (by decide) (by decide) (by decide)

/-- The confirmation notes down what the client opened with. -/
theorem Sound.saysConfirmation (sound : Sound b c) (unopened : b.request = none) (heard : b.heard = some p)
    {o : OpenRequest} (is : openRequestOf p = some o) (large : 128 ≤ o.maxPacket) (closed : c.channelOpen = false)
    (spoken : Says (c.opened o) (openConfirmation o.sender) all seen) :
    Audit Book.enter Entry b seen ∧ seen.foldl Book.enter b = { b with request := some o } := by
  have after := sound.confirm unopened (openRequestOf_lt is) large closed
  have empty : b.inHand = [] := by rw [sound.blank unopened]; rfl
  have spoke : b.speak (c.opened o) (openConfirmation o.sender) = { b with request := some o } := by
    show ({ b with request := b.heard.bind openRequestOf } : Book) = _
    rw [heard, Option.bind_some, is]
  have shut : ∀ slack, Level { b with request := some o } (c.opened o) slack :=
    fun _ isOpen => by cases closed.symm.trans isOpen
  constructor
  · refine says_audit spoken (fun due => ?_) fun due => ?_
    · have entry := after.entry empty (shut 0) (e := .childEot) rfl (fun loop => by cases loop) due
      exact {
        lossless := sound.lossless
        inHand := fun some => absurd empty some
        data := fun p out number => by
          obtain rfl := Option.some.inj out
          exact absurd (Option.some.inj number) (by decide)
        total := fun req some => by simp [unopened] at some
        ledger := fun isOpen => by cases closed.symm.trans isOpen
        remoteWindow := entry.remoteWindow
        fed := sound.fed
        covered := fun _ loop => by cases loop
        localWindow := entry.localWindow
        opened := fun isOpen => by cases closed.symm.trans isOpen
        addressed := fun req some => by simp [unopened] at some
        topUp := fun some => absurd unopened some
        exit := fun p out number => by
          obtain rfl := Option.some.inj out
          exact absurd (Option.some.inj number) (by decide) }
    · rw [spoke]
      exact after.entry empty (shut 0) rfl (fun loop => by cases loop) due
  · have other : (openConfirmation o.sender).head? ≠ some 94 := fun is => absurd (Option.some.inj is) (by decide)
    rw [says_book spoken, spoke, deliver_other other, ite_self]

/-- A WINDOW_ADJUST counts as credit given if the channel is open. -/
theorem Sound.saysTopUp (sound : Sound b c) (empty : b.inHand = []) (level : Level b c 0)
    (due : b.request ≠ none → b.tops ≠ 0) {id : Nat} (own : id = 0) (spoken : Says c (windowAdjust id) all seen) :
    Audit Book.enter Entry b seen ∧ seen.foldl Book.enter b = b.grant c := by
  have spoke : b.speak c (windowAdjust id) = b.grant c := rfl
  have kept : (b.grant c).inHand = [] ∧ Level (b.grant c) c 0 ∧ (b.grant c).charged = b.charged := by
    rw [Book.grant]
    split <;> exact ⟨empty, level, rfl⟩
  constructor
  · refine says_audit spoken (fun rekeyDue => ?_) fun rekeyDue => ?_
    · have entry := sound.entry empty level (e := .childEot) rfl (fun loop => by cases loop) rekeyDue
      refine { entry with
        inHand := fun some => absurd empty some
        data := fun p is number => ?_
        ledger := fun isOpen req is => ?_
        covered := fun _ loop => by cases loop
        addressed := fun req is p out _ => ?_
        topUp := fun some _ _ _ => due some
        exit := fun p out number => ?_ }
      · obtain rfl := Option.some.inj is
        exact absurd (Option.some.inj number) (by decide)
      · have same : (b.enter (.sending (windowAdjust id), c, rekeyDue)).charged = b.charged := kept.2.2
        rw [same]
        exact level isOpen req is
      · obtain rfl := Option.some.inj out
        have number : (windowAdjust id).head? = some 93 := rfl
        rw [if_pos number, own]
        exact recipientOf_message 93 (by decide) _
      · obtain rfl := Option.some.inj out
        exact absurd (Option.some.inj number) (by decide)
    · rw [spoke]
      exact sound.grant.entry kept.1 kept.2.1 rfl (fun loop => by cases loop) rekeyDue
  · have other : (windowAdjust id).head? ≠ some 94 := fun is => absurd (Option.some.inj is) (by decide)
    rw [says_book spoken, spoke, deliver_other other, ite_self]

/-- A piece of output: read, charged to the client's window, handed over and, if all went well, sent. -/
theorem Sound.saysData (sound : Sound b c) (empty : b.inHand = []) (level : Level b c 0)
    (isOpen : c.channelOpen = true) (fits : data.length ≤ c.remoteWindowSize)
    (chunk : c.remoteMaxPacketSize > 64 → data.length ≤ c.remoteMaxPacketSize - 64) (due : Bool)
    (spoken : Says (c.setRemote (c.remoteWindowSize - data.length)) (dataMessage c.remoteChannelId data) all seen) :
    Audit Book.enter Entry b ((.childOutput data, c, due) :: seen) ∧
      ((.childOutput data, c, due) :: seen).foldl Book.enter b =
        if all then { b with read := b.read ++ data, charged := b.charged + data.length,
                             forwarded := b.forwarded ++ data, inHand := [] }
        else { b with read := b.read ++ data, charged := b.charged + data.length, inHand := data } := by
  have opened := sound.opened isOpen
  have handed := sound.forward empty opened level isOpen fits
  obtain ⟨b₁, read⟩ : ∃ b₁ : Book, b₁ = { b with read := b.read ++ data, inHand := data } := ⟨_, rfl⟩
  have entered : b.enter (.childOutput data, c, due) = b₁ := read.symm
  have spoke : b₁.speak (c.setRemote (c.remoteWindowSize - data.length)) (dataMessage c.remoteChannelId data) =
      { b with read := b.read ++ data, inHand := data, charged := b.charged + data.length } := by
    rw [speak_data, read]
  have small := sound.remoteWindow
  have level' : ∀ req ∈ b.request, c.remoteWindowSize - data.length + (b.charged + data.length) =
      req.window + b.credited := by
    intro req is
    have all := level isOpen req is
    omega
  have total : ∀ req ∈ b.request, b.forwarded.length ≤ req.window + b.credited := by
    intro req is
    have all := sound.total req is
    have charged := sound.charged
    rw [sound.lossless, List.length_append] at charged
    omega
  constructor
  · refine ⟨sound.entry empty level rfl (fun loop => by cases loop) due, ?_⟩
    rw [entered]
    refine says_audit spoken (fun rekeyDue => ?_) fun rekeyDue => ?_
    · refine ⟨⟨?_, fun _ => ?_, fun p is number => ?_, ?_, fun _ req is => ?_, ?_, ?_,
        fun _ loop => (by cases loop), ?_⟩, fun _ => ?_, fun req is p out _ => ?_, fun _ p out number => ?_,
        fun p out number => ?_⟩
      · rw [read]
        simp [sound.lossless, empty]
      · rw [read]
        exact .inl rfl
      · obtain rfl := Option.some.inj is
        rw [read]
        refine ⟨rfl, fun req is => ?_⟩
        obtain ⟨-, -, size, large⟩ := sound.peer req is
        have cut := chunk (by omega)
        simp only
        omega
      · rw [read]
        exact total
      · have charged : (b₁.enter (.sending (dataMessage c.remoteChannelId data),
            c.setRemote (c.remoteWindowSize - data.length), rekeyDue)).charged = b.charged + data.length :=
          congrArg Book.charged spoke
        rw [charged]
        rw [read] at is ⊢
        exact level' req is
      · exact handed.remoteWindow
      · rw [read]
        exact sound.fed
      · exact sound.localWindow
      · rw [read]
        exact opened
      · obtain rfl := Option.some.inj out
        rw [read] at is
        obtain ⟨small, same, -⟩ := sound.peer req is
        have number : (dataMessage c.remoteChannelId data).head? = some 94 := rfl
        rw [number, if_neg (by decide), ← same]
        exact recipientOf_message 94 (by omega) _
      · obtain rfl := Option.some.inj out
        exact absurd (Option.some.inj number) (by decide)
      · obtain rfl := Option.some.inj out
        exact absurd (Option.some.inj number) (by decide)
    · rw [spoke]
      refine ⟨⟨handed.lossless, fun _ => .inr rfl, fun p out => (by cases out), total, fun _ req is => ?_,
        handed.remoteWindow, sound.fed, fun _ loop => (by cases loop), sound.localWindow⟩,
        fun _ => opened, fun _ _ p out => (by cases out), fun _ p out => (by cases out), fun p out => (by cases out)⟩
      rw [enter_charged rfl]
      exact level' req is
  · rw [List.foldl_cons, entered, says_book spoken, spoke]
    split
    · rw [deliver_data]
    · rfl

/-- What the child takes counts against the server's window. -/
theorem Sound.feeds (sound : Sound b c) (empty : b.inHand = []) (level : Level b c 0) (some : b.request ≠ none)
    (fits : b.fed + data.length ≤ 65536 + 262144 * b.grants) (feeds : Feeds c data seen) :
    Audit Book.enter Entry b seen := by
  induction feeds generalizing b with
  | nil => trivial
  | @cons bytes more seen due feeds ih =>
      rw [List.length_append] at fits
      refine ⟨sound.entry empty level rfl (fun loop => by cases loop) due, ?_⟩
      exact ih (b := { b with fed := b.fed + bytes.length }) (sound.feed (by omega) some) empty level some
        (by simp only; omega)

theorem dataOf_some (is : dataOf c p = some data) :
    p.head? = some 94 ∧ data.length ≤ c.localWindowSize ∧ dataLenOf c p = some data.length := by
  rw [dataOf] at is
  split at is
  swap
  · cases is
  rename_i number
  rw [dataLenOf, if_pos number]
  split at is
  · cases is
  rename_i id off first
  split at is
  · cases is
  rename_i view off second
  split at is
  · cases is
  rename_i fine
  simp only [not_or, not_not] at fine
  obtain ⟨names, -, small⟩ := fine
  have length : data.length = view.len := by
    rw [← Option.some.inj is, View.bytes, length_slice]
  refine ⟨number, by omega, ?_⟩
  rw [if_pos names, second, length]
  rfl

theorem creditOf_other (other : p.head? ≠ some 93) : creditOf c p = 0 := if_neg other

theorem tops_of {len : Nat} (is : dataLenOf c p = some len) (little : (c.charge len).localWindowSize ≤ 65536) :
    tops c p = true := by
  rw [tops, is]
  exact decide_eq_true little

theorem charge_fits {len : Nat} (fits : len ≤ c.localWindowSize) :
    c.charge len = c.setLocal (c.localWindowSize - len) := if_pos fits

theorem Level.charge (level : Level b c 0) (len : Nat) : Level b (c.charge len) 0 := by
  rw [Channel.charge]
  split <;> exact level

theorem Covered.charge (covered : Covered b c) (len : Nat) : Covered b (c.charge len) := by
  rw [Channel.charge]
  split
  · intro isOpen
    have before := covered isOpen
    simp only [Channel.setLocal]
    omega
  · exact covered

theorem Covered.topped (covered : Covered b c) : Covered (b.grant c.topped) c.topped := by
  intro isOpen
  have before := covered isOpen
  rw [Book.grant, if_pos isOpen]
  simp only [Channel.topped, Channel.setLocal]
  omega

theorem Settled.topped (settled : Settled b c) : Settled (b.grant c.topped) c.topped := by
  obtain ⟨empty, level, covered⟩ := settled
  refine ⟨?_, ?_, covered.topped⟩
  · rw [Book.grant]
    split <;> exact empty
  · rw [Book.grant]
    split <;> exact level

theorem hear_tops (some : b.request ≠ none) (is : tops c p = true) : (b.hear c p).tops ≠ 0 := by
  have counted : (b.request.isSome && tops c p) = true := by
    rw [is, Bool.and_true]
    exact Option.isSome_iff_ne_none.2 some
  simp only [Book.hear, if_pos counted]
  omega

/-- Credit that comes before the session is not in the ledger. -/
theorem Level.hear {slack : Nat} (level : Level b c slack) (unstarted : c.channelOpen = true → c.sessionStarted = false) :
    Level (b.hear c p) c slack := by
  intro isOpen req is
  have all := level isOpen req is
  have other : ¬ (c.channelOpen && c.sessionStarted) = true := by simp [unstarted isOpen]
  simp only [Book.hear, if_neg other]
  exact all

theorem Level.tell (level : Level b c 0) (started : c.sessionStarted = true) :
    Level (b.hear c p) c (creditOf c p) := by
  intro isOpen req is
  have all := level isOpen req is
  have counted : (c.channelOpen && c.sessionStarted) = true := by simp [isOpen, started]
  simp only [Book.hear, if_pos counted]
  omega

/-- Every move bears the audit and leaves the accounts in order. -/
theorem Move.accounts {φ φ' : Phase} {c' : Channel} {new : List Sight}
    (so : Sound b c ∧ Stage φ c ∧ Accounts b φ c) (move : Move (φ, c) new (φ', c')) :
    Audit Book.enter Entry b new ∧
      (Sound (new.foldl Book.enter b) c' ∧ Stage φ' c' ∧ Accounts (new.foldl Book.enter b) φ' c') := by
  obtain ⟨sound, stage, accounts⟩ := so
  have stage' := move.stage stage
  suffices rest : Audit Book.enter Entry b new ∧ Sound (new.foldl Book.enter b) c' ∧
      Accounts (new.foldl Book.enter b) φ' c' from ⟨rest.1, rest.2.1, stage', rest.2.2⟩
  cases move with
  | hello p due =>
      obtain ⟨⟨empty, level, covered⟩, none⟩ := accounts
      have closed := stage.1
      refine ⟨⟨sound.entry empty level rfl (fun _ => covered) due, trivial⟩, sound.hear p, Settled.of_closed empty closed, none⟩
  | shaken => exact ⟨trivial, sound, accounts.1, fun _ _ => accounts.2⟩
  | unshaken => exact ⟨trivial, sound, fun _ => accounts.1.1, accounts.1.2.1⟩
  | top d due =>
      obtain ⟨⟨empty, level, covered⟩, none⟩ := accounts
      exact ⟨⟨sound.entry empty level rfl (fun _ => covered) due, trivial⟩, sound, ⟨empty, level, covered⟩, none⟩
  | retry => exact ⟨trivial, sound, accounts⟩
  | leave d failed => exact ⟨trivial, sound, fun _ => accounts.1.1, accounts.1.2.1⟩
  | hear d p due =>
      obtain ⟨⟨empty, level, covered⟩, none⟩ := accounts
      have unstarted : c.channelOpen = true → c.sessionStarted = false := by
        intro isOpen
        by_contra started
        by_cases zero : d = 0
        · exact started (stage.1 zero)
        · simp [stage.2 zero] at isOpen
      exact ⟨⟨sound.entry empty level rfl (fun _ => covered) due, trivial⟩, sound.hear p, ⟨empty, level.hear unstarted, covered⟩, none,
        rfl, fun some is => hear_tops some is⟩
  | limit | drop => exact ⟨trivial, sound, fun _ => accounts.1.1, accounts.1.2.1⟩
  | pass => exact ⟨trivial, sound, accounts.1, accounts.2.1⟩
  | confirmOpen p o _ seen is large closed spoken =>
      obtain ⟨-, unopened, heard, -⟩ := accounts
      obtain ⟨audit, after⟩ := sound.saysConfirmation (unopened rfl closed) heard is large closed spoken
      rw [after]
      have opened := sound.confirm (unopened rfl closed) (openRequestOf_lt is) large closed
      have blank := sound.blank (unopened rfl closed)
      refine ⟨audit, opened.opens (by simp), ⟨?_, fun _ => ?_, fun _ => ?_⟩, fun _ isOpen => by cases isOpen⟩
      · rw [blank]
        rfl
      · rintro _ ⟨⟩
        rw [blank]
        rfl
      · rw [blank]
        simp [Book.empty, Channel.opened, Channel.setOpen]
  | unconfirmed p o _ seen is large closed spoken =>
      obtain ⟨-, unopened, heard, -⟩ := accounts
      obtain ⟨audit, after⟩ := sound.saysConfirmation (unopened rfl closed) heard is large closed spoken
      rw [after]
      exact ⟨audit, sound.confirm (unopened rfl closed) (openRequestOf_lt is) large closed,
        (fun never => by cases never), fun isOpen => by cases closed.symm.trans isOpen⟩
  | charged d p len _ is enough =>
      obtain ⟨⟨empty, level, covered⟩, none, -⟩ := accounts
      refine ⟨trivial, sound.charge len, ⟨empty, level.charge len, covered.charge len⟩, ?_⟩
      rw [Unopened, (charge_flags len c).1]
      exact none
  | toppedUp d p len _ all seen is little spoken =>
      obtain ⟨⟨empty, level, covered⟩, none, -, due⟩ := accounts
      have charged : Settled b (c.charge len) := ⟨empty, level.charge len, covered.charge len⟩
      have topped := (sound.charge len).topped little
      obtain ⟨audit, after⟩ := topped.saysTopUp empty charged.2.1 (fun some => due some (tops_of is little))
        sound.own spoken
      rw [after]
      refine ⟨audit, topped.grant, charged.topped, fun zero closed => ?_⟩
      have closed : (c.charge len).topped.channelOpen = false := closed
      rw [Book.grant, if_neg (by simp [closed])]
      exact none zero ((charge_flags len c).1.symm.trans closed)
  | refused d p _ all seen wants spoken =>
      obtain ⟨⟨empty, level, covered⟩, none, -⟩ := accounts
      obtain ⟨audit, same⟩ := sound.saysPlain empty level
        (plain_message c (by decide) (by decide) (by decide)) (fun is => absurd (Option.some.inj is) (by decide)) spoken
      rw [same]
      exact ⟨audit, sound, ⟨empty, level, covered⟩, none⟩
  | confirmed d p _ seen wants spoken =>
      obtain ⟨⟨empty, level, covered⟩, none, -⟩ := accounts
      obtain ⟨audit, same⟩ := sound.saysPlain empty level
        (plain_message c (by decide) (by decide) (by decide)) (fun is => absurd (Option.some.inj is) (by decide)) spoken
      rw [same]
      exact ⟨audit, sound, ⟨empty, level, covered⟩, none⟩
  | granted d p _ seen wants spoken =>
      obtain ⟨⟨empty, level, covered⟩, none, -⟩ := accounts
      obtain ⟨audit, same⟩ := sound.saysPlain empty level
        (plain_message c (by decide) (by decide) (by decide)) (fun is => absurd (Option.some.inj is) (by decide)) spoken
      rw [same]
      exact ⟨audit, sound, empty, level, covered⟩
  | unanswered d p _ seen wants spoken =>
      obtain ⟨⟨empty, level, covered⟩, none, -⟩ := accounts
      obtain ⟨audit, same⟩ := sound.saysPlain empty level
        (plain_message c (by decide) (by decide) (by decide)) (fun is => absurd (Option.some.inj is) (by decide)) spoken
      rw [same]
      exact ⟨audit, sound, fun _ => empty, level⟩
  | grantedSilently => exact ⟨trivial, sound, accounts.1⟩
  | answered d p _ seen is number isOpen spoken =>
      obtain ⟨⟨empty, level, -⟩, -⟩ := accounts
      obtain ⟨audit, same⟩ := sound.saysPlain empty level
        (plain_message c (by decide) (by decide) (by decide)) (fun is => absurd (Option.some.inj is) (by decide)) spoken
      rw [same]
      exact ⟨audit, sound.setOpen, empty⟩
  | unclosed d p _ seen is number isOpen spoken =>
      obtain ⟨⟨empty, level, -⟩, -⟩ := accounts
      obtain ⟨audit, same⟩ := sound.saysPlain empty level
        (plain_message c (by decide) (by decide) (by decide)) (fun is => absurd (Option.some.inj is) (by decide)) spoken
      rw [same]
      exact ⟨audit, sound, fun _ => empty, level⟩
  | closedAlready => exact ⟨trivial, sound, accounts.1.1⟩
  | start d command due =>
      obtain ⟨empty, level, covered⟩ := accounts
      exact ⟨⟨sound.entry empty level rfl (fun loop => by cases loop) due, trivial⟩, sound.started, ⟨empty, level, covered⟩,
        (sound.unreaped stage.2.2).symm⟩
  | unstarted => exact ⟨trivial, sound, fun _ => accounts.1, accounts.2.1⟩
  | unforked => exact ⟨trivial, sound, fun _ => accounts.1.1, accounts.1.2.1⟩
  | tell d child p due =>
      obtain ⟨⟨empty, level, covered⟩, reaped⟩ := accounts
      obtain ⟨-, isOpen, started⟩ := stage
      exact ⟨⟨sound.entry empty level rfl (fun _ => covered) due, trivial⟩, sound.hear p, ⟨empty, level.tell started, covered⟩, reaped,
        fun is => hear_tops (sound.opened isOpen) is⟩
  | ignore d child p _ other data credit =>
      obtain ⟨⟨empty, level, covered⟩, reaped, -⟩ := accounts
      rw [creditOf_other credit] at level
      exact ⟨trivial, sound, ⟨empty, level, covered⟩, reaped⟩
  | credit d child p _ number fits =>
      obtain ⟨⟨empty, level, covered⟩, reaped, -⟩ := accounts
      have small := sound.remoteWindow
      refine ⟨trivial, sound.setRemote (by omega), ⟨empty, fun isOpen req is => ?_, covered⟩, reaped⟩
      have all := level isOpen req is
      simp only [List.foldl_nil, Channel.setRemote]
      omega
  | feed d child p data _ seen is feeds =>
      obtain ⟨⟨empty, level, covered⟩, reaped, due⟩ := accounts
      obtain ⟨number, fits, length⟩ := dataOf_some is
      have some := sound.opened stage.2.1
      have room := covered stage.2.1
      have small := sound.localWindow
      rw [creditOf_other (by simp [number])] at level
      rw [feeds_book feeds]
      refine ⟨sound.feeds empty level some (by omega) feeds, (sound.feed (by omega) some).setLocal (by omega),
        ⟨empty, level, fun _ => ?_⟩, reaped, fun little => due (tops_of length ?_)⟩
      · simp only [Channel.setLocal]
        omega
      · rw [charge_fits fits]
        exact little
  | choke d child p taken left due _ seen is nonempty feeds =>
      obtain ⟨⟨empty, level, covered⟩, reaped, -⟩ := accounts
      obtain ⟨number, fits, length⟩ := dataOf_some is
      have some := sound.opened stage.2.1
      have room := covered stage.2.1
      rw [List.length_append] at fits
      rw [creditOf_other (by simp [number])] at level
      rw [List.foldl_append, audit_append, feeds_book feeds]
      have taken := sound.feed (n := taken.length) (by omega) some
      exact ⟨⟨sound.feeds empty level some (by omega) feeds, taken.entry empty level rfl (fun loop => by cases loop) due, trivial⟩, taken, trivial⟩
  | enough d child _ enough => exact ⟨trivial, sound, accounts.1, accounts.2.1⟩
  | topUp d child _ seen little spoken =>
      obtain ⟨settled, reaped, due⟩ := accounts
      have topped := sound.topped little
      obtain ⟨audit, after⟩ := topped.saysTopUp settled.1 settled.2.1 (fun _ => due little) sound.own spoken
      rw [after]
      refine ⟨audit, topped.grant, settled.topped, reaped.trans ?_⟩
      rw [Book.grant]
      split <;> rfl
  | noTopUp d child _ seen little spoken =>
      obtain ⟨settled, reaped, due⟩ := accounts
      have topped := sound.topped little
      obtain ⟨audit, after⟩ := topped.saysTopUp settled.1 settled.2.1 (fun _ => due little) sound.own spoken
      rw [after]
      exact ⟨audit, topped.grant, trivial⟩
  | eof d child p _ is number =>
      obtain ⟨⟨empty, level, covered⟩, reaped, -⟩ := accounts
      rw [creditOf_other (by simp [number])] at level
      exact ⟨trivial, sound, ⟨empty, level, covered⟩, reaped⟩
  | eot d child p due e _ is number written =>
      obtain ⟨⟨empty, level, covered⟩, reaped, -⟩ := accounts
      rw [creditOf_other (by simp [number])] at level
      rcases written with rfl | rfl
      · exact ⟨⟨sound.entry empty level rfl (fun loop => by cases loop) due, trivial⟩, sound, ⟨empty, level, covered⟩, reaped⟩
      · exact ⟨⟨sound.entry empty level rfl (fun loop => by cases loop) due, trivial⟩, sound, ⟨empty, level, covered⟩, reaped⟩
  | goOn d child due =>
      obtain ⟨⟨empty, level, covered⟩, reaped⟩ := accounts
      exact ⟨⟨sound.entry empty level rfl (fun _ => covered) due, trivial⟩, sound, ⟨empty, level, covered⟩, reaped⟩
  | peerClose d child p _ seen is number isOpen spoken =>
      obtain ⟨⟨empty, level, -⟩, -⟩ := accounts
      rw [creditOf_other (by simp [number])] at level
      obtain ⟨audit, same⟩ := sound.saysPlain empty level
        (plain_message c (by decide) (by decide) (by decide)) (fun is => absurd (Option.some.inj is) (by decide)) spoken
      rw [same]
      exact ⟨audit, sound.setOpen, empty⟩
  | peerCloseFails d child p _ seen is number isOpen spoken =>
      obtain ⟨⟨empty, level, -⟩, -⟩ := accounts
      rw [creditOf_other (by simp [number])] at level
      obtain ⟨audit, same⟩ := sound.saysPlain empty level
        (plain_message c (by decide) (by decide) (by decide)) (fun is => absurd (Option.some.inj is) (by decide)) spoken
      rw [same]
      exact ⟨audit, sound, trivial⟩
  | peerCloseAgain => exact ⟨trivial, sound, accounts.1.1⟩
  | reject | abort => exact ⟨trivial, sound, trivial⟩
  | output d child bytes due _ seen nonempty fits chunk spoken =>
      obtain ⟨⟨empty, level, covered⟩, reaped⟩ := accounts
      have isOpen := stage.2.1
      obtain ⟨audit, after⟩ := sound.saysData empty level isOpen fits chunk due spoken
      rw [after]
      refine ⟨audit, (sound.forward empty (sound.opened isOpen) level isOpen fits).deliver (sound.opened isOpen),
        ⟨rfl, fun _ req is => ?_, covered⟩, reaped⟩
      have all := level isOpen req is
      simp only [Channel.setRemote, if_true]
      omega
  | outputFails d child bytes due _ seen nonempty fits chunk spoken =>
      obtain ⟨⟨empty, level, covered⟩, reaped⟩ := accounts
      have isOpen := stage.2.1
      obtain ⟨audit, after⟩ := sound.saysData empty level isOpen fits chunk due spoken
      rw [after]
      exact ⟨audit, sound.forward empty (sound.opened isOpen) level isOpen fits, trivial⟩
  | outputEnds => exact ⟨trivial, sound, accounts⟩
  | reap d child status due _ alive =>
      obtain ⟨⟨empty, level, covered⟩, reaped⟩ := accounts
      exact ⟨⟨sound.entry empty level rfl (fun loop => by cases loop) due, trivial⟩, sound.reap (sound.opened stage.2.1) stage.2.2 status,
        ⟨empty, level, covered⟩, rfl⟩
  | complete d child status _ seen ended reaped spoken =>
      obtain ⟨⟨empty, level, covered⟩, noted⟩ := accounts
      have gone : b.reaped ≠ none := by simp [← noted, reaped]
      obtain ⟨audit, same⟩ := sound.saysAllPlain empty level (plain_farewell c _) gone spoken
      rw [same]
      exact ⟨audit, sound.setOpen, empty⟩
  | incomplete d child status _ seen ended reaped spoken =>
      obtain ⟨⟨empty, level, covered⟩, noted⟩ := accounts
      have gone : b.reaped ≠ none := by simp [← noted, reaped]
      obtain ⟨audit, same⟩ := sound.saysAllPlain empty level (plain_farewell c _) gone spoken
      rw [same]
      exact ⟨audit, sound, trivial⟩
  | shut => exact ⟨trivial, sound.setOpen, (fun bad => by cases bad), (fun isOpen => by cases isOpen)⟩
  | left => exact ⟨trivial, sound.setOpen, accounts⟩
  | wait d d' _ set =>
      exact ⟨trivial, sound, Settled.of_closed accounts stage, fun zero => absurd zero set⟩
  | unwaited => exact ⟨trivial, sound, fun _ => accounts, fun isOpen => by simp [show c.channelOpen = false from stage] at isOpen⟩

end Accounts

/-! ## A client that logs in -/

namespace Probe

/-- Everything arrives and leaves at once. -/
def brisk : Env := { calm with recv := fun _ => 65536, send := fun _ => 65536 }

/-- The server when it has answered `hello`. -/
def keyed : Server :=
  ((handshakeToEncrypted Sample.plain brisk).run
    ⟨setHandshakeDeadline 31000 setup.server, 1, hello, []⟩).2.self

/-- A signed public key request for user `ada`. -/
def signedRequest : List UInt8 :=
  let blob := sshString algEd25519 ++ sshString (zeros 32)
  let request := [50] ++ sshString (ascii "ada") ++ sshString (ascii "ssh-connection") ++
    sshString (ascii "publickey") ++ [1] ++ sshString algEd25519 ++ sshString blob
  let sig := Sample.sign (zeros 32) (be32 32 ++ keyed.sessionId ++ request)
  request ++ sshString (sshString algEd25519 ++ sshString sig)

def login : List (List UInt8) :=
  [[5] ++ sshString (ascii "ssh-userauth"), signedRequest, [5] ++ sshString (ascii "ssh-connection")]

/-- What the client sends: `hello`, its login and these packets. -/
def stream (payloads : List (List UInt8)) : List UInt8 :=
  hello ++ sealAll Sample.plain (recvSide.lane keyed) (login ++ payloads)

def visit (env : Env) (turns : Nat) (payloads : List (List UInt8)) : Host Server :=
  served Sample.plain env setup (stream payloads) turns

def openWith (sender window : Nat) : List UInt8 :=
  [90] ++ sshString (ascii "session") ++ be32 sender ++ be32 window ++ be32 32768

def data (bytes : List UInt8) : List UInt8 := [94] ++ be32 0 ++ sshString bytes

def credit (amount : Nat) : List UInt8 := [93] ++ be32 0 ++ be32 amount

/-- The session identifier that comes out of `hello`. -/
def identifier : List UInt8 :=
  [158, 79, 223, 39, 134, 111, 205, 147, 245, 67, 107, 183, 189, 230, 44, 73, 9, 122, 62, 161, 68, 53, 40, 219, 26, 222, 81,
    115, 58, 22, 186, 36]

/-- The request of `ada`, signed for this session identifier. -/
def signedFor (sessionId : List UInt8) : List UInt8 :=
  let blob := sshString algEd25519 ++ sshString (zeros 32)
  let request := [50] ++ sshString (ascii "ada") ++ sshString (ascii "ssh-connection") ++
    sshString (ascii "publickey") ++ [1] ++ sshString algEd25519 ++ sshString blob
  request ++ sshString (sshString algEd25519 ++ sshString (Sample.sign (zeros 32) (be32 32 ++ sessionId ++ request)))

theorem keyed_exchanged : recvSide.lane keyed = exchanged ∧ keyed.sessionId = identifier := by
  rw [keyed, hello_eq]
  decide +kernel

/-- The bytes of the login. -/
def loginBytes : List UInt8 :=
  [0, 0, 0, 28, 10, 5, 0, 0, 0, 12, 115, 115, 104, 45, 117, 115, 101, 114, 97, 117, 116, 104, 0, 0, 0, 0, 0, 0, 0, 0,
   0, 0, 83, 169, 198, 84, 221, 227, 194, 42, 151, 238, 77, 113, 26, 97, 244, 149, 140, 75, 139, 119, 64, 38, 203,
   184, 146, 13, 221, 48, 73, 250, 209, 202, 0, 0, 0, 204, 6, 50, 0, 0, 0, 3, 97, 100, 97, 0, 0, 0, 14, 115, 115, 104,
   45, 99, 111, 110, 110, 101, 99, 116, 105, 111, 110, 0, 0, 0, 9, 112, 117, 98, 108, 105, 99, 107, 101, 121, 1, 0, 0,
   0, 11, 115, 115, 104, 45, 101, 100, 50, 53, 53, 49, 57, 0, 0, 0, 51, 0, 0, 0, 11, 115, 115, 104, 45, 101, 100, 50,
   53, 53, 49, 57, 0, 0, 0, 32, 0, 0, 0, 0, 0, 0, 0, 0, 0, 0, 0, 0, 0, 0, 0, 0, 0, 0, 0, 0, 0, 0, 0, 0, 0, 0, 0, 0, 0,
   0, 0, 0, 0, 0, 0, 83, 0, 0, 0, 11, 115, 115, 104, 45, 101, 100, 50, 53, 53, 49, 57, 0, 0, 0, 64, 24, 12, 93, 6,
   107, 174, 149, 3, 31, 53, 72, 87, 159, 74, 121, 1, 31, 143, 14, 154, 49, 164, 134, 171, 175, 79, 95, 37, 18, 188,
   9, 128, 230, 115, 247, 185, 46, 123, 69, 92, 253, 23, 114, 61, 57, 162, 100, 174, 239, 126, 241, 139, 108, 57, 32,
   30, 111, 28, 169, 209, 78, 178, 65, 215, 0, 0, 0, 0, 0, 0, 99, 177, 203, 216, 173, 229, 160, 108, 238, 86, 218,
   242, 47, 208, 143, 54, 171, 247, 126, 43, 138, 109, 37, 121, 239, 151, 164, 104, 82, 199, 135, 155, 0, 0, 0, 28, 8,
   5, 0, 0, 0, 14, 115, 115, 104, 45, 99, 111, 110, 110, 101, 99, 116, 105, 111, 110, 0, 0, 0, 0, 0, 0, 0, 0, 83, 41,
   27, 20, 170, 13, 158, 138, 179, 213, 170, 6, 104, 79, 56, 197, 155, 89, 58, 106, 223, 213, 126, 131, 34, 180, 145,
   39, 73, 156, 35, 226]

/-- The lane in which the client goes on after it. -/
def admitted : Lane :=
  { exchanged with counter := [253, 254, 255, 127, 255, 255, 36, 191, 85, 255, 69, 127, 98, 146, 255, 112], seq := 6 }

theorem login_eq : login = [[5] ++ sshString (ascii "ssh-userauth"), signedFor identifier,
    [5] ++ sshString (ascii "ssh-connection")] := by
  have signed : signedRequest = signedFor identifier := by rw [← keyed_exchanged.2]; rfl
  rw [login, signed]

theorem login_sealed : sealAll Sample.plain exchanged login = loginBytes ∧ exchanged.afterAll login = admitted := by
  rw [login_eq]
  decide +kernel

/-- `stream` with all that comes before `payloads` written out, so that a run on it
computes none of it. -/
def streamed (payloads : List (List UInt8)) : List UInt8 :=
  helloBytes ++ (loginBytes ++ sealAll Sample.plain admitted payloads)

theorem stream_eq (payloads : List (List UInt8)) : stream payloads = streamed payloads := by
  rw [stream, keyed_exchanged.1, sealAll_append, login_sealed.1, login_sealed.2, hello_eq, streamed]

theorem visit_eq (env : Env) (turns : Nat) (payloads : List (List UInt8)) :
    visit env turns payloads = served Sample.plain env setup (streamed payloads) turns := by
  rw [visit, stream_eq]

end Probe

/-! ## Runs -/

theorem each_book {Q : Book → Sight → Prop} {seen : List Sight} :
    Each (fun before o => Q (book before) o) seen ↔ Audit Book.enter Q Book.empty seen :=
  audit_iff_each.symm

/-- Where a run can stop, the client's window is in order. -/
theorem Accounts.level {b : Book} {phase : Phase} {c : Channel} {o : Outcome NetnoxReturn Unit} {h : Host Server}
    (accounts : Accounts b phase c) (ended : Ended o phase h) : Level b c 0 := by
  cases o with
  | ok _ =>
      obtain rfl : phase = .over false := ended
      exact accounts.2
  | err e =>
      obtain rfl : phase = .over true := ended
      exact accounts.2
  | stuck =>
      cases phase with
      | handshake | serve d | turn d | session d child => exact accounts.1.2.1
      | _ => exact absurd ended id

/-- A channel message names the channel the client opened. -/
def NamesClient (b : Book) (o : Sight) : Prop :=
  ∀ req ∈ b.request, ∀ p ∈ o.1.sending?, onChannel p = true → recipientOf p = some req.sender

instance (b : Book) (o : Sight) : Decidable (NamesClient b o) :=
  inferInstanceAs (Decidable (∀ req ∈ b.request, ∀ p ∈ o.1.sending?, onChannel p = true →
    recipientOf p = some req.sender))

/-- While the channel is open the client's window is what it opened with and all its
credit in `b`, less the data charged in `b'`. -/
def CountsCredit (b b' : Book) (c : Channel) : Prop :=
  c.channelOpen = true → ∀ req ∈ b.request,
    c.remoteWindowSize + b'.charged = req.window + (b.lost + b.credited) ∧ c.remoteWindowSize < 4294967296

instance (b b' : Book) (c : Channel) : Decidable (CountsCredit b b' c) :=
  inferInstanceAs (Decidable (c.channelOpen = true → ∀ req ∈ b.request,
    c.remoteWindowSize + b'.charged = req.window + (b.lost + b.credited) ∧ c.remoteWindowSize < 4294967296))

/-- At the end of a run what was read was sent, but for a piece whose sending failed. -/
def InHand (b : Book) (o : Outcome NetnoxReturn Unit) : Prop :=
  b.read = b.forwarded ++ b.inHand ∧ (b.inHand ≠ [] → ∃ e, o = .err e)

section Runs

variable (noxtls : Noxtls) (env : Env) (setup : Setup) (inbox : List UInt8) (turns : Nat)

/-- A run is audited, and its books are in order where it stops. -/
theorem served_accounts :
    let run := served noxtls env setup inbox turns
    Each (fun before o => Entry (book before) o) (sights run.trace) ∧
      ∃ phase, (Sound (book (sights run.trace)) (channel run.self) ∧ Stage phase (channel run.self) ∧
          Accounts (book (sights run.trace)) phase (channel run.self)) ∧
        Ended (serveOutcome noxtls env setup inbox turns) phase run := by
  obtain ⟨phase, path, ended⟩ := served_path noxtls env setup inbox turns
  have start : Sound Book.empty freshChannel ∧ Stage .handshake freshChannel ∧
      Accounts Book.empty .handshake freshChannel := by
    refine ⟨?_, ⟨rfl, rfl⟩, Settled.of_closed rfl rfl, rfl⟩
    constructor <;> simp [Book.empty, freshChannel]
  have audited := path.audit (K := fun b s => Sound b s.2 ∧ Stage s.1 s.2 ∧ Accounts b s.1 s.2) (Q := Entry) start
    fun so move => move.accounts so
  exact ⟨audit_iff_each.1 audited.1, phase, audited.2, ended⟩

/-- **Flow control.**  Beside every observation of a run: what went out in
CHANNEL_DATA is what was read from the child, in order and whole, but for the piece
that is about to be sent; it fits the window the client opened with and the credit it
gave in the session, piece by piece within its packets; the child took no more than
the server granted; and both windows are exact.  A piece stays unsent only if the
run ends with its failure. -/
theorem flow_control :
    Each (fun before o => Flow (book before) o) (sights (served noxtls env setup inbox turns).trace) ∧
      InHand (book (sights (served noxtls env setup inbox turns).trace)) (serveOutcome noxtls env setup inbox turns) ∧
      (served noxtls env setup inbox turns).self.remoteWindowSize < 4294967296 ∧
      (served noxtls env setup inbox turns).self.localWindowSize ≤ 327680 := by
  obtain ⟨each, phase, ⟨sound, -, accounts⟩, ended⟩ := served_accounts noxtls env setup inbox turns
  refine ⟨each.mono fun _ _ entry => entry.toFlow, ⟨sound.lossless, fun some => ?_⟩, sound.remoteWindow,
    sound.localWindow⟩
  cases outcome : serveOutcome noxtls env setup inbox turns with
  | err e => exact ⟨e, rfl⟩
  | ok _ =>
      rw [outcome] at ended
      obtain rfl : phase = .over false := ended
      exact absurd (accounts.1 rfl) some
  | stuck =>
      rw [outcome] at ended
      cases phase with
      | handshake | serve d | turn d => exact absurd accounts.1.1 some
      | session d child => exact absurd accounts.1.1 some
      | _ => exact absurd ended id

/-- **Who messages are for.**  Up to the first packet of data that makes the server
top its window up, and for ever if the client's channel is number 0, every channel
message names the client's channel. -/
theorem channel_messages_addressed :
    Each (fun before o => (book before).tops = 0 ∨ (book before).request.map OpenRequest.sender = some 0 →
        NamesClient (book before) o)
      (sights (served noxtls env setup inbox turns).trace) := by
  refine (served_accounts noxtls env setup inbox turns).1.mono fun before o entry => ?_
  intro fine req is p out on
  rw [entry.addressed req is p out on]
  by_cases credit : p.head? = some 93
  · have due := entry.topUp (by rw [Option.mem_def.1 is]; simp) p out credit
    have zero := fine.resolve_left due
    rw [Option.mem_def.1 is] at zero
    rw [if_pos credit, ← Option.some.inj zero]
  · rw [if_neg credit]

/-- One byte of data makes the server credit channel 0, which is not the client's 5. -/
theorem channel_messages_not_addressed :
    ¬ Each (fun before o => NamesClient (book before) o)
      (sights (Probe.visit Probe.brisk 6 [Probe.openWith 5 1000, Probe.data [7]]).trace) := by
  rw [each_book, Probe.visit_eq]
  decide +kernel

/-- The ledger says how much is missing from the window. -/
theorem countsCredit_iff {b b' : Book} {c : Channel} (opened : c.channelOpen = true → b.request ≠ none)
    (small : c.remoteWindowSize < 4294967296)
    (ledger : c.channelOpen = true → ∀ req ∈ b.request, c.remoteWindowSize + b'.charged = req.window + b.credited) :
    CountsCredit b b' c ↔ (c.channelOpen = true → b.lost = 0) := by
  constructor
  · intro counts isOpen
    obtain ⟨req, is⟩ := Option.ne_none_iff_exists'.1 (opened isOpen)
    have counted := (counts isOpen req is).1
    have all := ledger isOpen req is
    omega
  · intro none isOpen req is
    have all := ledger isOpen req is
    have nothing := none isOpen
    exact ⟨by omega, small⟩

/-- **Which credit counts.**  While the channel is open the client's window is what it
opened with and the credit it gave, less the data that went out, exactly as long as it
gave no credit before the session. -/
theorem credit_counts_in_session :
    Each (fun before o => CountsCredit (book before) ((book before).enter o) o.2.1 ↔
        (o.2.1.channelOpen = true → (book before).lost = 0)) (sights (served noxtls env setup inbox turns).trace) ∧
      (CountsCredit (book (sights (served noxtls env setup inbox turns).trace))
          (book (sights (served noxtls env setup inbox turns).trace))
          (channel (served noxtls env setup inbox turns).self) ↔
        ((channel (served noxtls env setup inbox turns).self).channelOpen = true →
          (book (sights (served noxtls env setup inbox turns).trace)).lost = 0)) := by
  obtain ⟨each, phase, ⟨sound, stage, accounts⟩, ended⟩ := served_accounts noxtls env setup inbox turns
  constructor
  · exact each.mono fun before o entry => countsCredit_iff entry.opened entry.remoteWindow entry.ledger
  · exact countsCredit_iff sound.opened sound.remoteWindow (accounts.level ended)

/-- Credit that comes before the session is not in the window. -/
theorem early_credit_not_counted :
    ¬ Each (fun before o => CountsCredit (book before) ((book before).enter o) o.2.1)
      (sights (Probe.visit Probe.brisk 6 [Probe.openWith 5 1000, Probe.credit 500]).trace) := by
  rw [each_book (Q := fun b o => CountsCredit b (b.enter o) o.2.1), Probe.visit_eq]
  decide +kernel

end Runs

end NoxSsh.Server
