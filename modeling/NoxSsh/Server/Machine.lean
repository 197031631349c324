/-
# Server.Machine — what a server is to do with its one channel

The channel as a machine of its own, without cryptography, buffers or clocks.
`Channel` is what the two sides know of it, `Phase` where `serve_one` stands, and
`Move` what may happen there and what can be seen of it: a packet that arrives, a
message that goes out and whether it got through, bytes that cross the child's
pipe.  Which packets count is said by the readers in front, on the bytes of the
packet alone.

Whether the program does this is not claimed here; `Server.Channels` proves it,
and what is proved about the machine is then true of every run of the program.
-/
import NoxSsh.Theory.Machine
import NoxSsh.Server.Serve

namespace NoxSsh.Server

open Theory Proc Wire Transport

set_option autoImplicit false

/-! ## What can be seen -/

/-- The channel and the session, as far as the context keeps them. -/
structure Channel where
  channelOpen : Bool
  sessionStarted : Bool
  localChannelId : Nat
  remoteChannelId : Nat
  localWindowSize : Nat
  remoteWindowSize : Nat
  remoteMaxPacketSize : Nat
  deriving DecidableEq, Repr

def channel (s : Server) : Channel where
  channelOpen := s.channelOpen
  sessionStarted := s.sessionStarted
  localChannelId := s.localChannelId
  remoteChannelId := s.remoteChannelId
  localWindowSize := s.localWindowSize
  remoteWindowSize := s.remoteWindowSize
  remoteMaxPacketSize := s.remoteMaxPacketSize

/-- An event with the channel as it stood, and whether the rekey limit was reached. -/
abbrev Sight := Event × Channel × Bool

/-- A message about the channel, CHANNEL_OPEN_CONFIRMATION to CHANNEL_FAILURE. -/
def onChannel (payload : List UInt8) : Bool :=
  match payload.head? with
  | none => false
  | some number => 91 ≤ number && number ≤ 100

/-- The events that concern the channel. -/
def loud : Event → Bool
  | .received _ => true
  | .serving _ => true
  | .sessionStarted _ => true
  | .childInput _ => true
  | .childEot => true
  | .childRefused => true
  | .childOutput _ => true
  | .childReaped _ => true
  | .sessionGoesOn => true
  | .sending payload => onChannel payload
  | .sent payload => onChannel payload
  | _ => false

def sight (e : Event × Server) : Option Sight :=
  if loud e.1 then some (e.1, channel e.2, rekeyDue e.2) else none

/-- What can be seen of the channel in a trace. -/
def sights (trace : List (Event × Server)) : List Sight := trace.filterMap sight

/-! ## Packets as they are read -/

/-- A payload in memory; what stands behind it does not matter to these readers. -/
def contents (payload : List UInt8) : Mem := memOf payload fun _ => 0

/-- What a CHANNEL_OPEN for a session asks for. -/
structure OpenRequest where
  sender : Nat
  window : Nat
  maxPacket : Nat
  deriving DecidableEq, Repr

def readOpenRequest (m : Mem) (plen : Nat) : Option OpenRequest := do
  let (typ, off) ← payloadReadStringView m plen 1
  let (sender, off) ← payloadReadU32 m plen off
  let (window, off) ← payloadReadU32 m plen off
  let (maxPacket, _) ← payloadReadU32 m plen off
  require (typ.bytes m = ascii "session")
  some ⟨sender, window, maxPacket⟩

def openRequestOf (payload : List UInt8) : Option OpenRequest :=
  if payload.head? = some 90 then readOpenRequest (contents payload) payload.length else none

/-- The credit of a WINDOW_ADJUST for the channel, zero for every other packet. -/
def creditOf (c : Channel) (payload : List UInt8) : Nat :=
  if payload.head? = some 93 then
    match payloadReadU32 (contents payload) payload.length 1 with
    | none => 0
    | some (id, off) =>
        match payloadReadU32 (contents payload) payload.length off with
        | none => 0
        | some (amount, _) => if id = c.localChannelId then amount else 0
  else 0

/-- The length field of a CHANNEL_DATA for the channel, if the string can be read. -/
def dataLenOf (c : Channel) (payload : List UInt8) : Option Nat :=
  if payload.head? = some 94 then
    match payloadReadU32 (contents payload) payload.length 1 with
    | none => none
    | some (id, off) =>
        if id = c.localChannelId then
          (payloadReadStringView (contents payload) payload.length off).map fun got => got.1.len
        else none
  else none

/-- The data of a CHANNEL_DATA that a session takes. -/
def dataOf (c : Channel) (payload : List UInt8) : Option (List UInt8) :=
  if payload.head? = some 94 then
    match payloadReadU32 (contents payload) payload.length 1 with
    | none => none
    | some (id, off) =>
        match payloadReadStringView (contents payload) payload.length off with
        | none => none
        | some (data, off) =>
            if id ≠ c.localChannelId ∨ off ≠ payload.length ∨ data.len > c.localWindowSize then none
            else some (data.bytes (contents payload))
  else none

/-- A well-formed EOF or CLOSE for the channel. -/
def ends (c : Channel) (payload : List UInt8) : Bool :=
  payload.length = 5 && (payload.head? = some 96 || payload.head? = some 97) &&
    (payloadReadU32 (contents payload) payload.length 1).map Prod.fst = some c.localChannelId

/-- Where the want-reply byte of a well-formed CHANNEL_REQUEST for the channel stands. -/
def replyByteAt (c : Channel) (payload : List UInt8) : Option Nat :=
  if payload.head? = some 98 then
    match payloadReadU32 (contents payload) payload.length 1 with
    | none => none
    | some (id, off) =>
        match payloadReadStringView (contents payload) payload.length off with
        | none => none
        | some (_, off) => if id = c.localChannelId ∧ off < payload.length then some off else none
  else none

/-- A well-formed CHANNEL_REQUEST for the open channel that wants a reply. -/
def asks (c : Channel) (payload : List UInt8) : Bool :=
  c.channelOpen && (replyByteAt c payload).any fun off => contents payload off ≠ 0

/-! ## Messages -/

/-- A message of a number and the client's channel. -/
def channelMessage (number : UInt8) (id : Nat) : List UInt8 := number :: be32 id

def openConfirmation (sender : Nat) : List UInt8 :=
  91 :: (be32 sender ++ be32 0 ++ be32 65536 ++ be32 32768)

def windowAdjust (id : Nat) : List UInt8 := 93 :: (be32 id ++ be32 262144)

def dataMessage (id : Nat) (data : List UInt8) : List UInt8 := 94 :: (be32 id ++ sshString data)

def exitStatusMessage (id status : Nat) : List UInt8 :=
  98 :: (be32 id ++ sshString (ascii "exit-status") ++ [0] ++ be32 status)

/-- A message went out, or the call for it failed. -/
inductive Says (c : Channel) (payload : List UInt8) : Bool → List Sight → Prop
  | failed (due : Bool) : Says c payload false [(.sending payload, c, due)]
  | sent (due due' : Bool) : Says c payload true [(.sending payload, c, due), (.sent payload, c, due')]

/-- Messages in a row, up to the first that fails. -/
inductive SaysAll (c : Channel) : List (List UInt8) → Bool → List Sight → Prop
  | nil : SaysAll c [] true []
  | failed {payload : List UInt8} {more : List (List UInt8)} {seen : List Sight} :
      Says c payload false seen → SaysAll c (payload :: more) false seen
  | sent {payload : List UInt8} {more : List (List UInt8)} {all : Bool} {seen seen' : List Sight} :
      Says c payload true seen → SaysAll c more all seen' → SaysAll c (payload :: more) all (seen ++ seen')

/-- Writes to the child, and the bytes they took. -/
inductive Feeds (c : Channel) : List UInt8 → List Sight → Prop
  | nil : Feeds c [] []
  | cons {bytes more : List UInt8} {seen : List Sight} (due : Bool) :
      Feeds c more seen → Feeds c (bytes ++ more) ((.childInput bytes, c, due) :: seen)

/-! ## The machine -/

namespace Channel

def opened (o : OpenRequest) (c : Channel) : Channel :=
  { c with localChannelId := 0, remoteChannelId := o.sender, localWindowSize := 65536,
           remoteWindowSize := o.window, remoteMaxPacketSize := o.maxPacket }

def setOpen (isOpen : Bool) (c : Channel) : Channel := { c with channelOpen := isOpen }

def started (c : Channel) : Channel := { c with sessionStarted := true }

def setLocal (n : Nat) (c : Channel) : Channel := { c with localWindowSize := n }

def setRemote (n : Nat) (c : Channel) : Channel := { c with remoteWindowSize := n }

/-- Data that does not fit the window is not charged to it. -/
def charge (len : Nat) (c : Channel) : Channel :=
  if c.localWindowSize ≥ len then c.setLocal (c.localWindowSize - len) else c

/-- The window after a WINDOW_ADJUST of the server's. -/
def topped (c : Channel) : Channel := c.setLocal (c.localWindowSize + 262144)

end Channel

/-- Where `serve_one` stands. -/
inductive Phase where
  | handshake
  /-- Before the top of the loop. -/
  | serve (closeDeadlineMs : Nat)
  | turn (closeDeadlineMs : Nat)
  /-- A packet was received in the loop; `due` is whether the rekey limit was reached. -/
  | heard (closeDeadlineMs : Nat) (payload : List UInt8) (due : Bool)
  /-- A request for a session was granted. -/
  | granted (closeDeadlineMs : Nat)
  | session (closeDeadlineMs : Nat) (child : Child)
  /-- A packet was received in the session. -/
  | told (closeDeadlineMs : Nat) (child : Child) (payload : List UInt8)
  /-- Data went to the child. -/
  | fed (closeDeadlineMs : Nat) (child : Child)
  /-- A packet was dealt with in the session. -/
  | content (closeDeadlineMs : Nat) (child : Child)
  /-- The session loop broke. -/
  | broken
  /-- The peer closed the channel during the session. -/
  | leaving (closeDeadlineMs : Nat)
  /-- The channel is done with, the close wait starts. -/
  | ending (closeDeadlineMs : Nat)
  | over (failed : Bool)
  deriving DecidableEq, Repr

/-- What may happen in a phase, and what can be seen of it. -/
inductive Move : Phase × Channel → List Sight → Phase × Channel → Prop
  -- the handshake
  | hello (p : List UInt8) (due : Bool) (c : Channel) :
      Move (.handshake, c) [(.received p, c, due)] (.handshake, c)
  | shaken (c : Channel) : Move (.handshake, c) [] (.serve 0, c)
  | unshaken (c : Channel) : Move (.handshake, c) [] (.over true, c)
  -- the loop of `serve_one`
  | top (d : Nat) (due : Bool) (c : Channel) : Move (.serve d, c) [(.serving d, c, due)] (.turn d, c)
  | retry (d : Nat) (c : Channel) : Move (.turn d, c) [] (.serve d, c)
  | leave (d : Nat) (failed : Bool) (c : Channel) : Move (.turn d, c) [] (.over failed, c)
  | hear (d : Nat) (p : List UInt8) (due : Bool) (c : Channel) :
      Move (.turn d, c) [(.received p, c, due)] (.heard d p due, c)
  | limit (d : Nat) (p : List UInt8) (c : Channel) : Move (.heard d p true, c) [] (.over true, c)
  | pass (d : Nat) (p : List UInt8) (due : Bool) (c : Channel) (quiet : asks c p = false)
      (other : ¬ (ends c p = true ∧ p.head? = some 97)) : Move (.heard d p due, c) [] (.serve d, c)
  | drop (d : Nat) (p : List UInt8) (failed : Bool) (c : Channel) (quiet : asks c p = false)
      (other : ends c p = false) : Move (.heard d p false, c) [] (.over failed, c)
  | confirmOpen (p : List UInt8) (o : OpenRequest) (c : Channel) (seen : List Sight)
      (is : openRequestOf p = some o) (large : 128 ≤ o.maxPacket) (closed : c.channelOpen = false)
      (spoken : Says (c.opened o) (openConfirmation o.sender) true seen) :
      Move (.heard 0 p false, c) seen (.serve 0, (c.opened o).setOpen true)
  | unconfirmed (p : List UInt8) (o : OpenRequest) (c : Channel) (seen : List Sight)
      (is : openRequestOf p = some o) (large : 128 ≤ o.maxPacket) (closed : c.channelOpen = false)
      (spoken : Says (c.opened o) (openConfirmation o.sender) false seen) :
      Move (.heard 0 p false, c) seen (.over true, c.opened o)
  | charged (d : Nat) (p : List UInt8) (len : Nat) (c : Channel) (is : dataLenOf c p = some len)
      (enough : (c.charge len).localWindowSize > 65536) :
      Move (.heard d p false, c) [] (.serve d, c.charge len)
  | toppedUp (d : Nat) (p : List UInt8) (len : Nat) (c : Channel) (all : Bool) (seen : List Sight)
      (is : dataLenOf c p = some len) (little : (c.charge len).localWindowSize ≤ 65536)
      (spoken : Says (c.charge len).topped (windowAdjust c.localChannelId) all seen) :
      Move (.heard d p false, c) seen (.serve d, (c.charge len).topped)
  | refused (d : Nat) (p : List UInt8) (c : Channel) (all : Bool) (seen : List Sight)
      (wants : asks c p = true) (spoken : Says c (channelMessage 100 c.remoteChannelId) all seen) :
      Move (.heard d p false, c) seen (.serve d, c)
  | confirmed (d : Nat) (p : List UInt8) (c : Channel) (seen : List Sight) (wants : asks c p = true)
      (spoken : Says c (channelMessage 99 c.remoteChannelId) true seen) :
      Move (.heard d p false, c) seen (.serve d, c)
  | granted (d : Nat) (p : List UInt8) (c : Channel) (seen : List Sight) (wants : asks c p = true)
      (spoken : Says c (channelMessage 99 c.remoteChannelId) true seen) :
      Move (.heard d p false, c) seen (.granted d, c)
  | unanswered (d : Nat) (p : List UInt8) (c : Channel) (seen : List Sight) (wants : asks c p = true)
      (spoken : Says c (channelMessage 99 c.remoteChannelId) false seen) :
      Move (.heard d p false, c) seen (.over true, c)
  | grantedSilently (d : Nat) (p : List UInt8) (c : Channel) (quiet : asks c p = false)
      (isOpen : c.channelOpen = true) (number : p.head? = some 98) :
      Move (.heard d p false, c) [] (.granted d, c)
  | answered (d : Nat) (p : List UInt8) (c : Channel) (seen : List Sight) (is : ends c p = true)
      (number : p.head? = some 97) (isOpen : c.channelOpen = true)
      (spoken : Says c (channelMessage 97 c.remoteChannelId) true seen) :
      Move (.heard d p false, c) seen (.ending d, c.setOpen false)
  | unclosed (d : Nat) (p : List UInt8) (c : Channel) (seen : List Sight) (is : ends c p = true)
      (number : p.head? = some 97) (isOpen : c.channelOpen = true)
      (spoken : Says c (channelMessage 97 c.remoteChannelId) false seen) :
      Move (.heard d p false, c) seen (.over true, c)
  | closedAlready (d : Nat) (p : List UInt8) (c : Channel) (is : ends c p = true)
      (number : p.head? = some 97) (closed : c.channelOpen = false) :
      Move (.heard d p false, c) [] (.ending d, c)
  -- the session
  | start (d : Nat) (command : Option (List UInt8)) (due : Bool) (c : Channel) :
      Move (.granted d, c) [(.sessionStarted command, c, due)] (.session d ⟨false, none⟩, c.started)
  | unstarted (d : Nat) (c : Channel) : Move (.granted d, c) [] (.over true, c)
  | unforked (d : Nat) (child : Child) (c : Channel) : Move (.session d child, c) [] (.over true, c)
  | tell (d : Nat) (child : Child) (p : List UInt8) (due : Bool) (c : Channel) :
      Move (.session d child, c) [(.received p, c, due)] (.told d child p, c)
  | ignore (d : Nat) (child : Child) (p : List UInt8) (c : Channel) (other : ends c p = false)
      (data : p.head? ≠ some 94) (credit : p.head? ≠ some 93) :
      Move (.told d child p, c) [] (.content d child, c)
  | credit (d : Nat) (child : Child) (p : List UInt8) (c : Channel) (number : p.head? = some 93)
      (fits : creditOf c p ≤ 4294967295 - c.remoteWindowSize) :
      Move (.told d child p, c) [] (.content d child, c.setRemote (c.remoteWindowSize + creditOf c p))
  | feed (d : Nat) (child : Child) (p data : List UInt8) (c : Channel) (seen : List Sight)
      (is : dataOf c p = some data) (feeds : Feeds c data seen) :
      Move (.told d child p, c) seen (.fed d child, c.setLocal (c.localWindowSize - data.length))
  | choke (d : Nat) (child : Child) (p taken left : List UInt8) (due : Bool) (c : Channel)
      (seen : List Sight) (is : dataOf c p = some (taken ++ left)) (some : left ≠ [])
      (feeds : Feeds c taken seen) :
      Move (.told d child p, c) (seen ++ [(.childRefused, c, due)]) (.broken, c)
  | enough (d : Nat) (child : Child) (c : Channel) (enough : c.localWindowSize > 65536) :
      Move (.fed d child, c) [] (.content d child, c)
  | topUp (d : Nat) (child : Child) (c : Channel) (seen : List Sight) (little : c.localWindowSize ≤ 65536)
      (spoken : Says c.topped (windowAdjust c.localChannelId) true seen) :
      Move (.fed d child, c) seen (.content d child, c.topped)
  | noTopUp (d : Nat) (child : Child) (c : Channel) (seen : List Sight) (little : c.localWindowSize ≤ 65536)
      (spoken : Says c.topped (windowAdjust c.localChannelId) false seen) :
      Move (.fed d child, c) seen (.broken, c.topped)
  | eof (d : Nat) (child : Child) (p : List UInt8) (c : Channel) (is : ends c p = true)
      (number : p.head? = some 96) : Move (.told d child p, c) [] (.content d child, c)
  | eot (d : Nat) (child : Child) (p : List UInt8) (due : Bool) (e : Event) (c : Channel)
      (is : ends c p = true) (number : p.head? = some 96) (written : e = .childEot ∨ e = .childRefused) :
      Move (.told d child p, c) [(e, c, due)] (.content d child, c)
  | goOn (d : Nat) (child : Child) (due : Bool) (c : Channel) :
      Move (.content d child, c) [(.sessionGoesOn, c, due)] (.session d child, c)
  | peerClose (d : Nat) (child : Child) (p : List UInt8) (c : Channel) (seen : List Sight)
      (is : ends c p = true) (number : p.head? = some 97) (isOpen : c.channelOpen = true)
      (spoken : Says c (channelMessage 97 c.remoteChannelId) true seen) :
      Move (.told d child p, c) seen (.leaving d, c.setOpen false)
  | peerCloseFails (d : Nat) (child : Child) (p : List UInt8) (c : Channel) (seen : List Sight)
      (is : ends c p = true) (number : p.head? = some 97) (isOpen : c.channelOpen = true)
      (spoken : Says c (channelMessage 97 c.remoteChannelId) false seen) :
      Move (.told d child p, c) seen (.broken, c)
  | peerCloseAgain (d : Nat) (child : Child) (p : List UInt8) (c : Channel) (is : ends c p = true)
      (number : p.head? = some 97) (closed : c.channelOpen = false) :
      Move (.told d child p, c) [] (.leaving d, c)
  | reject (d : Nat) (child : Child) (p : List UInt8) (c : Channel) (other : ends c p = false) :
      Move (.told d child p, c) [] (.broken, c)
  | abort (d : Nat) (child : Child) (c : Channel) : Move (.session d child, c) [] (.broken, c)
  | output (d : Nat) (child : Child) (bytes : List UInt8) (due : Bool) (c : Channel) (seen : List Sight)
      (some : bytes ≠ []) (fits : bytes.length ≤ c.remoteWindowSize)
      (chunk : c.remoteMaxPacketSize > 64 → bytes.length ≤ c.remoteMaxPacketSize - 64)
      (spoken : Says (c.setRemote (c.remoteWindowSize - bytes.length)) (dataMessage c.remoteChannelId bytes)
        true seen) :
      Move (.session d child, c) ((.childOutput bytes, c, due) :: seen)
        (.session d child, c.setRemote (c.remoteWindowSize - bytes.length))
  | outputFails (d : Nat) (child : Child) (bytes : List UInt8) (due : Bool) (c : Channel)
      (seen : List Sight) (some : bytes ≠ []) (fits : bytes.length ≤ c.remoteWindowSize)
      (chunk : c.remoteMaxPacketSize > 64 → bytes.length ≤ c.remoteMaxPacketSize - 64)
      (spoken : Says (c.setRemote (c.remoteWindowSize - bytes.length)) (dataMessage c.remoteChannelId bytes)
        false seen) :
      Move (.session d child, c) ((.childOutput bytes, c, due) :: seen)
        (.broken, c.setRemote (c.remoteWindowSize - bytes.length))
  | outputEnds (d : Nat) (child : Child) (c : Channel) :
      Move (.session d child, c) [] (.session d { child with outputEof := true }, c)
  | reap (d : Nat) (child : Child) (status : WaitStatus) (due : Bool) (c : Channel)
      (alive : child.reaped = none) :
      Move (.session d child, c) [(.childReaped status, c, due)]
        (.session d { child with reaped := some status }, c)
  | complete (d : Nat) (child : Child) (status : WaitStatus) (c : Channel) (seen : List Sight)
      (ended : child.outputEof = true) (reaped : child.reaped = some status)
      (spoken : SaysAll c [exitStatusMessage c.remoteChannelId (exitCode status),
        channelMessage 96 c.remoteChannelId, channelMessage 97 c.remoteChannelId] true seen) :
      Move (.session d child, c) seen (.ending d, c.setOpen false)
  | incomplete (d : Nat) (child : Child) (status : WaitStatus) (c : Channel) (seen : List Sight)
      (ended : child.outputEof = true) (reaped : child.reaped = some status)
      (spoken : SaysAll c [exitStatusMessage c.remoteChannelId (exitCode status),
        channelMessage 96 c.remoteChannelId, channelMessage 97 c.remoteChannelId] false seen) :
      Move (.session d child, c) seen (.broken, c)
  | shut (c : Channel) : Move (.broken, c) [] (.over true, c.setOpen false)
  -- the close wait
  | left (d : Nat) (c : Channel) : Move (.leaving d, c) [] (.ending d, c.setOpen false)
  | wait (d d' : Nat) (c : Channel) (set : d' ≠ 0) : Move (.ending d, c) [] (.serve d', c)
  | unwaited (d : Nat) (c : Channel) : Move (.ending d, c) [] (.over true, c)

/-- The machine with a server's state for its own. -/
def channelMachine : Follower (Host Server) Channel Phase Sight where
  Move := Move
  abs h := channel h.self
  seen h := sights h.trace

/-! ## The flags and the phase

`channel_open`, `session_started` and the close deadline say where the machine
stands, and the other way round. -/

/-- Outside a session the channel is open only while no deadline is set. -/
def Idle (closeDeadlineMs : Nat) (c : Channel) : Prop :=
  (closeDeadlineMs = 0 → c.sessionStarted = false) ∧ (closeDeadlineMs ≠ 0 → c.channelOpen = false)

/-- Inside a session. -/
def Busy (closeDeadlineMs : Nat) (c : Channel) : Prop :=
  closeDeadlineMs = 0 ∧ c.channelOpen = true ∧ c.sessionStarted = true

def Stage : Phase → Channel → Prop
  | .handshake, c => c.channelOpen = false ∧ c.sessionStarted = false
  | .serve d, c => Idle d c
  | .turn d, c => Idle d c
  | .heard d _ _, c => Idle d c
  | .granted d, c => d = 0 ∧ c.channelOpen = true ∧ c.sessionStarted = false
  | .session d _, c => Busy d c
  | .told d _ _, c => Busy d c
  | .fed d _, c => Busy d c
  | .content d _, c => Busy d c
  | .broken, _ => True
  | .leaving d, c => d = 0 ∧ c.channelOpen = false
  | .ending _, c => c.channelOpen = false
  | .over _, _ => True

theorem asks_open {c : Channel} {p : List UInt8} (wants : asks c p = true) : c.channelOpen = true := by
  rw [asks, Bool.and_eq_true] at wants
  exact wants.1

theorem charge_flags (len : Nat) (c : Channel) : (c.charge len).channelOpen = c.channelOpen ∧
    (c.charge len).sessionStarted = c.sessionStarted := by
  unfold Channel.charge
  split <;> exact ⟨rfl, rfl⟩

theorem Idle.charge {d : Nat} {c : Channel} (idle : Idle d c) (len : Nat) : Idle d (c.charge len) := by
  obtain ⟨isOpen, started⟩ := charge_flags len c
  rw [Idle, isOpen, started]
  exact idle

theorem Idle.granted {d : Nat} {c : Channel} (idle : Idle d c) (isOpen : c.channelOpen = true) :
    d = 0 ∧ c.channelOpen = true ∧ c.sessionStarted = false := by
  have fresh : d = 0 := by
    by_contra waits
    simp [idle.2 waits] at isOpen
  exact ⟨fresh, isOpen, idle.1 fresh⟩

theorem Move.stage {φ φ' : Phase} {c c' : Channel} {new : List Sight} (stage : Stage φ c)
    (move : Move (φ, c) new (φ', c')) : Stage φ' c' := by
  cases move with
  | hello | top | retry | hear | pass | refused | confirmed => exact stage
  | shaken => exact ⟨fun _ => stage.2, fun waits => absurd rfl waits⟩
  | unshaken | leave | limit | drop | unconfirmed | unanswered | unclosed | unstarted | unforked | choke
  | noTopUp | peerCloseFails | reject | abort | outputFails | incomplete | shut | unwaited => trivial
  | confirmOpen => exact ⟨stage.1, fun waits => absurd rfl waits⟩
  | charged d p len => exact stage.charge len
  | toppedUp d p len => exact stage.charge len
  | granted d p _ seen wants => exact stage.granted (asks_open wants)
  | grantedSilently d p _ quiet isOpen => exact stage.granted isOpen
  | answered | complete => rfl
  | closedAlready d p _ is number closed => exact closed
  | start => exact ⟨stage.1, stage.2.1, rfl⟩
  | tell | ignore | enough | eof | eot | goOn | outputEnds | reap => exact stage
  | credit | feed | topUp | output => exact stage
  | peerClose => exact ⟨stage.1, rfl⟩
  | peerCloseAgain d child p _ is number closed => exact ⟨stage.1, closed⟩
  | left => rfl
  | wait d d' _ set => exact ⟨fun zero => absurd zero set, fun _ => stage⟩

/-- The phases in which the server can wait for its client. -/
def Waiting : Phase → Prop
  | .handshake => True
  | .serve _ => True
  | .turn _ => True
  | .session _ _ => True
  | _ => False

end NoxSsh.Server
