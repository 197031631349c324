/-
# Client.Data — channel data through the two calls

`netnox_ssh_client_send_data` puts a part of the data into one packet and cannot say how
large a part; `netnox_ssh_client_recv_data` returns what one packet holds, and no bytes
mean the end.

* `send_data_whole_iff` — the data strings on the wire are the whole data, none over the
  limit, just if the whole fits one packet of the server's.
* `recv_data_end_iff` — no bytes come from EOF and CLOSE only, unless the packet it read
  last carries an empty data string.
-/
import NoxSsh.Client.Conduct

namespace NoxSsh.Client

open Theory Proc Wire Transport

set_option autoImplicit false

/-! ## Sending -/

/-- The data string of a CHANNEL_DATA. -/
def dataString (payload : List UInt8) : Option (List UInt8) :=
  if payload.head? = some 94 then some ((payload.drop 9).take (beNat ((payload.drop 5).take 4))) else none

/-- What an event put on the wire as channel data. -/
def dataSent : Event → Option (List UInt8)
  | .sent payload => dataString payload
  | _ => none

def dataStrings (trace : List (Event × Client)) : List (List UInt8) := trace.filterMap fun e => dataSent e.1

theorem dataStrings_append (a b : List (Event × Client)) : dataStrings (a ++ b) = dataStrings a ++ dataStrings b :=
  List.filterMap_append

theorem dataStrings_none {trace : List (Event × Client)} (none : ∀ e ∈ trace, dataSent e.1 = none) :
    dataStrings trace = [] :=
  List.filterMap_eq_nil_iff.2 none

theorem buildData_eq (remoteId : Nat) {chunk : List UInt8} (fits : chunk.length ≤ maxDataLen) :
    buildData remoteId chunk = some ([94] ++ be32 remoteId ++ sshString chunk) := by
  have short : chunk.length ≤ 4096 := fits
  show (some [94] >>= payloadAppendU32 4109 remoteId >>= payloadAppendString 4109 chunk) = _
  rw [Option.bind_eq_bind, Option.bind_some, payloadAppendU32_some (by decide)]
  exact payloadAppendString_some (by simp; omega)

theorem dataString_buildData (remoteId : Nat) {chunk : List UInt8} (fits : chunk.length ≤ maxDataLen) :
    dataString ([94] ++ be32 remoteId ++ sshString chunk) = some chunk := by
  have short : chunk.length ≤ 4096 := fits
  have small : chunk.length < 4294967296 := by omega
  have length : (([94] ++ be32 remoteId ++ sshString chunk).drop 5).take 4 = be32 chunk.length := by
    rw [List.drop_left' (by simp), sshString, List.take_left' (by simp)]
  have string : ([94] ++ be32 remoteId ++ sshString chunk).drop 9 = chunk := by
    rw [sshString, ← List.append_assoc, List.drop_left' (by simp)]
  rw [dataString, if_pos (by simp), length, string, beNat_be32, Nat.mod_eq_of_lt small, List.take_length]

theorem length_chunk_le (max : Nat) (data : List UInt8) : (chunk max data).length ≤ maxDataLen := by
  simp [chunk]

theorem chunk_eq {max : Nat} {data : List UInt8} (short : data.length ≤ maxDataLen) :
    chunk max data = if max = 0 then data else data.take max := by
  have short' : data.length ≤ 4096 := short
  unfold chunk maxDataLen
  by_cases unlimited : max = 0
  · rw [if_pos unlimited]
    simp [unlimited]
    omega
  · rw [if_neg unlimited, if_pos unlimited, List.take_eq_take_iff]
    omega

/-- One CHANNEL_DATA goes out if a packet does, and no other. -/
theorem sendPacket_dataStrings {noxtls : Noxtls} {env : Env} {payload : List UInt8} {h h' : Host Client}
    (ran : (sendPacket noxtls env payload).run h = (.ok (), h')) :
    ∃ new, h'.trace = h.trace ++ new ∧ dataStrings new = (dataString payload).toList := by
  have background : Background fun e => dataSent e = none :=
    ⟨⟨fun _ => rfl, rfl, rfl⟩, fun _ _ => rfl, fun _ _ => rfl⟩
  have routine : Always (Quiet (fun e => dataSent e = none) fun _ : Client => ()) (sendPacketWith noxtls sendSide
      (fillRandom env) (sendAll env) (writeSealed env) uncounted payload) :=
    always_sendPacketWith (quiet_plain _ _) (fun _ _ => always_log rfl) (fun _ => always_modify fun _ => rfl)
      (fun _ => always_modify fun _ => rfl) (fun _ => always_modify fun _ => rfl) always_fillRandom
      (always_sendAll background.toPlumbing) (always_writeSealed background.toPlumbing) payload
  rw [sendPacket] at ran
  obtain ⟨-, ran⟩ := ensure_bind_inv ran
  rw [log_bind_run] at ran
  obtain ⟨_, h₁, sends, ran⟩ := bind_inv ran
  obtain ⟨-, new, grown, silent⟩ := always_ran sends routine
  obtain ⟨-, rfl⟩ := Prod.mk.inj ran
  refine ⟨(.sending payload, h.self) :: new ++ [(.sent payload, h₁.self)], by simp [grown], ?_⟩
  rw [List.cons_append, ← List.singleton_append, dataStrings_append, dataStrings_append,
    dataStrings_none fun e member => (silent e member).1]
  cases is : dataString payload <;> simp [dataStrings, dataSent, is]

/-- **When `send_data` sends all.**  In every state and for all data: if the call returns
success, then what it put on the wire as channel data is the data, in strings of at most
`remote_max_packet_size` bytes if that is a limit, just if the data is no longer than the
limit. -/
theorem send_data_whole_iff (noxtls : Noxtls) (env : Env) (h h' : Host Client) (data : List UInt8)
    (ran : (sendData noxtls env data).run h = (.ok (), h')) :
    ∃ new, h'.trace = h.trace ++ new ∧
      ((dataStrings new).flatten = data ∧
          (h.self.remoteMaxPacketSize ≠ 0 → ∀ s ∈ dataStrings new, s.length ≤ h.self.remoteMaxPacketSize) ↔
        h.self.remoteMaxPacketSize = 0 ∨ data.length ≤ h.self.remoteMaxPacketSize) := by
  rw [sendData] at ran
  obtain ⟨⟨-, short⟩, ran⟩ := ensure_bind_inv ran
  rw [self_bind_run] at ran
  obtain ⟨-, ran⟩ := ensure_bind_inv ran
  obtain ⟨payload, built, ran⟩ := lift_bind_inv ran
  have fits := length_chunk_le h.self.remoteMaxPacketSize data
  rw [buildData_eq _ fits, Option.some.injEq] at built
  obtain ⟨new, grown, strings⟩ := sendPacket_dataStrings ran
  rw [← built, dataString_buildData _ fits, Option.toList_some, chunk_eq short] at strings
  refine ⟨new, grown, ?_⟩
  rw [strings]
  by_cases unlimited : h.self.remoteMaxPacketSize = 0
  · simp [unlimited]
  · simp only [unlimited, if_false, false_or]
    constructor
    · rintro ⟨whole, -⟩
      rw [List.flatten_singleton, List.take_eq_self_iff] at whole
      exact whole
    · intro room
      rw [List.take_of_length_le room]
      simp [room]

namespace Probe

/-- A client with an open channel to a server that takes `remoteMaxPacketSize` bytes a
packet. -/
def opened (remoteMaxPacketSize : Nat) (inbox : List UInt8) : Host Client :=
  ⟨{ Client.init 22 with
      connected := true, kexinitExchanged := true, keyExchangeComplete := true, authenticated := true
      channelOpen := true, localWindowSize := 65536, remoteWindowSize := 65536
      remoteMaxPacketSize := remoteMaxPacketSize }, 0, inbox, []⟩

end Probe

/-- Two bytes to a server that takes two. -/
theorem send_data_whole_iff_two :
    ∃ new, ((sendData Probe.noxtls Probe.brisk [1, 2]).run (Probe.opened 2 [])).2.trace = [] ++ new ∧
      ((dataStrings new).flatten = [1, 2] ∧
          ((2 : Nat) ≠ 0 → ∀ s ∈ dataStrings new, s.length ≤ 2) ↔ (2 : Nat) = 0 ∨ [(1 : UInt8), 2].length ≤ 2) :=
  send_data_whole_iff Probe.noxtls Probe.brisk (Probe.opened 2 []) _ [1, 2] (Prod.ext (by decide +kernel) rfl)

/-- Two bytes to a server that takes one: the second is lost, and the call succeeds. -/
theorem send_data_cuts :
    ¬ ∀ (noxtls : Noxtls) (env : Env) (h h' : Host Client) (data : List UInt8),
      (sendData noxtls env data).run h = (.ok (), h') →
      ∃ new, h'.trace = h.trace ++ new ∧ (dataStrings new).flatten = data ∧
        (h.self.remoteMaxPacketSize ≠ 0 → ∀ s ∈ dataStrings new, s.length ≤ h.self.remoteMaxPacketSize) := by
  intro whole
  have ran : ((sendData Probe.noxtls Probe.brisk [1, 2]).run (Probe.opened 1 [])).1 = .ok () ∧
      dataStrings ((sendData Probe.noxtls Probe.brisk [1, 2]).run (Probe.opened 1 [])).2.trace = [[1]] := by
    decide +kernel
  generalize is : (sendData Probe.noxtls Probe.brisk [1, 2]).run (Probe.opened 1 []) = r at ran
  obtain ⟨o, h'⟩ := r
  obtain rfl : o = .ok () := ran.1
  obtain ⟨new, grown, strings, -⟩ := whole _ _ _ h' [1, 2] is
  obtain rfl : h'.trace = new := grown
  have one : dataStrings h'.trace = [[1]] := ran.2
  rw [one] at strings
  exact absurd strings (by decide)

/-! ## Receiving -/

/-- Data or extended data that carries an empty string. -/
def EmptyData (payload : List UInt8) : Prop :=
  payload.head? = some 94 ∧ beNat ((payload.drop 5).take 4) = 0 ∨
    payload.head? = some 95 ∧ beNat ((payload.drop 9).take 4) = 0

instance (payload : List UInt8) : Decidable (EmptyData payload) := inferInstanceAs (Decidable (_ ∨ _))

/-- No data says that the output ended, and this packet did end it. -/
def EndsOutput (payload data : List UInt8) : Prop :=
  data = [] → payload.head? = some 96 ∨ payload.head? = some 97

/-- A packet came in after `h₀`, nothing has been recorded since, and what it was read to
ends the output unless it is empty data. -/
def Ended (h₀ : Host Client) (data : List UInt8) (h : Host Client) : Prop :=
  ∃ new rx c, h.trace = h₀.trace ++ new ++ [(.received rx, c)] ∧ (EndsOutput rx data ↔ ¬ EmptyData rx)

/-- What one packet comes to: the loop reads on, or ends with the data. -/
def Taken (h₀ : Host Client) : Option (List UInt8) → Host Client → Prop
  | none => Follows h₀
  | some data => Ended h₀ data

section Receiving

variable {noxtls : Noxtls} {env : Env} {h₀ : Host Client}

theorem Heard.follows {payloadMax : Nat} {arrival : Arrival} {h : Host Client}
    (heard : Heard (Follows h₀) payloadMax arrival h) : Follows h₀ h := by
  obtain ⟨h₁, rest, follows, -, -, rfl⟩ := heard
  exact (quiet_order _ _).trans follows ⟨rfl, [_], rfl, by simp⟩

theorem Heard.ended {payloadMax : Nat} {rx : List UInt8} {m : Mem} {h : Host Client}
    (heard : Heard (Follows h₀) payloadMax (rx, m) h) {data : List UInt8}
    (ends : EndsOutput rx data ↔ ¬ EmptyData rx) {h' : Host Client} (same : h'.trace = h.trace) : Ended h₀ data h' := by
  obtain ⟨h₁, rest, ⟨-, new, grown, -⟩, -, -, rfl⟩ := heard
  exact ⟨new, rx, h₁.self, by rw [same, grown], ends⟩

/-- The length field of a string that was read, in the payload itself. -/
theorem stringView_length {rx : List UInt8} {rest : Mem} {off off' : Nat} {v : View} (small : off + 4 < 4294967296)
    (read : payloadReadStringView (memOf rx rest) rx.length off = some (v, off')) :
    v.len = beNat ((rx.drop off).take 4) := by
  unfold payloadReadStringView at read
  cases field : payloadReadU32 (memOf rx rest) rx.length off with
  | none => simp [field] at read
  | some pair =>
      obtain ⟨strLen, next⟩ := pair
      obtain ⟨-, inside, rfl⟩ := payloadReadU32_some field small
      rw [field] at read
      simp only [Option.ite_none_left_eq_some, Option.some.injEq, Prod.mk.injEq] at read
      rw [← read.2.1, slice_memOf rx rest inside]

theorem triple_recipient_bind {α : Type} {P I S : Host Client → Prop} {Q : α → Host Client → Prop} {rx : List UInt8}
    {m : Mem} {k : Nat → Prog Client α} (weaker : ∀ h, P h → I h) (rest : Triple P (k 5) Q (Breaks I S)) :
    Triple P (readRecipient rx m >>= k) Q (Breaks I S) := by
  apply triple_bind (Q := fun off h => P h ∧ off = 5)
  · apply triple_lift_bind _ weaker
    rintro ⟨recipient, off⟩ read
    obtain ⟨rfl, -, -⟩ := payloadReadU32_some read (by decide)
    apply triple_self_bind
    intro c
    apply triple_ensure_bind _ weaker
    exact fun _ => triple_pure _ fun h holds => ⟨holds, rfl⟩
  · intro off
    apply triple_given
    rintro rfl
    exact rest

/-- What the string at `off` is read to ends the output if and only if it is not empty. -/
theorem triple_takeData {S : Host Client → Prop} {payloadMax capacity off : Nat} {rx : List UInt8} {m : Mem}
    (room : capacity ≠ 0) (small : off + 4 < 4294967296)
    (number : rx.head? ≠ some 96 ∧ rx.head? ≠ some 97)
    (empty : EmptyData rx ↔ beNat ((rx.drop off).take 4) = 0) :
    Triple (Heard (Follows h₀) payloadMax (rx, m)) (takeData capacity rx m off >>= fun data => pure (some data))
      (Taken h₀) (Breaks (Follows h₀) S) := by
  constructor
  intro h heard
  rw [takeData, bind_assoc_run, bind_run]
  cases read : payloadReadStringView m rx.length off with
  | none => exact heard.follows
  | some pair =>
      obtain ⟨str, next⟩ := pair
      apply heard.ended _ rfl
      obtain ⟨h₁, rest, -, -, is, -⟩ := heard
      obtain rfl : m = memOf rx rest := is
      have length := stringView_length small read
      have nothing : (str.bytes (memOf rx rest)).take capacity = [] ↔ str.len = 0 := by
        rw [← List.length_eq_zero_iff, List.length_take, View.bytes, length_slice]
        omega
      rw [EndsOutput, nothing, empty, length]
      simp [number]

theorem triple_takePacket {S : Host Client → Prop} {payloadMax capacity : Nat} {number : UInt8} {rx : List UInt8}
    {m : Mem} (room : capacity ≠ 0) (head : rx.head? = some number)
    (handles : Stays (Follows h₀) S (handleServerKexinit noxtls env rx m)) :
    Triple (Heard (Follows h₀) payloadMax (rx, m)) (takePacket noxtls env capacity number rx m)
      (Taken h₀) (Breaks (Follows h₀) S) := by
  have follows : ∀ h, Heard (Follows h₀) payloadMax (rx, m) h → Follows h₀ h := fun _ heard => heard.follows
  apply triple_ite
  · intro _
    apply Triple.mono (P := Follows h₀) _ follows (fun _ _ => id) (fun _ _ => id)
    exact triple_bind handles.failAs fun _ => triple_pure _ fun _ => id
  intro kexinit
  apply triple_ite
  · rintro rfl
    apply triple_recipient_bind follows
    exact triple_takeData room (by decide) (by simp [head]) (by simp [EmptyData, head])
  intro data
  apply triple_ite
  · rintro rfl
    apply triple_recipient_bind follows
    apply triple_lift_bind _ follows
    rintro ⟨code, off⟩ read
    obtain ⟨rfl, -, -⟩ := payloadReadU32_some read (by decide)
    exact triple_takeData room (by decide) (by simp [head]) (by simp [EmptyData, head])
  intro extended
  apply triple_ite
  · intro _
    apply Triple.mono (P := Follows h₀) _ follows (fun _ _ => id) (fun _ _ => id)
    apply triple_bind (Q := fun _ => Follows h₀)
    · apply stays_bind (stays_readRecipient rx m)
      intro off
      apply stays_lift_bind
      rintro ⟨req, off⟩ -
      apply stays_ensure_bind
      intro _
      apply stays_ite _ (stays_pure ())
      apply stays_lift_bind
      rintro ⟨status, _⟩ -
      exact stays_modify fun h held => quiet_update held fun _ => rfl
    · exact fun _ => triple_pure _ fun _ => id
  intro _
  have none : ¬ EmptyData rx := by simp [EmptyData, head, data, extended]
  apply triple_ite
  · rintro rfl
    exact triple_pure _ fun h heard => heard.ended (by simp [none, EndsOutput, head]) rfl
  intro _
  apply triple_ite
  · rintro rfl
    apply triple_bind (Q := fun _ => Ended h₀ [])
    · exact triple_modify fun h heard => heard.ended (by simp [none, EndsOutput, head]) rfl
    · exact fun _ => triple_pure _ fun _ => id
  exact fun _ => triple_pure _ follows

theorem triple_recvDataLoop {capacity : Nat} (room : capacity ≠ 0) (turns : Nat) :
    Triple (Follows h₀) (recvDataLoop noxtls env capacity turns) (Ended h₀) (Breaks (Follows h₀) (Follows h₀)) := by
  induction turns with
  | zero => exact triple_stall fun _ => id
  | succ turns ih =>
      apply triple_bind (triple_recvInto chatter_any.toBackground chatter_any.receiving steady_unit.toPassive
        (fun _ _ step follows => (quiet_order _ _).trans follows step) maxPacketLen).failAs
      rintro ⟨rx, m⟩
      dsimp only
      split
      · exact ih.mono (fun _ heard => heard.follows) (fun _ _ => id) fun _ _ => id
      · rename_i number head
        apply triple_bind (triple_takePacket room head ((exchanges_follows h₀).handles rx m))
        intro taken
        cases taken with
        | none => exact ih
        | some data => exact triple_pure data fun _ => id

/-- **When no data is the end.**  In every state with an open channel and for everything
the server sends: if the call returns success, it stopped at a packet that ends the output
or gave some data, just if the packet it read last is not empty data. -/
theorem recv_data_end_iff (noxtls : Noxtls) (env : Env) (h h' : Host Client) (capacity : Nat) (data : List UInt8)
    (ran : (recvData noxtls env capacity).run h = (.ok data, h')) :
    ∃ new rx c, h'.trace = h.trace ++ new ++ [(.received rx, c)] ∧ (EndsOutput rx data ↔ ¬ EmptyData rx) := by
  rw [recvData] at ran
  obtain ⟨⟨room, -⟩, ran⟩ := ensure_bind_inv ran
  rw [self_bind_run] at ran
  obtain ⟨-, ran⟩ := ensure_bind_inv ran
  have ends := (@triple_recvDataLoop noxtls env h capacity room (h.inbox.length + 1)).ends h
    ((quiet_order _ _).refl h)
  have same : (recvDataLoop noxtls env capacity (h.inbox.length + 1)).run h = (.ok data, h') := ran
  rwa [same] at ends

end Receiving

namespace Probe

/-- A packet from the server to a client that has keys of zeros. -/
def delivered (payload : List UInt8) : Host Client :=
  opened 0 (sealAll noxtls ⟨true, zeros 16, zeros 32, zeros 16, 0⟩ [payload])

/-- Output, and none. -/
def hello : List UInt8 := [94] ++ be32 0 ++ sshString [104]

def silence : List UInt8 := [94] ++ be32 0 ++ be32 0

/-- What `recv_data` makes of one packet. -/
def taken (payload : List UInt8) : Outcome NetnoxReturn (List UInt8) × Host Client :=
  (recvData noxtls brisk 64).run (delivered payload)

theorem taken_run {payload data : List UInt8} (ok : (taken payload).1 = .ok data) :
    (recvData noxtls brisk 64).run (delivered payload) = (.ok data, (taken payload).2) := by
  show taken payload = _
  exact Prod.ext ok rfl

end Probe

/-- A byte of output. -/
theorem recv_data_end_iff_hello :
    ∃ new rx c, (Probe.taken Probe.hello).2.trace = (Probe.delivered Probe.hello).trace ++ new ++ [(.received rx, c)] ∧
      (EndsOutput rx [104] ↔ ¬ EmptyData rx) := by
  have ran : (Probe.taken Probe.hello).1 = .ok [104] := by decide +kernel
  exact recv_data_end_iff Probe.noxtls Probe.brisk (Probe.delivered Probe.hello) _ 64 [104] (Probe.taken_run ran)

/-- An empty data string reads as the end of the output of a channel that stays open. -/
theorem recv_data_ends_early :
    ¬ ∀ (noxtls : Noxtls) (env : Env) (h h' : Host Client) (capacity : Nat) (data : List UInt8),
      (recvData noxtls env capacity).run h = (.ok data, h') →
      ∃ new rx c, h'.trace = h.trace ++ new ++ [(.received rx, c)] ∧ EndsOutput rx data := by
  intro ends
  have ran : (Probe.taken Probe.silence).1 = .ok [] ∧
      (Probe.taken Probe.silence).2.trace.getLast?.map (fun e => e.1) = some (.received Probe.silence) := by
    decide +kernel
  obtain ⟨new, rx, c, grown, ended⟩ := ends Probe.noxtls Probe.brisk (Probe.delivered Probe.silence) _ 64 []
    (Probe.taken_run ran.1)
  have last : some (Event.received rx) = some (.received Probe.silence) := by
    rw [← ran.2, grown, List.getLast?_concat, Option.map_some]
  rw [Option.some.injEq, Event.received.injEq] at last
  rw [EndsOutput, last] at ended
  exact absurd (ended rfl) (by decide)

end NoxSsh.Client
