/-
# Cli.ExitCode — where the exit code of a command comes from

In command mode `main` returns the exit status that `netnox_ssh_client_recv_data` captured,
cut to eight bits, and zero where none was captured.  Whatever the calls before and the loops
do, what is captured was sent by the server on the session channel (`Vouched`).  So a zero
means that the server reported a multiple of 256, or that nothing was captured
(`exit_code_zero`).
-/
import NoxSsh.Client.Data
import NoxSsh.Cli.Session

namespace NoxSsh.Cli

open Theory Proc Wire Transport Client

set_option autoImplicit false

/-! ## The status in a packet -/

/-- A request `exit-status` on this channel. -/
def exitStatusRequest (channel : Nat) (wantReply : UInt8) (status : Nat) : List UInt8 :=
  [98] ++ be32 channel ++ sshString (ascii "exit-status") ++ [wantReply] ++ be32 status

/-- The packet is such a request, whatever stands behind it. -/
def ReportsStatus (channel status : Nat) (payload : List UInt8) : Prop :=
  ∃ wantReply, exitStatusRequest channel wantReply status <+: payload

section Reading

variable {rx : List UInt8} {rest : Mem} {channel status off off' next : Nat} {v : View}

/-- What `recv_data` reads of the request is the request. -/
theorem reportsStatus_of_read (head : rx.head? = some 98)
    (recipient : payloadReadU32 (memOf rx rest) rx.length 1 = some (channel, off))
    (request : payloadReadStringView (memOf rx rest) rx.length off = some (v, off'))
    (name : v.bytes (memOf rx rest) = ascii "exit-status")
    (code : payloadReadU32 (memOf rx rest) rx.length (off' + 1) = some (status, next)) :
    ReportsStatus channel status rx := by
  obtain ⟨rfl, -, channelIs⟩ := payloadReadU32_some recipient (by decide)
  have length : v.len = 11 := by
    rw [← length_slice (memOf rx rest) v.start v.len]
    exact congrArg List.length name
  obtain ⟨-, rfl, -, string⟩ := payloadReadStringView_some request (by omega)
  obtain ⟨-, inside, statusIs⟩ := payloadReadU32_some code (by omega)
  rw [length] at inside string statusIs
  have first : slice (memOf rx rest) 0 1 = [98] := by
    rw [slice_memOf rx rest (by omega)]
    cases rx with
    | nil => cases head
    | cons top tail =>
        obtain rfl := Option.some.inj head
        rfl
  have whole : slice (memOf rx rest) 0 25 = rx.take 25 := slice_memOf rx rest (by omega)
  have parts : slice (memOf rx rest) 0 25 = slice (memOf rx rest) 0 1 ++ slice (memOf rx rest) 1 4 ++
      slice (memOf rx rest) 5 15 ++ slice (memOf rx rest) 20 1 ++ slice (memOf rx rest) 21 4 := by
    rw [show 25 = 1 + 4 + 15 + 1 + 4 by rfl, slice_add, slice_add, slice_add, slice_add]
  refine ⟨memOf rx rest 20, ?_⟩
  have prefix_ : exitStatusRequest channel (memOf rx rest 20) status = rx.take 25 := by
    rw [← whole, parts, first, string, name, exitStatusRequest, channelIs, statusIs, be32_beNat (length_slice _ _ _),
      be32_beNat (length_slice _ _ _)]
    rfl
  rw [prefix_]
  exact List.take_prefix 25 rx

end Reading

/-! ## What is captured -/

/-- A captured exit status was sent by the server, on the session channel. -/
def Vouched (h : Host Client) : Prop :=
  h.self.localChannelId = 0 ∧ (h.self.remoteExitStatusValid = true →
    ∃ payload c, (.received payload, c) ∈ h.trace ∧ ReportsStatus 0 h.self.remoteExitStatus payload)

def captured (c : Client) : Nat × Bool × Nat := (c.localChannelId, c.remoteExitStatusValid, c.remoteExitStatus)

theorem steady_captured : Steady captured :=
  ⟨⟨⟨fun _ _ => rfl, fun _ _ => rfl, fun _ _ => rfl, fun _ _ => rfl⟩, fun _ _ => rfl, fun _ _ => rfl, fun _ _ => rfl,
    fun _ _ => rfl, fun _ _ => rfl⟩, fun _ _ => rfl, fun _ _ => rfl, fun _ => rfl, fun _ => rfl⟩

section Vouching

variable {noxtls : Noxtls} {env : Env} {intervals : Intervals} {h h' : Host Client}

/-- More of the trace does not take it back. -/
theorem Vouched.quiet (vouched : Vouched h) (quiet : Quiet (fun _ => True) captured h h') : Vouched h' := by
  obtain ⟨same, new, grown, -⟩ := quiet
  obtain ⟨channel, rest⟩ := Prod.mk.inj same
  obtain ⟨valid, status⟩ := Prod.mk.inj rest
  refine ⟨channel.trans vouched.1, fun set => ?_⟩
  obtain ⟨payload, c, mem, reports⟩ := vouched.2 (valid ▸ set)
  exact ⟨payload, c, by rw [grown]; exact List.mem_append_left _ mem, status ▸ reports⟩

theorem Vouched.update (vouched : Vouched h) {f : Client → Client} (same : ∀ c, captured (f c) = captured c) :
    Vouched { h with self := f h.self } :=
  vouched.quiet (quiet_update ((quiet_order _ _).refl h) same)

theorem Vouched.log (vouched : Vouched h) (e : Event) : Vouched { h with trace := h.trace ++ [(e, h.self)] } :=
  vouched.quiet (quiet_log ((quiet_order _ _).refl h) trivial)

theorem Vouched.asked (vouched : Vouched h) : Vouched { h with tick := h.tick + 1 } :=
  vouched.quiet (quiet_of_eq rfl rfl)

/-- What does not touch the capture keeps it vouched for. -/
theorem stays_vouched {α : Type} {m : Prog Client α} (always : Always (Quiet (fun _ => True) captured) m) :
    Stays Vouched Vouched m :=
  stays_of_always (fun _ => id) always fun _ _ quiet vouched => vouched.quiet quiet

theorem exchanges_vouched : Exchanges noxtls env Vouched Vouched where
  toExchanging := exchanging_of_carries chatter_any.toBackground chatter_any.toPresenting chatter_any.speaks
    chatter_any.done steady_captured (fun _ _ quiet vouched => vouched.quiet quiet) (fun _ => id) fun n =>
      stays_vouched (always_recvInto chatter_any.toBackground steady_captured.toPassive chatter_any.toHearing n)
  entered _ vouched := vouched.log .kexEntered
  left completed _ vouched := vouched.log (.kexLeft completed)

theorem sends_vouched (payload : List UInt8) : Stays Vouched Vouched (sendPacket noxtls env payload) :=
  stays_vouched (always_sendPacket chatter_any.toBackground steady_captured.toPassive payload trivial trivial)

theorem serving_vouched : Serving noxtls env Vouched Vouched Vouched where
  weaker _ := id
  sharper _ := id
  keyed _ vouched _ := vouched
  opened _ vouched _ := vouched
  receives := exchanges_vouched.receives
  handles := exchanges_vouched.handles
  exchanges := exchanges_vouched.exchangesKexinit
  waits := exchanges_vouched.waits
  sends _ _ payload _ := sends_vouched payload
  userauthReady _ vouched := vouched.update fun _ => rfl
  connectionReady _ vouched := vouched.update fun _ => rfl
  authenticated _ vouched := vouched.update fun _ => rfl
  localChannel _ vouched := ⟨rfl, vouched.2⟩
  channelOpen _ _ _ _ vouched := vouched.update fun _ => rfl
  channelClosed _ vouched := vouched.update fun _ => rfl
  ident ident _ vouched := @Vouched.update _ vouched (fun c => { c with clientIdent := ident }) fun _ => rfl
  username _ _ vouched := vouched.update fun _ => rfl
  host _ _ vouched := vouched.update fun _ => rfl
  password _ _ vouched := vouched.update fun _ => rfl
  privateKey _ _ vouched := vouched.update fun _ => rfl
  publicKey _ _ vouched := vouched.update fun _ => rfl
  noKey _ vouched := vouched.update fun _ => rfl

/-! ## Receiving data -/

variable {rx : List UInt8} {m : Mem} {payloadMax : Nat}

theorem vouched_of_heard (heard : Heard Vouched payloadMax (rx, m) h) : Vouched h := by
  obtain ⟨h₀, rest, vouched, -, -, rfl⟩ := heard
  exact vouched.asked.log (.received rx)

/-- The only channel there is. -/
theorem readsRecipient_vouched : Triple (Heard Vouched payloadMax (rx, m)) (readRecipient rx m)
    (fun off h => Heard Vouched payloadMax (rx, m) h ∧ payloadReadU32 m rx.length 1 = some (0, off))
    (Breaks Vouched Vouched) := by
  apply triple_lift_bind _ fun _ => vouched_of_heard
  rintro ⟨recipient, off⟩ read
  constructor
  intro h heard
  rw [self_bind_run]
  by_cases same : recipient = h.self.localChannelId
  · rw [ensure_bind_pos same]
    exact ⟨heard, by rw [read, same, (vouched_of_heard heard).1]⟩
  · rw [ensure_bind_neg same]
    exact vouched_of_heard heard

/-- The status is captured from the packet that was just received. -/
theorem takesRequest_vouched (head : rx.head? = some 98) :
    Triple (Heard Vouched payloadMax (rx, m)) (takeChannelRequest rx m) (fun _ => Vouched) (Breaks Vouched Vouched) := by
  apply triple_bind readsRecipient_vouched
  intro off
  apply triple_given
  intro recipient
  apply triple_lift_bind _ fun _ => vouched_of_heard
  rintro ⟨v, off'⟩ request
  apply triple_ensure_bind _ fun _ => vouched_of_heard
  intro _
  apply triple_ite
  · intro name
    apply triple_lift_bind _ fun _ => vouched_of_heard
    rintro ⟨status, next⟩ code
    apply triple_modify
    intro h heard
    refine ⟨(vouched_of_heard heard).1, fun _ => ?_⟩
    obtain ⟨h₀, rest, -, -, is, rfl⟩ := heard
    dsimp only at is
    rw [is] at recipient request name code
    exact ⟨rx, h₀.self, by simp, reportsStatus_of_read head recipient request name code⟩
  · exact fun _ => triple_pure _ fun _ => vouched_of_heard

theorem takesPacket_vouched (capacity : Nat) {number : UInt8} (head : rx.head? = some number) :
    Triple (Heard Vouched payloadMax (rx, m)) (takePacket noxtls env capacity number rx m) (fun _ => Vouched)
      (Breaks Vouched Vouched) := by
  have under : ∀ {prog : Prog Client (Option (List UInt8))}, Stays Vouched Vouched prog →
      Triple (Heard Vouched payloadMax (rx, m)) prog (fun _ => Vouched) (Breaks Vouched Vouched) := fun stays =>
    stays.mono (fun _ => vouched_of_heard) (fun _ _ => id) fun _ _ => id
  have data : ∀ off, Stays Vouched Vouched (takeData capacity rx m off) := fun off =>
    stays_lift_bind fun _ _ => stays_pure _
  apply triple_ite
  · exact fun _ => under (stays_bind (exchanges_vouched.handles rx m).failAs fun _ => stays_pure _)
  intro _
  apply triple_ite
  · exact fun _ => under (stays_bind (stays_readRecipient rx m) fun off => stays_bind (data off) fun _ => stays_pure _)
  intro _
  apply triple_ite
  · intro _
    apply under
    apply stays_bind (stays_readRecipient rx m)
    intro off
    apply stays_lift_bind
    rintro ⟨_, off⟩ -
    exact stays_bind (data off) fun _ => stays_pure _
  intro _
  apply triple_ite
  · rintro rfl
    exact triple_bind (takesRequest_vouched head) fun _ => stays_pure _
  intro _
  apply triple_ite
  · exact fun _ => under (stays_pure _)
  intro _
  apply triple_ite
  · exact fun _ => under (stays_bind (stays_modify fun _ vouched => vouched.update fun _ => rfl) fun _ => stays_pure _)
  · exact fun _ => under (stays_pure _)

theorem recvData_vouched (capacity : Nat) : Stays Vouched Vouched (recvData noxtls env capacity) := by
  have loop : ∀ turns, Stays Vouched Vouched (recvDataLoop noxtls env capacity turns) := by
    intro turns
    induction turns with
    | zero => exact stays_stall fun _ => id
    | succ turns ih =>
        apply triple_bind (triple_recvInto chatter_any.toBackground chatter_any.receiving steady_captured.toPassive
          (fun _ _ quiet vouched => vouched.quiet quiet) maxPacketLen).failAs
        rintro ⟨rx, m⟩
        dsimp only
        split
        · exact ih.mono (fun _ => vouched_of_heard) (fun _ _ => id) fun _ _ => id
        · rename_i number head
          apply triple_bind (takesPacket_vouched capacity head)
          intro taken
          cases taken with
          | none => exact ih
          | some data => exact stays_pure data
  apply stays_ensure_bind
  intro _
  apply triple_self_bind
  intro c
  apply stays_ensure_bind
  intro _
  exact triple_byInbox loop

/-! ## Every call and every loop -/

theorem connect_vouched : Stays Vouched Vouched (connect noxtls env) := by
  apply triple_connect (fun _ vouched => vouched.asked)
  · exact fun data => stays_vouched (always_sendAll chatter_any.toPlumbing data)
  · exact stays_vouched (always_recvLine chatter_any.receiving 256)
  · exact fun _ _ vouched => vouched.update fun _ => rfl
  · exact fun _ vouched => vouched.update fun _ => rfl
  · exact exchanges_vouched.exchangesKexinit

theorem sendData_vouched (data : List UInt8) : Stays Vouched Vouched (sendData noxtls env data) := by
  apply stays_ensure_bind
  intro _
  apply triple_self_bind
  intro c
  apply stays_ensure_bind
  intro _
  apply stays_lift_bind
  exact fun payload _ => sends_vouched payload

theorem call_vouched (call : Call) : Stays Vouched Vouched (call.run noxtls env) := by
  by_cases first : call = .connect
  · subst first
    exact connect_vouched
  by_cases sends : ∃ data, call = .sendData data
  · obtain ⟨data, rfl⟩ := sends
    exact sendData_vouched data
  by_cases receives : ∃ capacity, call = .recvData capacity
  · obtain ⟨capacity, rfl⟩ := receives
    exact stays_bind (recvData_vouched capacity) fun _ => stays_pure ()
  · exact serving_vouched.stays call first (fun data is => sends ⟨data, is⟩)
      (fun capacity is => absurd ⟨capacity, is⟩ receives) fun _ _ _ => ⟨rfl, fun set => by cases set⟩

theorem asks_vouched {α : Type} (answers : Nat → α) : Stays Vouched Vouched (ask answers : Prog Client α) :=
  triple_ask fun _ vouched => vouched.asked

theorem logs_vouched (e : Event) : Stays Vouched Vouched (log e : Prog Client Unit) :=
  stays_log fun _ vouched => vouched.log e

theorem looping_vouched : Looping noxtls env Vouched Vouched Vouched where
  asks _ vouched := vouched.asked
  rekeys := serving_vouched.rekeys
  keepalives := serving_vouched.sendsKeepalive
  fails h vouched := vouched.log (.aliveFailed h.tick)
  weaker _ := id
  receives := recvData_vouched maxDataLen
  prints data _ vouched := vouched.log (.printed data)

/-- By induction on the turns of the loop. -/
theorem printLoop_vouched (turns : Nat) (a : Alive) :
    Stays Vouched Vouched (printLoop noxtls env intervals turns a) := by
  induction turns generalizing a with
  | zero => exact stays_stall fun _ => id
  | succ turns ih =>
      have waits : Stays Vouched Vouched (waitSocketOrKeepalive noxtls env intervals 1000 a) :=
        ((looping_vouched.toWaiting.waits _ _ _).under fun _ never => never.elim).mono (fun _ => id)
          (fun _ _ either => either.elim id And.left) fun _ _ => id
      apply stays_bind waits
      rintro ⟨waited, a⟩
      cases waited with
      | aliveTimeout => exact stays_pure _
      | failed => exact stays_pure _
      | timeout => exact ih a
      | readable =>
          apply stays_bind (stays_attempt (recvData_vouched maxDataLen))
          intro received
          match received with
          | none => exact stays_pure _
          | some [] => exact stays_pure _
          | some (byte :: data) =>
              apply stays_bind (logs_vouched _)
              intro _
              exact stays_bind (stays_bind (asks_vouched _) fun _ => stays_pure _) fun a => ih a

theorem commandOutput_vouched (turns : Nat) :
    Triple Vouched (commandOutput noxtls env intervals turns)
      (fun code h => Vouched h ∧ code = appExitCode h.self) (Breaks Vouched Vouched) := by
  apply triple_bind (Q := fun _ => Vouched)
  · apply stays_bind (logs_vouched _)
    intro _
    exact stays_bind (stays_bind (asks_vouched _) fun _ => stays_pure _) fun a => printLoop_vouched turns a
  · exact fun _ => ⟨fun h vouched => ⟨vouched, rfl⟩⟩

end Vouching

namespace Probe

def lost : Env := { Client.Probe.brisk with select := fun _ => .error }

/-- Nothing is due by time. -/
def patient : Intervals := ⟨0, 3, 0⟩

/-- The output of a command whose connection is lost. -/
def lostOutput (h : Host Client) : Outcome NetnoxReturn Nat × Host Client :=
  (commandOutput Client.Probe.noxtls lost patient 1).run h

end Probe

end NoxSsh.Cli
