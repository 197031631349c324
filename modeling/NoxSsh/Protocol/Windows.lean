/-
# Protocol.Windows — the two flow control windows of the client

`netnox_ssh_client_open_session` announces a window of 65536 bytes and no later call ever
sends a WINDOW_ADJUST: the window that is left is open as long as fewer bytes of data came
in (`receive_window_iff`).

The window of the server is stored and not looked at again, and its WINDOW_ADJUST is read
over.  A run keeps to it whose caller keeps to it (`send_window_kept`).
-/
import NoxSsh.Client.Data
import NoxSsh.Protocol.Dialogue

namespace NoxSsh.Client

open Theory Proc Wire Transport Protocol

set_option autoImplicit false

/-! ## Adding up a trace -/

/-- The sum over the events. -/
def tally (count : Event × Client → Nat) (trace : List (Event × Client)) : Nat := (trace.map count).sum

section Tally

variable {count : Event × Client → Nat} {a b : List (Event × Client)}

@[simp] theorem tally_nil : tally count [] = 0 := rfl

@[simp] theorem tally_append : tally count (a ++ b) = tally count a + tally count b := by
  rw [tally, List.map_append, List.sum_append, tally, tally]

@[simp] theorem tally_single (e : Event × Client) : tally count [e] = count e := by simp [tally]

theorem tally_none (none : ∀ e ∈ a, count e = 0) : tally count a = 0 := by
  rw [tally, List.sum_eq_zero]
  intro n mem
  obtain ⟨e, inside, rfl⟩ := List.mem_map.1 mem
  exact none e inside

end Tally

/-- The bytes a WINDOW_ADJUST grants. -/
def windowAdjust (payload : List UInt8) : Nat :=
  if payload.head? = some 93 ∧ 9 ≤ payload.length then beNat ((payload.drop 5).take 4) else 0

/-- The bytes of data in a CHANNEL_DATA. -/
def dataLength (payload : List UInt8) : Nat := ((dataString payload).getD []).length

/-! ## The window of the client -/

/-- What the client granted in this step. -/
def grants (e : Event × Client) : Nat :=
  match e.1 with
  | .sent payload => windowAdjust payload
  | _ => 0

/-- What it received of the server's data. -/
def receives (e : Event × Client) : Nat :=
  match e.1 with
  | .received payload => dataLength payload
  | _ => 0

/-- Nothing is granted, whatever the context is. -/
def Grantless (e : Event) : Prop := ∀ c, grants (e, c) = 0

theorem grantless_speaks {number : UInt8} (other : number ≠ 93) : Speaks Grantless number := by
  intro payload number
  refine ⟨fun _ => rfl, fun _ => ?_⟩
  show windowAdjust payload = 0
  rw [windowAdjust, if_neg]
  rintro ⟨is, -⟩
  rw [number] at is
  exact other (Option.some.inj is)

theorem grantless_chatter : KexChatter Grantless :=
  ⟨⟨⟨fun _ _ => rfl, fun _ => rfl, fun _ => rfl⟩, fun _ _ _ => rfl, fun _ _ _ => rfl⟩, ⟨fun _ _ => rfl, fun _ _ => rfl⟩,
    ⟨fun _ _ => rfl, fun _ _ _ _ => rfl⟩, fun number known => by
      apply grantless_speaks
      rcases known with rfl | rfl | rfl <;> decide, fun _ => rfl, fun _ _ => rfl, fun _ _ _ => rfl⟩

section Receive

variable (noxtls : Noxtls) (env : Env)

/-- No call grants anything. -/
theorem calls_grantless (calls : List Call) (h : Host Client) :
    Stays (Since Grantless h) (Since Grantless h) (Calls.run noxtls env calls) := by
  apply stays_calls
  intro call _
  by_cases data : ∃ data, call = .sendData data
  · obtain ⟨data, rfl⟩ := data
    exact sendData_since grantless_chatter h (grantless_speaks (by decide)) data
  · apply stays_since grantless_chatter h
    · intro number known
      apply grantless_speaks
      rintro rfl
      revert known
      decide
    · exact fun bytes is => data ⟨bytes, is⟩

theorem calls_grant_nothing (calls : List Call) (h : Host Client) :
    ∃ new, ((Calls.run noxtls env calls).run h).2.trace = h.trace ++ new ∧ tally grants new = 0 := by
  obtain ⟨-, new, grown, none⟩ := (calls_grantless noxtls env calls h).keeps h ((quiet_order _ _).refl h)
  exact ⟨new, grown, tally_none fun e mem => (none e mem).1 e.2⟩

/-- **The client's window.**  From every state with an open channel and for every program,
whatever the server sends: the window that was announced and all that the client granted
since is more than the data it received just if that is less than 65536 bytes. -/
theorem receive_window_iff (calls : List Call) (h : Host Client) :
    ∃ new, ((Calls.run noxtls env calls).run h).2.trace = h.trace ++ new ∧
      ((0 : Int) < (channelWindowSize + tally grants new : Nat) - (tally receives new : Nat) ↔
        tally receives new < 65536) := by
  obtain ⟨new, grown, none⟩ := calls_grant_nothing noxtls env calls h
  refine ⟨new, grown, ?_⟩
  rw [none, channelWindowSize]
  omega

end Receive

/-! ## A server that uses the whole window -/

section Hearing

variable {noxtls : Noxtls} {env : Env} {h : Host Client} {last : Lane} {payloads : List (List UInt8)} {rest : List UInt8}

/-- A CHANNEL_DATA to the client's channel. -/
def dataMessage (data : List UInt8) : List UInt8 := [94] ++ be32 0 ++ sshString data

theorem dataString_dataMessage {data : List UInt8} (short : data.length < 4294967296) :
    dataString (dataMessage data) = some data := by
  have length : ((dataMessage data).drop 5).take 4 = be32 data.length := by
    rw [dataMessage, List.drop_left' (by simp), sshString, List.take_left' (by simp)]
  have string : (dataMessage data).drop 9 = data := by
    rw [dataMessage, sshString, ← List.append_assoc, List.drop_left' (by simp)]
  rw [dataString, if_pos (by simp [dataMessage]), length, string, beNat_be32, Nat.mod_eq_of_lt short, List.take_length]

theorem takePacket_data {data : List UInt8} (short : data.length ≤ 32768) {capacity : Nat} (stale : Mem)
    (channel : h.self.localChannelId = 0) :
    (takePacket noxtls env capacity 94 (dataMessage data) (memOf (dataMessage data) stale)).run h =
      (.ok (some (data.take capacity)), h) := by
  have size : (dataMessage data).length = 9 + data.length := by
    simp [dataMessage]
    omega
  have stands := holds_memOf (dataMessage data) stale
  rw [dataMessage, List.append_assoc, holds_append, holds_append] at stands
  rw [← List.append_assoc, ← dataMessage] at stands
  obtain ⟨-, id, string⟩ := stands
  have recipient : payloadReadU32 (memOf (dataMessage data) stale) (dataMessage data).length 1 = some (0, 5) := by
    have read := @payloadReadU32_holds _ (dataMessage data).length _ 0 id (by simp; omega) (by omega)
    rwa [wrap32_of_lt (by decide)] at read
  have read := @payloadReadStringView_holds _ (dataMessage data).length _ _ string (by simp; omega) (by omega)
  have view := view_sshString string
  have reads : (readRecipient (dataMessage data) (memOf (dataMessage data) stale)).run h = (.ok 5, h) := by
    rw [readRecipient, recipient, lift_some, pure_bind_run, self_bind_run, ensure_bind_pos channel.symm]
    rfl
  have takes : (takeData capacity (dataMessage data) (memOf (dataMessage data) stale) 5).run h =
      (.ok (data.take capacity), h) := by
    rw [takeData, show (5 : Nat) = 0 + [(94 : UInt8)].length + (be32 0).length by simp, read, lift_some, pure_bind_run]
    dsimp only
    rw [view]
    rfl
  rw [takePacket, if_neg (by decide), if_pos rfl, bind_run, reads]
  dsimp only
  rw [bind_run, takes]
  rfl

/-- A CHANNEL_DATA on the way is what one `recv_data` returns, up to the capacity. -/
theorem recvData_live (ctr : CtrMode noxtls) (live : Live env) {data : List UInt8} {capacity : Nat}
    (room : capacity ≠ 0 ∧ capacity ≤ maxDataLen) (short : data.length ≤ 32768)
    (opened : h.self.connected = true ∧ h.self.channelOpen = true) (channel : h.self.localChannelId = 0)
    (awaiting : Awaiting noxtls last (dataMessage data :: payloads) rest h) :
    ∃ h' new, (recvData noxtls env capacity).run h = (.ok (data.take capacity), h') ∧ h'.trace = h.trace ++ new ∧
      tally receives new = data.length ∧ Awaiting noxtls last payloads rest h' ∧ core h'.self = core h.self := by
  have size : (dataMessage data).length ≤ maxPacketLen := by
    simp [dataMessage, maxPacketLen]
    omega
  obtain ⟨got, h₁, ran, ⟨stale, rfl⟩, -, awaits, same⟩ := (hears_live ctr live size awaiting).ok id
  have heard := (@triple_recvInto _ noxtls env (fun e => ∀ c, receives (e, c) = 0) (fun _ => ())
    (Quiet (fun e => ∀ c, receives (e, c) = 0) (fun _ => ()) h)
    ⟨⟨fun _ _ => rfl, fun _ => rfl, fun _ => rfl⟩, fun _ _ _ => rfl, fun _ _ _ => rfl⟩ (fun _ _ => rfl)
    steady_unit.toPassive (fun _ _ step since => (quiet_order _ _).trans since step) maxPacketLen).ends h
      ((quiet_order _ _).refl h)
  rw [ran] at heard
  obtain ⟨h₀, _, ⟨-, before, grown, silent⟩, -, -, is⟩ := heard
  have here : h₁.self.localChannelId = 0 := by
    rw [@eq_of_core _ Client.localChannelId (fun _ => rfl) _ _ same, channel]
  refine ⟨h₁, before ++ [(.received (dataMessage data), h₀.self)], ?_, ?_, ?_, awaits, same⟩
  · rw [recvData, ensure_bind_pos room, self_bind_run, ensure_bind_pos opened]
    show (recvDataLoop noxtls env capacity (h.inbox.length + 1)).run h = _
    rw [recvDataLoop, bind_run, failAs_run, ran]
    dsimp only
    rw [show (dataMessage data).head? = some 94 from rfl]
    dsimp only
    rw [bind_run, takePacket_data short stale here]
    rfl
  · rw [is]
    simp [grown]
  · rw [tally_append, tally_none fun e mem => silent e mem |>.1 e.2, tally_single, Nat.zero_add]
    show dataLength (dataMessage data) = _
    rw [dataLength, dataString_dataMessage (by omega), Option.getD_some]

/-- And `n` of them of `n` calls. -/
theorem recvData_all (ctr : CtrMode noxtls) (live : Live env) {data : List UInt8} (short : data.length ≤ 4096) (n : Nat)
    {h : Host Client} (opened : h.self.connected = true ∧ h.self.channelOpen = true)
    (channel : h.self.localChannelId = 0)
    (awaiting : Awaiting noxtls last (List.replicate n (dataMessage data)) rest h) :
    ∃ new, ((Calls.run noxtls env (List.replicate n (.recvData 4096))).run h).2.trace = h.trace ++ new ∧
      tally receives new = n * data.length := by
  induction n generalizing h with
  | zero => exact ⟨[], (List.append_nil _).symm, by simp⟩
  | succ n ih =>
      rw [List.replicate_succ] at awaiting
      have room : (4096 : Nat) ≠ 0 ∧ 4096 ≤ maxDataLen := by decide
      obtain ⟨h₁, new, ran, grown, read, awaits, same⟩ :=
        recvData_live ctr live room (by omega) opened channel awaiting
      have opened' : h₁.self.connected = true ∧ h₁.self.channelOpen = true := by
        rw [@eq_of_core _ (fun c => c.connected) (fun _ => rfl) _ _ same,
          @eq_of_core _ (fun c => c.channelOpen) (fun _ => rfl) _ _ same]
        exact opened
      have channel' : h₁.self.localChannelId = 0 := by
        rw [@eq_of_core _ Client.localChannelId (fun _ => rfl) _ _ same, channel]
      obtain ⟨more, grown', reads⟩ := ih opened' channel' awaits
      refine ⟨new ++ more, ?_, by rw [tally_append, read, reads, Nat.succ_mul, Nat.add_comm]⟩
      have call : (Call.run noxtls env (.recvData 4096)).run h = (.ok (), h₁) := by
        show (recvData noxtls env 4096 >>= fun _ => pure ()).run h = _
        rw [bind_run, ran]
        rfl
      rw [List.replicate_succ, Calls.run, bind_run, attempt_run, call]
      show ((Calls.run noxtls env (List.replicate n (.recvData 4096))).run h₁).2.trace = _
      rw [grown', grown, List.append_assoc]

end Hearing

/-- Sixteen packets of 4096 bytes, each read whole: nothing is left of the window. -/
theorem receive_window_closes :
    ¬ ∀ (noxtls : Noxtls) (env : Env) (calls : List Call) (h : Host Client),
      h.self.channelOpen = true → h.trace = [] →
      (0 : Int) < (channelWindowSize + tally grants ((Calls.run noxtls env calls).run h).2.trace : Nat) -
        (tally receives ((Calls.run noxtls env calls).run h).2.trace : Nat) := by
  intro remains
  obtain ⟨data, size⟩ : ∃ data : List UInt8, data.length = 4096 := ⟨List.replicate 4096 7, List.length_replicate⟩
  have small : ∀ p ∈ List.replicate 16 (dataMessage data), p.length ≤ 34980 := by
    intro p mem
    rw [List.eq_of_mem_replicate mem]
    simp [dataMessage, size]
  obtain ⟨frames, last, sealed, -⟩ := @onTheWay_sealAll Sample.noxtls rfl Sample.ctrMode []
    (List.replicate 16 (dataMessage data)) (recvSide.lane (Probe.opened 0 []).self) (fun _ => by decide) small
  have block : HasBlock (sendSide.lane (Probe.opened 0 []).self) := fun _ => by decide
  have awaiting : Awaiting Sample.noxtls last (List.replicate 16 (dataMessage data)) []
      (Probe.opened 0 (frames.flatten ++ [])) :=
    ⟨block, _, frames, sealed, ⟨rfl, rfl, fun _ => ⟨rfl, rfl, rfl, rfl⟩⟩, rfl⟩
  obtain ⟨new, grown, read⟩ := recvData_all Sample.ctrMode live_calm (by omega) 16 ⟨rfl, rfl⟩ rfl awaiting
  obtain ⟨new', grown', none⟩ := calls_grant_nothing Sample.noxtls calm (List.replicate 16 (.recvData 4096))
    (Probe.opened 0 (frames.flatten ++ []))
  have window := remains Sample.noxtls calm (List.replicate 16 (.recvData 4096))
    (Probe.opened 0 (frames.flatten ++ [])) rfl rfl
  have empty : (Probe.opened 0 (frames.flatten ++ [])).trace = [] := rfl
  rw [empty, List.nil_append] at grown grown'
  rw [← grown'] at none
  rw [none, grown, read, size] at window
  exact absurd window (by decide)

/-! ## The window of the server -/

/-- What the server granted in this step, to the channel of the client. -/
def credits (e : Event × Client) : Nat :=
  match e.1 with
  | .received payload => if beNat ((payload.drop 1).take 4) = e.2.localChannelId then windowAdjust payload else 0
  | _ => 0

/-- What went out as channel data. -/
def spends (e : Event × Client) : Nat := ((dataSent e.1).getD []).length

/-- At every moment of the run no more was sent than the window `window` and what was granted
by then. -/
def WindowKept (window : Nat) (trace : List (Event × Client)) : Prop :=
  ∀ front, front <+: trace → tally spends front ≤ window + tally credits front

/-- What is handed over is covered by what is left of the window, where the call passes its
checks: so is what the packet limit leaves of it. -/
def Covered (window : Nat) (h : Host Client) : Call → Prop
  | .sendData data => data ≠ [] ∧ data.length ≤ maxDataLen → h.self.connected = true ∧ h.self.channelOpen = true →
      tally spends h.trace + (chunk h.self.remoteMaxPacketSize data).length ≤ window + tally credits h.trace
  | _ => True

/-- Every call of the program finds itself covered. -/
def AllCovered (noxtls : Noxtls) (env : Env) (window : Nat) : List Call → Host Client → Prop
  | [], _ => True
  | call :: calls, h => Covered window h call ∧
      AllCovered noxtls env window calls ((attempt (call.run noxtls env)).run h).2

/-- No data is sent. -/
def Spendless (e : Event) : Prop := dataSent e = none

theorem spendless_chatter : KexChatter Spendless :=
  ⟨⟨⟨fun _ => rfl, rfl, rfl⟩, fun _ _ => rfl, fun _ _ => rfl⟩, ⟨fun _ => rfl, fun _ => rfl⟩,
    ⟨fun _ => rfl, fun _ _ _ => rfl⟩, fun number known => by
      rintro payload head
      refine ⟨rfl, if_neg ?_⟩
      rw [head, Option.some.injEq]
      rcases known with rfl | rfl | rfl <;> decide, rfl, fun _ => rfl, fun _ _ => rfl⟩

section Spending

variable {noxtls : Noxtls} {env : Env} {window : Nat} {a b : List (Event × Client)}

/-- Keeping to the window, a run may go on for what is left of it. -/
theorem WindowKept.append (kept : WindowKept window a)
    (covered : tally spends a + tally spends b ≤ window + tally credits a) : WindowKept window (a ++ b) := by
  rintro front ⟨tail, is⟩
  rcases List.append_eq_append_iff.1 is with ⟨rest, whole, -⟩ | ⟨more, rfl, whole⟩
  · exact kept front ⟨rest, whole.symm⟩
  · rw [whole, tally_append] at covered
    rw [tally_append, tally_append]
    omega

/-- A packet puts its own data on the wire, and no other. -/
theorem sendPacket_spends (payload : List UInt8) (h : Host Client) :
    ∃ new, ((sendPacket noxtls env payload).run h).2.trace = h.trace ++ new ∧ tally spends new ≤ dataLength payload := by
  have silent : Always (Quiet Spendless fun _ : Client => ()) (sendPacketWith noxtls sendSide (fillRandom env)
      (sendAll env) (writeSealed env) uncounted payload) :=
    always_sendPacketWith (quiet_plain _ _) (fun _ _ => always_log rfl) (fun _ => always_modify fun _ => rfl)
      (fun _ => always_modify fun _ => rfl) (fun _ => always_modify fun _ => rfl) always_fillRandom
      (always_sendAll spendless_chatter.toPlumbing) (always_writeSealed spendless_chatter.toPlumbing) payload
  have nothing : ∀ {new : List (Event × Client)}, (∀ e ∈ new, Spendless e.1) → tally spends new = 0 := by
    intro new none
    apply tally_none
    intro e mem
    rw [spends, none e mem]
    rfl
  by_cases some : payload = []
  · rw [sendPacket, ensure_bind_neg (by simp [some])]
    exact ⟨[], (List.append_nil _).symm, Nat.zero_le _⟩
  rw [sendPacket, ensure_bind_pos some, log_bind_run, bind_run]
  obtain ⟨-, new, grown, none⟩ := silent { h with trace := h.trace ++ [(.sending payload, h.self)] }
  have none := nothing fun e mem => (none e mem).1
  rcases ran : (sendPacketWith noxtls sendSide (fillRandom env) (sendAll env) (writeSealed env) uncounted payload).run
    { h with trace := h.trace ++ [(.sending payload, h.self)] } with ⟨o, h₁⟩
  rw [ran] at grown
  change h₁.trace = h.trace ++ [(.sending payload, h.self)] ++ new at grown
  have sending : tally spends [(.sending payload, h.self)] = 0 := rfl
  cases o with
  | ok _ =>
      refine ⟨[(.sending payload, h.self)] ++ new ++ [(.sent payload, h₁.self)], by simp [grown], ?_⟩
      rw [tally_append, tally_append, sending, none, tally_single, Nat.zero_add]
      exact Nat.le_refl _
  | err _ =>
      refine ⟨[(.sending payload, h.self)] ++ new, by simp [grown], ?_⟩
      rw [tally_append, sending, none]
      exact Nat.zero_le _
  | stuck =>
      refine ⟨[(.sending payload, h.self)] ++ new, by simp [grown], ?_⟩
      rw [tally_append, sending, none]
      exact Nat.zero_le _

/-- A call that sends data keeps to the window if it is covered. -/
theorem sendData_kept {h : Host Client} {data : List UInt8} (kept : WindowKept window h.trace)
    (covered : Covered window h (.sendData data)) :
    WindowKept window ((sendData noxtls env data).run h).2.trace := by
  rw [sendData]
  by_cases whole : data ≠ [] ∧ data.length ≤ maxDataLen
  swap
  · rw [ensure_bind_neg whole]
    exact kept
  rw [ensure_bind_pos whole, self_bind_run]
  by_cases opened : h.self.connected = true ∧ h.self.channelOpen = true
  swap
  · rw [ensure_bind_neg opened]
    exact kept
  have fits := length_chunk_le h.self.remoteMaxPacketSize data
  rw [ensure_bind_pos opened, buildData_eq _ fits, lift_some, pure_bind_run]
  obtain ⟨new, grown, spent⟩ :=
    @sendPacket_spends noxtls env
      ([94] ++ be32 h.self.remoteChannelId ++ sshString (chunk h.self.remoteMaxPacketSize data)) h
  rw [dataLength, dataString_buildData _ fits, Option.getD_some] at spent
  rw [grown]
  apply kept.append
  have room := covered whole opened
  omega

/-- Every other call sends none. -/
theorem call_kept {h : Host Client} (call : Call) (kept : WindowKept window h.trace) (covered : Covered window h call) :
    WindowKept window ((call.run noxtls env).run h).2.trace := by
  by_cases data : ∃ data, call = .sendData data
  · obtain ⟨data, rfl⟩ := data
    exact sendData_kept kept covered
  · have since := @stays_since noxtls env _ spendless_chatter h (by
      intro number known payload head
      refine ⟨rfl, if_neg ?_⟩
      rw [head, Option.some.injEq]
      rintro rfl
      revert known
      decide) call fun bytes is => data ⟨bytes, is⟩
    obtain ⟨-, new, grown, none⟩ := since.keeps h ((quiet_order _ _).refl h)
    have nothing : tally spends new = 0 := by
      apply tally_none
      intro e mem
      rw [spends, (none e mem).1]
      rfl
    rw [grown]
    apply kept.append
    rw [nothing]
    exact kept _ (List.prefix_refl _)

theorem calls_kept (calls : List Call) :
    ∀ h : Host Client, WindowKept window h.trace → AllCovered noxtls env window calls h →
      WindowKept window ((Calls.run noxtls env calls).run h).2.trace := by
  induction calls with
  | nil => exact fun h kept _ => kept
  | cons call calls ih =>
      rintro h kept ⟨covered, rest⟩
      have step := @call_kept noxtls env window h call kept covered
      rw [Calls.run, bind_run]
      rw [attempt_run] at rest ⊢
      revert step rest
      rcases (call.run noxtls env).run h with ⟨o, h₁⟩
      cases o with
      | ok _ => exact fun rest step => ih h₁ step rest
      | err _ => exact fun rest step => ih h₁ step rest
      | stuck => exact fun _ step => step

/-- **The server's window.**  In every run that starts with any window of the server's, for
every program and whatever the server sends: if every call with data finds it covered, the
data sent is at every moment within the window and what the server granted by then. -/
theorem send_window_kept (calls : List Call) (h : Host Client) (fresh : h.trace = [])
    (covered : AllCovered noxtls env h.self.remoteWindowSize calls h) :
    WindowKept h.self.remoteWindowSize ((Calls.run noxtls env calls).run h).2.trace := by
  apply calls_kept calls h _ covered
  rw [fresh]
  rintro front ⟨rest, is⟩
  rw [(List.append_eq_nil_iff.1 is).1]
  exact Nat.zero_le _

end Spending

/-- A byte to a server that takes one and granted one. -/
theorem send_window_kept_one :
    WindowKept (Probe.opened 1 []).self.remoteWindowSize
      ((Calls.run Probe.noxtls Probe.brisk [.sendData [1]]).run (Probe.opened 1 [])).2.trace :=
  send_window_kept [.sendData [1]] (Probe.opened 1 []) rfl ⟨fun _ _ => by decide, trivial⟩

namespace Probe

/-- A server that granted nothing yet. -/
def shut : Host Client := { opened 16 [] with self := { (opened 16 []).self with remoteWindowSize := 0 } }

end Probe

/-- A byte to a server that granted none. -/
theorem send_window_ignored :
    ¬ ∀ (noxtls : Noxtls) (env : Env) (calls : List Call) (h : Host Client), h.trace = [] → h.self.channelOpen = true →
      WindowKept h.self.remoteWindowSize ((Calls.run noxtls env calls).run h).2.trace := by
  intro kept
  have spent : tally spends ((Calls.run Probe.noxtls Probe.brisk [.sendData [1]]).run Probe.shut).2.trace = 1 ∧
      tally credits ((Calls.run Probe.noxtls Probe.brisk [.sendData [1]]).run Probe.shut).2.trace = 0 := by
    decide +kernel
  have whole := kept Probe.noxtls Probe.brisk [.sendData [1]] Probe.shut rfl rfl _ (List.prefix_refl _)
  rw [spent.1, spent.2] at whole
  exact absurd whole (by decide)

end NoxSsh.Client
