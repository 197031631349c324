/-
# Cli.ExitStatus — when the exit status is picked up

`netnox_ssh_client_recv_data` keeps the channel open at a CHANNEL_EOF and returns no data,
and the loop that prints the output takes no data for the end.  A server may report the exit
status before or after its EOF.  What comes after the EOF is not read, so the exit code is the
status just if no EOF stands in front of it, or if it would be zero anyway
(`exit_status_taken_iff`).
-/
import NoxSsh.Cli.ExitCode
import NoxSsh.Protocol.Dialogue

namespace NoxSsh.Cli

open Theory Proc Wire Transport Client

set_option autoImplicit false

/-! ## What a server says on the channel -/

inductive Saying where
  | data (bytes : List UInt8)
  | extendedData (code : Nat) (bytes : List UInt8)
  | windowAdjust (bytes : Nat)
  | request (name : List UInt8) (wantReply : UInt8) (fields : List UInt8)
  | exitStatus (wantReply : UInt8) (status : Nat)
  | eof
  | close
  deriving DecidableEq, Repr

/-- The packet, on channel 0. -/
def Saying.payload : Saying → List UInt8
  | .data bytes => [94] ++ be32 0 ++ sshString bytes
  | .extendedData code bytes => [95] ++ be32 0 ++ be32 code ++ sshString bytes
  | .windowAdjust bytes => [93] ++ be32 0 ++ be32 bytes
  | .request name wantReply fields => [98] ++ be32 0 ++ sshString name ++ [wantReply] ++ fields
  | .exitStatus wantReply status => exitStatusRequest 0 wantReply status
  | .eof => [96] ++ be32 0
  | .close => [97] ++ be32 0

def Saying.number : Saying → UInt8
  | .data _ => 94
  | .extendedData _ _ => 95
  | .windowAdjust _ => 93
  | .request _ _ _ => 98
  | .exitStatus _ _ => 98
  | .eof => 96
  | .close => 97

/-- Data is not empty, and another request has another name. -/
def Saying.Proper : Saying → Prop
  | .data bytes => bytes ≠ []
  | .extendedData _ bytes => bytes ≠ []
  | .request name _ _ => name ≠ ascii "exit-status"
  | _ => True

/-- It is proper and fits a packet. -/
def Saying.WellFormed (s : Saying) : Prop := s.Proper ∧ s.payload.length ≤ 34980

/-- What `recv_data` hands over for it, if it stops there. -/
def Saying.output : Saying → Option (List UInt8)
  | .data bytes => some (bytes.take maxDataLen)
  | .extendedData _ bytes => some (bytes.take maxDataLen)
  | .eof => some []
  | .close => some []
  | _ => none

/-- What it changes of the context. -/
def Saying.effect : Saying → Client → Client
  | .exitStatus _ status => setExitStatus (wrap32 status)
  | .close => closeChannel
  | _ => id

/-- What it makes of the captured status. -/
def Saying.report : Saying → Option Nat → Option Nat
  | .exitStatus _ status, _ => some (wrap32 status)
  | _, before => before

/-- The status that is captured up to the first EOF or CLOSE, from what was before. -/
def statusTaken : List Saying → Option Nat → Option Nat
  | [], before => before
  | s :: later, before => if s.output = some [] then before else statusTaken later (s.report before)

/-! ## One packet -/

section Packet

variable {noxtls : Noxtls} {env : Env} {h : Host Client}

theorem Saying.head_payload (s : Saying) : s.payload.head? = some s.number := by
  cases s <;> rfl

theorem readRecipient_zero {rx : List UInt8} {stale : Mem} {number : UInt8} {tail : List UInt8}
    (is : rx = [number] ++ be32 0 ++ tail) (short : rx.length ≤ 34980) (channel : h.self.localChannelId = 0) :
    (readRecipient rx (memOf rx stale)).run h = (.ok 5, h) := by
  have stands : Holds (memOf rx stale) 1 (be32 0) := by
    have whole := holds_memOf rx stale
    rw [is, holds_append, holds_append] at whole
    rw [is]
    exact whole.1.2
  have length : 5 ≤ rx.length := by
    rw [is]
    simp
  rw [readRecipient, payloadReadU32_holds stands (by omega) (by omega), lift_some, pure_bind_run]
  dsimp only
  rw [self_bind_run, ensure_bind_pos (by rw [channel]; rfl)]
  rfl

/-- The data string at the end of a packet. -/
theorem takeData_last {rx front bytes : List UInt8} {stale : Mem} {off : Nat} (is : rx = front ++ sshString bytes)
    (short : rx.length ≤ 34980) (here : off = front.length) :
    (takeData maxDataLen rx (memOf rx stale) off).run h = (.ok (bytes.take maxDataLen), h) := by
  subst here
  have stands : Holds (memOf rx stale) front.length (sshString bytes) := by
    have whole := holds_memOf rx stale
    rw [is, holds_append, Nat.zero_add] at whole
    rw [is]
    exact whole.2
  have length : rx.length = front.length + (4 + bytes.length) := by
    rw [is]
    simp
  rw [takeData, payloadReadStringView_holds stands (by omega) (by omega)]
  show (Outcome.ok ((View.bytes ⟨front.length + 4, bytes.length⟩ _).take maxDataLen), h) = _
  rw [view_sshString stands]

/-- A request is read up to its own fields. -/
theorem takeRequest_name {rx name tail : List UInt8} {wantReply : UInt8} {stale : Mem}
    (is : rx = [98] ++ be32 0 ++ sshString name ++ [wantReply] ++ tail) (short : rx.length ≤ 34980)
    (channel : h.self.localChannelId = 0) :
    (takeChannelRequest rx (memOf rx stale)).run h =
      (if name = ascii "exit-status" then
        lift .failed (payloadReadU32 (memOf rx stale) rx.length (9 + name.length + 1)) >>= fun got =>
          modify (setExitStatus got.1)
      else pure ()).run h := by
  have recipient := @readRecipient_zero h rx stale 98 (sshString name ++ [wantReply] ++ tail) (by rw [is]; simp) short
    channel
  have stands : Holds (memOf rx stale) 5 (sshString name) := by
    have whole := holds_memOf rx stale
    rw [is, holds_append, holds_append, holds_append] at whole
    rw [is]
    exact whole.1.1.2
  have length : 9 + name.length + 1 ≤ rx.length := by
    rw [is]
    simp
    omega
  rw [takeChannelRequest, bind_ok recipient,
    payloadReadStringView_holds stands (by omega) (by omega), lift_some, pure_bind_run]
  dsimp only
  rw [ensure_bind_pos (by omega), view_sshString stands]
  by_cases named : name = ascii "exit-status"
  · rw [if_pos named, if_pos named, show 5 + (4 + name.length) + 1 = 9 + name.length + 1 by omega]
  · rw [if_neg named, if_neg named]

/-- A well-formed packet is taken for what it is. -/
theorem takePacket_saying {s : Saying} (formed : s.WellFormed) (stale : Mem) (channel : h.self.localChannelId = 0) :
    (takePacket noxtls env maxDataLen s.number s.payload (memOf s.payload stale)).run h =
      (.ok s.output, { h with self := s.effect h.self }) := by
  obtain ⟨proper, short⟩ := formed
  have recipient : ∀ tail, s.payload = [s.number] ++ be32 0 ++ tail →
      (readRecipient s.payload (memOf s.payload stale)).run h = (.ok 5, h) := fun tail is =>
    readRecipient_zero is short channel
  cases s with
  | data bytes =>
      have taken : (takeData maxDataLen (Saying.data bytes).payload (memOf (Saying.data bytes).payload stale) 5).run h =
          (.ok (bytes.take maxDataLen), h) := @takeData_last _ _ ([94] ++ be32 0) _ _ _ rfl short (by simp)
      rw [Saying.number, takePacket, if_neg (by decide), if_pos rfl, bind_ok (recipient _ rfl), bind_ok taken]
      rfl
  | extendedData code bytes =>
      have stands : Holds (memOf (Saying.extendedData code bytes).payload stale) 5 (be32 code) := by
        have whole := holds_memOf (Saying.extendedData code bytes).payload stale
        exact (holds_append.1 (holds_append.1 whole).1).2
      have length : 9 ≤ (Saying.extendedData code bytes).payload.length := by
        simp [Saying.payload]
        omega
      have taken : (takeData maxDataLen (Saying.extendedData code bytes).payload
          (memOf (Saying.extendedData code bytes).payload stale) 9).run h = (.ok (bytes.take maxDataLen), h) :=
        @takeData_last _ _ ([95] ++ be32 0 ++ be32 code) _ _ _ rfl short (by simp)
      rw [Saying.number, takePacket, if_neg (by decide), if_neg (by decide), if_pos rfl,
        bind_ok (recipient (be32 code ++ sshString bytes) (by simp [Saying.payload, Saying.number])),
        payloadReadU32_holds stands (by omega) (by omega), lift_some, pure_bind_run]
      dsimp only
      rw [bind_ok taken]
      rfl
  | windowAdjust bytes =>
      rw [Saying.number, takePacket, if_neg (by decide), if_neg (by decide), if_neg (by decide), if_neg (by decide),
        if_neg (by decide), if_neg (by decide)]
      rfl
  | request name wantReply fields =>
      have taken := @takeRequest_name h (Saying.request name wantReply fields).payload name fields wantReply stale rfl short
        channel
      rw [if_neg proper] at taken
      rw [Saying.number, takePacket, if_neg (by decide), if_neg (by decide), if_neg (by decide), if_pos rfl, bind_ok taken]
      rfl
  | exitStatus wantReply status =>
      have stands : Holds (memOf (Saying.exitStatus wantReply status).payload stale) 21 (be32 status) := by
        have whole := holds_memOf (Saying.exitStatus wantReply status).payload stale
        exact (holds_append.1 whole).2
      have length : (Saying.exitStatus wantReply status).payload.length = 25 := by
        simp [Saying.payload, exitStatusRequest, ascii]
      have eleven : 9 + (ascii "exit-status").length + 1 = 21 := by decide
      have taken := @takeRequest_name h (Saying.exitStatus wantReply status).payload (ascii "exit-status") (be32 status)
        wantReply stale rfl short channel
      rw [if_pos rfl, eleven, payloadReadU32_holds stands (by omega) (by omega), lift_some, pure_bind_run] at taken
      rw [Saying.number, takePacket, if_neg (by decide), if_neg (by decide), if_neg (by decide), if_pos rfl, bind_ok taken]
      rfl
  | eof =>
      rw [Saying.number, takePacket, if_neg (by decide), if_neg (by decide), if_neg (by decide), if_neg (by decide),
        if_pos rfl]
      rfl
  | close =>
      rw [Saying.number, takePacket, if_neg (by decide), if_neg (by decide), if_neg (by decide), if_neg (by decide),
        if_neg (by decide), if_pos rfl]
      rfl

theorem Saying.report_effect (s : Saying) (c : Client) :
    getRemoteExitStatus (s.effect c) = s.report (getRemoteExitStatus c) := by
  cases s <;> rfl

end Packet

/-! ## What is still to come -/

/-- What `recv_data` asks for, and the channel is the only one. -/
def Ready (c : Client) : Prop := c.connected = true ∧ c.channelOpen = true ∧ c.localChannelId = 0

/-- A client with an open channel, to which the server says this and nothing else. -/
structure Pending (noxtls : Noxtls) (script : List Saying) (h : Host Client) : Prop where
  awaiting : ∃ last, Client.Awaiting noxtls last (script.map Saying.payload) [] h
  ready : Ready h.self
  formed : ∀ s ∈ script, s.WellFormed
  closes : script.getLast? = some .close

/-- The data ends the output, or there is more to come; the status taken in the end is the same. -/
def Collected (noxtls : Noxtls) (script : List Saying) (h : Host Client) (data : List UInt8) (h' : Host Client) : Prop :=
  (data = [] ∧ getRemoteExitStatus h'.self = statusTaken script (getRemoteExitStatus h.self)) ∨
    (data ≠ [] ∧ ∃ later, later.length < script.length ∧ Pending noxtls later h' ∧
      statusTaken later (getRemoteExitStatus h'.self) = statusTaken script (getRemoteExitStatus h.self))

section Collecting

variable {noxtls : Noxtls} {env : Env} {script : List Saying} {h h' : Host Client}

theorem Pending.keep (pending : Pending noxtls script h) (same : h'.self = h.self) (inbox : h'.inbox = h.inbox) :
    Pending noxtls script h' := by
  obtain ⟨last, awaiting⟩ := pending.awaiting
  exact ⟨⟨last, awaiting.keep inbox (by rw [same]) (by rw [same])⟩, same ▸ pending.ready, pending.formed,
    pending.closes⟩

/-- Every packet is some bytes. -/
theorem length_le_of_sealed {lane last : Lane} {payloads frames : List (List UInt8)}
    (sealed : Sealed noxtls lane payloads frames last) : payloads.length ≤ frames.flatten.length := by
  induction sealed with
  | nil => exact Nat.le_refl _
  | cons _ _ seals _ ih =>
      have length := length_sealPacket seals
      rw [length_plainPacket] at length
      rw [List.length_cons, List.flatten_cons, List.length_append]
      omega

theorem Pending.length_le (pending : Pending noxtls script h) : script.length ≤ h.inbox.length := by
  obtain ⟨last, -, sender, frames, sealed, -, inbox⟩ := pending.awaiting
  have short := length_le_of_sealed sealed
  rw [List.length_map] at short
  rw [inbox, List.append_nil]
  exact short

/-- Only CLOSE changes the channel, and nothing the lanes. -/
theorem Pending.after {s : Saying} {later : List Saying} {last : Lane} (open_ : s ≠ .close) (ready : Ready h.self)
    (awaiting : Client.Awaiting noxtls last (later.map Saying.payload) [] h)
    (formed : ∀ s ∈ later, s.WellFormed) (closes : (s :: later).getLast? = some .close) :
    Pending noxtls later { h with self := s.effect h.self } := by
  have lanes : sendSide.lane (s.effect h.self) = sendSide.lane h.self ∧
      recvSide.lane (s.effect h.self) = recvSide.lane h.self := by
    cases s <;> exact ⟨rfl, rfl⟩
  refine ⟨⟨last, awaiting.keep rfl lanes.1 lanes.2⟩, ?_, formed, ?_⟩
  · cases s with
    | close => exact absurd rfl open_
    | _ => exact ready
  · cases later with
    | nil => exact absurd (Option.some.inj closes) open_
    | cons next later => rwa [List.getLast?_cons_cons] at closes

/-- The loop of `recv_data` reads up to the next output, by induction on the script. -/
theorem recvDataLoop_collects (ctr : CtrMode noxtls) (live : Live env) (turns : Nat) (enough : script.length ≤ turns)
    (pending : Pending noxtls script h) :
    Returns Late (recvDataLoop noxtls env maxDataLen turns) (Collected noxtls script h) h := by
  induction script generalizing turns h with
  | nil => cases pending.closes
  | cons s later ih =>
      obtain ⟨turns, rfl⟩ : ∃ n, turns = n + 1 := ⟨turns - 1, by rw [List.length_cons] at enough; omega⟩
      obtain ⟨last, awaiting⟩ := pending.awaiting
      have formed := pending.formed s List.mem_cons_self
      rw [recvDataLoop]
      apply ((hears_live ctr live (Nat.le_trans formed.2 (by decide)) awaiting).failAs _).bind
      rintro _ h₁ ⟨⟨stale, rfl⟩, -, awaiting₁, same⟩
      dsimp only
      rw [s.head_payload]
      dsimp only
      have ready : Ready h₁.self := (@eq_of_core _ Ready (fun _ => rfl) _ _ same).mpr pending.ready
      have before : getRemoteExitStatus h₁.self = getRemoteExitStatus h.self :=
        @eq_of_core _ getRemoteExitStatus (fun _ => rfl) _ _ same
      have report := s.report_effect h₁.self
      rw [before] at report
      have taken := @takePacket_saying noxtls env h₁ s formed stale ready.2.2
      rw [Returns, bind_ok taken]
      by_cases ends : s.output = some []
      · rw [ends]
        refine .inl ⟨rfl, ?_⟩
        have silent : s.report = id := by
          cases s <;> first | rfl | cases ends
        rw [statusTaken, if_pos ends, report, silent]
        rfl
      · have pending₁ : Pending noxtls later { h₁ with self := s.effect h₁.self } :=
          Pending.after (fun is => ends (by rw [is]; rfl)) ready awaiting₁
            (fun s mem => pending.formed s (List.mem_cons_of_mem _ mem)) pending.closes
        have status : statusTaken later (getRemoteExitStatus (s.effect h₁.self)) =
            statusTaken (s :: later) (getRemoteExitStatus h.self) := by
          rw [statusTaken, if_neg ends, report]
        cases out : s.output with
        | some data =>
            have more : data ≠ [] := fun none => ends (by rw [out, none])
            exact .inr ⟨more, later, Nat.lt_succ_self _, pending₁, status⟩
        | none =>
            apply Returns.mono (ih turns (Nat.le_of_succ_le_succ enough) pending₁)
            rintro data h' (⟨none, is⟩ | ⟨more, rest, shorter, pending', is⟩)
            · exact .inl ⟨none, is.trans status⟩
            · exact .inr ⟨more, rest, Nat.lt_succ_of_lt shorter, pending', is.trans status⟩

theorem recvData_collects (ctr : CtrMode noxtls) (live : Live env) (pending : Pending noxtls script h) :
    Returns Late (recvData noxtls env maxDataLen) (Collected noxtls script h) h := by
  apply returns_ensure_bind (by decide)
  apply returns_self_bind
  apply returns_ensure_bind ⟨pending.ready.1, pending.ready.2.1⟩
  exact recvDataLoop_collects ctr live _ (Nat.le_succ_of_le pending.length_le) pending

end Collecting

/-! ## The loop that prints -/

/-- The transport works, and neither a keepalive nor a rekey falls due while the output comes. -/
structure Undisturbed (env : Env) (intervals : Intervals) : Prop where
  live : Live env
  selects : ∀ t, env.select t ≠ .error
  noKeepalive : intervals.keepaliveIntervalSec ≠ 0 →
    ∀ t t', env.time t' < wrap64 (env.time t + intervals.keepaliveIntervalSec)
  noRekey : intervals.rekeyIntervalSec ≠ 0 →
    ∀ t t', env.time t' < wrap64 (env.time t + intervals.rekeyIntervalSec)

/-- Its times are times of the clock. -/
def Timed (env : Env) (a : Alive) : Prop :=
  (∃ t, a.ioQuietSinceSec = env.time t) ∧ ∃ t, a.lastRekeySec = env.time t

/-- Context and inbox are the same. -/
def Idle (h h' : Host Client) : Prop := h'.self = h.self ∧ h'.inbox = h.inbox

section Printing

variable {noxtls : Noxtls} {env : Env} {intervals : Intervals} {script : List Saying} {h h' : Host Client} {a : Alive}

theorem returns_ask_bind {α β : Type} {late : Host Client → Prop} {answers : Nat → α} {k : α → Prog Client β}
    {Q : β → Host Client → Prop} (rest : Returns late (k (answers h.tick)) Q { h with tick := h.tick + 1 }) :
    Returns late (ask answers >>= k) Q h := rest

theorem maybeRekey_undisturbed (undisturbed : Undisturbed env intervals) {lastRekeySec : Nat}
    (timed : ∃ t, lastRekeySec = env.time t) :
    Returns Late (maybeRekey noxtls env intervals lastRekeySec) (fun got h' => got = some lastRekeySec ∧ Idle h h') h := by
  obtain ⟨t, rfl⟩ := timed
  rw [maybeRekey]
  by_cases off : intervals.rekeyIntervalSec = 0
  · rw [if_pos off]
    exact returns_of_run rfl ⟨rfl, rfl, rfl⟩
  · rw [if_neg off]
    have early := undisturbed.noRekey off t h.tick
    apply returns_ask_bind
    rw [if_pos early]
    exact returns_of_run rfl ⟨rfl, rfl, rfl⟩

theorem keepAlive_undisturbed (undisturbed : Undisturbed env intervals) (timed : Timed env a) :
    Returns Late (keepAlive noxtls env intervals a) (fun got h' => got = (none, a) ∧ Idle h h') h := by
  obtain ⟨⟨t, quiet⟩, -⟩ := timed
  rw [keepAlive]
  by_cases off : intervals.keepaliveIntervalSec = 0
  · rw [if_pos off]
    exact returns_of_run rfl ⟨rfl, rfl, rfl⟩
  · rw [if_neg off]
    have early := undisturbed.noKeepalive off t h.tick
    apply returns_ask_bind
    rw [if_neg (by rw [quiet]; omega)]
    exact returns_of_run rfl ⟨rfl, rfl, rfl⟩

/-- A wait ends with something to read or, unless there always is, with nothing. -/
theorem waitSlices_undisturbed (undisturbed : Undisturbed env intervals) (turns remaining : Nat) (timed : Timed env a) :
    Returns Late (waitSlices noxtls env intervals turns remaining a)
      (fun got h' => Idle h h' ∧ Timed env got.2 ∧ (got.1 = .readable ∨ got.1 = .timeout ∧
        (turns = 0 ∨ remaining = 0 ∨ ∃ t, env.select t ≠ .readable))) h := by
  induction turns generalizing remaining a h with
  | zero => exact returns_of_run rfl ⟨⟨rfl, rfl⟩, timed, .inr ⟨rfl, .inl rfl⟩⟩
  | succ turns ih =>
      rw [waitSlices]
      by_cases over_ : remaining = 0
      · rw [if_pos over_]
        exact returns_of_run rfl ⟨⟨rfl, rfl⟩, timed, .inr ⟨rfl, .inr (.inl over_)⟩⟩
      rw [if_neg over_]
      apply (maybeRekey_undisturbed undisturbed timed.2).bind
      rintro _ h₁ ⟨rfl, self₁, inbox₁⟩
      dsimp only
      apply returns_ask_bind
      cases ready : env.select h₁.tick with
      | readable => exact returns_of_run rfl ⟨⟨self₁, inbox₁⟩, timed, .inl rfl⟩
      | error => exact absurd ready (undisturbed.selects _)
      | timeout =>
          apply (keepAlive_undisturbed undisturbed timed).bind
          rintro _ h₂ ⟨rfl, self₂, inbox₂⟩
          apply (ih (remaining - min remaining 250) timed).mono
          rintro got h₃ ⟨⟨self₃, inbox₃⟩, timed₃, waited⟩
          refine ⟨⟨self₃.trans (self₂.trans self₁), inbox₃.trans (inbox₂.trans inbox₁)⟩, timed₃, ?_⟩
          exact waited.imp id fun both => ⟨both.1, .inr (.inr ⟨h₁.tick, by rw [ready]; simp⟩)⟩

theorem log_idle (e : Event) : Returns Late (log e) (fun _ h' => Idle h h') h := returns_of_run (log_run h e) ⟨rfl, rfl⟩

theorem heardFrom_timed (timed : Timed env a) :
    Returns Late (heardFrom env a) (fun a' h' => Timed env a' ∧ Idle h h') h :=
  returns_of_run rfl ⟨⟨⟨h.tick, rfl⟩, timed.2⟩, rfl, rfl⟩

/-- It returns with `Q`, or it has not come back, and then `waiting` holds. -/
def Comes {α : Type} (waiting : Prop) (m : Prog Client α) (Q : α → Host Client → Prop) (h : Host Client) : Prop :=
  ((m.run h).1 = .stuck ∧ waiting) ∨ Returns Late m Q h

theorem comes_bind {α β : Type} {waiting : Prop} {m : Prog Client α} {k : α → Prog Client β} {P : α → Host Client → Prop}
    {Q : β → Host Client → Prop} (first : Returns Late m P h)
    (second : ∀ a h', P a h' → Comes waiting (k a) Q h') : Comes waiting (m >>= k) Q h := by
  obtain ⟨a, h', ran, post⟩ := first.ok id
  rw [Comes, Returns, bind_ok ran]
  exact second a h' post

/-- What the loop comes to, by induction on its turns: it ends with the status of the script,
or, unless there is always something to read, it is still waiting. -/
theorem printLoop_collects (ctr : CtrMode noxtls) (undisturbed : Undisturbed env intervals) (turns : Nat)
    (timed : Timed env a) (pending : Pending noxtls script h) :
    Comes (turns ≤ script.length ∨ ∃ t, env.select t ≠ .readable) (printLoop noxtls env intervals turns a)
      (fun _ h' => getRemoteExitStatus h'.self = statusTaken script (getRemoteExitStatus h.self)) h := by
  induction turns generalizing script a h with
  | zero => exact .inl ⟨rfl, .inl (Nat.zero_le _)⟩
  | succ turns ih =>
      rw [printLoop]
      apply comes_bind (waitSlices_undisturbed undisturbed 1000 1000 timed)
      rintro ⟨waited, a₁⟩ h₁ ⟨⟨self₁, inbox₁⟩, timed₁, outcome⟩
      have pending₁ : Pending noxtls script h₁ := pending.keep self₁ inbox₁
      dsimp only at outcome timed₁ ⊢
      rcases outcome with rfl | ⟨rfl, late⟩
      · have received := recvData_collects ctr undisturbed.live pending₁
        obtain ⟨data, h₂, ran, collected⟩ := received.ok id
        have caught : Returns Late (attempt (recvData noxtls env maxDataLen))
            (fun got h' => got = some data ∧ h' = h₂) h₁ := returns_of_run (attempt_ok ran) ⟨rfl, rfl⟩
        apply comes_bind caught
        rintro _ _ ⟨rfl, rfl⟩
        rw [Collected, self₁] at collected
        rcases collected with ⟨rfl, status⟩ | ⟨more, later, shorter, pending₂, status⟩
        · exact .inr (returns_of_run rfl status)
        · cases data with
          | nil => exact absurd rfl more
          | cons byte bytes =>
              apply comes_bind (log_idle (.printed (byte :: bytes)))
              rintro _ h₃ ⟨self₃, inbox₃⟩
              apply comes_bind (heardFrom_timed timed₁)
              rintro a₂ h₄ ⟨timed₂, self₄, inbox₄⟩
              have self₅ := self₄.trans self₃
              have again := ih timed₂ (pending₂.keep self₅ (inbox₄.trans inbox₃))
              rw [self₅, status] at again
              exact again.imp (fun both => ⟨both.1, both.2.imp (fun few => by omega) id⟩) id
      · have again := ih timed₁ pending₁
        rw [self₁] at again
        refine again.imp (fun both => ⟨both.1, .inr ?_⟩) id
        rcases late with none | none | slow
        · cases none
        · cases none
        · exact slow

/-- And so the exit code. -/
theorem commandOutput_collects (ctr : CtrMode noxtls) (undisturbed : Undisturbed env intervals) (turns : Nat)
    (pending : Pending noxtls script h) :
    Comes (turns ≤ script.length ∨ ∃ t, env.select t ≠ .readable) (commandOutput noxtls env intervals turns)
      (fun code _ => code = ((statusTaken script (getRemoteExitStatus h.self)).map (· % 256)).getD 0) h := by
  have prints : Comes (turns ≤ script.length ∨ ∃ t, env.select t ≠ .readable)
      (printChannelOutput noxtls env intervals turns)
      (fun _ h' => getRemoteExitStatus h'.self = statusTaken script (getRemoteExitStatus h.self)) h := by
    apply comes_bind (log_idle .outputStarted)
    rintro _ h₁ ⟨self₁, inbox₁⟩
    have starts : Returns Late (startAlive env) (fun a h' => Timed env a ∧ Idle h₁ h') h₁ :=
      returns_of_run rfl ⟨⟨⟨h₁.tick, rfl⟩, ⟨h₁.tick, rfl⟩⟩, rfl, rfl⟩
    apply comes_bind starts
    rintro a h₂ ⟨timed, self₂, inbox₂⟩
    have self₃ := self₂.trans self₁
    have loops := printLoop_collects ctr undisturbed turns timed (pending.keep self₃ (inbox₂.trans inbox₁))
    rwa [self₃] at loops
  rw [commandOutput]
  rcases prints with ⟨stuck, waiting⟩ | returns
  · refine .inl ⟨?_, waiting⟩
    rw [bind_run]
    revert stuck
    rcases (printChannelOutput noxtls env intervals turns).run h with ⟨o, h'⟩
    rintro rfl
    rfl
  · refine .inr (returns.bind fun _ h' status => ?_)
    apply returns_of_run (self_bind_run h' _)
    rw [← status, appExitCode]
    cases getRemoteExitStatus h'.self <;> rfl

/-- With something to read at all times there is an exit code. -/
theorem commandOutput_returns (ctr : CtrMode noxtls) (undisturbed : Undisturbed env intervals)
    (readable : ∀ t, env.select t = .readable) (pending : Pending noxtls script h) :
    ∃ turns code h', (commandOutput noxtls env intervals turns).run h = (.ok code, h') ∧
      code = ((statusTaken script (getRemoteExitStatus h.self)).map (· % 256)).getD 0 := by
  rcases commandOutput_collects ctr undisturbed (script.length + 1) pending with ⟨-, few | ⟨t, none⟩⟩ | returns
  · omega
  · exact absurd (readable t) none
  · obtain ⟨code, h', ran, is⟩ := returns.ok id
    exact ⟨_, code, h', ran, is⟩

end Printing

/-! ## The exit code -/

/-- What ends the output. -/
theorem Saying.output_nil_iff {s : Saying} (formed : s.WellFormed) : s.output = some [] ↔ s = .eof ∨ s = .close := by
  have some_ : ∀ bytes : List UInt8, bytes ≠ [] → some (bytes.take maxDataLen) ≠ some [] := by
    intro bytes more none
    rw [Option.some.injEq, List.take_eq_nil_iff] at none
    rcases none with zero | none
    · cases zero
    · exact more none
  cases s with
  | data bytes => simpa [Saying.output] using some_ bytes formed.1
  | extendedData code bytes => simpa [Saying.output] using some_ bytes formed.1
  | _ => simp [Saying.output]

/-- What stands in front of the status lets it through unless it has an EOF. -/
theorem statusTaken_append {front later : List Saying} (before : Option Nat) (formed : ∀ s ∈ front, s.WellFormed)
    (single : ∀ wantReply status, .exitStatus wantReply status ∉ front) (open_ : .close ∉ front) :
    statusTaken (front ++ later) before = if .eof ∈ front then before else statusTaken later before := by
  induction front with
  | nil => rfl
  | cons s front ih =>
      have first := Saying.output_nil_iff (formed s List.mem_cons_self)
      rw [List.cons_append, statusTaken]
      by_cases eof : s = .eof
      · rw [if_pos (first.2 (.inl eof)), if_pos (by rw [eof]; exact List.mem_cons_self)]
      · have goesOn : s.output ≠ some [] := by
          rw [Ne, first]
          rintro (is | rfl)
          · exact eof is
          · exact open_ List.mem_cons_self
        have silent : s.report before = before := by
          cases s with
          | exitStatus wantReply status => exact absurd List.mem_cons_self (single wantReply status)
          | _ => rfl
        rw [if_neg goesOn, silent, ih (fun s mem => formed s (List.mem_cons_of_mem _ mem))
          (fun w n mem => single w n (List.mem_cons_of_mem _ mem)) fun mem => open_ (List.mem_cons_of_mem _ mem)]
        simp [Ne.symm eof]

/-- What comes behind it does not change it. -/
theorem statusTaken_silent {script : List Saying} (before : Option Nat)
    (silent : ∀ wantReply status, .exitStatus wantReply status ∉ script) : statusTaken script before = before := by
  induction script with
  | nil => rfl
  | cons s script ih =>
      have same : s.report before = before := by
        cases s with
        | exitStatus wantReply status => exact absurd List.mem_cons_self (silent wantReply status)
        | _ => rfl
      rw [statusTaken, same, ih fun w n mem => silent w n (List.mem_cons_of_mem _ mem), ite_self]

/-- **When the exit status is picked up.**  For every sequence of well-formed packets on the
session channel with one exit status in it and CLOSE at its end, that is on the way to a client
with an open channel: whenever the client comes to an exit code, the code is the status modulo
256 if and only if no EOF stands in front of the status, or the status is a multiple of 256.
If there always is something to read, it comes to one. -/
theorem exit_status_taken_iff (noxtls : Noxtls) (env : Env) (intervals : Intervals) (front later : List Saying)
    (wantReply : UInt8) (status : Nat) (h : Host Client) (ctr : CtrMode noxtls) (undisturbed : Undisturbed env intervals)
    (pending : Pending noxtls (front ++ .exitStatus wantReply status :: later) h)
    (fresh : getRemoteExitStatus h.self = none) (open_ : .close ∉ front)
    (single : ∀ w n, .exitStatus w n ∉ front ∧ .exitStatus w n ∉ later) :
    (∀ turns code h', (commandOutput noxtls env intervals turns).run h = (.ok code, h') →
      (code = status % 256 ↔ .eof ∉ front ∨ status % 256 = 0)) ∧
    ((∀ t, env.select t = .readable) →
      ∃ turns code h', (commandOutput noxtls env intervals turns).run h = (.ok code, h')) := by
  have collects := fun turns => commandOutput_collects ctr undisturbed turns pending
  have reads : (Saying.exitStatus wantReply status).output ≠ some [] := by simp [Saying.output]
  have taken : statusTaken (front ++ .exitStatus wantReply status :: later) none =
      if .eof ∈ front then none else some (wrap32 status) := by
    rw [statusTaken_append none (fun s mem => pending.formed s (List.mem_append_left _ mem)) (fun w n => (single w n).1)
      open_, statusTaken, if_neg reads, Saying.report, statusTaken_silent _ fun w n => (single w n).2]
  rw [fresh, taken] at collects
  constructor
  · intro turns code h' ran
    rcases collects turns with ⟨stuck, -⟩ | returns
    · rw [ran] at stuck
      cases stuck
    · rw [Returns, ran] at returns
      have low : wrap32 status % 256 = status % 256 := by
        rw [wrap32]
        omega
      dsimp only at returns
      rw [returns]
      by_cases eof : .eof ∈ front
      · simp [eof, eq_comm]
      · simp [eof, low]
  · intro readable
    obtain ⟨turns, code, h', ran, -⟩ := commandOutput_returns ctr undisturbed readable pending
    exact ⟨turns, code, h', ran⟩

/-! ## Before and after the EOF -/

namespace Probe

/-- A client with an open channel, and this on the way to it. -/
def told (script : List Saying) : Host Client :=
  Client.Probe.opened 0 (sealAll Sample.noxtls (recvSide.lane (Client.Probe.opened 0 []).self)
    (script.map Saying.payload) ++ [])

theorem pending_told {script : List Saying} (formed : ∀ s ∈ script, s.WellFormed) (closes : script.getLast? = some .close) :
    Pending Sample.noxtls script (told script) := by
  have small : ∀ p ∈ script.map Saying.payload, p.length ≤ 34980 := by
    intro p mem
    obtain ⟨s, listed, rfl⟩ := List.mem_map.1 mem
    exact (formed s listed).2
  obtain ⟨frames, last, sealed, inbox⟩ := @Protocol.onTheWay_sealAll Sample.noxtls rfl Sample.ctrMode []
    (script.map Saying.payload) (recvSide.lane (Client.Probe.opened 0 []).self) (fun _ => by decide) small
  have block : HasBlock (sendSide.lane (Client.Probe.opened 0 []).self) := fun _ => by decide
  exact ⟨⟨last, block, _, frames, sealed, ⟨rfl, rfl, fun _ => ⟨rfl, rfl, rfl, rfl⟩⟩, inbox⟩, ⟨rfl, rfl, rfl⟩, formed, closes⟩

theorem undisturbed : Undisturbed calm patient :=
  ⟨live_calm, fun _ => by simp [calm], fun on => absurd rfl on, fun on => absurd rfl on⟩

end Probe

/-- Some output, the status 7, EOF and CLOSE. -/
theorem exit_status_taken_iff_first :
    ∃ turns code h', (commandOutput Sample.noxtls calm Probe.patient turns).run
        (Probe.told ([.data [104]] ++ .exitStatus 0 7 :: [.eof, .close])) = (.ok code, h') ∧
      (code = 7 % 256 ↔ .eof ∉ [Saying.data [104]] ∨ 7 % 256 = 0) := by
  have both := exit_status_taken_iff Sample.noxtls calm Probe.patient [.data [104]] [.eof, .close] 0 7 _ Sample.ctrMode
    Probe.undisturbed (Probe.pending_told (by simp [Saying.WellFormed, Saying.Proper, Saying.payload, exitStatusRequest, ascii])
      rfl) rfl (by simp) (by simp)
  obtain ⟨turns, code, h', ran⟩ := both.2 fun _ => rfl
  exact ⟨turns, code, h', ran, both.1 turns code h' ran⟩

/-- EOF, the status 7 and CLOSE: the exit code is not 7. -/
theorem exit_status_missed :
    ∃ turns code h', (commandOutput Sample.noxtls calm Probe.patient turns).run
      (Probe.told [.eof, .exitStatus 0 7, .close]) = (.ok code, h') ∧ code ≠ 7 % 256 := by
  have pending : Pending Sample.noxtls [.eof, .exitStatus 0 7, .close] (Probe.told [.eof, .exitStatus 0 7, .close]) :=
    Probe.pending_told (by simp [Saying.WellFormed, Saying.Proper, Saying.payload, exitStatusRequest, ascii]) rfl
  obtain ⟨turns, code, h', ran, is⟩ := commandOutput_returns Sample.ctrMode Probe.undisturbed (fun _ => rfl) pending
  refine ⟨turns, code, h', ran, ?_⟩
  rw [is]
  decide

end NoxSsh.Cli
