/-
# Protocol.Integrity — what a network that owns the wire can do to a stream

Sender and receiver are in step under encryption and the network delivers any
bytes at all.  If every MAC the receiver accepts is one the sender computed, what
the receiver gets before its first failure is a prefix of what was sent.

The argument is about the sequence numbers inside the MACs.  The sender's `i`-th
message starts with number `start + i` (`Authored`), the receiver's `j`-th
accepted one with `start + j` (`Opened`), both modulo `2 ^ 32`.  A message the
sender computed fewer than `2 ^ 32` packets after the start can therefore only be
accepted in its own place, and a packet opens to the payload it was built from.
-/
import NoxSsh.Protocol.Lockstep

namespace NoxSsh.Protocol

open Theory Proc Wire Transport

set_option autoImplicit false

/-! ## Numbered messages -/

/-- The MACs a sender computes for these payloads, numbered from `seq` on. -/
inductive Authored : Nat → List (List UInt8) → List (List UInt8 × List UInt8) → Prop where
  | nil (seq : Nat) : Authored seq [] []
  | cons {seq : Nat} {payload padding tag : List UInt8} {payloads : List (List UInt8)}
      {macs : List (List UInt8 × List UInt8)} (four : 4 ≤ padding.length) (short : padding.length < 256)
      (rest : Authored (seq + 1) payloads macs) :
      Authored seq (payload :: payloads) ((be32 seq ++ plainPacket payload padding, tag) :: macs)

/-- The MACs a receiver accepts with these payloads, numbered from `seq` on. -/
inductive Opened (payloadMax : Nat) : Nat → List (List UInt8) → List (List UInt8 × List UInt8) → Prop where
  | nil (seq : Nat) : Opened payloadMax seq [] []
  | cons {seq : Nat} {payload plain tag : List UInt8} {payloads : List (List UInt8)}
      {macs : List (List UInt8 × List UInt8)} (unpacks : unpack payloadMax (plain.drop 4) = some payload)
      (rest : Opened payloadMax (seq + 1) payloads macs) :
      Opened payloadMax seq (payload :: payloads) ((be32 seq ++ plain, tag) :: macs)

/-- Unpacking a packet gives its payload or nothing. -/
theorem unpack_plainPacket_inv {payload padding got : List UInt8} {payloadMax : Nat}
    (four : 4 ≤ padding.length) (short : padding.length < 256)
    (unpacks : unpack payloadMax ((plainPacket payload padding).drop 4) = some got) : got = payload := by
  have whole : unpack payload.length ((plainPacket payload padding).drop 4) = some payload :=
    unpack_plainPacket four short le_rfl
  have body : (plainPacket payload padding).drop 4 =
      UInt8.ofNat padding.length :: (payload ++ padding) := by
    rw [plainPacket, List.drop_left' (by simp)]
  rw [body, unpack] at unpacks whole
  split at unpacks
  · simp at unpacks
  · rename_i fine
    rw [if_neg fine] at whole
    split at unpacks
    · simp at unpacks
    · split at whole
      · simp at whole
      · rw [unpacks] at whole
        exact Option.some.inj whole

theorem Authored.find {seq : Nat} {payloads : List (List UInt8)} {macs : List (List UInt8 × List UInt8)}
    (authored : Authored seq payloads macs) {message tag : List UInt8} (mem : (message, tag) ∈ macs) :
    ∃ i padding, ∃ inside : i < payloads.length, 4 ≤ padding.length ∧ padding.length < 256 ∧
      message = be32 (seq + i) ++ plainPacket (payloads.get ⟨i, inside⟩) padding := by
  induction authored with
  | nil => simp at mem
  | cons four short _ ih =>
      rcases List.mem_cons.1 mem with here | later
      · obtain ⟨rfl, rfl⟩ := Prod.mk.inj here
        exact ⟨0, _, by simp, four, short, rfl⟩
      · obtain ⟨i, padding, inside, four, short, is⟩ := ih later
        refine ⟨i + 1, padding, by simpa using inside, four, short, ?_⟩
        rw [is, Nat.add_right_comm]
        rfl

/-- Accepted messages come in the sender's order and without a gap. -/
theorem Opened.isPrefix {payloadMax start : Nat} {payloads : List (List UInt8)}
    {authored : List (List UInt8 × List UInt8)} (sent : Authored start payloads authored)
    (few : payloads.length < 4294967296) {seq : Nat} {received : List (List UInt8)}
    {accepted : List (List UInt8 × List UInt8)} (opened : Opened payloadMax seq received accepted) :
    ∀ j, seq = start + j → j ≤ payloads.length → (∀ mac ∈ accepted, mac ∈ authored) →
      received <+: payloads.drop j := by
  induction opened with
  | nil => exact fun j _ _ _ => List.nil_prefix
  | @cons seq payload plain tag received accepted unpacks _ ih =>
      intro j is inside genuine
      obtain ⟨i, padding, inside', four, short, message⟩ := sent.find (genuine (be32 seq ++ plain, tag) (by simp))
      obtain ⟨number, rfl⟩ := List.append_inj message rfl
      -- the numbers agree modulo `2 ^ 32`, and both places are below it
      have place : i = j := by
        have value := congrArg beNat number
        rw [beNat_be32, beNat_be32, is] at value
        omega
      subst place
      have later := ih (i + 1) (by omega) (by omega) (fun mac hm => genuine mac (by simp [hm]))
      have same := unpack_plainPacket_inv four short unpacks
      rw [List.drop_eq_getElem_cons inside', same]
      exact List.prefix_cons_iff.2 (.inr ⟨received, rfl, later⟩)

/-! ## Runs -/

/-- The events a run recorded between two states. -/
def eventsOf {π : Type} (h h' : Host π) : List (Event × π) := h'.trace.drop h.trace.length

theorem eventsOf_eq {π : Type} {h h' : Host π} {new : List (Event × π)} (grown : h'.trace = h.trace ++ new) :
    eventsOf h h' = new := by
  rw [eventsOf, grown, List.drop_left]

theorem be32_congr {a b : Nat} (same : wrap32 a = wrap32 b) : be32 a = be32 b := by
  rw [← be32_mod a, ← be32_mod b]
  exact congrArg be32 same

theorem wrap32_succ {a b : Nat} (same : wrap32 a = wrap32 b) : wrap32 (wrap32 (a + 1)) = wrap32 (b + 1) := by
  unfold wrap32 at *
  omega

section Runs

variable {π : Type} {side : Side π}

/-- A run of sends that all succeeded authored its payloads in order. -/
theorem sendEach_authored {send : List UInt8 → Prog π Unit}
    (sends : ∀ payload h h', (side.lane h.self).encrypted = true → (send payload).run h = (.ok (), h') →
      MacsOne side payload h h') :
    ∀ (payloads : List (List UInt8)) (h h' : Host π) (seq : Nat),
      (side.lane h.self).encrypted = true → wrap32 (side.lane h.self).seq = wrap32 seq →
      (sendEach send payloads).run h = (.ok (), h') →
      ∃ new, h'.trace = h.trace ++ new ∧ Authored seq payloads (pick Event.computed? new) := by
  intro payloads
  induction payloads with
  | nil =>
      intro h h' seq _ _ ran
      obtain ⟨-, rfl⟩ := Prod.mk.inj ran
      exact ⟨[], by simp, .nil seq⟩
  | cons payload payloads ih =>
      intro h h' seq encrypted number ran
      rw [sendEach] at ran
      obtain ⟨_, h₁, first, ran⟩ := bind_inv ran
      obtain ⟨oneOn, padding, mac, new, four, short, grown, computed⟩ := sends payload h h₁ encrypted first
      obtain ⟨new', grown', authored⟩ := ih h₁ h' (seq + 1) oneOn.encrypted
        (by rw [oneOn.seq]; exact wrap32_succ number) ran
      refine ⟨new ++ new', by rw [grown', grown, List.append_assoc], ?_⟩
      rw [pick_append, computed, Lane.macMessage, be32_congr number]
      exact .cons four short authored

/-- Whatever arrives, the payloads received so far were opened in order. -/
theorem recvEach_opened {recv : Prog π (List UInt8)} {payloadMax : Nat}
    (recvs : ∀ h, (side.lane h.self).encrypted = true → Opens side payloadMax recv h) :
    ∀ (n : Nat) (h : Host π) (seq : Nat),
      (side.lane h.self).encrypted = true → wrap32 (side.lane h.self).seq = wrap32 seq →
      ∃ macs new, ((recvEach recv n).run h).2.trace = h.trace ++ new ∧
        Opened payloadMax seq (pick Event.received? new) macs ∧
        ∀ mac ∈ macs, mac ∈ pick Event.accepted? new := by
  intro n
  induction n with
  | zero =>
      intro h seq _ _
      exact ⟨[], [], by simp [recvEach], .nil seq, by simp⟩
  | succ n ih =>
      intro h seq encrypted number
      rw [recvEach]
      rcases recvs h encrypted with ⟨payload, h₁, ran, oneOn, plain, mac, new, unpacks, grown, got, accepted⟩ |
        ⟨o, h₁, ran, failed, new, grown, none⟩
      · obtain ⟨macs, new', grown', opened, genuine⟩ := ih h₁ (seq + 1) oneOn.encrypted
          (by rw [oneOn.seq]; exact wrap32_succ number)
        have rest : ((recv >>= fun payload => recvEach recv n >>= fun payloads =>
            pure (payload :: payloads)).run h).2.trace = ((recvEach recv n).run h₁).2.trace := by
          rw [bind_ok ran, bind_run]
          rcases (recvEach recv n).run h₁ with ⟨o, h₂⟩
          cases o <;> rfl
        refine ⟨(be32 seq ++ plain, mac) :: macs, new ++ new', ?_, ?_, ?_⟩
        · rw [rest, grown', grown, List.append_assoc]
        · rw [pick_append, got]
          exact .cons unpacks opened
        · rw [pick_append, accepted, Lane.macMessage, be32_congr number]
          intro m hm
          rcases List.mem_cons.1 hm with rfl | hm
          · simp
          · exact List.mem_append_right _ (genuine m hm)
      · refine ⟨[], new, ?_, by rw [none]; exact .nil seq, by simp⟩
        rw [bind_run, ran]
        cases o with
        | ok payload => exact absurd rfl (failed payload)
        | err e => exact grown
        | stuck => exact grown

end Runs

/-! ## The two parties -/

section Parties

variable {noxtls : Noxtls} {env : Env}

theorem quiet_of_always {π α : Type} {ok : Event → Prop} {m : Prog π α} {h h' : Host π} {a : α}
    (always : Always (Quiet ok id) m) (ran : m.run h = (.ok a, h')) :
    h'.self = h.self ∧ ∃ new, h'.trace = h.trace ++ new ∧ ∀ e ∈ new, ok e.1 := by
  have quiet := always h
  rw [ran] at quiet
  obtain ⟨same, new, grown, kept⟩ := quiet
  exact ⟨same, new, grown, fun e he => (kept e he).1⟩

/-- The two records around a send are not MACs. -/
theorem macsOne_logged {π : Type} {side : Side π} {h h₁ h₂ h₃ : Host π} {payload : List UInt8}
    (one : MacsOne side payload h₁ h₂) (lane : side.lane h₁.self = side.lane h.self)
    (before : h₁.trace = h.trace ++ [(.sending payload, h.self)]) (same : h₃.self = h₂.self)
    (after : h₃.trace = h₂.trace ++ [(.sent payload, h₂.self)]) : MacsOne side payload h h₃ := by
  obtain ⟨oneOn, padding, mac, new, four, short, grown, computed⟩ := one
  rw [lane] at oneOn computed
  refine ⟨by rw [same]; exact oneOn, padding, mac,
    [(.sending payload, h.self)] ++ new ++ [(.sent payload, h₂.self)], four, short, ?_, ?_⟩
  · rw [after, grown, before]
    simp only [List.append_assoc]
  · rw [pick_append, pick_append, computed]
    rfl

theorem client_authors (payload : List UInt8) (h h' : Host Client)
    (encrypted : (Client.sendSide.lane h.self).encrypted = true)
    (ran : (Client.sendPacket noxtls env payload).run h = (.ok (), h')) :
    MacsOne Client.sendSide payload h h' := by
  rw [Client.sendPacket] at ran
  obtain ⟨-, ran⟩ := ensure_bind_inv ran
  rw [log_bind_run] at ran
  obtain ⟨_, h₁, inner, logged⟩ := bind_inv ran
  obtain ⟨-, rfl⟩ := Prod.mk.inj logged
  have one : MacsOne Client.sendSide payload
      { h with trace := h.trace ++ [(.sending payload, h.self)] } h₁ := by
    refine sendPacketWith_ok ?_ ?_ ?_ ?_ inner
    · exact fun _ _ => rfl
    · intro n h h' padding ran
      simp only [Client.fillRandom, ask_bind_run, pure_run, Prod.mk.injEq, Outcome.ok.injEq] at ran
      obtain ⟨rfl, rfl⟩ := ran
      exact ⟨length_slice _ 0 n, rfl, rfl⟩
    · intro enc mac h h' ran
      have quiet : Always (Quiet (fun e => e.computed? = none) id) (Client.writeSealed env enc mac) :=
        Client.always_writeSealed plumbing_computed enc mac
      obtain ⟨same, new, grown, silent⟩ := quiet_of_always quiet ran
      exact ⟨same, new, grown, pick_eq_nil silent⟩
    · exact encrypted
  exact macsOne_logged one rfl rfl rfl rfl

theorem server_authors (payload : List UInt8) (h h' : Host Server)
    (encrypted : (Server.sendSide.lane h.self).encrypted = true)
    (ran : (Server.sendPacket noxtls env payload).run h = (.ok (), h')) :
    MacsOne Server.sendSide payload h h' := by
  rw [Server.sendPacket] at ran
  obtain ⟨-, ran⟩ := ensure_bind_inv ran
  rw [log_bind_run, ask_bind_run, modify_bind_run] at ran
  obtain ⟨_, h₁, inner, logged⟩ := bind_inv ran
  obtain ⟨-, rfl⟩ := Prod.mk.inj logged
  have one : MacsOne Server.sendSide payload
      { h with
        self := Server.armSend (env.clock h.tick) h.self
        tick := h.tick + 1
        trace := h.trace ++ [(.sending payload, h.self)] } h₁ := by
    refine sendPacketWith_ok ?_ ?_ ?_ ?_ inner
    · exact fun _ _ => rfl
    · intro n h h' padding ran
      rw [Server.fillRandom, ask_bind_run] at ran
      split at ran
      · simp at ran
      · simp only [pure_run, Prod.mk.injEq, Outcome.ok.injEq] at ran
        obtain ⟨rfl, rfl⟩ := ran
        exact ⟨length_slice _ 0 n, rfl, rfl⟩
    · intro enc mac h h' ran
      have quiet : Always (Quiet (fun e => e.computed? = none) id) (Server.writeSealed env enc mac) :=
        Server.always_writeSealed plumbing_computed enc mac
      obtain ⟨same, new, grown, silent⟩ := quiet_of_always quiet ran
      exact ⟨same, new, grown, pick_eq_nil silent⟩
    · rw [Server.lane_armSend]
      exact encrypted
  exact macsOne_logged one (Server.lane_armSend _ _) rfl rfl rfl

theorem client_opens (payloadMax : Nat) (h : Host Client)
    (encrypted : (Client.recvSide.lane h.self).encrypted = true) :
    Opens Client.recvSide payloadMax (Client.recvPacket noxtls env payloadMax) h := by
  refine recvPacketWith_any ?_ ?_ ?_ encrypted
  · exact fun _ _ => rfl
  · exact fun _ _ _ _ _ ran => (recvExactWith_ok (gate_pure Client.Late) ran).2.2.2
  · exact Client.always_recvExact plumbing_received fun _ => rfl

theorem server_opens (payloadMax : Nat) (h : Host Server)
    (encrypted : (Server.recvSide.lane h.self).encrypted = true) :
    Opens Server.recvSide payloadMax (Server.recvPacket noxtls env payloadMax) h := by
  have opens : Opens Server.recvSide payloadMax
      (recvPacketWith noxtls Server.recvSide (Server.recvExact env) Server.countRecv payloadMax)
      { h with tick := h.tick + 1, self := Server.armRecv (env.clock h.tick) h.self } := by
    refine recvPacketWith_any ?_ ?_ ?_ ?_
    · exact fun _ _ => rfl
    · exact fun _ _ _ _ _ ran => (recvExactWith_ok (Server.gate_deadline _) ran).2.2.2
    · exact Server.always_recvExact plumbing_received fun _ => rfl
    · rw [Server.lane_armRecv]
      exact encrypted
  rw [Opens, Server.recvPacket, ask_bind_run, modify_bind_run]
  simp only [Opens, OpensOne, OpensNone, Server.lane_armRecv] at opens ⊢
  exact opens

end Parties

/-- **Integrity of the stream.**  For any bytes in the receiver's inbox: if the
receiver accepted only MACs the sender computed, the payloads it returned before
its first failure are a prefix of what was sent. -/
def StreamIntact {π ρ : Type} (out : Side π) (into : Side ρ) (send : List UInt8 → Prog π Unit)
    (recv : Prog ρ (List UInt8)) (payloads : List (List UInt8)) (sender : Host π) (receiver : Host ρ) : Prop :=
  InStep (out.lane sender.self) (into.lane receiver.self) → (out.lane sender.self).encrypted = true →
  ∀ sender', (sendEach send payloads).run sender = (.ok (), sender') →
    ∀ attempts receiver', ((recvEach recv attempts).run receiver).2 = receiver' →
      (∀ mac ∈ pick Event.accepted? (eventsOf receiver receiver'),
        mac ∈ pick Event.computed? (eventsOf sender sender')) →
      pick Event.received? (eventsOf receiver receiver') <+: payloads

theorem streamIntact {π ρ : Type} {out : Side π} {into : Side ρ} {send : List UInt8 → Prog π Unit}
    {recv : Prog ρ (List UInt8)} {payloads : List (List UInt8)} {payloadMax : Nat}
    (sends : ∀ payload h h', (out.lane h.self).encrypted = true → (send payload).run h = (.ok (), h') →
      MacsOne out payload h h')
    (recvs : ∀ h, (into.lane h.self).encrypted = true → Opens into payloadMax recv h)
    (few : payloads.length < 4294967296) (sender : Host π) (receiver : Host ρ) :
    StreamIntact out into send recv payloads sender receiver := by
  rintro step encrypted sender' sent attempts _ rfl genuine
  obtain ⟨new, grown, authored⟩ := sendEach_authored sends payloads sender sender' _ encrypted rfl sent
  obtain ⟨macs, new', grown', opened, accepted⟩ := recvEach_opened recvs attempts receiver
    (out.lane sender.self).seq (by rw [← step.encrypted]; exact encrypted) (by rw [step.seq])
  rw [eventsOf_eq grown, eventsOf_eq grown'] at genuine
  rw [eventsOf_eq grown']
  exact opened.isPrefix authored few 0 rfl (Nat.zero_le _) fun mac hm => genuine mac (accepted mac hm)

/-- Both directions. -/
theorem stream_intact (noxtls : Noxtls) (clientEnv serverEnv : Env) (payloads : List (List UInt8))
    (few : payloads.length < 4294967296) (payloadMax : Nat) (client : Host Client) (server : Host Server) :
    StreamIntact Client.sendSide Server.recvSide (Client.sendPacket noxtls clientEnv)
      (Server.recvPacket noxtls serverEnv payloadMax) payloads client server ∧
    StreamIntact Server.sendSide Client.recvSide (Server.sendPacket noxtls serverEnv)
      (Client.recvPacket noxtls clientEnv payloadMax) payloads server client :=
  ⟨streamIntact client_authors (server_opens payloadMax) few client server,
    streamIntact server_authors (client_opens payloadMax) few server client⟩

/-- What the sample client sends for two payloads. -/
def keyedSent : Host Client :=
  ((sendEach (Client.sendPacket Sample.noxtls calm) [[21, 7], [94]]).run (keyedClient [])).2

/-- The sample server after three tries on the first packet, delivered twice. -/
def keyedReplayed : Host Server :=
  ((recvEach (Server.recvPacket Sample.noxtls calm 16) 3).run
    (keyedServer ((wireOf keyedSent.trace).take 48 ++ (wireOf keyedSent.trace).take 48))).2

/-- A replayed packet is not taken a second time. -/
theorem stream_intact_replayed :
    pick Event.received? (eventsOf (keyedServer ((wireOf keyedSent.trace).take 48 ++
      (wireOf keyedSent.trace).take 48)) keyedReplayed) <+: [[21, 7], [94]] ∧
    pick Event.received? keyedReplayed.trace = [[21, 7]] := by
  refine ⟨?_, by decide +kernel⟩
  refine (stream_intact Sample.noxtls calm calm [[21, 7], [94]] (by decide) 16 (keyedClient [])
    (keyedServer _)).1 (keyed_inStep _ _).1 rfl keyedSent ?_ 3 keyedReplayed rfl (by decide +kernel)
  exact Prod.ext (by decide +kernel) rfl

end NoxSsh.Protocol
