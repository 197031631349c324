/-
# Protocol.Requests — what a receive asks of `recv_exact`

Both copies of the packet routine read an encrypted packet in three requests: a first
block of 16 bytes, the rest of the packet, and the MAC.  The rest is `4 + packet_len - 16`
bytes in unsigned arithmetic, and the length check admits every `packet_len` from 5 on.
From 12 on the request fits behind the first block; from 5 to 11 the subtraction
underflows and the routine asks for almost four gigabytes.

That a routine asks only for what fits is said without looking into it: whatever were
done with a request that does not fit, the run would be the same (`Fits`).
-/
import NoxSsh.Client.Context
import NoxSsh.Server.Context

namespace NoxSsh.Protocol

open Theory Proc Wire Transport

set_option autoImplicit false

section Requests

variable {π α : Type}

/-- `other` does as `recvExact` with every request for no more than the room. -/
def AgreesWithin (recvExact other : Nat → Nat → Prog π (List UInt8)) : Prop :=
  ∀ len room, len ≤ room → other len room = recvExact len room

/-- From `h`, no request for more than the room is made. -/
def Fits (routine : (Nat → Nat → Prog π (List UInt8)) → Prog π α) (recvExact : Nat → Nat → Prog π (List UInt8))
    (h : Host π) : Prop :=
  ∀ other, AgreesWithin recvExact other → (routine other).run h = (routine recvExact).run h

/-- The first block that arrives decrypts to a length that the check admits and that is
less than what is left of the block. -/
def Underflows (noxtls : Noxtls) (side : Side π) (recvExact : Nat → Nat → Prog π (List UInt8)) (h : Host π) : Prop :=
  (side.lane h.self).encrypted = true ∧ ∃ first h₁ head,
    (recvExact 16 (4 + maxPacketLen)).run h = (.ok first, h₁) ∧
    noxtls.aesEncryptCtr (side.lane h₁.self).key first (side.lane h₁.self).counter = some head ∧
    5 ≤ beNat (head.take 4) ∧ beNat (head.take 4) < 12

variable {noxtls : Noxtls} {side : Side π} {recvExact : Nat → Nat → Prog π (List UInt8)} {account : Nat → π → π}
  {payloadMax : Nat} {h : Host π}

/-- The two runs of a sequence are the same if they are after its first part. -/
theorem bind_same {β : Type} {m : Prog π β} {k k' : β → Prog π α}
    (rest : ∀ b h', m.run h = (.ok b, h') → (k b).run h' = (k' b).run h') : (m >>= k).run h = (m >>= k').run h := by
  rw [bind_run, bind_run]
  cases ran : m.run h with
  | mk o h' =>
      cases o with
      | ok b => exact rest b h' ran
      | err e => rfl
      | stuck => rfl

theorem lift_bind_same {β : Type} {o : Option β} {e : NetnoxReturn} {k k' : β → Prog π α}
    (rest : ∀ b, o = some b → (k b).run h = (k' b).run h) : (lift e o >>= k).run h = (lift e o >>= k').run h := by
  cases o with
  | none => rfl
  | some b => exact rest b rfl

theorem ensure_bind_same {c : Prop} [Decidable c] {e : NetnoxReturn} {k k' : Unit → Prog π α}
    (rest : c → (k ()).run h = (k' ()).run h) : (ensure c e >>= k).run h = (ensure c e >>= k').run h := by
  by_cases true : c
  · rw [ensure_bind_pos true, ensure_bind_pos true]
    exact rest true
  · rw [ensure_bind_neg true, ensure_bind_neg true]

/-- From twelve bytes on the rest of a packet fits behind its first block. -/
theorem rest_fits {packetLen : Nat} (long : 12 ≤ packetLen) (short : packetLen ≤ maxPacketLen) :
    wrap32 (4 + packetLen + 4294967296 - 16) ≤ 4 + maxPacketLen - 16 := by
  unfold wrap32 maxPacketLen at *
  omega

/-- Below that the subtraction underflows. -/
theorem rest_underflows {packetLen : Nat} (short : packetLen < 12) :
    ¬ wrap32 (4 + packetLen + 4294967296 - 16) ≤ 4 + maxPacketLen - 16 := by
  unfold wrap32 maxPacketLen
  omega

theorem openWith_fits (fine : ¬ Underflows noxtls side recvExact h) :
    Fits (fun recv => openWith noxtls side recv account payloadMax) recvExact h := by
  intro other agrees
  unfold openWith
  rw [self_bind_run, self_bind_run]
  split
  · rename_i encrypted
    rw [agrees 16 (4 + maxPacketLen) (by decide)]
    apply bind_same
    intro first h₁ ran
    rw [self_bind_run, self_bind_run]
    apply lift_bind_same
    intro head decrypted
    rw [modify_bind_run, modify_bind_run]
    apply ensure_bind_same
    intro admitted
    have long : 12 ≤ beNat (head.take 4) := by
      by_contra short
      exact fine ⟨encrypted, first, h₁, head, failAs_inv ran, decrypted, admitted.1, by omega⟩
    dsimp only
    rw [agrees _ _ (rest_fits long admitted.2)]
    apply bind_same
    intro rest h₂ _
    rw [self_bind_run, self_bind_run]
    apply lift_bind_same
    intro tail _
    rw [modify_bind_run, modify_bind_run, agrees _ _ (Nat.le_refl macLen)]
  · rw [agrees _ _ (Nat.le_refl 4)]
    apply bind_same
    intro header h₁ _
    apply ensure_bind_same
    intro admitted
    rw [agrees _ _ admitted.2]

/-- Something else can be done with the requests that do not fit. -/
theorem exists_astray (recvExact : Nat → Nat → Prog π (List UInt8)) (outcome : Host π) :
    ∃ other, AgreesWithin recvExact other ∧ ∀ len room, ¬ len ≤ room → ∀ h, (other len room).run h = (.stuck, outcome) := by
  refine ⟨fun len room => if len ≤ room then recvExact len room else ⟨fun _ => (.stuck, outcome)⟩, ?_, ?_⟩
  · exact fun len room fits => if_pos fits
  · intro len room large h
    dsimp only
    rw [if_neg large]

/-- A request that does not fit is made, so what becomes of it shows. -/
theorem openWith_strays (wrong : Underflows noxtls side recvExact h) (outcome : Host π) :
    ∃ other, AgreesWithin recvExact other ∧
      (openWith noxtls side other account payloadMax).run h = (.stuck, outcome) := by
  obtain ⟨encrypted, first, h₁, head, ran, decrypted, admitted, short⟩ := wrong
  obtain ⟨other, agrees, strays⟩ := exists_astray recvExact outcome
  refine ⟨other, agrees, ?_⟩
  unfold openWith
  rw [self_bind_run, if_pos encrypted, agrees 16 (4 + maxPacketLen) (by decide), bind_ok (failAs_ok ran), self_bind_run]
  dsimp only
  rw [decrypted, lift_some, pure_bind_run, modify_bind_run, ensure_bind_pos ⟨admitted, by unfold maxPacketLen; omega⟩,
    bind_run, failAs_run, strays _ _ (rest_underflows short)]

/-- One receive makes only requests that fit, unless the length underflows. -/
theorem recvPacketWith_fits_iff :
    Fits (fun recv => recvPacketWith noxtls side recv account payloadMax) recvExact h ↔
      ¬ Underflows noxtls side recvExact h := by
  constructor
  · intro fits wrong
    -- a run that ends one tick later than the real one is another run
    let real := ((recvPacketWith noxtls side recvExact account payloadMax).run h).2
    obtain ⟨other, agrees, ran⟩ := @openWith_strays π noxtls side recvExact account payloadMax h wrong
      { real with tick := real.tick + 1 }
    have same := congrArg (fun r => r.2.tick) (fits other agrees)
    dsimp only at same
    rw [recvPacketWith, bind_run, ran] at same
    exact absurd same (Nat.succ_ne_self _)
  · intro fine other agrees
    exact bind_congr_run (openWith_fits fine other agrees) _

end Requests

/-! ## The two copies -/

/-- `srv_recv_packet` over a `recv_exact`. -/
def srvRecvPacketOver (noxtls : Noxtls) (env : Env) (payloadMax : Nat)
    (recvExact : Nat → Nat → Prog Server (List UInt8)) : Prog Server (List UInt8) := do
  let now ← ask env.clock
  modify (Server.armRecv now)
  recvPacketWith noxtls Server.recvSide recvExact Server.countRecv payloadMax

theorem srvRecvPacketOver_self (noxtls : Noxtls) (env : Env) (payloadMax : Nat) :
    srvRecvPacketOver noxtls env payloadMax (Server.recvExact env) = Server.recvPacket noxtls env payloadMax := rfl

/-- `netnox_ssh_recv_packet` over a `recv_exact`. -/
def recvPacketOver (noxtls : Noxtls) (payloadMax : Nat) (recvExact : Nat → Nat → Prog Client (List UInt8)) :
    Prog Client (List UInt8) :=
  recvPacketWith noxtls Client.recvSide recvExact Client.uncounted payloadMax

theorem recvPacketOver_self (noxtls : Noxtls) (env : Env) (payloadMax : Nat) :
    recvPacketOver noxtls payloadMax (Client.recvExact env) = Client.recvPacket noxtls env payloadMax := rfl

/-- The server reads its first block with the packet deadline just set. -/
def armed (env : Env) (h : Host Server) : Host Server :=
  { h with tick := h.tick + 1, self := Server.armRecv (env.clock h.tick) h.self }

theorem srvRecvPacketOver_run (noxtls : Noxtls) (env : Env) (payloadMax : Nat)
    (recvExact : Nat → Nat → Prog Server (List UInt8)) (h : Host Server) :
    (srvRecvPacketOver noxtls env payloadMax recvExact).run h =
      (recvPacketWith noxtls Server.recvSide recvExact Server.countRecv payloadMax).run (armed env h) := by
  unfold srvRecvPacketOver armed
  rw [ask_bind_run, modify_bind_run]

/-- **When a receive asks only for what fits.**  In every state and for every byte stream,
one call of either routine asks `recv_exact` only for a length that fits the buffer, if and
only if the first block is not of an encrypted packet with a length from 5 to 11. -/
theorem requests_fit_iff (noxtls : Noxtls) (env : Env) (payloadMax : Nat) :
    (∀ h, Fits (srvRecvPacketOver noxtls env payloadMax) (Server.recvExact env) h ↔
      ¬ Underflows noxtls Server.recvSide (Server.recvExact env) (armed env h)) ∧
    ∀ h, Fits (recvPacketOver noxtls payloadMax) (Client.recvExact env) h ↔
      ¬ Underflows noxtls Client.recvSide (Client.recvExact env) h := by
  refine ⟨fun h => ?_, fun _ => recvPacketWith_fits_iff⟩
  unfold Fits
  simp only [srvRecvPacketOver_run]
  exact recvPacketWith_fits_iff

/-- A client with keys, and a block of zeros with the length 5. -/
def shortBlock : Host Client :=
  ⟨{ Client.init 22 with keyExchangeComplete := true }, 0, [0, 0, 0, 5] ++ zeros 12, []⟩

theorem requests_underflow :
    ¬ ∀ (noxtls : Noxtls) (env : Env) (payloadMax : Nat) (h : Host Client),
      Fits (recvPacketOver noxtls payloadMax) (Client.recvExact env) h := by
  intro fits
  apply recvPacketWith_fits_iff.1 (fits Sample.plain { calm with recv := fun _ => 16 } maxPacketLen shortBlock)
  exact ⟨rfl, [0, 0, 0, 5] ++ zeros 12, _, [0, 0, 0, 5] ++ zeros 12, rfl, rfl, by decide, by decide⟩

end NoxSsh.Protocol
