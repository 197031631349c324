/-
# Transport.Packet — the binary packet protocol

`netnox_ssh_send_packet` / `srv_send_packet` and `netnox_ssh_recv_packet` /
`srv_recv_packet` are the same two routines around different loops and contexts.
`sendPacketWith` and `recvPacketWith` are these routines; a `Side` says which
fields of the context they read and write, and the parameters are what differs:
the loops, the source of the padding, how a sealed packet is written, and the
server's byte counts.

A `Lane` is one direction of the transport as one party sees it.  The sender
seals a packet in one cipher call and the receiver opens it in two; under
`CtrMode` the two agree (`open_head`, `open_tail`).
-/
import NoxSsh.Transport.Noxtls
import NoxSsh.Transport.Stream

namespace NoxSsh.Transport

open Theory Proc Wire

set_option autoImplicit false

/-! ## Frames -/

def maxPacketLen : Nat := 35000

def macLen : Nat := 32

def blockSize (encrypted : Bool) : Nat := if encrypted then 16 else 8

/-- The padding loop: one more byte until the packet ends on a block boundary. -/
def paddingLoop (block payloadLen : Nat) : Nat → Nat → Nat
  | 0, padding => padding
  | turns + 1, padding =>
      if (1 + payloadLen + padding + 4) % block ≠ 0 then paddingLoop block payloadLen turns (padding + 1)
      else padding

/-- The loop ends within one block. -/
def paddingLen (encrypted : Bool) (payloadLen : Nat) : Nat :=
  paddingLoop (blockSize encrypted) payloadLen (blockSize encrypted) 4

theorem paddingLoop_reach (block payloadLen : Nat) :
    ∀ turns padding reach, reach ≤ turns → (1 + payloadLen + padding + reach + 4) % block = 0 →
      padding ≤ paddingLoop block payloadLen turns padding ∧
      paddingLoop block payloadLen turns padding ≤ padding + reach ∧
      (1 + payloadLen + paddingLoop block payloadLen turns padding + 4) % block = 0 := by
  intro turns
  induction turns with
  | zero =>
      intro padding reach short aligned
      obtain rfl : reach = 0 := by omega
      exact ⟨le_rfl, le_rfl, aligned⟩
  | succ turns ih =>
      intro padding reach short aligned
      unfold paddingLoop
      split
      · rename_i off
        have more : reach ≠ 0 := by
          rintro rfl
          exact off aligned
        obtain ⟨lo, hi, even⟩ := ih (padding + 1) (reach - 1) (by omega)
          (by rw [← aligned]; congr 1; omega)
        exact ⟨by omega, by omega, even⟩
      · exact ⟨le_rfl, by omega, by omega⟩

theorem paddingLen_spec (encrypted : Bool) (payloadLen : Nat) :
    4 ≤ paddingLen encrypted payloadLen ∧ paddingLen encrypted payloadLen ≤ 19 ∧
      (4 + (1 + payloadLen + paddingLen encrypted payloadLen)) % blockSize encrypted = 0 := by
  have reach : ∀ block, 0 < block → block ≤ 16 →
      4 ≤ paddingLoop block payloadLen block 4 ∧ paddingLoop block payloadLen block 4 ≤ 19 ∧
        (4 + (1 + payloadLen + paddingLoop block payloadLen block 4)) % block = 0 := by
    intro block pos small
    have short : (block - (payloadLen + 9) % block) % block ≤ block - 1 :=
      Nat.le_sub_one_of_lt (Nat.mod_lt _ pos)
    obtain ⟨lo, hi, even⟩ := paddingLoop_reach block payloadLen block 4
      ((block - (payloadLen + 9) % block) % block) (by omega) (by
        have cover : (payloadLen + 9) % block ≤ block := (Nat.mod_lt _ pos).le
        calc (1 + payloadLen + 4 + (block - (payloadLen + 9) % block) % block + 4) % block
            = (payloadLen + 9 + (block - (payloadLen + 9) % block)) % block := by
              rw [show 1 + payloadLen + 4 + (block - (payloadLen + 9) % block) % block + 4 =
                payloadLen + 9 + (block - (payloadLen + 9) % block) % block by omega,
                Nat.add_mod_mod]
          _ = ((payloadLen + 9) % block + (block - (payloadLen + 9) % block)) % block := by
              rw [Nat.mod_add_mod]
          _ = 0 := by rw [Nat.add_sub_cancel' cover, Nat.mod_self])
    refine ⟨lo, by omega, ?_⟩
    rw [← even]
    congr 1
    omega
  cases encrypted with
  | false => exact reach 8 (by decide) (by decide)
  | true => exact reach 16 (by decide) (by decide)

/-- `packet_length || padding_length || payload || padding`. -/
def plainPacket (payload padding : List UInt8) : List UInt8 :=
  be32 (1 + payload.length + padding.length) ++ UInt8.ofNat padding.length :: (payload ++ padding)

@[simp] theorem length_plainPacket (payload padding : List UInt8) :
    (plainPacket payload padding).length = 4 + (1 + payload.length + padding.length) := by
  simp [plainPacket]
  omega

/-- The payload of a packet body, which starts with the padding length. -/
def unpack (payloadMax : Nat) : List UInt8 → Option (List UInt8)
  | [] => none
  | padding :: body =>
      if padding.toNat < 4 ∨ padding.toNat ≥ body.length + 1 then none
      else if body.length - padding.toNat > payloadMax then none
      else some (body.take (body.length - padding.toNat))

theorem unpack_plainPacket {payload padding : List UInt8} {payloadMax : Nat}
    (long : 4 ≤ padding.length) (short : padding.length < 256) (fits : payload.length ≤ payloadMax) :
    unpack payloadMax ((plainPacket payload padding).drop 4) = some payload := by
  have byte : (UInt8.ofNat padding.length).toNat = padding.length := by
    simpa using Nat.mod_eq_of_lt short
  have body : (plainPacket payload padding).drop 4 =
      UInt8.ofNat padding.length :: (payload ++ padding) := by
    rw [plainPacket, List.drop_left' (by simp)]
  rw [body, unpack, byte, List.length_append, if_neg (by omega), if_neg (by omega)]
  simp

theorem beNat_plainPacket {payload padding : List UInt8}
    (short : 1 + payload.length + padding.length < 4294967296) :
    beNat ((plainPacket payload padding).take 4) = 1 + payload.length + padding.length := by
  rw [plainPacket, List.take_left' (by simp), beNat_be32, Nat.mod_eq_of_lt short]

/-! ## Lanes -/

/-- One direction of the transport: is it encrypted, and under what. -/
structure Lane where
  encrypted : Bool
  key : List UInt8
  macKey : List UInt8
  counter : List UInt8
  seq : Nat
  deriving DecidableEq, Repr

/-- The lane after a packet of `plainLen` bytes before encryption. -/
def Lane.after (lane : Lane) (plainLen : Nat) : Lane :=
  { lane with
    counter := if lane.encrypted then ctrIncrementBlocks lane.counter ((plainLen + 15) / 16) else lane.counter
    seq := wrap32 (lane.seq + 1) }

/-- What the MAC is computed over. -/
def Lane.macMessage (lane : Lane) (plain : List UInt8) : List UInt8 := be32 lane.seq ++ plain

/-- Sender and receiver agree on all that matters in the mode they are in. -/
structure InStep (sender receiver : Lane) : Prop where
  encrypted : sender.encrypted = receiver.encrypted
  seq : sender.seq = receiver.seq
  keys : sender.encrypted = true → sender.key = receiver.key ∧ sender.macKey = receiver.macKey ∧
    sender.counter = receiver.counter ∧ sender.counter.length = 16

theorem InStep.after {sender receiver : Lane} (step : InStep sender receiver) (plainLen : Nat) :
    InStep (sender.after plainLen) (receiver.after plainLen) where
  encrypted := step.encrypted
  seq := by simp only [Lane.after, step.seq]
  keys := by
    intro encrypted
    obtain ⟨key, macKey, counter, block⟩ := step.keys encrypted
    refine ⟨key, macKey, ?_, ?_⟩
    · simp only [Lane.after, ← step.encrypted, counter]
    · simp only [Lane.after]
      split
      · rw [length_ctrIncrementBlocks, block]
      · exact block

/-- A cipher lane has a 16-byte counter. -/
def HasBlock (lane : Lane) : Prop := lane.encrypted = true → lane.counter.length = 16

theorem HasBlock.after {lane : Lane} (block : HasBlock lane) (n : Nat) : HasBlock (lane.after n) := by
  intro encrypted
  simp only [Lane.after] at encrypted ⊢
  rw [if_pos encrypted, length_ctrIncrementBlocks, block encrypted]

theorem InStep.hasBlock {sender receiver : Lane} (step : InStep sender receiver) : HasBlock sender :=
  fun encrypted => (step.keys encrypted).2.2.2

/-- The bytes of a packet on the wire. -/
def sealPacket (noxtls : Noxtls) (lane : Lane) (plain : List UInt8) : Option (List UInt8) :=
  if lane.encrypted then do
    let mac ← hmacSha256 noxtls lane.macKey (lane.macMessage plain)
    let enc ← noxtls.aesEncryptCtr lane.key plain lane.counter
    some (enc ++ mac)
  else some plain

section Open

variable {noxtls : Noxtls} {key plain counter enc : List UInt8}

/-- Decrypting the first block with the sender's counter gives the first block. -/
theorem open_head (ctr : CtrMode noxtls) (block : counter.length = 16)
    (encrypts : noxtls.aesEncryptCtr key plain counter = some enc) :
    noxtls.aesEncryptCtr key (enc.take 16) counter = some (plain.take 16) := by
  obtain ⟨stream, law⟩ := ctr
  rw [law key plain counter block, Option.some.injEq] at encrypts
  rw [law key _ counter block, ← encrypts, Option.some.injEq]
  by_cases whole : plain.length ≤ 16
  · rw [List.take_of_length_le (by simpa using whole), ctrStream_ctrStream,
      List.take_of_length_le whole]
  · have head : (plain.take 16).length = 16 * 1 := by rw [List.length_take]; omega
    conv_lhs => rw [← List.take_append_drop 16 plain, ctrStream_append _ _ 1 _ _ head]
    rw [List.take_left' (by simpa using head), ctrStream_ctrStream]

/-- Decrypting the rest with the counter advanced by one gives the rest. -/
theorem open_tail (ctr : CtrMode noxtls) (block : counter.length = 16) (long : 16 ≤ plain.length)
    (encrypts : noxtls.aesEncryptCtr key plain counter = some enc) :
    noxtls.aesEncryptCtr key (enc.drop 16) (ctrIncrementBlocks counter 1) = some (plain.drop 16) := by
  obtain ⟨stream, law⟩ := ctr
  rw [law key plain counter block, Option.some.injEq] at encrypts
  have head : (plain.take 16).length = 16 * 1 := by rw [List.length_take]; omega
  have advanced : beNat (ctrIncrementBlocks counter 1) = (beNat counter + 1) % 2 ^ 128 := by
    rw [beNat_ctrIncrementBlocks, block]
    norm_num
  rw [law key _ _ (by rw [length_ctrIncrementBlocks, block]), ← encrypts, Option.some.injEq, advanced,
    ctrStream_wrap (stream key)]
  conv_lhs => rw [← List.take_append_drop 16 plain, ctrStream_append _ _ 1 _ _ head]
  rw [List.drop_left' (by simpa using head), ctrStream_ctrStream]

end Open

/-! ## The two routines -/

/-- Where a context keeps one of its lanes. -/
structure Side (π : Type) where
  lane : π → Lane
  setCounter : List UInt8 → π → π
  setSeq : Nat → π → π
  lane_setCounter : ∀ counter p, lane (setCounter counter p) = { lane p with counter := counter }
  lane_setSeq : ∀ seq p, lane (setSeq seq p) = { lane p with seq := seq }
  setCounter_setCounter : ∀ a b p, setCounter a (setCounter b p) = setCounter a p

/-- `send_seq++`, `recv_seq++`. -/
def Side.bumpSeq {π : Type} (side : Side π) (p : π) : π := side.setSeq (wrap32 ((side.lane p).seq + 1)) p

section Routines

variable {π : Type} (noxtls : Noxtls) (side : Side π)

/-- Send one packet.  `fillRandom` makes the padding, `sendAll` writes a plain
packet, `writeSealed` an encrypted one and its MAC, `account` counts its bytes. -/
def sendPacketWith (fillRandom : Nat → Prog π (List UInt8)) (sendAll : List UInt8 → Prog π Unit)
    (writeSealed : List UInt8 → List UInt8 → Prog π Unit) (account : Nat → π → π)
    (payload : List UInt8) : Prog π Unit := do
  let lane := side.lane (← self)
  let padLen := paddingLen lane.encrypted payload.length
  ensure (1 + payload.length + padLen ≤ maxPacketLen) .badParam
  let padding ← fillRandom padLen
  let plain := plainPacket payload padding
  if lane.encrypted then do
    let message := lane.macMessage plain
    let mac ← lift .failed (hmacSha256 noxtls lane.macKey message)
    log (.macComputed message mac)
    let enc ← lift .failed (noxtls.aesEncryptCtr lane.key plain lane.counter)
    modify (side.setCounter (ctrIncrementBlocks lane.counter ((plain.length + 15) / 16)))
    failAs .failed (writeSealed enc mac)
    modify side.bumpSeq
    modify (account (plain.length + macLen))
  else do
    -- NEWKEYS has a branch of its own in the source, with the same body
    sendAll plain
    modify side.bumpSeq

/-- Read one packet and open it.  The length field of an encrypted packet is used
before the MAC is checked, and `plain_len - 16` is an unsigned subtraction. -/
def openWith (recvExact : Nat → Nat → Prog π (List UInt8)) (account : Nat → π → π)
    (payloadMax : Nat) : Prog π (List UInt8) := do
  if (side.lane (← self)).encrypted then do
    let first ← failAs .failed (recvExact 16 (4 + maxPacketLen))
    let lane := side.lane (← self)
    let head ← lift .failed (noxtls.aesEncryptCtr lane.key first lane.counter)
    modify (side.setCounter (ctrIncrementBlocks lane.counter 1))
    let packetLen := beNat (head.take 4)
    ensure (5 ≤ packetLen ∧ packetLen ≤ maxPacketLen) .failed
    let plainLen := 4 + packetLen
    let rest ← failAs .failed
      (recvExact (wrap32 (plainLen + 4294967296 - 16)) (4 + maxPacketLen - 16))
    let lane := side.lane (← self)
    let tail ← lift .failed (noxtls.aesEncryptCtr lane.key rest lane.counter)
    modify (side.setCounter (ctrIncrementBlocks lane.counter ((plainLen + 15) / 16 - 1)))
    let mac ← failAs .failed (recvExact macLen macLen)
    let lane := side.lane (← self)
    let plain := head ++ tail
    let message := lane.macMessage plain
    let computed ← lift .failed (hmacSha256 noxtls lane.macKey message)
    ensure (computed = mac) .failed
    log (.macAccepted message mac)
    modify side.bumpSeq
    modify (account (plainLen + macLen))
    lift .failed (unpack payloadMax (plain.drop 4))
  else do
    let header ← failAs .failed (recvExact 4 4)
    let packetLen := beNat header
    ensure (5 ≤ packetLen ∧ packetLen ≤ maxPacketLen) .failed
    let packet ← failAs .failed (recvExact packetLen maxPacketLen)
    let payload ← lift .failed (unpack payloadMax packet)
    modify side.bumpSeq
    pure payload

/-- Receive one packet into a buffer of `payloadMax` bytes. -/
def recvPacketWith (recvExact : Nat → Nat → Prog π (List UInt8)) (account : Nat → π → π)
    (payloadMax : Nat) : Prog π (List UInt8) := do
  let payload ← openWith noxtls side recvExact account payloadMax
  log (.received payload)
  pure payload

end Routines

/-! ## What a live packet does -/

/-- The context after a packet of `plainLen` bytes passed through the lane. -/
def Side.step {π : Type} (side : Side π) (account : Nat → π → π) (plainLen : Nat) (p : π) : π :=
  if (side.lane p).encrypted then
    account (plainLen + macLen) (side.bumpSeq
      (side.setCounter (ctrIncrementBlocks (side.lane p).counter ((plainLen + 15) / 16)) p))
  else side.bumpSeq p

theorem Side.lane_step {π : Type} (side : Side π) (account : Nat → π → π)
    (counts : ∀ n p, side.lane (account n p) = side.lane p) (plainLen : Nat) (p : π) :
    side.lane (side.step account plainLen p) = (side.lane p).after plainLen := by
  unfold Side.step Side.bumpSeq Lane.after
  split
  · rw [counts, side.lane_setSeq, side.lane_setCounter]
  · rw [side.lane_setSeq]

/-- `h'` has the context `p`, the inbox `rest`, and put `bytes` on the wire after `h`. -/
structure Moved {π : Type} (bytes rest : List UInt8) (p : π) (h h' : Host π) : Prop where
  self : h'.self = p
  inbox : h'.inbox = rest
  grown : ∃ new, h'.trace = h.trace ++ new ∧ wireOf new = bytes

theorem Moved.refl {π : Type} (h : Host π) : Moved [] h.inbox h.self h h :=
  ⟨rfl, rfl, [], by simp, rfl⟩

theorem Moved.trans {π : Type} {a b rest rest' : List UInt8} {p q : π} {h h' h'' : Host π}
    (first : Moved a rest p h h') (second : Moved b rest' q h' h'') : Moved (a ++ b) rest' q h h'' := by
  obtain ⟨new, grown, wire⟩ := first.grown
  obtain ⟨new', grown', wire'⟩ := second.grown
  exact ⟨second.self, second.inbox, new ++ new', by rw [grown', grown, List.append_assoc],
    by rw [wireOf_append, wire, wire']⟩

theorem Wrote.moved {π : Type} {data : List UInt8} {h h' : Host π} (wrote : Wrote data h h') :
    Moved data h.inbox h.self h h' := by
  obtain ⟨t, new, rfl, wire, -⟩ := wrote
  exact ⟨rfl, rfl, new, rfl, wire⟩

theorem Took.moved {π : Type} {rest : List UInt8} {h h' : Host π} (took : Took rest h h') :
    Moved [] rest h.self h h' := by
  obtain ⟨t, new, rfl, calls⟩ := took
  refine ⟨rfl, rfl, new, rfl, List.flatMap_eq_nil_iff.2 fun e he => ?_⟩
  obtain ⟨-, looked, is⟩ := calls e he
  rw [is]
  rfl

section Steps

variable {π : Type} {late : Host π → Prop} {h : Host π}

theorem returns_self_bind {α : Type} {k : π → Prog π α} {Q : α → Host π → Prop}
    (rest : Returns late (k h.self) Q h) : Returns late (self >>= k) Q h := rest

theorem returns_modify_bind {α : Type} {f : π → π} {k : Unit → Prog π α} {Q : α → Host π → Prop}
    (rest : Returns late (k ()) Q { h with self := f h.self }) : Returns late (modify f >>= k) Q h := rest

theorem returns_modify (f : π → π) :
    Returns late (modify f) (fun _ h' => Moved [] h.inbox (f h.self) h h') h :=
  returns_of_run (modify_run h f) ⟨rfl, rfl, [], by simp, rfl⟩

theorem returns_log {e : Event} (silent : e.wireBytes = []) :
    Returns late (log e) (fun _ h' => Moved [] h.inbox h.self h h') h :=
  returns_of_run (log_run h e) ⟨rfl, rfl, _, rfl, by simp [silent]⟩

end Steps

/-- From `h` to `h'` the payload went out as the frame `bytes`, padded with `padding`. -/
structure SentFrame {π : Type} (noxtls : Noxtls) (side : Side π) (account : Nat → π → π)
    (payload padding bytes : List UInt8) (h h' : Host π) : Prop where
  length : padding.length = paddingLen (side.lane h.self).encrypted payload.length
  seals : sealPacket noxtls (side.lane h.self) (plainPacket payload padding) = some bytes
  moved : Moved bytes h.inbox (side.step account (plainPacket payload padding).length h.self) h h'

section LivePacket

variable {π : Type} {noxtls : Noxtls} {side : Side π} {late : Host π → Prop}
  {fillRandom : Nat → Prog π (List UInt8)} {sendAll : List UInt8 → Prog π Unit}
  {writeSealed : List UInt8 → List UInt8 → Prog π Unit} {recvExact : Nat → Nat → Prog π (List UInt8)}
  {account : Nat → π → π} {payload : List UInt8}

/-- One payload goes out as one frame and the lane moves on by it. -/
theorem sendPacketWith_live {h : Host π} (sha : noxtls.shaInit = true) (ctr : CtrMode noxtls)
    (fills : ∀ n h, Returns late (fillRandom n)
      (fun padding h' => padding.length = n ∧ Moved [] h.inbox h.self h h') h)
    (sends : ∀ data h, Returns late (sendAll data) (fun _ h' => Moved data h.inbox h.self h h') h)
    (writes : ∀ enc mac h, Returns late (writeSealed enc mac)
      (fun _ h' => Moved (enc ++ mac) h.inbox h.self h h') h)
    (block : (side.lane h.self).encrypted = true → (side.lane h.self).counter.length = 16)
    (small : payload.length ≤ 34980) :
    Returns late (sendPacketWith noxtls side fillRandom sendAll writeSealed account payload)
      (fun _ h' => ∃ padding bytes, SentFrame noxtls side account payload padding bytes h h') h := by
  have fits := (paddingLen_spec (side.lane h.self).encrypted payload.length).2.1
  rw [sendPacketWith]
  refine returns_self_bind (returns_ensure_bind (by unfold maxPacketLen; omega) _ ?_)
  refine (fills _ _).bind ?_
  rintro padding h₁ ⟨length, moved₁⟩
  split
  · rename_i encrypted
    obtain ⟨stream, law⟩ := id ctr
    have encrypts := law (side.lane h.self).key (plainPacket payload padding) _ (block encrypted)
    obtain ⟨mac, computes⟩ : ∃ mac, hmacSha256 noxtls (side.lane h.self).macKey
        ((side.lane h.self).macMessage (plainPacket payload padding)) = some mac := by
      simp [hmacSha256, sha]
    generalize ctrStream _ _ _ = enc at encrypts
    refine returns_lift_bind computes _ ((returns_log rfl).bind ?_)
    intro _ h₂ moved₂
    refine returns_lift_bind encrypts _ ((returns_modify _).bind ?_)
    intro _ h₃ moved₃
    refine ((writes _ mac h₃).failAs _).bind ?_
    intro _ h₄ moved₄
    refine (returns_modify _).bind ?_
    intro _ h₅ moved₅
    refine (returns_modify _).mono ?_
    intro _ h₆ moved₆
    have whole := ((((moved₁.trans moved₂).trans moved₃).trans moved₄).trans moved₅).trans moved₆
    refine ⟨padding, enc ++ mac, length, ?_, ?_⟩
    · simp only [sealPacket, encrypted, if_true, computes, encrypts, Option.bind_eq_bind, Option.bind_some]
    · refine ⟨?_, by rw [whole.inbox, moved₅.inbox, moved₄.inbox, moved₃.inbox, moved₂.inbox,
        moved₁.inbox], by simpa using whole.grown⟩
      rw [whole.self, moved₅.self, moved₄.self, moved₃.self, moved₂.self, moved₁.self, Side.step,
        if_pos encrypted]
  · rename_i plain
    refine (sends _ _).bind ?_
    intro _ h₂ moved₂
    refine (returns_modify _).mono ?_
    intro _ h₃ moved₃
    have whole := (moved₁.trans moved₂).trans moved₃
    refine ⟨padding, plainPacket payload padding, length, by rw [sealPacket, if_neg plain], ?_,
      by rw [whole.inbox, moved₂.inbox, moved₁.inbox], by simpa using whole.grown⟩
    rw [whole.self, moved₂.self, moved₁.self, Side.step, if_neg plain]

/-- A receiver in step with the sealing lane opens the frame. -/
theorem openWith_live {h : Host π} {sender : Lane} {payload padding bytes rest : List UInt8}
    {payloadMax : Nat} (ctr : CtrMode noxtls)
    (receives : ∀ len room h next rest, len ≤ room → next.length = len → h.inbox = next ++ rest →
      Returns late (recvExact len room) (fun got h' => got = next ∧ Moved [] rest h.self h h') h)
    (step : InStep sender (side.lane h.self))
    (small : payload.length ≤ 34980) (fits : payload.length ≤ payloadMax)
    (length : padding.length = paddingLen sender.encrypted payload.length)
    (sealed : sealPacket noxtls sender (plainPacket payload padding) = some bytes)
    (inbox : h.inbox = bytes ++ rest) :
    Returns late (openWith noxtls side recvExact account payloadMax)
      (fun got h' => got = payload ∧
        Moved [] rest (side.step account (plainPacket payload padding).length h.self) h h') h := by
  obtain ⟨four, nineteen, aligned⟩ := paddingLen_spec sender.encrypted payload.length
  rw [← length] at four nineteen aligned
  have size : (plainPacket payload padding).length = 4 + (1 + payload.length + padding.length) :=
    length_plainPacket payload padding
  have header : beNat ((plainPacket payload padding).take 4) = 1 + payload.length + padding.length :=
    beNat_plainPacket (by omega)
  have unpacks : unpack payloadMax ((plainPacket payload padding).drop 4) = some payload :=
    unpack_plainPacket four (by omega) fits
  rw [openWith]
  refine returns_self_bind ?_
  unfold sealPacket at sealed
  split at sealed
  · rename_i encrypted
    obtain ⟨key, macKey, counter, block⟩ := step.keys encrypted
    rw [if_pos (by rw [← step.encrypted, encrypted])]
    simp only [Option.bind_eq_bind, Option.bind_eq_some_iff, Option.some.injEq] at sealed
    obtain ⟨mac, computes, enc, encrypts, rfl⟩ := sealed
    rw [blockSize, encrypted, if_pos rfl] at aligned
    have encSize := noxtls.length_aesEncryptCtr _ _ _ _ encrypts
    have macSize : mac.length = macLen := length_hmacSha256 computes
    have long : 16 ≤ (plainPacket payload padding).length := by omega
    have blocks : ((plainPacket payload padding).length + 15) / 16 =
        1 + (((plainPacket payload padding).length + 15) / 16 - 1) := by omega
    have head := open_head ctr block encrypts
    have tail := open_tail ctr block long encrypts
    rw [counter, key] at head tail
    -- the first block, from which the length is read
    refine ((receives 16 (4 + maxPacketLen) h (enc.take 16) (enc.drop 16 ++ (mac ++ rest))
      (by decide) (by rw [List.length_take]; omega) (by rw [inbox, ← List.append_assoc,
        List.take_append_drop, List.append_assoc])).failAs _).bind ?_
    rintro _ h₁ ⟨rfl, moved₁⟩
    refine returns_self_bind ?_
    rw [moved₁.self]
    refine returns_lift_bind head _ ((returns_modify _).bind ?_)
    intro _ h₂ moved₂
    have packetLen : beNat (((plainPacket payload padding).take 16).take 4) =
        1 + payload.length + padding.length := by rw [List.take_take]; exact header
    rw [packetLen]
    refine returns_ensure_bind (by unfold maxPacketLen; omega) _ ?_
    have restLen : wrap32 (4 + (1 + payload.length + padding.length) + 4294967296 - 16) =
        (enc.drop 16).length := by
      rw [List.length_drop, wrap32]
      omega
    dsimp only
    rw [restLen]
    refine ((receives _ (4 + maxPacketLen - 16) h₂ (enc.drop 16) (mac ++ rest)
      (by rw [List.length_drop]; unfold maxPacketLen; omega) rfl
      (by rw [moved₂.inbox, moved₁.inbox])).failAs _).bind ?_
    rintro _ h₃ ⟨rfl, moved₃⟩
    refine returns_self_bind ?_
    rw [moved₃.self, moved₂.self, moved₁.self, side.lane_setCounter]
    refine returns_lift_bind tail _ ((returns_modify _).bind ?_)
    intro _ h₄ moved₄
    refine ((receives macLen macLen h₄ mac rest le_rfl macSize
      (by rw [moved₄.inbox, moved₃.inbox])).failAs _).bind ?_
    rintro mac h₅ ⟨rfl, moved₅⟩
    refine returns_self_bind ?_
    rw [moved₅.self, moved₄.self, moved₃.self, moved₂.self, moved₁.self, side.setCounter_setCounter,
      side.lane_setCounter, List.take_append_drop]
    have message : hmacSha256 noxtls (side.lane h.self).macKey
        (Lane.macMessage { side.lane h.self with
          counter := (ctrIncrementBlocks (ctrIncrementBlocks (side.lane h.self).counter 1)
            ((4 + (1 + payload.length + padding.length) + 15) / 16 - 1)) } (plainPacket payload padding))
        = some mac := by
      rw [← computes, macKey, Lane.macMessage, Lane.macMessage, step.seq]
    refine returns_lift_bind message _ (returns_ensure_bind rfl _ ((returns_log rfl).bind ?_))
    intro _ h₆ moved₆
    refine (returns_modify _).bind ?_
    intro _ h₇ moved₇
    refine (returns_modify _).bind ?_
    intro _ h₈ moved₈
    have whole := ((((((moved₁.trans moved₂).trans moved₃).trans moved₄).trans moved₅).trans
      moved₆).trans moved₇).trans moved₈
    rw [unpacks, lift_some]
    refine returns_of_run (pure_run payload h₈) ⟨rfl, ?_, ?_, by simpa using whole.grown⟩
    · rw [whole.self, moved₇.self, moved₆.self, moved₅.self, moved₄.self, moved₃.self,
        moved₂.self, moved₁.self, side.setCounter_setCounter, Side.step,
        if_pos (by rw [← step.encrypted, encrypted]), ctrIncrementBlocks_add, size,
        ← size, ← blocks]
    · rw [whole.inbox, moved₇.inbox, moved₆.inbox, moved₅.inbox]
  · rename_i plain
    rw [if_neg (by rw [← step.encrypted]; exact plain)]
    obtain rfl : plainPacket payload padding = bytes := by simpa using sealed
    refine ((receives 4 4 h ((plainPacket payload padding).take 4)
      ((plainPacket payload padding).drop 4 ++ rest) le_rfl (by rw [List.length_take]; omega)
      (by rw [inbox, ← List.append_assoc, List.take_append_drop])).failAs _).bind ?_
    rintro _ h₁ ⟨rfl, moved₁⟩
    rw [header]
    refine returns_ensure_bind (by unfold maxPacketLen; omega) _ ?_
    refine ((receives _ maxPacketLen h₁ ((plainPacket payload padding).drop 4) rest
      (by unfold maxPacketLen; omega) (by rw [List.length_drop]; omega) moved₁.inbox).failAs _).bind ?_
    rintro _ h₂ ⟨rfl, moved₂⟩
    refine returns_lift_bind unpacks _ ((returns_modify _).bind ?_)
    intro _ h₃ moved₃
    have whole := (moved₁.trans moved₂).trans moved₃
    refine returns_of_run (pure_run payload h₃) ⟨rfl, ?_, ?_, by simpa using whole.grown⟩
    · rw [whole.self, moved₂.self, moved₁.self, Side.step,
        if_neg (by rw [← step.encrypted]; exact plain)]
    · rw [whole.inbox, moved₂.inbox]

/-- The receiver in step with the sealing lane gets the payload back. -/
theorem recvPacketWith_live {h : Host π} {sender : Lane} {payload padding bytes rest : List UInt8}
    {payloadMax : Nat} (ctr : CtrMode noxtls)
    (receives : ∀ len room h next rest, len ≤ room → next.length = len → h.inbox = next ++ rest →
      Returns late (recvExact len room) (fun got h' => got = next ∧ Moved [] rest h.self h h') h)
    (step : InStep sender (side.lane h.self))
    (small : payload.length ≤ 34980) (fits : payload.length ≤ payloadMax)
    (length : padding.length = paddingLen sender.encrypted payload.length)
    (sealed : sealPacket noxtls sender (plainPacket payload padding) = some bytes)
    (inbox : h.inbox = bytes ++ rest) :
    Returns late (recvPacketWith noxtls side recvExact account payloadMax)
      (fun got h' => got = payload ∧
        Moved [] rest (side.step account (plainPacket payload padding).length h.self) h h') h := by
  refine (openWith_live ctr receives step small fits length sealed inbox).bind ?_
  rintro _ h₁ ⟨rfl, moved₁⟩
  refine (returns_log rfl).bind ?_
  intro _ h₂ moved₂
  refine returns_of_run (pure_run _ h₂) ⟨rfl, ?_, by rw [moved₂.inbox, moved₁.inbox],
    by simpa using (moved₁.trans moved₂).grown⟩
  rw [moved₂.self, moved₁.self]

end LivePacket

/-! ## Streams of packets -/

/-- Sealing the payloads one after the other, from lane `start`, gives the frames
and ends in the last lane. -/
inductive Sealed (noxtls : Noxtls) : Lane → List (List UInt8) → List (List UInt8) → Lane → Prop where
  | nil (lane : Lane) : Sealed noxtls lane [] [] lane
  | cons {lane last : Lane} {payload padding bytes : List UInt8} {payloads frames : List (List UInt8)}
      (small : payload.length ≤ 34980)
      (length : padding.length = paddingLen lane.encrypted payload.length)
      (seals : sealPacket noxtls lane (plainPacket payload padding) = some bytes)
      (rest : Sealed noxtls (lane.after (plainPacket payload padding).length) payloads frames last) :
      Sealed noxtls lane (payload :: payloads) (bytes :: frames) last

/-- What a frame that carries the payload looks like from outside. -/
structure WellFramed (encrypted : Bool) (payload frame : List UInt8) : Prop where
  intro ::
  exists_padding : ∃ padLen packetLen, 4 ≤ padLen ∧ padLen ≤ 255 ∧
    packetLen = 1 + payload.length + padLen ∧ packetLen ≤ maxPacketLen ∧
    (4 + packetLen) % blockSize encrypted = 0 ∧
    frame.length = 4 + packetLen + (if encrypted then macLen else 0)

/-- The bytes of a list of payloads, padded with zeros. -/
def sealAll (noxtls : Noxtls) : Lane → List (List UInt8) → List UInt8
  | _, [] => []
  | lane, payload :: payloads =>
      let plain := plainPacket payload (zeros (paddingLen lane.encrypted payload.length))
      (sealPacket noxtls lane plain).getD [] ++ sealAll noxtls (lane.after plain.length) payloads

/-- The lane after these payloads. -/
def Lane.afterAll (lane : Lane) (payloads : List (List UInt8)) : Lane :=
  payloads.foldl (fun lane payload => lane.after (plainPacket payload (zeros (paddingLen lane.encrypted payload.length))).length)
    lane

theorem sealAll_append (noxtls : Noxtls) (front back : List (List UInt8)) :
    ∀ lane : Lane, sealAll noxtls lane (front ++ back) =
      sealAll noxtls lane front ++ sealAll noxtls (lane.afterAll front) back := by
  induction front with
  | nil => exact fun _ => rfl
  | cons payload front ih =>
      intro lane
      rw [List.cons_append, sealAll, ih, sealAll, List.append_assoc, Lane.afterAll, Lane.afterAll, List.foldl_cons]

theorem length_sealPacket {noxtls : Noxtls} {lane : Lane} {plain bytes : List UInt8}
    (sealed : sealPacket noxtls lane plain = some bytes) :
    bytes.length = plain.length + (if lane.encrypted then macLen else 0) := by
  unfold sealPacket at sealed
  split at sealed
  · rename_i encrypted
    simp only [Option.bind_eq_bind, Option.bind_eq_some_iff, Option.some.injEq] at sealed
    obtain ⟨mac, computes, enc, encrypts, rfl⟩ := sealed
    rw [List.length_append, noxtls.length_aesEncryptCtr _ _ _ _ encrypts, length_hmacSha256 computes,
      if_pos encrypted, macLen]
  · rename_i plain
    obtain rfl : _ = bytes := by simpa using sealed
    rw [if_neg plain, Nat.add_zero]

theorem Sealed.wellFramed {noxtls : Noxtls} {lane last : Lane} {payloads frames : List (List UInt8)}
    (sealed : Sealed noxtls lane payloads frames last) :
    List.Forall₂ (WellFramed lane.encrypted) payloads frames := by
  induction sealed with
  | nil => exact .nil
  | @cons lane last payload padding bytes payloads frames small length seals _ ih =>
      refine .cons ⟨padding.length, 1 + payload.length + padding.length, ?_⟩ ih
      obtain ⟨four, nineteen, aligned⟩ := paddingLen_spec lane.encrypted payload.length
      rw [← length] at four nineteen aligned
      refine ⟨four, by omega, rfl, by unfold maxPacketLen; omega, aligned, ?_⟩
      rw [length_sealPacket seals, length_plainPacket]

section Streams

variable {π : Type}

/-- Send the payloads in order. -/
def sendEach (send : List UInt8 → Prog π Unit) : List (List UInt8) → Prog π Unit
  | [] => pure ()
  | payload :: payloads => do
      send payload
      sendEach send payloads

/-- Receive that many payloads. -/
def recvEach (recv : Prog π (List UInt8)) : Nat → Prog π (List (List UInt8))
  | 0 => pure []
  | n + 1 => do
      let payload ← recv
      let payloads ← recvEach recv n
      pure (payload :: payloads)

variable {noxtls : Noxtls} {side : Side π} {late : Host π → Prop}

/-- A sender whose single packets are sealed by its lane seals whole lists. -/
theorem sendEach_sealed {send : List UInt8 → Prog π Unit} (Ready : π → Prop)
    (sends : ∀ payload h, payload ≠ [] → payload.length ≤ 34980 → Ready h.self →
      Returns late (send payload) (fun _ h' => ∃ padding bytes,
        padding.length = paddingLen (side.lane h.self).encrypted payload.length ∧
        sealPacket noxtls (side.lane h.self) (plainPacket payload padding) = some bytes ∧
        side.lane h'.self = (side.lane h.self).after (plainPacket payload padding).length ∧
        Ready h'.self ∧ ∃ new, h'.trace = h.trace ++ new ∧ wireOf new = bytes) h) :
    ∀ (payloads : List (List UInt8)) (h : Host π),
      (∀ p ∈ payloads, p ≠ [] ∧ p.length ≤ 34980) → Ready h.self →
      Returns late (sendEach send payloads) (fun _ h' => ∃ frames,
        Sealed noxtls (side.lane h.self) payloads frames (side.lane h'.self) ∧
        ∃ new, h'.trace = h.trace ++ new ∧ wireOf new = frames.flatten) h := by
  intro payloads
  induction payloads with
  | nil =>
      intro h _ _
      exact returns_of_run (pure_run () h) ⟨[], .nil _, [], by simp, rfl⟩
  | cons payload payloads ih =>
      intro h sizes ready
      obtain ⟨nonempty, small⟩ := sizes payload (by simp)
      refine (sends payload h nonempty small ready).bind ?_
      rintro _ h₁ ⟨padding, bytes, length, seals, lane, ready₁, new, grown, wire⟩
      refine (ih h₁ (fun p hp => sizes p (by simp [hp])) ready₁).mono ?_
      rintro _ h₂ ⟨frames, sealed, new', grown', wire'⟩
      refine ⟨bytes :: frames, .cons small length seals (lane ▸ sealed), new ++ new', ?_, ?_⟩
      · rw [grown', grown, List.append_assoc]
      · rw [wireOf_append, wire, wire', List.flatten_cons]

/-- A receiver that opens single frames in step opens whole streams. -/
theorem recvEach_sealed {recv : Prog π (List UInt8)} {payloadMax : Nat}
    (receives : ∀ (h : Host π) (sender : Lane) (payload padding bytes rest : List UInt8),
      InStep sender (side.lane h.self) → payload.length ≤ 34980 → payload.length ≤ payloadMax →
      padding.length = paddingLen sender.encrypted payload.length →
      sealPacket noxtls sender (plainPacket payload padding) = some bytes → h.inbox = bytes ++ rest →
      Returns late recv (fun got h' => got = payload ∧ h'.inbox = rest ∧
        side.lane h'.self = (side.lane h.self).after (plainPacket payload padding).length) h)
    {sender last : Lane} {payloads frames : List (List UInt8)}
    (sealed : Sealed noxtls sender payloads frames last) :
    ∀ (h : Host π) (rest : List UInt8), InStep sender (side.lane h.self) →
      (∀ p ∈ payloads, p.length ≤ payloadMax) → h.inbox = frames.flatten ++ rest →
      Returns late (recvEach recv payloads.length) (fun got h' => got = payloads ∧ h'.inbox = rest ∧
        InStep last (side.lane h'.self)) h := by
  induction sealed with
  | nil lane =>
      intro h rest step _ inbox
      exact returns_of_run (pure_run [] h) ⟨rfl, by simpa using inbox, step⟩
  | @cons lane last payload padding bytes payloads frames small length seals _ ih =>
      intro h rest step fits inbox
      rw [List.length_cons, recvEach]
      refine (receives h lane payload padding bytes (frames.flatten ++ rest) step small
        (fits payload (by simp)) length seals (by rw [inbox]; simp)).bind ?_
      rintro _ h₁ ⟨rfl, inbox₁, lane₁⟩
      refine (ih h₁ rest (by rw [lane₁]; exact step.after _)
        (fun p hp => fits p (by simp [hp])) inbox₁).bind ?_
      rintro _ h₂ ⟨rfl, inbox₂, step₂⟩
      exact returns_of_run (pure_run _ h₂) ⟨rfl, inbox₂, step₂⟩

end Streams

end NoxSsh.Transport
