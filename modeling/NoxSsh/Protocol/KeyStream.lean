/-
# Protocol.KeyStream — no part of the key stream is used twice

A packet is encrypted with the key stream from the counter on, and the counter
is advanced by hand afterwards, apart from the sequence number and with failure
returns before, between and behind these steps.  A `Stretch` is what happens to a
party between two derivations of its keys: sends, with whatever results, and
anything else that leaves the key and the counter of the sending lane alone.

A send that fails before the cipher call uses nothing and advances nothing; one
that fails after it has advanced the counter past everything it can have put on
the wire.  So the spans of a stretch are handed out by a counter
(`Stretch.handedOut`), and the general fact about such counters applies.
-/
import NoxSsh.Client.Context
import NoxSsh.Server.Context
import NoxSsh.Theory.Ranges

namespace NoxSsh.Protocol

open Theory Proc Wire Transport

set_option autoImplicit false

/-! ## What a trace says was encrypted -/

section Spent

variable {π : Type} (noxtls : Noxtls) (side : Side π)

/-- The part of the key stream an event stands for: the MAC is computed with the
counter as the cipher call finds it, over the packet the call encrypts. -/
def encryption (e : Event × π) : Option Span :=
  match e.1 with
  | .macComputed message _ =>
      let lane := side.lane e.2
      if (noxtls.aesEncryptCtr lane.key (message.drop 4) lane.counter).isSome then
        some ⟨beNat lane.counter, ((message.drop 4).length + 15) / 16⟩
      else none
  | _ => none

def encryptions (trace : List (Event × π)) : List Span := trace.filterMap (encryption noxtls side)

/-- What happened between two states encrypted these spans, and whether bytes went out. -/
def spentBy (h h' : Host π) : List (Span × Bool) :=
  let new := h'.trace.drop h.trace.length
  (encryptions noxtls side new).map fun span => (span, wireOf new ≠ [])

/-- The key and the counter of a lane. -/
def stream (p : π) : List UInt8 × List UInt8 := ((side.lane p).key, (side.lane p).counter)

/-- A run of a party between two derivations of its keys, with what its sends
encrypted.  A caller may go on after a send that failed. -/
inductive Stretch (send : List UInt8 → Prog π Unit) (h : Host π) : List (Span × Bool) → Host π → Prop
  | start : Stretch send h [] h
  | send {spent : List (Span × Bool)} {t : Host π} (before : Stretch send h spent t) (payload : List UInt8) :
      Stretch send h (spent ++ spentBy noxtls side t ((send payload).run t).2) ((send payload).run t).2
  | other {spent : List (Span × Bool)} {t u : Host π} (before : Stretch send h spent t)
      (same : stream side u.self = stream side t.self) : Stretch send h spent u

end Spent

/-! ## One send -/

section Send

variable {π : Type} {noxtls : Noxtls} {side : Side π}

@[simp] theorem encryptions_append (a b : List (Event × π)) :
    encryptions noxtls side (a ++ b) = encryptions noxtls side a ++ encryptions noxtls side b := by
  simp [encryptions]

/-- From `h` to `h'` at most one span was encrypted, and the counter is at its end. -/
def Advances (noxtls : Noxtls) (side : Side π) (h h' : Host π) : Prop :=
  ∃ new, h'.trace = h.trace ++ new ∧
    ((encryptions noxtls side new = [] ∧ (side.lane h'.self).counter = (side.lane h.self).counter) ∨
      ∃ n, encryptions noxtls side new = [⟨beNat (side.lane h.self).counter, n⟩] ∧
        (side.lane h'.self).counter = ctrIncrementBlocks (side.lane h.self).counter n)

/-- No MAC was computed, and key and counter are the same. -/
abbrev Still (side : Side π) : Host π → Host π → Prop := Quiet (fun e => e.computed? = none) (stream side)

theorem Still.encryptions (noxtls : Noxtls) {h h' : Host π} (still : Still side h h') :
    ∃ new, h'.trace = h.trace ++ new ∧ encryptions noxtls side new = [] := by
  obtain ⟨-, new, grown, kept⟩ := still
  refine ⟨new, grown, List.filterMap_eq_nil_iff.2 fun e he => ?_⟩
  have silent := (kept e he).1
  unfold encryption
  split
  · rename_i message tag is
    rw [is] at silent
    simp [Event.computed?] at silent
  · rfl

theorem Still.counter {h h' : Host π} (still : Still side h h') :
    (side.lane h'.self).counter = (side.lane h.self).counter := (Prod.mk.inj still.1).2

theorem advances_of_still {h h' : Host π} (still : Still side h h') : Advances noxtls side h h' := by
  obtain ⟨new, grown, none⟩ := still.encryptions noxtls
  exact ⟨new, grown, .inl ⟨none, still.counter⟩⟩

theorem Advances.after {h t h' : Host π} (advances : Advances noxtls side t h') (still : Still side h t) :
    Advances noxtls side h h' := by
  obtain ⟨new, grown, none⟩ := still.encryptions noxtls
  obtain ⟨new', grown', cases⟩ := advances
  rw [still.counter] at cases
  refine ⟨new ++ new', by rw [grown', grown, List.append_assoc], ?_⟩
  rwa [encryptions_append, none, List.nil_append]

theorem Advances.before {h t h' : Host π} (advances : Advances noxtls side h t) (still : Still side t h') :
    Advances noxtls side h h' := by
  obtain ⟨new, grown, cases⟩ := advances
  obtain ⟨new', grown', none⟩ := still.encryptions noxtls
  rw [← still.counter] at cases
  refine ⟨new ++ new', by rw [grown', grown, List.append_assoc], ?_⟩
  rwa [encryptions_append, none, List.append_nil]

variable {fillRandom : Nat → Prog π (List UInt8)} {sendAll : List UInt8 → Prog π Unit}
  {writeSealed : List UInt8 → List UInt8 → Prog π Unit} {account : Nat → π → π}

/-- The send routine encrypts one span at most, and the counter is past it before
the first byte goes out. -/
theorem sendPacketWith_advances (counts : ∀ n p, side.lane (account n p) = side.lane p)
    (fills : ∀ n, Always (Still side) (fillRandom n)) (sends : ∀ data, Always (Still side) (sendAll data))
    (writes : ∀ enc mac, Always (Still side) (writeSealed enc mac)) (payload : List UInt8) (h : Host π) :
    Advances noxtls side h
      ((sendPacketWith noxtls side fillRandom sendAll writeSealed account payload).run h).2 := by
  have order := quiet_order (fun e => e.computed? = none) (stream side)
  have bump : Always (Still side) (modify side.bumpSeq) := by
    refine always_modify fun p => ?_
    simp only [stream, Side.bumpSeq, side.lane_setSeq]
  have count : ∀ n, Always (Still side) (modify (account n)) := by
    intro n
    refine always_modify fun p => ?_
    simp only [stream, counts]
  rw [sendPacketWith, self_bind_run]
  dsimp only
  by_cases fits : 1 + payload.length + paddingLen (side.lane h.self).encrypted payload.length ≤ maxPacketLen
  swap
  · rw [ensure_bind_neg fits]
    exact advances_of_still (order.refl h)
  rw [ensure_bind_pos fits, bind_run]
  have filled := fills (paddingLen (side.lane h.self).encrypted payload.length) h
  revert filled
  rcases (fillRandom (paddingLen (side.lane h.self).encrypted payload.length)).run h with ⟨o, t⟩
  intro filled
  cases o with
  | err e => exact advances_of_still filled
  | stuck => exact advances_of_still filled
  | ok padding =>
      dsimp only at filled ⊢
      apply Advances.after _ filled
      by_cases encrypted : (side.lane h.self).encrypted = true
      swap
      · rw [if_neg encrypted]
        exact advances_of_still (always_bind order (sends _) (fun _ => bump) t)
      rw [if_pos encrypted]
      cases hmacSha256 noxtls (side.lane h.self).macKey
          ((side.lane h.self).macMessage (plainPacket payload padding)) with
      | none => exact advances_of_still (order.refl t)
      | some mac =>
          rw [lift_some, pure_bind_run, log_bind_run]
          -- the event stands for the cipher call that comes next
          obtain ⟨key, counter⟩ := Prod.mk.inj filled.1
          have whole : ((side.lane h.self).macMessage (plainPacket payload padding)).drop 4 =
              plainPacket payload padding := List.drop_left' (by simp)
          cases encrypts : noxtls.aesEncryptCtr (side.lane h.self).key (plainPacket payload padding)
              (side.lane h.self).counter with
          | none =>
              refine ⟨_, rfl, .inl ⟨?_, rfl⟩⟩
              simp only [encryptions, encryption, List.filterMap_cons, List.filterMap_nil, whole, key, counter,
                encrypts, Option.isSome_none, Bool.false_eq_true, if_false]
          | some enc =>
              rw [lift_some, pure_bind_run, modify_bind_run]
              have rest : Always (Still side) (failAs .failed (writeSealed enc mac) >>= fun _ =>
                  modify side.bumpSeq >>= fun _ => modify (account ((plainPacket payload padding).length + macLen))) :=
                always_bind order (always_failAs _ (writes enc mac)) fun _ =>
                  always_bind order bump fun _ => count _
              apply Advances.before _ (rest _)
              refine ⟨_, rfl, .inr ⟨((plainPacket payload padding).length + 15) / 16, ?_, ?_⟩⟩
              · simp only [encryptions, encryption, List.filterMap_cons, List.filterMap_nil, whole, key, counter,
                  encrypts, Option.isSome_some, if_true]
              · rw [side.lane_setCounter, counter]

/-- What follows a send is still. -/
theorem advances_bind {α β : Type} {m : Prog π α} {k : α → Prog π β} {h : Host π}
    (first : Advances noxtls side h (m.run h).2) (rest : ∀ a, Always (Still side) (k a)) :
    Advances noxtls side h ((m >>= k).run h).2 := by
  revert first
  rw [bind_run]
  rcases m.run h with ⟨o, t⟩
  intro first
  cases o with
  | ok a => exact first.before (rest a t)
  | err e => exact first
  | stuck => exact first

theorem still_log {e : Event} (silent : e.computed? = none) : Always (Still side) (log e : Prog π Unit) :=
  always_log silent

/-- What comes before a send is still. -/
theorem still_bind {α β : Type} {m : Prog π α} {k : α → Prog π β} (first : Always (Still side) m)
    (rest : ∀ a t, Advances noxtls side t ((k a).run t).2) (h : Host π) :
    Advances noxtls side h ((m >>= k).run h).2 := by
  have still := first h
  revert still
  rw [bind_run]
  rcases m.run h with ⟨o, t⟩
  intro still
  cases o with
  | ok a => exact (rest a t).after still
  | err e => exact advances_of_still still
  | stuck => exact advances_of_still still

/-- The client's send. -/
theorem client_advances (noxtls : Noxtls) (env : Env) (payload : List UInt8) (h : Host Client) :
    Advances noxtls Client.sendSide h ((Client.sendPacket noxtls env payload).run h).2 := by
  have order := quiet_order (fun e => e.computed? = none) (stream Client.sendSide)
  refine still_bind (always_ensure order _ _) (fun _ => ?_) h
  refine still_bind (still_log (e := .sending payload) rfl) fun _ t => ?_
  refine advances_bind ?_ fun _ => still_log (e := .sent payload) rfl
  exact sendPacketWith_advances (fun _ _ => rfl) Client.always_fillRandom
    (Client.always_sendAll plumbing_computed) (Client.always_writeSealed plumbing_computed) payload t

/-- The server's send. -/
theorem server_advances (noxtls : Noxtls) (env : Env) (payload : List UInt8) (h : Host Server) :
    Advances noxtls Server.sendSide h ((Server.sendPacket noxtls env payload).run h).2 := by
  have order := quiet_order (fun e => e.computed? = none) (stream Server.sendSide)
  have counts : ∀ n s, Server.sendSide.lane (Server.countSent n s) = Server.sendSide.lane s := by
    intro n s
    simp only [Server.sendSide, Server.countSent]
  refine still_bind (always_ensure order _ _) (fun _ => ?_) h
  refine still_bind (still_log (e := .sending payload) rfl) fun _ => ?_
  refine still_bind (always_ask env.clock) fun now => ?_
  refine still_bind (always_modify (f := Server.armSend now) fun s => ?_) fun _ t => ?_
  · simp only [stream, Server.lane_armSend]
  refine advances_bind ?_ fun _ => still_log (e := .sent payload) rfl
  exact sendPacketWith_advances counts Server.always_fillRandom
    (Server.always_sendAll plumbing_computed) (Server.always_writeSealed plumbing_computed) payload t

end Send

/-! ## A stretch of sends -/

section Stretches

variable {π : Type} {noxtls : Noxtls} {side : Side π} {send : List UInt8 → Prog π Unit}

/-- The spans of a stretch, in the order in which they were encrypted. -/
def spans (spent : List (Span × Bool)) : List Span := spent.map Prod.fst

/-- The spans of packets that may have put bytes on the wire. -/
def exposed (spent : List (Span × Bool)) : List Span := spans (spent.filter Prod.snd)

theorem exposed_sublist (spent : List (Span × Bool)) : (exposed spent).Sublist (spans spent) :=
  List.filter_sublist.map _

/-- The counter hands the spans out, and stands behind the last one. -/
theorem Stretch.handedOut (advances : ∀ payload h, Advances noxtls side h ((send payload).run h).2)
    {h h' : Host π} {spent : List (Span × Bool)} (stretch : Stretch noxtls side send h spent h')
    (block : (side.lane h.self).counter.length = 16) :
    (side.lane h'.self).counter.length = 16 ∧
      HandedOut (2 ^ 128) (beNat (side.lane h.self).counter) (spans spent) ∧
      beNat (side.lane h'.self).counter % 2 ^ 128 =
        (beNat (side.lane h.self).counter + total (spans spent)) % 2 ^ 128 := by
  induction stretch with
  | start => exact ⟨block, trivial, rfl⟩
  | @send spent t before payload ih =>
      obtain ⟨length, issued, stands⟩ := ih
      obtain ⟨new, grown, cases⟩ := advances payload t
      have used : spans (spentBy noxtls side t ((send payload).run t).2) = encryptions noxtls side new := by
        rw [spentBy, grown, List.drop_left, spans, List.map_map]
        exact List.map_id _
      rw [spans, List.map_append, ← spans, ← spans, used]
      rcases cases with ⟨none, same⟩ | ⟨n, one, moved⟩
      · rw [none, List.append_nil, same]
        exact ⟨length, issued, stands⟩
      · have next : beNat (ctrIncrementBlocks (side.lane t.self).counter n) =
            (beNat (side.lane t.self).counter + n) % 2 ^ 128 := by
          rw [beNat_ctrIncrementBlocks, length]
          norm_num
        rw [one, moved]
        refine ⟨by rw [length_ctrIncrementBlocks, length], ?_, ?_⟩
        · rw [handedOut_append]
          exact ⟨issued, stands, trivial⟩
        · rw [next, total_append, total_cons, total_nil, Nat.add_zero, Nat.mod_mod, Nat.add_mod, stands,
            ← Nat.add_mod, Nat.add_assoc]
  | other before same ih =>
      obtain ⟨-, counter⟩ := Prod.mk.inj same
      rw [counter]
      exact ih

/-- Exposed spans do not meet. -/
theorem Stretch.apart (advances : ∀ payload h, Advances noxtls side h ((send payload).run h).2)
    {h h' : Host π} {spent : List (Span × Bool)} (stretch : Stretch noxtls side send h spent h')
    (block : (side.lane h.self).counter.length = 16) (few : total (spans spent) < 2 ^ 128) :
    (exposed spent).Pairwise (Span.Apart (2 ^ 128)) := by
  obtain ⟨-, issued, -⟩ := stretch.handedOut advances block
  exact (handedOut_apart issued few.le).sublist (exposed_sublist spent)

end Stretches

namespace Sample

/-- The second `send_cb` call fails, after ten bytes went out. -/
def hiccup : Env := { calm with send := fun t => if t = 2 then 0 else if t = 1 then 10 else 4096 }

def client : Host Client := ⟨{ Client.init 22 with keyExchangeComplete := true }, 0, [], []⟩

def server : Host Server := ⟨{ Server.init with keyExchangeComplete := true }, 0, [], []⟩

end Sample

end NoxSsh.Protocol
