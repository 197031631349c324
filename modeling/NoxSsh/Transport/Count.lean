/-
# Transport.Count — what a packet adds to the numbers a party keeps

A packet moves a sequence number by one and, if it is encrypted, a count of bytes
by its length.  Both happen at one place, after everything that can fail in a
send and before the padding of a received packet is looked at.  So a call stops
before it counts, or it counts once (`sendPacketWith_counted`, `openWith_counted`).
-/
import NoxSsh.Transport.Audit

namespace NoxSsh.Transport

open Theory Proc Wire

set_option autoImplicit false

/-- The longest packet: length, body and MAC. -/
def maxFrame : Nat := 4 + maxPacketLen + macLen

/-- The shortest encrypted packet the length check lets through. -/
def minFrame : Nat := 4 + 5 + macLen

section Split

variable {ε σ α β : Type} {R : σ → σ → Prop} {m : Proc ε σ α} {k : α → Proc ε σ β}

/-- A sequence stops in its first part or goes on from where that returned. -/
theorem bind_split (first : Always R m) (s : σ) :
    (∃ o t, (m >>= k).run s = (o, t) ∧ (∀ b, o ≠ .ok b) ∧ R s t) ∨
      ∃ a t, m.run s = (.ok a, t) ∧ R s t ∧ (m >>= k).run s = (k a).run t := by
  have related := first s
  rw [bind_run]
  revert related
  rcases m.run s with ⟨o, t⟩
  intro related
  cases o with
  | ok a => exact .inr ⟨a, t, rfl, related, rfl⟩
  | err e => exact .inl ⟨.err e, t, rfl, by simp, related⟩
  | stuck => exact .inl ⟨.stuck, t, rfl, by simp, related⟩

end Split

section Counted

variable {π γ : Type} {noxtls : Noxtls} {side : Side π} {ok : Event → Prop} {view : π → γ}
  {fillRandom : Nat → Prog π (List UInt8)} {sendAll : List UInt8 → Prog π Unit}
  {writeSealed : List UInt8 → List UInt8 → Prog π Unit} {recvExact : Nat → Nat → Prog π (List UInt8)}
  {account : Nat → π → π}

/-- From `h` the call ended as `r` and counted nothing. -/
def Uncounted {α : Type} (ok : Event → Prop) (view : π → γ) (h : Host π) (r : Outcome NetnoxReturn α × Host π) : Prop :=
  (∀ a, r.1 ≠ .ok a) ∧ Quiet ok view h r.2

/-- From `h` the call ended as `r`, with one packet counted and nothing else changed. -/
def Counted {α : Type} (side : Side π) (account : Nat → π → π) (ok : Event → Prop) (view : π → γ) (h : Host π)
    (r : Outcome NetnoxReturn α × Host π) : Prop :=
  ∃ t, Quiet ok view h t ∧
    (((side.lane h.self).encrypted = true ∧ ∃ n, minFrame ≤ n ∧ n ≤ maxFrame ∧
        r.2 = { t with self := account n (side.bumpSeq t.self) }) ∨
      ((side.lane h.self).encrypted = false ∧ r.2 = { t with self := side.bumpSeq t.self }))

theorem sendPacketWith_counted (macs : ∀ m t, ok (.macComputed m t))
    (counter : ∀ c p, view (side.setCounter c p) = view p) (fills : ∀ n, Always (Quiet ok view) (fillRandom n))
    (sends : ∀ data, Always (Quiet ok view) (sendAll data))
    (lengths : ∀ n h h' padding, (fillRandom n).run h = (.ok padding, h') → padding.length = n)
    (writes : ∀ enc mac, Always (Quiet ok view) (writeSealed enc mac)) (payload : List UInt8) (h : Host π) :
    let r := (sendPacketWith noxtls side fillRandom sendAll writeSealed account payload).run h
    Uncounted ok view h r ∨ (r.1 = .ok () ∧ Counted side account ok view h r) := by
  have order := quiet_order ok view
  dsimp only
  rw [sendPacketWith, self_bind_run]
  dsimp only
  by_cases fits : 1 + payload.length + paddingLen (side.lane h.self).encrypted payload.length ≤ maxPacketLen
  swap
  · rw [ensure_bind_neg fits]
    exact .inl ⟨by simp, order.refl h⟩
  obtain ⟨four, -, -⟩ := paddingLen_spec (side.lane h.self).encrypted payload.length
  rw [ensure_bind_pos fits]
  rcases bind_split (fills (paddingLen (side.lane h.self).encrypted payload.length)) h with
    ⟨o, t, stops, none, quiet⟩ | ⟨padding, t, filled, quiet, goesOn⟩
  · rw [stops]
    exact .inl ⟨none, quiet⟩
  have length := lengths _ _ _ _ filled
  rw [goesOn]
  by_cases encrypted : (side.lane h.self).encrypted = true
  · rw [if_pos encrypted]
    cases hmacSha256 noxtls (side.lane h.self).macKey
        ((side.lane h.self).macMessage (plainPacket payload padding)) with
    | none => exact .inl ⟨by simp, quiet⟩
    | some mac =>
        rw [lift_some, pure_bind_run, log_bind_run]
        have logged := order.trans quiet (always_log (macs ((side.lane h.self).macMessage (plainPacket payload padding)) mac) t)
        cases noxtls.aesEncryptCtr (side.lane h.self).key (plainPacket payload padding) (side.lane h.self).counter with
        | none => exact .inl ⟨by simp, logged⟩
        | some enc =>
            rw [lift_some, pure_bind_run, modify_bind_run]
            have advanced := order.trans logged (always_modify (counter (ctrIncrementBlocks (side.lane h.self).counter
              (((plainPacket payload padding).length + 15) / 16))) _)
            rcases bind_split (always_failAs .failed (writes enc mac)) _ with
              ⟨o, u, stops, none, wrote⟩ | ⟨_, u, -, wrote, goesOn⟩
            · rw [stops]
              exact .inl ⟨none, order.trans advanced wrote⟩
            · rw [goesOn, modify_bind_run, modify_run]
              refine .inr ⟨rfl, u, order.trans advanced wrote, .inl ⟨encrypted, _, ?_, ?_, rfl⟩⟩
              · rw [length_plainPacket, minFrame]
                omega
              · rw [length_plainPacket, maxFrame]
                omega
  · rw [if_neg encrypted]
    rcases bind_split (sends (plainPacket payload padding)) t with
      ⟨o, u, stops, none, wrote⟩ | ⟨_, u, -, wrote, goesOn⟩
    · rw [stops]
      exact .inl ⟨none, order.trans quiet wrote⟩
    · rw [goesOn, modify_run]
      exact .inr ⟨rfl, u, order.trans quiet wrote, .inr ⟨by simpa using encrypted, rfl⟩⟩

theorem openWith_counted (macs : ∀ m t, ok (.macAccepted m t))
    (counter : ∀ c p, view (side.setCounter c p) = view p)
    (reads : ∀ len room, Always (Quiet ok view) (recvExact len room)) (payloadMax : Nat) (h : Host π) :
    let r := (openWith noxtls side recvExact account payloadMax).run h
    Uncounted ok view h r ∨ Counted side account ok view h r := by
  have order := quiet_order ok view
  dsimp only
  rw [openWith, self_bind_run]
  by_cases encrypted : (side.lane h.self).encrypted = true
  · rw [if_pos encrypted]
    rcases bind_split (always_failAs .failed (reads 16 (4 + maxPacketLen))) h with
      ⟨o, t, stops, none, quiet⟩ | ⟨first, t, -, quiet, goesOn⟩
    · rw [stops]
      exact .inl ⟨none, quiet⟩
    rw [goesOn, self_bind_run]
    dsimp only
    cases noxtls.aesEncryptCtr (side.lane t.self).key first (side.lane t.self).counter with
    | none => exact .inl ⟨by simp, quiet⟩
    | some head =>
        rw [lift_some, pure_bind_run, modify_bind_run]
        have advanced := order.trans quiet (always_modify (counter (ctrIncrementBlocks (side.lane t.self).counter 1)) t)
        by_cases sound : 5 ≤ beNat (head.take 4) ∧ beNat (head.take 4) ≤ maxPacketLen
        swap
        · rw [ensure_bind_neg sound]
          exact .inl ⟨by simp, advanced⟩
        rw [ensure_bind_pos sound]
        rcases bind_split (always_failAs .failed (reads (wrap32 (4 + beNat (head.take 4) + 4294967296 - 16))
            (4 + maxPacketLen - 16))) _ with ⟨o, u, stops, none, more⟩ | ⟨rest, u, -, more, goesOn⟩
        · rw [stops]
          exact .inl ⟨none, order.trans advanced more⟩
        rw [goesOn, self_bind_run]
        cases noxtls.aesEncryptCtr (side.lane u.self).key rest (side.lane u.self).counter with
        | none => exact .inl ⟨by simp, order.trans advanced more⟩
        | some tail =>
            rw [lift_some, pure_bind_run, modify_bind_run]
            have advanced' := order.trans (order.trans advanced more) (always_modify (counter
              (ctrIncrementBlocks (side.lane u.self).counter ((4 + beNat (head.take 4) + 15) / 16 - 1))) u)
            rcases bind_split (always_failAs .failed (reads macLen macLen)) _ with
              ⟨o, v, stops, none, last⟩ | ⟨mac, v, -, last, goesOn⟩
            · rw [stops]
              exact .inl ⟨none, order.trans advanced' last⟩
            rw [goesOn, self_bind_run]
            have whole := order.trans advanced' last
            cases hmacSha256 noxtls (side.lane v.self).macKey ((side.lane v.self).macMessage (head ++ tail)) with
            | none => exact .inl ⟨by simp, whole⟩
            | some computed =>
                rw [lift_some, pure_bind_run]
                by_cases same : computed = mac
                swap
                · rw [ensure_bind_neg same]
                  exact .inl ⟨by simp, whole⟩
                rw [ensure_bind_pos same, log_bind_run, modify_bind_run, modify_bind_run]
                have logged := order.trans whole (always_log
                  (macs ((side.lane v.self).macMessage (head ++ tail)) mac) v)
                -- from here on only the padding can be wrong
                refine .inr ⟨_, logged, .inl ⟨encrypted, 4 + beNat (head.take 4) + macLen, ?_, ?_, ?_⟩⟩
                · rw [minFrame]
                  omega
                · rw [maxFrame]
                  omega
                · cases unpack payloadMax ((head ++ tail).drop 4) <;> rfl
  · rw [if_neg encrypted]
    rcases bind_split (always_failAs .failed (reads 4 4)) h with
      ⟨o, t, stops, none, quiet⟩ | ⟨header, t, -, quiet, goesOn⟩
    · rw [stops]
      exact .inl ⟨none, quiet⟩
    rw [goesOn]
    by_cases sound : 5 ≤ beNat header ∧ beNat header ≤ maxPacketLen
    swap
    · rw [ensure_bind_neg sound]
      exact .inl ⟨by simp, quiet⟩
    rw [ensure_bind_pos sound]
    rcases bind_split (always_failAs .failed (reads (beNat header) maxPacketLen)) t with
      ⟨o, u, stops, none, more⟩ | ⟨packet, u, -, more, goesOn⟩
    · rw [stops]
      exact .inl ⟨none, order.trans quiet more⟩
    rw [goesOn]
    cases unpack payloadMax packet with
    | none => exact .inl ⟨by simp, order.trans quiet more⟩
    | some payload => exact .inr ⟨u, order.trans quiet more, .inr ⟨by simpa using encrypted, rfl⟩⟩

end Counted

end NoxSsh.Transport
