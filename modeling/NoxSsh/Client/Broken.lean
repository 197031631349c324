/-
# Client.Broken — the client on a transport that moves nothing

Where the transport takes no byte and delivers none (`Broken`), whatever sends or receives
fails before it has put anything on the wire: the packet functions, and with them
`netnox_ssh_client_rekey`, `send_keepalive`, `send_data` and `recv_data`.  No function waits
there for something that does not come.
-/
import NoxSsh.Client.Calls

namespace NoxSsh.Client

open Theory Proc Wire Transport

set_option autoImplicit false

/-! ## Programs that cannot succeed -/

section Dooms

variable {ε σ α β : Type} {I : σ → Prop} {m : Proc ε σ α} {k : α → Proc ε σ β}

/-- From `I`, `m` comes back, and `I` still holds. -/
abbrev Endures (I : σ → Prop) (m : Proc ε σ α) : Prop := Stays I (fun _ => False) m

/-- From `I`, `m` fails, and `I` still holds. -/
abbrev Dooms (I : σ → Prop) (m : Proc ε σ α) : Prop := Triple I m (fun _ _ => False) (Breaks I fun _ => False)

theorem dooms_bind (first : Dooms I m) : Dooms I (m >>= k) :=
  triple_bind first fun _ => ⟨fun _ never => never.elim⟩

theorem dooms_failAs {e : ε} (dooms : Dooms I m) : Dooms I (failAs e m) := Triple.failAs dooms

theorem endures_lift {e : ε} (o : Option α) : Endures I (lift e o : Proc ε σ α) := by
  cases o with
  | none => exact stays_fail e
  | some a => exact stays_pure a

theorem dooms_ite {c : Prop} [Decidable c] {m' : Proc ε σ α} (yes : Dooms I m) (no : Dooms I m') :
    Dooms I (if c then m else m') :=
  triple_ite (fun _ => yes) fun _ => no

/-- A failure that is caught. -/
theorem dooms_attempt {J : σ → Prop} (dooms : Dooms I m) :
    Triple I (attempt m) (fun caught s => I s ∧ caught = none) (Breaks J fun _ => False) :=
  (Triple.mono dooms (fun _ => id) (fun _ _ never => never.elim) fun _ _ => id).caught fun _ holds => ⟨holds, rfl⟩

end Dooms

/-! ## A transport that moves nothing -/

/-- `I` is about the wire and the time only, and where it holds no call of the transport moves
a byte. -/
structure Broken {π : Type} (env : Env) (I : Host π → Prop) : Prop where
  asks : ∀ h, I h → I { h with tick := h.tick + 1 }
  changes : ∀ (f : π → π) h, I h → I { h with self := f h.self }
  logs : ∀ (e : Event) h, e.wireBytes = [] → I h → I { h with trace := h.trace ++ [(e, h.self)] }
  sends : ∀ h, I h → env.send h.tick = 0
  receives : ∀ h, I h → env.recv h.tick = 0

section Plumbing

variable {π : Type} {env : Env} {I : Host π → Prop} (broken : Broken env I)

include broken

theorem triple_sendCb (data : List UInt8) :
    Triple I (sendCb env data) (fun sent h => I h ∧ sent = 0) (Breaks I fun _ => False) := by
  constructor
  intro h holds
  have none : env.send h.tick = 0 := broken.sends h holds
  simp only [sendCb, ask_bind_run, none, Nat.zero_min, if_true, pure_run]
  exact ⟨broken.asks h holds, rfl⟩

theorem dooms_sendAllWith {data : List UInt8} (some : data ≠ []) : Dooms I (sendAllWith env (pure none) data) := by
  cases data with
  | nil => exact absurd rfl some
  | cons c data =>
      apply triple_bind (stays_pure none)
      intro _
      apply triple_bind (triple_sendCb broken _)
      intro sent
      apply triple_given
      intro none
      rw [if_pos none]
      exact triple_fail _ fun _ => id

theorem triple_recvCb (looked : Option Nat) (len : Nat) :
    Triple I (recvCb env looked len) (fun got h => I h ∧ got = []) (Breaks I fun _ => False) := by
  constructor
  intro h holds
  have none : env.recv h.tick = 0 := broken.receives h holds
  simp only [recvCb, log_bind_run, takeInbox, none, Nat.zero_min, if_true]
  exact ⟨broken.asks _ (broken.logs _ _ rfl holds), rfl⟩

theorem dooms_recvExactWith {len : Nat} (some : 0 < len) (room : Nat) :
    Dooms I (recvExactWith env (pure none) len room) := by
  obtain ⟨turns, rfl⟩ : ∃ turns, len = turns + 1 := ⟨len - 1, by omega⟩
  rw [recvExactWith, recvLoop, List.length_nil, if_pos some]
  apply triple_bind (stays_pure none)
  intro looked
  apply triple_bind (triple_recvCb broken looked _)
  intro got
  apply triple_given
  intro none
  rw [if_pos none]
  exact triple_fail _ fun _ => id

end Plumbing

/-! ## The client -/

section Client

variable {noxtls : Noxtls} {env : Env} {I : Host Client → Prop} (broken : Broken env I)

include broken

theorem endures_modify (f : Client → Client) : Endures I (modify f) := stays_modify (broken.changes f)

theorem endures_log {e : Event} (silent : e.wireBytes = []) : Endures I (log e : Prog Client Unit) :=
  stays_log fun h => broken.logs e h silent

theorem endures_fillRandom (len : Nat) : Endures I (fillRandom env len) :=
  triple_bind (triple_ask broken.asks) fun _ => stays_pure _

/-- Nothing is pending, so the first write is that of the packet. -/
theorem dooms_writeSealed {enc : List UInt8} (some : enc ≠ []) (mac : List UInt8) :
    Dooms I (writeSealed env enc mac) := by
  have whole : ∀ rest, enc ++ rest ≠ [] := fun rest none => some (List.append_eq_nil_iff.1 none).1
  constructor
  intro h holds
  have none : h.self.pendingNewkeys = [] := h.self.nonePending
  rw [writeSealed, self_bind_run]
  simp only [none, List.length_nil, Nat.zero_add, List.nil_append]
  split
  · exact (triple_bind (endures_modify broken _) fun _ => dooms_sendAllWith broken (whole mac)).ends h holds
  · have flushed : (flushPending env).run h = (.ok (), h) := by
      rw [flushPending, self_bind_run, none]
      rfl
    rw [bind_ok flushed]
    exact (dooms_bind (dooms_sendAllWith broken some)).ends h holds

/-- **No packet goes out.** -/
theorem dooms_sendPacket (payload : List UInt8) : Dooms I (sendPacket noxtls env payload) := by
  apply stays_ensure_bind
  intro _
  apply triple_bind (endures_log broken rfl)
  intro _
  apply dooms_bind
  apply triple_self_bind
  intro c
  apply stays_ensure_bind
  intro _
  apply triple_bind (endures_fillRandom broken _)
  intro padding
  have frame : plainPacket payload padding ≠ [] := by simp [plainPacket, be32]
  apply dooms_ite
  · apply stays_lift_bind
    intro mac _
    apply triple_bind (endures_log broken rfl)
    intro _
    apply stays_lift_bind
    intro enc sealed
    have whole : enc ≠ [] := by
      have length := noxtls.length_aesEncryptCtr _ _ _ _ sealed
      intro none
      rw [none] at length
      exact frame (List.length_eq_zero_iff.1 length.symm)
    apply triple_bind (endures_modify broken _)
    intro _
    exact dooms_bind (dooms_failAs (dooms_writeSealed broken whole mac))
  · exact dooms_bind (dooms_sendAllWith broken frame)

/-- **No packet comes in.** -/
theorem dooms_recvInto (payloadMax : Nat) : Dooms I (recvInto noxtls env payloadMax) := by
  have reads : ∀ {len : Nat}, 0 < len → ∀ room, Dooms I (recvExact env len room) :=
    dooms_recvExactWith broken
  apply dooms_bind
  apply dooms_bind
  apply triple_self_bind
  intro c
  apply dooms_ite
  · exact dooms_bind (dooms_failAs (reads (by decide) _))
  · exact dooms_bind (dooms_failAs (reads (by decide) _))

/-- A key exchange ends at its own KEXINIT. -/
theorem dooms_exchangeKexinit : Dooms I (exchangeKexinit noxtls env) := by
  apply triple_self_bind
  intro c
  apply stays_ensure_bind
  intro _
  apply triple_bind
  · apply Triple.failAs
    apply stays_bind (endures_fillRandom broken _)
    intro cookie
    exact endures_lift _
  intro tx
  apply stays_ensure_bind
  intro _
  apply triple_bind (endures_modify broken _)
  intro _
  exact dooms_bind (dooms_failAs (dooms_sendPacket broken tx))

theorem dooms_rekey : Dooms I (rekey noxtls env) := by
  apply triple_self_bind
  intro c
  apply stays_ensure_bind
  exact fun _ => dooms_exchangeKexinit broken

theorem dooms_sendKeepalive : Dooms I (sendKeepalive noxtls env) := by
  apply triple_self_bind
  intro c
  apply stays_ensure_bind
  intro _
  apply stays_lift_bind
  exact fun payload _ => dooms_sendPacket broken payload

theorem dooms_sendData (data : List UInt8) : Dooms I (sendData noxtls env data) := by
  apply stays_ensure_bind
  intro _
  apply triple_self_bind
  intro c
  apply stays_ensure_bind
  intro _
  apply stays_lift_bind
  exact fun payload _ => dooms_sendPacket broken payload

theorem dooms_recvData (capacity : Nat) : Dooms I (recvData noxtls env capacity) := by
  apply stays_ensure_bind
  intro _
  apply triple_self_bind
  intro c
  apply stays_ensure_bind
  intro _
  constructor
  intro h holds
  exact (dooms_bind (dooms_failAs (dooms_recvInto broken maxPacketLen))).ends h holds

end Client

end NoxSsh.Client
