/-
# Protocol.Lockstep — a packet list in, the same packet list out

The client's packet functions face the server's.  If the sending lane of one
party and the receiving lane of the other are in step, every list of payloads
crosses unchanged and the lanes are in step again.  The cipher calls differ on
the two sides (one call against two, with the counter advanced in between), the
client chooses among several write paths, the sequence number wraps at `2 ^ 32`
and the counter at `2 ^ 128`; none of it shows.
-/
import NoxSsh.Client.Context
import NoxSsh.Server.Context

namespace NoxSsh.Protocol

open Theory Proc Wire Transport

set_option autoImplicit false

section Lists

variable {noxtls : Noxtls} {env : Env}

theorem client_sends (sha : noxtls.shaInit = true) (ctr : CtrMode noxtls) (live : Live env)
    (payloads : List (List UInt8)) (h : Host Client)
    (sizes : ∀ p ∈ payloads, p ≠ [] ∧ p.length ≤ 34980) (block : HasBlock (Client.sendSide.lane h.self)) :
    Returns Client.Late (sendEach (Client.sendPacket noxtls env) payloads) (fun _ h' => ∃ frames,
      Sealed noxtls (Client.sendSide.lane h.self) payloads frames (Client.sendSide.lane h'.self) ∧
      ∃ new, h'.trace = h.trace ++ new ∧ wireOf new = frames.flatten) h := by
  refine sendEach_sealed (fun c => HasBlock (Client.sendSide.lane c)) ?_ payloads h sizes block
  intro payload h nonempty small block
  refine (Client.sendPacket_live sha ctr live.send nonempty small block).mono ?_
  rintro _ h' ⟨padding, bytes, sent⟩
  have lane := Client.sendSide.lane_step Client.uncounted (fun _ _ => rfl)
    (plainPacket payload padding).length h.self
  rw [← sent.moved.self] at lane
  exact ⟨padding, bytes, sent.length, sent.seals, lane, by rw [lane]; exact block.after _, sent.moved.grown⟩

theorem server_sends (sha : noxtls.shaInit = true) (ctr : CtrMode noxtls) (live : Live env)
    (payloads : List (List UInt8)) (h : Host Server)
    (sizes : ∀ p ∈ payloads, p ≠ [] ∧ p.length ≤ 34980) (block : HasBlock (Server.sendSide.lane h.self)) :
    Returns Server.Late (sendEach (Server.sendPacket noxtls env) payloads) (fun _ h' => ∃ frames,
      Sealed noxtls (Server.sendSide.lane h.self) payloads frames (Server.sendSide.lane h'.self) ∧
      ∃ new, h'.trace = h.trace ++ new ∧ wireOf new = frames.flatten) h := by
  refine sendEach_sealed (fun s => HasBlock (Server.sendSide.lane s)) ?_ payloads h sizes block
  intro payload h nonempty small block
  refine (Server.sendPacket_live sha ctr live.send live.random nonempty small block).mono ?_
  rintro _ h' ⟨padding, bytes, now, length, seals, moved⟩
  have lane := Server.sendSide.lane_step Server.countSent (fun _ _ => rfl)
    (plainPacket payload padding).length (Server.armSend now h.self)
  rw [← moved.self, Server.lane_armSend] at lane
  exact ⟨padding, bytes, length, seals, lane, by rw [lane]; exact block.after _, moved.grown⟩

theorem client_receives (ctr : CtrMode noxtls) (live : Live env)
    {sender last : Lane} {payloads frames : List (List UInt8)}
    (sealed : Sealed noxtls sender payloads frames last) (h : Host Client) (rest : List UInt8)
    (payloadMax : Nat) (step : InStep sender (Client.recvSide.lane h.self))
    (fits : ∀ p ∈ payloads, p.length ≤ payloadMax) (inbox : h.inbox = frames.flatten ++ rest) :
    Returns Client.Late (recvEach (Client.recvPacket noxtls env payloadMax) payloads.length)
      (fun got h' => got = payloads ∧ h'.inbox = rest ∧ InStep last (Client.recvSide.lane h'.self)) h := by
  refine recvEach_sealed ?_ sealed h rest step fits inbox
  intro h sender payload padding bytes rest step small fits length seals inbox
  refine (Client.recvPacket_live ctr live.recv step small fits length seals inbox).mono ?_
  rintro _ h' ⟨rfl, moved⟩
  refine ⟨rfl, moved.inbox, ?_⟩
  rw [moved.self, Client.recvSide.lane_step Client.uncounted fun _ _ => rfl]

theorem server_receives (ctr : CtrMode noxtls) (live : Live env)
    {sender last : Lane} {payloads frames : List (List UInt8)}
    (sealed : Sealed noxtls sender payloads frames last) (h : Host Server) (rest : List UInt8)
    (payloadMax : Nat) (step : InStep sender (Server.recvSide.lane h.self))
    (fits : ∀ p ∈ payloads, p.length ≤ payloadMax) (inbox : h.inbox = frames.flatten ++ rest) :
    Returns Server.Late (recvEach (Server.recvPacket noxtls env payloadMax) payloads.length)
      (fun got h' => got = payloads ∧ h'.inbox = rest ∧ InStep last (Server.recvSide.lane h'.self)) h := by
  refine recvEach_sealed ?_ sealed h rest step fits inbox
  intro h sender payload padding bytes rest step small fits length seals inbox
  refine (Server.recvPacket_live ctr live.recv step small fits length seals inbox).mono ?_
  rintro _ h' ⟨rfl, now, moved⟩
  refine ⟨rfl, moved.inbox, ?_⟩
  rw [moved.self, Server.recvSide.lane_step Server.countRecv fun _ _ => rfl,
    Server.lane_armRecv]

end Lists

/-- The payloads cross from `send` to `recv`: all of them are sent as well-formed
frames, and a receiver with these frames in its inbox gets exactly the payloads
back, the lanes being in step afterwards. -/
def Crosses {π ρ : Type} (out : Side π) (into : Side ρ) (send : List UInt8 → Prog π Unit)
    (recv : Prog ρ (List UInt8)) (payloads : List (List UInt8)) (sender : Host π) (receiver : Host ρ) : Prop :=
  InTime ((sendEach send payloads).run sender).2.trace →
  ∃ sender' frames new, (sendEach send payloads).run sender = (.ok (), sender') ∧
    List.Forall₂ (WellFramed (out.lane sender.self).encrypted) payloads frames ∧
    sender'.trace = sender.trace ++ new ∧ wireOf new = frames.flatten ∧
    ∀ rest, receiver.inbox = frames.flatten ++ rest →
      InTime ((recvEach recv payloads.length).run receiver).2.trace →
      ∃ receiver', (recvEach recv payloads.length).run receiver = (.ok payloads, receiver') ∧
        receiver'.inbox = rest ∧ InStep (out.lane sender'.self) (into.lane receiver'.self)

/-- A client right after a key exchange that gave all-zero keys. -/
def keyedClient (inbox : List UInt8) : Host Client :=
  ⟨{ Client.init 22 with keyExchangeComplete := true }, 0, inbox, []⟩

/-- A server right after a key exchange that gave all-zero keys. -/
def keyedServer (inbox : List UInt8) : Host Server :=
  ⟨{ Server.init with keyExchangeComplete := true }, 0, inbox, []⟩

theorem keyed_inStep (inbox inbox' : List UInt8) :
    InStep (Client.sendSide.lane (keyedClient inbox).self) (Server.recvSide.lane (keyedServer inbox').self) ∧
    InStep (Server.sendSide.lane (keyedServer inbox').self) (Client.recvSide.lane (keyedClient inbox).self) :=
  ⟨⟨rfl, rfl, fun _ => ⟨rfl, rfl, rfl, rfl⟩⟩, ⟨rfl, rfl, fun _ => ⟨rfl, rfl, rfl, rfl⟩⟩⟩

end NoxSsh.Protocol
