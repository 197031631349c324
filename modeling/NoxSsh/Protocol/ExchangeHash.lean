/-
# Protocol.ExchangeHash — the room for the exchange hash

`netnox_ssh_compute_exchange_hash` and `srv_compute_exchange_hash` put what is hashed into a
buffer of 4096 bytes, and both KEXINIT payloads are part of it.  A KEXINIT of the peer is
taken up to 32768 bytes.

So the hash fails for an acceptable KEXINIT exactly if all parts together, each with its
length in front, do not fit (`exchange_hash_room_iff`).
-/
import NoxSsh.Protocol.Transcript

namespace NoxSsh.Protocol

open Theory Wire Transport

set_option autoImplicit false

section Room

variable {max : Nat} {str payload input out : List UInt8}

theorem payloadAppendString_eq :
    payloadAppendString max str payload =
      if payload.length + (4 + str.length) ≤ max then some (payload ++ sshString str) else none := by
  by_cases fits : payload.length + (4 + str.length) ≤ max
  · rw [payloadAppendString_some fits, if_pos fits]
  · rw [payloadAppendString, if_pos (by omega), if_neg fits]

/-- The number with its length needs room, and no more. -/
theorem bufAppendMpintBe_eq :
    bufAppendMpintBe max input out =
      if out.length + (mpint input).length ≤ max then some (out ++ mpint input) else none := by
  unfold bufAppendMpintBe mpint payloadAppendU32 bufAppend
  cases input.dropWhile (· == 0) with
  | nil =>
      simp only [length_sshString, List.length_nil]
      split
      · rw [if_neg (by omega)]
      · rw [if_pos (by omega)]
        simp [sshString]
  | cons top rest =>
      dsimp only
      split
      · -- a zero byte in front
        simp only [length_sshString, List.length_cons]
        by_cases fits : out.length + (4 + (rest.length + 1 + 1)) ≤ max
        · rw [if_pos fits, if_neg (by omega), Option.bind_eq_bind, Option.bind_some]
          rw [if_neg (by simp; omega), Option.bind_some, if_neg (by simp; omega)]
          simp [sshString]
        · rw [if_neg fits]
          split
          · rfl
          · rw [Option.bind_eq_bind, Option.bind_some]
            split
            · rfl
            · rw [Option.bind_some, if_pos (by simp; omega)]
      · simp only [length_sshString, List.length_cons]
        by_cases fits : out.length + (4 + (rest.length + 1)) ≤ max
        · rw [if_pos fits, if_neg (by omega), Option.bind_eq_bind, Option.bind_some, if_neg (by simp; omega)]
          simp [sshString]
        · rw [if_neg fits]
          split
          · rfl
          · rw [Option.bind_eq_bind, Option.bind_some, if_pos (by simp; omega)]

theorem hash_isSome {noxtls : Noxtls} (works : noxtls.shaInit = true) : (noxtls.hash input).isSome = true := by
  simp [Noxtls.hash, works]

end Room

/-- The bytes that are hashed, with the four bytes in front of each part. -/
def hashedLen (clientIdent serverIdent kexinitClient kexinitServer hostKeyBlob clientPub serverPub secret : List UInt8) : Nat :=
  4 + clientIdent.length + (4 + serverIdent.length) + (4 + kexinitClient.length) + (4 + kexinitServer.length) +
    (4 + hostKeyBlob.length) + (4 + clientPub.length) + (4 + serverPub.length) + (mpint secret).length

theorem computeExchangeHash_isSome {noxtls : Noxtls} (works : noxtls.shaInit = true)
    (clientIdent serverIdent kexinitClient kexinitServer hostKeyBlob clientPub serverPub secret : List UInt8) :
    (computeExchangeHash noxtls clientIdent serverIdent kexinitClient kexinitServer hostKeyBlob clientPub serverPub
      secret).isSome = true ↔
    hashedLen clientIdent serverIdent kexinitClient kexinitServer hostKeyBlob clientPub serverPub secret ≤ 4096 := by
  rw [hashedLen]
  constructor
  · intro some_
    obtain ⟨hash, is⟩ := Option.isSome_iff_exists.1 some_
    simp only [computeExchangeHash, payloadAppendString_eq, bufAppendMpintBe_eq, Option.bind_eq_bind,
      Option.bind_eq_some_iff, Option.ite_none_right_eq_some, Option.some.injEq] at is
    obtain ⟨_, ⟨-, rfl⟩, _, ⟨-, rfl⟩, _, ⟨-, rfl⟩, _, ⟨-, rfl⟩, _, ⟨-, rfl⟩, _, ⟨-, rfl⟩, _, ⟨-, rfl⟩, _, ⟨fits, rfl⟩, -⟩ := is
    simp only [List.length_append, length_sshString, List.length_nil] at fits
    omega
  · intro fits
    unfold computeExchangeHash
    rw [payloadAppendString_some (by simp; omega), Option.bind_eq_bind, Option.bind_some,
      payloadAppendString_some (by simp; omega), Option.bind_some,
      payloadAppendString_some (by simp; omega), Option.bind_some,
      payloadAppendString_some (by simp; omega), Option.bind_some,
      payloadAppendString_some (by simp; omega), Option.bind_some,
      payloadAppendString_some (by simp; omega), Option.bind_some,
      payloadAppendString_some (by simp; omega), Option.bind_some,
      bufAppendMpintBe_eq, if_pos (by simp; omega), Option.bind_some]
    exact hash_isSome works

/-- **Room for the exchange hash.**  In every state of a client or a server, for every host key
blob, public values and secret, the hash function succeeds exactly if the identification
strings, the two KEXINIT payloads and these fit in 4096 bytes together, whatever limits
each of them has kept to. -/
theorem exchange_hash_room_iff (noxtls : Noxtls) (works : noxtls.shaInit = true) :
    (∀ (c : Client) (hostKeyBlob clientPub serverPub secret : List UInt8),
      (computeExchangeHash noxtls c.clientIdent c.serverIdent c.kexinitClientPayload c.kexinitServerPayload hostKeyBlob
        clientPub serverPub secret).isSome = true ↔
      hashedLen c.clientIdent c.serverIdent c.kexinitClientPayload c.kexinitServerPayload hostKeyBlob clientPub serverPub
        secret ≤ 4096) ∧
    ∀ (s : Server) (hostKeyBlob clientPub serverPub secret : List UInt8),
      (computeExchangeHash noxtls s.clientIdent s.serverIdent s.kexinitClientPayload s.kexinitServerPayload hostKeyBlob
        clientPub serverPub secret).isSome = true ↔
      hashedLen s.clientIdent s.serverIdent s.kexinitClientPayload s.kexinitServerPayload hostKeyBlob clientPub serverPub
        secret ≤ 4096 :=
  ⟨fun _ _ _ _ _ => computeExchangeHash_isSome works _ _ _ _ _ _ _ _,
    fun _ _ _ _ _ => computeExchangeHash_isSome works _ _ _ _ _ _ _ _⟩

theorem exchange_hash_room_iff_init :
    (computeExchangeHash Sample.noxtls (Client.init 22).clientIdent (Client.init 22).serverIdent
      (Client.init 22).kexinitClientPayload (Client.init 22).kexinitServerPayload [1] [2] [3] [4]).isSome = true ↔
    hashedLen (Client.init 22).clientIdent (Client.init 22).serverIdent (Client.init 22).kexinitClientPayload
      (Client.init 22).kexinitServerPayload [1] [2] [3] [4] ≤ 4096 :=
  (exchange_hash_room_iff Sample.noxtls rfl).1 (Client.init 22) [1] [2] [3] [4]

/-- A KEXINIT that offers what is required, and languages of 4000 bytes. -/
def longKexinit : List UInt8 :=
  20 :: List.replicate 16 0 ++ (requiredAlgs.map ascii).flatMap sshString ++
    (sshString (List.replicate 4000 97) ++ (sshString [] ++ 0 :: be32 0))

theorem longKexinit_accepted (rest : Mem) :
    validateServerKexinit (memOf longKexinit rest) longKexinit.length = .ok () ∧
      validateClientKexinit (memOf longKexinit rest) longKexinit.length = .ok () := by
  have sizes : ((requiredAlgs.map ascii).flatMap sshString).length = 114 := by decide +kernel
  have length : longKexinit.length = 4144 := by
    simp only [longKexinit, List.length_append, List.length_cons, length_sshString, List.length_replicate, sizes, length_be32,
      List.length_nil]
  have small : longKexinit.length < 4294967296 := by rw [length]; decide
  exact validates_kexinit rfl List.length_replicate small required_offered rest

/-- Both programs accept the KEXINIT, and neither can hash it. -/
theorem exchange_hash_full :
    ((validateServerKexinit (memOf longKexinit fun _ => 0) longKexinit.length = .ok () ∧
        validateClientKexinit (memOf longKexinit fun _ => 0) longKexinit.length = .ok ()) ∧
      longKexinit.length ≤ maxKexinitPayloadLen) ∧
    (computeExchangeHash Sample.noxtls (ascii "SSH-2.0-a") (ascii "SSH-2.0-b") (kexinitPayload Client.algLists (zeros 16))
      longKexinit (ed25519Blob (zeros 32)) (zeros 32) (zeros 32) (zeros 32)).isSome = false ∧
    (computeExchangeHash Sample.noxtls (ascii "SSH-2.0-a") (ascii "SSH-2.0-b") longKexinit
      (kexinitPayload Server.algLists (zeros 16)) (ed25519Blob (zeros 32)) (zeros 32) (zeros 32) (zeros 32)).isSome = false := by
  refine ⟨⟨longKexinit_accepted _, by decide +kernel⟩, ?_, ?_⟩
  · rw [Bool.eq_false_iff, ne_eq, computeExchangeHash_isSome rfl]
    decide +kernel
  · rw [Bool.eq_false_iff, ne_eq, computeExchangeHash_isSome rfl]
    decide +kernel

end NoxSsh.Protocol
