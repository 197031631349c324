/-
# Protocol.Transcript — the exchange hash binds the transcript

What is hashed is the concatenation of seven strings and one `mpint`.  Every field
carries its length, so the concatenation can be taken apart from the left
(`sshString_append_inj`), and an `mpint` determines the number though not the bytes
it was made from (`Wire.mpint_inj`).

The two programs build the input with an encoder each, over their own contexts.
-/
import NoxSsh.Client.Kex
import NoxSsh.Server.Kex
import NoxSsh.Wire.Mpint

namespace NoxSsh.Protocol

open Theory Wire Transport

set_option autoImplicit false

/-! ## Fields that carry their length -/

theorem sshString_append_inj {a b x y : List UInt8} (small : a.length < 4294967296) (small' : b.length < 4294967296)
    (same : sshString a ++ x = sshString b ++ y) : a = b ∧ x = y := by
  simp only [sshString, List.append_assoc] at same
  obtain ⟨header, rest⟩ := List.append_inj same (by simp)
  exact List.append_inj rest (be32_inj small small' header)

/-! ## The two encoders -/

end NoxSsh.Protocol

namespace NoxSsh.Client

open Theory Wire Transport

/-- What `netnox_ssh_compute_exchange_hash` feeds to SHA-256. -/
def hashInput (c : Client) (hostKeyBlob clientPub serverPub sharedSecretRaw : List UInt8) : Option (List UInt8) := do
  let input ← payloadAppendString 4096 c.clientIdent []
  let input ← payloadAppendString 4096 c.serverIdent input
  let input ← payloadAppendString 4096 c.kexinitClientPayload input
  let input ← payloadAppendString 4096 c.kexinitServerPayload input
  let input ← payloadAppendString 4096 hostKeyBlob input
  let input ← payloadAppendString 4096 clientPub input
  let input ← payloadAppendString 4096 serverPub input
  bufAppendMpintBe 4096 sharedSecretRaw input

/-- The hash in the client's exchanges is the hash of this input. -/
theorem computeExchangeHash_eq (noxtls : Noxtls) (c : Client) (hostKeyBlob clientPub serverPub secret : List UInt8) :
    computeExchangeHash noxtls c.clientIdent c.serverIdent c.kexinitClientPayload c.kexinitServerPayload hostKeyBlob
      clientPub serverPub secret = hashInput c hostKeyBlob clientPub serverPub secret >>= noxtls.hash := by
  simp [computeExchangeHash, hashInput, Option.bind_assoc]

end NoxSsh.Client

namespace NoxSsh.Server

open Theory Wire Transport

/-- What `srv_compute_exchange_hash` feeds to SHA-256. -/
def hashInput (s : Server) (hostKeyBlob clientPub serverPub sharedSecretRaw : List UInt8) : Option (List UInt8) := do
  let input ← payloadAppendString 4096 s.clientIdent []
  let input ← payloadAppendString 4096 s.serverIdent input
  let input ← payloadAppendString 4096 s.kexinitClientPayload input
  let input ← payloadAppendString 4096 s.kexinitServerPayload input
  let input ← payloadAppendString 4096 hostKeyBlob input
  let input ← payloadAppendString 4096 clientPub input
  let input ← payloadAppendString 4096 serverPub input
  bufAppendMpintBe 4096 sharedSecretRaw input

/-- The hash in the server's exchange is the hash of this input. -/
theorem computeExchangeHash_eq (noxtls : Noxtls) (s : Server) (hostKeyBlob clientPub serverPub secret : List UInt8) :
    computeExchangeHash noxtls s.clientIdent s.serverIdent s.kexinitClientPayload s.kexinitServerPayload hostKeyBlob
      clientPub serverPub secret = hashInput s hostKeyBlob clientPub serverPub secret >>= noxtls.hash := by
  simp [computeExchangeHash, hashInput, Option.bind_assoc]

end NoxSsh.Server

namespace NoxSsh.Protocol

open Theory Wire Transport

/-! ## Taking the input apart -/

theorem payloadAppendString_inv {max : Nat} {str payload out : List UInt8}
    (is : payloadAppendString max str payload = some out) : out = payload ++ sshString str ∧ out.length ≤ max := by
  unfold payloadAppendString at is
  split at is
  · simp at is
  · obtain rfl := Option.some.inj is
    exact ⟨by rw [sshString, List.append_assoc], by simp; omega⟩

theorem payloadAppendU32_inv {max value : Nat} {payload out : List UInt8}
    (is : payloadAppendU32 max value payload = some out) : out = payload ++ be32 value ∧ out.length ≤ max := by
  unfold payloadAppendU32 at is
  split at is
  · simp at is
  · obtain rfl := Option.some.inj is
    exact ⟨rfl, by simp; omega⟩

theorem bufAppend_inv {max : Nat} {bytes payload out : List UInt8} (is : bufAppend max bytes payload = some out) :
    out = payload ++ bytes ∧ out.length ≤ max := by
  unfold bufAppend at is
  split at is
  · simp at is
  · obtain rfl := Option.some.inj is
    exact ⟨rfl, by simp; omega⟩

theorem bufAppendMpintBe_inv {max : Nat} {bytes payload out : List UInt8}
    (is : bufAppendMpintBe max bytes payload = some out) : out = payload ++ mpint bytes ∧ out.length ≤ max := by
  unfold bufAppendMpintBe at is
  unfold mpint
  revert is
  cases bytes.dropWhile (· == 0) with
  | nil =>
      intro is
      obtain ⟨rfl, fits⟩ := payloadAppendU32_inv is
      exact ⟨by simp [sshString], fits⟩
  | cons top rest =>
      dsimp only
      split
      · intro is
        simp only [Option.bind_eq_bind, Option.bind_eq_some_iff] at is
        obtain ⟨_, header, _, sign, last⟩ := is
        obtain ⟨rfl, -⟩ := payloadAppendU32_inv header
        obtain ⟨rfl, -⟩ := bufAppend_inv sign
        obtain ⟨rfl, fits⟩ := bufAppend_inv last
        exact ⟨by simp [sshString], fits⟩
      · intro is
        simp only [Option.bind_eq_bind, Option.bind_eq_some_iff] at is
        obtain ⟨_, header, last⟩ := is
        obtain ⟨rfl, -⟩ := payloadAppendU32_inv header
        obtain ⟨rfl, fits⟩ := bufAppend_inv last
        exact ⟨by simp [sshString], fits⟩

/-- Where the input is built, it is the eight fields in order, and all of it fits. -/
theorem hashInput_inv {c : Client} {hostKeyBlob clientPub serverPub secret input : List UInt8}
    (built : Client.hashInput c hostKeyBlob clientPub serverPub secret = some input) :
    input = exchangeInput c.clientIdent c.serverIdent c.kexinitClientPayload c.kexinitServerPayload hostKeyBlob
      clientPub serverPub secret ∧ input.length ≤ 4096 := by
  unfold Client.hashInput at built
  simp only [Option.bind_eq_bind, Option.bind_eq_some_iff] at built
  obtain ⟨_, first, _, second, _, third, _, fourth, _, fifth, _, sixth, _, seventh, last⟩ := built
  obtain ⟨rfl, -⟩ := payloadAppendString_inv first
  obtain ⟨rfl, -⟩ := payloadAppendString_inv second
  obtain ⟨rfl, -⟩ := payloadAppendString_inv third
  obtain ⟨rfl, -⟩ := payloadAppendString_inv fourth
  obtain ⟨rfl, -⟩ := payloadAppendString_inv fifth
  obtain ⟨rfl, -⟩ := payloadAppendString_inv sixth
  obtain ⟨rfl, -⟩ := payloadAppendString_inv seventh
  obtain ⟨rfl, fits⟩ := bufAppendMpintBe_inv last
  exact ⟨by rw [exchangeInput, List.nil_append], fits⟩

/-- Equal inputs have equal fields, and the same secret as a number. -/
theorem exchangeInput_inj {a b c d e f g secret a' b' c' d' e' f' g' secret' : List UInt8}
    (small : (exchangeInput a b c d e f g secret).length ≤ 4096)
    (same : exchangeInput a b c d e f g secret = exchangeInput a' b' c' d' e' f' g' secret') :
    a = a' ∧ b = b' ∧ c = c' ∧ d = d' ∧ e = e' ∧ f = f' ∧ g = g' ∧ beNat secret = beNat secret' := by
  have sizes := congrArg List.length same
  unfold exchangeInput at same small sizes
  simp only [List.length_append, length_sshString] at small sizes
  simp only [List.append_assoc] at same
  obtain ⟨first, same⟩ := sshString_append_inj (by omega) (by omega) same
  obtain ⟨second, same⟩ := sshString_append_inj (by omega) (by omega) same
  obtain ⟨third, same⟩ := sshString_append_inj (by omega) (by omega) same
  obtain ⟨fourth, same⟩ := sshString_append_inj (by omega) (by omega) same
  obtain ⟨fifth, same⟩ := sshString_append_inj (by omega) (by omega) same
  obtain ⟨sixth, same⟩ := sshString_append_inj (by omega) (by omega) same
  obtain ⟨seventh, same⟩ := sshString_append_inj (by omega) (by omega) same
  exact ⟨first, second, third, fourth, fifth, sixth, seventh, mpint_inj same⟩

/-- The same context fields and arguments give the same input in both programs. -/
theorem hashInput_eq {c : Client} {s : Server} (clientIdent : c.clientIdent = s.clientIdent)
    (serverIdent : c.serverIdent = s.serverIdent) (kexinitClient : c.kexinitClientPayload = s.kexinitClientPayload)
    (kexinitServer : c.kexinitServerPayload = s.kexinitServerPayload)
    (hostKeyBlob clientPub serverPub secret : List UInt8) :
    Client.hashInput c hostKeyBlob clientPub serverPub secret =
      Server.hashInput s hostKeyBlob clientPub serverPub secret := by
  rw [Client.hashInput, Server.hashInput, clientIdent, serverIdent, kexinitClient, kexinitServer]

/-- Two transcripts with the same hash input agree in the first seven fields and in the
secret as an integer, and both programs hash the same bytes for the same transcript. -/
theorem exchange_hash_binds :
    (∀ (c c' : Client) (blob clientPub serverPub secret blob' clientPub' serverPub' secret' input : List UInt8),
      Client.hashInput c blob clientPub serverPub secret = some input →
      Client.hashInput c' blob' clientPub' serverPub' secret' = some input →
      c.clientIdent = c'.clientIdent ∧ c.serverIdent = c'.serverIdent ∧
      c.kexinitClientPayload = c'.kexinitClientPayload ∧ c.kexinitServerPayload = c'.kexinitServerPayload ∧
      blob = blob' ∧ clientPub = clientPub' ∧ serverPub = serverPub' ∧ beNat secret = beNat secret') ∧
    (∀ (c : Client) (s : Server) (blob clientPub serverPub secret : List UInt8),
      c.clientIdent = s.clientIdent → c.serverIdent = s.serverIdent →
      c.kexinitClientPayload = s.kexinitClientPayload → c.kexinitServerPayload = s.kexinitServerPayload →
      Client.hashInput c blob clientPub serverPub secret = Server.hashInput s blob clientPub serverPub secret) ∧
    (∀ (noxtls : Noxtls) (c : Client) (s : Server) (blob clientPub serverPub secret : List UInt8),
      computeExchangeHash noxtls c.clientIdent c.serverIdent c.kexinitClientPayload c.kexinitServerPayload blob
        clientPub serverPub secret = Client.hashInput c blob clientPub serverPub secret >>= noxtls.hash ∧
      computeExchangeHash noxtls s.clientIdent s.serverIdent s.kexinitClientPayload s.kexinitServerPayload blob
        clientPub serverPub secret = Server.hashInput s blob clientPub serverPub secret >>= noxtls.hash) := by
  refine ⟨?_, ?_, ?_⟩
  · intro c c' blob clientPub serverPub secret blob' clientPub' serverPub' secret' input built built'
    obtain ⟨is, fits⟩ := hashInput_inv built
    obtain ⟨is', -⟩ := hashInput_inv built'
    rw [is] at fits
    exact exchangeInput_inj fits (is.symm.trans is')
  · intro c s blob clientPub serverPub secret clientIdent serverIdent kexinitClient kexinitServer
    exact hashInput_eq clientIdent serverIdent kexinitClient kexinitServer blob clientPub serverPub secret
  · intro noxtls c s blob clientPub serverPub secret
    exact ⟨Client.computeExchangeHash_eq noxtls c _ _ _ _, Server.computeExchangeHash_eq noxtls s _ _ _ _⟩

/-- Two secrets of one value: the shorter one and the one with a zero in front. -/
theorem exchange_hash_binds_zero :
    Client.hashInput (Client.init 22) [1] [2] [3] [5] = Client.hashInput (Client.init 22) [1] [2] [3] [0, 5] ∧
    beNat [5] = beNat [0, 5] ∧
    Client.hashInput { Client.init 22 with clientIdent := [], serverIdent := (Server.init).serverIdent } [1] [2] [3] [5] =
      Server.hashInput Server.init [1] [2] [3] [5] := by
  refine ⟨by decide, ?_, exchange_hash_binds.2.1 _ _ _ _ _ _ rfl rfl rfl rfl⟩
  have built : Client.hashInput (Client.init 22) [1] [2] [3] [5] =
      some ((Client.hashInput (Client.init 22) [1] [2] [3] [5]).getD []) := by decide
  exact (exchange_hash_binds.1 (Client.init 22) (Client.init 22) [1] [2] [3] [5] [1] [2] [3] [0, 5] _ built
    (by decide)).2.2.2.2.2.2.2

end NoxSsh.Protocol
