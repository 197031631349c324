/-
# Server.Kex — the server's handshake

`srv_handshake_to_encrypted`: the client's identification line, the server's own,
one KEXINIT each way, one ECDH exchange, NEWKEYS each way, and the keys.
The server exchanges keys once per connection.
-/
import NoxSsh.Server.Context
import NoxSsh.Transport.Kex

namespace NoxSsh

open Theory Proc Wire Transport

set_option autoImplicit false

/-- The body of a KEX_ECDH_REPLY, built in a buffer of 2048 bytes. -/
def buildKexReply (hostBlob serverPub sigWire : List UInt8) : Option (List UInt8) :=
  payloadAppendU8 2048 31 [] >>= payloadAppendString 2048 hostBlob >>=
    payloadAppendString 2048 serverPub >>= payloadAppendString 2048 sigWire

theorem buildKexReply_some {hostBlob serverPub sigWire : List UInt8}
    (fits : hostBlob.length + serverPub.length + sigWire.length + 13 ≤ 2048) :
    buildKexReply hostBlob serverPub sigWire =
      some ([31] ++ sshString hostBlob ++ sshString serverPub ++ sshString sigWire) := by
  unfold buildKexReply
  rw [payloadAppendU8_some (by simp), Option.bind_eq_bind, Option.bind_some,
    payloadAppendString_some (by simp; omega), Option.bind_some,
    payloadAppendString_some (by simp; omega), Option.bind_some,
    payloadAppendString_some (by simp; omega), List.nil_append]

namespace Server

/-- The name lists the server offers. -/
def algLists : List String :=
  ["curve25519-sha256", "ssh-ed25519", "aes128-ctr", "aes128-ctr", "hmac-sha2-256", "hmac-sha2-256",
    "none", "none", "", ""]

theorem length_kexinit {cookie : List UInt8} (length : cookie.length = 16) :
    (kexinitPayload algLists cookie).length ≤ 400 := by
  simp [kexinitPayload, algLists, ascii, length]

/-- The client accepts these lists. -/
theorem validates_kexinit {cookie : List UInt8} (length : cookie.length = 16) (stale : Mem) :
    validateServerKexinit (memOf (kexinitPayload algLists cookie) stale) (kexinitPayload algLists cookie).length = .ok () := by
  have is : kexinitPayload algLists cookie = 20 :: cookie ++ (requiredAlgs.map ascii).flatMap sshString ++
      (sshString [] ++ (sshString [] ++ 0 :: be32 0)) := by
    simp [kexinitPayload, algLists, requiredAlgs, ascii_nil]
  exact (Wire.validates_kexinit is length (Nat.lt_of_le_of_lt (length_kexinit length) (by decide)) required_offered stale).1

/-! ## Updates of the context -/

def setClientIdent (ident : List UInt8) (s : Server) : Server := { s with clientIdent := ident }

def setConnected (s : Server) : Server := { s with connected := true }

def setKexinitClient (payload : List UInt8) (s : Server) : Server := { s with kexinitClientPayload := payload }

def setKexinitServer (payload : List UInt8) (s : Server) : Server := { s with kexinitServerPayload := payload }

def setKexinitExchanged (s : Server) : Server := { s with kexinitExchanged := true }

/-- The hash becomes the session identifier and the secret is kept. -/
def setExchange (exchangeHash secret : List UInt8) (s : Server) : Server :=
  { s with sessionId := exchangeHash, sessionIdLen := 32, sharedSecretRaw := secret }

/-- The six keys, with the counters starting at the IVs. -/
def setKeys (keys : TransportKeys) (s : Server) : Server :=
  { s with
    c2sIv := keys.c2sIv
    s2cIv := keys.s2cIv
    c2sKey := keys.c2sKey
    s2cKey := keys.s2cKey
    c2sMacKey := keys.c2sMacKey
    s2cMacKey := keys.s2cMacKey
    c2sCounter := keys.c2sIv
    s2cCounter := keys.s2cIv }

def setKeyExchangeComplete (s : Server) : Server := { s with keyExchangeComplete := true }

/-! ## The functions -/

section Functions

variable (noxtls : Noxtls) (env : Env)

/-- `srv_build_kexinit_payload`. -/
def buildKexinit : Prog Server (List UInt8) := do
  let cookie ← failAs .failed (fillRandom env 16)
  lift .failed (buildKexinitPayload 1024 algLists cookie)

/-- `srv_exchange_kexinit`. -/
def exchangeKexinit : Prog Server Unit := do
  ensure ((← self).connected = true) .badParam
  let (rx, m) ← failAs .failed (recvInto noxtls env maxPacketLen)
  ensure (rx.head? = some 20) .failed
  ensure (rx.length ≤ maxKexinitPayloadLen) .failed
  modify (setKexinitClient rx)
  ensure ((validateClientKexinit m rx.length).isOk = true) .failed
  let tx ← failAs .failed (buildKexinit env)
  ensure (tx.length ≤ maxKexinitPayloadLen) .failed
  modify (setKexinitServer tx)
  failAs .failed (sendPacket noxtls env tx)
  modify setKexinitExchanged

/-- The reply to a client's public key: the exchange hash goes into the context
before it is signed. -/
def replyTo (clientPub : List UInt8) : Prog Server (List UInt8) := do
  let seed ← failAs .failed (fillRandom env 32)
  let priv := noxtls.x25519ClampScalar seed
  let serverPub ← lift .failed (noxtls.x25519PublicKey priv)
  let secret ← lift .failed (noxtls.x25519SharedSecret priv clientPub)
  let s ← self
  let hostBlob ← lift .failed (buildEd25519Blob 256 s.hostEd25519Pk)
  let exchangeHash ← lift .failed (computeExchangeHash noxtls s.clientIdent s.serverIdent
    s.kexinitClientPayload s.kexinitServerPayload hostBlob clientPub serverPub secret)
  modify (setExchange exchangeHash secret)
  let signature ← lift .failed (noxtls.ed25519Sign s.hostEd25519Sk exchangeHash)
  let sigWire ← lift .failed (buildEd25519Blob 128 signature)
  lift .failed (buildKexReply hostBlob serverPub sigWire)

/-- `srv_derive_transport_keys`. -/
def deriveKeys : Prog Server Unit := do
  let s ← self
  ensure (s.sessionIdLen ≠ 0) .badParam
  let keys ← lift .failed
    (deriveTransportKeys noxtls env.rawKeyDerivation s.sharedSecretRaw (s.sessionId.take s.sessionIdLen))
  modify (setKeys keys)

/-- `srv_perform_curve25519_kex`. -/
def performCurve25519Kex : Prog Server Unit := do
  let s ← self
  ensure (s.kexinitExchanged = true ∧ s.hostKeyReady = true) .badParam
  let (init, m) ← failAs .failed (recvInto noxtls env 2048)
  ensure (init.head? = some 30) .failed
  let (clientPub, _) ← lift .failed (payloadReadStringView m init.length 1)
  ensure (clientPub.len = 32) .failed
  let reply ← replyTo noxtls env (clientPub.bytes m)
  failAs .failed (sendPacket noxtls env reply)
  failAs .failed (sendPacket noxtls env [21])
  let (rx, _) ← failAs .failed (recvInto noxtls env 64)
  ensure (rx.head? = some 21) .failed
  failAs .failed (deriveKeys noxtls env)
  modify setKeyExchangeComplete

/-- Lines until one is an identification; a banner may come first. -/
def readIdent : Nat → Prog Server Unit
  | 0 => pure ()
  | lines + 1 => do
      let line ← failAs .failed (recvLine env 256)
      if isIdentLine line then
        match copyString 256 line with
        | .error _ => fail .failed
        | .ok ident => modify (setClientIdent ident)
      else readIdent lines

/-- `srv_handshake_to_encrypted`. -/
def handshakeToEncrypted : Prog Server Unit := do
  ensure ((← self).hostKeyReady = true) .badParam
  readIdent env maxBannerLines
  let s ← self
  ensure (s.clientIdent ≠ []) .failed
  failAs .failed (sendAll env (txIdent s.serverIdent))
  modify setConnected
  failAs .failed (exchangeKexinit noxtls env)
  failAs .failed (performCurve25519Kex noxtls env)

end Functions

end Server

end NoxSsh
