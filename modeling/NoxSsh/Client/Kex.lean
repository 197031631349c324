/-
# Client.Kex — the client's key exchanges

A key exchange can begin in three ways: the client proposes one
(`netnox_ssh_exchange_kexinit`, from `connect` and `rekey`), or a KEXINIT of the
server turns up while the client waits for some message, or while it reads
channel data.  All three end in `netnox_ssh_perform_curve25519_kex`, which waits
for messages itself.  `wait_for_message`, `handle_server_kexinit` and
`perform_curve25519_kex` call each other, so each is written over the next one as
a parameter and the knot is tied by `waitNested`, which counts the exchanges that
are under way.  Each of them has taken bytes out of the inbox, so its length is
count enough (`byInbox`).

The variables `NETNOX_SSH_DUMP_KEYS` and `NOXSSH_DUMP_FILE`, which write a copy of
the exchange to a file, are not modelled.
-/
import NoxSsh.Client.Context
import NoxSsh.Transport.Kex

namespace NoxSsh.Client

open Theory Proc Wire Transport

set_option autoImplicit false

/-- `NETNOX_SSH_KEX_ALG_LIST` and the lists after it, as KEXINIT names them. -/
def algLists : List String :=
  ["curve25519-sha256,diffie-hellman-group14-sha256", "ssh-ed25519,rsa-sha2-256,ssh-rsa",
    "aes128-ctr,aes256-ctr,chacha20-poly1305@openssh.com", "aes128-ctr,aes256-ctr,chacha20-poly1305@openssh.com",
    "hmac-sha2-256,hmac-sha1", "hmac-sha2-256,hmac-sha1", "none", "none", "", ""]

theorem length_kexinit {cookie : List UInt8} (length : cookie.length = 16) :
    (kexinitPayload algLists cookie).length ≤ 400 := by
  simp [kexinitPayload, algLists, ascii, length]

/-- The server accepts these lists. -/
theorem validates_kexinit {cookie : List UInt8} (length : cookie.length = 16) (stale : Mem) :
    validateClientKexinit (memOf (kexinitPayload algLists cookie) stale) (kexinitPayload algLists cookie).length = .ok () := by
  have is : kexinitPayload algLists cookie = 20 :: cookie ++ ((algLists.take 8).map ascii).flatMap sshString ++
      (sshString [] ++ (sshString [] ++ 0 :: be32 0)) := by
    simp [kexinitPayload, algLists, ascii_nil]
  have offered : List.Forall₂ (fun list token => namelistContains list (ascii token) = true)
      ((algLists.take 8).map ascii) requiredAlgs := by
    unfold algLists requiredAlgs
    repeat' first | apply List.Forall₂.cons | exact List.Forall₂.nil
    all_goals decide
  exact (Wire.validates_kexinit is length (Nat.lt_of_le_of_lt (length_kexinit length) (by decide)) offered stale).2

/-- `NETNOX_SSH_MAX_HOST_KEY_BLOB_LEN`. -/
def maxHostKeyBlobLen : Nat := 2048

/-! ## Updates of the context -/

def setKexinitClient (payload : List UInt8) (c : Client) : Client := { c with kexinitClientPayload := payload }

def setKexinitServer (payload : List UInt8) (c : Client) : Client := { c with kexinitServerPayload := payload }

def setKexinitExchanged (c : Client) : Client := { c with kexinitExchanged := true }

def setHostKeyBlob (blob : List UInt8) (c : Client) : Client := { c with serverHostKeyBlob := blob }

def setFingerprint (fingerprint : List UInt8) (c : Client) : Client :=
  { c with serverHostKeyFingerprint := fingerprint, serverHostKeyReady := true }

/-- The exchange hash is computed into the session identifier. -/
def setExchangeHash (exchangeHash : List UInt8) (c : Client) : Client := { c with sessionId := exchangeHash }

def setSecret (secret : List UInt8) (c : Client) : Client :=
  { c with sessionIdLen := 32, sharedSecretRaw := secret }

/-- The six keys, with the counters starting at the IVs. -/
def setKeys (keys : TransportKeys) (c : Client) : Client :=
  { c with
    c2sIv := keys.c2sIv
    s2cIv := keys.s2cIv
    c2sKey := keys.c2sKey
    s2cKey := keys.s2cKey
    c2sMacKey := keys.c2sMacKey
    s2cMacKey := keys.s2cMacKey
    c2sCounter := keys.c2sIv
    s2cCounter := keys.s2cIv }

def setKeyExchangeComplete (c : Client) : Client := { c with keyExchangeComplete := true }

/-! ## The reply -/

/-- The three strings of a KEX_ECDH_REPLY. -/
structure KexReply where
  hostKeyBlob : View
  serverPub : View
  signature : View
  deriving DecidableEq, Repr

def readKexReply (m : Mem) (payloadLen : Nat) : Option KexReply := do
  let (hostKeyBlob, off) ← payloadReadStringView m payloadLen 1
  let (serverPub, off) ← payloadReadStringView m payloadLen off
  let (signature, _) ← payloadReadStringView m payloadLen off
  if signature.len = 0 ∨ serverPub.len ≠ 32 then none
  else if hostKeyBlob.len = 0 ∨ hostKeyBlob.len > maxHostKeyBlobLen then none
  else some ⟨hostKeyBlob, serverPub, signature⟩

/-- A received payload in the buffer of the one who waited for it. -/
abbrev Arrival := List UInt8 × Mem

section Functions

variable (noxtls : Noxtls) (env : Env)

/-- Receive a packet, with the buffer it stands in. -/
def recvInto (payloadMax : Nat) : Prog Client Arrival := do
  let payload ← recvPacket noxtls env payloadMax
  let rest ← ask env.stale
  pure (payload, memOf payload rest)

/-- `netnox_ssh_build_kexinit_payload`. -/
def buildKexinit : Prog Client (List UInt8) := do
  let cookie ← fillRandom env 16
  lift .failed (buildKexinitPayload 1024 algLists cookie)

/-- `netnox_ssh_derive_transport_keys`. -/
def deriveKeys : Prog Client Unit := do
  let c ← self
  ensure (c.sessionIdLen ≠ 0) .badParam
  let keys ← lift .failed
    (deriveTransportKeys noxtls env.rawKeyDerivation c.sharedSecretRaw (c.sessionId.take c.sessionIdLen))
  modify (setKeys keys)

/-- What the client makes of a reply: host key, fingerprint, exchange hash and
shared secret, each stored before the next step can fail.  The result is the hash
and the secret. -/
def takeReply (priv pub : List UInt8) (m : Mem) (reply : KexReply) : Prog Client (List UInt8 × List UInt8) := do
  let blob := reply.hostKeyBlob.bytes m
  log (.hostKeyPresented blob)
  modify (setHostKeyBlob blob)
  let fingerprint ← lift .failed (noxtls.hash blob)
  modify (setFingerprint fingerprint)
  let serverPub := reply.serverPub.bytes m
  let secret ← lift .failed (noxtls.x25519SharedSecret priv serverPub)
  let c ← self
  let exchangeHash ← lift .failed (computeExchangeHash noxtls c.clientIdent c.serverIdent
    c.kexinitClientPayload c.kexinitServerPayload blob pub serverPub secret)
  modify (setExchangeHash exchangeHash)
  ensure ((verifyServerHostKeySignature noxtls m reply.hostKeyBlob reply.signature exchangeHash).isOk = true)
    .failed
  log (.hostKeyVerified blob exchangeHash secret)
  modify (setSecret secret)
  pure (exchangeHash, secret)

/-- The body of `netnox_ssh_perform_curve25519_kex`. -/
def exchangeKeys (wait : UInt8 → UInt8 → Nat → Prog Client Arrival) : Prog Client Unit := do
  let generated ← ask noxtls.x25519GenerateKey
  let (priv, pub) ← lift .failed generated
  let init ← lift .failed (payloadAppendU8 128 30 [] >>= payloadAppendString 128 pub)
  failAs .failed (sendPacket noxtls env init)
  let (rx, m) ← failAs .failed (wait 31 255 2048)
  ensure (rx.head? = some 31) .failed
  let reply ← lift .failed (readKexReply m rx.length)
  let (exchangeHash, secret) ← takeReply noxtls priv pub m reply
  failAs .failed (sendPacket noxtls env [21])
  let (rx, _) ← failAs .failed (wait 21 255 2048)
  ensure (rx.head? = some 21) .failed
  failAs .failed (deriveKeys noxtls env)
  modify setKeyExchangeComplete
  log (.kexDone exchangeHash secret)

def performWith (wait : UInt8 → UInt8 → Nat → Prog Client Arrival) : Prog Client Unit := do
  ensure ((← self).kexinitExchanged = true) .badParam
  log .kexEntered
  leaving .kexLeft (exchangeKeys noxtls env wait)

/-- `netnox_ssh_handle_server_kexinit`. -/
def handleWith (perform : Prog Client Unit) (rx : List UInt8) (m : Mem) : Prog Client Unit := do
  ensure (rx ≠ []) .badParam
  ensure (rx.head? = some 20) .badParam
  ensure (rx.length ≤ maxKexinitPayloadLen) .failed
  ensure ((validateServerKexinit m rx.length).isOk = true) .failed
  modify (setKexinitServer rx)
  let tx ← failAs .failed (buildKexinit env)
  ensure (tx.length ≤ maxKexinitPayloadLen) .failed
  modify (setKexinitClient tx)
  failAs .failed (sendPacket noxtls env tx)
  modify setKexinitExchanged
  perform

/-- The loop of `netnox_ssh_wait_for_message` with the turns that are left. -/
def waitLoop (handle : List UInt8 → Mem → Prog Client Unit) (expectA expectB : UInt8) (outMax : Nat) :
    Nat → Prog Client Arrival
  | 0 => fail .failed
  | turns + 1 => do
      let (rx, m) ← failAs .failed (recvInto noxtls env maxPacketLen)
      match rx.head? with
      | none => waitLoop handle expectA expectB outMax turns
      | some number =>
          if number = 20 then do
            failAs .failed (handle rx m)
            waitLoop handle expectA expectB outMax turns
          else if number = expectA ∨ number = expectB then do
            ensure (rx.length ≤ outMax) .failed
            let rest ← ask env.stale
            pure (rx, memOf rx rest)
          else waitLoop handle expectA expectB outMax turns

/-- The `for` of `netnox_ssh_wait_for_message` makes 32 turns. -/
def waitTurns : Nat := 32

/-- `netnox_ssh_wait_for_message` with at most `depth` exchanges under way below it. -/
def waitNested : Nat → UInt8 → UInt8 → Nat → Prog Client Arrival
  | 0, expectA, expectB, outMax => waitLoop noxtls env (fun _ _ => stall) expectA expectB outMax waitTurns
  | depth + 1, expectA, expectB, outMax =>
      waitLoop noxtls env (handleWith noxtls env (performWith noxtls env (waitNested depth))) expectA expectB
        outMax waitTurns

/-- `netnox_ssh_wait_for_message`. -/
def waitForMessage (expectA expectB : UInt8) (outMax : Nat) : Prog Client Arrival :=
  byInbox fun depth => waitNested noxtls env depth expectA expectB outMax

/-- `netnox_ssh_perform_curve25519_kex`. -/
def performCurve25519Kex : Prog Client Unit := performWith noxtls env (waitForMessage noxtls env)

/-- `netnox_ssh_handle_server_kexinit`. -/
def handleServerKexinit (rx : List UInt8) (m : Mem) : Prog Client Unit :=
  handleWith noxtls env (performCurve25519Kex noxtls env) rx m

/-- `netnox_ssh_exchange_kexinit`. -/
def exchangeKexinit : Prog Client Unit := do
  ensure ((← self).connected = true) .badParam
  let tx ← failAs .failed (buildKexinit env)
  ensure (tx.length ≤ maxKexinitPayloadLen) .failed
  modify (setKexinitClient tx)
  failAs .failed (sendPacket noxtls env tx)
  let (rx, m) ← failAs .failed (recvInto noxtls env maxPacketLen)
  ensure (rx.head? = some 20) .failed
  ensure (rx.length ≤ maxKexinitPayloadLen) .failed
  modify (setKexinitServer rx)
  ensure ((validateServerKexinit m rx.length).isOk = true) .failed
  modify setKexinitExchanged
  performCurve25519Kex noxtls env

end Functions

theorem buildKexinit_run (env : Env) (h : Host Client) : (buildKexinit env).run h =
    (lift .failed (buildKexinitPayload 1024 algLists (slice (env.rand h.tick) 0 16)) : Prog Client (List UInt8)).run
      { h with tick := h.tick + 1 } := by
  rw [buildKexinit, fillRandom]
  -- A variable in their place keeps the kernel from computing the lists.
  obtain ⟨lists, named⟩ : ∃ lists, lists = algLists := ⟨_, rfl⟩
  rw [← named, bind_assoc_run, ask_bind_run, pure_bind_run]

end NoxSsh.Client
