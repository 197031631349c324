/-
# Protocol.Login — the client's public key login, as the server reads it

The client puts the signed bytes together from the session identifier and the
request as it stands in its buffer.  The server finds the end of the request by
parsing it and puts its own session identifier in front.  Both come to the same
bytes (`checked_loginPayload`), whatever the length of the name, and with two
different session identifiers to different ones.
-/
import NoxSsh.Client.Calls
import NoxSsh.Server.Login

namespace NoxSsh.Protocol

open Theory Proc Wire Transport

set_option autoImplicit false

/-- What the server would check a signed request against: the request's own reading
decides how far the signed part reaches. -/
def checked (s : Server) (p : List UInt8) (m : Mem) : Option (List UInt8) := do
  let (user, off) ← payloadReadStringView m p.length 1
  let (_, off) ← payloadReadStringView m p.length off
  let (_, off) ← payloadReadStringView m p.length off
  let req ← Server.readPublickey s.publickeyAllowedCb m p.length user off
  some (Server.toSign s m req.reqLen)

/-- What a client with this session identifier signs. -/
def signedBytes (sessionId user key : List UInt8) : List UInt8 := sshString sessionId ++ Server.loginRequest user key

/-! ## The client's half -/

section Client

variable {user key sig sessionId : List UInt8}

theorem length_loginRequest (user key : List UInt8) :
    (Server.loginRequest user key).length = 75 + user.length + key.length := by
  have service : (ascii "ssh-connection").length = 14 := rfl
  have method : (ascii "publickey").length = 9 := rfl
  simp only [Server.loginRequest, List.length_append, length_sshString, List.length_singleton, length_algEd25519,
    length_ed25519Blob, service, method]
  omega

theorem buildPublickeyRequest_some (short : user.length ≤ 64) (keyLen : key.length = 32) :
    Client.buildPublickeyRequest user (ed25519Blob key) = some (Server.loginRequest user key) := by
  have service : (ascii "ssh-connection").length = 14 := rfl
  have method : (ascii "publickey").length = 9 := rfl
  unfold Client.buildPublickeyRequest Client.buildUserauthRequest Server.loginRequest
  rw [payloadAppendU8_some (by simp), Option.bind_eq_bind, Option.bind_some,
    payloadAppendString_some (by simp; omega), Option.bind_some,
    payloadAppendString_some (by simp [service]; omega), Option.bind_some,
    payloadAppendString_some (by simp [service, method]; omega), Option.bind_some,
    payloadAppendU8_some (by simp [service, method]; omega), Option.bind_some,
    payloadAppendString_some (by simp [service, method]; omega), Option.bind_some,
    payloadAppendString_some (by simp [service, method]; omega), List.nil_append]

theorem buildToSign_some (short : user.length ≤ 64) (keyLen : key.length = 32) (idLen : sessionId.length = 32) :
    Client.buildToSign sessionId (Server.loginRequest user key) = some (signedBytes sessionId user key) := by
  have size := length_loginRequest user key
  rw [Client.buildToSign, payloadAppendString_some (by simp; omega), Option.bind_eq_bind, Option.bind_some,
    bufAppend_some (by simp; omega), List.nil_append, signedBytes]

/-- No buffer is too small: what the client sends is the payload with its signature. -/
theorem sendsLogin {noxtls : Noxtls} {env : Env} {h : Host Client} (hasKey : h.self.hasEd25519Key = true)
    (short : h.self.username.length ≤ 64) (keyLen : h.self.ed25519PublicKey.length = 32)
    (id : h.self.sessionIdLen = 32) (idLen : h.self.sessionId.length = 32)
    (signs : noxtls.ed25519Sign h.self.ed25519PrivateKey
      (signedBytes h.self.sessionId h.self.username h.self.ed25519PublicKey) = some sig) :
    (Client.sendUserauthPublickeyEd25519 noxtls env).run h =
      (Client.sendPacket noxtls env (Server.loginPayload h.self.username h.self.ed25519PublicKey sig)).run h := by
  have sigLen := noxtls.length_ed25519Sign _ _ _ signs
  have size := length_loginRequest h.self.username h.self.ed25519PublicKey
  rw [Client.sendUserauthPublickeyEd25519, self_bind_run, ensure_bind_pos ⟨hasKey, by rw [id]; decide⟩,
    buildEd25519Blob_some (by omega), lift_some, pure_bind_run, buildPublickeyRequest_some short keyLen, lift_some,
    pure_bind_run, id, List.take_of_length_le (by omega), buildToSign_some short keyLen idLen, lift_some, pure_bind_run,
    signs, lift_some, pure_bind_run, buildEd25519Blob_some (by omega), lift_some, pure_bind_run,
    payloadAppendString_some (by simp; omega), lift_some, pure_bind_run]
  rfl

end Client

/-! ## The server's half -/

section Server

variable {m : Mem} {user key sig : List UInt8}

/-- Where the fields of the payload stand. -/
structure LoginStands (m : Mem) (user key sig : List UInt8) : Prop where
  name : Holds m 1 (sshString user)
  service : Holds m (5 + user.length) (sshString (ascii "ssh-connection"))
  method : Holds m (23 + user.length) (sshString (ascii "publickey"))
  flag : m (36 + user.length) = 1
  alg : Holds m (37 + user.length) (sshString algEd25519)
  blob : Holds m (52 + user.length) (sshString (ed25519Blob key))
  signature : Holds m (107 + user.length) (sshString (ed25519Blob sig))

theorem Holds.shift {off off' : Nat} {bytes : List UInt8} (stands : Holds m off bytes) (same : off = off') :
    Holds m off' bytes := same ▸ stands

theorem login_stands (keyLen : key.length = 32) (stands : Holds m 0 (Server.loginPayload user key sig)) :
    LoginStands m user key sig := by
  have service : (ascii "ssh-connection").length = 14 := rfl
  have method : (ascii "publickey").length = 9 := rfl
  have size := length_loginRequest user key
  obtain ⟨request, signature⟩ := holds_append.1 stands
  rw [Server.loginRequest] at request
  obtain ⟨request, blob⟩ := holds_append.1 request
  obtain ⟨request, alg⟩ := holds_append.1 request
  obtain ⟨request, flag⟩ := holds_append.1 request
  obtain ⟨request, isMethod⟩ := holds_append.1 request
  obtain ⟨request, isService⟩ := holds_append.1 request
  obtain ⟨-, name⟩ := holds_append.1 request
  simp only [List.length_append, length_sshString, List.length_singleton, length_algEd25519, service, method]
    at blob alg flag isMethod isService name
  constructor
  · exact Holds.shift name (by omega)
  · exact Holds.shift isService (by omega)
  · exact Holds.shift isMethod (by omega)
  · have byte := Holds.shift flag (show _ = 36 + user.length by omega)
    simpa [Holds, slice_succ] using byte
  · exact Holds.shift alg (by omega)
  · exact Holds.shift blob (by omega)
  · exact Holds.shift signature (by omega)

/-- A string read back, with the offsets spelled as the caller has them. -/
theorem reads_string (start n next len : Nat) {off : Nat} {s : List UInt8} (stands : Holds m off (sshString s))
    (starts : start = off + 4) (length : n = s.length) (ends : next = off + (4 + n)) (inside : next ≤ len)
    (small : len < 4294967296) :
    payloadReadStringView m len off = some (⟨start, n⟩, next) ∧ View.bytes ⟨start, n⟩ m = s := by
  subst starts length ends
  exact ⟨payloadReadStringView_holds stands inside small, view_sshString stands⟩

/-- A blob of a name and a body is read back as these. -/
theorem blob_reads {off n len : Nat} {body : List UInt8} (stands : Holds m off (ed25519Blob body))
    (length : n = body.length) (whole : len = 19 + n) (small : len < 4294967296) :
    (payloadReadStringView (m.at off) len 0 = some (⟨4, 11⟩, 15) ∧ View.bytes ⟨4, 11⟩ (m.at off) = algEd25519) ∧
      payloadReadStringView (m.at off) len 15 = some (⟨19, n⟩, len) ∧ View.bytes ⟨19, n⟩ (m.at off) = body := by
  obtain ⟨alg, bytes⟩ := holds_append.1 stands
  rw [length_sshString, length_algEd25519] at bytes
  exact ⟨reads_string _ _ _ _ (Holds.at alg) rfl rfl rfl (by omega) small,
    reads_string _ _ _ _ (Holds.at bytes) rfl length (by omega) le_rfl small⟩

theorem readPublickey_login (keyLen : key.length = 32) (nonempty : user ≠ []) (short : user.length ≤ 64)
    (plain : 0 ∉ user) (stands : LoginStands m user key sig) (plen : Nat) (whole : 107 + user.length ≤ plen)
    (small : plen < 4294967296) :
    Server.readPublickey true m plen ⟨5, user.length⟩ (36 + user.length) =
      some ⟨user, true, ed25519Blob key, key, 107 + user.length⟩ := by
  have blobLen : (ed25519Blob key).length = 51 := by rw [length_ed25519Blob, keyLen]
  have some : user.length ≠ 0 := by simpa using nonempty
  have showsUser : View.bytes ⟨5, user.length⟩ m = user := view_sshString stands.name
  obtain ⟨readAlg, showsAlg⟩ := reads_string (41 + user.length) 11 (52 + user.length) plen
    stands.alg (by omega) rfl (by omega) (by omega) small
  obtain ⟨readBlob, showsBlob⟩ := reads_string (56 + user.length) 51 (107 + user.length) plen
    stands.blob (by omega) blobLen.symm (by omega) whole small
  have inner : Holds m (56 + user.length) (ed25519Blob key) :=
    Holds.shift (holds_append.1 stands.blob).2 (by rw [length_be32]; omega)
  obtain ⟨⟨readName, showsName⟩, readKey, showsKey⟩ := blob_reads inner keyLen.symm rfl (by decide)
  rw [Server.readPublickey, showsUser]
  refine Server.require_bind.2 ⟨⟨some, Nat.lt_succ_of_le short, plain, rfl, by omega⟩, ?_⟩
  refine Server.require_bind.2 ⟨by simp [stands.flag], ?_⟩
  have next : 36 + user.length + 1 = 37 + user.length := by omega
  simp only [Server.require, next, readAlg, readBlob, showsAlg, showsBlob, readName, showsName, readKey, showsKey,
    stands.flag, Option.bind_eq_bind, Option.bind_some, and_self, if_true, decide_true]

/-- The signature is read up to the last byte. -/
theorem readSignature_login (sigLen : sig.length = 64) (stands : LoginStands m user key sig) (plen : Nat)
    (whole : plen = 194 + user.length) (small : plen < 4294967296) :
    Server.readSignature m plen (107 + user.length) = some sig := by
  have blobLen : (ed25519Blob sig).length = 83 := by rw [length_ed25519Blob, sigLen]
  obtain ⟨readBlob, showsBlob⟩ := reads_string (111 + user.length) 83 plen plen
    stands.signature (by omega) blobLen.symm (by omega) le_rfl small
  have inner : Holds m (111 + user.length) (ed25519Blob sig) :=
    Holds.shift (holds_append.1 stands.signature).2 (by rw [length_be32]; omega)
  obtain ⟨⟨readName, showsName⟩, readKey, showsKey⟩ := blob_reads inner sigLen.symm rfl (by decide)
  rw [Server.readSignature]
  simp only [Server.require, readBlob, readName, showsName, readKey, showsKey, Option.bind_eq_bind, Option.bind_some,
    and_self, if_true]

/-- The three names in front of the method's own fields. -/
theorem reads_login (stands : LoginStands m user key sig) (plen : Nat) (whole : 107 + user.length ≤ plen)
    (small : plen < 4294967296) :
    payloadReadStringView m plen 1 = some (⟨5, user.length⟩, 5 + user.length) ∧
    (payloadReadStringView m plen (5 + user.length) = some (⟨9 + user.length, 14⟩, 23 + user.length) ∧
      View.bytes ⟨9 + user.length, 14⟩ m = ascii "ssh-connection") ∧
    payloadReadStringView m plen (23 + user.length) = some (⟨27 + user.length, 9⟩, 36 + user.length) ∧
      View.bytes ⟨27 + user.length, 9⟩ m = ascii "publickey" := by
  refine ⟨?_, ?_, ?_⟩
  · exact (reads_string _ _ _ _ stands.name rfl rfl (by omega) (by omega) small).1
  · exact reads_string _ _ _ _ stands.service (by omega) rfl (by omega) (by omega) small
  · exact reads_string _ _ _ _ stands.method (by omega) rfl (by omega) (by omega) small

theorem loginPayload_shape (user key sig : List UInt8) : (Server.loginPayload user key sig).length =
    98 + user.length + key.length + sig.length ∧ (Server.loginPayload user key sig).head? = some 50 := by
  have size := length_loginRequest user key
  constructor
  · rw [Server.loginPayload, List.length_append, size, length_sshString, length_ed25519Blob]
    omega
  · rfl

/-- What is checked ends where the signature begins. -/
theorem toSign_login {s : Server} {rest : Mem} (keyLen : key.length = 32) (idLen : s.sessionIdLen = 32)
    (sizeId : s.sessionId.length = 32) :
    Server.toSign s (memOf (Server.loginPayload user key sig) rest) (107 + user.length) =
      signedBytes s.sessionId user key := by
  have length := length_loginRequest user key
  obtain ⟨size, -⟩ := loginPayload_shape user key sig
  rw [Server.toSign, slice_memOf _ _ (by omega), List.drop_zero, Server.loginPayload, List.take_left' (by omega), idLen,
    List.take_of_length_le (le_of_eq sizeId), signedBytes, sshString, sizeId]

/-- The server would check the request against its session identifier and the request. -/
theorem checked_loginPayload {s : Server} (rest : Mem) (callback : s.publickeyAllowedCb = true)
    (idLen : s.sessionIdLen = 32) (sizeId : s.sessionId.length = 32) (keyLen : key.length = 32)
    (sigLen : sig.length = 64) (nonempty : user ≠ []) (short : user.length ≤ 64) (plain : 0 ∉ user) :
    checked s (Server.loginPayload user key sig) (memOf (Server.loginPayload user key sig) rest) =
      some (signedBytes s.sessionId user key) := by
  obtain ⟨size, -⟩ := loginPayload_shape user key sig
  have stands := login_stands keyLen (holds_memOf (Server.loginPayload user key sig) rest)
  obtain ⟨readUser, ⟨readService, -⟩, readMethod, -⟩ := reads_login stands
    (Server.loginPayload user key sig).length (by omega) (by omega)
  have read := readPublickey_login keyLen nonempty short plain stands
    (Server.loginPayload user key sig).length (by omega) (by omega)
  simp only [checked, readUser, readService, readMethod, callback, read, Option.bind_eq_bind, Option.bind_some,
    toSign_login keyLen idLen sizeId]

/-- The server's run on the request, once its checks have passed. -/
theorem handles_login {noxtls : Noxtls} {env : Env} {h : Host Server} (rest : Mem)
    (callback : h.self.publickeyAllowedCb = true) (idLen : h.self.sessionIdLen = 32)
    (sizeId : h.self.sessionId.length = 32) (keyLen : key.length = 32) (sigLen : sig.length = 64)
    (nonempty : user ≠ []) (short : user.length ≤ 64) (plain : 0 ∉ user)
    (allows : env.publickeyAllowed h.tick user key = true) (memory : env.malloc (h.tick + 1) = true)
    (verifies : noxtls.ed25519Verify key (signedBytes h.self.sessionId user key) sig = true) :
    (Server.handleUserauthRequest noxtls env (Server.loginPayload user key sig)
        (memOf (Server.loginPayload user key sig) rest)).run h =
      (Server.sendUserauthSuccess noxtls env).run
        ⟨Server.setAuthenticated user h.self, h.tick + 2, h.inbox, h.trace ++ [(.keyAllowed user key true, h.self)]⟩ := by
  obtain ⟨size, number⟩ := loginPayload_shape user key sig
  have stands := login_stands keyLen (holds_memOf (Server.loginPayload user key sig) rest)
  obtain ⟨readUser, ⟨readService, isService⟩, readMethod, isMethod⟩ := reads_login stands
    (Server.loginPayload user key sig).length (by omega) (by omega)
  have read := readPublickey_login keyLen nonempty short plain stands
    (Server.loginPayload user key sig).length (by omega) (by omega)
  have readSig := readSignature_login sigLen stands (Server.loginPayload user key sig).length (by omega)
    (by omega)
  rw [Server.handleUserauthRequest, ensure_bind_pos ⟨by omega, number⟩, readUser, lift_some, pure_bind_run]
  dsimp only
  rw [readService, lift_some, pure_bind_run]
  dsimp only
  rw [readMethod, lift_some, pure_bind_run]
  dsimp only
  rw [isService, if_neg (by simp), isMethod, if_pos rfl, Server.publickeyAuth, self_bind_run, callback, read]
  dsimp only
  rw [ask_bind_run, allows, log_bind_run, if_pos rfl, Server.checkSignature, if_pos rfl, readSig]
  dsimp only
  rw [ask_bind_run, ensure_bind_pos memory, self_bind_run, toSign_login keyLen idLen sizeId, if_pos verifies,
    modify_bind_run]

end Server

/-! ## Both halves -/

/-- The login in a server's context: the flags and the name. -/
def account (s : Server) : Bool × Bool × List UInt8 := (s.authenticated, s.connectionServiceReady, s.authenticatedUser)

theorem success_keeps_account (noxtls : Noxtls) (env : Env) (h : Host Server) :
    account ((Server.sendUserauthSuccess noxtls env).run h).2.self = account h.self := by
  have always : Always (Quiet (fun _ => True) account) (Server.sendUserauthSuccess noxtls env) :=
    Server.always_sendPacket ⟨⟨fun _ => trivial, trivial, trivial⟩, fun _ _ => trivial, fun _ _ => trivial⟩
      (.of_fields (fun _ _ => rfl) (fun _ _ => rfl) (fun _ _ => rfl) (fun _ _ => rfl) (fun _ _ => rfl) (fun _ _ => rfl)
        (fun _ _ => rfl) fun _ _ => rfl)
      _ trivial trivial
  exact (always h).1

/-- For every session identifier, every name of 1 to 64 bytes without a zero and every
key: the client builds and sends a payload whose signed bytes are the ones the server
checks, the server logs that user in and says so, and with another session identifier
the server checks other bytes. -/
theorem publickey_login_agrees (noxtls : Noxtls) (scheme : SignatureScheme noxtls) (clientEnv serverEnv : Env)
    (c : Host Client) (nonempty : c.self.username ≠ []) (short : c.self.username.length ≤ 64)
    (plain : 0 ∉ c.self.username) (hasKey : c.self.hasEd25519Key = true)
    (isKey : noxtls.ed25519PublicKey c.self.ed25519PrivateKey = some c.self.ed25519PublicKey)
    (id : c.self.sessionIdLen = 32) (idLen : c.self.sessionId.length = 32) :
    ∃ payload signed sig, noxtls.ed25519Sign c.self.ed25519PrivateKey signed = some sig ∧
      payload = Server.loginPayload c.self.username c.self.ed25519PublicKey sig ∧
      (Client.sendUserauthPublickeyEd25519 noxtls clientEnv).run c =
        (Client.sendPacket noxtls clientEnv payload).run c ∧
      ∀ (s : Host Server) (rest : Mem), s.self.publickeyAllowedCb = true → s.self.sessionIdLen = 32 →
        s.self.sessionId.length = 32 →
        (s.self.sessionId ≠ c.self.sessionId →
          ∃ other, checked s.self payload (memOf payload rest) = some other ∧ other ≠ signed) ∧
        (s.self.sessionId = c.self.sessionId → checked s.self payload (memOf payload rest) = some signed ∧
          (serverEnv.publickeyAllowed s.tick c.self.username c.self.ed25519PublicKey = true →
            serverEnv.malloc (s.tick + 1) = true →
            (Server.handleUserauthRequest noxtls serverEnv payload (memOf payload rest)).run s =
              (Server.sendPacket noxtls serverEnv [52]).run ⟨Server.setAuthenticated c.self.username s.self, s.tick + 2,
                s.inbox, s.trace ++ [(.keyAllowed c.self.username c.self.ed25519PublicKey true, s.self)]⟩ ∧
            account ((Server.handleUserauthRequest noxtls serverEnv payload (memOf payload rest)).run s).2.self =
              (true, true, c.self.username))) := by
  have keyLen := noxtls.length_ed25519PublicKey _ _ isKey
  obtain ⟨sig, signs, verifies⟩ := scheme.signs c.self.ed25519PrivateKey c.self.ed25519PublicKey
    (signedBytes c.self.sessionId c.self.username c.self.ed25519PublicKey) isKey
  have sigLen := noxtls.length_ed25519Sign _ _ _ signs
  refine ⟨_, _, sig, signs, rfl, sendsLogin hasKey short keyLen id idLen signs, ?_⟩
  intro s rest callback serverId serverIdLen
  have checks := checked_loginPayload rest callback serverId serverIdLen keyLen sigLen nonempty short plain
  constructor
  · intro differ
    refine ⟨_, checks, ?_⟩
    intro same
    have strings := (List.append_inj same (by simp [serverIdLen, idLen])).1
    exact differ (List.append_inj strings (by simp)).2
  · intro same
    rw [same] at checks
    refine ⟨checks, ?_⟩
    intro allows memory
    have handles := handles_login rest callback serverId serverIdLen keyLen sigLen nonempty short plain allows
      memory (by rw [same]; exact verifies)
    refine ⟨handles, ?_⟩
    rw [handles, success_keeps_account]
    rfl

/-- A client of one letter, with the sample key. -/
def sampleLogin : Host Client :=
  ⟨{ Client.init 22 with username := [98], hasEd25519Key := true, sessionIdLen := 32 }, 0, [], []⟩

/-- A server with the same session identifier. -/
def sampleLoginServer : Host Server :=
  ⟨{ Server.init with publickeyAllowedCb := true, sessionIdLen := 32 }, 0, [], []⟩

theorem publickey_login_agrees_sample :
    ∃ payload signed sig, Sample.noxtls.ed25519Sign (zeros 32) signed = some sig ∧
      payload = Server.loginPayload [98] (zeros 32) sig ∧
      checked sampleLoginServer.self payload (memOf payload fun _ => 0) = some signed ∧
      account ((Server.handleUserauthRequest Sample.noxtls calm payload (memOf payload fun _ => 0)).run
        sampleLoginServer).2.self = (true, true, [98]) := by
  obtain ⟨payload, signed, sig, signs, is, -, agrees⟩ := publickey_login_agrees Sample.noxtls Sample.signatureScheme calm
    calm sampleLogin (by decide) (by decide) (by decide) rfl rfl rfl rfl
  obtain ⟨checks, logsIn⟩ := (agrees sampleLoginServer (fun _ => 0) rfl rfl rfl).2 rfl
  exact ⟨payload, signed, sig, signs, is, checks, (logsIn rfl rfl).2⟩

end NoxSsh.Protocol
