/-
# Protocol.Handshake — the two handshakes with each other

Two programs of their own, `netnox_ssh_client_connect` and `srv_handshake_to_encrypted`, talk
to each other: each hears what the other says, all of it and nothing else, in pieces of any
size.  What one says next depends on what the other has said, so neither half can be run
alone.  But a piece of a half runs whatever comes behind the bytes it waits for, and what
it has said stays said.  So the halves are run in turn, and after each piece one party has
caught up with the other (`CaughtUp`).

Both succeed, and they agree on all that the packets behind the handshake depend on
(`handshake_agrees`).
-/
import NoxSsh.Client.Handshake
import NoxSsh.Server.Handshake

namespace NoxSsh.Protocol

open Theory Proc Wire Transport

set_option autoImplicit false

/-! ## Catching up -/

section CaughtUp

variable {π ρ : Type} {noxtls : Noxtls} {out : Side π} {into : Side ρ}

/-- Of all that `p` ever puts on the wire `q` has read what `p` has put there by now. -/
structure CaughtUp (out : Side π) (into : Side ρ) (wire : List UInt8) (p : Host π) (q : Host ρ) : Prop where
  step : InStep (out.lane p.self) (into.lane q.self)
  stream : wire = wireOf p.trace ++ q.inbox

variable {out' : Side ρ} {wire rest : List UInt8} {payloads : List (List UInt8)} {p p' : Host π} {q q' : Host ρ}

/-- What `p` says next is on the way. -/
theorem CaughtUp.awaiting (caught : CaughtUp out into wire p q) (said : Said noxtls out payloads p p')
    (stream : wire = wireOf p'.trace ++ rest) (block : HasBlock (out'.lane q.self)) :
    Awaiting noxtls out' into (out.lane p'.self) payloads rest q := by
  obtain ⟨frames, new, sealed, grown, is⟩ := said
  refine ⟨block, _, frames, sealed, caught.step, ?_⟩
  have both := caught.stream.symm.trans stream
  rw [grown, wireOf_append, is, List.append_assoc] at both
  exact List.append_cancel_left both

/-- With nothing more on the way it has caught up. -/
theorem caughtUp_of_awaiting (awaiting : Awaiting noxtls out' into (out.lane p.self) [] rest q)
    (stream : wire = wireOf p.trace ++ rest) : CaughtUp out into wire p q := by
  obtain ⟨-, sender, frames, sealed, step, inbox⟩ := awaiting
  cases sealed
  exact ⟨step, by rw [stream, inbox]; rfl⟩

theorem lane_of_said_nothing (said : Said noxtls out [] p p') : out.lane p'.self = out.lane p.self := by
  obtain ⟨_, _, sealed, -, -⟩ := said
  generalize out.lane p.self = before at sealed ⊢
  generalize out.lane p'.self = after at sealed ⊢
  cases sealed
  rfl

theorem wireOf_of_quiet {γ : Type} {ok : Event → Prop} {view : π → γ} (quiet : Quiet ok view p p') :
    ∃ rest, wireOf p'.trace = wireOf p.trace ++ rest := by
  obtain ⟨-, new, grown, -⟩ := quiet
  exact ⟨wireOf new, by rw [grown, wireOf_append]⟩

/-- A program that takes nothing back: what is on the record stays there. -/
def Abiding {α : Type} (m : Prog π α) : Prop := Always (Quiet (fun _ => True) fun _ : π => ()) m

theorem Abiding.grows {α : Type} {m : Prog π α} (abiding : Abiding m) (h : Host π) :
    ∃ rest, wireOf (m.run h).2.trace = wireOf h.trace ++ rest := wireOf_of_quiet (abiding h)

theorem Abiding.bind {α β : Type} {m : Prog π α} {k : α → Prog π β} (first : Abiding m) (second : ∀ a, Abiding (k a)) :
    Abiding (m >>= k) := always_bind (quiet_order _ _) first second

theorem bind_pure_run {ε σ α : Type} (m : Proc ε σ α) (s : σ) : (m >>= pure).run s = m.run s := by
  rw [bind_run]
  rcases m.run s with ⟨o, s'⟩
  cases o <;> rfl

theorem abiding_of_stays {α : Type} {m : Prog Client α} (stays : ∀ h₀, Stays (Client.Follows h₀) (Client.Follows h₀) m) :
    Abiding m := fun c => (stays c).keeps c ((quiet_order _ _).refl c)

/-- Each has read all that the other has put on the wire by now. -/
structure EachCaughtUp (wireC wireS : List UInt8) (c : Host Client) (s : Host Server) : Prop where
  toServer : CaughtUp Client.sendSide Server.recvSide wireC c s
  toClient : CaughtUp Server.sendSide Client.recvSide wireS s c

end CaughtUp

/-! ## What the parties offer and make of it -/

section Offers

variable {cookie : List UInt8}

theorem client_offers (length : cookie.length = 16) (stale : Mem) :
    (validateClientKexinit (memOf (kexinitPayload Client.algLists cookie) stale)
      (kexinitPayload Client.algLists cookie).length).isOk = true := by
  rw [Client.validates_kexinit length stale]
  rfl

theorem server_offers (length : cookie.length = 16) (stale : Mem) :
    (validateServerKexinit (memOf (kexinitPayload Server.algLists cookie) stale)
      (kexinitPayload Server.algLists cookie).length).isOk = true := by
  rw [Server.validates_kexinit length stale]
  rfl

end Offers

/-- What the server replies, the client takes. -/
theorem takes_of_replies {noxtls : Noxtls} (agreement : KeyAgreement noxtls) (scheme : SignatureScheme noxtls) {c : Client}
    {s : Server} {t : Nat} {priv pub serverPub exchangeHash secret signature : List UInt8}
    (drawn : noxtls.x25519GenerateKey t = some (priv, pub))
    (hostKey : noxtls.ed25519PublicKey s.hostEd25519Sk = some s.hostEd25519Pk)
    (replies : Server.Replies noxtls s pub serverPub exchangeHash secret signature)
    (clientIdent : c.clientIdent = s.clientIdent) (serverIdent : c.serverIdent = s.serverIdent)
    (kexinitClient : c.kexinitClientPayload = s.kexinitClientPayload)
    (kexinitServer : c.kexinitServerPayload = s.kexinitServerPayload) (stale : Mem) :
    ∃ read blob exchangeHash' secret', Client.readKexReply (memOf (replyPayload s.hostEd25519Pk serverPub signature) stale)
        (replyPayload s.hostEd25519Pk serverPub signature).length = some read ∧
      Client.Takes noxtls c priv pub (memOf (replyPayload s.hostEd25519Pk serverPub signature) stale) read blob
        exchangeHash' secret' ∧ exchangeHash' = exchangeHash ∧ secret' = secret := by
  obtain ⟨⟨seed, published, shared⟩, hashed, signed⟩ := replies
  obtain ⟨secret', mine, same⟩ := agreement.secret t priv pub seed serverPub drawn published
  obtain rfl := Option.some.inj (same.symm.trans shared)
  obtain ⟨signature', signed', verifies⟩ := scheme.signs _ _ exchangeHash hostKey
  obtain rfl := Option.some.inj (signed'.symm.trans signed)
  have keyLen := noxtls.length_ed25519PublicKey _ _ hostKey
  have signatureLen := noxtls.length_ed25519Sign _ _ _ signed
  have hashLen := length_exchangeHash hashed
  obtain ⟨reads, blob, pubIs, sig⟩ :=
    Client.reads_reply keyLen (noxtls.length_x25519PublicKey _ _ published) signatureLen stale
  refine ⟨_, ed25519Blob s.hostEd25519Pk, exchangeHash, _, reads,
    ⟨blob.view (by rw [length_ed25519Blob, keyLen]), ?_, ?_, ?_⟩, rfl, rfl⟩
  · rw [pubIs]
    exact mine
  · rw [pubIs, clientIdent, serverIdent, kexinitClient, kexinitServer]
    exact hashed
  · have nonempty : exchangeHash ≠ [] := by
      rintro rfl
      cases hashLen
    rw [verifyServerHostKeySignature_ed25519 keyLen signatureLen nonempty blob sig verifies]
    rfl

/-! ## The two together -/

/-- An identification string of at most 253 bytes that can be sent on a line. -/
structure Names (ident : List UInt8) : Prop where
  short : ident.length ≤ 253
  begins : isIdentLine ident = true
  plain : ∀ c ∈ ident, c ≠ 10 ∧ c ≠ 13 ∧ c ≠ 0

theorem Names.isIdent {ident : List UInt8} (names : Names ident) : IsIdent ident := by
  have short := names.short
  refine ⟨names.begins, names.plain, ?_⟩
  rw [copyString, if_neg (by omega)]

/-- A client fresh from `netnox_ssh_client_init` that was told who it is. -/
def FreshClient (port : Nat) (ident : List UInt8) (c : Client) : Prop :=
  Client.setIdentification ident (Client.init port) = .ok c

/-- A server fresh from `netnox_ssh_server_init` that was told who it is and has a host key. -/
def FreshServer (noxtls : Noxtls) (ident seed : List UInt8) (s : Server) : Prop :=
  (Server.setIdentification ident Server.init).bind (Server.setHostEd25519Seed noxtls seed) = .ok s

/-- Each of the two hears what the other says, all of it and nothing else. -/
structure Joined (noxtls : Noxtls) (clientEnv serverEnv : Env) (c : Host Client) (s : Host Server) : Prop where
  toServer : s.inbox = wireOf ((Client.connect noxtls clientEnv).run c).2.trace
  toClient : c.inbox = wireOf ((Server.handshakeToEncrypted noxtls serverEnv).run s).2.trace

/-- Client and server agree on all that the packets behind the handshake depend on. -/
structure Agree (c : Client) (s : Server) : Prop where
  sessionId : c.sessionId = s.sessionId
  sessionIdLen : c.sessionIdLen = s.sessionIdLen
  sharedSecretRaw : c.sharedSecretRaw = s.sharedSecretRaw
  c2sIv : c.c2sIv = s.c2sIv
  s2cIv : c.s2cIv = s.s2cIv
  c2sKey : c.c2sKey = s.c2sKey
  s2cKey : c.s2cKey = s.s2cKey
  c2sMacKey : c.c2sMacKey = s.c2sMacKey
  s2cMacKey : c.s2cMacKey = s.s2cMacKey
  c2sCounter : c.c2sCounter = s.c2sCounter
  s2cCounter : c.s2cCounter = s.s2cCounter
  toServer : c.sendSeq = s.recvSeq
  toClient : c.recvSeq = s.sendSeq

/-- What the handshake needs of a client. -/
structure NewClient (ident : List UInt8) (c : Client) : Prop where
  named : c.clientIdent = ident
  unkeyed : c.keyExchangeComplete = false
  sendSeq : c.sendSeq = 0
  recvSeq : c.recvSeq = 0

/-- What it needs of a server. -/
structure NewServer (noxtls : Noxtls) (ident : List UInt8) (s : Server) : Prop where
  named : s.serverIdent = ident
  ready : s.hostKeyReady = true
  hostKey : noxtls.ed25519PublicKey s.hostEd25519Sk = some s.hostEd25519Pk
  unkeyed : s.keyExchangeComplete = false
  sendSeq : s.sendSeq = 0
  recvSeq : s.recvSeq = 0

theorem FreshClient.new {port : Nat} {ident : List UInt8} {c : Client} (fresh : FreshClient port ident c)
    (names : Names ident) : NewClient ident c := by
  rw [FreshClient, Client.setIdentification, names.isIdent.accepted] at fresh
  cases fresh
  exact ⟨rfl, rfl, rfl, rfl⟩

theorem FreshServer.new {noxtls : Noxtls} {ident seed : List UInt8} {s : Server} (fresh : FreshServer noxtls ident seed s)
    (names : Names ident) : NewServer noxtls ident s := by
  rw [FreshServer, Server.setIdentification, names.isIdent.accepted, Except.map, Except.bind, Server.setHostEd25519Seed] at fresh
  split at fresh
  · cases fresh
  · rename_i pk hostKey
    cases fresh
    exact ⟨rfl, rfl, hostKey, rfl, rfl, rfl⟩

/-- What a login and a session need of a client, and an exchange of keys leaves alone. -/
def credentials (c : Client) :
    List UInt8 × List UInt8 × Bool × List UInt8 × List UInt8 × Bool × Bool :=
  (c.username, c.password, c.hasEd25519Key, c.ed25519PrivateKey, c.ed25519PublicKey, c.userauthServiceReady,
    c.connectionServiceReady)

/-- And of a server. -/
def standing (s : Server) : Bool × Bool × Nat × Bool × Bool × Bool × Int :=
  (s.publickeyAllowedCb, s.userauthServiceReady, s.authAttempts, s.authenticated, s.channelOpen, s.wantPty, s.transportFd)

/-- Client and server behind a first exchange of keys. -/
structure KeyedPair (p : Client) (q : Server) (c : Client) (s : Server) : Prop where
  agree : Agree c s
  client : c.connected = true ∧ c.kexinitExchanged = true ∧ c.keyExchangeComplete = true
  server : s.keyExchangeComplete = true
  counters : c.c2sCounter.length = 16 ∧ c.s2cCounter.length = 16
  sessionId : c.sessionIdLen = 32 ∧ c.sessionId.length = 32
  credentials : credentials c = Protocol.credentials p
  standing : standing s = Protocol.standing q

theorem KeyedPair.paired {p c : Client} {q s : Server} (keyed : KeyedPair p q c s) : Paired c s := by
  obtain ⟨agree, ⟨-, -, keyedC⟩, keyedS, ⟨toServer, toClient⟩, -, -, -⟩ := keyed
  constructor
  · exact ⟨keyedC.trans keyedS.symm, agree.toServer,
      fun _ => ⟨agree.c2sKey, agree.c2sMacKey, agree.c2sCounter, toServer⟩⟩
  · exact ⟨keyedS.trans keyedC.symm, agree.toClient.symm,
      fun _ => ⟨agree.s2cKey.symm, agree.s2cMacKey.symm, agree.s2cCounter.symm, by
        rw [show (Server.sendSide.lane s).counter = c.s2cCounter from agree.s2cCounter.symm]
        exact toClient⟩⟩

/-- With the same exchange behind them and the same keys. -/
theorem keyed_of_cores {p c : Client} {q s : Server} {blob fingerprint exchangeHash secret kexinit : List UInt8}
    {keys : TransportKeys} (sameC : Client.core c = Client.core (Client.taken blob fingerprint exchangeHash secret
      (Client.setKexinitExchanged (Client.setKexinitServer kexinit p))))
    (sameS : Server.core s = Server.core (Server.setExchange exchangeHash secret q)) (connected : p.connected = true)
    (hashLen : exchangeHash.length = 32) (toServerIv : keys.c2sIv.length = 16) (toClientIv : keys.s2cIv.length = 16)
    (toServer : c.sendSeq = s.recvSeq) (toClient : c.recvSeq = s.sendSeq) :
    KeyedPair p q (Client.setKeyExchangeComplete (Client.setKeys keys c)) (Server.setKeyExchangeComplete (Server.setKeys keys s)) := by
  have id : c.sessionId = exchangeHash := @Client.eq_of_core _ (fun c => c.sessionId) (fun _ => rfl) _ _ sameC
  have idLen : c.sessionIdLen = 32 := @Client.eq_of_core _ (fun c => c.sessionIdLen) (fun _ => rfl) _ _ sameC
  have shared : c.sharedSecretRaw = secret := @Client.eq_of_core _ (fun c => c.sharedSecretRaw) (fun _ => rfl) _ _ sameC
  have id' : s.sessionId = exchangeHash := @Server.eq_of_core _ (fun s => s.sessionId) (fun _ => rfl) _ _ sameS
  have idLen' : s.sessionIdLen = 32 := @Server.eq_of_core _ (fun s => s.sessionIdLen) (fun _ => rfl) _ _ sameS
  have shared' : s.sharedSecretRaw = secret := @Server.eq_of_core _ (fun s => s.sharedSecretRaw) (fun _ => rfl) _ _ sameS
  have isConnected := @Client.eq_of_core _ (fun c => c.connected) (fun _ => rfl) _ _ sameC
  have exchanged : c.kexinitExchanged = true := @Client.eq_of_core _ (fun c => c.kexinitExchanged) (fun _ => rfl) _ _ sameC
  have kept := @Client.eq_of_core _ credentials (fun _ => rfl) _ _ sameC
  have stands := @Server.eq_of_core _ standing (fun _ => rfl) _ _ sameS
  simp only [credentials, Client.taken, Client.setSecret, Client.setExchangeHash, Client.setFingerprint,
    Client.setHostKeyBlob, Client.setKexinitExchanged, Client.setKexinitServer] at kept isConnected
  simp only [standing, Server.setExchange] at stands
  simp only [Client.setKeyExchangeComplete, Client.setKeys, Server.setKeyExchangeComplete, Server.setKeys]
  constructor
  · exact ⟨id.trans id'.symm, idLen.trans idLen'.symm, shared.trans shared'.symm, rfl, rfl, rfl, rfl, rfl, rfl, rfl, rfl,
      toServer, toClient⟩
  · exact ⟨isConnected.trans connected, exchanged, rfl⟩
  · rfl
  · exact ⟨toServerIv, toClientIv⟩
  · exact ⟨idLen, (congrArg List.length id).trans hashLen⟩
  · simpa only [credentials] using kept
  · simpa only [standing] using stands

section Run

variable {noxtls : Noxtls} {clientEnv serverEnv : Env} {wireC wireS : List UInt8} {kC : Unit → Prog Client Unit}
  {kS : Unit → Prog Server Unit}

/-- An excused end is no end in time. -/
theorem continues_in_time {m next : Prog Server Unit} {Q : Host Server → Prop} {s : Host Server}
    (continues : Continues Server.Late m next Q s) (inTime : InTime (m.run s).2.trace) :
    ∃ s', Q s' ∧ m.run s = next.run s' :=
  continues.resolve_right fun late => late inTime

/-- The identification strings cross. -/
theorem idents_cross {clientIdent serverIdent : List UInt8} (clientLive : Live clientEnv) (serverLive : Live serverEnv)
    (clientNamed : Names clientIdent) {c : Host Client} {s : Host Server} (newC : NewClient clientIdent c.self)
    (newS : NewServer noxtls serverIdent s.self) (emptyC : c.trace = []) (emptyS : s.trace = [])
    (abidingC : ∀ u, Abiding (kC u)) (abidingS : ∀ u, Abiding (kS u))
    (toServer : s.inbox = wireOf ((Client.connect noxtls clientEnv >>= kC).run c).2.trace)
    (toClient : c.inbox = wireOf ((Server.handshakeToEncrypted noxtls serverEnv >>= kS).run s).2.trace)
    (inTime : InTime ((Server.handshakeToEncrypted noxtls serverEnv).run s).2.trace) :
    ∃ c₁ s₁ restC, (Client.connect noxtls clientEnv).run c = (Client.readIdent noxtls clientEnv maxBannerLines).run c₁ ∧
      (Server.handshakeToEncrypted noxtls serverEnv).run s = (Server.shake noxtls serverEnv).run s₁ ∧
      c₁.self = c.self ∧ s₁.self = Server.setConnected (Server.setClientIdent clientIdent s.self) ∧
      c₁.inbox = txIdent serverIdent ++ restC ∧ c.inbox = wireOf s₁.trace ++ restC ∧ s.inbox = wireOf c₁.trace ++ s₁.inbox := by
  obtain ⟨c₁, movedC, sameC⟩ := Client.continues_client (@Client.connect_live noxtls clientEnv c clientLive (by
    rw [newC.named]
    rintro rfl
    exact absurd clientNamed.begins (by decide)))
  obtain ⟨newC₁, grownC, wireC₁⟩ := movedC.grown
  rw [emptyC, List.nil_append] at grownC
  obtain ⟨restS, streamC⟩ := ((abiding_of_stays fun h₀ => @Client.stays_readIdent noxtls clientEnv h₀).bind abidingC).grows c₁
  have inboxS : s.inbox = txIdent clientIdent ++ restS := by
    rw [toServer, bind_congr_run sameC, streamC, grownC, wireC₁, newC.named]
  obtain ⟨s₁, movedS, sameS⟩ := continues_in_time
    (@Server.handshakeToEncrypted_live noxtls serverEnv restS s serverLive clientIdent clientNamed.isIdent
      (Nat.le_succ_of_le clientNamed.short) newS.ready inboxS) inTime
  obtain ⟨newS₁, grownS, wireS₁⟩ := movedS.grown
  rw [emptyS, List.nil_append] at grownS
  have abidingShake : Abiding (Server.shake noxtls serverEnv) := Server.always_shake
  obtain ⟨restC, streamS⟩ := (abidingShake.bind abidingS).grows s₁
  have inboxC : c.inbox = wireOf s₁.trace ++ restC := by rw [toClient, bind_congr_run sameS, streamS]
  refine ⟨c₁, s₁, restC, sameC, sameS, movedC.self, movedS.self, ?_, inboxC, ?_⟩
  · rw [movedC.inbox, inboxC, grownS, wireS₁, newS.named]
  · rw [inboxS, movedS.inbox, grownC, wireC₁, newC.named]

/-- The server has read all that the client said, and its KEXINIT is on the way to the client. -/
structure Proposed (noxtls : Noxtls) (wireC wireS kexinit : List UInt8) (p : Client) (q : Server) (c : Host Client)
    (s₀ s : Host Server) : Prop where
  toServer : CaughtUp Client.sendSide Server.recvSide wireC c s
  toClient : CaughtUp Server.sendSide Client.recvSide wireS s₀ c
  said : Server.Said noxtls [kexinit] s₀ s
  stream : ∃ restC, wireS = wireOf s.trace ++ restC
  client : Client.core c.self = Client.core p
  server : Server.core s.self = Server.core q

/-- The KEXINIT payloads cross. -/
theorem kexinits_cross (sha : noxtls.shaInit = true) (ctr : CtrMode noxtls) (clientLive : Live clientEnv)
    (serverLive : Live serverEnv) {serverIdent restC : List UInt8} (serverNamed : Names serverIdent)
    {p : Client} {q : Server} {c₁ : Host Client} {s₁ : Host Server}
    (isC : c₁.self = p) (isS : s₁.self = q) (plainC : p.keyExchangeComplete = false) (plainS : q.keyExchangeComplete = false)
    (seqToServer : p.sendSeq = q.recvSeq) (seqToClient : q.sendSeq = p.recvSeq) (connected : q.connected = true)
    (abidingC : ∀ u, Abiding (kC u)) (abidingS : ∀ u, Abiding (kS u))
    (isWireC : wireC = wireOf ((Client.readIdent noxtls clientEnv maxBannerLines >>= kC).run c₁).2.trace)
    (inboxC : c₁.inbox = txIdent serverIdent ++ restC) (streamS : wireS = wireOf s₁.trace ++ restC)
    (isWireS : wireS = wireOf ((Server.shake noxtls serverEnv >>= kS).run s₁).2.trace)
    (streamC : wireC = wireOf c₁.trace ++ s₁.inbox)
    (inTime : InTime ((Server.shake noxtls serverEnv).run s₁).2.trace) :
    ∃ c₂ s₂ cookieC cookieS, cookieC.length = 16 ∧ cookieS.length = 16 ∧
      (Client.readIdent noxtls clientEnv maxBannerLines).run c₁ =
        (Client.heed noxtls clientEnv >>= fun _ => Client.performCurve25519Kex noxtls clientEnv).run c₂ ∧
      (Server.shake noxtls serverEnv).run s₁ =
        (failAs .failed (Server.performCurve25519Kex noxtls serverEnv)).run s₂ ∧
      Proposed noxtls wireC wireS (kexinitPayload Server.algLists cookieS)
        (Client.setKexinitClient (kexinitPayload Client.algLists cookieC)
          (Client.setConnected (Client.setServerIdent serverIdent p)))
        (Server.setKexinitExchanged (Server.setKexinitServer (kexinitPayload Server.algLists cookieS)
          (Server.setKexinitClient (kexinitPayload Client.algLists cookieC) q))) c₂ s₁ s₂ := by
  subst isC isS
  have blockC : HasBlock (Client.sendSide.lane c₁.self) := fun encrypted => by
    rw [show (Client.sendSide.lane c₁.self).encrypted = false from plainC] at encrypted
    cases encrypted
  have stepToClient : InStep (Server.sendSide.lane s₁.self) (Client.recvSide.lane c₁.self) :=
    ⟨plainS.trans plainC.symm, seqToClient, fun encrypted => by
      rw [show (Server.sendSide.lane s₁.self).encrypted = false from plainS] at encrypted
      cases encrypted⟩
  have stepToServer : InStep (Client.sendSide.lane c₁.self) (Server.recvSide.lane s₁.self) :=
    ⟨plainC.trans plainS.symm, seqToServer, fun encrypted => by
      rw [show (Client.sendSide.lane c₁.self).encrypted = false from plainC] at encrypted
      cases encrypted⟩
  obtain ⟨c₂, ⟨cookieC, lengthC, legC⟩, sameC⟩ := Client.continues_client
    (Client.readIdent_live sha ctr clientLive serverNamed.isIdent (Nat.le_succ_of_le serverNamed.short) inboxC blockC
      stepToClient)
  obtain ⟨restS, streamC₂⟩ := ((abiding_of_stays fun h₀ => @Client.stays_heed noxtls clientEnv h₀).bind abidingC).grows c₂
  rw [← bind_congr_run sameC, ← isWireC] at streamC₂
  have caughtS : CaughtUp Client.sendSide Server.recvSide wireC c₁ s₁ := ⟨stepToServer, streamC⟩
  have blockS : HasBlock (Server.sendSide.lane s₁.self) := stepToClient.hasBlock
  have caughtC : CaughtUp Server.sendSide Client.recvSide wireS s₁ c₂ := caughtUp_of_awaiting legC.awaiting streamS
  have small := Client.length_kexinit lengthC
  obtain ⟨s₂, ⟨cookieS, lengthS, legS⟩, sameS⟩ := continues_in_time
    (Server.shake_live sha ctr serverLive connected rfl (Nat.le_trans small (by decide)) (client_offers lengthC)
      (Leg.start (caughtS.awaiting legC.said streamC₂ blockS) rfl)) inTime
  have abidingPerform : Abiding (failAs .failed (Server.performCurve25519Kex noxtls serverEnv)) := Server.always_perform
  have streamS₂ := (abidingPerform.bind abidingS).grows s₂
  rw [← bind_congr_run sameS, ← isWireS] at streamS₂
  exact ⟨c₂, s₂, cookieC, cookieS, lengthC, lengthS, sameC, sameS, caughtUp_of_awaiting legS.awaiting streamC₂, caughtC,
    legS.said, streamS₂, legC.same, legS.same⟩

/-- The public values cross, and NEWKEYS. -/
theorem keys_cross (sha : noxtls.shaInit = true) (ctr : CtrMode noxtls) (agreement : KeyAgreement noxtls)
    (scheme : SignatureScheme noxtls) (clientLive : Live clientEnv) (serverLive : Live serverEnv)
    (alike : clientEnv.rawKeyDerivation = serverEnv.rawKeyDerivation) {cookieS : List UInt8}
    {p : Client} {q : Server} {c₂ : Host Client} {s₁ s₂ : Host Server} (lengthS : cookieS.length = 16)
    (proposed : Proposed noxtls wireC wireS (kexinitPayload Server.algLists cookieS) p q c₂ s₁ s₂)
    (clientIdent : p.clientIdent = q.clientIdent) (serverIdent : p.serverIdent = q.serverIdent)
    (kexinitClient : p.kexinitClientPayload = q.kexinitClientPayload)
    (kexinitServer : kexinitPayload Server.algLists cookieS = q.kexinitServerPayload)
    (hostKey : noxtls.ed25519PublicKey q.hostEd25519Sk = some q.hostEd25519Pk) (exchanged : q.kexinitExchanged = true)
    (ready : q.hostKeyReady = true) (room : q.clientIdent.length + q.serverIdent.length + q.kexinitClientPayload.length +
      q.kexinitServerPayload.length ≤ 3900)
    (connected : p.connected = true) (abidingC : ∀ u, Abiding (kC u)) (abidingS : ∀ u, Abiding (kS u))
    (isWireC : wireC = wireOf (((Client.heed noxtls clientEnv >>= fun _ =>
      Client.performCurve25519Kex noxtls clientEnv) >>= kC).run c₂).2.trace)
    (isWireS : wireS = wireOf ((failAs .failed (Server.performCurve25519Kex noxtls serverEnv) >>= kS).run s₂).2.trace)
    (inTime : InTime ((failAs .failed (Server.performCurve25519Kex noxtls serverEnv)).run s₂).2.trace) :
    ∃ c' s', (Client.heed noxtls clientEnv >>= fun _ => Client.performCurve25519Kex noxtls clientEnv).run c₂ = (.ok (), c') ∧
      (failAs .failed (Server.performCurve25519Kex noxtls serverEnv)).run s₂ = (.ok (), s') ∧ KeyedPair p q c'.self s'.self ∧
      EachCaughtUp wireC wireS c' s' := by
  obtain ⟨caughtS, caughtC, said, ⟨restC, streamS⟩, isC, isS⟩ := proposed
  -- the client takes the server's KEXINIT and says its public value
  have smallS := Server.length_kexinit lengthS
  obtain ⟨t, priv, pub, drawn, continues⟩ := Client.heed_perform_live sha ctr clientLive agreement.generates rfl
    (Nat.le_trans smallS (by decide)) (server_offers lengthS)
    (Leg.start (caughtC.awaiting said streamS caughtS.step.hasBlock) isC)
  obtain ⟨c₃, legC, sameC⟩ := Client.continues_client continues
  rw [bind_congr_run sameC] at isWireC
  rw [sameC]
  obtain ⟨restS, streamC⟩ := ((abiding_of_stays fun h₀ => @Client.stays_finish noxtls clientEnv h₀ priv pub).bind abidingC).grows c₃
  rw [← isWireC] at streamC
  have caughtC₃ : CaughtUp Server.sendSide Client.recvSide wireS s₂ c₃ := caughtUp_of_awaiting legC.awaiting streamS
  -- the server takes it and says the reply and NEWKEYS
  obtain ⟨s₃, ⟨serverPub, exchangeHash, secret, signature, replies, legS⟩, sameS⟩ := continues_in_time
    (Server.perform_live sha ctr agreement scheme serverLive drawn exchanged ready hostKey room
      (Leg.start (caughtS.awaiting legC.said streamC caughtC₃.step.hasBlock) isS)) inTime
  rw [bind_congr_run sameS] at isWireS
  rw [sameS] at inTime ⊢
  have abidingFinish : Abiding (failAs .failed (Server.finish noxtls serverEnv)) := Server.always_finish
  obtain ⟨restC₃, streamS₃⟩ := (abidingFinish.bind abidingS).grows s₃
  rw [← isWireS] at streamS₃
  have caughtS₃ : CaughtUp Client.sendSide Server.recvSide wireC c₃ s₃ := caughtUp_of_awaiting legS.awaiting streamC
  -- the client takes these, says NEWKEYS and is done
  have takes := takes_of_replies agreement scheme drawn hostKey replies (c := Client.setKexinitExchanged
    (Client.setKexinitServer (kexinitPayload Server.algLists cookieS) p)) clientIdent serverIdent kexinitClient kexinitServer
  obtain ⟨seed, published, shared⟩ := replies.agreed
  have replyLen := length_replyPayload (noxtls.length_ed25519PublicKey _ _ hostKey)
    (noxtls.length_x25519PublicKey _ _ published) (noxtls.length_ed25519Sign _ _ _ replies.signed)
  obtain ⟨_, c₄, ranC, blob, _, _, c₅, ⟨rfl, rfl⟩, legC₄, endC, wireC₄, inboxC₄⟩ := (Client.finish_live sha ctr clientLive rfl
    (by rw [replyLen]; decide) takes
    (Leg.start (caughtC₃.awaiting legS.said streamS₃ caughtS₃.step.hasBlock) legC.same)).ok id
  have doneC : (leaving .kexLeft (Client.finish noxtls clientEnv priv pub)).run c₃ =
      (.ok (), { c₄ with trace := c₄.trace ++ [(.kexLeft true, c₄.self)] }) := by
    rw [leaving, ending_run, ranC]
  have wireC₅ : wireOf (c₄.trace ++ [(Event.kexLeft true, c₄.self)]) = wireOf c₅.trace := by
    rw [← wireC₄]
    simp [Event.wireBytes]
  obtain ⟨restEnd, streamEnd⟩ := (abidingC ()).grows { c₄ with trace := c₄.trace ++ [(.kexLeft true, c₄.self)] }
  rw [← bind_ok doneC, ← isWireC, wireC₅] at streamEnd
  have caughtC₅ : CaughtUp Server.sendSide Client.recvSide wireS s₃ c₅ := caughtUp_of_awaiting legC₄.awaiting streamS₃
  -- the server takes that and is done
  have finishes := (Server.finish_live sha ctr serverLive (noxtls.length_x25519SharedSecret _ _ _ shared)
    (length_exchangeHash replies.hashed) rfl
    (Leg.start (caughtS₃.awaiting legC₄.said streamEnd caughtC₅.step.hasBlock) legS.same)).failAs .failed
  obtain ⟨_, s₄, ranS, s₅, legS₅, endS, traceS₅, inboxS₅⟩ := finishes.ok (not_not.2 inTime)
  have caughtS₅ : CaughtUp Client.sendSide Server.recvSide wireC c₅ s₅ := caughtUp_of_awaiting legS₅.awaiting streamEnd
  have seqS : s₃.self.sendSeq = s₅.self.sendSeq := congrArg Lane.seq (lane_of_said_nothing legS₅.said).symm
  have keyed : KeyedPair p q c₄.self s₄.self := by
    rw [endC, endS, alike]
    exact keyed_of_cores legC₄.same legS₅.same connected (length_exchangeHash replies.hashed)
      (length_rfcKey _ _ _ _ _ (by decide)) (length_rfcKey _ _ _ _ _ (by decide)) caughtS₅.step.seq
      (caughtC₅.step.seq.symm.trans seqS)
  refine ⟨_, s₄, doneC, ranS, keyed, ⟨keyed.paired.toServer, ?_⟩, ⟨keyed.paired.toClient, ?_⟩⟩
  · rw [wireC₅, inboxS₅]
    exact caughtS₅.stream
  · obtain ⟨_, new, sealed, grown, silent⟩ := legS₅.said
    have quietS : wireOf s₄.trace = wireOf s₃.trace := by
      rw [traceS₅, grown, wireOf_append, silent]
      generalize Server.sendSide.lane s₃.self = before at sealed
      generalize Server.sendSide.lane s₅.self = after at sealed
      cases sealed
      simp
    rw [quietS, inboxC₄]
    exact caughtC₅.stream

/-- With any client and server that have not exchanged keys yet, both succeed and agree. -/
theorem new_agree (sha : noxtls.shaInit = true) (ctr : CtrMode noxtls) (agreement : KeyAgreement noxtls)
    (scheme : SignatureScheme noxtls) (clientLive : Live clientEnv) (serverLive : Live serverEnv)
    (alike : clientEnv.rawKeyDerivation = serverEnv.rawKeyDerivation) {clientIdent serverIdent : List UInt8}
    (clientNamed : Names clientIdent) (serverNamed : Names serverIdent) {c : Host Client} {s : Host Server}
    (newC : NewClient clientIdent c.self) (newS : NewServer noxtls serverIdent s.self) (emptyC : c.trace = [])
    (emptyS : s.trace = []) (abidingC : ∀ u, Abiding (kC u)) (abidingS : ∀ u, Abiding (kS u))
    (toServer : s.inbox = wireOf ((Client.connect noxtls clientEnv >>= kC).run c).2.trace)
    (toClient : c.inbox = wireOf ((Server.handshakeToEncrypted noxtls serverEnv >>= kS).run s).2.trace)
    (inTime : InTime ((Server.handshakeToEncrypted noxtls serverEnv).run s).2.trace) :
    ∃ c' s', (Client.connect noxtls clientEnv).run c = (.ok (), c') ∧
      (Server.handshakeToEncrypted noxtls serverEnv).run s = (.ok (), s') ∧ KeyedPair c.self s.self c'.self s'.self ∧
      EachCaughtUp s.inbox c.inbox c' s' := by
  obtain ⟨c₁, s₁, restC, sameC, sameS, isC₁, isS₁, inboxC, streamS, streamC⟩ :=
    idents_cross clientLive serverLive clientNamed newC newS emptyC emptyS abidingC abidingS toServer toClient inTime
  rw [bind_congr_run sameC] at toServer
  rw [bind_congr_run sameS] at toClient
  rw [sameC, sameS]
  rw [sameS] at inTime
  obtain ⟨c₂, s₂, cookieC, cookieS, lengthC, lengthS, sameC₂, sameS₂, proposed⟩ :=
    kexinits_cross sha ctr clientLive serverLive serverNamed isC₁ isS₁ newC.unkeyed newS.unkeyed
      (newC.sendSeq.trans newS.recvSeq.symm) (newS.sendSeq.trans newC.recvSeq.symm) rfl abidingC abidingS toServer inboxC streamS
      toClient streamC inTime
  have smallC := Client.length_kexinit lengthC
  have smallS := Server.length_kexinit lengthS
  have shortC := clientNamed.short
  have shortS := serverNamed.short
  have room : clientIdent.length + s.self.serverIdent.length + (kexinitPayload Client.algLists cookieC).length +
      (kexinitPayload Server.algLists cookieS).length ≤ 3900 := by
    rw [newS.named]
    omega
  rw [bind_congr_run sameC₂] at toServer
  rw [bind_congr_run sameS₂] at toClient
  rw [sameC₂, sameS₂]
  rw [sameS₂] at inTime
  obtain ⟨c', s', ranC, ranS, keyed, level⟩ := keys_cross sha ctr agreement scheme clientLive serverLive alike lengthS
    proposed newC.named newS.named.symm rfl rfl newS.hostKey rfl newS.ready room rfl abidingC abidingS toServer
    toClient inTime
  exact ⟨c', s', ranC, ranS, ⟨keyed.agree, keyed.client, keyed.server, keyed.counters, keyed.sessionId,
    keyed.credentials, keyed.standing⟩, level⟩

end Run

namespace Pair

/-- It takes whatever there is. -/
def swift : Env := { calm with recv := fun _ => 4096 }

def clientIdent : List UInt8 := ascii "SSH-2.0-c"

def serverIdent : List UInt8 := ascii "SSH-2.0-s"

def client : Client := { Client.init 22 with clientIdent := clientIdent }

def server : Server :=
  { Server.init with
      serverIdent := serverIdent
      hostEd25519Sk := zeros 32
      hostEd25519Pk := zeros 32
      hostKeyReady := true }

def kexinitC : List UInt8 := kexinitPayload Client.algLists (zeros 16)

def kexinitS : List UInt8 := kexinitPayload Server.algLists (zeros 16)

/-- The client draws its key pair when it has asked its environment this often. -/
def pub : List UInt8 := Sample.fit 32 [18]

def exchangeHash : List UInt8 :=
  Sample.digest (exchangeInput clientIdent serverIdent kexinitC kexinitS (ed25519Blob (zeros 32)) pub (zeros 32) pub)

def reply : List UInt8 := replyPayload (zeros 32) (zeros 32) (Sample.sign (zeros 32) exchangeHash)

/-- What the client says. -/
def toServer : List UInt8 :=
  txIdent clientIdent ++ sealAll Sample.noxtls (Client.sendSide.lane client) [kexinitC, initPayload pub, [21]]

/-- What the server says. -/
def toClient : List UInt8 :=
  txIdent serverIdent ++ sealAll Sample.noxtls (Server.sendSide.lane server) [kexinitS, reply, [21]]

def clientHost : Host Client := ⟨client, 0, toClient, []⟩

def serverHost : Host Server := ⟨Server.setHandshakeDeadline 31000 server, 0, toServer, []⟩

theorem talks : (toServer = wireOf ((Client.connect Sample.noxtls swift).run clientHost).2.trace ∧
      toClient = wireOf ((Server.handshakeToEncrypted Sample.noxtls swift).run serverHost).2.trace) ∧
    ∀ e ∈ ((Server.handshakeToEncrypted Sample.noxtls swift).run serverHost).2.trace, e.1 ≠ .expired := by
  decide +kernel

end Pair

end NoxSsh.Protocol
