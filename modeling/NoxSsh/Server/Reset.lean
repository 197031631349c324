/-
# Server.Reset — what a reset leaves behind

`netnox_ssh_server_reset` prepares a context for the next connection, but it names its
fields one by one, and not all of them: the terminal of an earlier session and the
window of an earlier channel stay.  Every other leftover is written before it is read
(`Server.Kin`), so a used server serves as a fresh one does until a packet reads one of
these two (`reset_serves`): a `pty-req` is refused, or a session starts, while
`want_pty` is left over, or channel data is charged to a window that no channel of this
connection has opened.
-/
import NoxSsh.Server.Kin

namespace NoxSsh.Server

open Theory Proc Wire Transport

set_option autoImplicit false

/-- `netnox_ssh_server_reset`. -/
def reset (s : Server) : Server :=
  { s with
    clientIdent := []
    connected := false
    kexinitExchanged := false
    userauthServiceReady := false
    connectionServiceReady := false
    authenticated := false
    authenticatedUser := []
    authAttempts := 0
    sessionStarted := false
    handshakeDeadlineMs := 0
    packetDeadlineMs := 0
    sendDeadlineMs := 0
    channelOpen := false
    keyExchangeComplete := false
    sendSeq := 0
    recvSeq := 0
    encryptedBytesSent := 0
    encryptedBytesRecv := 0 }

/-! ## Packets that read what is left over -/

/-- Is this a request that sets the terminal, or one that starts a session with it? -/
def takesTerminal (p : List UInt8) (m : Mem) : Bool :=
  match payloadReadU32 m p.length 1 with
  | none => false
  | some (chan, off) =>
      match payloadReadStringView m p.length off with
      | none => false
      | some (req, off) =>
          chan = 0 && off < p.length &&
            ((req.bytes m = ascii "pty-req" && (readPty m p.length (off + 1)).isSome) ||
              (req.bytes m = ascii "exec" && (readCommand m p.length (off + 1)).isSome) ||
              (req.bytes m = ascii "shell" && off + 1 = p.length))

/-- Is this data that is charged to the window? -/
def chargesWindow (p : List UInt8) (m : Mem) : Bool :=
  match payloadReadU32 m p.length 1 with
  | none => false
  | some (recipient, off) => recipient = 0 && (payloadReadStringView m p.length off).isSome

/-- The packet reads a leftover that is not known to be the same. -/
def Common.Reads (known : Common) (p : List UInt8) (m : Mem) (t : Server) : Prop :=
  (¬ known.terminal ∧ p.head? = some 98 ∧ t.channelOpen = true ∧ takesTerminal p m = true) ∨
    (¬ known.window ∧ p.head? = some 94 ∧ t.keyExchangeComplete = true ∧ t.remoteMaxPacketSize = 0 ∧
      chargesWindow p m = true)

/-- The same settings and leftovers, with a channel opened or not. -/
def Common.opening (known : Common) (opened : Prop) : Common := { known with opened := opened }

/-- A channel may have been opened. -/
def StillKin (known : Common) (h h' : Host Server) : Prop := ∃ opened, Twinned (Kin (known.opening opened)) display h h'

section Dispatch

variable {known : Common} {noxtls : Noxtls} {env : Env} {α : Type}

theorem still_of_twinned {h h' : Host Server} (twinned : Twinned (Kin known) display h h') : StillKin known h h' :=
  ⟨known.opened, twinned⟩

/-- A part that opens no channel, wherever more is known. -/
theorem twin_still {P : Host Server → Host Server → Prop} {m m' : Prog Server α}
    (twins : Twins (Twinned (Kin known) display) m m') (within : ∀ h h', P h h' → Twinned (Kin known) display h h') :
    Twin P m m' (fun _ => StillKin known) (StillKin known) :=
  twins.mono within (fun _ _ _ => still_of_twinned) fun _ _ => still_of_twinned

/-! ## User authentication -/

theorem twins_sendUserauthFailure (partialSuccess : Bool) :
    Twins (Twinned (Kin known) display) (sendUserauthFailure noxtls env partialSuccess)
      (sendUserauthFailure noxtls env partialSuccess) := twins_sendBuilt _

theorem twins_checkSignature (session : known.session) (p : List UInt8) (m : Mem) (req : PublickeyRequest) :
    Twins (Twinned (Kin known) display) (checkSignature noxtls env p m req) (checkSignature noxtls env p m req) := by
  apply twins_ite Iff.rfl
  · cases readSignature m p.length req.reqLen with
    | none => exact twins_sendUserauthFailure false
    | some sig =>
        apply twins_bind (twin_ask _)
        intro memory
        apply twins_ensure_bind _ Iff.rfl
        intro _ _
        apply twin_self_bind
        intro s t kin
        obtain ⟨id, idLen, -⟩ := kin.session session
        have signed : toSign s m req.reqLen = toSign t m req.reqLen := by simp only [toSign, id, idLen]
        rw [signed]
        apply twins_ite Iff.rfl _ (twins_sendUserauthFailure false)
        apply twins_bind (twins_modify (f := setAuthenticated req.user) (g := setAuthenticated req.user) ?_)
        · exact fun _ => twins_sendPacket [52]
        · exact fun s t kin =>
            { kin with authenticatedUser := rfl, authenticated := rfl, connectionServiceReady := rfl }
  · exact twins_ite Iff.rfl (twins_sendUserauthFailure false) (twins_sendBuilt _)

theorem twins_publickeyAuth (session : known.session) (p : List UInt8) (m : Mem) (user : View) (off : Nat) :
    Twins (Twinned (Kin known) display) (publickeyAuth noxtls env p m user off) (publickeyAuth noxtls env p m user off) := by
  apply twin_self_bind
  intro s t kin
  rw [kin.publickeyAllowedCb]
  cases readPublickey t.publickeyAllowedCb m p.length user off with
  | none => exact twins_sendUserauthFailure false
  | some req =>
      apply twins_bind (twin_ask _)
      intro allowed
      apply twins_bind (twin_log (shown_other (e := .keyAllowed req.user req.key allowed) (by simp)))
      intro _
      exact twins_ite Iff.rfl (twins_checkSignature session p m req) (twins_sendUserauthFailure false)

theorem twins_handleUserauthRequest (session : known.session) (p : List UInt8) (m : Mem) :
    Twins (Twinned (Kin known) display) (handleUserauthRequest noxtls env p m)
      (handleUserauthRequest noxtls env p m) := by
  apply twins_ensure_bind _ Iff.rfl
  intro _ _
  apply twins_lift_bind _ rfl
  rintro ⟨user, off⟩ _
  apply twins_lift_bind _ rfl
  rintro ⟨service, off⟩ _
  apply twins_lift_bind _ rfl
  rintro ⟨method, off⟩ _
  apply twins_ite Iff.rfl (twins_sendUserauthFailure false)
  exact twins_ite Iff.rfl (twins_publickeyAuth session p m user off) (twins_sendUserauthFailure false)

theorem twins_serviceRequest (payload : List UInt8) (m : Mem) :
    Twins (Twinned (Kin known) display) (serviceRequest noxtls env payload m) (serviceRequest noxtls env payload m) := by
  apply twins_lift_bind _ rfl
  rintro ⟨svc, off⟩ _
  apply twin_self_bind
  intro s t kin
  apply twins_ite Iff.rfl
  · apply twins_bind (twins_modify (f := setUserauthReady) (g := setUserauthReady) ?_)
    · exact fun _ => (twins_sendBuilt _).failAs _
    · exact fun s t kin => { kin with userauthServiceReady := rfl }
  · apply twins_ite (by rw [kin.authenticated]) _ (twins_fail _)
    apply twins_bind (twins_modify (f := setConnectionReady) (g := setConnectionReady) ?_)
    · exact fun _ => (twins_sendBuilt _).failAs _
    · exact fun s t kin => { kin with connectionServiceReady := rfl }

theorem twins_userauthRequest (session : known.session) (payload : List UInt8) (m : Mem) :
    Twins (Twinned (Kin known) display) (userauthRequest noxtls env payload m)
      (userauthRequest noxtls env payload m) := by
  apply twin_self_bind
  intro s t kin
  apply twins_ensure_bind _ (by rw [kin.userauthServiceReady])
  intro _ _
  apply twins_ensure_bind _ (by rw [kin.authenticated])
  intro _ _
  apply twins_bind (twins_modify (f := countAttempt) (g := countAttempt) ?_)
  · intro _
    apply twin_self_bind
    intro s t kin
    apply twins_ensure_bind _ (by rw [kin.authAttempts])
    exact fun _ _ => (twins_handleUserauthRequest session payload m).failAs _
  · exact fun s t kin => { kin with authAttempts := congrArg (· + 1) kin.authAttempts }

/-! ## Channels -/

/-- What CHANNEL_OPEN writes is of this connection from here on. -/
theorem Kin.openChannel {s t : Server} (kin : Kin known s t) (window maxPacket sender : Nat) :
    Kin (known.opening True) (Server.openChannel sender (Server.setRemoteLimits window maxPacket s))
      (Server.openChannel sender (Server.setRemoteLimits window maxPacket t)) :=
  { kin with
    localChannelId := rfl
    ownChannel := rfl
    given := kin.given
    window := fun _ => rfl
    opened := fun _ => ⟨rfl, rfl, rfl⟩
    unopened := fun never => absurd trivial never }

theorem twin_channelOpenRequest (closeDeadlineMs : Nat) (payload : List UInt8) (m : Mem) :
    Twin (Twinned (Kin known) display) (channelOpenRequest noxtls env closeDeadlineMs payload m)
      (channelOpenRequest noxtls env closeDeadlineMs payload m) (fun _ => StillKin known) (StillKin known) := by
  have broken : ∀ h h', Twinned (Kin known) display h h' → StillKin known h h' := fun _ _ => still_of_twinned
  have opens : ∀ h h', Twinned (Kin (known.opening True)) display h h' → StillKin known h h' := fun _ _ twinned => ⟨True, twinned⟩
  apply twin_ensure_bind _ Iff.rfl broken
  intro _ _
  apply twin_self_bind
  intro s t kin
  rw [kin.authenticated, kin.connectionServiceReady, kin.channelOpen]
  apply twin_ensure_bind _ Iff.rfl broken
  intro _ _
  apply twin_lift_bind _ rfl broken
  rintro ⟨typ, off⟩ _
  apply twin_lift_bind _ rfl broken
  rintro ⟨sender, off⟩ _
  apply twin_lift_bind _ rfl broken
  rintro ⟨clientInitWin, off⟩ _
  apply twin_lift_bind _ rfl broken
  rintro ⟨clientMaxPkt, off⟩ _
  apply twin_ensure_bind _ Iff.rfl broken
  intro _ _
  apply twin_ensure_bind _ Iff.rfl broken
  intro _ _
  -- between the two updates the limits are of this connection and the channel's number is not
  apply twin_bind (Q := fun _ => Twinned (fun s t => Kin (known.opening True) (openChannel sender s) (openChannel sender t)) display)
  · exact twin_modify fun s t kin => kin.openChannel clientInitWin clientMaxPkt sender
  · intro _
    apply twin_bind (Q := fun _ => Twinned (Kin (known.opening True)) display)
    · apply TwinUnless.failAs
      apply twin_bind (Q := fun _ => Twinned (Kin (known.opening True)) display)
      · exact twin_modify fun s t opened => opened
      · intro _
        apply twin_self_bind
        intro s t kin
        rw [kin.localChannelId, kin.window (.inr trivial)]
        exact (twins_sendBuilt _).mono (fun _ _ => id) (fun _ _ _ => id) opens
    · intro _
      apply (twins_modify (f := setChannelOpen true) (g := setChannelOpen true) ?_).mono (fun _ _ => id)
        (fun _ _ _ => opens _ _) opens
      exact fun s t kin => { kin with channelOpen := rfl, unopened := fun never => absurd trivial never }

theorem twins_refuse (opened : known.opened) (wantReply : Bool) :
    Twins (Twinned (Kin known) display) (refuse noxtls env wantReply) (refuse noxtls env wantReply) := by
  apply twins_ite Iff.rfl _ (twins_pure ())
  exact twins_bind (twin_attempt (twins_sendChannelMessage opened _ _)) fun _ => twins_pure ()

theorem twins_confirm (opened : known.opened) (wantReply : Bool) :
    Twins (Twinned (Kin known) display) (confirm noxtls env wantReply) (confirm noxtls env wantReply) :=
  twins_ite Iff.rfl ((twins_sendChannelMessage opened _ _).failAs _) (twins_pure ())

theorem twins_runAndClose (terminal : known.terminal) (opened : known.opened) (turns : Nat) (wantReply : Bool)
    (command : Option (List UInt8)) (closeDeadlineMs : Nat) :
    Twins (Twinned (Kin known) display) (runAndClose noxtls env turns wantReply command closeDeadlineMs)
      (runAndClose noxtls env turns wantReply command closeDeadlineMs) := by
  apply twins_bind (twins_confirm opened wantReply)
  intro _
  apply twins_bind ((twins_runSessionUnix terminal opened turns command).failAs _)
  exact fun _ => (twins_beginCloseWait closeDeadlineMs).failAs _

theorem Kin.setPty {s t : Server} (kin : Kin known s t) (pty : Pty) :
    Kin known (Server.setPty pty s) (Server.setPty pty t) :=
  { kin with terminal := fun _ => rfl }

theorem twins_channelRequestBody (opened : known.opened) (turns closeDeadlineMs : Nat) (payload : List UInt8)
    (m : Mem) (req : View) (off : Nat)
    (free : ¬ known.terminal →
      (req.bytes m = ascii "pty-req" → readPty m payload.length (off + 1) = none) ∧
        (req.bytes m = ascii "exec" → readCommand m payload.length (off + 1) = none) ∧
        (req.bytes m = ascii "shell" → off + 1 ≠ payload.length)) :
    Twins (Twinned (Kin known) display) (channelRequestBody noxtls env turns closeDeadlineMs payload m req off)
      (channelRequestBody noxtls env turns closeDeadlineMs payload m req off) := by
  have refused : ∀ wantReply, Twins (Twinned (Kin known) display)
      (refuse noxtls env wantReply >>= fun _ => pure closeDeadlineMs)
      (refuse noxtls env wantReply >>= fun _ => pure closeDeadlineMs) :=
    fun wantReply => twins_bind (twins_refuse opened wantReply) fun _ => twins_pure _
  unfold channelRequestBody
  apply twin_self_bind
  intro s t kin
  by_cases terminal : known.terminal
  · rw [kin.wantPty terminal]
    apply twins_ite Iff.rfl
    · cases (if t.wantPty then none else readPty m payload.length (off + 1)) with
      | none => exact refused _
      | some pty =>
          apply twins_bind (twins_modify (f := Server.setPty pty) (g := Server.setPty pty) fun s t kin => kin.setPty pty)
          exact fun _ => twins_bind (twins_confirm opened _) fun _ => twins_pure _
    apply twins_ite Iff.rfl
    · cases readCommand m payload.length (off + 1) with
      | none => exact refused _
      | some command => exact twins_runAndClose terminal opened turns _ _ _
    apply twins_ite Iff.rfl _ (refused _)
    exact twins_ite Iff.rfl (refused _) (twins_runAndClose terminal opened turns _ _ _)
  · obtain ⟨noPty, noCommand, noShell⟩ := free terminal
    apply twin_ite Iff.rfl
    · intro pty _
      rw [noPty pty, ite_self, ite_self]
      exact refused _
    intro _ _
    apply twin_ite Iff.rfl
    · intro exec _
      rw [noCommand exec]
      exact refused _
    intro _ _
    apply twin_ite Iff.rfl _ fun _ _ => refused _
    intro shell _
    rw [if_pos (noShell shell)]
    exact refused _

theorem twin_channelRequest (turns closeDeadlineMs : Nat) (payload : List UInt8) (m : Mem) :
    Twin (Twinned (fun s t => Kin known s t ∧
        (known.terminal ∨ t.channelOpen = false ∨ takesTerminal payload m = false)) display)
      (channelRequest noxtls env turns closeDeadlineMs payload m)
      (channelRequest noxtls env turns closeDeadlineMs payload m) (fun _ => StillKin known) (StillKin known) := by
  apply twin_self_bind
  rintro s t ⟨kin, free⟩
  rw [kin.channelOpen, kin.localChannelId, kin.ownChannel]
  refine twin_still ?_ fun h h' twinned => twinned.mono fun s t (both : Kin known s t ∧ _) => both.1
  by_cases closed : t.channelOpen = false
  · rw [if_pos closed]
    exact twins_pure _
  have opened : known.opened := kin.isOpened (by simpa using closed)
  rw [if_neg closed]
  apply twins_lift_bind _ rfl
  rintro ⟨chan, off⟩ readChan
  apply twin_ite Iff.rfl
  · exact fun _ _ => twins_pure _
  intro own _
  apply twins_lift_bind _ rfl
  rintro ⟨req, off'⟩ readReq
  apply twins_ensure_bind _ Iff.rfl
  intro inside _
  apply twins_channelRequestBody opened
  intro unknown
  have free : takesTerminal payload m = false := by
    rcases free with known | closed' | free
    · exact absurd known unknown
    · exact absurd closed' closed
    · exact free
  have own : chan = 0 := not_not.1 own
  simp only [takesTerminal, readChan, readReq, own, inside, decide_true, Bool.and_self, Bool.true_and,
    Bool.or_eq_false_iff, Bool.and_eq_false_imp, decide_eq_true_eq, Option.isSome_eq_false_iff,
    Option.isNone_iff_eq_none, decide_eq_false_iff_not] at free
  exact ⟨free.1.1, free.1.2, free.2⟩

theorem twin_channelData (payload : List UInt8) (m : Mem) :
    Twin (Twinned (fun s t => Kin known s t ∧ (known.window ∨ known.opened ∨ chargesWindow payload m = false)) display)
      (channelData noxtls env payload m) (channelData noxtls env payload m) (fun _ => StillKin known)
      (StillKin known) := by
  apply twin_self_bind
  rintro s t ⟨kin, free⟩
  rw [kin.localChannelId, kin.ownChannel]
  refine twin_still ?_ fun h h' twinned => twinned.mono fun s t (both : Kin known s t ∧ _) => both.1
  apply twins_lift_bind _ rfl
  rintro ⟨recipient, off⟩ readRecipient
  apply twin_ite Iff.rfl
  · exact fun _ _ => twins_pure _
  intro own _
  apply twins_lift_bind _ rfl
  rintro ⟨dat, off'⟩ readData
  have own : recipient = 0 := not_not.1 own
  have charged : chargesWindow payload m = true := by simp [chargesWindow, readRecipient, readData, own]
  have near : known.window ∨ known.opened := by
    rcases free with window | opened | free
    · exact .inl window
    · exact .inr opened
    · rw [charged] at free
      cases free
  have charge : Twins (Twinned (Kin known) display) (chargeWindow s dat.len) (chargeWindow t dat.len) := by
    rw [chargeWindow, chargeWindow, kin.window near]
    exact twins_ite Iff.rfl (twins_modify fun s t kin => kin.setLocalWindow _) (twins_pure ())
  apply twins_bind charge
  intro _
  exact twins_bind (twin_attempt (twins_maybeWindowAdjust near)) fun _ => twins_pure ()

theorem twins_channelEnd (closeDeadlineMs : Nat) (payload : List UInt8) (m : Mem) :
    Twins (Twinned (Kin known) display) (channelEnd noxtls env closeDeadlineMs payload m)
      (channelEnd noxtls env closeDeadlineMs payload m) := by
  apply twins_bind ((twins_handleChannelEnd payload m).failAs _)
  exact fun _ => twins_ite Iff.rfl ((twins_beginCloseWait closeDeadlineMs).failAs _) (twins_pure _)

/-! ## Dispatch -/

theorem twin_goOn {P : Host Server → Host Server → Prop} {m m' : Prog Server Unit} (closeDeadlineMs : Nat)
    (twin : Twin P m m' (fun _ => StillKin known) (StillKin known)) :
    Twin P (goOn closeDeadlineMs m) (goOn closeDeadlineMs m') (fun _ => StillKin known) (StillKin known) :=
  twin_bind twin fun _ => twins_pure _

theorem twin_goOnWith {P : Host Server → Host Server → Prop} {m m' : Prog Server Nat}
    (twin : Twin P m m' (fun _ => StillKin known) (StillKin known)) :
    Twin P (goOnWith m) (goOnWith m') (fun _ => StillKin known) (StillKin known) :=
  twin_bind twin fun _ => twins_pure _

/-- A packet that reads no leftover is dispatched alike. -/
theorem twin_dispatch (session : known.session) (secure : known.secure) (turns closeDeadlineMs : Nat)
    (payload : List UInt8) (m : Mem) :
    Twin (Twinned (fun s t => Kin known s t ∧ ¬ known.Reads payload m t) display)
      (dispatch noxtls env turns closeDeadlineMs payload m) (dispatch noxtls env turns closeDeadlineMs payload m)
      (fun _ => StillKin known) (StillKin known) := by
  have within : ∀ h h', Twinned (fun s t => Kin known s t ∧ ¬ known.Reads payload m t) display h h' →
      Twinned (Kin known) display h h' := fun _ _ twinned => twinned.mono fun _ _ both => both.1
  have still : ∀ {α : Type} {p : Prog Server α}, Twins (Twinned (Kin known) display) p p →
      Twin (Twinned (fun s t => Kin known s t ∧ ¬ known.Reads payload m t) display) p p (fun _ => StillKin known)
        (StillKin known) := fun twins => twin_still twins within
  unfold dispatch
  split
  · exact still (twins_pure _)
  · exact still (twins_pure _)
  · exact still (twins_pure _)
  · exact still (twins_pure _)
  · exact twin_goOn _ (still ((twins_handleGlobalRequest payload m).failAs _))
  · exact twin_goOn _ (still (twins_serviceRequest payload m))
  · exact twin_goOn _ (still (twins_userauthRequest session payload m))
  · exact twin_goOn _ ((twin_channelOpenRequest closeDeadlineMs payload m).mono within (fun _ _ _ => id) fun _ _ => id)
  · rename_i number
    apply twin_goOnWith
    apply (twin_channelRequest turns closeDeadlineMs payload m).mono _ (fun _ _ _ => id) fun _ _ => id
    intro h h' twinned
    refine twinned.mono fun s t ⟨kin, unread⟩ => ⟨kin, ?_⟩
    by_contra reads
    simp only [not_or, Bool.not_eq_false] at reads
    exact unread (.inl ⟨reads.1, number, reads.2.1, reads.2.2⟩)
  · rename_i number
    apply twin_goOn
    apply (twin_channelData payload m).mono _ (fun _ _ _ => id) fun _ _ => id
    intro h h' twinned
    refine twinned.mono fun s t ⟨kin, unread⟩ => ⟨kin, ?_⟩
    by_contra reads
    simp only [not_or, Bool.not_eq_false] at reads
    exact unread (.inr ⟨reads.1, number, kin.secure secure, (kin.unopened reads.2.1).2, reads.2.2⟩)
  · exact twin_goOnWith (still (twins_channelEnd closeDeadlineMs payload m))
  · exact twin_goOnWith (still (twins_channelEnd closeDeadlineMs payload m))
  · exact still (twins_pure _)

end Dispatch

/-! ## What is read lies inside the packet -/

section Readers

variable {p : List UInt8}

theorem readPty_memOf (rest : Mem) {off : Nat} (inside : off ≤ p.length) (short : p.length ≤ maxPacketLen) :
    readPty (memOf p rest) p.length off = readPty (contents p) p.length off := by
  have small : ∀ {n : Nat}, n ≤ p.length → n + 4 < 4294967296 := by
    intro n le
    unfold maxPacketLen at short
    omega
  unfold readPty contents
  simp only [Option.bind_eq_bind]
  rw [payloadReadStringView_memOf rest (fun _ => 0) (small inside)]
  apply Option.bind_congr
  rintro ⟨term, off₁⟩ read
  have inside₁ := payloadReadStringView_le read
  by_cases few : term.len < 65
  · have same : term.bytes (memOf p rest) = term.bytes (memOf p fun _ => 0) := by
      rw [← payloadReadStringView_memOf rest _ (small inside)] at read
      exact view_memOf _ read (by have := small inside; unfold maxPacketLen at short; omega)
    dsimp only
    rw [same]
    apply Option.bind_congr
    intro _ _
    rw [payloadReadU32_memOf rest (fun _ => 0) (small inside₁)]
    apply Option.bind_congr
    rintro ⟨cols, off₂⟩ first
    have inside₂ := readU32_le first
    dsimp only
    rw [payloadReadU32_memOf rest (fun _ => 0) (small inside₂)]
    apply Option.bind_congr
    rintro ⟨rows, off₃⟩ second
    have inside₃ := readU32_le second
    dsimp only
    rw [payloadReadU32_memOf rest (fun _ => 0) (small inside₃)]
    apply Option.bind_congr
    rintro ⟨width, off₄⟩ third
    have inside₄ := readU32_le third
    dsimp only
    rw [payloadReadU32_memOf rest (fun _ => 0) (small inside₄)]
    apply Option.bind_congr
    rintro ⟨height, off₅⟩ fourth
    dsimp only
    rw [payloadReadStringView_memOf rest (fun _ => 0) (small (readU32_le fourth))]
  · simp [require, few]

theorem readCommand_memOf (rest : Mem) {off : Nat} (inside : off ≤ p.length) (short : p.length ≤ maxPacketLen) :
    readCommand (memOf p rest) p.length off = readCommand (contents p) p.length off := by
  have small : off + 4 < 4294967296 := by
    unfold maxPacketLen at short
    omega
  unfold readCommand contents
  simp only [Option.bind_eq_bind]
  rw [payloadReadStringView_memOf rest (fun _ => 0) small]
  apply Option.bind_congr
  rintro ⟨cmd, off₁⟩ read
  dsimp only
  by_cases few : cmd.len ≤ 512
  · rw [← payloadReadStringView_memOf rest _ small] at read
    rw [view_memOf (fun _ => 0) read (by unfold maxPacketLen at short; omega)]
  · simp [require, few]

theorem takesTerminal_memOf (rest : Mem) (short : p.length ≤ maxPacketLen) :
    takesTerminal p (memOf p rest) = takesTerminal p (contents p) := by
  have limit : p.length + 4 < 4294967296 := by
    unfold maxPacketLen at short
    omega
  unfold takesTerminal
  rw [payloadReadU32_memOf rest (fun _ => 0) (by decide), ← contents]
  cases first : payloadReadU32 (contents p) p.length 1 with
  | none => rfl
  | some got =>
      obtain ⟨chan, off⟩ := got
      have inside := readU32_le first
      dsimp only
      rw [payloadReadStringView_memOf rest (fun _ => 0) (by omega), ← contents]
      cases read : payloadReadStringView (contents p) p.length off with
      | none => rfl
      | some got =>
          obtain ⟨req, off'⟩ := got
          dsimp only
          have name : ∀ word : List UInt8, word.length ≤ 7 → (req.bytes (memOf p rest) = word ↔ req.bytes (contents p) = word) :=
            fun word few => (view_is_memOf rest read (by unfold maxPacketLen at short; omega)).symm
          by_cases fits : off' < p.length
          · rw [readPty_memOf rest (by omega) short, readCommand_memOf rest (by omega) short]
            simp only [name (ascii "pty-req") (by decide), name (ascii "exec") (by decide), name (ascii "shell") (by decide)]
          · simp [fits]

theorem chargesWindow_memOf (rest : Mem) (short : p.length ≤ maxPacketLen) :
    chargesWindow p (memOf p rest) = chargesWindow p (contents p) := by
  unfold chargesWindow
  rw [payloadReadU32_memOf rest (fun _ => 0) (by decide), ← contents]
  cases first : payloadReadU32 (contents p) p.length 1 with
  | none => rfl
  | some got =>
      have inside := readU32_le first
      dsimp only
      rw [payloadReadStringView_memOf rest (fun _ => 0) (by unfold maxPacketLen at short; omega), ← contents]

theorem Common.reads_memOf (known : Common) (rest : Mem) (short : p.length ≤ maxPacketLen) (t : Server) :
    known.Reads p (memOf p rest) t ↔ known.Reads p (contents p) t := by
  unfold Common.Reads
  rw [takesTerminal_memOf rest short, chargesWindow_memOf rest short]

end Readers

/-! ## The loop -/

/-- The event is a packet that reads a leftover. -/
def Common.Touches (known : Common) (e : Event × Server) : Prop :=
  ∃ p, e.1 = .received p ∧ rekeyDue e.2 = false ∧ known.Reads p (contents p) e.2

/-- A packet of the run has read a leftover. -/
def Touched (known : Common) (h : Host Server) : Prop := ∃ e ∈ h.trace, known.Touches e

section Loop

variable {known : Common} {noxtls : Noxtls} {env : Env} {α : Type}

theorem touched_grows {h h' : Host Server} (grows : Grows h h') (touched : Touched known h) : Touched known h' := by
  obtain ⟨new, grown⟩ := grows
  obtain ⟨e, member, touches⟩ := touched
  refine ⟨e, ?_, touches⟩
  rw [grown]
  exact List.mem_append_left _ member

theorem keeps_touched {m : Prog Server α} (grows : Always Grows m) :
    Always (fun h h' => Touched known h → Touched known h') m :=
  always_mono grows fun _ _ => touched_grows

theorem twins_still {m m' : Prog Server α} (twins : ∀ opened, Twins (Twinned (Kin (known.opening opened)) display) m m') :
    Twins (StillKin known) m m' := by
  apply twin_of_alike
  rintro h h' ⟨opened, twinned⟩
  exact ((twins opened).alike h h' twinned).mono (fun _ _ _ twinned => ⟨opened, twinned⟩) fun _ _ twinned => ⟨opened, twinned⟩

theorem twins_packetReady (closeDeadlineMs : Nat) :
    Twins (Twinned (Kin known) display) (packetReady env closeDeadlineMs) (packetReady env closeDeadlineMs) := by
  apply twins_ite Iff.rfl _ (twins_pure _)
  apply twins_bind (twin_ask _)
  intro now
  apply twin_self_bind
  intro s t kin
  rw [kin.transportFd]
  apply twins_ite Iff.rfl (twins_pure _)
  apply twins_ite Iff.rfl (twins_pure _)
  apply twins_bind (twin_ask _)
  intro answer
  cases answer with
  | interrupted => exact twins_pure _
  | error => exact twins_pure _
  | timeout => exact twins_pure _
  | ready transport output =>
      apply twins_ite Iff.rfl (twins_pure _)
      exact twins_ite Iff.rfl (twins_pure _) (twins_pure _)

/-- What came in stands at the end of the trace. -/
theorem heard_attempt (h : Host Server) (got : Option (List UInt8 × Mem)) (h' : Host Server)
    (ran : (attempt (recvInto noxtls env maxPacketLen)).run h = (.ok got, h')) :
    ∀ p m, got = some (p, m) →
      (∃ rest, m = memOf p rest) ∧ p.length ≤ maxPacketLen ∧ (.received p, h'.self) ∈ h'.trace := by
  rintro p m rfl
  rw [attempt_run] at ran
  rcases recvInto_cases noxtls env background_dull (fun _ => rfl) passive_channel maxPacketLen h with
    ⟨payload, rest, h₁, t, received, short, -⟩ | ⟨o, h₁, failed, other, -⟩
  · rw [received] at ran
    simp only [Prod.mk.injEq, Outcome.ok.injEq, Option.some.injEq] at ran
    obtain ⟨⟨rfl, rfl⟩, rfl⟩ := ran
    exact ⟨⟨rest, rfl⟩, short, by simp⟩
  · rw [failed] at ran
    cases o with
    | ok a => exact absurd rfl (other a)
    | err e => simp at ran
    | stuck => simp at ran

/-- The part of a turn behind the receive. -/
theorem twin_taken (session : known.session) (secure : known.secure) (turns closeDeadlineMs : Nat)
    (payload : List UInt8) (m : Mem) :
    Twin (Twinned (fun s t => Kin known s t ∧ (rekeyDue t = false → ¬ known.Reads payload m t)) display)
      (do
        ensure (rekeyDue (← self) = false) .failed
        dispatch noxtls env turns closeDeadlineMs payload m)
      (do
        ensure (rekeyDue (← self) = false) .failed
        dispatch noxtls env turns closeDeadlineMs payload m)
      (fun _ => StillKin known) (StillKin known) := by
  apply twin_self_exact_bind
  rintro s t ⟨kin, unread⟩
  have same : ∀ h h', Twinned (fun s' t' => s' = s ∧ t' = t) display h h' → StillKin known h h' := by
    intro h h' twinned
    exact still_of_twinned (twinned.mono fun s' t' ⟨is, is'⟩ => is ▸ is' ▸ kin)
  apply twin_ensure_bind _ (by rw [kin.rekeyDue]) same
  intro _ early
  apply (twin_dispatch session secure turns closeDeadlineMs payload m).mono _ (fun _ _ _ => id) fun _ _ => id
  intro h h' twinned
  refine twinned.mono fun s' t' ⟨is, is'⟩ => ?_
  rw [is, is']
  exact ⟨kin, unread early⟩

theorem grows_taken (turns closeDeadlineMs : Nat) (payload : List UInt8) (m : Mem) :
    Always Grows (do
      ensure (rekeyDue (← self) = false) .failed
      dispatch noxtls env turns closeDeadlineMs payload m) := by
  apply always_bind grows_order (always_grows always_self)
  intro s
  apply always_bind grows_order (always_ensure grows_order _ _)
  exact fun _ => grows_dispatch turns closeDeadlineMs payload m

/-- A turn: if the packet reads no leftover it is dispatched alike. -/
theorem twin_serveTurn (session : known.session) (secure : known.secure) (turns closeDeadlineMs : Nat) :
    TwinUnless (Touched known) (Twinned (Kin known) display) (serveTurn noxtls env turns closeDeadlineMs)
      (serveTurn noxtls env turns closeDeadlineMs) (fun _ => StillKin known) (StillKin known) := by
  have receives : Twins (Twinned (Kin known) display) (recvInto noxtls env maxPacketLen) (recvInto noxtls env maxPacketLen) :=
    twins_recvInto maxPacketLen
  have received := (twin_attempt receives).ran heard_attempt
  apply twin_bind (received.mono (fun _ _ => id) (fun _ _ _ => id) fun _ _ => still_of_twinned)
  intro got
  cases got with
  | none => exact twin_pure Next.done fun h h' both => still_of_twinned both.1
  | some got =>
      obtain ⟨payload, m⟩ := got
      dsimp only
      by_cases empty : payload = []
      · rw [if_pos empty]
        exact twin_pure (Next.again closeDeadlineMs) fun h h' both => still_of_twinned both.1
      rw [if_neg empty]
      apply twinUnless_cases (C := fun h => (.received payload, h.self) ∈ h.trace ∧ rekeyDue h.self = false ∧
        known.Reads payload (contents payload) h.self)
      · rintro h ⟨member, early, reads⟩
        exact keeps_touched (grows_taken turns closeDeadlineMs payload m) h ⟨_, member, payload, rfl, early, reads⟩
      · apply TwinUnless.unless
        apply (twin_taken session secure turns closeDeadlineMs payload m).mono _ (fun _ _ _ => id) fun _ _ => id
        rintro h h' ⟨⟨twinned, heard⟩, free⟩
        obtain ⟨⟨rest, rfl⟩, short, member⟩ := heard payload m rfl
        refine ⟨⟨twinned.self, fun early reads => ?_⟩, twinned.tick, twinned.inbox, twinned.trace⟩
        exact free ⟨member, early, (known.reads_memOf rest short _).1 reads⟩

/-- The loop: the same turns in both, as long as no packet reads a leftover. -/
theorem twin_serveLoop (session : known.session) (secure : known.secure) (sessionTurns : Nat) :
    ∀ turns closeDeadlineMs, TwinUnless (Touched known) (StillKin known)
      (serveLoop noxtls env sessionTurns turns closeDeadlineMs) (serveLoop noxtls env sessionTurns turns closeDeadlineMs)
      (fun _ => StillKin known) (StillKin known) := by
  have turn : ∀ closeDeadlineMs, TwinUnless (Touched known) (StillKin known)
      (serveTurn noxtls env sessionTurns closeDeadlineMs) (serveTurn noxtls env sessionTurns closeDeadlineMs)
      (fun _ => StillKin known) (StillKin known) := by
    intro closeDeadlineMs
    constructor
    rintro h h' ⟨opened, twinned⟩
    exact (@twin_serveTurn (known.opening opened) _ _ session secure sessionTurns closeDeadlineMs).runs h h' twinned
  intro turns
  induction turns with
  | zero => exact fun _ => twin_stall fun _ _ => id
  | succ turns ih =>
      intro closeDeadlineMs
      rw [serveLoop]
      apply twin_bind (twins_still fun opened => twin_log (shown_other (e := .serving closeDeadlineMs) (by simp)))
      intro _
      apply twin_bind (twins_still fun opened => twins_packetReady closeDeadlineMs)
      intro ready
      cases ready with
      | retry => exact ih closeDeadlineMs
      | «over» => exact twin_pure () fun _ _ => id
      | error => exact twin_fail _ fun _ _ => id
      | readable =>
          apply twinUnless_bind (turn closeDeadlineMs)
          · intro next
            cases next with
            | done => exact twin_pure () fun _ _ => id
            | again closeDeadlineMs => exact ih closeDeadlineMs
          · intro next
            cases next with
            | done => exact keeps_touched (always_pure grows_order ())
            | again closeDeadlineMs => exact keeps_touched (grows_serveLoop _ _ _)

/-- What is known once the handshake is over. -/
def Common.encrypted (known : Common) : Common :=
  { known with kexinit := True, session := True, keys := True, secure := True }

/-- A connection, from the clock to the end of the loop. -/
theorem twin_serveOne (turns : Nat) :
    TwinUnless (Touched known) (Twinned (Kin known) display) (serveOne noxtls env turns) (serveOne noxtls env turns)
      (fun _ => Loose known.setup) (Loose known.setup) := by
  have loose : ∀ h h', StillKin known.encrypted h h' → Loose known.setup h h' := by
    rintro h h' ⟨opened, twinned⟩
    have loosened : Loose (known.encrypted.opening opened).setup h h' := loosen twinned
    exact loosened
  have loop : TwinUnless (Touched known) (StillKin known.encrypted) (serveLoop noxtls env turns turns 0)
      (serveLoop noxtls env turns turns 0) (fun _ => StillKin known.encrypted) (StillKin known.encrypted) :=
    @twin_serveLoop known.encrypted _ _ trivial trivial turns turns 0
  have arm : ∀ deadlineMs, Twins (Twinned (Kin known) display) (modify (setHandshakeDeadline deadlineMs))
      (modify (setHandshakeDeadline deadlineMs)) :=
    fun _ => twins_modify fun s t kin => { kin with handshakeDeadlineMs := rfl }
  apply twin_bind (twin_loose (twin_ask _))
  intro now
  apply twin_bind (twin_loose (arm _))
  intro _
  apply twin_bind (twin_handshakeToEncrypted.failAs _)
  intro _
  constructor
  intro h h' twinned
  exact (loop.mono (fun _ _ => id) (fun _ => loose) loose).runs h h' ⟨known.opened, twinned⟩

end Loop

/-! ## Contexts that are used again -/

/-- What a fresh context and a used one have in common: the settings, and a leftover
that is what it is in a fresh one. -/
def leftover (setup : Setup) (used : Server) : Common where
  setup := setup
  terminal := used.wantPty = false
  window := used.localWindowSize = 0
  opened := False
  kexinit := False
  session := False
  keys := False
  secure := False

/-- What a context has in common with itself. -/
def everything (setup : Setup) : Common where
  setup := setup
  terminal := True
  window := True
  opened := True
  kexinit := True
  session := True
  keys := True
  secure := False

theorem kin_self {setup : Setup} {s : Server} (rooted : Rooted setup s) : Kin (everything setup) s s := by
  constructor <;> intros <;> first
    | rfl
    | exact ⟨rfl, rfl⟩
    | exact ⟨rfl, rfl, rfl⟩
    | exact ⟨rfl, rfl, rfl, rfl, rfl, rfl⟩
    | exact rooted.given
    | exact rooted.ownChannel
    | exact absurd trivial ‹_›
    | exact absurd ‹_› id

/-- A reset context has the settings it had, and no more than the leftovers differ. -/
theorem kin_reset {setup : Setup} {s : Server} (rooted : Rooted setup s) :
    Kin (leftover setup (reset s)) (reset s) setup.server := by
  obtain ⟨rfl, own⟩ := rooted
  constructor <;> intros <;> first
    | rfl
    | exact own
    | exact ⟨rfl, rfl⟩
    | exact absurd ‹_› id
    | skip
  · rename_i plain
    have plain : s.wantPty = false := plain
    show (if s.wantPty then _ else none) = none
    rw [plain]
    rfl
  · rename_i near
    exact near.elim id False.elim

/-- No connection changes the settings. -/
theorem rooted_serveOne {setup : Setup} {s : Server} (rooted : Rooted setup s) (noxtls : Noxtls) (env : Env)
    (inbox : List UInt8) (turns : Nat) : Rooted setup ((serveOne noxtls env turns).run ⟨s, 0, inbox, []⟩).2.self := by
  have run := (@twin_serveOne (everything setup) noxtls env turns).runs ⟨s, 0, inbox, []⟩ ⟨s, 0, inbox, []⟩
    ⟨kin_self rooted, rfl, rfl, rfl⟩
  rcases run with ⟨e, -, p, -, -, reads⟩ | alike
  · rcases reads with ⟨unknown, -⟩ | ⟨unknown, -⟩ <;> exact absurd trivial unknown
  · revert alike
    rcases (serveOne noxtls env turns).run ⟨s, 0, inbox, []⟩ with ⟨o, h⟩
    cases o with
    | ok a => exact fun alike => alike.2.self
    | err e => exact fun alike => alike.2.self
    | stuck => exact fun alike => alike.self

/-- The contexts a daemon serves with: a fresh one, and one that was reset after a
connection. -/
inductive Used (noxtls : Noxtls) (setup : Setup) : Server → Prop
  | fresh : Used noxtls setup setup.server
  | reset {s : Server} (env : Env) (inbox : List UInt8) (turns : Nat) (used : Used noxtls setup s)
      (finished : ((serveOne noxtls env turns).run ⟨s, 0, inbox, []⟩).1 ≠ .stuck) :
      Used noxtls setup (reset ((serveOne noxtls env turns).run ⟨s, 0, inbox, []⟩).2.self)

theorem rooted_of_used {noxtls : Noxtls} {setup : Setup} {s : Server} (used : Used noxtls setup s) : Rooted setup s := by
  induction used with
  | fresh => exact ⟨rfl, rfl⟩
  | reset env inbox turns used finished ih =>
      obtain ⟨given, own⟩ := rooted_serveOne ih noxtls env inbox turns
      exact ⟨given, own⟩

theorem kin_of_used {noxtls : Noxtls} {setup : Setup} {s : Server} (used : Used noxtls setup s) :
    Kin (leftover setup s) s setup.server := by
  cases used with
  | fresh => exact kin_reset (s := setup.server) ⟨rfl, rfl⟩
  | reset env inbox turns used finished => exact kin_reset (rooted_serveOne (rooted_of_used used) noxtls env inbox turns)

/-- The event is a packet on which a leftover of `used` matters: a terminal is set or a
session starts while `want_pty` is left over, or channel data is charged to a leftover
window before this connection has opened a channel. -/
def touches (used : Server) (e : Event × Server) : Bool :=
  match e.1 with
  | .received p =>
      !rekeyDue e.2 &&
        ((used.wantPty && p.head? = some 98 && e.2.channelOpen && takesTerminal p (contents p)) ||
          (used.localWindowSize ≠ 0 && p.head? = some 94 && e.2.keyExchangeComplete &&
            e.2.remoteMaxPacketSize = 0 && chargesWindow p (contents p)))
  | _ => false

theorem touches_iff {setup : Setup} {used : Server} {e : Event × Server} :
    (leftover setup used).Touches e ↔ touches used e = true := by
  obtain ⟨event, s⟩ := e
  unfold Common.Touches Common.Reads touches leftover
  cases event <;> simp [and_assoc]

/-- What a connection shows: how it ends, what goes out and what is started, with its
terminal. -/
def shows (noxtls : Noxtls) (env : Env) (s : Server) (inbox : List UInt8) (turns : Nat) :
    Outcome NetnoxReturn Unit × List (Event × Option Pty) :=
  (((serveOne noxtls env turns).run ⟨s, 0, inbox, []⟩).1,
    ((serveOne noxtls env turns).run ⟨s, 0, inbox, []⟩).2.trace.map display)

/-- **A reset context serves as a fresh one.**  Whatever the earlier connections were,
with the same client, clock, randomness and children the connection is the one that a
fresh context would have had, if no packet of that one reads a leftover. -/
theorem reset_serves {noxtls : Noxtls} {setup : Setup} {used : Server} (reused : Used noxtls setup used) (env : Env)
    (inbox : List UInt8) (turns : Nat)
    (untouched : ∀ e ∈ (served noxtls env setup inbox turns).trace, touches used e = false) :
    shows noxtls env used inbox turns = shows noxtls env setup.server inbox turns := by
  have run := (@twin_serveOne (leftover setup used) noxtls env turns).runs ⟨used, 0, inbox, []⟩
    ⟨setup.server, 0, inbox, []⟩ ⟨kin_of_used reused, rfl, rfl, rfl⟩
  rcases run with ⟨e, member, reads⟩ | alike
  · have quiet := untouched e member
    rw [touches_iff.1 reads] at quiet
    cases quiet
  · unfold shows
    revert alike
    rcases (serveOne noxtls env turns).run ⟨used, 0, inbox, []⟩ with ⟨o, h⟩
    rcases (serveOne noxtls env turns).run ⟨setup.server, 0, inbox, []⟩ with ⟨o', h'⟩
    cases o <;> cases o' <;> try exact False.elim
    · exact fun alike => Prod.ext rfl alike.2.trace
    · rintro ⟨rfl, twinned⟩
      exact Prod.ext rfl twinned.trace
    · exact fun twinned => Prod.ext rfl twinned.trace

namespace Probe

def ptyRequest : List UInt8 :=
  [98] ++ be32 0 ++ sshString (ascii "pty-req") ++ [1] ++ sshString (ascii "xterm") ++ be32 80 ++ be32 24 ++ be32 0 ++
    be32 0 ++ sshString []

def shellRequest : List UInt8 := [98] ++ be32 0 ++ sshString (ascii "shell") ++ [1]

/-- The context after a client that asked for a terminal and left. -/
def worn : Server :=
  reset ((serveOne Sample.plain brisk 8).run ⟨setup.server, 0, stream [openWith 5 1000, ptyRequest, [1]], []⟩).2.self

/-- What is left of the first client: its terminal, its channel, and the keys, which
the next client replaces. -/
theorem worn_run :
    ((serveOne Sample.plain brisk 8).run ⟨setup.server, 0, stream [openWith 5 1000, ptyRequest, [1]], []⟩).1 ≠ .stuck ∧
      worn = { setup.server with
        wantPty := true, term := ascii "xterm", ptyCols := 80, ptyRows := 24
        remoteChannelId := 5, localWindowSize := 65536, remoteWindowSize := 1000, remoteMaxPacketSize := 32768
        kexinitClientPayload := worn.kexinitClientPayload, kexinitServerPayload := worn.kexinitServerPayload
        sessionId := worn.sessionId, sessionIdLen := 32
        c2sIv := worn.c2sIv, s2cIv := worn.s2cIv, c2sKey := worn.c2sKey, s2cKey := worn.s2cKey
        c2sMacKey := worn.c2sMacKey, s2cMacKey := worn.s2cMacKey
        c2sCounter := worn.c2sCounter, s2cCounter := worn.s2cCounter } := by
  rw [worn, stream_eq]
  decide +kernel

theorem worn_used : Used Sample.plain setup worn := .reset brisk _ 8 .fresh worn_run.1

end Probe

/-- A worn context serves a client that only makes itself known as a fresh one does. -/
theorem reset_serves_worn :
    (∀ e ∈ (served Sample.plain Probe.brisk Probe.setup (Probe.stream [Probe.openWith 5 1000, [1]]) 8).trace,
      touches Probe.worn e = false) ∧ Probe.worn.wantPty = true ∧
    shows Sample.plain Probe.brisk Probe.worn (Probe.stream [Probe.openWith 5 1000, [1]]) 8 =
      shows Sample.plain Probe.brisk Probe.setup.server (Probe.stream [Probe.openWith 5 1000, [1]]) 8 := by
  have run : (∀ e ∈ (served Sample.plain Probe.brisk Probe.setup (Probe.stream [Probe.openWith 5 1000, [1]]) 8).trace,
      touches Probe.worn e = false) ∧ Probe.worn.wantPty = true := by
    rw [Probe.worn_run.2, Probe.stream_eq]
    decide +kernel
  exact ⟨run.1, run.2, reset_serves Probe.worn_used _ _ _ run.1⟩

/-- The next client asks for a shell without a terminal, and gets one with the terminal
of the client before. -/
theorem reset_keeps_terminal :
    ¬ ∀ (noxtls : Noxtls) (setup : Setup) (used : Server), Used noxtls setup used →
      ∀ (env : Env) (inbox : List UInt8) (turns : Nat),
        shows noxtls env used inbox turns = shows noxtls env setup.server inbox turns := by
  intro same
  have same := same Sample.plain Probe.setup Probe.worn Probe.worn_used Probe.brisk
    (Probe.stream [Probe.openWith 5 1000, Probe.shellRequest]) 8
  have run :
      (Event.sessionStarted none, some ⟨ascii "xterm", 80, 24, 0, 0⟩) ∈
          (shows Sample.plain Probe.brisk Probe.worn (Probe.stream [Probe.openWith 5 1000, Probe.shellRequest]) 8).2 ∧
        (Event.sessionStarted none, some ⟨ascii "xterm", 80, 24, 0, 0⟩) ∉
          (shows Sample.plain Probe.brisk Probe.setup.server
            (Probe.stream [Probe.openWith 5 1000, Probe.shellRequest]) 8).2 := by
    rw [Probe.worn_run.2, Probe.stream_eq]
    decide +kernel
  rw [same] at run
  exact run.2 run.1

end NoxSsh.Server
