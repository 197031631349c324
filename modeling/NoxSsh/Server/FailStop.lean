/-
# Server.FailStop — what the server does after a send that failed

A failed send may have moved the cipher counter without the sequence number and left
half a packet on the wire.  Almost every caller passes the failure on, through
`serve_one` to the application.  Two do not: a refused channel request and channel
data outside a session drop the result of their answer, and the loop receives the
next packet.

So a run breaks off at the first failed send (`fail_stop`), unless that send was one
of the two (`Heeded`).
-/
import NoxSsh.Server.Rekey

namespace NoxSsh.Server

open Theory Proc Wire Transport

set_option autoImplicit false

/-! ## Runs that break off -/

/-- Nothing is sent. -/
abbrev Wordless : Host Server → Host Server → Prop := Quiet (fun e => report? e = none) fun _ => ()

section Utterance

variable {noxtls : Noxtls} {env : Env} {α β : Type} {lost : Option UInt8 → α → Prop} {lost' : Option UInt8 → β → Prop}
  {m : Prog Server α} {k : α → Prog Server β}

theorem wordless_order : StepOrder Wordless := quiet_order _ _

theorem wordless_modify (f : Server → Server) : Always Wordless (modify f) := always_modify fun _ => rfl

/-- A step before that sends nothing. -/
theorem spoken_after (first : Always Wordless m) (second : ∀ x, Spoken noxtls env lost' (k x)) :
    Spoken noxtls env lost' (m >>= k) :=
  spoken_bind (spoken_quiet first) second

theorem spoken_pure (x : α) : Spoken noxtls env lost (pure x : Prog Server α) :=
  spoken_quiet (always_pure wordless_order x)

theorem spoken_fail (e : NetnoxReturn) : Spoken noxtls env lost (fail e : Prog Server α) :=
  spoken_quiet (always_fail wordless_order e)

theorem spoken_stall : Spoken noxtls env lost (stall : Prog Server α) :=
  spoken_quiet (always_stall wordless_order)

theorem Utterance.after {h t : Host Server} {new : List (Event × Server)} {r : Outcome NetnoxReturn α × Host Server}
    (speech : Utterance noxtls env lost t r) (grown : t.trace = h.trace ++ new) (first : Answered new) :
    Utterance noxtls env lost h r := by
  rcases speech with ⟨new', grown', answered⟩ | ⟨payload, broken, ends⟩
  · exact .inl ⟨new ++ new', by rw [grown', grown, List.append_assoc], first.append answered⟩
  · exact .inr ⟨payload, broken.after grown first, ends⟩

theorem background_wordless : Background fun e => report? e = none :=
  ⟨⟨fun _ => rfl, rfl, rfl⟩, fun _ _ => rfl, fun _ _ => rfl⟩

theorem wordless_recvInto (payloadMax : Nat) : Always Wordless (recvInto noxtls env payloadMax) :=
  always_recvInto background_wordless passive_unit ⟨fun _ => rfl, fun _ => rfl⟩ _

end Utterance

/-! ## The handshake -/

section Handshake

variable {noxtls : Noxtls} {env : Env}

theorem spoken_send {β : Type} {lost : Option UInt8 → β → Prop} {k : Unit → Prog Server β} (payload : List UInt8)
    (rest : Spoken noxtls env lost (k ())) :
    Spoken noxtls env lost (failAs .failed (sendPacket noxtls env payload) >>= k) :=
  spoken_bind (spoken_failAs _ (spoken_sendPacket noxtls env payload)) fun _ => rest

theorem spoken_ensure {β : Type} {lost : Option UInt8 → β → Prop} {k : Unit → Prog Server β} {c : Prop} [Decidable c]
    {e : NetnoxReturn} (rest : Spoken noxtls env lost (k ())) : Spoken noxtls env lost (ensure c e >>= k) :=
  spoken_after (always_ensure wordless_order c e) fun _ => rest

theorem spoken_exchangeKexinit : Spoken noxtls env never (exchangeKexinit noxtls env) := by
  refine spoken_after always_self fun s => spoken_ensure ?_
  refine spoken_after (always_failAs _ (wordless_recvInto _)) fun got => spoken_ensure (spoken_ensure ?_)
  refine spoken_after (always_modify fun _ => rfl) fun _ => spoken_ensure ?_
  refine spoken_after (always_failAs _ always_buildKexinit) fun tx => spoken_ensure ?_
  refine spoken_after (always_modify fun _ => rfl) fun _ => spoken_send tx ?_
  exact spoken_quiet (wordless_modify _)

theorem spoken_performCurve25519Kex : Spoken noxtls env never (performCurve25519Kex noxtls env) := by
  refine spoken_after always_self fun s => spoken_ensure ?_
  refine spoken_after (always_failAs _ (wordless_recvInto _)) fun got => spoken_ensure ?_
  refine spoken_after (always_lift wordless_order _ _) fun pub => spoken_ensure ?_
  refine spoken_after (always_replyTo (fun _ _ _ => rfl) _) fun reply => ?_
  refine spoken_send reply (spoken_send [21] ?_)
  refine spoken_after (always_failAs _ (wordless_recvInto _)) fun rx => spoken_ensure ?_
  refine spoken_after (always_failAs _ ?_) fun _ => spoken_quiet (wordless_modify _)
  refine always_bind wordless_order always_self fun s => ?_
  refine always_bind wordless_order (always_ensure wordless_order _ _) fun _ => ?_
  exact always_bind wordless_order (always_lift wordless_order _ _) fun keys => always_modify fun _ => rfl

theorem spoken_handshakeToEncrypted : Spoken noxtls env never (handshakeToEncrypted noxtls env) := by
  have plumbing := background_wordless.toPlumbing
  refine spoken_after always_self fun s => spoken_ensure ?_
  refine spoken_after (always_readIdent plumbing (fun _ => rfl) (fun _ _ => rfl) _) fun _ => ?_
  refine spoken_after always_self fun s => spoken_ensure ?_
  refine spoken_after (always_failAs _ (always_sendAll plumbing _)) fun _ => ?_
  refine spoken_after (always_modify fun _ => rfl) fun _ => ?_
  exact spoken_bind (spoken_failAs _ spoken_exchangeKexinit) fun _ => spoken_failAs _ spoken_performCurve25519Kex

end Handshake

/-! ## The session -/

section Session

variable {noxtls : Noxtls} {env : Env}

theorem spoken_sessionTurn (child : Child) :
    Spoken noxtls env (fun _ turn => turn = .broken false) (sessionTurn noxtls env child) := by
  have goesOn : ∀ ready, Spoken noxtls env (fun _ turn => turn = .broken false)
      (sessionChild noxtls env child ready) := fun ready => (talks_sessionChild child ready).spoken
  refine spoken_after always_self fun s => spoken_ite (spoken_pure _) ?_
  refine spoken_after (always_ask _) fun answer => ?_
  cases answer with
  | interrupted => exact spoken_pure _
  | error => exact spoken_pure _
  | timeout => exact spoken_ite (goesOn _) (spoken_pure _)
  | ready transport output =>
      refine spoken_ite (spoken_pure _) (spoken_ite ?_ (goesOn _))
      refine spoken_after (always_attempt (wordless_recvInto _)) fun got => ?_
      cases got with
      | none => exact spoken_pure _
      | some got => exact (talks_sessionAnswer child _ got.1 got.2).spoken

theorem spoken_sessionLoop (turns : Nat) : ∀ child, Spoken noxtls env never (sessionLoop noxtls env turns child) := by
  induction turns with
  | zero => exact fun child => spoken_stall
  | succ turns ih =>
      intro child
      refine spoken_bind_lost (spoken_sessionTurn child) (fun turn => ?_) ?_
      · cases turn with
        | again child => exact ih child
        | complete => exact spoken_pure _
        | broken peerClosed =>
            refine spoken_after (always_modify fun _ => rfl) fun _ => ?_
            exact spoken_ite (spoken_pure _) (spoken_fail _)
      · rintro _ _ rfl h
        exact ⟨rfl, .inl ⟨.failed, rfl⟩⟩

theorem spoken_runSessionUnix (turns : Nat) (command : Option (List UInt8)) :
    Spoken noxtls env never (runSessionUnix noxtls env turns command) := by
  refine spoken_after always_self fun s => spoken_ensure ?_
  refine spoken_after (always_log rfl) fun _ => spoken_after (always_modify fun _ => rfl) fun _ => ?_
  exact spoken_after (always_ask _) fun forked => spoken_ensure (spoken_sessionLoop turns _)

/-! ## A channel request -/

theorem spoken_runAndClose (turns : Nat) (wantReply : Bool) (command : Option (List UInt8)) (closeDeadlineMs : Nat) :
    Spoken noxtls env never (runAndClose noxtls env turns wantReply command closeDeadlineMs) := by
  refine spoken_bind (talks_confirm wantReply).spoken fun _ => ?_
  refine spoken_bind (spoken_failAs _ (spoken_runSessionUnix turns command)) fun _ => ?_
  have wait : Always Wordless (beginCloseWait env closeDeadlineMs) := always_beginCloseWait _
  exact spoken_quiet (always_failAs _ wait)

theorem spoken_channelRequest (turns closeDeadlineMs : Nat) (payload : List UInt8) (m : Mem) :
    Spoken noxtls env (fun n _ => n = some 100) (channelRequest noxtls env turns closeDeadlineMs payload m) := by
  have refuses : ∀ wantReply, Spoken noxtls env (fun n _ => n = some 100) (do
      refuse noxtls env wantReply
      pure closeDeadlineMs) := fun wantReply =>
    spoken_bind_lost (talks_refuse wantReply).spoken (fun _ => spoken_pure _) fun _ _ may _ => ⟨rfl, .inr ⟨_, rfl, may⟩⟩
  have ends : ∀ wantReply command, Spoken noxtls env (fun n _ => n = some 100)
      (runAndClose noxtls env turns wantReply command closeDeadlineMs) := fun wantReply command h =>
    (spoken_runAndClose turns wantReply command closeDeadlineMs h).mono fun _ _ may => may.elim
  refine spoken_after always_self fun s => spoken_ite (spoken_pure _) ?_
  refine spoken_after (always_lift wordless_order _ _) fun chan => spoken_ite (spoken_pure _) ?_
  refine spoken_after (always_lift wordless_order _ _) fun req => spoken_ensure ?_
  refine spoken_after always_self fun s => spoken_ite ?_ (spoken_ite ?_ (spoken_ite ?_ (refuses _)))
  · split
    · exact refuses _
    · refine spoken_after (always_modify fun _ => rfl) fun _ => ?_
      exact spoken_bind (talks_confirm _).spoken fun _ => spoken_pure _
  · split
    · exact refuses _
    · exact ends _ _
  · exact spoken_ite (refuses _) (ends _ _)

end Session

/-! ## The two answers nobody looks at -/

/-- Where the loops begin: `serve_one` is false, a session is true. -/
def mark? : Event → Option Bool
  | .serving _ => some false
  | .sessionStarted _ => some true
  | _ => none

/-- Does the trace end inside a session? -/
def inSession (before : List (Event × Server)) : Bool := (pick mark? before).getLast? = some true

/-- No CHANNEL_FAILURE failed to be sent, and no WINDOW_ADJUST outside a session. -/
def Heeded (trace : List (Event × Server)) : Prop :=
  ∀ before payload s after, trace = before ++ (.sending payload, s) :: after → Unanswered payload after →
    payload.head? ≠ some 100 ∧ (payload.head? = some 93 → inSession before = true)

section Loop

variable {noxtls : Noxtls} {env : Env}

/-- From `h` the run passed over a failed send. -/
def Lapse (noxtls : Noxtls) (env : Env) (h h' : Host Server) : Prop :=
  ∃ payload, BrokenOff noxtls env payload h h' ∧ (payload.head? = some 100 ∨
    (payload.head? = some 93 ∧ Quiet (fun e => mark? e = none) (fun _ => ()) h h'))

/-- The failed call is the end of the trace. -/
theorem BrokenOff.last {payload : List UInt8} {h h' : Host Server} (broken : BrokenOff noxtls env payload h h') :
    ∃ before s inside, h'.trace = h.trace ++ before ++ (.sending payload, s) :: inside ∧ Answered before ∧
      (∀ e ∈ inside, isInside e.1 = true) ∧ ∃ h₀ h₁ e, h₀.trace = h.trace ++ before ∧
        (sendPacket noxtls env payload).run h₀ = (.err e, h₁) ∧ h'.trace = h₁.trace := by
  obtain ⟨before, h₀, h₁, e, some, begun, answered, call, ended⟩ := broken
  obtain ⟨inside, kept, cases⟩ := sendPacket_split noxtls env some h₀
  rw [call] at cases
  rcases cases with ⟨-, -, grown, -⟩ | ⟨is, -⟩
  · refine ⟨before, h₀.self, inside, ?_, answered, fun e mem => (kept e mem).1, h₀, h₁, e, begun, call, ended⟩
    rw [ended, ← begun]
    exact grown
  · cases is

/-- Nothing but a new turn follows. -/
def TurnsOver (h h' : Host Server) : Prop :=
  ∃ more, h'.trace = h.trace ++ more ∧ ∀ e ∈ more.head?, ∃ d, e.1 = .serving d

theorem turnsOver_refl (h : Host Server) : TurnsOver h h := ⟨[], by simp, by simp⟩

theorem turnsOver_log {β : Type} {k : Unit → Prog Server β} (closeDeadlineMs : Nat) (rest : Always Grows (k ()))
    (h : Host Server) : TurnsOver h ((log (.serving closeDeadlineMs) >>= k).run h).2 := by
  obtain ⟨more, grown⟩ := rest { h with trace := h.trace ++ [(.serving closeDeadlineMs, h.self)] }
  refine ⟨(.serving closeDeadlineMs, h.self) :: more, ?_, ?_⟩
  · rw [log_bind_run, grown, List.append_assoc, List.singleton_append]
  · intro e mem
    rw [List.head?_cons, Option.mem_some_iff] at mem
    exact ⟨closeDeadlineMs, by rw [← mem]⟩

theorem turnsOver_serveLoop (sessionTurns turns closeDeadlineMs : Nat) (h : Host Server) :
    TurnsOver h ((serveLoop noxtls env sessionTurns turns closeDeadlineMs).run h).2 := by
  cases turns with
  | zero => exact turnsOver_refl h
  | succ turns =>
      refine turnsOver_log closeDeadlineMs ?_ h
      refine always_bind grows_order (always_grows (always_packetReady _)) fun ready => ?_
      cases ready with
      | retry => exact grows_serveLoop _ _ _
      | «over» => exact always_pure grows_order _
      | error => exact always_fail grows_order _
      | readable =>
          refine always_bind grows_order (grows_serveTurn _ _) fun next => ?_
          cases next with
          | done => exact always_pure grows_order _
          | again closeDeadlineMs => exact grows_serveLoop _ _ _

/-- A lapse outside a session is not heeded. -/
theorem Lapse.unheeded {h t u : Host Server} (lapse : Lapse noxtls env h t) (rest : TurnsOver t u)
    (outside : inSession h.trace = false) : ¬ Heeded u.trace := by
  intro heeded
  obtain ⟨payload, broken, which⟩ := lapse
  obtain ⟨before, s, inside, is, -, calls, -⟩ := broken.last
  obtain ⟨more, grown, opens⟩ := rest
  have unanswered : Unanswered payload (inside ++ more) := by
    rw [Unanswered, answer_inside calls]
    cases more with
    | nil => exact fun is => by cases is
    | cons e more =>
        obtain ⟨d, serving⟩ := opens e (by simp)
        rw [answer, List.dropWhile_cons_of_neg (by simp [serving, isInside]), List.head?_cons, Option.map_some, serving]
        exact fun is => by cases is
  obtain ⟨other, inside'⟩ := heeded (h.trace ++ before) payload s (inside ++ more) (by rw [grown, is]; simp) unanswered
  rcases which with number | ⟨number, -, new, is', unmarked⟩
  · exact other number
  · have session := inside' number
    have begun : new = before ++ (.sending payload, s) :: inside := by
      rw [is', List.append_assoc] at is
      exact List.append_cancel_left is
    have none : pick mark? before = [] := pick_eq_nil fun e mem => (unmarked e (by rw [begun]; simp [mem])).1
    rw [inSession, pick_append, none, List.append_nil] at session
    rw [inSession, session] at outside
    cases outside

theorem unmarked_channelData (closeDeadlineMs : Nat) (payload : List UInt8) (m : Mem) :
    Always (Quiet (fun e => mark? e = none) fun _ => ()) (goOn closeDeadlineMs (channelData noxtls env payload m)) := by
  have order := quiet_order (fun e => mark? e = none) fun _ : Server => ()
  have background : Background fun e => mark? e = none :=
    ⟨⟨fun _ => rfl, rfl, rfl⟩, fun _ _ => rfl, fun _ _ => rfl⟩
  have chatter : Chatter fun e => mark? e = none := ⟨background, fun _ _ _ _ => ⟨rfl, rfl⟩⟩
  exact always_bind order (always_channelData chatter.channel steady_unit payload m) fun _ => always_pure order _

/-- Of the messages in `serve_one`, two kinds may pass over a failed send. -/
theorem dispatch_speech (turns closeDeadlineMs : Nat) (payload : List UInt8) (m : Mem) (h : Host Server) :
    Utterance noxtls env never h ((dispatch noxtls env turns closeDeadlineMs payload m).run h) ∨
      Lapse noxtls env h ((dispatch noxtls env turns closeDeadlineMs payload m).run h).2 := by
  by_cases data : payload.head? = some 94
  · rcases (talks_dispatch_data turns closeDeadlineMs m data).spoken h with answered | ⟨number, broken, failed | may⟩
    · exact .inl (.inl answered)
    · exact .inl (.inr ⟨number, broken, .inl failed⟩)
    · obtain ⟨_, -, may⟩ := may
      refine .inr ⟨number, broken, .inr ⟨may, ?_⟩⟩
      rw [dispatch, data]
      exact unmarked_channelData closeDeadlineMs payload m h
  by_cases request : payload.head? = some 98
  · have spoken : Spoken noxtls env (fun n _ => n = some 100) (dispatch noxtls env turns closeDeadlineMs payload m) := by
      rw [dispatch, request]
      exact spoken_bind_lost (spoken_channelRequest turns closeDeadlineMs payload m) (fun _ => spoken_pure _)
        fun _ _ may _ => ⟨rfl, .inr ⟨_, rfl, may⟩⟩
    rcases spoken h with answered | ⟨number, broken, failed | ⟨_, -, may⟩⟩
    · exact .inl (.inl answered)
    · exact .inl (.inr ⟨number, broken, .inl failed⟩)
    · exact .inr ⟨number, broken, .inl may⟩
  · exact .inl ((talks_dispatch turns closeDeadlineMs m request data).spoken h)

/-- A turn breaks off at a failed send, or it passed over one. -/
theorem serveTurn_speech (turns closeDeadlineMs : Nat) (h : Host Server) :
    Utterance noxtls env never h ((serveTurn noxtls env turns closeDeadlineMs).run h) ∨
      Lapse noxtls env h ((serveTurn noxtls env turns closeDeadlineMs).run h).2 := by
  have background : Background fun e => report? e = none ∧ mark? e = none :=
    ⟨⟨fun _ => ⟨rfl, rfl⟩, ⟨rfl, rfl⟩, ⟨rfl, rfl⟩⟩, fun _ _ => ⟨rfl, rfl⟩, fun _ _ => ⟨rfl, rfl⟩⟩
  have receives : Always (Quiet (fun e => report? e = none ∧ mark? e = none) fun _ => ())
      (recvInto noxtls env maxPacketLen) :=
    always_recvInto background passive_unit ⟨fun _ => ⟨rfl, rfl⟩, fun _ => ⟨rfl, rfl⟩⟩ _
  have quiet := receives h
  rw [serveTurn, bind_run, attempt_run]
  revert quiet
  rcases (recvInto noxtls env maxPacketLen).run h with ⟨o, t⟩
  rintro ⟨-, new, grown, kept⟩
  have answered : Answered new := answered_of_mute fun e mem => (kept e mem).1.1
  cases o with
  | err e => exact .inl (.inl ⟨new, grown, answered⟩)
  | stuck => exact .inl (.inl ⟨new, grown, answered⟩)
  | ok got =>
      dsimp only
      by_cases empty : got.1 = []
      · rw [if_pos empty]
        exact .inl (.inl ⟨new, grown, answered⟩)
      rw [if_neg empty, self_bind_run]
      by_cases early : rekeyDue t.self = false
      swap
      · rw [ensure_bind_neg early]
        exact .inl (.inl ⟨new, grown, answered⟩)
      rw [ensure_bind_pos early]
      rcases dispatch_speech turns closeDeadlineMs got.1 got.2 t with speech | ⟨number, broken, which⟩
      · exact .inl (speech.after grown answered)
      · refine .inr ⟨number, broken.after grown answered, which.imp id (And.imp id fun unmarked => ?_)⟩
        exact (quiet_order _ _).trans ⟨rfl, new, grown, fun e mem => ⟨(kept e mem).1.2, rfl⟩⟩ unmarked

/-- The loop breaks off at a failed send, if none is passed over. -/
theorem serveLoop_speech (sessionTurns turns closeDeadlineMs : Nat) (h : Host Server)
    (heeded : Heeded ((serveLoop noxtls env sessionTurns turns closeDeadlineMs).run h).2.trace) :
    Utterance noxtls env never h ((serveLoop noxtls env sessionTurns turns closeDeadlineMs).run h) := by
  induction turns generalizing closeDeadlineMs h with
  | zero => exact spoken_stall h
  | succ turns ih =>
      revert heeded
      rw [serveLoop, log_bind_run, bind_run]
      have quiet : Quiet (fun e => report? e = none ∧ mark? e = none) (fun _ => ())
          { h with trace := h.trace ++ [(.serving closeDeadlineMs, h.self)] }
          ((packetReady env closeDeadlineMs).run
            { h with trace := h.trace ++ [(.serving closeDeadlineMs, h.self)] }).2 := always_packetReady _ _
      revert quiet
      rcases (packetReady env closeDeadlineMs).run
        { h with trace := h.trace ++ [(.serving closeDeadlineMs, h.self)] } with ⟨o, h₁⟩
      rintro ⟨-, wait, grown, kept⟩
      dsimp only at grown
      have started : h₁.trace = h.trace ++ ((.serving closeDeadlineMs, h.self) :: wait) := by
        rw [grown]
        simp
      have answered : Answered ((.serving closeDeadlineMs, h.self) :: wait) := by
        refine answered_of_mute fun e mem => ?_
        rcases List.mem_cons.1 mem with rfl | mem
        · rfl
        · exact (kept e mem).1.1
      have outside : inSession h₁.trace = false := by
        have none : pick mark? wait = [] := pick_eq_nil fun e mem => (kept e mem).1.2
        rw [inSession, grown, pick_append, pick_append, none, List.append_nil, pick_single]
        simp [mark?]
      cases o with
      | err e => exact fun _ => .inl ⟨_, started, answered⟩
      | stuck => exact fun _ => .inl ⟨_, started, answered⟩
      | ok ready =>
      cases ready with
      | retry => exact fun heeded => (ih _ _ heeded).after started answered
      | «over» => exact fun _ => .inl ⟨_, started, answered⟩
      | error => exact fun _ => .inl ⟨_, started, answered⟩
      | readable =>
          dsimp only
          rw [bind_run]
          have turn := @serveTurn_speech noxtls env sessionTurns closeDeadlineMs h₁
          revert turn
          rcases (serveTurn noxtls env sessionTurns closeDeadlineMs).run h₁ with ⟨o, h₂⟩
          rintro (speech | lapse) heeded
          · rcases speech with ⟨new, more, said⟩ | ⟨payload, broken, ⟨e, is⟩ | ⟨_, -, may⟩⟩
            · have whole : h₂.trace = h.trace ++ ((.serving closeDeadlineMs, h.self) :: wait ++ new) := by
                rw [← List.append_assoc, ← started]
                exact more
              cases o with
              | err e => exact .inl ⟨_, whole, answered.append said⟩
              | stuck => exact .inl ⟨_, whole, answered.append said⟩
              | ok next =>
                  cases next with
                  | done => exact .inl ⟨_, whole, answered.append said⟩
                  | again closeDeadlineMs =>
                      exact ((ih closeDeadlineMs h₂ heeded).after more said).after started answered
            · obtain rfl : o = .err e := is
              exact .inr ⟨payload, broken.after started answered, .inl ⟨e, rfl⟩⟩
            · exact may.elim
          · refine absurd heeded (lapse.unheeded ?_ outside)
            cases o with
            | err e => exact turnsOver_refl h₂
            | stuck => exact turnsOver_refl h₂
            | ok next =>
                cases next with
                | done => exact turnsOver_refl h₂
                | again closeDeadlineMs => exact turnsOver_serveLoop _ _ _ h₂

/-! ## The code of a failure -/

theorem blames_waitClosePacket (deadlineMs : Nat) : Blames .failed (waitClosePacket env deadlineMs) := by
  refine blames_bind (blames_of_ok fun _ => ⟨_, rfl⟩) fun now => blames_bind (blames_of_ok fun _ => ⟨_, rfl⟩) fun s => ?_
  refine blames_ite (blames_pure _) (blames_ite (blames_pure _) ?_)
  refine blames_bind (blames_of_ok fun _ => ⟨_, rfl⟩) fun answer => ?_
  cases answer with
  | interrupted => exact blames_pure _
  | error => exact blames_pure _
  | timeout => exact blames_pure _
  | ready transport output => exact blames_ite (blames_pure _) (blames_ite (blames_pure _) (blames_pure _))

theorem blames_channelRequest (turns closeDeadlineMs : Nat) (payload : List UInt8) (m : Mem) :
    Blames .failed (channelRequest noxtls env turns closeDeadlineMs payload m) := by
  have told : Blames .failed (self : Prog Server Server) := blames_of_ok fun _ => ⟨_, rfl⟩
  have refuses : ∀ wantReply, Blames .failed (do
      refuse noxtls env wantReply
      pure closeDeadlineMs) := fun wantReply =>
    blames_bind (blames_ite (blames_bind (blames_attempt _) fun _ => blames_pure ()) (blames_pure ())) fun _ =>
      blames_pure _
  have confirms : ∀ wantReply, Blames .failed (confirm noxtls env wantReply) := fun wantReply =>
    blames_ite (blames_failAs _) (blames_pure ())
  have ends : ∀ wantReply command, Blames .failed
      (runAndClose noxtls env turns wantReply command closeDeadlineMs) := fun wantReply command =>
    blames_bind (confirms wantReply) fun _ => blames_bind (blames_failAs _) fun _ => blames_failAs _
  refine blames_bind told fun s => blames_ite (blames_pure _) ?_
  refine blames_bind (blames_lift _) fun chan => blames_ite (blames_pure _) ?_
  refine blames_bind (blames_lift _) fun req => blames_bind (blames_ensure _) fun _ => ?_
  refine blames_bind told fun s => blames_ite ?_ (blames_ite ?_ (blames_ite ?_ (refuses _)))
  · split
    · exact refuses _
    · refine blames_bind (blames_of_ok fun _ => ⟨_, rfl⟩) fun _ => ?_
      exact blames_bind (confirms _) fun _ => blames_pure _
  · split
    · exact refuses _
    · exact ends _ _
  · exact blames_ite (refuses _) (ends _ _)

theorem blames_dispatch (turns closeDeadlineMs : Nat) (payload : List UInt8) (m : Mem) :
    Blames .failed (dispatch noxtls env turns closeDeadlineMs payload m) := by
  have told : Blames .failed (self : Prog Server Server) := blames_of_ok fun _ => ⟨_, rfl⟩
  have updates : ∀ f : Server → Server, Blames .failed (modify f) := fun f => blames_of_ok fun _ => ⟨_, rfl⟩
  have goesOn : ∀ m : Prog Server Unit, Blames .failed m → Blames .failed (goOn closeDeadlineMs m) :=
    fun m blames => blames_bind blames fun _ => blames_pure _
  have ended : Blames .failed (goOnWith (channelEnd noxtls env closeDeadlineMs payload m)) := by
    refine blames_bind (blames_bind (blames_failAs _) fun _ => ?_) fun _ => blames_pure _
    exact blames_ite (blames_failAs _) (blames_pure _)
  unfold dispatch
  split
  · exact blames_pure _
  · exact blames_pure _
  · exact blames_pure _
  · exact blames_pure _
  · exact goesOn _ (blames_failAs _)
  · refine goesOn _ (blames_bind (blames_lift _) fun svc => blames_bind told fun s => ?_)
    refine blames_ite (blames_bind (updates _) fun _ => blames_failAs _) ?_
    exact blames_ite (blames_bind (updates _) fun _ => blames_failAs _) blames_fail
  · refine goesOn _ (blames_bind told fun s => blames_bind (blames_ensure _) fun _ => ?_)
    refine blames_bind (blames_ensure _) fun _ => blames_bind (updates _) fun _ => ?_
    exact blames_bind told fun s => blames_bind (blames_ensure _) fun _ => blames_failAs _
  · refine goesOn _ (blames_bind (blames_ensure _) fun _ => blames_bind told fun s => ?_)
    refine blames_bind (blames_ensure _) fun _ => blames_bind (blames_lift _) fun typ => ?_
    refine blames_bind (blames_lift _) fun sender => blames_bind (blames_lift _) fun window => ?_
    refine blames_bind (blames_lift _) fun maxPacket => blames_bind (blames_ensure _) fun _ => ?_
    refine blames_bind (blames_ensure _) fun _ => blames_bind (updates _) fun _ => ?_
    exact blames_bind (blames_failAs _) fun _ => updates _
  · exact blames_bind (blames_channelRequest turns closeDeadlineMs payload m) fun _ => blames_pure _
  · refine goesOn _ (blames_bind told fun s => blames_bind (blames_lift _) fun recipient => ?_)
    refine blames_ite (blames_pure _) (blames_bind (blames_lift _) fun dat => ?_)
    refine blames_bind (blames_ite (updates _) (blames_pure _)) fun _ => ?_
    exact blames_bind (blames_attempt _) fun _ => blames_pure _
  · exact ended
  · exact ended
  · exact blames_pure _

theorem blames_serveLoop (sessionTurns turns : Nat) :
    ∀ closeDeadlineMs, Blames .failed (serveLoop noxtls env sessionTurns turns closeDeadlineMs) := by
  induction turns with
  | zero => exact fun _ => blames_stall
  | succ turns ih =>
      intro closeDeadlineMs
      refine blames_bind (blames_of_ok fun _ => ⟨_, rfl⟩) fun _ => ?_
      refine blames_bind (blames_ite (blames_waitClosePacket _) (blames_pure _)) fun ready => ?_
      cases ready with
      | retry => exact ih _
      | «over» => exact blames_pure _
      | error => exact blames_fail
      | readable =>
          refine blames_bind (blames_bind (blames_attempt _) fun got => ?_) fun next => ?_
          · cases got with
            | none => exact blames_pure _
            | some got =>
                refine blames_ite (blames_pure _) (blames_bind (blames_of_ok fun _ => ⟨_, rfl⟩) fun s => ?_)
                exact blames_bind (blames_ensure _) fun _ => blames_dispatch _ _ _ _
          · cases next with
            | done => exact blames_pure _
            | again closeDeadlineMs => exact ih _

theorem blames_serveOne (turns : Nat) : Blames .failed (serveOne noxtls env turns) := by
  refine blames_bind (blames_of_ok fun _ => ⟨_, rfl⟩) fun now => blames_bind (blames_of_ok fun _ => ⟨_, rfl⟩) fun _ => ?_
  exact blames_bind (blames_failAs _) fun _ => blames_serveLoop turns turns 0

end Loop

/-! ## The run -/

/-- The one call that is not answered is the last. -/
theorem BrokenOff.only {noxtls : Noxtls} {env : Env} {payload payload' : List UInt8} {h h' : Host Server} {s : Server}
    {before after : List (Event × Server)} (broken : BrokenOff noxtls env payload h h') (empty : h.trace = [])
    (is : h'.trace = before ++ (.sending payload', s) :: after) (unanswered : Unanswered payload' after) :
    ∃ h₀ h₁ e, h₀.trace = before ∧ (sendPacket noxtls env payload').run h₀ = (.err e, h₁) ∧ h'.trace = h₁.trace := by
  obtain ⟨before', s', inside, is', answered, calls, h₀, h₁, e, begun, call, ended⟩ := broken.last
  rw [empty, List.nil_append] at is' begun
  rw [is'] at is
  rcases List.append_eq_append_iff.1 is with ⟨more, rfl, rest⟩ | ⟨more, rfl, rest⟩
  · cases more with
    | nil =>
        obtain ⟨first, -⟩ := List.cons.inj rest
        obtain rfl := Event.sending.inj (Prod.mk.inj first).1
        exact ⟨h₀, h₁, e, by rw [begun, List.append_nil], call, ended⟩
    | cons e' more =>
        -- inside the failed call nothing else is sent
        obtain ⟨-, rest⟩ := List.cons.inj rest
        cases calls (.sending payload', s) (by rw [rest]; simp)
  · cases more with
    | nil =>
        obtain ⟨first, -⟩ := List.cons.inj rest
        obtain rfl := Event.sending.inj (Prod.mk.inj first).1
        exact ⟨h₀, h₁, e, by rw [begun, List.append_nil], call, ended⟩
    | cons e' more =>
        obtain ⟨rfl, rfl⟩ := List.cons.inj rest
        have here := answered before payload' s more rfl
        rw [Unanswered, not_not] at here
        exact absurd (answer_append here _) unanswered

theorem serveOne_speech (noxtls : Noxtls) (env : Env) (setup : Setup) (inbox : List UInt8) (turns : Nat)
    (heeded : Heeded (served noxtls env setup inbox turns).trace) :
    Utterance noxtls env never ⟨setup.server, 0, inbox, []⟩
      ((serveOne noxtls env turns).run ⟨setup.server, 0, inbox, []⟩) := by
  revert heeded
  rw [served, serveOne, ask_bind_run, modify_bind_run, bind_run]
  have speech : Utterance noxtls env never ⟨setup.server, 0, inbox, []⟩
      ((failAs .failed (handshakeToEncrypted noxtls env)).run
        ⟨setHandshakeDeadline (wrap64 (env.clock 0 + 30000)) setup.server, 1, inbox, []⟩) :=
    (spoken_failAs _ spoken_handshakeToEncrypted _).after (List.append_nil _).symm answered_nil
  revert speech
  dsimp only
  rcases (failAs .failed (handshakeToEncrypted noxtls env)).run
    ⟨setHandshakeDeadline (wrap64 (env.clock 0 + 30000)) setup.server, 1, inbox, []⟩ with ⟨o, h⟩
  rintro (⟨new, grown, answered⟩ | ⟨payload, broken, ⟨e, is⟩ | ⟨_, -, may⟩⟩) heeded
  · cases o with
    | err e => exact .inl ⟨new, grown, answered⟩
    | stuck => exact .inl ⟨new, grown, answered⟩
    | ok _ => exact (serveLoop_speech turns turns 0 h heeded).after grown answered
  · obtain rfl : o = .err e := is
    exact .inr ⟨payload, broken, .inl ⟨e, rfl⟩⟩
  · exact may.elim

/-- A send that failed is the last: the run ends where that call of the send routine did,
with a failure. -/
def StopsAtFailure (noxtls : Noxtls) (env : Env) (r : Outcome NetnoxReturn Unit × Host Server) : Prop :=
  ∀ before payload s after, r.2.trace = before ++ (.sending payload, s) :: after → Unanswered payload after →
    r.1 = .err .failed ∧ ∃ h₀ h₁ e, h₀.trace = before ∧ (sendPacket noxtls env payload).run h₀ = (.err e, h₁) ∧
      r.2.trace = h₁.trace

/-- The same about the call at place `i`. -/
theorem StopsAtFailure.drop {noxtls : Noxtls} {env : Env} {r : Outcome NetnoxReturn Unit × Host Server}
    (stops : StopsAtFailure noxtls env r) (i : Nat) {payload : List UInt8}
    (is : r.2.trace[i]?.map Prod.fst = some (.sending payload)) (unanswered : Unanswered payload (r.2.trace.drop (i + 1))) :
    r.1 = .err .failed := by
  obtain ⟨⟨e, s⟩, here, rfl⟩ := Option.map_eq_some_iff.1 is
  obtain ⟨inside, there⟩ := List.getElem?_eq_some_iff.1 here
  refine (stops (r.2.trace.take i) payload s _ ?_ unanswered).1
  rw [← there, ← List.drop_eq_getElem_cons inside, List.take_append_drop]

/-- **Fail-stop**, where no answer is lost whose result is dropped. -/
theorem fail_stop (noxtls : Noxtls) (env : Env) (setup : Setup) (inbox : List UInt8) (turns : Nat)
    (heeded : Heeded (served noxtls env setup inbox turns).trace) :
    StopsAtFailure noxtls env ((serveOne noxtls env turns).run ⟨setup.server, 0, inbox, []⟩) := by
  intro before payload s after is unanswered
  rcases serveOne_speech noxtls env setup inbox turns heeded with ⟨new, grown, answered⟩ |
    ⟨payload', broken, ⟨e, failed⟩ | ⟨_, -, may⟩⟩
  · rw [List.nil_append] at grown
    exact absurd unanswered (answered before payload s after (grown.symm.trans is))
  · refine ⟨?_, broken.only rfl is unanswered⟩
    rw [failed, blames_serveOne turns _ e failed]
  · exact may.elim

theorem heeded_of_other {trace : List (Event × Server)}
    (other : ∀ e ∈ trace, ∀ payload ∈ e.1.sending?, payload.head? ≠ some 100 ∧ payload.head? ≠ some 93) :
    Heeded trace := by
  rintro before payload s after rfl -
  obtain ⟨refusal, credit⟩ := other (.sending payload, s) (by simp) payload rfl
  exact ⟨refusal, fun is => absurd is credit⟩

namespace Probe

/-- A server whose `send_cb` fails once, at tick `tick`. -/
def stumbling (tick : Nat) : Env := { brisk with send := fun t => if t = tick then 0 else 65536 }

/-- A channel request the server refuses. -/
def subsystem : List UInt8 := [98] ++ be32 0 ++ sshString (ascii "subsystem") ++ [1] ++ sshString (ascii "sftp")

/-- A client that asks for a subsystem twice. -/
def insistent : List UInt8 := stream [openWith 5 1000, subsystem, subsystem]

def stumbled (tick : Nat) : Outcome NetnoxReturn Unit × Host Server :=
  (serveOne Sample.plain (stumbling tick) 10).run ⟨setup.server, 0, insistent, []⟩

/-- The run on this inbox. -/
def stumbledOn (inbox : List UInt8) (tick : Nat) : Outcome NetnoxReturn Unit × Host Server :=
  (serveOne Sample.plain (stumbling tick) 10).run ⟨setup.server, 0, inbox, []⟩

theorem stumbled_on : stumbled = stumbledOn insistent := rfl

-- Compared as functions: at a `tick` the kernel would try to run the server.
theorem stumbled_fun :
    stumbled = fun tick => (serveOne Sample.plain (stumbling tick) 10).run ⟨setup.server, 0, insistent, []⟩ :=
  rfl

theorem stumbled_eq (tick : Nat) :
    stumbled tick = (serveOne Sample.plain (stumbling tick) 10).run ⟨setup.server, 0, insistent, []⟩ :=
  congrFun stumbled_fun tick

theorem stumbled_served (tick : Nat) : (stumbled tick).2 = served Sample.plain (stumbling tick) setup insistent 10 := by
  rw [stumbled_eq, served]

end Probe

/-- The key exchange reply is not sent. -/
theorem fail_stop_kex :
    StopsAtFailure Sample.plain (Probe.stumbling 54) (Probe.stumbled 54) ∧ (Probe.stumbled 54).1 = .err .failed := by
  have run : (∀ e ∈ (Probe.stumbled 54).2.trace, ∀ payload ∈ e.1.sending?, payload.head? ≠ some 100 ∧
      payload.head? ≠ some 93) ∧ (Probe.stumbled 54).1 = .err .failed := by
    rw [Probe.stumbled_on, Probe.insistent, Probe.stream_eq]
    decide +kernel
  have heeded : Heeded (served Sample.plain (Probe.stumbling 54) Probe.setup Probe.insistent 10).trace := by
    rw [← Probe.stumbled_served]
    exact heeded_of_other run.1
  refine ⟨?_, run.2⟩
  rw [Probe.stumbled_eq]
  exact fail_stop Sample.plain (Probe.stumbling 54) Probe.setup Probe.insistent 10 heeded

/-- The first refusal breaks off before its MAC, the second goes out, and the server
still waits for packets. -/
theorem fail_stop_passed :
    ¬ StopsAtFailure Sample.plain (Probe.stumbling 136) (Probe.stumbled 136) ∧
      channelMessage 100 5 ∈ pick Event.sent? ((Probe.stumbled 136).2.trace.drop 86) := by
  have run : (Probe.stumbled 136).2.trace[85]?.map Prod.fst = some (.sending (channelMessage 100 5)) ∧
      answer ((Probe.stumbled 136).2.trace.drop 86) ≠ some (.sent (channelMessage 100 5)) ∧
      (Probe.stumbled 136).1 = .stuck ∧
      channelMessage 100 5 ∈ pick Event.sent? ((Probe.stumbled 136).2.trace.drop 86) := by
    rw [Probe.stumbled_on, Probe.insistent, Probe.stream_eq]
    decide +kernel
  obtain ⟨is, unanswered, waits, later⟩ := run
  refine ⟨fun stops => ?_, later⟩
  have failed := stops.drop 85 is unanswered
  rw [waits] at failed
  cases failed

end NoxSsh.Server
