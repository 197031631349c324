/-
# Server.Deadline — the thirty seconds before a session

`netnox_ssh_server_serve_one` sets a deadline, and the loops that receive look at the
clock before every call of the callback.  Only the loop that drops the rest of a line that
is too long does not.

In every run in which no line of the client fills the line buffer, whatever else arrives
and whatever the clock says, a call of the receive callback before a session comes right
after a look that found the deadline not past (`login_deadline_binds`).
-/
import NoxSsh.Server.Conduct

namespace NoxSsh.Server

open Theory Proc Wire Transport

set_option autoImplicit false

/-! ## Looks at the clock -/

/-- A call of the receive callback after a look that did not find the deadline past. -/
def Looked (e : Event × Server) : Prop :=
  ∀ looked, e.1 = .receiving looked → ∃ now, looked = some now ∧ handshakeExpired e.2 now = false

/-- The deadline stays, and every call is looked for. -/
def Watchful (h h' : Host Server) : Prop :=
  h'.self.handshakeDeadlineMs = h.self.handshakeDeadlineMs ∧
    ∃ new, h'.trace = h.trace ++ new ∧
      ∀ e ∈ new, Looked e ∧ e.2.handshakeDeadlineMs = h.self.handshakeDeadlineMs

theorem watchful_plain : Plain Watchful where
  refl h := ⟨rfl, [], by simp, by simp⟩
  trans := by
    rintro s t u ⟨same, new, grown, fine⟩ ⟨same', new', grown', fine'⟩
    refine ⟨same'.trans same, new ++ new', by rw [grown', grown, List.append_assoc], fun e mem => ?_⟩
    rcases List.mem_append.1 mem with mem | mem
    · exact fine e mem
    · exact ⟨(fine' e mem).1, (fine' e mem).2.trans same⟩
  asked h := ⟨rfl, [], by simp, by simp⟩
  took h n := ⟨rfl, [], by simp, by simp⟩

/-- Anything but a call of the receive callback. -/
def Deaf (e : Event) : Prop := ∀ looked, e ≠ .receiving looked

theorem background_deaf : Background Deaf :=
  ⟨⟨fun _ _ => by simp, fun _ => by simp, fun _ => by simp⟩, fun _ _ _ => by simp, fun _ _ _ => by simp⟩

theorem speaks_deaf (number : UInt8) : Speaks Deaf number := fun _ _ => ⟨fun _ => by simp, fun _ => by simp⟩

theorem channelChatter_deaf : ChannelChatter Deaf := ⟨background_deaf, fun number _ _ => speaks_deaf number⟩

theorem childChatter_deaf : ChildChatter Deaf :=
  ⟨channelChatter_deaf, fun _ _ => by simp, fun _ => by simp, fun _ => by simp, fun _ _ => by simp,
    fun _ _ => by simp⟩

theorem steady_deadline : Steady Server.handshakeDeadlineMs := by
  constructor <;> (try apply Passive.of_fields) <;> intros <;> rfl

theorem loginChatter_deaf : LoginChatter Deaf Server.handshakeDeadlineMs :=
  ⟨background_deaf, steady_deadline.toPassive, speaks_deaf 51, speaks_deaf 52, speaks_deaf 60,
    fun _ _ _ _ => by simp, fun _ => rfl, fun _ _ => rfl⟩

section Steps

variable {α : Type} {m : Prog Server α}

/-- Whatever does not receive is watchful. -/
theorem watchful (deaf : Always (Quiet Deaf Server.handshakeDeadlineMs) m) : Always Watchful m := by
  intro h
  obtain ⟨same, new, grown, kept⟩ := deaf h
  exact ⟨same, new, grown, fun e mem => ⟨fun looked is => absurd is ((kept e mem).1 looked), (kept e mem).2⟩⟩

end Steps

section Watch

variable {noxtls : Noxtls} {env : Env}

/-- A look and the call it was for. -/
theorem watchful_checked {expired : Server → Nat → Bool}
    (covers : ∀ s now, expired s now = false → handshakeExpired s now = false) (len : Nat) :
    Always Watchful (deadline env expired >>= fun looked => recvCb env looked len) := by
  have plain := watchful_plain
  intro h
  rw [deadline, bind_assoc_run, ask_bind_run, bind_assoc_run, self_bind_run]
  by_cases past : expired h.self (env.clock h.tick) = true
  · rw [if_pos past]
    exact ⟨rfl, [(.expired, h.self)], rfl, by simp [Looked]⟩
  · rw [if_neg past, pure_bind_run, recvCb, log_bind_run]
    have called : Watchful h
        ⟨h.self, h.tick + 1, h.inbox, h.trace ++ [(.receiving (some (env.clock h.tick)), h.self)]⟩ := by
      refine ⟨rfl, _, rfl, fun e mem => ?_⟩
      obtain rfl := List.mem_singleton.1 mem
      refine ⟨fun looked is => ?_, rfl⟩
      obtain rfl := Event.receiving.inj is
      exact ⟨_, rfl, covers _ _ (by simpa using past)⟩
    exact plain.trans called (plain.takeInbox env len _)

theorem recvExpired_covers (s : Server) (now : Nat) (fine : recvExpired s now = false) :
    handshakeExpired s now = false := by
  rw [recvExpired, Bool.or_eq_false_iff] at fine
  exact fine.2

theorem lineExpired_covers (s : Server) (now : Nat) (fine : lineExpired s now = false) :
    handshakeExpired s now = false := by
  simp only [lineExpired, decide_eq_false_iff_not] at fine
  simp [handshakeExpired, fine]

theorem watchful_recvInto (payloadMax : Nat) : Always Watchful (recvInto noxtls env payloadMax) := by
  have plain := watchful_plain
  have order := plain.toStepOrder
  have reads : ∀ len room, Always Watchful (recvExact env len room) := fun len room =>
    always_recvExactWith plain (watchful (always_log background_deaf.overflow))
      (watchful_checked recvExpired_covers) len room
  apply always_bind order
  · apply always_bind order (plain.ask _)
    intro now
    apply always_bind order (watchful (always_modify (steady_deadline.armRecv now)))
    intro _
    exact always_recvPacketWith plain (fun m t => watchful (always_log (background_deaf.macAccepted m t)))
      (fun p => watchful (always_log fun _ => by simp))
      (fun c => watchful (always_modify (steady_deadline.recvCounter c)))
      (fun n => watchful (always_modify (steady_deadline.recvSeq n)))
      (fun n => watchful (always_modify (steady_deadline.countRecv n))) reads payloadMax
  · intro payload
    exact always_bind order (plain.ask _) fun _ => always_pure order _

theorem deaf_sendPacket (payload : List UInt8) :
    Always (Quiet Deaf Server.handshakeDeadlineMs) (sendPacket noxtls env payload) :=
  always_sendPacket background_deaf steady_deadline.toPassive payload (fun _ => by simp) (fun _ => by simp)

/-! ## The loops -/

theorem watchful_sessionTurn (child : Child) : Always Watchful (sessionTurn noxtls env child) := by
  have plain := watchful_plain
  have order := plain.toStepOrder
  have looks : ∀ child ready, Always Watchful (sessionChild noxtls env child ready) := fun child ready =>
    watchful (always_sessionChild childChatter_deaf steady_deadline child ready)
  refine always_bind order plain.self fun s => always_ite (always_pure order _) ?_
  refine always_bind order (plain.ask _) fun answer => ?_
  split
  · exact always_pure order _
  · exact always_pure order _
  · exact always_ite (looks _ _) (always_pure order _)
  · refine always_ite (always_pure order _) (always_ite ?_ (looks _ _))
    refine always_bind order (always_attempt (watchful_recvInto _)) fun got => ?_
    split
    · exact always_pure order _
    · refine always_bind order (watchful (always_sessionPacket childChatter_deaf steady_deadline _ _ fun _ =>
        always_handleGlobalRequest background_deaf steady_deadline.toPassive (speaks_deaf 82) _ _)) fun answer => ?_
      split
      · exact always_pure order _
      · exact always_bind order (watchful (always_log fun _ => by simp)) fun _ => looks _ _

theorem watchful_sessionLoop : ∀ (turns : Nat) (child : Child),
    Always Watchful (sessionLoop noxtls env turns child) := by
  have order := watchful_plain.toStepOrder
  intro turns
  induction turns with
  | zero => exact fun _ => always_stall order
  | succ turns ih =>
      intro child
      refine always_bind order (watchful_sessionTurn child) fun turn => ?_
      cases turn with
      | again child => exact ih child
      | complete => exact always_pure order ()
      | broken peerClosed =>
          refine always_bind order (watchful (always_modify (steady_deadline.setChannelOpen _))) fun _ => ?_
          exact always_ite (always_pure order ()) (always_fail order _)

theorem watchful_runAndClose (turns : Nat) (wantReply : Bool) (command : Option (List UInt8))
    (closeDeadlineMs : Nat) :
    Always Watchful (runAndClose noxtls env turns wantReply command closeDeadlineMs) := by
  have plain := watchful_plain
  have order := plain.toStepOrder
  refine always_bind order (watchful ?_) fun _ => ?_
  · exact always_confirm channelChatter_deaf steady_deadline.toPassive wantReply
  refine always_bind order (always_failAs _ ?_) fun _ => watchful (always_failAs _ (always_beginCloseWait _))
  refine always_bind order plain.self fun s => ?_
  refine always_bind order (always_ensure order _ _) fun _ => ?_
  refine always_bind order (watchful (always_log fun _ => by simp)) fun _ => ?_
  refine always_bind order (watchful (always_modify steady_deadline.setSessionStarted)) fun _ => ?_
  refine always_bind order (plain.ask _) fun forked => ?_
  exact always_bind order (always_ensure order _ _) fun _ => watchful_sessionLoop turns _

theorem watchful_channelRequest (turns closeDeadlineMs : Nat) (payload : List UInt8) (m : Mem) :
    Always Watchful (channelRequest noxtls env turns closeDeadlineMs payload m) := by
  have plain := watchful_plain
  have order := plain.toStepOrder
  have refuses : ∀ wantReply, Always Watchful (refuse noxtls env wantReply >>= fun _ => pure closeDeadlineMs) :=
    fun wantReply => always_bind order
      (watchful (always_refuse channelChatter_deaf steady_deadline.toPassive wantReply)) fun _ => always_pure order _
  refine always_bind order plain.self fun s => always_ite (always_pure order _) ?_
  refine always_bind order (always_lift order _ _) fun chan => always_ite (always_pure order _) ?_
  refine always_bind order (always_lift order _ _) fun req => ?_
  refine always_bind order (always_ensure order _ _) fun _ => ?_
  refine always_bind order plain.self fun s => ?_
  refine always_ite ?_ (always_ite ?_ (always_ite ?_ (refuses _)))
  · split
    · exact refuses _
    · refine always_bind order (watchful (always_modify (steady_deadline.setPty _))) fun _ => ?_
      exact always_bind order (watchful (always_confirm channelChatter_deaf steady_deadline.toPassive _)) fun _ =>
        always_pure order _
  · split
    · exact refuses _
    · exact watchful_runAndClose turns _ _ closeDeadlineMs
  · exact always_ite (refuses _) (watchful_runAndClose turns _ _ closeDeadlineMs)

theorem deaf_channelOpenRequest (closeDeadlineMs : Nat) (payload : List UInt8) (m : Mem) :
    Always (Quiet Deaf Server.handshakeDeadlineMs) (channelOpenRequest noxtls env closeDeadlineMs payload m) := by
  have order := quiet_order Deaf Server.handshakeDeadlineMs
  refine always_bind order (always_ensure order _ _) fun _ => ?_
  refine always_bind order always_self fun s => ?_
  refine always_bind order (always_ensure order _ _) fun _ => ?_
  refine always_bind order (always_lift order _ _) fun typ => ?_
  refine always_bind order (always_lift order _ _) fun sender => ?_
  refine always_bind order (always_lift order _ _) fun window => ?_
  refine always_bind order (always_lift order _ _) fun maxPacket => ?_
  refine always_bind order (always_ensure order _ _) fun _ => ?_
  refine always_bind order (always_ensure order _ _) fun _ => ?_
  refine always_bind order (always_modify (steady_deadline.setRemoteLimits _ _)) fun _ => ?_
  refine always_bind order (always_failAs _ ?_) fun _ => always_modify (steady_deadline.setChannelOpen _)
  exact always_sendChannelOpenConfirmation background_deaf steady_deadline (speaks_deaf 91) _

theorem watchful_dispatch (turns closeDeadlineMs : Nat) (payload : List UInt8) (m : Mem) :
    Always Watchful (dispatch noxtls env turns closeDeadlineMs payload m) := by
  have order := watchful_plain.toStepOrder
  have goesOn : ∀ m : Prog Server Unit, Always (Quiet Deaf Server.handshakeDeadlineMs) m →
      Always Watchful (goOn closeDeadlineMs m) := fun m deaf =>
    always_bind order (watchful deaf) fun _ => always_pure order _
  have ended : Always Watchful (goOnWith (channelEnd noxtls env closeDeadlineMs payload m)) :=
    always_bind order (watchful (always_channelEnd channelChatter_deaf steady_deadline _ payload m)) fun _ =>
      always_pure order _
  unfold dispatch
  split
  · exact always_pure order _
  · exact always_pure order _
  · exact always_pure order _
  · exact always_pure order _
  · exact goesOn _ (always_failAs _
      (always_handleGlobalRequest background_deaf steady_deadline.toPassive (speaks_deaf 82) payload m))
  · exact goesOn _ (always_serviceRequest background_deaf steady_deadline.toPassive (speaks_deaf 6) (fun _ => rfl)
      (fun _ => rfl) payload m)
  · exact goesOn _ (always_userauthRequest loginChatter_deaf payload m)
  · exact goesOn _ (deaf_channelOpenRequest closeDeadlineMs payload m)
  · exact always_bind order (watchful_channelRequest turns closeDeadlineMs payload m) fun _ => always_pure order _
  · exact goesOn _ (always_channelData channelChatter_deaf steady_deadline payload m)
  · exact ended
  · exact ended
  · exact always_pure order _

theorem watchful_serveLoop (sessionTurns turns : Nat) : ∀ closeDeadlineMs,
    Always Watchful (serveLoop noxtls env sessionTurns turns closeDeadlineMs) := by
  have order := watchful_plain.toStepOrder
  induction turns with
  | zero => exact fun _ => always_stall order
  | succ turns ih =>
      intro closeDeadlineMs
      refine always_bind order (watchful (always_log fun _ => by simp)) fun _ => ?_
      refine always_bind order (watchful (always_packetReady closeDeadlineMs)) fun ready => ?_
      cases ready with
      | retry => exact ih _
      | «over» => exact always_pure order ()
      | error => exact always_fail order _
      | readable =>
          refine always_bind order ?_ fun next => ?_
          · refine always_bind order (always_attempt (watchful_recvInto _)) fun got => ?_
            split
            · exact always_pure order _
            · refine always_ite (always_pure order _) ?_
              refine always_bind order watchful_plain.self fun s => ?_
              exact always_bind order (always_ensure order _ _) fun _ => watchful_dispatch sessionTurns _ _ _
          · cases next with
            | done => exact always_pure order ()
            | again closeDeadlineMs => exact ih _

/-! ## The handshake -/

theorem watchful_exchangeKexinit : Always Watchful (exchangeKexinit noxtls env) := by
  have plain := watchful_plain
  have order := plain.toStepOrder
  refine always_bind order plain.self fun s => ?_
  refine always_bind order (always_ensure order _ _) fun _ => ?_
  refine always_bind order (always_failAs _ (watchful_recvInto _)) fun got => ?_
  refine always_bind order (always_ensure order _ _) fun _ => ?_
  refine always_bind order (always_ensure order _ _) fun _ => ?_
  refine always_bind order (watchful (always_modify fun _ => rfl)) fun _ => ?_
  refine always_bind order (always_ensure order _ _) fun _ => ?_
  refine always_bind order (watchful (always_failAs _ always_buildKexinit)) fun tx => ?_
  refine always_bind order (always_ensure order _ _) fun _ => ?_
  refine always_bind order (watchful (always_modify fun _ => rfl)) fun _ => ?_
  refine always_bind order (watchful (always_failAs _ ?_)) fun _ => watchful (always_modify fun _ => rfl)
  exact deaf_sendPacket tx

theorem watchful_performCurve25519Kex : Always Watchful (performCurve25519Kex noxtls env) := by
  have plain := watchful_plain
  have order := plain.toStepOrder
  refine always_bind order plain.self fun s => ?_
  refine always_bind order (always_ensure order _ _) fun _ => ?_
  refine always_bind order (always_failAs _ (watchful_recvInto _)) fun got => ?_
  refine always_bind order (always_ensure order _ _) fun _ => ?_
  refine always_bind order (always_lift order _ _) fun view => ?_
  refine always_bind order (always_ensure order _ _) fun _ => ?_
  refine always_bind order (watchful (always_replyTo (fun _ _ _ => rfl) _)) fun reply => ?_
  refine always_bind order (watchful (always_failAs _ (deaf_sendPacket reply))) fun _ => ?_
  refine always_bind order (watchful (always_failAs _ (deaf_sendPacket [21]))) fun _ => ?_
  refine always_bind order (always_failAs _ (watchful_recvInto _)) fun got => ?_
  refine always_bind order (always_ensure order _ _) fun _ => ?_
  refine always_bind order (always_failAs _ ?_) fun _ => watchful (always_modify fun _ => rfl)
  refine always_bind order plain.self fun s => ?_
  refine always_bind order (always_ensure order _ _) fun _ => ?_
  exact always_bind order (always_lift order _ _) fun keys => watchful (always_modify fun _ => rfl)

/-! ## The identification -/

/-- No line that is read fills the line buffer. -/
def Unfilled : Nat → List UInt8 → Prop
  | 0, _ => True
  | lines + 1, text =>
      (withoutCr (text.takeWhile (· ≠ 10))).length < 255 ∧
        (isIdentLine (cString (withoutCr (text.takeWhile (· ≠ 10)))) = false →
          Unfilled lines (text.drop ((text.takeWhile (· ≠ 10)).length + 1)))

/-- What the first loop returns is the next line, if there is room for it. -/
theorem lineLoop_ok {max : Nat} :
    ∀ (turns : Nat) (out got : List UInt8) (h h' : Host Server),
      (lineLoop env (deadline env lineExpired) max turns out).run h = (.ok got, h') →
      out.length + (withoutCr (h.inbox.takeWhile (· ≠ 10))).length < max →
      got = out ++ withoutCr (h.inbox.takeWhile (· ≠ 10)) ∧
        h'.inbox = h.inbox.drop ((h.inbox.takeWhile (· ≠ 10)).length + 1) := by
  intro turns
  induction turns with
  | zero =>
      intro out got h h' ran
      simp [lineLoop] at ran
  | succ turns ih =>
      intro out got h h' ran room
      rw [lineLoop, if_pos (by omega)] at ran
      obtain ⟨looked, h₁, passed, ran⟩ := bind_inv ran
      obtain ⟨t, rfl⟩ := (gate_deadline lineExpired).passed passed
      obtain ⟨chunk, h₂, moved, ran⟩ := bind_inv ran
      obtain ⟨size, inbox, -⟩ := recvCb_ok moved
      dsimp only at inbox
      cases chunk with
      | nil => simp at ran
      | cons c chunk =>
          obtain rfl : chunk = [] := by simpa using size
          rw [inbox, List.singleton_append] at room ⊢
          dsimp only at ran
          by_cases ends : c = 10
          · rw [if_pos ends, pure_run] at ran
            cases ran
            subst ends
            simp [withoutCr]
          · rw [if_neg ends] at ran
            have next : (c :: h₂.inbox).takeWhile (· ≠ 10) = c :: h₂.inbox.takeWhile (· ≠ 10) :=
              List.takeWhile_cons_of_pos (by simpa using ends)
            rw [next] at room ⊢
            by_cases return_ : c = 13
            · rw [if_neg (by simp [return_])] at ran
              subst return_
              exact ih out got h₂ h' ran room
            · rw [if_pos return_] at ran
              have kept : withoutCr (c :: h₂.inbox.takeWhile (· ≠ 10)) =
                  c :: withoutCr (h₂.inbox.takeWhile (· ≠ 10)) :=
                List.filter_cons_of_pos (by simpa using return_)
              rw [kept, List.length_cons] at room
              obtain ⟨is, left⟩ := ih (out ++ [c]) got h₂ h' ran
                (by rw [List.length_append, List.length_singleton]; omega)
              rw [kept]
              exact ⟨by rw [is, List.append_assoc, List.singleton_append], left⟩

theorem watchful_lineLoop (max turns : Nat) (out : List UInt8) :
    Always Watchful (lineLoop env (deadline env lineExpired) max turns out) :=
  always_lineLoop watchful_plain (watchful_checked lineExpired_covers) max turns out

/-- A line that does not fill the buffer is read without the second loop. -/
theorem recvLine_unfilled {h : Host Server}
    (short : (withoutCr (h.inbox.takeWhile (· ≠ 10))).length < 255) :
    Watchful h ((recvLine env 256).run h).2 ∧ ∀ line h', (recvLine env 256).run h = (.ok line, h') →
      line = cString (withoutCr (h.inbox.takeWhile (· ≠ 10))) ∧
        h'.inbox = h.inbox.drop ((h.inbox.takeWhile (· ≠ 10)).length + 1) := by
  have watched := @watchful_lineLoop env 255 (h.inbox.length + 1) [] h
  have is : (recvLine env 256).run h =
      (byInbox (fun turns => lineLoop env (deadline env lineExpired) 255 turns []) >>= fun out =>
        if out.length = 255 then byInbox (discardLoop env) >>= fun _ => pure [] else pure (cString out)).run h := rfl
  rw [is, bind_run, byInbox]
  rcases collected : (lineLoop env (deadline env lineExpired) 255 (h.inbox.length + 1) []).run h with ⟨o, h₁⟩
  rw [collected] at watched
  cases o with
  | err e => exact ⟨watched, fun _ _ ran => by cases ran⟩
  | stuck => exact ⟨watched, fun _ _ ran => by cases ran⟩
  | ok out =>
      obtain ⟨rfl, left⟩ := lineLoop_ok _ [] out h h₁ collected (by simpa using short)
      rw [List.nil_append]
      dsimp only
      rw [if_neg (by omega)]
      refine ⟨watched, fun line h' ran => ?_⟩
      cases ran
      exact ⟨rfl, left⟩

theorem watchful_readIdent : ∀ (lines : Nat) (h : Host Server), Unfilled lines h.inbox →
    Watchful h ((readIdent env lines).run h).2 := by
  have order := watchful_plain.toStepOrder
  intro lines
  induction lines with
  | zero => exact fun h _ => order.refl h
  | succ lines ih =>
      rintro h ⟨short, later⟩
      obtain ⟨watched, reads⟩ := recvLine_unfilled short
      rw [readIdent, bind_run, failAs_run]
      rcases ran : (recvLine env 256).run h with ⟨o, h₁⟩
      rw [ran] at watched
      cases o with
      | err e => exact watched
      | stuck => exact watched
      | ok line =>
          obtain ⟨rfl, left⟩ := reads line h₁ ran
          refine order.trans watched ?_
          dsimp only
          split
          · cases copyString 256 (cString (withoutCr (h.inbox.takeWhile (· ≠ 10)))) with
            | error e => exact order.refl h₁
            | ok ident => exact watchful (always_modify fun _ => rfl) h₁
          · rename_i other
            exact ih h₁ (by rw [left]; exact later (by simpa using other))

theorem watchful_handshake {h : Host Server} (short : Unfilled maxBannerLines h.inbox) :
    Watchful h ((handshakeToEncrypted noxtls env).run h).2 := by
  have plain := watchful_plain
  have order := plain.toStepOrder
  have rest : Always Watchful (do
      let s ← self
      ensure (s.clientIdent ≠ []) .failed
      failAs .failed (sendAll env (txIdent s.serverIdent))
      modify setConnected
      failAs .failed (exchangeKexinit noxtls env)
      failAs .failed (performCurve25519Kex noxtls env)) := by
    refine always_bind order plain.self fun s => ?_
    refine always_bind order (always_ensure order _ _) fun _ => ?_
    refine always_bind order (always_failAs _ (watchful (always_sendAll background_deaf.toPlumbing _))) fun _ => ?_
    refine always_bind order (watchful (always_modify fun _ => rfl)) fun _ => ?_
    refine always_bind order (always_failAs _ watchful_exchangeKexinit) fun _ => ?_
    exact always_failAs _ watchful_performCurve25519Kex
  rw [handshakeToEncrypted, self_bind_run]
  by_cases ready : h.self.hostKeyReady = true
  · rw [ensure_bind_pos ready, bind_run]
    have first := @watchful_readIdent env maxBannerLines h short
    rcases ran : (readIdent env maxBannerLines).run h with ⟨o, h₁⟩
    rw [ran] at first
    cases o with
    | err e => exact first
    | stuck => exact first
    | ok _ => exact order.trans first (rest h₁)
  · rw [ensure_bind_neg ready]
    exact order.refl h

/-- A deadline of zero is past at the first line. -/
theorem handshake_overdue {h : Host Server} (zero : h.self.handshakeDeadlineMs = 0) (past : 0 < env.clock h.tick) :
    ∃ e h', (handshakeToEncrypted noxtls env).run h = (.err e, h') ∧
      ∃ new, h'.trace = h.trace ++ new ∧ ∀ e ∈ new, Deaf e.1 := by
  let after : Host Server := ⟨h.self, h.tick + 1, h.inbox, h.trace ++ [(.expired, h.self)]⟩
  have looked : (deadline env lineExpired).run h = (.err .failed, after) := by
    rw [deadline, ask_bind_run, self_bind_run, if_pos (by simpa [lineExpired, zero] using past)]
    rfl
  have first : (lineLoop env (deadline env lineExpired) 255 (h.inbox.length + 1) []).run h =
      (.err .failed, after) := by
    rw [lineLoop, if_pos (by simp), bind_err looked]
  have line : (recvLine env 256).run h = (.err .failed, after) := bind_err first
  rw [handshakeToEncrypted, self_bind_run]
  by_cases ready : h.self.hostKeyReady = true
  · rw [ensure_bind_pos ready, maxBannerLines, readIdent]
    exact ⟨.failed, after, bind_err (bind_err (failAs_err line)), _, rfl, by simp [Deaf]⟩
  · rw [ensure_bind_neg ready]
    exact ⟨_, h, rfl, [], by simp, by simp⟩

end Watch

/-- **The login deadline.**  In every run over a clock that does not go back, whatever the
client sends, if none of its lines fills the line buffer: each call of the receive callback
before a session has started comes right after a look that found the deadline not past. -/
theorem login_deadline_binds (noxtls : Noxtls) (env : Env) (clock : Monotone env.clock) (setup : Setup)
    (inbox : List UInt8) (turns : Nat) (short : Unfilled maxBannerLines inbox) :
    ∀ e ∈ (served noxtls env setup inbox turns).trace, ∀ looked, e.1 = .receiving looked →
      e.2.sessionStarted = false → ∃ now, looked = some now ∧ now ≤ e.2.handshakeDeadlineMs := by
  intro e mem looked called early
  have order := watchful_plain.toStepOrder
  let start : Host Server := ⟨setHandshakeDeadline (wrap64 (env.clock 0 + 30000)) setup.server, 1, inbox, []⟩
  have is : served noxtls env setup inbox turns = ((failAs .failed (handshakeToEncrypted noxtls env) >>= fun _ =>
      serveLoop noxtls env turns turns 0).run start).2 := rfl
  rw [is] at mem
  by_cases zero : start.self.handshakeDeadlineMs = 0
  · -- the sum wrapped around to zero, so the clock is not at zero
    have past : 0 < env.clock start.tick := by
      have later : env.clock 0 ≤ env.clock 1 := clock (by decide)
      have wrapped : wrap64 (env.clock 0 + 30000) = 0 := zero
      rw [wrap64] at wrapped
      show 0 < env.clock 1
      omega
    obtain ⟨code, h', ran, new, grown, deaf⟩ := @handshake_overdue noxtls env start zero past
    rw [bind_err (failAs_err ran), grown] at mem
    exact absurd called (deaf e (by simpa [start] using mem) looked)
  · have watched : Watchful start ((failAs .failed (handshakeToEncrypted noxtls env) >>= fun _ =>
        serveLoop noxtls env turns turns 0).run start).2 := by
      have first := @watchful_handshake noxtls env start short
      rw [bind_run, failAs_run]
      rcases ran : (handshakeToEncrypted noxtls env).run start with ⟨o, h₁⟩
      rw [ran] at first
      cases o with
      | err e => exact first
      | stuck => exact first
      | ok _ => exact order.trans first (watchful_serveLoop turns turns 0 h₁)
    obtain ⟨-, new, grown, fine⟩ := watched
    rw [grown] at mem
    obtain ⟨checked, same⟩ := fine e (by simpa [start] using mem)
    obtain ⟨now, rfl, inTime⟩ := checked looked called
    refine ⟨now, rfl, ?_⟩
    rw [handshakeExpired, early, same] at inTime
    rw [same]
    simpa [zero] using inTime

/-- A server that only has to read lines. -/
def listening : Setup where
  transportFd := 3
  serverIdent := ascii "SSH-2.0-noxsshd_0.1"
  hostEd25519Sk := zeros 32
  hostEd25519Pk := zeros 32
  hostKeyReady := true
  publickeyAllowedCb := true
  rekeyThresholdBytes := 0

theorem login_deadline_binds_short :
    (served Sample.noxtls calm listening (ascii "SSH-2.0-a") 1).trace.any
        (fun e => decide (e.1 = .receiving (some 1000))) = true ∧
      ∀ e ∈ (served Sample.noxtls calm listening (ascii "SSH-2.0-a") 1).trace, ∀ looked,
        e.1 = .receiving looked → e.2.sessionStarted = false → ∃ now, looked = some now ∧ now ≤ e.2.handshakeDeadlineMs := by
  refine ⟨by decide +kernel, ?_⟩
  apply login_deadline_binds Sample.noxtls calm (fun _ _ _ => le_rfl) listening _ 1
  refine ⟨by decide +kernel, fun other => ?_⟩
  exact absurd other (by decide +kernel)

/-- A line of 256 bytes: the last is received without a look at the clock. -/
theorem overlong_line_unchecked :
    ¬ ∀ e ∈ (served Sample.noxtls calm listening (List.replicate 256 97) 1).trace, ∀ looked,
      e.1 = .receiving looked → e.2.sessionStarted = false → ∃ now, looked = some now ∧ now ≤ e.2.handshakeDeadlineMs := by
  intro checked
  have called : (served Sample.noxtls calm listening (List.replicate 256 97) 1).trace.any
      (fun e => decide (e.1 = .receiving none) && !e.2.sessionStarted) = true := by
    decide +kernel
  obtain ⟨e, mem, both⟩ := List.any_eq_true.1 called
  simp only [Bool.and_eq_true, decide_eq_true_eq, Bool.not_eq_true'] at both
  obtain ⟨now, none, -⟩ := checked e mem none both.1 both.2
  cases none

end NoxSsh.Server
