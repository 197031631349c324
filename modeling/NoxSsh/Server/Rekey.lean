/-
# Server.Rekey — what the byte limit on one key holds back

The server does not exchange keys a second time: it counts bytes in both
directions and ends the connection when a count reaches the limit.  The test
stands at the top of a session's turns and, in `serve_one`, behind a received
packet, after a packet without payload has been skipped.  So a run stands
(`Stand`) before the limit, or it is past it and only finishes a turn; from there
one more packet ends it, unless that packet is empty.

Where no empty packet comes after the limit, one more packet is received, either
count exceeds the limit by a few packets, and with the default limit no sequence
number wraps (`rekey_limit`).
-/
import NoxSsh.Server.Talk
import NoxSsh.Server.Ledger

namespace NoxSsh.Server

open Theory Proc Wire Transport

set_option autoImplicit false

/-! ## The tally -/

/-- What the byte counts say about the packets of a trace. -/
structure Tally (h : Host Server) : Prop where
  sent : minFrame * (pick Event.sent? h.trace).length ≤ h.self.encryptedBytesSent + 3 * minFrame
  sendSeq : (pick Event.sent? h.trace).length < 4294967296 → h.self.sendSeq = (pick Event.sent? h.trace).length
  recv : ∃ j, (pick Event.received? h.trace).length ≤ j ∧ minFrame * j ≤ h.self.encryptedBytesRecv + 3 * minFrame ∧
    (j < 4294967296 → h.self.recvSeq = j)

theorem Tally.cost {a b : Nat} {h h' : Host Server} (tally : Tally h) (encrypted : h.self.keyExchangeComplete = true)
    (cost : Cost a b h h') (room : Roomy a b h.self) : Tally h' := by
  obtain ⟨new, j, grown, -, recvs, -, metered, -⟩ := cost room
  have sent := metered.sentMore encrypted
  have recv := metered.recvMore encrypted
  obtain ⟨k, heard, bytes, seq⟩ := tally.recv
  have tallyed := tally.sent
  simp only [meter, minFrame_eq] at sent recv tallyed bytes
  refine ⟨?_, fun few => ?_, k + j, ?_, ?_, fun few => ?_⟩
  · rw [grown, pick_append, List.length_append, minFrame_eq]
    omega
  · rw [grown, pick_append, List.length_append] at few ⊢
    have before := tally.sendSeq (by omega)
    have after := metered.sendSeq
    simp only [meter] at after
    omega
  · rw [grown, pick_append, List.length_append]
    omega
  · rw [minFrame_eq]
    omega
  · have before := seq (by omega)
    have after := metered.recvSeq
    simp only [meter] at after
    omega

/-! ## Where a run stands -/

/-- Once the limit is reached, at most `b` packets are received. -/
def Overrun (b : Nat) (trace : List (Event × Server)) : Prop :=
  ∀ before e after, trace = before ++ e :: after → rekeyDue e.2 = true → (pick Event.received? after).length ≤ b

theorem overrun_of_none {b : Nat} {trace : List (Event × Server)} (none : ∀ e ∈ trace, rekeyDue e.2 = false) :
    Overrun b trace := by
  rintro before e after rfl due
  rw [none e (by simp)] at due
  cases due

theorem Overrun.append {b c : Nat} {trace new : List (Event × Server)} (overrun : Overrun b trace)
    (few : (pick Event.received? new).length ≤ c) : Overrun (b + c) (trace ++ new) := by
  intro before e after is due
  rcases List.append_eq_append_iff.1 is with ⟨more, rfl, rest⟩ | ⟨more, rfl, rest⟩
  · rw [rest, pick_append, List.length_append, ← List.singleton_append, pick_append, List.length_append] at few
    omega
  · cases more with
    | nil =>
        rw [List.nil_append] at rest
        rw [← rest, ← List.singleton_append, pick_append, List.length_append] at few
        omega
    | cons e' more =>
        obtain ⟨rfl, rfl⟩ := List.cons.inj rest
        have here := overrun before e more rfl due
        have whole : pick Event.received? (more ++ new) = pick Event.received? more ++ pick Event.received? new :=
          pick_append _ _ _
        exact (congrArg List.length whole).trans_le (by rw [List.length_append]; omega)

/-- The same about the event at place `i`. -/
theorem Overrun.drop {b : Nat} {seen : List (Event × Server)} (overrun : Overrun b seen) (i : Nat)
    (due : seen[i]?.map (fun e => rekeyDue e.2) = some true) :
    (pick Event.received? (seen.drop (i + 1))).length ≤ b := by
  obtain ⟨e, is, due⟩ := Option.map_eq_some_iff.1 due
  obtain ⟨inside, rfl⟩ := List.getElem?_eq_some_iff.1 is
  refine overrun (seen.take i) seen[i] _ ?_ due
  rw [← List.drop_eq_getElem_cons inside, List.take_append_drop]

/-- Before the limit `t`. -/
structure Calm (t : Nat) (h : Host Server) : Prop where
  threshold : h.self.rekeyThresholdBytes = t
  early : rekeyDue h.self = false
  always : ∀ e ∈ h.trace, rekeyDue e.2 = false
  tally : Tally h

/-- Before the limit, with keys. -/
structure Fresh (t : Nat) (h : Host Server) : Prop extends Calm t h where
  encrypted : h.self.keyExchangeComplete = true

/-- At most `a` packets past the limit `t` out and `b + 1` in, `b` of them received. -/
structure Past (t a b : Nat) (h : Host Server) : Prop where
  threshold : h.self.rekeyThresholdBytes = t
  encrypted : h.self.keyExchangeComplete = true
  overrun : Overrun b h.trace
  sent : h.self.encryptedBytesSent ≤ t + maxFrame * a
  recv : h.self.encryptedBytesRecv ≤ t + maxFrame * (b + 1)
  tally : Tally h

/-- Before the limit, or past it by the packets of one turn. -/
def Stand (t a : Nat) (h : Host Server) : Prop :=
  Fresh t h ∨ (Past t a 0 h ∧ rekeyDue h.self = true)

theorem rekeyDue_false {s : Server} (limit : s.rekeyThresholdBytes ≠ 0) (early : rekeyDue s = false) :
    s.encryptedBytesSent < s.rekeyThresholdBytes ∧ s.encryptedBytesRecv < s.rekeyThresholdBytes := by
  simp only [rekeyDue, Bool.and_eq_false_iff, Bool.or_eq_false_iff, decide_eq_false_iff_not] at early
  omega

theorem Fresh.past {t a b : Nat} {h : Host Server} (fresh : Fresh t h) (limit : t ≠ 0) : Past t a b h where
  threshold := fresh.threshold
  encrypted := fresh.encrypted
  overrun := overrun_of_none fresh.always
  sent := by
    have early := rekeyDue_false (fresh.threshold ▸ limit) fresh.early
    have := fresh.threshold
    omega
  recv := by
    have early := rekeyDue_false (fresh.threshold ▸ limit) fresh.early
    have := fresh.threshold
    omega
  tally := fresh.tally

theorem Stand.mono {t a a' : Nat} {h : Host Server} (stand : Stand t a h) (more : a ≤ a') : Stand t a' h := by
  refine stand.imp id ?_
  rintro ⟨past, due⟩
  have most := Nat.mul_le_mul_left maxFrame more
  exact ⟨⟨past.threshold, past.encrypted, past.overrun, past.sent.trans (by omega), past.recv,
    past.tally⟩, due⟩

theorem Stand.fresh {t a : Nat} {h : Host Server} (stand : Stand t a h) (early : rekeyDue h.self = false) :
    Fresh t h := by
  rcases stand with fresh | ⟨-, due⟩
  · exact fresh
  · rw [early] at due
    cases due

/-- The limit leaves room for a turn's packets in the byte counts. -/
def Ample (t : Nat) : Prop := t ≠ 0 ∧ t + maxFrame * 6 < 18446744073709551616

theorem Past.roomy {t a b n : Nat} {h : Host Server} (past : Past t a 0 h) (ample : Ample t)
    (few : a + n ≤ 5) (few' : b ≤ 1) : Roomy n b h.self := by
  have sent := past.sent
  have recv := past.recv
  have room := ample.2
  rw [maxFrame_eq] at sent recv room
  refine ⟨?_, ?_⟩ <;> rw [maxFrame_eq] <;> omega

/-! ## What one step does -/

/-- A few sends. -/
theorem Stand.cost {t a n : Nat} {h h' : Host Server} (stand : Stand t a h) (ample : Ample t) (few : a + n ≤ 5)
    (cost : Cost n 0 h h') : Stand t (a + n) h' := by
  have past : Past t a 0 h := stand.elim (fun fresh => fresh.past ample.1) fun late => late.1
  have room := past.roomy ample few (Nat.zero_le 1)
  have tally := past.tally.cost past.encrypted cost room
  obtain ⟨new, j, grown, sends, recvs, none, metered, later⟩ := cost room
  have threshold : h'.self.rekeyThresholdBytes = t := metered.threshold.trans past.threshold
  have encrypted : h'.self.keyExchangeComplete = true := metered.encrypted.trans past.encrypted
  have sent := metered.sent
  have recv := metered.recv
  simp only [meter] at sent recv
  have most := Nat.mul_le_mul_left maxFrame sends
  by_cases due : rekeyDue h'.self = true
  · refine .inr ⟨⟨threshold, encrypted, ?_, ?_, ?_, tally⟩, due⟩
    · rw [grown]
      exact past.overrun.append (recvs.trans none)
    · have := past.sent
      rw [Nat.mul_add]
      omega
    · have := past.recv
      obtain rfl : j = 0 := by omega
      omega
  · -- the limit is still ahead, so it was before
    rw [Bool.not_eq_true] at due
    have early : rekeyDue h.self = false := by
      by_contra late
      rw [Bool.not_eq_false] at late
      rw [metered.due late] at due
      cases due
    have fresh := stand.fresh early
    refine .inl ⟨⟨threshold, due, fun e mem => ?_, tally⟩, encrypted⟩
    rw [grown, List.mem_append] at mem
    rcases mem with old | new
    · exact fresh.always e old
    · by_contra late
      rw [Bool.not_eq_false] at late
      rw [later e new late] at due
      cases due

theorem Heard.cost {h : Host Server} {r : Outcome NetnoxReturn (List UInt8 × Mem) × Host Server} (heard : Heard h r) :
    Cost 0 1 h r.2 := by
  intro room
  obtain ⟨new, last, j, grown, kept, short, few, metered, ends⟩ := heard
  have metered := metered room
  have quiet : pick Event.sent? new = [] := pick_eq_nil fun e mem => (kept e mem).1.silent.1
  have deaf : pick Event.received? new = [] := pick_eq_nil fun e mem => (kept e mem).1.silent.2
  have none : pick Event.sent? last = [] := by
    rcases ends with ⟨-, rfl⟩ | ⟨payload, m, -, rfl⟩ <;> rfl
  have some : (pick Event.received? last).length ≤ last.length := List.length_filterMap_le _ _
  refine ⟨new ++ last, j, by rw [grown, List.append_assoc], ?_, ?_, few, ?_, ?_⟩
  · rw [pick_append, quiet, none]
    exact le_rfl
  · rw [pick_append, deaf]
    exact some.trans short
  · rw [pick_append, quiet, none]
    exact metered
  · intro e mem due
    rcases List.mem_append.1 mem with mem | mem
    · rw [rekeyDue_of_meter (kept e mem).2] at due
      exact metered.due due
    · rcases ends with ⟨-, rfl⟩ | ⟨payload, m, -, rfl⟩
      · cases mem
      · rw [List.mem_singleton] at mem
        rwa [mem] at due

/-- A packet before the limit. -/
theorem Fresh.heard {t : Nat} {h : Host Server} {r : Outcome NetnoxReturn (List UInt8 × Mem) × Host Server}
    (fresh : Fresh t h) (ample : Ample t) (heard : Heard h r) : Stand t 0 r.2 := by
  have past : Past t 0 0 h := fresh.past ample.1
  have room : Roomy 0 1 h.self := past.roomy ample (by decide) le_rfl
  have cost := heard.cost
  have tally := past.tally.cost past.encrypted cost room
  obtain ⟨new, last, j, grown, kept, short, few, metered, ends⟩ := heard
  have metered := metered room
  have threshold : r.2.self.rekeyThresholdBytes = t := metered.threshold.trans past.threshold
  have encrypted : r.2.self.keyExchangeComplete = true := metered.encrypted.trans past.encrypted
  have before : ∀ e ∈ h.trace ++ new, rekeyDue e.2 = false := by
    intro e mem
    rcases List.mem_append.1 mem with old | mem
    · exact fresh.always e old
    · rw [rekeyDue_of_meter (kept e mem).2]
      exact fresh.early
  have recv := metered.recv
  have sent := metered.sent
  simp only [meter] at sent recv
  have most := Nat.mul_le_mul_left maxFrame few
  by_cases due : rekeyDue r.2.self = true
  · refine .inr ⟨⟨threshold, encrypted, ?_, ?_, ?_, tally⟩, due⟩
    · -- only the last event can show it
      rw [grown]
      intro before' e after is late
      rcases List.append_eq_append_iff.1 is with ⟨more, rfl, rest⟩ | ⟨more, is', rest⟩
      · rcases ends with ⟨-, rfl⟩ | ⟨payload, m, -, rfl⟩
        · simp at rest
        · cases more with
          | nil =>
              obtain ⟨-, rfl⟩ := List.cons.inj rest
              exact le_rfl
          | cons e' more => simp at rest
      · cases more with
        | nil =>
            rcases ends with ⟨-, rfl⟩ | ⟨payload, m, -, rfl⟩
            · simp at rest
            · obtain ⟨-, rfl⟩ := List.cons.inj rest
              exact le_rfl
        | cons e' more =>
            obtain ⟨rfl, -⟩ := List.cons.inj rest
            rw [before e (by rw [is']; simp)] at late
            cases late
    · have := past.sent
      omega
    · have := past.recv
      have early := rekeyDue_false (fresh.threshold ▸ ample.1) fresh.early
      have limit := fresh.threshold
      omega
  · rw [Bool.not_eq_true] at due
    refine .inl ⟨⟨threshold, due, fun e mem => ?_, tally⟩, encrypted⟩
    rw [grown, List.mem_append] at mem
    rcases mem with mem | mem
    · exact before e mem
    · rcases ends with ⟨-, rfl⟩ | ⟨payload, m, -, rfl⟩
      · cases mem
      · rw [List.mem_singleton] at mem
        rw [mem]
        exact due

/-- A packet past the limit. -/
theorem Past.heard {t a : Nat} {h : Host Server} {r : Outcome NetnoxReturn (List UInt8 × Mem) × Host Server}
    (past : Past t a 0 h) (few : a ≤ 5) (ample : Ample t) (heard : Heard h r) : Past t a 1 r.2 := by
  have room : Roomy 0 1 h.self := past.roomy ample few le_rfl
  have cost := heard.cost
  have tally := past.tally.cost past.encrypted cost room
  obtain ⟨new, j, grown, sends, recvs, none, metered, -⟩ := cost room
  have sent := metered.sent
  have recv := metered.recv
  simp only [meter] at sent recv
  have most := Nat.mul_le_mul_left maxFrame none
  refine ⟨metered.threshold.trans past.threshold, metered.encrypted.trans past.encrypted, ?_, ?_, ?_, tally⟩
  · rw [grown]
    exact past.overrun.append (recvs.trans none)
  · have := past.sent
    have zero : (pick Event.sent? new).length = 0 := by omega
    rw [zero] at sent
    omega
  · have := past.recv
    omega

/-! ## The session -/

section Session

variable {noxtls : Noxtls} {env : Env} {t : Nat}

theorem leads_talks {α : Type} {lost : Option UInt8 → α → Prop} {m : Prog Server α} {a n b : Nat} (ample : Ample t)
    (talks : Talks noxtls env n lost m) (few : a + n ≤ b) (fits : b ≤ 5) : Leads (Stand t a) (Stand t b) m :=
  fun h stand => (stand.cost ample (few.trans fits) (talks h).1).mono few

theorem leads_mute {α : Type} {m : Prog Server α} {a b : Nat} (ample : Ample t) (mute : Always Tacit m)
    (more : a ≤ b) (fits : b ≤ 5) : Leads (Stand t a) (Stand t b) m :=
  fun h stand => (stand.cost ample (more.trans fits) (mute h).cost).mono more

/-- From before the limit, what leads on from any stand. -/
theorem leads_fresh {α : Type} {m : Prog Server α} {b : Nat} (leads : Leads (Stand t 0) (Stand t b) m) :
    Leads (Fresh t) (Stand t b) m :=
  leads.mono (fun _ fresh => .inl fresh) fun _ => id

theorem fresh_mute {α : Type} {m : Prog Server α} (ample : Ample t) (mute : Always Tacit m) :
    Leads (Fresh t) (Fresh t) m := by
  intro h fresh
  have stand := leads_mute ample mute (Nat.zero_le 0) (by decide) h (.inl fresh)
  refine Stand.fresh stand ?_
  rw [rekeyDue_of_meter (mute h).1]
  exact fresh.early

/-- A mute step before the limit. -/
theorem fresh_bind {α β : Type} {m : Prog Server α} {k : α → Prog Server β} {a : Nat} (ample : Ample t)
    (mute : Always Tacit m) (rest : ∀ x, Leads (Fresh t) (Stand t a) (k x)) :
    Leads (Fresh t) (Stand t a) (m >>= k) :=
  leads_bind (fresh_mute ample mute) rest fun _ fresh => .inl fresh

theorem stand_sessionTurn (ample : Ample t) (child : Child) :
    Leads (Stand t 5) (Stand t 5) (sessionTurn noxtls env child) := by
  intro h stand
  rw [sessionTurn, self_bind_run]
  by_cases due : rekeyDue h.self = true
  · rw [if_pos due]
    exact stand
  rw [if_neg due]
  rw [Bool.not_eq_true] at due
  have fresh := stand.fresh due
  have goesOn : ∀ ready, Leads (Fresh t) (Stand t 5) (sessionChild noxtls env child ready) := fun ready =>
    leads_fresh (leads_talks ample (talks_sessionChild child ready) (by decide) le_rfl)
  have still : ∀ turn : Turn, Leads (Fresh t) (Stand t 5) (pure turn : Prog Server Turn) := fun turn =>
    fun _ fresh => .inl fresh
  have asked : Fresh t { h with tick := h.tick + 1 } := ⟨⟨fresh.threshold, fresh.early, fresh.always,
    ⟨fresh.tally.sent, fresh.tally.sendSeq, fresh.tally.recv⟩⟩, fresh.encrypted⟩
  rw [ask_bind_run]
  cases env.poll h.tick with
  | interrupted => exact still _ _ asked
  | error => exact still _ _ asked
  | timeout => exact leads_ite (goesOn _) (still _) _ asked
  | ready transport output =>
      refine leads_ite (still _) (leads_ite ?_ (goesOn _)) _ asked
      refine leads_bind (leads_attempt ?_) (fun got => ?_) fun _ after => Stand.mono after (Nat.zero_le 5)
      · exact fun h fresh => fresh.heard ample (heard_recvInto noxtls env maxPacketLen h)
      · cases got with
        | none => exact leads_mute ample (always_pure mute_order _) (Nat.zero_le 5) le_rfl
        | some got => exact leads_talks ample (talks_sessionAnswer child _ got.1 got.2) (by decide) le_rfl

theorem stand_sessionLoop (ample : Ample t) (turns : Nat) :
    ∀ child, Leads (Stand t 5) (Stand t 5) (sessionLoop noxtls env turns child) := by
  induction turns with
  | zero => exact fun child _ stand => stand
  | succ turns ih =>
      intro child
      refine leads_bind (stand_sessionTurn ample child) (fun turn => ?_) fun _ => id
      cases turn with
      | again child => exact ih child
      | complete => exact fun _ => id
      | broken peerClosed =>
          have ends : Always Tacit (do
              modify (setChannelOpen false)
              if peerClosed then pure () else fail .failed : Prog Server Unit) :=
            always_bind mute_order (always_modify fun _ => rfl) fun _ =>
              always_ite (always_pure mute_order ()) (always_fail mute_order _)
          exact leads_mute ample ends le_rfl le_rfl

theorem stand_runSessionUnix (ample : Ample t) (turns : Nat) (command : Option (List UInt8)) :
    Leads (Stand t 5) (Stand t 5) (runSessionUnix noxtls env turns command) := by
  have mute : ∀ {α : Type} {m : Prog Server α}, Always Tacit m → Leads (Stand t 5) (Stand t 5) m :=
    fun always => leads_mute ample always le_rfl le_rfl
  refine leads_bind (mute always_self) (fun s => ?_) fun _ => id
  refine leads_bind (mute (always_ensure mute_order _ _)) (fun _ => ?_) fun _ => id
  refine leads_bind (mute (always_log ⟨rfl, rfl⟩)) (fun _ => ?_) fun _ => id
  refine leads_bind (mute (always_modify fun _ => rfl)) (fun _ => ?_) fun _ => id
  refine leads_bind (mute (always_ask _)) (fun forked => ?_) fun _ => id
  refine leads_bind (mute (always_ensure mute_order _ _)) (fun _ => ?_) fun _ => id
  exact stand_sessionLoop ample turns _

/-! ## A packet in `serve_one` -/

theorem stand_runAndClose (ample : Ample t) (turns : Nat) (wantReply : Bool) (command : Option (List UInt8))
    (closeDeadlineMs : Nat) :
    Leads (Fresh t) (Stand t 5) (runAndClose noxtls env turns wantReply command closeDeadlineMs) := by
  have confirms : Leads (Fresh t) (Stand t 5) (confirm noxtls env wantReply) :=
    leads_fresh (leads_talks ample (talks_confirm wantReply) (by decide) le_rfl)
  refine leads_bind confirms (fun _ => ?_) fun _ => id
  refine leads_bind (leads_failAs _ (stand_runSessionUnix ample turns command)) (fun _ => ?_) fun _ => id
  exact leads_mute ample (always_failAs _ (mute_beginCloseWait _)) le_rfl le_rfl

theorem stand_channelRequest (ample : Ample t) (turns closeDeadlineMs : Nat) (payload : List UInt8) (m : Mem) :
    Leads (Fresh t) (Stand t 5) (channelRequest noxtls env turns closeDeadlineMs payload m) := by
  have still : Leads (Fresh t) (Stand t 5) (pure closeDeadlineMs : Prog Server Nat) := fun _ fresh => .inl fresh
  have refuses : ∀ wantReply, Leads (Fresh t) (Stand t 5) (do
      refuse noxtls env wantReply
      pure closeDeadlineMs) := fun wantReply =>
    leads_fresh (leads_bind (leads_talks ample (talks_refuse wantReply) (by decide) le_rfl)
      (fun _ _ => id) fun _ => id)
  have ends : ∀ wantReply command, Leads (Fresh t) (Stand t 5)
      (runAndClose noxtls env turns wantReply command closeDeadlineMs) := fun wantReply command =>
    stand_runAndClose ample turns wantReply command closeDeadlineMs
  refine fresh_bind ample always_self fun s => leads_ite still ?_
  refine fresh_bind ample (always_lift mute_order _ _) fun chan => leads_ite still ?_
  refine fresh_bind ample (always_lift mute_order _ _) fun req => ?_
  refine fresh_bind ample (always_ensure mute_order _ _) fun _ => ?_
  refine fresh_bind ample always_self fun s => leads_ite ?_ (leads_ite ?_ (leads_ite ?_ (refuses _)))
  · split
    · exact refuses _
    · refine fresh_bind ample (always_modify fun _ => rfl) fun _ => leads_fresh ?_
      exact leads_bind (leads_talks ample (talks_confirm _) (by decide) le_rfl) (fun _ _ => id) fun _ => id
  · split
    · exact refuses _
    · exact ends _ _
  · exact leads_ite (refuses _) (ends _ _)

theorem stand_dispatch (ample : Ample t) (turns closeDeadlineMs : Nat) (payload : List UInt8) (m : Mem) :
    Leads (Fresh t) (Stand t 5) (dispatch noxtls env turns closeDeadlineMs payload m) := by
  by_cases request : payload.head? = some 98
  · rw [dispatch, request]
    exact leads_bind (stand_channelRequest ample turns closeDeadlineMs payload m) (fun _ _ => id) fun _ => id
  by_cases data : payload.head? = some 94
  · exact leads_fresh (leads_talks ample (talks_dispatch_data turns closeDeadlineMs m data) (by decide) le_rfl)
  · exact leads_fresh (leads_talks ample (talks_dispatch turns closeDeadlineMs m request data) (by decide) le_rfl)

end Session

/-! ## The loop -/

/-- A packet without payload comes in only while the limit was never reached. -/
def Filled (trace : List (Event × Server)) : Prop :=
  ∀ before s after, trace = before ++ (.received [], s) :: after → ∀ e ∈ before, rekeyDue e.2 = false

section Loop

variable {noxtls : Noxtls} {env : Env} {t : Nat}

theorem grows_order : StepOrder Grows := ⟨grows_refl, Grows.trans⟩

theorem always_grows {α : Type} {m : Prog Server α} (quiet : Always (Quiet (fun _ => True) fun _ => ()) m) :
    Always Grows m :=
  always_mono quiet fun _ _ => grows_of_quiet

theorem grows_serveTurn (turns closeDeadlineMs : Nat) :
    Always Grows (serveTurn noxtls env turns closeDeadlineMs) := by
  have quiet : ∀ {α : Type} {m : Prog Server α}, Always (Quiet (fun _ => True) fun _ => ()) m → Always Grows m :=
    fun always => always_grows always
  have receives : Always (Quiet (fun _ => True) fun _ => ()) (recvInto noxtls env maxPacketLen) :=
    always_recvInto ⟨⟨fun _ => trivial, trivial, trivial⟩, fun _ _ => trivial, fun _ _ => trivial⟩ passive_unit
      ⟨fun _ => trivial, fun _ => trivial⟩ _
  refine always_bind grows_order (always_attempt (quiet receives)) fun got => ?_
  cases got with
  | none => exact always_pure grows_order _
  | some got =>
      refine always_ite (always_pure grows_order _) ?_
      refine always_bind grows_order (quiet always_self) fun s => ?_
      refine always_bind grows_order (always_ensure grows_order _ _) fun _ => ?_
      exact grows_dispatch turns closeDeadlineMs got.1 got.2

theorem grows_serveLoop (sessionTurns turns : Nat) :
    ∀ closeDeadlineMs, Always Grows (serveLoop noxtls env sessionTurns turns closeDeadlineMs) := by
  induction turns with
  | zero => exact fun _ => always_stall grows_order
  | succ turns ih =>
      intro closeDeadlineMs
      refine always_bind grows_order (always_grows (always_log trivial)) fun _ => ?_
      refine always_bind grows_order (always_grows (always_packetReady _)) fun ready => ?_
      cases ready with
      | retry => exact ih _
      | «over» => exact always_pure grows_order _
      | error => exact always_fail grows_order _
      | readable =>
          refine always_bind grows_order (grows_serveTurn _ _) fun next => ?_
          cases next with
          | done => exact always_pure grows_order _
          | again closeDeadlineMs => exact ih _

/-- A turn that starts before the limit. -/
theorem stand_serveTurn (ample : Ample t) (turns closeDeadlineMs : Nat) :
    Leads (Fresh t) (Stand t 5) (serveTurn noxtls env turns closeDeadlineMs) := by
  refine leads_bind (leads_attempt ?_) (fun got => ?_) fun _ after => Stand.mono after (Nat.zero_le 5)
  · exact fun h fresh => fresh.heard ample (heard_recvInto noxtls env maxPacketLen h)
  have still : ∀ next : Next, Leads (Stand t 0) (Stand t 5) (pure next : Prog Server Next) :=
    fun next => leads_mute ample (always_pure mute_order _) (Nat.zero_le 5) le_rfl
  cases got with
  | none => exact still _
  | some got =>
      refine leads_ite (still _) ?_
      intro h stand
      rw [self_bind_run]
      by_cases early : rekeyDue h.self = false
      · rw [ensure_bind_pos early]
        exact stand_dispatch ample turns closeDeadlineMs got.1 got.2 h (stand.fresh early)
      · rw [ensure_bind_neg early]
        exact Stand.mono stand (Nat.zero_le 5)

/-- A turn that starts past the limit is the last, unless its packet is empty. -/
theorem past_serveTurn (ample : Ample t) (turns closeDeadlineMs : Nat) {h : Host Server} (past : Past t 5 0 h)
    (due : rekeyDue h.self = true) :
    Past t 5 1 ((serveTurn noxtls env turns closeDeadlineMs).run h).2 ∧
      ∀ d, ((serveTurn noxtls env turns closeDeadlineMs).run h).1 = .ok (.again d) →
        ∃ new s, ((serveTurn noxtls env turns closeDeadlineMs).run h).2.trace =
          h.trace ++ new ++ [(.received [], s)] := by
  have heard := heard_recvInto noxtls env maxPacketLen h
  have after := past.heard le_rfl ample heard
  have room : Roomy 0 1 h.self := past.roomy ample le_rfl le_rfl
  obtain ⟨new, last, j, grown, -, -, -, metered, ends⟩ := heard
  have still := (metered room).due due
  rw [serveTurn, bind_run, attempt_run]
  revert after grown ends still
  rcases (recvInto noxtls env maxPacketLen).run h with ⟨o, h'⟩
  intro after grown ends still
  cases o with
  | err e => exact ⟨after, fun d is => by cases is⟩
  | stuck => exact ⟨after, fun d is => by cases is⟩
  | ok got =>
      obtain ⟨payload, m⟩ := got
      rcases ends with ⟨none, -⟩ | ⟨payload', m', is, rfl⟩
      · exact absurd rfl (none (payload, m))
      obtain ⟨rfl, rfl⟩ := Prod.mk.inj (Outcome.ok.inj is)
      dsimp only
      by_cases empty : payload = []
      · rw [if_pos empty]
        subst empty
        exact ⟨after, fun d _ => ⟨new, h'.self, grown⟩⟩
      · have stops : ¬ rekeyDue h'.self = false := by simpa using still
        rw [if_neg empty, self_bind_run, ensure_bind_neg stops]
        exact ⟨after, fun d is => by cases is⟩

theorem Stand.past {h : Host Server} (stand : Stand t 5 h) (ample : Ample t) : Past t 5 1 h := by
  rcases stand with fresh | ⟨past, -⟩
  · exact fresh.past ample.1
  · refine ⟨past.threshold, past.encrypted, fun before e after is due => ?_, past.sent, past.recv.trans (by omega),
      past.tally⟩
    exact (past.overrun before e after is due).trans (Nat.zero_le 1)

theorem past_serveLoop (ample : Ample t) (sessionTurns turns : Nat) (closeDeadlineMs : Nat) (h : Host Server)
    (stand : Stand t 5 h)
    (filled : Filled ((serveLoop noxtls env sessionTurns turns closeDeadlineMs).run h).2.trace) :
    Past t 5 1 ((serveLoop noxtls env sessionTurns turns closeDeadlineMs).run h).2 := by
  induction turns generalizing closeDeadlineMs h with
  | zero => exact stand.past ample
  | succ turns ih =>
      revert filled
      rw [serveLoop, log_bind_run, bind_run]
      have mute : Tacit h ((packetReady env closeDeadlineMs).run
          { h with trace := h.trace ++ [(.serving closeDeadlineMs, h.self)] }).2 :=
        mute_order.trans (always_log ⟨rfl, rfl⟩ h) (always_packetReady closeDeadlineMs _)
      have stand₁ : Stand t 5 ((packetReady env closeDeadlineMs).run
          { h with trace := h.trace ++ [(.serving closeDeadlineMs, h.self)] }).2 :=
        stand.cost ample (by decide) mute.cost
      have grown : Grows { h with trace := h.trace ++ [(.serving closeDeadlineMs, h.self)] }
          ((packetReady env closeDeadlineMs).run
            { h with trace := h.trace ++ [(.serving closeDeadlineMs, h.self)] }).2 :=
        always_grows (always_packetReady closeDeadlineMs) _
      revert mute stand₁ grown
      rcases (packetReady env closeDeadlineMs).run
        { h with trace := h.trace ++ [(.serving closeDeadlineMs, h.self)] } with ⟨o, h₁⟩
      intro mute stand₁ grown
      cases o with
      | err e => exact fun _ => stand₁.past ample
      | stuck => exact fun _ => stand₁.past ample
      | ok ready =>
      cases ready with
      | retry => exact ih _ _ stand₁
      | «over» => exact fun _ => stand₁.past ample
      | error => exact fun _ => stand₁.past ample
      | readable =>
          dsimp only
          rw [bind_run]
          by_cases early : rekeyDue h₁.self = false
          · have stand₂ : Stand t 5 ((serveTurn noxtls env sessionTurns closeDeadlineMs).run h₁).2 :=
              stand_serveTurn ample sessionTurns closeDeadlineMs h₁ (stand₁.fresh early)
            revert stand₂
            rcases (serveTurn noxtls env sessionTurns closeDeadlineMs).run h₁ with ⟨o, h₂⟩
            intro stand₂
            cases o with
            | err e => exact fun _ => stand₂.past ample
            | stuck => exact fun _ => stand₂.past ample
            | ok next =>
                cases next with
                | done => exact fun _ => stand₂.past ample
                | again closeDeadlineMs => exact ih _ _ stand₂
          · rw [Bool.not_eq_false] at early
            rcases stand₁ with fresh | ⟨past, -⟩
            · rw [fresh.early] at early
              cases early
            obtain ⟨past₂, empty⟩ := @past_serveTurn noxtls env t ample sessionTurns closeDeadlineMs h₁ past early
            revert past₂ empty
            rcases (serveTurn noxtls env sessionTurns closeDeadlineMs).run h₁ with ⟨o, h₂⟩
            intro past₂ empty
            cases o with
            | err e => exact fun _ => past₂
            | stuck => exact fun _ => past₂
            | ok next =>
                cases next with
                | done => exact fun _ => past₂
                | again closeDeadlineMs' =>
                    -- the packet was empty, which is excluded from here on
                    intro filled
                    obtain ⟨new, s, is⟩ := empty _ rfl
                    obtain ⟨more, rest⟩ := @grows_serveLoop noxtls env sessionTurns turns closeDeadlineMs' h₂
                    obtain ⟨wait, grown⟩ := grown
                    dsimp only at rest is grown filled
                    have late := filled (h₁.trace ++ new) s more (by rw [rest, is]; simp)
                      (.serving closeDeadlineMs, h.self) (by rw [grown]; simp)
                    rw [← rekeyDue_of_meter mute.1, early] at late
                    cases late

end Loop

/-! ## The handshake -/

/-- `m` costs at most that, and ends with the update `f` if it returns. -/
def Spends {α : Type} (f : Server → Server) (a b : Nat) (m : Prog Server α) : Prop :=
  ∀ h, ∃ u, Cost a b h u ∧
    (((∀ x, (m.run h).1 ≠ .ok x) ∧ (m.run h).2 = u) ∨ (m.run h).2 = { u with self := f u.self })

section Spends

variable {noxtls : Noxtls} {env : Env} {α β : Type} {f : Server → Server} {a b a' b' : Nat} {m : Prog Server α}
  {k : α → Prog Server β}

theorem spends_update (f : Server → Server) : Spends f 0 0 (modify f) :=
  fun h => ⟨h, Cost.refl h, .inr rfl⟩

theorem spends_failAs (e : NetnoxReturn) (spends : Spends f a b m) : Spends f a b (failAs e m) := by
  intro h
  obtain ⟨u, cost, ends⟩ := spends h
  rw [failAs_state]
  refine ⟨u, cost, ends.imp (fun lost => ⟨fun x is => ?_, lost.2⟩) id⟩
  exact lost.1 x (congrArg Prod.fst (failAs_inv (Prod.ext is rfl)))

theorem spends_bind (first : ∀ h, Cost a b h (m.run h).2) (second : ∀ x, Spends f a' b' (k x)) :
    Spends f (a + a') (b + b') (m >>= k) := by
  intro h
  have cost := first h
  rw [bind_run]
  revert cost
  rcases m.run h with ⟨o, t⟩
  intro cost
  cases o with
  | ok x =>
      obtain ⟨u, more, is⟩ := second x t
      exact ⟨u, cost.trans more, is⟩
  | err e => exact ⟨t, cost.mono (Nat.le_add_right _ _) (Nat.le_add_right _ _), .inl ⟨by simp, rfl⟩⟩
  | stuck => exact ⟨t, cost.mono (Nat.le_add_right _ _) (Nat.le_add_right _ _), .inl ⟨by simp, rfl⟩⟩

theorem spends_mute (mute : Always Tacit m) (rest : ∀ x, Spends f a b (k x)) : Spends f a b (m >>= k) := by
  have both := spends_bind (fun h => (mute h).cost) rest
  rwa [Nat.zero_add, Nat.zero_add] at both

/-- A send in the handshake. -/
theorem spends_send {k : Unit → Prog Server β} (payload : List UInt8) (rest : Spends f a b (k ())) :
    Spends f (1 + a) b (failAs .failed (sendPacket noxtls env payload) >>= k) := by
  have costs : ∀ h, Cost 1 0 h ((failAs .failed (sendPacket noxtls env payload)).run h).2 := by
    intro h
    rw [failAs_state]
    exact (talks_sendPacket noxtls env payload h).1
  have both := spends_bind costs fun _ => rest
  rwa [Nat.zero_add] at both

/-- A packet in the handshake. -/
theorem spends_receive {k : List UInt8 × Mem → Prog Server β} (payloadMax : Nat)
    (rest : ∀ got, Spends f a b (k got)) :
    Spends f a (1 + b) (failAs .failed (recvInto noxtls env payloadMax) >>= k) := by
  have costs : ∀ h, Cost 0 1 h ((failAs .failed (recvInto noxtls env payloadMax)).run h).2 := by
    intro h
    rw [failAs_state]
    exact (heard_recvInto noxtls env payloadMax h).cost
  have both := spends_bind costs rest
  rwa [Nat.zero_add] at both

theorem spends_exchangeKexinit : Spends id (1 + 0) (1 + 0) (exchangeKexinit noxtls env) := by
  refine spends_mute always_self fun s => spends_mute (always_ensure mute_order _ _) fun _ => ?_
  refine spends_receive _ fun got => ?_
  refine spends_mute (always_ensure mute_order _ _) fun _ => spends_mute (always_ensure mute_order _ _) fun _ => ?_
  refine spends_mute (always_modify fun _ => rfl) fun _ => spends_mute (always_ensure mute_order _ _) fun _ => ?_
  refine spends_mute (always_failAs _ always_buildKexinit) fun tx => ?_
  refine spends_mute (always_ensure mute_order _ _) fun _ => spends_mute (always_modify fun _ => rfl) fun _ => ?_
  refine spends_send tx ?_
  have updates : Always Tacit (modify setKexinitExchanged) := always_modify fun _ => rfl
  exact fun h => ⟨_, Tacit.cost (updates h), .inr rfl⟩

theorem spends_performCurve25519Kex :
    Spends setKeyExchangeComplete (1 + (1 + 0)) (1 + (1 + 0)) (performCurve25519Kex noxtls env) := by
  refine spends_mute always_self fun s => spends_mute (always_ensure mute_order _ _) fun _ => ?_
  refine spends_receive _ fun got => ?_
  refine spends_mute (always_ensure mute_order _ _) fun _ => spends_mute (always_lift mute_order _ _) fun pub => ?_
  refine spends_mute (always_ensure mute_order _ _) fun _ => ?_
  refine spends_mute (always_replyTo (fun _ _ _ => rfl) _) fun reply => ?_
  refine spends_send reply (spends_send [21] (spends_receive _ fun rx => ?_))
  refine spends_mute (always_ensure mute_order _ _) fun _ => spends_mute (always_failAs _ ?_) fun _ => ?_
  · refine always_bind mute_order always_self fun s => ?_
    refine always_bind mute_order (always_ensure mute_order _ _) fun _ => ?_
    exact always_bind mute_order (always_lift mute_order _ _) fun keys => always_modify fun _ => rfl
  · exact spends_update _

theorem spends_handshakeToEncrypted :
    Spends setKeyExchangeComplete (1 + 2) (1 + 2) (handshakeToEncrypted noxtls env) := by
  have plumbing : Plumbing IsMute := ⟨fun _ => ⟨rfl, rfl⟩, ⟨rfl, rfl⟩, ⟨rfl, rfl⟩⟩
  have exchange : ∀ h, Cost 1 1 h ((failAs .failed (exchangeKexinit noxtls env)).run h).2 := by
    intro h
    have spends : Spends id (1 + 0) (1 + 0) (exchangeKexinit noxtls env) := spends_exchangeKexinit
    obtain ⟨u, cost, ⟨-, is⟩ | is⟩ := spends h
    · rw [failAs_state, is]
      exact cost
    · rw [failAs_state, is]
      exact cost
  refine spends_mute always_self fun s => spends_mute (always_ensure mute_order _ _) fun _ => ?_
  refine spends_mute (always_readIdent plumbing (fun _ => ⟨rfl, rfl⟩) (fun _ _ => rfl) _) fun _ => ?_
  refine spends_mute always_self fun s => spends_mute (always_ensure mute_order _ _) fun _ => ?_
  refine spends_mute (always_failAs _ (always_sendAll plumbing _)) fun _ => ?_
  refine spends_mute (always_modify fun _ => rfl) fun _ => ?_
  exact spends_bind exchange fun _ => spends_failAs _ spends_performCurve25519Kex

end Spends

/-! ## The run -/

/-- The handshake is in the clear: it counts packets and no bytes. -/
theorem calm_handshake {t : Nat} {h u : Host Server} (limit : t ≠ 0) (empty : h.trace = [])
    (threshold : h.self.rekeyThresholdBytes = t) (plain : h.self.keyExchangeComplete = false)
    (zero : h.self.encryptedBytesSent = 0 ∧ h.self.encryptedBytesRecv = 0 ∧ h.self.sendSeq = 0 ∧ h.self.recvSeq = 0)
    (cost : Cost 3 3 h u) : Calm t u := by
  obtain ⟨sent, recv, sendSeq, recvSeq⟩ := zero
  obtain ⟨new, j, grown, sends, recvs, few, metered, later⟩ := cost (by
    refine ⟨?_, ?_⟩ <;> rw [maxFrame_eq] <;> omega)
  have sent' : u.self.encryptedBytesSent = 0 := (metered.sentNone plain).trans sent
  have recv' : u.self.encryptedBytesRecv = 0 := (metered.recvNone plain).trans recv
  have threshold' : u.self.rekeyThresholdBytes = t := metered.threshold.trans threshold
  have moved := metered.sendSeq
  have moved' := metered.recvSeq
  simp only [meter] at moved moved'
  rw [empty, List.nil_append] at grown
  have early : rekeyDue u.self = false := by
    rw [rekeyDue, sent', recv', threshold']
    simp [limit]
  refine ⟨threshold', early, fun e mem => ?_, ?_, fun few => ?_, j, ?_, ?_, fun few => ?_⟩
  · rw [grown] at mem
    by_contra late
    rw [Bool.not_eq_false] at late
    rw [later e mem late] at early
    cases early
  · rw [grown, minFrame_eq]
    omega
  · rw [grown] at few ⊢
    omega
  · rw [grown]
    exact recvs
  · rw [minFrame_eq]
    omega
  · omega

/-- What the limit `t` is to hold: at most one packet is received after it was reached,
the byte counts exceed it by at most five packets out and two in, and with the default
limit the sequence numbers count the packets without a wrap. -/
structure Limited (t : Nat) (h : Host Server) : Prop where
  overrun : Overrun 1 h.trace
  sent : h.self.encryptedBytesSent ≤ t + maxFrame * 5
  recv : h.self.encryptedBytesRecv ≤ t + maxFrame * 2
  sendSeq : t = 268435456 → h.self.sendSeq = (pick Event.sent? h.trace).length ∧ h.self.sendSeq < 4294967296
  recvSeq : t = 268435456 → (pick Event.received? h.trace).length ≤ h.self.recvSeq ∧ h.self.recvSeq < 4294967296

theorem Tally.limited {t : Nat} {h : Host Server} (tally : Tally h) (overrun : Overrun 1 h.trace)
    (sent : h.self.encryptedBytesSent ≤ t + maxFrame * 5) (recv : h.self.encryptedBytesRecv ≤ t + maxFrame * 2) :
    Limited t h := by
  have booked := tally.sent
  obtain ⟨j, heard, bytes, seq⟩ := tally.recv
  refine ⟨overrun, sent, recv, fun default => ?_, fun default => ?_⟩
  · rw [minFrame_eq] at booked
    rw [maxFrame_eq] at sent
    have sendSeq := tally.sendSeq (by omega)
    omega
  · rw [minFrame_eq] at bytes
    rw [maxFrame_eq] at recv
    have recvSeq := seq (by omega)
    omega

theorem Calm.limited {t : Nat} {h : Host Server} (calm : Calm t h) (limit : t ≠ 0) : Limited t h := by
  obtain ⟨sent, recv⟩ := rekeyDue_false (calm.threshold ▸ limit) calm.early
  rw [calm.threshold] at sent recv
  exact calm.tally.limited (overrun_of_none calm.always) (by omega) (by omega)

/-- **The limit**, where no empty packet comes in after it was reached. -/
theorem rekey_limit (noxtls : Noxtls) (env : Env) (setup : Setup) (inbox : List UInt8) (turns : Nat)
    (limit : setup.rekeyThresholdBytes ≠ 0)
    (room : setup.rekeyThresholdBytes + maxFrame * 6 < 18446744073709551616)
    (filled : Filled (served noxtls env setup inbox turns).trace) :
    Limited setup.rekeyThresholdBytes (served noxtls env setup inbox turns) := by
  have ample : Ample setup.rekeyThresholdBytes := ⟨limit, room⟩
  revert filled
  rw [served, serveOne, ask_bind_run, modify_bind_run, bind_run]
  have spends : Spends setKeyExchangeComplete (1 + 2) (1 + 2)
      (failAs .failed (handshakeToEncrypted noxtls env)) := spends_failAs _ spends_handshakeToEncrypted
  obtain ⟨u, cost, ends⟩ :=
    spends ⟨setHandshakeDeadline (wrap64 (env.clock 0 + 30000)) setup.server, 1, inbox, []⟩
  have calm : Calm setup.rekeyThresholdBytes u := calm_handshake limit rfl rfl rfl ⟨rfl, rfl, rfl, rfl⟩ cost
  have keyed : Fresh setup.rekeyThresholdBytes { u with self := setKeyExchangeComplete u.self } :=
    ⟨⟨calm.threshold, calm.early, calm.always, ⟨calm.tally.sent, calm.tally.sendSeq, calm.tally.recv⟩⟩, rfl⟩
  revert ends
  dsimp only
  rcases (failAs .failed (handshakeToEncrypted noxtls env)).run
    ⟨setHandshakeDeadline (wrap64 (env.clock 0 + 30000)) setup.server, 1, inbox, []⟩ with ⟨o, h⟩
  rintro (⟨lost, rfl⟩ | rfl) filled
  · cases o with
    | ok _ => exact absurd rfl (lost ())
    | err e => exact calm.limited limit
    | stuck => exact calm.limited limit
  · cases o with
    | err e => exact keyed.limited limit
    | stuck => exact keyed.limited limit
    | ok _ =>
        have past := past_serveLoop ample turns turns 0 _ (.inl keyed) filled
        exact past.tally.limited past.overrun past.sent past.recv

theorem filled_of_none {trace : List (Event × Server)} (none : ∀ e ∈ trace, e.1 ≠ .received []) : Filled trace := by
  rintro before s after rfl
  exact absurd rfl (none (.received [], s) (by simp))

namespace Probe

/-- The server with this limit and a client that sends these packets after the key exchange. -/
def limited (threshold : Nat) (payloads : List (List UInt8)) : Host Server :=
  served Sample.plain brisk { setup with rekeyThresholdBytes := threshold }
    (hello ++ sealAll Sample.plain (recvSide.lane keyed) payloads) (payloads.length + 1)

end Probe

/-- A client that goes on after the first packet is cut off. -/
theorem rekey_limit_probe :
    Limited 1 (Probe.limited 1 [[2], [2], [2]]) ∧
      (pick Event.received? (Probe.limited 1 [[2], [2], [2]]).trace).length = 4 := by
  have run : (∀ e ∈ (Probe.limited 1 [[2], [2], [2]]).trace, e.1 ≠ .received []) ∧
      (pick Event.received? (Probe.limited 1 [[2], [2], [2]]).trace).length = 4 := by
    rw [Probe.limited, Probe.keyed_exchanged.1]
    decide +kernel
  exact ⟨rekey_limit Sample.plain Probe.brisk { Probe.setup with rekeyThresholdBytes := 1 } _ _ (by decide)
    (by decide) (filled_of_none run.1), run.2⟩

/-- Three packets without payload: the first reaches the limit, two more come in. -/
theorem rekey_limit_passed : ¬ Limited 1 (Probe.limited 1 [[], [], []]) := by
  intro limited
  have run : (Probe.limited 1 [[], [], []]).trace[38]?.map (fun e => rekeyDue e.2) = some true ∧
      (pick Event.received? ((Probe.limited 1 [[], [], []]).trace.drop (38 + 1))).length = 2 := by
    rw [Probe.limited, Probe.keyed_exchanged.1]
    decide +kernel
  have few := limited.overrun.drop 38 run.1
  omega

end NoxSsh.Server
