/-
# Server.Talk — what a handler may cost, and how it takes a failed send

Every handler is a few sends between steps that say and count nothing.  `Talks n
lost m` says both things about it that the results on the rekey limit and on
failed sends are assembled from:

* it sends at most `n` packets, receives none, and the sequence numbers and byte
  counts move accordingly (`Cost`);
* either every send it made came back with success, or one failed, and that one
  was the last thing it did; then it fails too, or returns one of the results
  `lost` allows for that message (`Utterance`).

The rules follow the control flow of the source.  Where the source drops the
result of a send, `lost` says so.
-/
import NoxSsh.Server.Conduct
import NoxSsh.Transport.Count

namespace NoxSsh.Server

open Theory Proc Wire Transport

set_option autoImplicit false

/-! ## Counting -/

theorem maxFrame_eq : maxFrame = 35036 := rfl

theorem minFrame_eq : minFrame = 41 := rfl

/-- The numbers of the transport. -/
structure Meter where
  rekeyThresholdBytes : Nat
  keyExchangeComplete : Bool
  encryptedBytesSent : Nat
  encryptedBytesRecv : Nat
  sendSeq : Nat
  recvSeq : Nat
  deriving DecidableEq

def meter (s : Server) : Meter :=
  ⟨s.rekeyThresholdBytes, s.keyExchangeComplete, s.encryptedBytesSent, s.encryptedBytesRecv, s.sendSeq, s.recvSeq⟩

theorem meter_armSend (now : Nat) (s : Server) : meter (armSend now s) = meter s := by
  obtain ⟨deadline, is⟩ := armSend_is now s
  rw [is]
  rfl

theorem meter_armRecv (now : Nat) (s : Server) : meter (armRecv now s) = meter s := by
  obtain ⟨deadline, is⟩ := armRecv_is now s
  rw [is]
  rfl

/-- From `s` to `s'` the numbers moved over `i` packets out and `j` packets in. -/
structure Metered (i j : Nat) (s s' : Meter) : Prop where
  threshold : s'.rekeyThresholdBytes = s.rekeyThresholdBytes
  encrypted : s'.keyExchangeComplete = s.keyExchangeComplete
  sendSeq : s.sendSeq + i < 4294967296 → s'.sendSeq = s.sendSeq + i
  recvSeq : s.recvSeq + j < 4294967296 → s'.recvSeq = s.recvSeq + j
  sent : s'.encryptedBytesSent ≤ s.encryptedBytesSent + maxFrame * i
  recv : s'.encryptedBytesRecv ≤ s.encryptedBytesRecv + maxFrame * j
  sentMore : s.keyExchangeComplete = true → s.encryptedBytesSent + minFrame * i ≤ s'.encryptedBytesSent
  recvMore : s.keyExchangeComplete = true → s.encryptedBytesRecv + minFrame * j ≤ s'.encryptedBytesRecv
  sentNone : s.keyExchangeComplete = false → s'.encryptedBytesSent = s.encryptedBytesSent
  recvNone : s.keyExchangeComplete = false → s'.encryptedBytesRecv = s.encryptedBytesRecv

theorem Metered.refl (s : Meter) : Metered 0 0 s s := by
  constructor <;> simp

theorem Metered.trans {i j i' j' : Nat} {s t u : Meter} (first : Metered i j s t) (second : Metered i' j' t u) :
    Metered (i + i') (j + j') s u where
  threshold := second.threshold.trans first.threshold
  encrypted := second.encrypted.trans first.encrypted
  sendSeq room := by
    have := first.sendSeq (by omega)
    have := second.sendSeq (by omega)
    omega
  recvSeq room := by
    have := first.recvSeq (by omega)
    have := second.recvSeq (by omega)
    omega
  sent := by
    have := first.sent
    have := second.sent
    rw [Nat.mul_add]
    omega
  recv := by
    have := first.recv
    have := second.recv
    rw [Nat.mul_add]
    omega
  sentMore encrypted := by
    have := first.sentMore encrypted
    have := second.sentMore (first.encrypted.trans encrypted)
    rw [Nat.mul_add]
    omega
  recvMore encrypted := by
    have := first.recvMore encrypted
    have := second.recvMore (first.encrypted.trans encrypted)
    rw [Nat.mul_add]
    omega
  sentNone plain := (second.sentNone (first.encrypted.trans plain)).trans (first.sentNone plain)
  recvNone plain := (second.recvNone (first.encrypted.trans plain)).trans (first.recvNone plain)

/-- The byte counts only grow. -/
theorem Metered.grows {i j : Nat} {s s' : Meter} (metered : Metered i j s s') :
    s.encryptedBytesSent ≤ s'.encryptedBytesSent ∧ s.encryptedBytesRecv ≤ s'.encryptedBytesRecv := by
  cases encrypted : s.keyExchangeComplete with
  | true => exact ⟨by have := metered.sentMore encrypted; omega, by have := metered.recvMore encrypted; omega⟩
  | false => exact ⟨(metered.sentNone encrypted).ge, (metered.recvNone encrypted).ge⟩

/-- Once reached, the limit stays reached. -/
theorem Metered.due {i j : Nat} {s s' : Server} (metered : Metered i j (meter s) (meter s'))
    (due : rekeyDue s = true) : rekeyDue s' = true := by
  have threshold : s'.rekeyThresholdBytes = s.rekeyThresholdBytes := metered.threshold
  obtain ⟨sent, recv⟩ := metered.grows
  simp only [meter] at sent recv
  simp only [rekeyDue, Bool.and_eq_true, Bool.or_eq_true, decide_eq_true_eq, ge_iff_le, gt_iff_lt] at due ⊢
  rw [threshold]
  exact ⟨due.1, due.2.imp (·.trans sent) (·.trans recv)⟩

/-- There is room in the byte counts for that many packets. -/
def Roomy (a b : Nat) (s : Server) : Prop :=
  s.encryptedBytesSent + maxFrame * a < 18446744073709551616 ∧
    s.encryptedBytesRecv + maxFrame * b < 18446744073709551616

/-- From `h` to `h'` at most `a` packets went out and `b` came in, one of which may
have been thrown away, and the numbers say so. -/
def Cost (a b : Nat) (h h' : Host Server) : Prop :=
  Roomy a b h.self → ∃ new j, h'.trace = h.trace ++ new ∧ (pick Event.sent? new).length ≤ a ∧
    (pick Event.received? new).length ≤ j ∧ j ≤ b ∧
    Metered (pick Event.sent? new).length j (meter h.self) (meter h'.self) ∧
    ∀ e ∈ new, rekeyDue e.2 = true → rekeyDue h'.self = true

theorem Cost.refl (h : Host Server) : Cost 0 0 h h :=
  fun _ => ⟨[], 0, by simp, by simp, by simp, le_rfl, Metered.refl _, by simp⟩

theorem Cost.trans {a b a' b' : Nat} {h t u : Host Server} (first : Cost a b h t) (second : Cost a' b' t u) :
    Cost (a + a') (b + b') h u := by
  rintro ⟨roomSent, roomRecv⟩
  rw [Nat.mul_add] at roomSent roomRecv
  obtain ⟨new, j, grown, sends, recvs, few, metered, due⟩ := first ⟨by omega, by omega⟩
  have sent := metered.sent
  have recv := metered.recv
  have most := Nat.mul_le_mul_left maxFrame sends
  have most' := Nat.mul_le_mul_left maxFrame few
  simp only [meter] at sent recv
  obtain ⟨new', j', grown', sends', recvs', few', metered', due'⟩ := second ⟨by omega, by omega⟩
  refine ⟨new ++ new', j + j', by rw [grown', grown, List.append_assoc], ?_, ?_, by omega, ?_, ?_⟩
  · rw [pick_append, List.length_append]
    omega
  · rw [pick_append, List.length_append]
    omega
  · rw [pick_append, List.length_append]
    exact metered.trans metered'
  · intro e mem isDue
    rcases List.mem_append.1 mem with old | fresh
    · exact metered'.due (due e old isDue)
    · exact due' e fresh isDue

theorem Cost.mono {a b a' b' : Nat} {h h' : Host Server} (cost : Cost a b h h') (more : a ≤ a') (more' : b ≤ b') :
    Cost a' b' h h' := by
  rintro ⟨roomSent, roomRecv⟩
  have most := Nat.mul_le_mul_left maxFrame more
  have most' := Nat.mul_le_mul_left maxFrame more'
  obtain ⟨new, j, grown, sends, recvs, few, rest⟩ := cost ⟨by omega, by omega⟩
  exact ⟨new, j, grown, sends.trans more, recvs, few.trans more', rest⟩

/-! ## Saying -/

/-- A send was called with this payload, or it came back with success. -/
def report? : Event → Option (List UInt8 × Bool)
  | .sending payload => some (payload, false)
  | .sent payload => some (payload, true)
  | _ => none

/-- What a send records of itself between its start and its end. -/
def isInside : Event → Bool
  | .wire _ => true
  | .expired => true
  | .macComputed _ _ => true
  | _ => false

/-- What was recorded first after a send, besides what it records of itself. -/
def answer (after : List (Event × Server)) : Option Event :=
  (after.dropWhile fun e => isInside e.1).head?.map Prod.fst

/-- The call that started before `after` did not come back with success. -/
def Unanswered (payload : List UInt8) (after : List (Event × Server)) : Prop :=
  answer after ≠ some (.sent payload)

/-- Every send came back with success. -/
def Answered (trace : List (Event × Server)) : Prop :=
  ∀ before payload s after, trace = before ++ (.sending payload, s) :: after → ¬ Unanswered payload after

theorem answer_inside {inside : List (Event × Server)} (calls : ∀ e ∈ inside, isInside e.1 = true)
    (after : List (Event × Server)) : answer (inside ++ after) = answer after := by
  rw [answer, List.dropWhile_append_of_pos calls, ← answer]

/-- What comes later does not change the answer. -/
theorem answer_append {a : List (Event × Server)} {e : Event} (is : answer a = some e) (b : List (Event × Server)) :
    answer (a ++ b) = some e := by
  obtain ⟨first, head, same⟩ := Option.map_eq_some_iff.1 is
  rw [answer, List.dropWhile_append]
  cases left : a.dropWhile fun e => isInside e.1 with
  | nil => simp [left] at head
  | cons e' rest =>
      rw [left, List.head?_cons, Option.some.injEq] at head
      subst head
      simp [same]

theorem answered_of_mute {trace : List (Event × Server)} (mute : ∀ e ∈ trace, report? e.1 = none) :
    Answered trace := by
  rintro before payload s after rfl
  have said := mute (.sending payload, s) (by simp)
  simp [report?] at said

theorem answered_nil : Answered [] := answered_of_mute (by simp)

/-- A call that came back with success. -/
theorem answered_call (payload : List UInt8) (s t : Server) {inside : List (Event × Server)}
    (calls : ∀ e ∈ inside, isInside e.1 = true) :
    Answered ((.sending payload, s) :: inside ++ [(.sent payload, t)]) := by
  intro before payload' s' after is
  cases before with
  | nil =>
      obtain ⟨first, rest⟩ := List.cons.inj is
      obtain ⟨event, -⟩ := Prod.mk.inj first
      obtain rfl := Event.sending.inj event
      have rest : inside ++ [((.sent payload : Event), t)] = after := rest
      rw [Unanswered, not_not, ← rest, answer_inside calls]
      rfl
  | cons e before =>
      obtain ⟨-, rest⟩ := List.cons.inj is
      have rest : inside ++ [((.sent payload : Event), t)] = before ++ (.sending payload', s') :: after := rest
      have mem : ((.sending payload' : Event), s') ∈ inside ++ [((.sent payload : Event), t)] := by
        rw [rest]
        simp
      rcases List.mem_append.1 mem with mem | mem
      · cases calls _ mem
      · simp at mem

theorem Answered.append {a b : List (Event × Server)} (first : Answered a) (second : Answered b) :
    Answered (a ++ b) := by
  intro before payload s after is
  rcases List.append_eq_append_iff.1 is with ⟨more, rfl, rest⟩ | ⟨more, rfl, rest⟩
  · exact second more payload s after rest
  · cases more with
    | nil => exact second [] payload s after (by simpa using rest.symm)
    | cons e more =>
        obtain ⟨rfl, rfl⟩ := List.cons.inj rest
        have here := first before payload s more rfl
        rw [Unanswered, not_not] at here ⊢
        exact answer_append here b

section Utterance

variable (noxtls : Noxtls) (env : Env)

/-- From `h` to `h'` every send came back with success but the last, and with its failure
everything ended. -/
def BrokenOff (payload : List UInt8) (h h' : Host Server) : Prop :=
  ∃ before h₀ h₁ e, payload ≠ [] ∧ h₀.trace = h.trace ++ before ∧ Answered before ∧
    (sendPacket noxtls env payload).run h₀ = (.err e, h₁) ∧ h'.trace = h₁.trace

/-- From `h` the run ended as `r`: all sends succeeded, or it broke off with one of the
results that `lost` allows. -/
def Utterance {α : Type} (lost : Option UInt8 → α → Prop) (h : Host Server)
    (r : Outcome NetnoxReturn α × Host Server) : Prop :=
  (∃ new, r.2.trace = h.trace ++ new ∧ Answered new) ∨ ∃ payload, BrokenOff noxtls env payload h r.2 ∧
    ((∃ e, r.1 = .err e) ∨ ∃ a, r.1 = .ok a ∧ lost payload.head? a)

/-- No failure is passed over. -/
abbrev never {α : Type} : Option UInt8 → α → Prop := fun _ _ => False

def Spoken {α : Type} (lost : Option UInt8 → α → Prop) (m : Prog Server α) : Prop :=
  ∀ h, Utterance noxtls env lost h (m.run h)

def Talks {α : Type} (n : Nat) (lost : Option UInt8 → α → Prop) (m : Prog Server α) : Prop :=
  ∀ h, Cost n 0 h (m.run h).2 ∧ Utterance noxtls env lost h (m.run h)

end Utterance

/-! ## Rules -/

/-- Nothing was said or heard, and the numbers are the same. -/
def IsMute (e : Event) : Prop := report? e = none ∧ e.received? = none

theorem IsMute.silent {e : Event} (mute : IsMute e) : e.sent? = none ∧ e.received? = none := by
  obtain ⟨said, heard⟩ := mute
  cases e <;> simp_all [report?, Event.received?, Event.sent?]

/-- The limit is reached or not, as the numbers say. -/
theorem rekeyDue_of_meter {s t : Server} (same : meter t = meter s) : rekeyDue t = rekeyDue s := by
  have fields := same
  simp only [meter, Meter.mk.injEq] at fields
  obtain ⟨threshold, -, sent, recv, -, -⟩ := fields
  rw [rekeyDue, rekeyDue, threshold, sent, recv]

/-- Such a step. -/
abbrev Tacit : Host Server → Host Server → Prop := Quiet IsMute meter

theorem mute_order : StepOrder Tacit := quiet_order _ _

theorem Tacit.cost {h h' : Host Server} (mute : Tacit h h') : Cost 0 0 h h' := by
  obtain ⟨same, new, grown, kept⟩ := mute
  have sent : pick Event.sent? new = [] := pick_eq_nil fun e mem => (kept e mem).1.silent.1
  have received : pick Event.received? new = [] := pick_eq_nil fun e mem => (kept e mem).1.silent.2
  refine fun _ => ⟨new, 0, grown, by simp [sent], by simp [received], le_rfl, ?_, ?_⟩
  · rw [sent, same]
    exact Metered.refl _
  · intro e mem isDue
    rw [rekeyDue_of_meter same, ← rekeyDue_of_meter (kept e mem).2, isDue]

section Spoken

variable {noxtls : Noxtls} {env : Env} {α β : Type} {lost : Option UInt8 → α → Prop} {lost' : Option UInt8 → β → Prop}
  {m : Prog Server α} {k : α → Prog Server β}

theorem BrokenOff.after {payload : List UInt8} {h t u : Host Server} {new : List (Event × Server)}
    (broken : BrokenOff noxtls env payload t u) (grown : t.trace = h.trace ++ new) (first : Answered new) :
    BrokenOff noxtls env payload h u := by
  obtain ⟨before, h₀, h₁, e, some, begun, answered, call, ended⟩ := broken
  exact ⟨new ++ before, h₀, h₁, e, some, by rw [begun, grown, List.append_assoc], first.append answered, call, ended⟩

theorem Utterance.mono {lost' : Option UInt8 → α → Prop} {h : Host Server} {r : Outcome NetnoxReturn α × Host Server}
    (speech : Utterance noxtls env lost h r) (weaker : ∀ number x, lost number x → lost' number x) :
    Utterance noxtls env lost' h r := by
  refine speech.imp id ?_
  rintro ⟨payload, broken, failed | ⟨x, is, may⟩⟩
  · exact ⟨payload, broken, .inl failed⟩
  · exact ⟨payload, broken, .inr ⟨x, is, weaker _ _ may⟩⟩

theorem spoken_quiet {γ : Type} {view : Server → γ} (quiet : Always (Quiet (fun e => report? e = none) view) m) :
    Spoken noxtls env lost m := by
  intro h
  obtain ⟨-, new, grown, kept⟩ := quiet h
  exact .inl ⟨new, grown, answered_of_mute fun e mem => (kept e mem).1⟩

/-- A sequence, where results after a failed send end the run at once. -/
theorem spoken_bind_lost (first : Spoken noxtls env lost m) (second : ∀ x, Spoken noxtls env lost' (k x))
    (quits : ∀ number x, lost number x → ∀ h, ((k x).run h).2.trace = h.trace ∧
      ((∃ e, ((k x).run h).1 = .err e) ∨ ∃ y, ((k x).run h).1 = .ok y ∧ lost' number y)) :
    Spoken noxtls env lost' (m >>= k) := by
  intro h
  have speech := first h
  rw [bind_run]
  revert speech
  rcases m.run h with ⟨o, t⟩
  rintro (⟨new, grown, answered⟩ | ⟨payload, broken, ends⟩)
  · cases o with
    | err e => exact .inl ⟨new, grown, answered⟩
    | stuck => exact .inl ⟨new, grown, answered⟩
    | ok x =>
        rcases second x t with ⟨new', grown', answered'⟩ | ⟨payload, broken, ends⟩
        · exact .inl ⟨new ++ new', by rw [grown', grown, List.append_assoc], answered.append answered'⟩
        · exact .inr ⟨payload, broken.after grown answered, ends⟩
  · rcases ends with ⟨e, rfl⟩ | ⟨x, rfl, may⟩
    · exact .inr ⟨payload, broken, .inl ⟨e, rfl⟩⟩
    · obtain ⟨same, ends⟩ := quits _ x may t
      obtain ⟨before, h₀, h₁, e, some, begun, answered, call, ended⟩ := broken
      exact .inr ⟨payload, ⟨before, h₀, h₁, e, some, begun, answered, call, by rw [same, ended]⟩, ends⟩

theorem spoken_bind (first : Spoken noxtls env never m) (second : ∀ x, Spoken noxtls env lost' (k x)) :
    Spoken noxtls env lost' (m >>= k) :=
  spoken_bind_lost first second fun _ _ may => may.elim

theorem spoken_ite {c : Prop} [Decidable c] {m' : Prog Server α} (yes : Spoken noxtls env lost m)
    (no : Spoken noxtls env lost m') : Spoken noxtls env lost (if c then m else m') := by
  split
  · exact yes
  · exact no

theorem spoken_failAs (e : NetnoxReturn) (spoken : Spoken noxtls env never m) :
    Spoken noxtls env lost (failAs e m) := by
  intro h
  have speech := spoken h
  rw [failAs_run]
  revert speech
  rcases m.run h with ⟨o, t⟩
  rintro (answered | ⟨payload, broken, ⟨e', rfl⟩ | ⟨x, -, may⟩⟩)
  · cases o <;> exact .inl answered
  · exact .inr ⟨payload, broken, .inl ⟨e, rfl⟩⟩
  · exact may.elim

/-- A failure becomes `none`. -/
theorem spoken_attempt (spoken : Spoken noxtls env never m) :
    Spoken noxtls env (fun _ x => x = none) (attempt m) := by
  intro h
  have speech := spoken h
  rw [attempt_run]
  revert speech
  rcases m.run h with ⟨o, t⟩
  rintro (answered | ⟨payload, broken, ⟨e', rfl⟩ | ⟨x, -, may⟩⟩)
  · cases o <;> exact .inl answered
  · exact .inr ⟨payload, broken, .inr ⟨none, rfl, rfl⟩⟩
  · exact may.elim

end Spoken

section Rules

variable {noxtls : Noxtls} {env : Env} {α β : Type} {lost : Option UInt8 → α → Prop} {lost' : Option UInt8 → β → Prop}
  {a b : Nat} {m : Prog Server α} {k : α → Prog Server β}

theorem Talks.spoken (talks : Talks noxtls env a lost m) : Spoken noxtls env lost m := fun h => (talks h).2

theorem talks_mute (mute : Always Tacit m) : Talks noxtls env 0 lost m :=
  fun h => ⟨(mute h).cost, spoken_quiet (always_mono mute fun _ _ quiet => quiet.mono fun _ mute => mute.1) h⟩

theorem talks_pure (x : α) : Talks noxtls env 0 lost (pure x : Prog Server α) :=
  talks_mute (always_pure mute_order x)

theorem talks_fail (e : NetnoxReturn) : Talks noxtls env 0 lost (fail e : Prog Server α) :=
  talks_mute (always_fail mute_order e)

theorem Talks.mono {a' : Nat} {lost' : Option UInt8 → α → Prop} (talks : Talks noxtls env a lost m) (more : a ≤ a')
    (weaker : ∀ number x, lost number x → lost' number x) : Talks noxtls env a' lost' m :=
  fun h => ⟨(talks h).1.mono more le_rfl, (talks h).2.mono weaker⟩

theorem cost_bind {a' b' : Nat} (first : ∀ h, Cost a b h (m.run h).2) (second : ∀ x h, Cost a' b' h ((k x).run h).2)
    (h : Host Server) : Cost (a + a') (b + b') h ((m >>= k).run h).2 := by
  have cost := first h
  rw [bind_run]
  revert cost
  rcases m.run h with ⟨o, t⟩
  intro cost
  cases o with
  | ok x => exact cost.trans (second x t)
  | err e => exact cost.mono (Nat.le_add_right _ _) (Nat.le_add_right _ _)
  | stuck => exact cost.mono (Nat.le_add_right _ _) (Nat.le_add_right _ _)

theorem talks_bind_lost (first : Talks noxtls env a lost m) (second : ∀ x, Talks noxtls env b lost' (k x))
    (quits : ∀ number x, lost number x → ∀ h, ((k x).run h).2.trace = h.trace ∧
      ((∃ e, ((k x).run h).1 = .err e) ∨ ∃ y, ((k x).run h).1 = .ok y ∧ lost' number y)) :
    Talks noxtls env (a + b) lost' (m >>= k) := fun h =>
  ⟨cost_bind (fun h => (first h).1) (fun x h => (second x h).1) h,
    spoken_bind_lost first.spoken (fun x => (second x).spoken) quits h⟩

theorem talks_bind (first : Talks noxtls env a never m) (second : ∀ x, Talks noxtls env b lost' (k x)) :
    Talks noxtls env (a + b) lost' (m >>= k) :=
  talks_bind_lost first second fun _ _ may => may.elim

/-- A step before that says nothing. -/
theorem talks_after (first : Always Tacit m) (second : ∀ x, Talks noxtls env b lost' (k x)) : Talks noxtls env b lost' (m >>= k) := by
  have silent : Talks noxtls env 0 never m := talks_mute first
  have both := talks_bind silent second
  rwa [Nat.zero_add] at both

/-- A step behind that says nothing and cannot fail. -/
theorem talks_before (first : Talks noxtls env a never m) (second : ∀ x, Always Tacit (k x)) : Talks noxtls env a lost' (m >>= k) :=
  talks_bind first fun x => talks_mute (second x)

theorem talks_failAs (e : NetnoxReturn) (talks : Talks noxtls env a never m) : Talks noxtls env a lost (failAs e m) := by
  refine fun h => ⟨?_, spoken_failAs e talks.spoken h⟩
  rw [failAs_state]
  exact (talks h).1

/-- A failure becomes `none`. -/
theorem talks_attempt (talks : Talks noxtls env a never m) : Talks noxtls env a (fun _ x => x = none) (attempt m) := by
  refine fun h => ⟨?_, spoken_attempt talks.spoken h⟩
  have cost := (talks h).1
  rw [attempt_run]
  revert cost
  rcases m.run h with ⟨o, t⟩
  cases o <;> exact id

theorem talks_ite {c : Prop} [Decidable c] {m' : Prog Server α} (yes : Talks noxtls env a lost m) (no : Talks noxtls env a lost m') :
    Talks noxtls env a lost (if c then m else m') := by
  split
  · exact yes
  · exact no

theorem talks_self {k : Server → Prog Server β} (rest : ∀ s, Talks noxtls env b lost' (k s)) : Talks noxtls env b lost' (self >>= k) :=
  talks_after always_self rest

theorem talks_modify {f : Server → Server} {k : Unit → Prog Server β} (keeps : ∀ s, meter (f s) = meter s)
    (rest : Talks noxtls env b lost' (k ())) : Talks noxtls env b lost' (modify f >>= k) :=
  talks_after (always_modify keeps) fun _ => rest

theorem talks_ensure {c : Prop} [Decidable c] {e : NetnoxReturn} {k : Unit → Prog Server β}
    (rest : Talks noxtls env b lost' (k ())) : Talks noxtls env b lost' (ensure c e >>= k) :=
  talks_after (always_ensure mute_order c e) fun _ => rest

theorem talks_lift {γ : Type} {e : NetnoxReturn} {o : Option γ} {k : γ → Prog Server β}
    (rest : ∀ x, Talks noxtls env b lost' (k x)) : Talks noxtls env b lost' (lift e o >>= k) :=
  talks_after (always_lift mute_order e o) rest

theorem talks_ask {γ : Type} {answers : Nat → γ} {k : γ → Prog Server β}
    (rest : ∀ x, Talks noxtls env b lost' (k x)) : Talks noxtls env b lost' (ask answers >>= k) :=
  talks_after (always_ask answers) rest

end Rules

/-! ## Senders -/

section Senders

variable (noxtls : Noxtls) (env : Env)

/-- What the send routine records of itself. -/
theorem sealing_counted (payload : List UInt8) (h : Host Server) :
    let r := (sendPacketWith noxtls sendSide (fillRandom env) (sendAll env) (writeSealed env) countSent payload).run h
    Uncounted (fun e => isInside e = true) meter h r ∨
      (r.1 = .ok () ∧ Counted sendSide countSent (fun e => isInside e = true) meter h r) := by
  have looks : Always (Quiet (fun e => isInside e = true) meter) (deadline env sendExpired) :=
    @always_deadline _ env (fun e => isInside e = true) meter rfl sendExpired
  have sends : ∀ data, Always (Quiet (fun e => isInside e = true) meter) (sendAll env data) := fun data =>
    always_sendAllWith (quiet_plain (fun e => isInside e = true) meter) (fun _ => always_log rfl) looks data
  apply sendPacketWith_counted (fun _ _ => rfl) (fun _ _ => rfl) always_fillRandom sends
  · intro n t t' padding filled
    rw [fillRandom, ask_bind_run] at filled
    cases answer : env.getrandom t.tick with
    | none => simp [answer] at filled
    | some bytes =>
        rw [answer] at filled
        obtain ⟨same, -⟩ := Prod.mk.inj filled
        obtain rfl := Outcome.ok.inj same
        exact length_slice _ 0 n
  · exact fun enc mac => always_bind (quiet_order _ _) (sends enc) fun _ => sends mac

theorem isInside_mute {e : Event} (inside : isInside e = true) : IsMute e := by
  cases e <;> simp_all [isInside, IsMute, report?, Event.received?]

/-- The numbers after a packet that was counted. -/
theorem metered_counted {s t : Server} {n : Nat} (same : meter t = meter s) (encrypted : s.keyExchangeComplete = true)
    (long : minFrame ≤ n) (short : n ≤ maxFrame) (room : Roomy 1 0 s) :
    Metered 1 0 (meter s) (meter (countSent n (sendSide.bumpSeq t))) := by
  have fields := same
  simp only [meter, Meter.mk.injEq] at fields
  obtain ⟨threshold, complete, sent, recv, sendSeq, recvSeq⟩ := fields
  have whole : wrap64 (t.encryptedBytesSent + n) = s.encryptedBytesSent + n := by
    have := room.1
    rw [sent, wrap64]
    omega
  rw [maxFrame_eq] at short
  rw [minFrame_eq] at long
  constructor <;>
    simp only [meter, countSent, Side.bumpSeq, sendSide, threshold, complete, sendSeq, recvSeq, recv, whole,
      maxFrame_eq, minFrame_eq, encrypted, wrap32, Bool.true_eq_false, false_imp_iff, Nat.mul_zero, Nat.add_zero,
      le_refl, implies_true]
  all_goals omega

/-- The numbers after a packet in the clear. -/
theorem metered_plain {s t : Server} (same : meter t = meter s) (plain : s.keyExchangeComplete = false) :
    Metered 1 0 (meter s) (meter (sendSide.bumpSeq t)) := by
  have fields := same
  simp only [meter, Meter.mk.injEq] at fields
  obtain ⟨threshold, complete, sent, recv, sendSeq, recvSeq⟩ := fields
  constructor <;>
    simp only [meter, Side.bumpSeq, sendSide, threshold, complete, sent, sendSeq, recvSeq, recv, plain, wrap32,
      Bool.false_eq_true, false_imp_iff, Nat.mul_zero, Nat.add_zero, le_refl, implies_true, Nat.le_add_right]
  all_goals omega

/-- A send: it failed and its record is the end of the trace, or it moved the numbers by
one packet. -/
theorem sendPacket_split {payload : List UInt8} (some : payload ≠ []) (h : Host Server) :
    let r := (sendPacket noxtls env payload).run h
    ∃ inside, (∀ e ∈ inside, isInside e.1 = true ∧ meter e.2 = meter h.self) ∧
      ((∃ e, r.1 = .err e ∧ r.2.trace = h.trace ++ (.sending payload, h.self) :: inside ∧
          meter r.2.self = meter h.self) ∨
        (r.1 = .ok () ∧
          r.2.trace = h.trace ++ ((.sending payload, h.self) :: inside ++ [(.sent payload, r.2.self)]) ∧
          (Roomy 1 0 h.self → Metered 1 0 (meter h.self) (meter r.2.self)))) := by
  have back : ((sendPacket noxtls env payload).run h).1 ≠ .stuck := settles_sendPacket payload h
  revert back
  rw [sendPacket, ensure_bind_pos some, log_bind_run, ask_bind_run, modify_bind_run, bind_run]
  have counted := sealing_counted noxtls env payload { h with
    trace := h.trace ++ [(.sending payload, h.self)]
    tick := h.tick + 1
    self := armSend (env.clock h.tick) h.self }
  revert counted
  dsimp only
  rcases (sendPacketWith noxtls sendSide (fillRandom env) (sendAll env) (writeSealed env) countSent payload).run
    { h with
      trace := h.trace ++ [(.sending payload, h.self)]
      tick := h.tick + 1
      self := armSend (env.clock h.tick) h.self } with ⟨o, t⟩
  intro counted
  rcases counted with ⟨none, same, inside, grown, kept⟩ | ⟨is, u, ⟨same, inside, grown, kept⟩, cases⟩
  · simp only [meter_armSend] at none same grown kept
    cases o with
    | ok u => exact absurd rfl (none u)
    | stuck => exact fun back => absurd rfl back
    | err e => exact fun _ => ⟨inside, kept, .inl ⟨e, rfl, by simp [grown], same⟩⟩
  · simp only [meter_armSend, lane_armSend] at is same grown kept cases
    subst is
    intro _
    dsimp only
    rw [log_run]
    have silent : t.trace = u.trace := by
      rcases cases with ⟨-, n, -, -, rfl⟩ | ⟨-, rfl⟩ <;> rfl
    refine ⟨inside, kept, .inr ⟨rfl, ?_, fun room => ?_⟩⟩
    · rw [silent, grown]
      simp
    · rcases cases with ⟨encrypted, n, long, short, rfl⟩ | ⟨plain, rfl⟩
      · exact metered_counted same encrypted long short room
      · exact metered_plain same plain

theorem silent_inside {s : Server} {inside : List (Event × Server)}
    (kept : ∀ e ∈ inside, isInside e.1 = true ∧ meter e.2 = meter s) :
    pick Event.sent? inside = [] ∧ pick Event.received? inside = [] :=
  ⟨pick_eq_nil fun e mem => (isInside_mute (kept e mem).1).silent.1,
    pick_eq_nil fun e mem => (isInside_mute (kept e mem).1).silent.2⟩

/-- A send costs a packet or nothing. -/
theorem cost_sendPacket (payload : List UInt8) (h : Host Server) :
    Cost 1 0 h ((sendPacket noxtls env payload).run h).2 := by
  by_cases some : payload ≠ []
  swap
  · rw [sendPacket, ensure_bind_neg some]
    exact (Cost.refl h).mono (Nat.zero_le 1) le_rfl
  obtain ⟨inside, kept, ⟨e, -, grown, same⟩ | ⟨-, grown, metered⟩⟩ := sendPacket_split noxtls env some h
  · obtain ⟨sent, received⟩ := silent_inside kept
    intro _
    refine ⟨_, 0, grown, ?_, ?_, le_rfl, ?_, ?_⟩
    · rw [← List.singleton_append, pick_append, sent]
      simp [Event.sent?]
    · rw [← List.singleton_append, pick_append, received]
      simp [Event.received?]
    · rw [← List.singleton_append, pick_append, sent, same]
      exact Metered.refl _
    · intro e mem isDue
      rw [rekeyDue_of_meter same]
      rcases List.mem_cons.1 mem with rfl | mem
      · exact isDue
      · rw [← rekeyDue_of_meter (kept e mem).2, isDue]
  · obtain ⟨sent, received⟩ := silent_inside kept
    intro room
    have metered := metered room
    refine ⟨_, 0, grown, ?_, ?_, le_rfl, ?_, ?_⟩
    · rw [← List.singleton_append, pick_append, pick_append, sent]
      simp [Event.sent?]
    · rw [← List.singleton_append, pick_append, pick_append, received]
      simp [Event.received?]
    · rw [← List.singleton_append, pick_append, pick_append, sent]
      simpa [Event.sent?] using metered
    · intro e mem isDue
      rcases List.mem_append.1 mem with mem | mem
      · rcases List.mem_cons.1 mem with rfl | mem
        · exact metered.due isDue
        · rw [rekeyDue_of_meter (kept e mem).2] at isDue
          exact metered.due isDue
      · rw [List.mem_singleton] at mem
        rwa [mem] at isDue

theorem spoken_sendPacket {lost : Option UInt8 → Unit → Prop} (payload : List UInt8) :
    Spoken noxtls env lost (sendPacket noxtls env payload) := by
  intro h
  by_cases some : payload ≠ []
  swap
  · rw [sendPacket, ensure_bind_neg some]
    exact .inl ⟨[], by simp, answered_nil⟩
  obtain ⟨inside, kept, ⟨e, failed, -, -⟩ | ⟨-, grown, -⟩⟩ := sendPacket_split noxtls env some h
  · exact .inr ⟨payload, ⟨[], h, _, e, some, by simp, answered_nil, Prod.ext failed rfl, rfl⟩, .inl ⟨e, failed⟩⟩
  · exact .inl ⟨_, grown, answered_call payload h.self _ fun e mem => (kept e mem).1⟩

theorem talks_sendPacket (payload : List UInt8) : Talks noxtls env 1 never (sendPacket noxtls env payload) :=
  fun h => ⟨cost_sendPacket noxtls env payload h, spoken_sendPacket noxtls env payload h⟩

variable {noxtls env}

theorem talks_sendBuilt (payload : Option (List UInt8)) : Talks noxtls env 1 never (sendBuilt noxtls env payload) :=
  talks_lift fun payload => talks_sendPacket noxtls env payload

theorem talks_sendServiceAccept (service : String) : Talks noxtls env 1 never (sendServiceAccept noxtls env service) := by
  rw [sendServiceAccept]
  exact talks_sendBuilt _

theorem talks_sendUserauthFailure (partialSuccess : Bool) :
    Talks noxtls env 1 never (sendUserauthFailure noxtls env partialSuccess) := by
  rw [sendUserauthFailure]
  exact talks_sendBuilt _

theorem talks_sendUserauthPkOk (alg blob : List UInt8) : Talks noxtls env 1 never (sendUserauthPkOk noxtls env alg blob) := by
  rw [sendUserauthPkOk]
  exact talks_sendBuilt _

theorem talks_sendChannelMessage (max : Nat) (number : UInt8) :
    Talks noxtls env 1 never (sendChannelMessage noxtls env max number) :=
  talks_self fun _ => talks_sendBuilt _

theorem talks_sendChannelOpenConfirmation (senderChannel : Nat) :
    Talks noxtls env 1 never (sendChannelOpenConfirmation noxtls env senderChannel) :=
  talks_modify (fun _ => rfl) (talks_self fun _ => talks_sendBuilt _)

theorem talks_sendChannelDataChunk (data : List UInt8) : Talks noxtls env 1 never (sendChannelDataChunk noxtls env data) := by
  refine talks_ensure (talks_self fun s => talks_lift fun payload => talks_ensure ?_)
  exact talks_modify (fun _ => rfl) (talks_sendPacket noxtls env payload)

theorem talks_sendExitStatus (status : Nat) : Talks noxtls env 1 never (sendExitStatus noxtls env status) :=
  talks_self fun _ => talks_sendBuilt _

theorem meter_setLocalWindow (n : Nat) (s : Server) : meter (setLocalWindow n s) = meter s := rfl

theorem talks_maybeWindowAdjust : Talks noxtls env 1 never (maybeWindowAdjust noxtls env) := by
  refine talks_self fun s => talks_ite ((talks_pure ()).mono (Nat.zero_le 1) fun _ _ => id) ?_
  exact talks_lift fun payload => talks_modify (meter_setLocalWindow _) (talks_sendPacket noxtls env payload)

end Senders

/-! ## Receiving -/

section Receiving

variable (noxtls : Noxtls) (env : Env)

/-- From `h` a receive ended as `r`: a packet that was returned is its last record, one
that was thrown away only counts. -/
def Heard (h : Host Server) (r : Outcome NetnoxReturn (List UInt8 × Mem) × Host Server) : Prop :=
  ∃ new last j, r.2.trace = h.trace ++ new ++ last ∧ (∀ e ∈ new, IsMute e.1 ∧ meter e.2 = meter h.self) ∧
    last.length ≤ j ∧ j ≤ 1 ∧ (Roomy 0 1 h.self → Metered 0 j (meter h.self) (meter r.2.self)) ∧
    (((∀ a, r.1 ≠ .ok a) ∧ last = []) ∨
      ∃ payload m, r.1 = .ok (payload, m) ∧ last = [(.received payload, r.2.self)])

/-- The numbers after an encrypted packet came in. -/
theorem metered_heard {s t : Server} {n : Nat} (same : meter t = meter s) (encrypted : s.keyExchangeComplete = true)
    (long : minFrame ≤ n) (short : n ≤ maxFrame) (room : Roomy 0 1 s) :
    Metered 0 1 (meter s) (meter (countRecv n (recvSide.bumpSeq t))) := by
  have fields := same
  simp only [meter, Meter.mk.injEq] at fields
  obtain ⟨threshold, complete, sent, recv, sendSeq, recvSeq⟩ := fields
  have whole : wrap64 (t.encryptedBytesRecv + n) = s.encryptedBytesRecv + n := by
    have := room.2
    rw [recv, wrap64]
    omega
  rw [maxFrame_eq] at short
  rw [minFrame_eq] at long
  constructor <;>
    simp only [meter, countRecv, Side.bumpSeq, recvSide, threshold, complete, sendSeq, recvSeq, sent, whole,
      maxFrame_eq, minFrame_eq, encrypted, wrap32, Bool.true_eq_false, false_imp_iff, Nat.mul_zero, Nat.add_zero,
      le_refl, implies_true]
  all_goals omega

/-- The numbers after a packet in the clear came in. -/
theorem metered_heard_plain {s t : Server} (same : meter t = meter s) (plain : s.keyExchangeComplete = false) :
    Metered 0 1 (meter s) (meter (recvSide.bumpSeq t)) := by
  have fields := same
  simp only [meter, Meter.mk.injEq] at fields
  obtain ⟨threshold, complete, sent, recv, sendSeq, recvSeq⟩ := fields
  constructor <;>
    simp only [meter, Side.bumpSeq, recvSide, threshold, complete, sent, sendSeq, recvSeq, recv, plain, wrap32,
      Bool.false_eq_true, false_imp_iff, Nat.mul_zero, Nat.add_zero, le_refl, implies_true, Nat.le_add_right]
  all_goals omega

theorem heard_recvInto (payloadMax : Nat) (h : Host Server) :
    Heard h ((recvInto noxtls env payloadMax).run h) := by
  have reads : ∀ len room, Always (Quiet IsMute meter) (recvExact env len room) :=
    always_recvExact ⟨fun _ => ⟨rfl, rfl⟩, ⟨rfl, rfl⟩, ⟨rfl, rfl⟩⟩ fun _ => ⟨rfl, rfl⟩
  have counted := @openWith_counted _ _ noxtls recvSide IsMute meter (recvExact env) countRecv
    (fun _ _ => ⟨rfl, rfl⟩) (fun _ _ => rfl) reads payloadMax
    { h with tick := h.tick + 1, self := armRecv (env.clock h.tick) h.self }
  revert counted
  dsimp only
  rw [recvInto, recvPacket, bind_run, ask_bind_run, modify_bind_run, recvPacketWith, bind_run]
  dsimp only
  rcases (openWith noxtls recvSide (recvExact env) countRecv payloadMax).run
    { h with tick := h.tick + 1, self := armRecv (env.clock h.tick) h.self } with ⟨o, t⟩
  intro counted
  rcases counted with ⟨none, same, new, grown, kept⟩ | ⟨u, ⟨same, new, grown, kept⟩, cases⟩
  · -- nothing was counted, so nothing came back
    simp only [meter_armRecv] at none same grown kept
    have silent : t.trace = h.trace ++ new ++ [] := by rw [List.append_nil, grown]
    have metered : Roomy 0 1 h.self → Metered 0 0 (meter h.self) (meter t.self) := by
      intro _
      rw [same]
      exact Metered.refl _
    cases o with
    | ok payload => exact absurd rfl (none payload)
    | err e => exact ⟨new, [], 0, silent, kept, le_rfl, Nat.zero_le 1, metered, .inl ⟨by simp, rfl⟩⟩
    | stuck => exact ⟨new, [], 0, silent, kept, le_rfl, Nat.zero_le 1, metered, .inl ⟨by simp, rfl⟩⟩
  · simp only [meter_armRecv, lane_armRecv] at same grown kept cases
    have silent : t.trace = h.trace ++ new := by
      rw [← grown]
      rcases cases with ⟨-, n, -, -, rfl⟩ | ⟨-, rfl⟩ <;> rfl
    have metered : Roomy 0 1 h.self → Metered 0 1 (meter h.self) (meter t.self) := by
      intro room
      rcases cases with ⟨encrypted, n, long, short, rfl⟩ | ⟨plain, rfl⟩
      · exact metered_heard same encrypted long short room
      · exact metered_heard_plain same plain
    cases o with
    | ok payload =>
        refine ⟨new, [(.received payload, t.self)], 1, ?_, kept, le_rfl, le_rfl, metered, .inr ⟨payload, _, rfl, rfl⟩⟩
        rw [← silent]
        rfl
    | err e =>
        refine ⟨new, [], 1, ?_, kept, Nat.zero_le 1, le_rfl, metered, .inl ⟨by simp, rfl⟩⟩
        rw [List.append_nil, ← silent]
    | stuck =>
        refine ⟨new, [], 1, ?_, kept, Nat.zero_le 1, le_rfl, metered, .inl ⟨by simp, rfl⟩⟩
        rw [List.append_nil, ← silent]

end Receiving

/-! ## Handlers outside a session -/

section Handlers

variable {noxtls : Noxtls} {env : Env}

theorem talks_handleGlobalRequest (payload : List UInt8) (m : Mem) :
    Talks noxtls env 1 never (handleGlobalRequest noxtls env payload m) := by
  refine talks_ensure (talks_lift fun wantReply => ?_)
  exact talks_ite (talks_sendPacket noxtls env [82]) ((talks_pure ()).mono (Nat.zero_le 1) fun _ _ => id)

theorem talks_handleChannelEnd (payload : List UInt8) (m : Mem) :
    Talks noxtls env 1 never (handleChannelEnd noxtls env payload m) := by
  refine talks_self fun s => talks_ensure ?_
  refine talks_ite ?_ ((talks_pure ()).mono (Nat.zero_le 1) fun _ _ => id)
  refine talks_before (talks_failAs _ (talks_sendChannelMessage 32 97)) fun _ => ?_
  exact always_modify fun _ => rfl

theorem mute_beginCloseWait (deadlineMs : Nat) : Always Tacit (beginCloseWait env deadlineMs) :=
  always_beginCloseWait deadlineMs

theorem talks_checkSignature (p : List UInt8) (m : Mem) (req : PublickeyRequest) :
    Talks noxtls env 1 never (checkSignature noxtls env p m req) := by
  have failure : Talks noxtls env 1 never (sendUserauthFailure noxtls env false) := talks_sendUserauthFailure false
  rw [checkSignature]
  refine talks_ite ?_ (talks_ite failure (talks_sendUserauthPkOk _ _))
  cases readSignature m p.length req.reqLen with
  | none => exact failure
  | some sig =>
      refine talks_ask fun memory => talks_ensure (talks_self fun s => ?_)
      exact talks_ite (talks_modify (fun _ => rfl) (talks_sendPacket noxtls env [52])) failure

theorem talks_publickeyAuth (p : List UInt8) (m : Mem) (user : View) (off : Nat) :
    Talks noxtls env 1 never (publickeyAuth noxtls env p m user off) := by
  have failure : Talks noxtls env 1 never (sendUserauthFailure noxtls env false) := talks_sendUserauthFailure false
  refine talks_self fun s => ?_
  cases readPublickey s.publickeyAllowedCb m p.length user off with
  | none => exact failure
  | some req =>
      refine talks_ask fun allowed => talks_after (always_log ⟨rfl, rfl⟩) fun _ => ?_
      exact talks_ite (talks_checkSignature p m req) failure

theorem talks_handleUserauthRequest (p : List UInt8) (m : Mem) :
    Talks noxtls env 1 never (handleUserauthRequest noxtls env p m) := by
  have failure : Talks noxtls env 1 never (sendUserauthFailure noxtls env false) := talks_sendUserauthFailure false
  refine talks_ensure (talks_lift fun user => talks_lift fun service => talks_lift fun method => ?_)
  exact talks_ite failure (talks_ite (talks_publickeyAuth p m _ _) failure)

theorem talks_serviceRequest (payload : List UInt8) (m : Mem) :
    Talks noxtls env 1 never (serviceRequest noxtls env payload m) := by
  have accept : ∀ service, Talks noxtls env 1 never (failAs .failed (sendServiceAccept noxtls env service)) :=
    fun service => talks_failAs _ (talks_sendServiceAccept service)
  refine talks_lift fun svc => talks_self fun s => ?_
  refine talks_ite (talks_modify (fun _ => rfl) (accept _)) ?_
  exact talks_ite (talks_modify (fun _ => rfl) (accept _)) ((talks_fail _).mono (Nat.zero_le 1) fun _ _ => id)

theorem talks_userauthRequest (payload : List UInt8) (m : Mem) :
    Talks noxtls env 1 never (userauthRequest noxtls env payload m) := by
  refine talks_self fun s => talks_ensure (talks_ensure (talks_modify (fun _ => rfl) ?_))
  exact talks_self fun s => talks_ensure (talks_failAs _ (talks_handleUserauthRequest payload m))

theorem talks_channelOpenRequest (closeDeadlineMs : Nat) (payload : List UInt8) (m : Mem) :
    Talks noxtls env 1 never (channelOpenRequest noxtls env closeDeadlineMs payload m) := by
  refine talks_ensure (talks_self fun s => talks_ensure (talks_lift fun typ => ?_))
  refine talks_lift fun sender => talks_lift fun window => talks_lift fun maxPacket => ?_
  refine talks_ensure (talks_ensure (talks_modify (fun _ => rfl) ?_))
  refine talks_before (talks_failAs _ (talks_sendChannelOpenConfirmation _)) fun _ => ?_
  exact always_modify fun _ => rfl

theorem talks_confirm (wantReply : Bool) : Talks noxtls env 1 never (confirm noxtls env wantReply) :=
  talks_ite (talks_failAs _ (talks_sendChannelMessage 64 99)) ((talks_pure ()).mono (Nat.zero_le 1) fun _ _ => id)

/-! ## The two sends whose results are dropped -/

/-- Whatever is sent has this number. -/
abbrev SaysOnly (number : UInt8) : Host Server → Host Server → Prop :=
  Quiet (fun e => ∀ payload, e = .sending payload → payload.head? = some number) fun _ => ()

theorem saysOnly_speaks (number : UInt8) :
    Speaks (fun e => ∀ payload, e = .sending payload → payload.head? = some number) number :=
  fun _ heads => ⟨fun _ is => by rw [← Event.sending.inj is, heads], fun _ is => by cases is⟩

theorem saysOnly_background (number : UInt8) :
    Background fun e => ∀ payload, e = .sending payload → payload.head? = some number where
  wire _ _ is := by cases is
  expired _ is := by cases is
  overflow _ is := by cases is
  macComputed _ _ _ is := by cases is
  macAccepted _ _ _ is := by cases is

theorem passive_unit : Passive fun _ : Server => () := by
  apply Passive.of_fields <;> intros <;> rfl

theorem steady_unit : Steady fun _ : Server => () :=
  ⟨passive_unit, fun _ _ => rfl, fun _ _ => rfl, fun _ _ => rfl, fun _ _ => rfl, fun _ => rfl, fun _ _ _ => rfl,
    fun _ _ => rfl⟩

/-- A call that failed was one of those that can be made. -/
theorem BrokenOff.number {number : UInt8} {payload : List UInt8} {h h' : Host Server}
    (broken : BrokenOff noxtls env payload h h') (only : SaysOnly number h h') : payload.head? = some number := by
  obtain ⟨before, h₀, h₁, e, some, begun, -, call, ended⟩ := broken
  obtain ⟨inside, -, cases⟩ := sendPacket_split noxtls env some h₀
  rw [call] at cases
  rcases cases with ⟨e, -, grown, -⟩ | ⟨is, -⟩
  · obtain ⟨-, new, is, kept⟩ := only
    rw [ended, grown, begun, List.append_assoc] at is
    obtain rfl := List.append_cancel_left is
    exact (kept (.sending payload, h₀.self) (by simp)).1 payload rfl
  · cases is

/-- A failure of a message with this number becomes `none`. -/
theorem talks_attempt_number {a : Nat} {number : UInt8} {α : Type} {m : Prog Server α} (talks : Talks noxtls env a never m)
    (only : Always (SaysOnly number) m) : Talks noxtls env a (fun n x => n = some number ∧ x = none) (attempt m) := by
  intro h
  obtain ⟨cost, answered | ⟨payload, broken, ends⟩⟩ := talks_attempt talks h
  · exact ⟨cost, .inl answered⟩
  · have heads := broken.number (always_attempt only h)
    refine ⟨cost, .inr ⟨payload, broken, ends.imp id ?_⟩⟩
    rintro ⟨x, is, none⟩
    exact ⟨x, is, heads, none⟩

/-- A refusal that was lost goes unnoticed. -/
theorem talks_refuse (wantReply : Bool) : Talks noxtls env 1 (fun n _ => n = some 100) (refuse noxtls env wantReply) := by
  rw [refuse]
  refine talks_ite ?_ ((talks_pure ()).mono (Nat.zero_le 1) fun _ _ => id)
  have lost : Talks noxtls env 1 (fun n x => n = some 100 ∧ x = none) (attempt (sendChannelFailure noxtls env)) :=
    talks_attempt_number (talks_sendChannelMessage 64 100) (always_sendChannelMessage
      (saysOnly_background 100) passive_unit (saysOnly_speaks 100) 64)
  refine (talks_bind_lost lost (fun _ => talks_pure ()) ?_).mono le_rfl fun _ _ => id
  exact fun _ _ may _ => ⟨rfl, .inr ⟨(), rfl, may.1⟩⟩

/-- So does a lost WINDOW_ADJUST for data that is dropped. -/
theorem talks_channelData (payload : List UInt8) (m : Mem) :
    Talks noxtls env 1 (fun n _ => n = some 93) (channelData noxtls env payload m) := by
  have adjusts : Always (SaysOnly 93) (maybeWindowAdjust noxtls env) := by
    have order := quiet_order (fun e => ∀ payload, e = .sending payload → payload.head? = some (93 : UInt8))
      (fun _ : Server => ())
    refine always_bind order always_self fun s => always_ite (always_pure order ()) ?_
    refine always_lift_bind order _ fun payload is => ?_
    refine always_bind order (always_modify fun _ => rfl) fun _ => ?_
    exact always_sendNumber (saysOnly_background 93) passive_unit (saysOnly_speaks 93) payload
      ((((heads_u8 _ _).then appends_u32).then appends_u32) payload is)
  refine talks_self fun s => talks_lift fun recipient => ?_
  refine talks_ite ((talks_pure ()).mono (Nat.zero_le 1) fun _ _ => id) (talks_lift fun dat => ?_)
  refine talks_after (always_ite (always_modify fun _ => rfl) (always_pure mute_order ())) fun _ => ?_
  have lost := talks_attempt_number talks_maybeWindowAdjust adjusts
  refine (talks_bind_lost lost (fun _ => talks_pure ()) ?_).mono le_rfl fun _ _ => id
  exact fun _ _ may _ => ⟨rfl, .inr ⟨(), rfl, may.1⟩⟩

end Handlers

/-! ## A session -/

section Session

variable {noxtls : Noxtls} {env : Env}

theorem mute_writeChild {note : List UInt8 → Event} (mute : ∀ bytes, IsMute (note bytes)) :
    ∀ (turns : Nat) (data : List UInt8), Always Tacit (writeChild env note turns data) :=
  fun turns data => always_writeChild mute ⟨rfl, rfl⟩ turns data

theorem talks_orBreak {m : Prog Server Unit} (talks : Talks noxtls env 1 never m) :
    Talks noxtls env 1 (fun _ x => x = some false) (orBreak m) := by
  refine (talks_bind_lost (talks_attempt talks) (b := 0) ?_ ?_).mono le_rfl fun _ _ => id
  · intro x
    cases x <;> exact talks_pure _
  · rintro _ _ rfl _
    exact ⟨rfl, .inr ⟨_, rfl, rfl⟩⟩

theorem talks_sessionPacket (payload : List UInt8) (m : Mem) :
    Talks noxtls env 1 (fun _ x => x = some false) (sessionPacket noxtls env payload m) := by
  have still : ∀ answer : Option Bool, Talks noxtls env 1 (fun _ x => x = some false) (pure answer : Prog Server (Option Bool)) :=
    fun answer => (talks_pure answer).mono (Nat.zero_le 1) fun _ _ => id
  have ended : Talks noxtls env 1 (fun _ x => x = none) (attempt (handleChannelEnd noxtls env payload m)) :=
    talks_attempt (talks_handleChannelEnd payload m)
  refine talks_self fun s => ?_
  split
  · exact still _
  · exact talks_orBreak (talks_handleGlobalRequest payload m)
  · split
    · exact still _
    · refine talks_after (mute_writeChild (fun _ => ⟨rfl, rfl⟩) _ _) fun written => talks_ite ?_ (still _)
      exact talks_modify (meter_setLocalWindow _) (talks_orBreak talks_maybeWindowAdjust)
  · split
    · exact still _
    · exact talks_modify (fun _ => rfl) (still _)
  · refine talks_bind_lost ended (b := 0) (fun answer => ?_) ?_
    · cases answer with
      | none => exact talks_pure _
      | some =>
          refine talks_ite ?_ (talks_pure _)
          exact talks_after (mute_writeChild (fun _ => ⟨rfl, rfl⟩) _ _) fun _ => talks_pure _
    · rintro _ _ rfl _
      exact ⟨rfl, .inr ⟨_, rfl, rfl⟩⟩
  · refine talks_bind_lost ended (b := 0) (fun answer => ?_) ?_
    · cases answer <;> exact talks_pure _
    · rintro _ _ rfl _
      exact ⟨rfl, .inr ⟨_, rfl, rfl⟩⟩
  · exact still _
  · exact talks_ite (talks_ite (still _) (still _)) (still _)
  · exact still _

theorem talks_sessionOutput (child : Child) : Talks noxtls env 1 (fun _ x => x = none) (sessionOutput noxtls env child) := by
  have still : ∀ answer : Option Child, Talks noxtls env 1 (fun _ x => x = none) (pure answer : Prog Server (Option Child)) :=
    fun answer => (talks_pure answer).mono (Nat.zero_le 1) fun _ _ => id
  refine talks_ask fun answer => ?_
  split
  · refine talks_self fun s => talks_ite (still _) (talks_after (always_log ⟨rfl, rfl⟩) fun _ => ?_)
    refine talks_bind_lost (talks_attempt (talks_sendChannelDataChunk _)) (b := 0) (fun answer => ?_) ?_
    · cases answer <;> exact talks_pure _
    · rintro _ _ rfl _
      exact ⟨rfl, .inr ⟨_, rfl, rfl⟩⟩
  · exact still _
  · exact still _
  · exact still _

theorem talks_sessionReap (child : Child) :
    Talks noxtls env 3 (fun _ x => x = .broken false) (sessionReap noxtls env child) := by
  refine talks_after (always_reapChild (fun _ => ⟨rfl, rfl⟩) child) fun reaped => ?_
  dsimp only
  split
  · -- exit status, EOF and CLOSE
    have three : ∀ status, Talks noxtls env 3 never (do
        sendExitStatus noxtls env status
        sendChannelEof noxtls env
        sendChannelClose noxtls env) := fun status =>
      talks_bind (talks_sendExitStatus status) fun _ =>
        talks_bind (talks_sendChannelMessage 32 96) fun _ => talks_sendChannelMessage 32 97
    refine talks_bind_lost (talks_attempt (three _)) (b := 0) (fun answer => ?_) ?_
    · cases answer with
      | none => exact talks_pure _
      | some => exact talks_modify (fun _ => rfl) (talks_pure _)
    · rintro _ _ rfl _
      exact ⟨rfl, .inr ⟨_, rfl, rfl⟩⟩
  · exact (talks_pure _).mono (Nat.zero_le 3) fun _ _ => id

theorem talks_sessionChild (child : Child) (ready : Bool) :
    Talks noxtls env 4 (fun _ x => x = .broken false) (sessionChild noxtls env child ready) := by
  have reaps : ∀ child, Talks noxtls env 3 (fun _ x => x = .broken false) (sessionReap noxtls env child) := talks_sessionReap
  refine talks_ite ?_ ((reaps child).mono (by decide) fun _ _ => id)
  refine talks_self fun s => talks_ite ((talks_pure _).mono (Nat.zero_le 4) fun _ _ => id) ?_
  refine talks_bind_lost (talks_sessionOutput child) (b := 3) (fun answer => ?_) ?_
  · cases answer with
    | none => exact (talks_pure _).mono (Nat.zero_le 3) fun _ _ => id
    | some child => exact reaps child
  · rintro _ _ rfl _
    exact ⟨rfl, .inr ⟨_, rfl, rfl⟩⟩

/-- What follows a packet in a turn of the session. -/
theorem talks_sessionAnswer (child : Child) (ready : Bool) (payload : List UInt8) (m : Mem) :
    Talks noxtls env 5 (fun _ x => x = .broken false) (do
      match ← sessionPacket noxtls env payload m with
      | some peerClosed => pure (.broken peerClosed)
      | none => do
          log .sessionGoesOn
          sessionChild noxtls env child ready) := by
  refine talks_bind_lost (talks_sessionPacket payload m) (b := 4) (fun answer => ?_) ?_
  · cases answer with
    | none => exact talks_after (always_log ⟨rfl, rfl⟩) fun _ => talks_sessionChild child ready
    | some peerClosed => exact (talks_pure _).mono (Nat.zero_le 4) fun _ _ => id
  · rintro _ _ rfl _
    exact ⟨rfl, .inr ⟨_, rfl, rfl⟩⟩

end Session

/-! ## Dispatch -/

section Dispatch

variable {noxtls : Noxtls} {env : Env}

theorem talks_goOn {lost : Option UInt8 → Next → Prop} {m : Prog Server Unit} (closeDeadlineMs : Nat)
    (talks : Talks noxtls env 1 never m) : Talks noxtls env 1 lost (goOn closeDeadlineMs m) :=
  talks_before talks fun _ => always_pure mute_order _

theorem talks_channelEnd (closeDeadlineMs : Nat) (payload : List UInt8) (m : Mem) :
    Talks noxtls env 1 never (channelEnd noxtls env closeDeadlineMs payload m) := by
  refine talks_before (talks_failAs _ (talks_handleChannelEnd payload m)) fun _ => ?_
  exact always_ite (always_failAs _ (mute_beginCloseWait _)) (always_pure mute_order _)

/-- Every message but a channel request and channel data. -/
theorem talks_dispatch (turns closeDeadlineMs : Nat) {payload : List UInt8} (m : Mem)
    (request : payload.head? ≠ some 98) (data : payload.head? ≠ some 94) :
    Talks noxtls env 1 never (dispatch noxtls env turns closeDeadlineMs payload m) := by
  have still : ∀ next : Next, Talks noxtls env 1 never (pure next : Prog Server Next) :=
    fun next => (talks_pure next).mono (Nat.zero_le 1) fun _ _ => id
  have ended : Talks noxtls env 1 never (goOnWith (channelEnd noxtls env closeDeadlineMs payload m)) :=
    talks_before (talks_channelEnd closeDeadlineMs payload m) fun _ => always_pure mute_order _
  unfold dispatch
  split
  · exact still _
  · exact still _
  · exact still _
  · exact still _
  · exact talks_goOn _ (talks_failAs _ (talks_handleGlobalRequest payload m))
  · exact talks_goOn _ (talks_serviceRequest payload m)
  · exact talks_goOn _ (talks_userauthRequest payload m)
  · exact talks_goOn _ (talks_channelOpenRequest closeDeadlineMs payload m)
  · exact absurd ‹payload.head? = some 98› request
  · exact absurd ‹payload.head? = some 94› data
  · exact ended
  · exact ended
  · exact still _

theorem talks_dispatch_data (turns closeDeadlineMs : Nat) {payload : List UInt8} (m : Mem)
    (data : payload.head? = some 94) :
    Talks noxtls env 1 (fun n _ => n = some 93) (dispatch noxtls env turns closeDeadlineMs payload m) := by
  rw [dispatch, data]
  refine talks_bind_lost (talks_channelData payload m) (b := 0) (fun _ => talks_pure _) ?_
  exact fun _ _ may _ => ⟨rfl, .inr ⟨_, rfl, may⟩⟩

end Dispatch

end NoxSsh.Server
