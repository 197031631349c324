/-
# Server.Keepalive — global requests and their one reply

The server supports no global request.  It answers the ones that want a reply with
REQUEST_FAILURE, which keeps an idle connection alive, and it says so in both receive
loops with one handler.  The handler compares the length of the name with what is left of
the payload, so no length wraps (`global_request_exact`).

Over a run the replies match the requests, in order.  Only the last request can go
without: `serve_one` drops the connection when a packet reaches the rekey limit, whatever
the packet is, and a reply that cannot be sent ends the run (`global_replies`).
-/
import NoxSsh.Server.FailStop
import NoxSsh.Server.Replies

namespace NoxSsh.Server

open Theory Proc Wire Transport

set_option autoImplicit false

/-! ## The handler -/

/-- A global request: a name, the byte that says whether a reply is wanted, and more. -/
def IsGlobalRequest (wantReply : UInt8) (payload : List UInt8) : Prop :=
  ∃ name body, name ≠ [] ∧ name.length < 2 ^ 32 ∧
    payload = 80 :: (be32 name.length ++ name ++ wantReply :: body)

/-- Is it a global request, and does it want a reply? -/
def globalRequestOf (payload : List UInt8) : Option Bool :=
  if 6 ≤ payload.length ∧ payload.head? = some 80 then globalRequestWantsReply payload (contents payload) else none

section Handler

variable {payload name body : List UInt8} {wantReply : UInt8} {rest : Mem}

/-- The byte after the name, if the name leaves one. -/
theorem globalRequestWantsReply_eq (long : 6 ≤ payload.length) (rest : Mem) :
    globalRequestWantsReply payload (memOf payload rest) =
      if 0 < beNat ((payload.drop 1).take 4) ∧ beNat ((payload.drop 1).take 4) + 5 < payload.length then
        (payload[beNat ((payload.drop 1).take 4) + 5]?).map fun b => decide (b ≠ 0)
      else none := by
  have read : payloadReadU32 (memOf payload rest) payload.length 1 = some (beNat ((payload.drop 1).take 4), 5) := by
    rw [payloadReadU32, wrap32_of_lt (by decide), if_neg (by omega), slice_memOf payload rest (by omega)]
  rw [globalRequestWantsReply, read]
  dsimp only
  by_cases fits : 0 < beNat ((payload.drop 1).take 4) ∧ beNat ((payload.drop 1).take 4) + 5 < payload.length
  · have inside : 5 + beNat ((payload.drop 1).take 4) < payload.length := by omega
    rw [if_neg (by omega), if_pos fits, memOf_lt inside, List.getElem?_eq_getElem fits.2]
    simp [Nat.add_comm]
  · rw [if_pos (by omega), if_neg fits]

/-- A request is read as what it is. -/
theorem globalRequestOf_form (some : name ≠ []) (short : name.length < 2 ^ 32) :
    globalRequestOf (80 :: (be32 name.length ++ name ++ wantReply :: body)) = .some (decide (wantReply ≠ 0)) := by
  have long : 0 < name.length := List.length_pos_iff.2 some
  have length : beNat (((80 :: (be32 name.length ++ name ++ wantReply :: body)).drop 1).take 4) = name.length := by
    rw [List.drop_succ_cons, List.drop_zero, List.append_assoc, List.take_left' (length_be32 _), beNat_be32]
    exact Nat.mod_eq_of_lt short
  have at_ : (80 :: (be32 name.length ++ name ++ wantReply :: body))[name.length + 5]? = .some wantReply := by
    rw [List.getElem?_cons_succ, List.getElem?_append_right (by simp; omega)]
    simp [Nat.add_comm]
  rw [globalRequestOf, if_pos ⟨by simp; omega, rfl⟩, contents, globalRequestWantsReply_eq (by simp; omega), length, at_,
    if_pos ⟨long, by simp; omega⟩]
  rfl

/-- Nothing else is read as one. -/
theorem form_of_globalRequestOf {wants : Bool} (is : globalRequestOf payload = some wants) :
    ∃ wantReply, IsGlobalRequest wantReply payload ∧ wants = decide (wantReply ≠ 0) := by
  rw [globalRequestOf] at is
  obtain ⟨⟨long, number⟩, is⟩ := Option.ite_none_right_eq_some.1 is
  rw [contents, globalRequestWantsReply_eq long] at is
  obtain ⟨⟨pos, fits⟩, is⟩ := Option.ite_none_right_eq_some.1 is
  obtain ⟨wantReply, here, rfl⟩ := Option.map_eq_some_iff.1 is
  obtain ⟨tail, rfl⟩ : ∃ tail, payload = 80 :: tail := by
    cases payload with
    | nil => cases number
    | cons head tail => exact ⟨tail, by rw [Option.some.inj number]⟩
  rw [List.drop_succ_cons, List.drop_zero] at *
  rw [List.length_cons] at long fits
  have word : (tail.take 4).length = 4 := by
    rw [List.length_take]
    omega
  refine ⟨wantReply, ⟨(tail.drop 4).take (beNat (tail.take 4)), tail.drop (beNat (tail.take 4) + 5), ?_, ?_, ?_⟩, rfl⟩
  · rw [← List.length_pos_iff, List.length_take, List.length_drop]
    omega
  · rw [List.length_take]
    have bound := beNat_lt (tail.take 4)
    rw [word] at bound
    omega
  · have length : ((tail.drop 4).take (beNat (tail.take 4))).length = beNat (tail.take 4) := by
      rw [List.length_take, List.length_drop]
      omega
    have inside : beNat (tail.take 4) + 4 < tail.length := by omega
    have byte : tail[beNat (tail.take 4) + 4] = wantReply := by
      rw [show beNat (tail.take 4) + 5 = (beNat (tail.take 4) + 4) + 1 from rfl, List.getElem?_cons_succ,
        List.getElem?_eq_getElem inside] at here
      exact Option.some.inj here
    rw [length, be32_beNat word, ← byte, ← List.drop_eq_getElem_cons inside, Nat.add_comm, ← List.drop_drop,
      List.append_assoc, List.take_append_drop, List.take_append_drop]

theorem globalRequestOf_iff (wants : Bool) :
    globalRequestOf payload = some wants ↔ ∃ wantReply, IsGlobalRequest wantReply payload ∧ wants = decide (wantReply ≠ 0) := by
  constructor
  · exact form_of_globalRequestOf
  · rintro ⟨wantReply, ⟨name, body, some, short, rfl⟩, rfl⟩
    exact globalRequestOf_form some short

end Handler

/-- What the handler does is decided by what the payload is. -/
theorem handleGlobalRequest_run (noxtls : Noxtls) (env : Env) (payload : List UInt8) (rest : Mem) (h : Host Server) :
    match globalRequestOf payload with
    | none => ∃ e, (handleGlobalRequest noxtls env payload (memOf payload rest)).run h = (.err e, h)
    | some false => (handleGlobalRequest noxtls env payload (memOf payload rest)).run h = (.ok (), h)
    | some true => (handleGlobalRequest noxtls env payload (memOf payload rest)).run h =
        (sendPacket noxtls env [82]).run h := by
  rw [globalRequestOf, handleGlobalRequest]
  by_cases admitted : 6 ≤ payload.length ∧ payload.head? = some 80
  · rw [if_pos admitted, ensure_bind_pos admitted, contents, globalRequestWantsReply_eq admitted.1,
      globalRequestWantsReply_eq admitted.1]
    generalize (if 0 < beNat ((payload.drop 1).take 4) ∧ beNat ((payload.drop 1).take 4) + 5 < payload.length then
      (payload[beNat ((payload.drop 1).take 4) + 5]?).map fun b => decide (b ≠ 0) else none) = wants
    cases wants with
    | none => exact ⟨.failed, rfl⟩
    | some wants => cases wants <;> rfl
  · rw [if_neg admitted, ensure_bind_neg admitted]
    exact ⟨.badParam, rfl⟩

/-- A send leaves a record. -/
theorem sendPacket_recorded (noxtls : Noxtls) (env : Env) (payload : List UInt8) (some : payload ≠ []) (h : Host Server) :
    ((sendPacket noxtls env payload).run h).2 ≠ h := by
  intro same
  obtain ⟨inside, -, ⟨e, -, grown, -⟩ | ⟨-, grown, -⟩⟩ := sendPacket_split noxtls env some h
  · rw [same] at grown
    simpa using congrArg List.length grown
  · rw [same] at grown
    simpa using congrArg List.length grown

/-- The handler is exact: it accepts the form and nothing else, in silence or with the
one reply. -/
theorem handleGlobalRequest_exact (noxtls : Noxtls) (env : Env) (payload : List UInt8) (rest : Mem) (h : Host Server) :
    (IsGlobalRequest 0 payload ↔
        (handleGlobalRequest noxtls env payload (memOf payload rest)).run h = (.ok (), h)) ∧
      ((∃ wantReply, wantReply ≠ 0 ∧ IsGlobalRequest wantReply payload) ↔
        (handleGlobalRequest noxtls env payload (memOf payload rest)).run h = (sendPacket noxtls env [82]).run h) ∧
      ((∀ wantReply, ¬ IsGlobalRequest wantReply payload) ↔
        ∃ e, (handleGlobalRequest noxtls env payload (memOf payload rest)).run h = (.err e, h)) := by
  have recorded := sendPacket_recorded noxtls env [82] (by simp) h
  have silent : IsGlobalRequest 0 payload ↔ globalRequestOf payload = some false := by
    rw [globalRequestOf_iff]
    constructor
    · exact fun form => ⟨0, form, rfl⟩
    · rintro ⟨wantReply, form, is⟩
      obtain rfl : wantReply = 0 := by simpa using is
      exact form
  have answered : (∃ wantReply, wantReply ≠ 0 ∧ IsGlobalRequest wantReply payload) ↔ globalRequestOf payload = some true := by
    rw [globalRequestOf_iff]
    constructor
    · exact fun ⟨wantReply, wants, form⟩ => ⟨wantReply, form, by simp [wants]⟩
    · exact fun ⟨wantReply, form, is⟩ => ⟨wantReply, by simpa using is, form⟩
  have malformed : (∀ wantReply, ¬ IsGlobalRequest wantReply payload) ↔ globalRequestOf payload = none := by
    rw [Option.eq_none_iff_forall_ne_some]
    constructor
    · intro none wants is
      obtain ⟨wantReply, form, -⟩ := form_of_globalRequestOf is
      exact none wantReply form
    · exact fun none wantReply form => none _ ((globalRequestOf_iff _).2 ⟨wantReply, form, rfl⟩)
  rw [silent, answered, malformed]
  have ran := handleGlobalRequest_run noxtls env payload rest h
  cases wants : globalRequestOf payload with
  | none =>
      rw [wants] at ran
      obtain ⟨e, ran⟩ := ran
      rw [ran]
      refine ⟨by simp, ?_, by simp⟩
      simp only [reduceCtorEq, false_iff]
      exact fun same => recorded (congrArg Prod.snd same).symm
  | some reply =>
      cases reply with
      | false =>
          rw [wants] at ran
          rw [show (handleGlobalRequest noxtls env payload (memOf payload rest)).run h = (.ok (), h) from ran]
          refine ⟨by simp, ?_, by simp⟩
          simp only [Option.some.injEq, Bool.false_eq_true, false_iff]
          exact fun same => recorded (congrArg Prod.snd same).symm
      | true =>
          rw [wants] at ran
          rw [show (handleGlobalRequest noxtls env payload (memOf payload rest)).run h =
            (sendPacket noxtls env [82]).run h from ran]
          refine ⟨?_, by simp, ?_⟩
          · simp only [Option.some.injEq, Bool.true_eq_false, false_iff]
            exact fun same => recorded (congrArg Prod.snd same)
          · simp only [reduceCtorEq, false_iff]
            rintro ⟨e, same⟩
            exact recorded (congrArg Prod.snd same)

/-! ## Requests and replies in a run -/

/-- A request that wants a reply came in, or a reply went out. -/
def globalMark : Event → Option Mark
  | .received payload => if globalRequestOf payload = some true then some .asked else none
  | .sent payload => if payload = [82] then some .replied else none
  | _ => none

def globalMarks (seen : List (Event × Server)) : List Mark := seen.filterMap fun e => globalMark e.1

/-- Each request has its reply, and there are no others. -/
def Matched (seen : List (Event × Server)) : Prop :=
  ∃ n, globalMarks seen = (List.replicate n [Mark.asked, Mark.replied]).flatten

/-- Everything is matched but the last request, and the run ends with it: the rekey limit
was reached when it came in, or its reply broke off. -/
def LeftOver (seen : List (Event × Server)) : Prop :=
  ∃ before payload s after, seen = before ++ (.received payload, s) :: after ∧ Matched before ∧
    globalRequestOf payload = some true ∧
    (rekeyDue s = true ∧ after = [] ∨
      ∃ t inside, after = (.sending [82], t) :: inside ∧ ∀ e ∈ inside, isInside e.1 = true)

/-- The record of the two receive loops: everything from the first turn of `serve_one` on. -/
def inLoops (trace : List (Event × Server)) : List (Event × Server) :=
  trace.dropWhile fun e => mark? e.1 ≠ some false

/-- Neither a packet that came in nor a reply. -/
def Aside (e : Event) : Prop := globalMark e = none

theorem globalMarks_append (a b : List (Event × Server)) : globalMarks (a ++ b) = globalMarks a ++ globalMarks b :=
  List.filterMap_append

theorem matched_nil : Matched [] := ⟨0, rfl⟩

theorem Matched.aside {seen new : List (Event × Server)} (matched : Matched seen) (aside : ∀ e ∈ new, Aside e.1) :
    Matched (seen ++ new) := by
  obtain ⟨n, pairs⟩ := matched
  have none : globalMarks new = [] := List.filterMap_eq_nil_iff.2 aside
  exact ⟨n, by rw [globalMarks_append, none, List.append_nil, pairs]⟩

theorem Matched.answered {seen : List (Event × Server)} {payload : List UInt8} {s t : Server}
    {inside : List (Event × Server)} (matched : Matched seen) (wants : globalRequestOf payload = some true)
    (calls : ∀ e ∈ inside, Aside e.1) :
    Matched (seen ++ [(.received payload, s)] ++ (inside ++ [(.sent [82], t)])) := by
  obtain ⟨n, pairs⟩ := matched
  have none : globalMarks inside = [] := List.filterMap_eq_nil_iff.2 calls
  refine ⟨n + 1, ?_⟩
  rw [globalMarks_append, globalMarks_append, globalMarks_append, none, pairs, List.replicate_succ',
    List.flatten_append]
  simp [globalMarks, globalMark, wants]

section Loops

variable {noxtls : Noxtls} {env : Env} {base : List (Event × Server)}

/-- Since `base` all is matched. -/
def Paid (base : List (Event × Server)) (h : Host Server) : Prop := ∃ seen, h.trace = base ++ seen ∧ Matched seen

/-- Since `base` all is matched but what the run ended with. -/
def CutOff (base : List (Event × Server)) (h : Host Server) : Prop :=
  ∃ seen, h.trace = base ++ seen ∧ (Matched seen ∨ LeftOver seen)

/-- All was matched before this packet came in. -/
def Owing (base : List (Event × Server)) (arrival : List UInt8 × Mem) (h : Host Server) : Prop :=
  ∃ seen rest, h.trace = base ++ (seen ++ [(.received arrival.1, h.self)]) ∧ Matched seen ∧
    arrival.2 = memOf arrival.1 rest

theorem Paid.cutOff {h : Host Server} (paid : Paid base h) : CutOff base h := by
  obtain ⟨seen, grown, matched⟩ := paid
  exact ⟨seen, grown, .inl matched⟩

theorem Paid.aside {γ : Type} {view : Server → γ} {h h' : Host Server} (paid : Paid base h)
    (quiet : Quiet Aside view h h') : Paid base h' := by
  obtain ⟨seen, grown, matched⟩ := paid
  obtain ⟨-, new, grown', kept⟩ := quiet
  exact ⟨seen ++ new, by rw [grown', grown, List.append_assoc], matched.aside fun e mem => (kept e mem).1⟩

/-- A packet that is no request to reply to. -/
theorem Owing.paid {arrival : List UInt8 × Mem} {h : Host Server} (owing : Owing base arrival h)
    (other : globalRequestOf arrival.1 ≠ some true) : Paid base h := by
  obtain ⟨seen, rest, grown, matched, -⟩ := owing
  refine ⟨_, grown, matched.aside ?_⟩
  rintro e member
  obtain rfl := List.mem_singleton.1 member
  exact if_neg other

theorem stays_aside {α : Type} {m : Prog Server α} (always : Always (Quiet Aside fun _ => ()) m) :
    Triple (Paid base) m (fun _ => Paid base) (Breaks (Paid base) (Paid base)) :=
  stays_of_always (fun _ => id) always fun _ _ quiet paid => paid.aside quiet

theorem aside_of_mute {e : Event} (mute : IsMute e) : Aside e := by
  obtain ⟨said, heard⟩ := mute
  cases e with
  | received payload => cases heard
  | sent payload => cases said
  | _ => rfl

theorem triple_recvInto (payloadMax : Nat) :
    Triple (Paid base) (recvInto noxtls env payloadMax) (Owing base) (Breaks (Paid base) (Paid base)) := by
  constructor
  rintro h ⟨seen, begun, matched⟩
  obtain ⟨new, last, j, grown, mute, -, -, -, cases⟩ := heard_recvInto noxtls env payloadMax h
  have before : Matched (seen ++ new) := matched.aside fun e mem => aside_of_mute (mute e mem).1
  rcases cases with ⟨none, rfl⟩ | ⟨payload, m, is, rfl⟩
  · have paid : Paid base ((recvInto noxtls env payloadMax).run h).2 :=
      ⟨seen ++ new, by rw [grown, begun, List.append_nil, List.append_assoc], before⟩
    revert none paid
    rcases (recvInto noxtls env payloadMax).run h with ⟨o, h'⟩
    intro none paid
    cases o with
    | ok a => exact absurd rfl (none a)
    | err e => exact paid
    | stuck => exact paid
  · generalize ran : (recvInto noxtls env payloadMax).run h = r at grown is
    obtain ⟨o, h'⟩ := r
    obtain rfl : o = .ok (payload, m) := is
    obtain ⟨_, h₁, -, returns⟩ := bind_inv ran
    rw [ask_bind_run] at returns
    obtain ⟨same, -⟩ := Prod.mk.inj returns
    obtain ⟨rfl, rfl⟩ := Prod.mk.inj (Outcome.ok.inj same)
    exact ⟨seen ++ new, _, by rw [grown, begun, List.append_assoc, List.append_assoc, List.append_assoc], before, rfl⟩

/-- The handler answers, or the run ends. -/
theorem triple_handleGlobalRequest (payload : List UInt8) (m : Mem) :
    Triple (Owing base (payload, m)) (handleGlobalRequest noxtls env payload m) (fun _ => Paid base)
      (Breaks (CutOff base) (Paid base)) := by
  constructor
  intro h owing
  obtain ⟨seen, rest, grown, matched, is⟩ := id owing
  obtain rfl : m = memOf payload rest := is
  have ran := handleGlobalRequest_run noxtls env payload rest h
  cases wants : globalRequestOf payload with
  | none =>
      rw [wants] at ran
      obtain ⟨e, ran⟩ := ran
      rw [ran]
      exact (owing.paid (by simp [wants])).cutOff
  | some reply =>
      cases reply with
      | false =>
          rw [wants] at ran
          rw [show (handleGlobalRequest noxtls env payload (memOf payload rest)).run h = (.ok (), h) from ran]
          exact owing.paid (by simp [wants])
      | true =>
          rw [wants] at ran
          rw [show (handleGlobalRequest noxtls env payload (memOf payload rest)).run h =
            (sendPacket noxtls env [82]).run h from ran]
          obtain ⟨inside, calls, split⟩ := sendPacket_split noxtls env (by simp : ([82] : List UInt8) ≠ []) h
          revert split
          rcases (sendPacket noxtls env [82]).run h with ⟨o, h'⟩
          rintro (⟨e, rfl, more, -⟩ | ⟨rfl, more, -⟩)
          · refine ⟨_, by rw [more, grown, List.append_assoc], .inr ⟨seen, payload, h.self, _, ?_, matched, wants, .inr
              ⟨h.self, inside, rfl, fun e mem => (calls e mem).1⟩⟩⟩
            simp
          · refine ⟨_, by rw [more, grown, List.append_assoc],
              @Matched.answered _ _ _ _ ((.sending [82], h.self) :: inside) matched wants ?_⟩
            intro e mem
            rcases List.mem_cons.1 mem with rfl | mem
            · rfl
            · exact aside_of_mute (isInside_mute (calls e mem).1)

/-! ## The loops -/

theorem background_aside : Background Aside := ⟨⟨fun _ => rfl, rfl, rfl⟩, fun _ _ => rfl, fun _ _ => rfl⟩

/-- Every message but REQUEST_FAILURE is beside the point. -/
theorem speaks_aside {number : UInt8} (other : number ≠ 82) : Speaks Aside number := by
  intro payload heads
  refine ⟨rfl, if_neg ?_⟩
  rintro rfl
  exact other (Option.some.inj heads).symm

theorem childChatter_aside : ChildChatter Aside :=
  ⟨⟨background_aside, fun _ _ other => speaks_aside other⟩, fun _ => rfl, rfl, rfl, fun _ => rfl, fun _ => rfl⟩

theorem loginChatter_aside : LoginChatter Aside fun _ : Server => () :=
  ⟨background_aside, passive_unit, speaks_aside (by decide), speaks_aside (by decide), speaks_aside (by decide),
    fun _ _ _ => rfl, fun _ => rfl, fun _ _ => rfl⟩

abbrev Beside : Host Server → Host Server → Prop := Quiet Aside fun _ => ()

theorem beside_order : StepOrder Beside := quiet_order _ _

/-- A receive came back. -/
def Arrived (base : List (Event × Server)) : Option (List UInt8 × Mem) → Host Server → Prop
  | none => Paid base
  | some arrival => Owing base arrival

/-- What the packet half of a turn says of the state it left. -/
def Verdict (base : List (Event × Server)) : Option Bool → Host Server → Prop
  | some false => CutOff base
  | _ => Paid base

/-- What a turn of the session says of it. -/
def Outlook (base : List (Event × Server)) : Turn → Host Server → Prop
  | .broken false => CutOff base
  | _ => Paid base

theorem Paid.verdict {h : Host Server} (paid : Paid base h) (answer : Option Bool) : Verdict base answer h := by
  rcases answer with _ | _ | _
  · exact paid
  · exact paid.cutOff
  · exact paid

theorem Paid.outlook {h : Host Server} (paid : Paid base h) (turn : Turn) : Outlook base turn h := by
  rcases turn with _ | _ | _ | _
  · exact paid
  · exact paid
  · exact paid.cutOff
  · exact paid

theorem triple_paid {α : Type} {m : Prog Server α} {Q : α → Host Server → Prop} (always : Always Beside m)
    (weaker : ∀ a h, Paid base h → Q a h) : Triple (Paid base) m Q (Breaks (CutOff base) (Paid base)) :=
  ((stays_aside always).under fun _ => Paid.cutOff).mono (fun _ => id) weaker fun _ _ => id

theorem triple_sessionPacket (payload : List UInt8) (m : Mem) :
    Triple (Owing base (payload, m)) (sessionPacket noxtls env payload m) (Verdict base)
      (Breaks (CutOff base) (Paid base)) := by
  by_cases number : payload.head? = some 80
  · have is : sessionPacket noxtls env payload m = self >>= fun _ => orBreak (handleGlobalRequest noxtls env payload m) := by
      unfold sessionPacket
      simp only [number]
    rw [is]
    apply triple_self_bind
    intro s
    apply triple_bind (Q := fun answer => Verdict base (answer.elim (some false) fun _ => none))
    · exact triple_attempt (triple_handleGlobalRequest payload m) fun _ _ => id
    · intro answer
      cases answer with
      | none => exact triple_pure _ fun _ => id
      | some => exact triple_pure _ fun _ => id
  · have other : globalRequestOf payload ≠ some true := by
      rw [globalRequestOf, if_neg fun both => number both.2]
      simp
    apply Triple.mono (P := Paid base) _ (fun _ owing => owing.paid other) (fun _ _ => id) fun _ _ => id
    exact triple_paid (always_sessionPacket childChatter_aside steady_unit payload m fun is => absurd is number)
      fun answer _ paid => paid.verdict answer

theorem triple_sessionTurn (child : Child) :
    Triple (Paid base) (sessionTurn noxtls env child) (Outlook base) (Breaks (CutOff base) (Paid base)) := by
  have looks : ∀ ready, Triple (Paid base) (sessionChild noxtls env child ready) (Outlook base)
      (Breaks (CutOff base) (Paid base)) := fun ready =>
    triple_paid (always_sessionChild childChatter_aside steady_unit child ready) fun turn _ paid => paid.outlook turn
  have ends : ∀ turn, Triple (Paid base) (pure turn : Prog Server Turn) (Outlook base) (Breaks (CutOff base) (Paid base)) := fun turn =>
    triple_pure _ fun _ paid => paid.outlook turn
  apply triple_self_bind
  intro s
  apply triple_ite
  · exact fun _ => ends _
  intro _
  apply triple_bind (triple_paid (always_ask _) fun _ _ => id)
  intro answer
  cases answer with
  | interrupted => exact ends _
  | error => exact ends _
  | timeout => exact triple_ite (fun _ => looks _) fun _ => ends _
  | ready transport output =>
      apply triple_ite
      · exact fun _ => ends _
      intro _
      apply triple_ite
      · intro _
        apply triple_bind (Q := Arrived base)
        · exact (triple_attempt (triple_recvInto _) fun _ _ => id).under fun _ => Paid.cutOff
        intro got
        cases got with
        | none => exact ends _
        | some arrival =>
            apply triple_bind (triple_sessionPacket arrival.1 arrival.2)
            intro answer
            cases answer with
            | some peerClosed => cases peerClosed <;> exact triple_pure _ fun _ => id
            | none => exact triple_bind (triple_paid (always_log rfl) fun _ _ => id) fun _ => looks _
      · exact fun _ => looks _

theorem triple_sessionLoop (turns : Nat) : ∀ child, Triple (Paid base) (sessionLoop noxtls env turns child)
    (fun _ => Paid base) (Breaks (CutOff base) (Paid base)) := by
  induction turns with
  | zero => exact fun _ => triple_stall fun _ => id
  | succ turns ih =>
      intro child
      apply triple_bind (triple_sessionTurn child)
      intro turn
      cases turn with
      | again child => exact ih child
      | complete => exact triple_pure () fun _ => id
      | broken peerClosed =>
          cases peerClosed with
          | true => exact triple_paid (always_bind beside_order (always_modify fun _ => rfl)
              fun _ => always_pure beside_order ()) fun _ _ => id
          | false =>
              apply triple_bind (Q := fun _ => CutOff base) (triple_modify fun _ => id)
              exact fun _ => triple_fail _ fun _ => id

/-- The session after its checks. -/
theorem triple_runSessionUnix (turns : Nat) (command : Option (List UInt8)) :
    Triple (Paid base) (runSessionUnix noxtls env turns command) (fun _ => Paid base)
      (Breaks (CutOff base) (Paid base)) := by
  apply triple_self_bind
  intro s
  apply triple_bind (triple_paid (always_ensure beside_order _ _) fun _ _ => id)
  intro _
  apply triple_bind (triple_paid (always_log (show Aside (.sessionStarted command) from rfl)) fun _ _ => id)
  intro _
  apply triple_bind (triple_paid (always_modify fun _ => rfl) fun _ _ => id)
  intro _
  apply triple_bind (triple_paid (always_ask _) fun _ _ => id)
  intro forked
  apply triple_bind (triple_paid (always_ensure beside_order _ _) fun _ _ => id)
  exact fun _ => triple_sessionLoop turns _

theorem triple_runAndClose (turns : Nat) (wantReply : Bool) (command : Option (List UInt8)) (closeDeadlineMs : Nat) :
    Triple (Paid base) (runAndClose noxtls env turns wantReply command closeDeadlineMs) (fun _ => Paid base)
      (Breaks (CutOff base) (Paid base)) := by
  apply triple_bind (triple_paid (always_confirm childChatter_aside.toChannelChatter passive_unit wantReply) fun _ _ => id)
  intro _
  apply triple_bind (triple_runSessionUnix turns command).failAs
  intro _
  exact triple_paid (always_failAs _ (always_beginCloseWait _)) fun _ _ => id

theorem triple_channelRequest (turns closeDeadlineMs : Nat) (payload : List UInt8) (m : Mem) :
    Triple (Paid base) (channelRequest noxtls env turns closeDeadlineMs payload m) (fun _ => Paid base)
      (Breaks (CutOff base) (Paid base)) := by
  have refuses : ∀ wantReply, Triple (Paid base) (refuse noxtls env wantReply >>= fun _ => pure closeDeadlineMs)
      (fun _ => Paid base) (Breaks (CutOff base) (Paid base)) := fun wantReply =>
    triple_paid (always_bind beside_order (always_refuse childChatter_aside.toChannelChatter passive_unit wantReply)
      fun _ => always_pure beside_order _) fun _ _ => id
  have stops : ∀ deadline : Nat, Triple (Paid base) (pure deadline : Prog Server Nat) (fun _ => Paid base)
      (Breaks (CutOff base) (Paid base)) := fun _ => triple_pure _ fun _ => id
  apply triple_self_bind
  intro s
  apply triple_ite (fun _ => stops _)
  intro _
  apply triple_bind (triple_paid (always_lift beside_order _ _) fun _ _ => id)
  rintro ⟨chan, off⟩
  apply triple_ite (fun _ => stops _)
  intro _
  apply triple_bind (triple_paid (always_lift beside_order _ _) fun _ _ => id)
  rintro ⟨req, off⟩
  apply triple_bind (triple_paid (always_ensure beside_order _ _) fun _ _ => id)
  intro _
  apply triple_self_bind
  intro s
  apply triple_ite
  · intro _
    split
    · exact refuses _
    · apply triple_bind (triple_paid (always_modify fun _ => rfl) fun _ _ => id)
      intro _
      apply triple_bind (triple_paid (always_confirm childChatter_aside.toChannelChatter passive_unit _) fun _ _ => id)
      exact fun _ => stops _
  intro _
  apply triple_ite
  · intro _
    split
    · exact refuses _
    · exact triple_runAndClose turns _ _ closeDeadlineMs
  intro _
  apply triple_ite
  · exact fun _ => triple_ite (fun _ => refuses _) fun _ => triple_runAndClose turns _ _ closeDeadlineMs
  · exact fun _ => refuses _

theorem aside_channelOpenRequest (closeDeadlineMs : Nat) (payload : List UInt8) (m : Mem) :
    Always Beside (channelOpenRequest noxtls env closeDeadlineMs payload m) := by
  have order := beside_order
  apply always_bind order (always_ensure order _ _)
  intro _
  apply always_bind order always_self
  intro s
  apply always_bind order (always_ensure order _ _)
  intro _
  apply always_bind order (always_lift order _ _)
  rintro ⟨typ, off⟩
  apply always_bind order (always_lift order _ _)
  rintro ⟨sender, off⟩
  apply always_bind order (always_lift order _ _)
  rintro ⟨window, off⟩
  apply always_bind order (always_lift order _ _)
  rintro ⟨maxPacket, _⟩
  apply always_bind order (always_ensure order _ _)
  intro _
  apply always_bind order (always_ensure order _ _)
  intro _
  apply always_bind order (always_modify fun _ => rfl)
  intro _
  apply always_bind order (always_failAs _ (always_sendChannelOpenConfirmation background_aside steady_unit
    (speaks_aside (by decide)) sender))
  exact fun _ => always_modify fun _ => rfl

/-- Dispatching a packet settles it, or ends the run. -/
theorem triple_dispatch (turns closeDeadlineMs : Nat) (payload : List UInt8) (m : Mem) :
    Triple (Owing base (payload, m)) (dispatch noxtls env turns closeDeadlineMs payload m) (fun _ => Paid base)
      (Breaks (CutOff base) (Paid base)) := by
  by_cases number : payload.head? = some 80
  · have is : dispatch noxtls env turns closeDeadlineMs payload m =
        goOn closeDeadlineMs (failAs .failed (handleGlobalRequest noxtls env payload m)) := by
      unfold dispatch
      simp only [number]
    rw [is]
    exact triple_bind (triple_handleGlobalRequest payload m).failAs fun _ => triple_pure _ fun _ => id
  have other : globalRequestOf payload ≠ some true := by
    rw [globalRequestOf, if_neg fun both => number both.2]
    simp
  apply Triple.mono (P := Paid base) _ (fun _ owing => owing.paid other) (fun _ _ => id) fun _ _ => id
  have goesOn : ∀ m : Prog Server Unit, Always Beside m → Triple (Paid base) (goOn closeDeadlineMs m)
      (fun _ => Paid base) (Breaks (CutOff base) (Paid base)) := fun m always =>
    triple_paid (always_bind beside_order always fun _ => always_pure beside_order _) fun _ _ => id
  have ended : Triple (Paid base) (goOnWith (channelEnd noxtls env closeDeadlineMs payload m))
      (fun _ => Paid base) (Breaks (CutOff base) (Paid base)) :=
    triple_paid (always_bind beside_order (always_channelEnd childChatter_aside.toChannelChatter steady_unit _ payload m)
      fun _ => always_pure beside_order _) fun _ _ => id
  unfold dispatch
  split
  · exact triple_pure _ fun _ => id
  · exact triple_pure _ fun _ => id
  · exact triple_pure _ fun _ => id
  · exact triple_pure _ fun _ => id
  · exact absurd ‹_› number
  · exact goesOn _ (always_serviceRequest background_aside passive_unit (speaks_aside (by decide)) (fun _ => rfl)
      (fun _ => rfl) payload m)
  · exact goesOn _ (always_userauthRequest loginChatter_aside payload m)
  · exact goesOn _ (aside_channelOpenRequest closeDeadlineMs payload m)
  · apply triple_bind (triple_channelRequest turns closeDeadlineMs payload m)
    exact fun _ => triple_pure _ fun _ => id
  · exact goesOn _ (always_channelData childChatter_aside.toChannelChatter steady_unit payload m)
  · exact ended
  · exact ended
  · exact triple_pure _ fun _ => id

theorem triple_serveTurn (turns closeDeadlineMs : Nat) :
    Triple (Paid base) (serveTurn noxtls env turns closeDeadlineMs) (fun _ => Paid base)
      (Breaks (CutOff base) (Paid base)) := by
  apply triple_bind (Q := Arrived base)
  · exact (triple_attempt (triple_recvInto _) fun _ _ => id).under fun _ => Paid.cutOff
  intro got
  cases got with
  | none => exact triple_pure _ fun _ => id
  | some arrival =>
      obtain ⟨payload, m⟩ := arrival
      apply triple_ite
      · rintro rfl
        exact triple_pure _ fun _ owing => owing.paid (by simp [globalRequestOf])
      intro _
      constructor
      intro h owing
      rw [self_bind_run]
      by_cases early : rekeyDue h.self = false
      · rw [ensure_bind_pos early]
        exact (triple_dispatch turns closeDeadlineMs payload m).ends h owing
      · rw [ensure_bind_neg early]
        by_cases wants : globalRequestOf payload = some true
        · obtain ⟨seen, rest, grown, matched, -⟩ := owing
          have due : rekeyDue h.self = true := by simpa using early
          exact ⟨_, grown, .inr ⟨seen, payload, h.self, [], rfl, matched, wants, .inl ⟨due, rfl⟩⟩⟩
        · exact (owing.paid wants).cutOff

theorem triple_serveLoop (sessionTurns turns : Nat) : ∀ closeDeadlineMs,
    Triple (Paid base) (serveLoop noxtls env sessionTurns turns closeDeadlineMs) (fun _ => Paid base)
      (Breaks (CutOff base) (Paid base)) := by
  induction turns with
  | zero => exact fun _ => triple_stall fun _ => id
  | succ turns ih =>
      intro closeDeadlineMs
      apply triple_bind (triple_paid (always_log (show Aside (.serving closeDeadlineMs) from rfl)) fun _ _ => id)
      intro _
      apply triple_bind (triple_paid (always_packetReady closeDeadlineMs) fun _ _ => id)
      intro ready
      cases ready with
      | retry => exact ih _
      | «over» => exact triple_pure () fun _ => id
      | error => exact triple_fail _ fun _ => Paid.cutOff
      | readable =>
          apply triple_bind (triple_serveTurn sessionTurns closeDeadlineMs)
          intro next
          cases next with
          | done => exact triple_pure () fun _ => id
          | again closeDeadlineMs => exact ih _

end Loops

/-! ## The run -/

/-- Before the loops no turn begins. -/
theorem handshake_outside (noxtls : Noxtls) (env : Env) :
    Always (Quiet (fun e => mark? e ≠ some false) fun _ => ()) (handshakeToEncrypted noxtls env) := by
  have background : Background fun e => mark? e ≠ some false :=
    ⟨⟨fun _ => by simp [mark?], by simp [mark?], by simp [mark?]⟩, fun _ _ => by simp [mark?], fun _ _ => by simp [mark?]⟩
  have speaks : ∀ number, Speaks (fun e => mark? e ≠ some false) number := fun _ _ _ =>
    ⟨by simp [mark?], by simp [mark?]⟩
  exact always_handshakeToEncrypted
    ⟨background, ⟨fun _ => by simp [mark?], fun _ => by simp [mark?]⟩, speaks 20, speaks 21, speaks 31⟩
    ⟨passive_unit, fun _ _ => rfl, fun _ => rfl, fun _ _ => rfl, fun _ _ => rfl, fun _ => rfl, fun _ _ _ => rfl,
      fun _ _ => rfl, fun _ => rfl⟩

theorem inLoops_outside {trace : List (Event × Server)} (outside : ∀ e ∈ trace, mark? e.1 ≠ some false)
    (more : List (Event × Server)) : inLoops (trace ++ more) = inLoops more := by
  rw [inLoops, List.dropWhile_append_of_pos, ← inLoops]
  simpa using outside

theorem inLoops_turns {seen : List (Event × Server)} (opens : ∀ e ∈ seen.head?, ∃ d, e.1 = .serving d) :
    inLoops seen = seen := by
  cases seen with
  | nil => rfl
  | cons e seen =>
      obtain ⟨d, is⟩ := opens e (by simp)
      exact List.dropWhile_cons_of_neg (by simp [is, mark?])

theorem served_matched (noxtls : Noxtls) (env : Env) (setup : Setup) (inbox : List UInt8) (turns : Nat) :
    Matched (inLoops (served noxtls env setup inbox turns).trace) ∨
      LeftOver (inLoops (served noxtls env setup inbox turns).trace) := by
  rw [served, serveOne, ask_bind_run, modify_bind_run, bind_run]
  have quiet := always_failAs .failed (handshake_outside noxtls env)
    ⟨setHandshakeDeadline (wrap64 (env.clock 0 + 30000)) setup.server, 1, inbox, []⟩
  revert quiet
  dsimp only
  rcases (failAs .failed (handshakeToEncrypted noxtls env)).run
    ⟨setHandshakeDeadline (wrap64 (env.clock 0 + 30000)) setup.server, 1, inbox, []⟩ with ⟨o, h⟩
  rintro ⟨-, new, grown, kept⟩
  have outside : ∀ e ∈ h.trace, mark? e.1 ≠ some false := by
    rw [show h.trace = new from grown]
    exact fun e mem => (kept e mem).1
  have before : Matched (inLoops h.trace) := by
    have none := inLoops_outside outside []
    rw [List.append_nil] at none
    rw [none]
    exact matched_nil
  cases o with
  | err e => exact .inl before
  | stuck => exact .inl before
  | ok u =>
      have post := (@triple_serveLoop noxtls env h.trace turns turns 0).ends h ⟨[], by simp, matched_nil⟩
      obtain ⟨more, is, opens⟩ := @turnsOver_serveLoop noxtls env turns turns 0 h
      have loops : inLoops ((serveLoop noxtls env turns turns 0).run h).2.trace = more := by
        rw [is, inLoops_outside outside, inLoops_turns opens]
      have ended : CutOff h.trace ((serveLoop noxtls env turns turns 0).run h).2 := by
        revert post
        rcases (serveLoop noxtls env turns turns 0).run h with ⟨o, h'⟩
        intro post
        cases o with
        | ok u => exact Paid.cutOff post
        | err e => exact post
        | stuck => exact Paid.cutOff post
      obtain ⟨seen, grown, which⟩ := ended
      obtain rfl : seen = more := List.append_cancel_left (grown.symm.trans is)
      rw [loops]
      exact which

end NoxSsh.Server
