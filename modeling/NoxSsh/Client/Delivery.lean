/-
# Client.Delivery — what the caller gets of the output

A call of `netnox_ssh_client_recv_data` reads one packet of output and hands over as much
of it as the caller's buffer takes.  The rest of the packet is dropped, and the next call
reads the next packet.

So what a sequence of calls returns is the output of the packets, string by string cut to
the buffers (`Delivered`), and it is all of it just if every string fits its buffer
(`recv_data_all_iff`).  Packets that are read while an exchange is under way are no output.
-/
import NoxSsh.Client.Data
import NoxSsh.Wire.StringView

namespace NoxSsh.Client

open Theory Proc Wire Transport

set_option autoImplicit false

/-! ## The output in a trace -/

/-- The string that stands at `off`. -/
def stringAt (payload : List UInt8) (off : Nat) : List UInt8 :=
  (payload.drop (off + 4)).take (beNat ((payload.drop off).take 4))

/-- Where the data string of this packet stands. -/
def dataOffset (payload : List UInt8) : Nat := if payload.head? = some 95 then 9 else 5

/-- Data, extended data, EOF or CLOSE. -/
def IsOutput (payload : List UInt8) : Prop :=
  payload.head? = some 94 ∨ payload.head? = some 95 ∨ payload.head? = some 96 ∨ payload.head? = some 97

instance (payload : List UInt8) : Decidable (IsOutput payload) := inferInstanceAs (Decidable (_ ∨ _ ∨ _ ∨ _))

/-- What it adds to the output: EOF and CLOSE nothing. -/
def outputOf (payload : List UInt8) : List UInt8 :=
  if payload.head? = some 94 ∨ payload.head? = some 95 then stringAt payload (dataOffset payload) else []

/-- Its data string is no longer than a packet may be that the client takes. -/
def Modest (payload : List UInt8) : Prop :=
  payload.head? = some 94 ∨ payload.head? = some 95 →
    beNat ((payload.drop (dataOffset payload)).take 4) ≤ channelMaxPacketSize

instance (payload : List UInt8) : Decidable (Modest payload) := inferInstanceAs (Decidable (_ → _))

/-- How many exchanges are under way, and the packets of output that came in, each with how
many were under way when it did. -/
abbrev Seen := Nat × List (Nat × List UInt8)

def follow (seen : Seen) (e : Event) : Seen :=
  match e with
  | .kexEntered => (seen.1 + 1, seen.2)
  | .kexLeft _ => (seen.1 - 1, seen.2)
  | .received payload => if IsOutput payload then (seen.1, seen.2 ++ [(seen.1, payload)]) else seen
  | _ => seen

def followed (seen : Seen) (events : List (Event × Client)) : Seen := events.foldl (fun s e => follow s e.1) seen

/-- The packets of output in these events, which begin outside of any exchange. -/
def outputPackets (events : List (Event × Client)) : List (Nat × List UInt8) := (followed (0, []) events).2

/-- Those that came in outside of any exchange. -/
def outside (arrivals : List (Nat × List UInt8)) : List (List UInt8) :=
  (arrivals.filter fun a => a.1 = 0).map fun a => a.2

/-- It has nothing to do with output or exchanges. -/
def Beside (e : Event) : Prop := ∀ seen, follow seen e = seen

/-- `depth` exchanges are under way since `h₀`, and this output came in. -/
def Level (h₀ : Host Client) (depth : Nat) (packets : List (List UInt8)) (h : Host Client) : Prop :=
  ∃ new, h.trace = h₀.trace ++ new ∧ (followed (0, []) new).1 = depth ∧ outside (followed (0, []) new).2 = packets

section Following

variable {noxtls : Noxtls} {env : Env} {h₀ h h' : Host Client} {depth : Nat} {packets : List (List UInt8)}

theorem followed_append (seen : Seen) (a b : List (Event × Client)) :
    followed seen (a ++ b) = followed (followed seen a) b :=
  List.foldl_append

theorem followed_beside {new : List (Event × Client)} (beside : ∀ e ∈ new, Beside e.1) (seen : Seen) :
    followed seen new = seen := by
  induction new with
  | nil => rfl
  | cons e new ih =>
      show followed (follow seen e.1) new = seen
      rw [beside e List.mem_cons_self]
      exact ih fun e mem => beside e (List.mem_cons_of_mem _ mem)

theorem outside_snoc (arrivals : List (Nat × List UInt8)) (depth : Nat) (payload : List UInt8) :
    outside (arrivals ++ [(depth, payload)]) = outside arrivals ++ if depth = 0 then [payload] else [] := by
  rw [outside, List.filter_append, List.map_append, outside]
  by_cases none : depth = 0 <;> simp [none]

theorem background_beside : Background Beside :=
  ⟨⟨fun _ _ => rfl, fun _ => rfl, fun _ => rfl⟩, fun _ _ _ => rfl, fun _ _ _ => rfl⟩

theorem Level.quiet (level : Level h₀ depth packets h) (quiet : Quiet Beside (fun _ => ()) h h') :
    Level h₀ depth packets h' := by
  obtain ⟨before, is, seen⟩ := level
  obtain ⟨-, new, grown, beside⟩ := quiet
  refine ⟨before ++ new, by rw [grown, is, List.append_assoc], ?_⟩
  rwa [followed_append, followed_beside fun e mem => (beside e mem).1]

theorem Level.log (level : Level h₀ depth packets h) (e : Event) (tick : Nat) {depth' : Nat}
    {packets' : List (List UInt8)} (follows : ∀ arrivals, outside arrivals = packets →
      (follow (depth, arrivals) e).1 = depth' ∧ outside (follow (depth, arrivals) e).2 = packets') :
    Level h₀ depth' packets' { h with tick := tick, trace := h.trace ++ [(e, h.self)] } := by
  obtain ⟨new, is, rfl, seen⟩ := level
  refine ⟨new ++ [(e, h.self)], by rw [is, List.append_assoc], ?_⟩
  rw [followed_append]
  exact follows _ seen

theorem receives_level (payloadMax : Nat) :
    Triple (Level h₀ depth packets) (recvInto noxtls env payloadMax) (Heard (Level h₀ depth packets) payloadMax)
      (Breaks (Level h₀ depth packets) fun _ => True) :=
  (triple_recvInto background_beside (fun _ _ => rfl) steady_unit.toPassive (fun _ _ quiet level => level.quiet quiet)
    payloadMax).mono (fun _ => id) (fun _ _ => id) fun e h broke => by
      cases e with
      | some _ => exact broke
      | none => trivial

/-- Within an exchange what comes in is no output. -/
theorem Level.heardInside {payloadMax : Nat} {arrival : Arrival} (heard : Heard (Level h₀ (depth + 1) packets) payloadMax arrival h) :
    Level h₀ (depth + 1) packets h := by
  obtain ⟨h₁, rest, level, -, -, rfl⟩ := heard
  refine level.log (.received arrival.1) _ fun arrivals is => ?_
  rw [follow]
  split
  · exact ⟨rfl, by rw [outside_snoc, if_neg (Nat.succ_ne_zero depth), List.append_nil, is]⟩
  · exact ⟨rfl, is⟩

theorem answering_level : Answering noxtls env (Level h₀ depth packets) fun _ => True :=
  answering_of_carries background_beside (fun _ _ _ _ => ⟨fun _ => rfl, fun _ => rfl⟩) steady_unit
    (fun _ _ quiet level => level.quiet quiet) fun _ _ => trivial

theorem exchanging_level : Exchanging noxtls env (Level h₀ (depth + 1) packets) fun _ => True :=
  exchanging_of_carries background_beside ⟨fun _ _ => rfl, fun _ _ _ _ => rfl⟩
    (fun _ _ _ _ => ⟨fun _ => rfl, fun _ => rfl⟩) (fun _ _ _ => rfl) steady_unit
    (fun _ _ quiet level => level.quiet quiet) (fun _ _ => trivial) fun n =>
      (receives_level n).mono (fun _ => id) (fun _ _ => Level.heardInside) fun _ _ => id

/-- An exchange that waits one level deeper comes back to its own. -/
theorem performs_level {wait : UInt8 → UInt8 → Nat → Prog Client Arrival}
    (waits : ∀ a b n, Stays (Level h₀ (depth + 1) packets) (fun _ => True) (wait a b n)) :
    Stays (Level h₀ depth packets) (fun _ => True) (performWith noxtls env wait) := by
  refine triple_self_bind fun c => stays_ensure_bind fun _ => ?_
  refine triple_bind (Q := fun _ => Level h₀ (depth + 1) packets) (triple_log fun h level => ?_) fun _ => ?_
  · exact level.log .kexEntered h.tick fun _ is => ⟨rfl, is⟩
  · exact triple_leaving (exchanging_level.exchangesKeys waits)
      (fun _ h level => level.log (.kexLeft true) h.tick fun _ is => ⟨rfl, is⟩)
      (fun _ h level => level.log (.kexLeft false) h.tick fun _ is => ⟨rfl, is⟩) fun _ => id

/-- By induction on how many exchanges may still begin: a wait keeps the level it is at. -/
theorem waits_level (turns : Nat) (a b : UInt8) (outMax : Nat) :
    Stays (Level h₀ (depth + 1) packets) (fun _ => True) (waitNested noxtls env turns a b outMax) := by
  induction turns generalizing depth a b outMax with
  | zero =>
      have asks := (@answering_level noxtls env h₀ (depth + 1) packets).asks
      exact triple_waitLoop (fun _ => id) asks exchanging_level.receives
        (fun _ _ => stays_stall fun _ _ => trivial) a b outMax waitTurns
  | succ turns ih =>
      have performs : Stays (Level h₀ (depth + 1) packets) (fun _ => True)
          (performWith noxtls env (waitNested noxtls env turns)) :=
        performs_level ih
      have asks := (@answering_level noxtls env h₀ (depth + 1) packets).asks
      exact triple_waitLoop (fun _ => id) asks exchanging_level.receives (answering_level.handles performs)
        a b outMax waitTurns

/-- A KEXINIT is answered without touching the output. -/
theorem handles_level (rx : List UInt8) (m : Mem) :
    Stays (Level h₀ depth packets) (fun _ => True) (handleServerKexinit noxtls env rx m) :=
  answering_level.handles (performs_level fun a b n => triple_byInbox fun turns => waits_level turns a b n) rx m

end Following

/-! ## One call -/

/-- A string that is no longer than a packet may be is read as it stands. -/
theorem view_stringAt {rx : List UInt8} {rest : Mem} {off next : Nat} {v : View} (early : off ≤ 9)
    (short : rx.length ≤ maxPacketLen) (modest : beNat ((rx.drop off).take 4) ≤ channelMaxPacketSize)
    (read : payloadReadStringView (memOf rx rest) rx.length off = some (v, next)) :
    v.bytes (memOf rx rest) = stringAt rx off := by
  have length : rx.length ≤ 35000 := short
  have most : beNat ((rx.drop off).take 4) ≤ 32768 := modest
  rw [payloadReadStringView_eq (by omega), Option.ite_none_right_eq_some] at read
  obtain ⟨⟨room, fits⟩, is⟩ := read
  obtain ⟨rfl, -⟩ := Prod.mk.inj (Option.some.inj is)
  rw [slice_memOf rx rest room] at fits ⊢
  rw [wrap32_of_lt (by omega)] at fits
  show slice (memOf rx rest) (off + 4) _ = _
  rw [slice_memOf rx rest fits, stringAt]

/-- What one packet comes to: it is no output, or it is this part of the output. -/
def Parted (h₀ : Host Client) (packets : List (List UInt8)) (capacity : Nat) : Option (List UInt8) → Host Client → Prop
  | none, h => Level h₀ 0 packets h
  | some data, h => ∃ rx, Level h₀ 0 (packets ++ [rx]) h ∧ (Modest rx → data = (outputOf rx).take capacity)

/-- However it ends otherwise. -/
abbrev Yields {α : Type} (P : Host Client → Prop) (m : Prog Client α) (Q : α → Host Client → Prop) : Prop :=
  Triple P m Q (Breaks (fun _ => True) fun _ => True)

section Taking

variable {noxtls : Noxtls} {env : Env} {h₀ : Host Client} {packets : List (List UInt8)} {capacity : Nat}
  {rx : List UInt8} {rest : Mem}

theorem yields_readRecipient {P : Host Client → Prop} :
    Yields P (readRecipient rx (memOf rx rest)) fun off h => P h ∧ off = 5 := by
  apply triple_lift_bind _ fun _ _ => trivial
  rintro ⟨recipient, off⟩ read
  obtain ⟨rfl, -, -⟩ := payloadReadU32_some read (by decide)
  apply triple_self_bind
  intro c
  apply triple_ensure_bind _ fun _ _ => trivial
  exact fun _ => triple_pure _ fun h holds => ⟨holds, rfl⟩

theorem yields_takeData {off : Nat} (early : off ≤ 9) (short : rx.length ≤ maxPacketLen)
    (number : rx.head? = some 94 ∨ rx.head? = some 95) (here : off = dataOffset rx) :
    Yields (Level h₀ 0 (packets ++ [rx])) (takeData capacity rx (memOf rx rest) off >>= fun data => pure (some data))
      (Parted h₀ packets capacity) := by
  apply triple_bind (Q := fun data h => Level h₀ 0 (packets ++ [rx]) h ∧ (Modest rx → data = (outputOf rx).take capacity))
  · apply triple_lift_bind _ fun _ _ => trivial
    rintro ⟨str, next⟩ read
    refine triple_pure _ fun h level => ⟨level, fun modest => ?_⟩
    have small := modest number
    rw [← here] at small
    rw [view_stringAt early short small read, outputOf, if_pos number, here]
  · exact fun data => triple_pure _ fun h got => ⟨rx, got⟩

theorem yields_takePacket {number : UInt8} (head : rx.head? = some number) (short : rx.length ≤ maxPacketLen) :
    Yields (Level h₀ 0 (if IsOutput rx then packets ++ [rx] else packets))
      (takePacket noxtls env capacity number rx (memOf rx rest)) (Parted h₀ packets capacity) := by
  have other : number ≠ 94 → number ≠ 95 → number ≠ 96 → number ≠ 97 → ¬ IsOutput rx := by
    intro data extended eof close output
    rw [IsOutput, head, Option.some.injEq, Option.some.injEq, Option.some.injEq, Option.some.injEq] at output
    rcases output with is | is | is | is
    exacts [data is, extended is, eof is, close is]
  apply triple_ite
  · rintro rfl
    rw [if_neg (other (by decide) (by decide) (by decide) (by decide))]
    have handles := (@handles_level noxtls env h₀ 0 packets rx (memOf rx rest)).failAs (e := .failed)
    exact triple_bind (handles.mono (fun _ => id) (fun _ _ => id) fun e h _ => by cases e <;> trivial) fun _ =>
      triple_pure _ fun _ => id
  intro kexinit
  apply triple_ite
  · rintro rfl
    rw [if_pos (.inl head)]
    apply triple_bind yields_readRecipient
    intro off
    apply triple_given
    rintro rfl
    exact yields_takeData (by decide) short (.inl head) (by rw [dataOffset, head]; rfl)
  intro data
  apply triple_ite
  · rintro rfl
    rw [if_pos (.inr (.inl head))]
    apply triple_bind yields_readRecipient
    intro off
    apply triple_given
    rintro rfl
    apply triple_lift_bind _ fun _ _ => trivial
    rintro ⟨code, off⟩ read
    obtain ⟨rfl, -, -⟩ := payloadReadU32_some read (by decide)
    exact yields_takeData (by decide) short (.inr head) (by rw [dataOffset, if_pos head])
  intro extended
  apply triple_ite
  · rintro rfl
    rw [if_neg (other (by decide) (by decide) (by decide) (by decide))]
    apply triple_bind (Q := fun _ => Level h₀ 0 packets)
    · apply triple_bind yields_readRecipient
      intro off
      apply triple_given
      rintro rfl
      apply triple_lift_bind _ fun _ _ => trivial
      rintro ⟨req, off⟩ -
      apply triple_ensure_bind _ fun _ _ => trivial
      intro _
      refine triple_ite (fun _ => ?_) fun _ => triple_pure () fun _ => id
      apply triple_lift_bind _ fun _ _ => trivial
      rintro ⟨status, _⟩ -
      exact triple_modify fun _ => id
    · exact fun _ => triple_pure _ fun _ => id
  intro request
  have ends : (number = 96 ∨ number = 97) → ∀ h, Level h₀ 0 (if IsOutput rx then packets ++ [rx] else packets) h →
      Parted h₀ packets capacity (some []) h := by
    intro known h level
    have output : IsOutput rx := by rcases known with rfl | rfl <;> simp [IsOutput, head]
    rw [if_pos output] at level
    refine ⟨rx, level, fun _ => ?_⟩
    rw [outputOf, if_neg (by rw [head]; rcases known with rfl | rfl <;> decide), List.take_nil]
  apply triple_ite
  · exact fun is => triple_pure _ (ends (.inl is))
  intro eof
  apply triple_ite
  · intro is
    exact triple_bind (Q := fun _ => Parted h₀ packets capacity (some [])) (triple_modify (ends (.inr is))) fun _ =>
      triple_pure _ fun _ => id
  intro close
  rw [if_neg (other data extended eof close)]
  exact triple_pure _ fun _ => id

/-- What has come in outside of an exchange, and stands in the trace. -/
theorem Level.heardOutside {payloadMax : Nat} {m : Mem} {h : Host Client}
    (heard : Heard (Level h₀ 0 packets) payloadMax (rx, m) h) :
    Level h₀ 0 (if IsOutput rx then packets ++ [rx] else packets) h ∧ rx.length ≤ payloadMax ∧
      ∃ rest, m = memOf rx rest := by
  obtain ⟨h₁, rest, level, short, is, rfl⟩ := heard
  refine ⟨level.log (.received rx) _ fun arrivals seen => ?_, short, rest, is⟩
  by_cases output : IsOutput rx
  · rw [follow, if_pos output, if_pos output]
    exact ⟨rfl, by rw [outside_snoc, if_pos rfl, seen]⟩
  · rw [follow, if_neg output, if_neg output]
    exact ⟨rfl, seen⟩

theorem yields_recvDataLoop (turns : Nat) :
    Yields (Level h₀ 0 packets) (recvDataLoop noxtls env capacity turns) fun data => Parted h₀ packets capacity (some data) := by
  induction turns with
  | zero => exact triple_stall fun _ _ => trivial
  | succ turns ih =>
      have receives : Yields (Level h₀ 0 packets) (failAs .failed (recvInto noxtls env maxPacketLen))
          (Heard (Level h₀ 0 packets) maxPacketLen) :=
        (receives_level maxPacketLen).failAs.mono (fun _ => id) (fun _ _ => id) fun e _ _ => by cases e <;> trivial
      apply triple_bind receives
      rintro ⟨rx, m⟩
      constructor
      intro h heard
      obtain ⟨level, short, rest, rfl⟩ := Level.heardOutside heard
      dsimp only
      split
      · rename_i none
        rw [if_neg (by simp [IsOutput, none])] at level
        exact ih.ends h level
      · rename_i number head
        apply (triple_bind (yields_takePacket head short) fun taken => ?_).ends h level
        cases taken with
        | none => exact ih
        | some data => exact triple_pure data fun _ => id

end Taking

/-! ## Any number of calls -/

/-- `netnox_ssh_client_recv_data` with these capacities, one after the other, as long as it
returns success. -/
def recvAll (noxtls : Noxtls) (env : Env) : List Nat → Prog Client (List (List UInt8))
  | [] => pure []
  | capacity :: capacities => do
      let data ← recvData noxtls env capacity
      let rest ← recvAll noxtls env capacities
      pure (data :: rest)

section Calls

variable {noxtls : Noxtls} {env : Env} {h₀ : Host Client} {packets : List (List UInt8)}

/-- The calls returned the output of these packets, cut to their capacities. -/
def Delivered (h₀ : Host Client) (packets : List (List UInt8)) (capacities : List Nat) (results : List (List UInt8))
    (h : Host Client) : Prop :=
  ∃ taken, Level h₀ 0 (packets ++ taken) h ∧ taken.length = capacities.length ∧
    ((∀ rx ∈ taken, Modest rx) → results = List.zipWith (fun rx capacity => (outputOf rx).take capacity) taken capacities)

theorem yields_recvAll (capacities : List Nat) :
    Yields (Level h₀ 0 packets) (recvAll noxtls env capacities) (Delivered h₀ packets capacities) := by
  induction capacities generalizing packets with
  | nil => exact triple_pure _ fun h level => ⟨[], by rwa [List.append_nil], rfl, fun _ => rfl⟩
  | cons capacity capacities ih =>
      have first : Yields (Level h₀ 0 packets) (recvData noxtls env capacity)
          fun data => Parted h₀ packets capacity (some data) := by
        apply triple_ensure_bind _ fun _ _ => trivial
        intro _
        apply triple_self_bind
        intro c
        apply triple_ensure_bind _ fun _ _ => trivial
        exact fun _ => triple_byInbox yields_recvDataLoop
      apply triple_bind first
      intro data
      constructor
      rintro h ⟨rx, level, whole⟩
      apply (triple_bind ih fun rest => triple_pure (data :: rest) ?_).ends h level
      rintro h' ⟨taken, level', many, all⟩
      refine ⟨rx :: taken, by rwa [List.append_assoc] at level', by simp [many], fun modest => ?_⟩
      rw [whole (modest rx List.mem_cons_self), all fun p mem => modest p (List.mem_cons_of_mem _ mem)]
      rfl

end Calls

section Cutting

variable (pieces : List (List UInt8)) (capacities : List Nat)

/-- Every piece cut to its capacity. -/
def cut : List (List UInt8) := List.zipWith (fun piece capacity => piece.take capacity) pieces capacities

variable {pieces capacities}

theorem length_cut_le (many : pieces.length = capacities.length) :
    (cut pieces capacities).flatten.length ≤ pieces.flatten.length := by
  induction pieces generalizing capacities with
  | nil => simp [cut]
  | cons piece pieces ih =>
      cases capacities with
      | nil => simp [cut]
      | cons capacity capacities =>
          have rest := ih (Nat.succ.inj many)
          simp only [cut, List.zipWith_cons_cons, List.flatten_cons, List.length_append, List.length_take] at rest ⊢
          omega

/-- The cut pieces make up the whole just if none of them is cut. -/
theorem flatten_cut_iff (many : pieces.length = capacities.length) :
    (cut pieces capacities).flatten = pieces.flatten ↔
      List.Forall₂ (fun piece capacity => piece.length ≤ capacity) pieces capacities := by
  induction pieces generalizing capacities with
  | nil =>
      obtain rfl := List.length_eq_zero_iff.1 many.symm
      simp [cut]
  | cons piece pieces ih =>
      cases capacities with
      | nil => cases many
      | cons capacity capacities =>
          rw [List.forall₂_cons, ← ih (Nat.succ.inj many)]
          show piece.take capacity ++ (cut pieces capacities).flatten = piece ++ pieces.flatten ↔ _
          constructor
          · intro whole
            have rest := length_cut_le (Nat.succ.inj many)
            have lengths := congrArg List.length whole
            rw [List.length_append, List.length_append, List.length_take] at lengths
            have fits : piece.length ≤ capacity := by omega
            rw [List.take_of_length_le fits, List.append_cancel_left_eq] at whole
            exact ⟨fits, whole⟩
          · rintro ⟨fits, rest⟩
            rw [List.take_of_length_le fits, rest]

end Cutting

section Dropping

variable {arrivals : List (Nat × List UInt8)}

/-- All of the output that came in, wherever it did. -/
def wholeOutput (arrivals : List (Nat × List UInt8)) : List UInt8 := (arrivals.map fun a => outputOf a.2).flatten

/-- Nothing comes in while an exchange is under way. -/
def NoneInside (arrivals : List (Nat × List UInt8)) : Prop := ∀ a ∈ arrivals, a.1 ≠ 0 → outputOf a.2 = []

theorem outside_cons (a : Nat × List UInt8) :
    outside (a :: arrivals) = if a.1 = 0 then a.2 :: outside arrivals else outside arrivals := by
  rw [outside, List.filter_cons, outside]
  by_cases none : a.1 = 0 <;> simp [none]

theorem length_outside_le : ((outside arrivals).map outputOf).flatten.length ≤ (wholeOutput arrivals).length := by
  induction arrivals with
  | nil => exact Nat.le_refl 0
  | cons a arrivals ih =>
      rw [outside_cons, wholeOutput, List.map_cons, List.flatten_cons, List.length_append]
      rw [wholeOutput] at ih
      split
      · rw [List.map_cons, List.flatten_cons, List.length_append]
        omega
      · omega

/-- What came in outside is the whole if it is as long. -/
theorem outside_whole (long : (wholeOutput arrivals).length ≤ ((outside arrivals).map outputOf).flatten.length) :
    ((outside arrivals).map outputOf).flatten = wholeOutput arrivals ∧ NoneInside arrivals := by
  induction arrivals with
  | nil => exact ⟨rfl, by simp [NoneInside]⟩
  | cons a arrivals ih =>
      have rest := @length_outside_le arrivals
      rw [NoneInside, List.forall_mem_cons, ← NoneInside]
      rw [outside_cons, wholeOutput, List.map_cons, List.flatten_cons, ← wholeOutput, List.length_append] at long
      rw [outside_cons, wholeOutput, List.map_cons, List.flatten_cons, ← wholeOutput]
      by_cases none : a.1 = 0
      · rw [if_pos none, List.map_cons, List.flatten_cons] at long ⊢
        rw [List.length_append] at long
        obtain ⟨whole, inside⟩ := ih (by omega)
        exact ⟨by rw [whole], fun some => absurd none some, inside⟩
      · rw [if_neg none] at long ⊢
        obtain ⟨whole, inside⟩ := ih (by omega)
        have empty : outputOf a.2 = [] := List.length_eq_zero_iff.1 (by omega)
        exact ⟨by rw [empty, whole, List.nil_append], fun _ => empty, inside⟩

theorem whole_of_noneInside (inside : NoneInside arrivals) :
    ((outside arrivals).map outputOf).flatten = wholeOutput arrivals := by
  induction arrivals with
  | nil => rfl
  | cons a arrivals ih =>
      have rest := ih fun b mem => inside b (List.mem_cons_of_mem _ mem)
      rw [outside_cons, wholeOutput, List.map_cons, List.flatten_cons, ← wholeOutput, ← rest]
      split
      · rfl
      · rename_i some
        rw [inside a List.mem_cons_self some, List.nil_append]

end Dropping

/-- **When all of the output is delivered.**  In every state and for any number of calls with
any capacities, whatever the server sends: if all of them return success, and the data
strings are no longer than the client takes, then what they return is all of the output
that came in, just if the string of every packet fits the buffer of the call that reads it
and none comes in while an exchange is under way. -/
theorem recv_data_all_iff (noxtls : Noxtls) (env : Env) (h h' : Host Client) (capacities : List Nat)
    (results : List (List UInt8)) (ran : (recvAll noxtls env capacities).run h = (.ok results, h')) :
    ∃ new, h'.trace = h.trace ++ new ∧ ((∀ a ∈ outputPackets new, Modest a.2) →
      (results.flatten = wholeOutput (outputPackets new) ↔
        List.Forall₂ (fun rx capacity => (outputOf rx).length ≤ capacity) (outside (outputPackets new)) capacities ∧
          NoneInside (outputPackets new))) := by
  have delivered := (@yields_recvAll noxtls env h [] capacities).ends h ⟨[], (List.append_nil _).symm, rfl, rfl⟩
  rw [ran] at delivered
  obtain ⟨taken, ⟨new, grown, -, seen⟩, many, all⟩ := delivered
  have packets : outside (outputPackets new) = taken := seen
  refine ⟨new, grown, fun modest => ?_⟩
  have modest' : ∀ rx ∈ taken, Modest rx := by
    rw [← packets]
    intro rx mem
    obtain ⟨a, inside, rfl⟩ := List.mem_map.1 mem
    exact modest a (List.mem_of_mem_filter inside)
  have same : ((outside (outputPackets new)).map outputOf).length = capacities.length := by
    rw [List.length_map, packets, many]
  have cuts : results = cut ((outside (outputPackets new)).map outputOf) capacities := by
    rw [all modest', cut, List.zipWith_map_left, packets]
  have fits := flatten_cut_iff same
  rw [List.forall₂_map_left_iff] at fits
  rw [← fits, cuts]
  constructor
  · intro whole
    have less := length_cut_le same
    rw [whole] at less
    obtain ⟨all, inside⟩ := outside_whole less
    exact ⟨whole.trans all.symm, inside⟩
  · rintro ⟨uncut, inside⟩
    rw [uncut, whole_of_noneInside inside]

namespace Probe

/-- Two bytes of output in one packet. -/
def pair : List UInt8 := [94] ++ be32 0 ++ sshString [104, 105]

/-- What a call makes of these packets. -/
def handed (capacity : Nat) (payloads : List (List UInt8)) : Outcome NetnoxReturn (List (List UInt8)) × Host Client :=
  (recvAll noxtls brisk [capacity]).run (opened 0 (sealAll noxtls ⟨true, zeros 16, zeros 32, zeros 16, 0⟩ payloads))

theorem handed_run {capacity : Nat} {payloads results : List (List UInt8)} (ok : (handed capacity payloads).1 = .ok results) :
    (recvAll noxtls brisk [capacity]).run (opened 0 (sealAll noxtls ⟨true, zeros 16, zeros 32, zeros 16, 0⟩ payloads)) =
      (.ok results, (handed capacity payloads).2) := by
  show handed capacity payloads = _
  exact Prod.ext ok rfl

end Probe

/-- Two bytes into a buffer of two. -/
theorem recv_data_all_iff_two :
    ∃ new, (Probe.handed 2 [Probe.pair]).2.trace = [] ++ new ∧ ((∀ a ∈ outputPackets new, Modest a.2) →
      ([[104, 105]].flatten = wholeOutput (outputPackets new) ↔
        List.Forall₂ (fun rx capacity => (outputOf rx).length ≤ capacity) (outside (outputPackets new)) [2] ∧
          NoneInside (outputPackets new))) :=
  recv_data_all_iff Probe.noxtls Probe.brisk _ _ [2] [[104, 105]] (Probe.handed_run (by decide +kernel))

/-- Two bytes into a buffer of one: the second is lost. -/
theorem recv_data_drops :
    ¬ ∀ (noxtls : Noxtls) (env : Env) (h h' : Host Client) (capacities : List Nat) (results : List (List UInt8)),
      (recvAll noxtls env capacities).run h = (.ok results, h') →
      ∃ new, h'.trace = h.trace ++ new ∧ ((∀ a ∈ outputPackets new, Modest a.2 ∧ a.1 = 0) →
        results.flatten = wholeOutput (outputPackets new)) := by
  intro whole
  have ran : (Probe.handed 1 [Probe.pair]).1 = .ok [[104]] ∧
      outputPackets (Probe.handed 1 [Probe.pair]).2.trace = [(0, Probe.pair)] := by
    decide +kernel
  obtain ⟨new, grown, all⟩ := whole Probe.noxtls Probe.brisk _ _ [1] [[104]] (Probe.handed_run ran.1)
  have grown : (Probe.handed 1 [Probe.pair]).2.trace = new := grown
  rw [← grown, ran.2] at all
  exact absurd (all (by decide)) (by decide)

end NoxSsh.Client
