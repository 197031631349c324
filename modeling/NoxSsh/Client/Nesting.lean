/-
# Client.Nesting — one key exchange at a time

A KEXINIT is answered wherever it turns up: `netnox_ssh_wait_for_message` calls
`netnox_ssh_handle_server_kexinit`, that calls `netnox_ssh_perform_curve25519_kex`, and
that waits again, for up to 32 packets of its own.  So an exchange can begin inside an
exchange, as deep as the server likes.

`one_exchange_at_a_time` — no more than one is under way as long as no KEXINIT that the
client accepts comes while one is; and a wait reads at most 32 packets outside of the
exchanges that are completed in it, unless one is begun in it and not completed.
-/
import NoxSsh.Client.Conduct

namespace NoxSsh.Client

open Theory Proc Wire Transport

set_option autoImplicit false

/-! ## Keeping the books -/

/-- The packets read since the last exchange under way began, and before it, level by
level, since the exchange around it did. -/
abbrev Ledger := Nat × List Nat

/-- A completed exchange takes its packets with it, any other leaves them. -/
def book : Ledger → Event → Ledger
  | (read, outer), .received _ => (read + 1, outer)
  | (read, outer), .kexEntered => (0, read :: outer)
  | (_, before :: outer), .kexLeft true => (before, outer)
  | (read, before :: outer), .kexLeft false => (before + read, outer)
  | ledger, _ => ledger

def booked (ledger : Ledger) (events : List (Event × Client)) : Ledger := events.foldl (fun l e => book l e.1) ledger

/-- How many exchanges are under way. -/
def underWay (events : List (Event × Client)) : Nat := (booked (0, []) events).2.length

/-- The packets read, except those within completed exchanges. -/
def packetsOutside (events : List (Event × Client)) : Nat :=
  (booked (0, []) events).1 + (booked (0, []) events).2.sum

/-- A KEXINIT that `netnox_ssh_handle_server_kexinit` goes on with. -/
def Acceptable (rx : List UInt8) : Prop :=
  rx.head? = some 20 ∧ rx.length ≤ maxKexinitPayloadLen ∧
    ∃ rest, (validateServerKexinit (memOf rx rest) rx.length).isOk = true

/-- No such KEXINIT comes while an exchange is under way. -/
def OneByOne (events : List (Event × Client)) : Prop :=
  ∀ i rx c, events[i]? = some (.received rx, c) → Acceptable rx → underWay (events.take i) = 0

def AtMostOne (events : List (Event × Client)) : Prop := ∀ i, underWay (events.take i) ≤ 1

/-- It leaves the books alone. -/
def Aside (e : Event) : Prop := ∀ ledger, book ledger e = ledger

section Books

variable {events new : List (Event × Client)} {c : Client} {e : Event}

theorem booked_append (ledger : Ledger) : booked ledger (events ++ new) = booked (booked ledger events) new :=
  List.foldl_append

theorem booked_snoc (ledger : Ledger) : booked ledger (events ++ [(e, c)]) = book (booked ledger events) e :=
  booked_append ledger

theorem booked_aside (aside : ∀ e ∈ new, Aside e.1) (ledger : Ledger) : booked ledger new = ledger := by
  induction new with
  | nil => rfl
  | cons e new ih =>
      show booked (book ledger e.1) new = ledger
      rw [aside e List.mem_cons_self]
      exact ih fun e member => aside e (List.mem_cons_of_mem _ member)

theorem underWay_aside (aside : ∀ e ∈ new, Aside e.1) : underWay (events ++ new) = underWay events := by
  rw [underWay, booked_append, booked_aside aside, underWay]

theorem background_aside : Background Aside :=
  ⟨⟨fun _ _ => rfl, fun _ => rfl, fun _ => rfl⟩, fun _ _ _ => rfl, fun _ _ _ => rfl⟩

theorem OneByOne.before (fine : OneByOne (events ++ new)) : OneByOne events := by
  intro i rx c is acceptable
  have inside : i < events.length := (List.getElem?_eq_some_iff.1 is).1
  have same := fine i rx c (by rw [List.getElem?_append_left inside, is]) acceptable
  rwa [List.take_append_of_le_length (by omega)] at same

theorem OneByOne.last {rx : List UInt8} (fine : OneByOne (events ++ [(.received rx, c)])) (acceptable : Acceptable rx) :
    underWay events = 0 := by
  have last := fine events.length rx c (by simp) acceptable
  rwa [List.take_left'] at last
  rfl

theorem AtMostOne.snoc (few : AtMostOne events) (last : underWay (events ++ [(e, c)]) ≤ 1) :
    AtMostOne (events ++ [(e, c)]) := by
  intro i
  by_cases inside : i ≤ events.length
  · rw [List.take_append_of_le_length inside]
    exact few i
  · rwa [List.take_of_length_le (by simp; omega)]

theorem AtMostOne.aside (few : AtMostOne events) (aside : ∀ e ∈ new, Aside e.1) : AtMostOne (events ++ new) := by
  intro i
  rw [List.take_append, underWay_aside fun e member => aside e (List.mem_of_mem_take member)]
  exact few i

end Books

/-! ## One at a time -/

/-- `level` exchanges are under way, and there were never more than one. -/
def At (level : Nat) (h : Host Client) : Prop :=
  OneByOne h.trace → underWay h.trace = level ∧ AtMostOne h.trace

/-- There were never more than one. -/
def Single (h : Host Client) : Prop := OneByOne h.trace → AtMostOne h.trace

section Levels

variable {noxtls : Noxtls} {env : Env} {level : Nat} {h h' : Host Client}

theorem At.single (at_ : At level h) : Single h := fun fine => (at_ fine).2

theorem At.quiet (at_ : At level h) (quiet : Quiet Aside (fun _ => ()) h h') : At level h' := by
  obtain ⟨-, new, grown, aside⟩ := quiet
  intro fine
  rw [grown] at fine ⊢
  obtain ⟨is, few⟩ := at_ fine.before
  have silent : ∀ e ∈ new, Aside e.1 := fun e member => (aside e member).1
  exact ⟨(underWay_aside silent).trans is, few.aside silent⟩

/-- One more event, and what it does to the number of exchanges. -/
theorem At.log (at_ : At level h) {e : Event} {next : Nat} (small : next ≤ 1)
    (books : ∀ ledger : Ledger, ledger.2.length = level → (book ledger e).2.length = next) {tick : Nat} :
    At next { h with tick := tick, trace := h.trace ++ [(e, h.self)] } := by
  intro fine
  obtain ⟨is, few⟩ := at_ fine.before
  have last : underWay (h.trace ++ [(e, h.self)]) = next := by
    rw [underWay, booked_snoc]
    exact books _ is
  exact ⟨last, few.snoc (last ▸ small)⟩

theorem At.heard {payloadMax : Nat} {arrival : Arrival} (small : level ≤ 1)
    (heard : Heard (At level) payloadMax arrival h) : At level h := by
  obtain ⟨h₀, rest, at_, -, -, rfl⟩ := heard
  exact at_.log (e := .received arrival.1) small fun _ is => is

/-- A KEXINIT that is accepted within an exchange is one too many. -/
theorem not_oneByOne_of_heard {payloadMax : Nat} {rx : List UInt8} {m : Mem}
    (heard : Heard (At 1) payloadMax (rx, m) h) (acceptable : Acceptable rx) : ¬ OneByOne h.trace := by
  obtain ⟨h₀, rest, at_, -, -, rfl⟩ := heard
  intro fine
  have one := (at_ fine.before).1
  rw [fine.last acceptable] at one
  cases one

theorem at_of_follows (broken : ¬ OneByOne h.trace) (follows : Follows h h') : At level h' := by
  obtain ⟨-, new, grown, -⟩ := follows
  intro fine
  rw [grown] at fine
  exact absurd fine.before broken

theorem receives_at (payloadMax : Nat) :
    Triple (At level) (recvInto noxtls env payloadMax) (Heard (At level) payloadMax) (Breaks (At level) Single) := by
  have hears : Triple (At level) (recvInto noxtls env payloadMax) (Heard (At level) payloadMax)
      (Breaks (At level) (At level)) :=
    triple_recvInto background_aside (fun _ _ => rfl) steady_unit.toPassive (fun _ _ quiet at_ => at_.quiet quiet)
      payloadMax
  refine hears.mono (fun _ => id) (fun _ _ => id) fun e h broke => ?_
  cases e with
  | some e => exact broke
  | none => exact At.single broke

theorem exchanging_at (small : level ≤ 1) : Exchanging noxtls env (At level) Single :=
  exchanging_of_carries background_aside ⟨fun _ _ => rfl, fun _ _ _ _ => rfl⟩
    (fun _ _ _ _ => ⟨fun _ => rfl, fun _ => rfl⟩) (fun _ _ _ => rfl) steady_unit (fun _ _ quiet at_ => at_.quiet quiet)
    (fun _ => At.single) fun n => (receives_at n).mono (fun _ => id) (fun _ _ => At.heard small) fun _ _ => id

/-- What the checks of `netnox_ssh_handle_server_kexinit` do not let pass. -/
theorem handleWith_refuses {perform : Prog Client Unit} {rx : List UInt8} {rest : Mem}
    (refused : ¬ Acceptable rx) : ∃ e, (handleWith noxtls env perform rx (memOf rx rest)).run h = (.err e, h) := by
  rw [handleWith]
  by_cases some_ : rx ≠ []
  · rw [ensure_bind_pos some_]
    by_cases number : rx.head? = some 20
    · rw [ensure_bind_pos number]
      by_cases fits : rx.length ≤ maxKexinitPayloadLen
      · rw [ensure_bind_pos fits, ensure_bind_neg fun valid => refused ⟨number, fits, rest, valid⟩]
        exact ⟨_, rfl⟩
      · rw [ensure_bind_neg fits]
        exact ⟨_, rfl⟩
    · rw [ensure_bind_neg number]
      exact ⟨_, rfl⟩
  · rw [ensure_bind_neg some_]
    exact ⟨_, rfl⟩

/-- Within an exchange a KEXINIT is refused, or it is one too many. -/
theorem handles_inside {perform : Prog Client Unit} (performs : ∀ h₀, Stays (Follows h₀) (Follows h₀) perform)
    (rx : List UInt8) (m : Mem) : Triple (Heard (At 1) maxPacketLen (rx, m)) (handleWith noxtls env perform rx m)
      (fun _ => At 1) (Breaks (At 1) Single) := by
  constructor
  intro h heard
  by_cases acceptable : Acceptable rx
  · have broken := not_oneByOne_of_heard heard acceptable
    have handles : Stays (Follows h) (Follows h) (handleWith noxtls env perform rx m) :=
      (exchanges_follows h).toAnswering.handles (performs h) rx m
    have follows := handles.ends h ((quiet_order _ _).refl h)
    refine follows.mono (fun _ _ => at_of_follows broken) fun e h' broke => ?_
    cases e with
    | some e => exact at_of_follows broken broke
    | none => exact (@at_of_follows 0 _ _ broken broke).single
  · have at_ := At.heard (Nat.le_refl 1) heard
    obtain ⟨h₀, rest, -, -, is, -⟩ := heard
    obtain rfl : m = memOf rx rest := is
    obtain ⟨e, ran⟩ := @handleWith_refuses noxtls env h perform rx rest acceptable
    rw [ran]
    exact at_

theorem waits_inside (depth : Nat) (a b : UInt8) (outMax : Nat) :
    Stays (At 1) Single (waitNested noxtls env depth a b outMax) := by
  have asks := (@exchanging_at noxtls env 1 (Nat.le_refl 1)).asks
  cases depth with
  | zero =>
      exact triple_waitLoop (fun _ => id) asks (exchanging_at (Nat.le_refl 1)).receives
        (fun _ _ => stays_stall fun _ => At.single) a b outMax waitTurns
  | succ depth =>
      exact triple_waitLoop_heard (fun _ => id) asks (fun _ _ => At.heard (Nat.le_refl 1))
        (receives_at maxPacketLen) (handles_inside fun h₀ =>
          (exchanges_follows h₀).performs ((exchanges_follows h₀).waitsNested depth)) a b outMax waitTurns

/-- An exchange that begins when none is under way ends so. -/
theorem performs_outside {wait : UInt8 → UInt8 → Nat → Prog Client Arrival}
    (waits : ∀ a b n, Stays (At 1) Single (wait a b n)) :
    Stays (At 0) Single (performWith noxtls env wait) := by
  have left : ∀ done h, At 1 h → At 0 { h with trace := h.trace ++ [(.kexLeft done, h.self)] } := by
    refine fun done h at_ => at_.log (Nat.zero_le 1) ?_
    rintro ⟨read, outer⟩ one
    obtain ⟨before, rfl⟩ := List.length_eq_one_iff.1 one
    cases done <;> rfl
  refine triple_self_bind fun c => stays_ensure_bind fun _ => ?_
  refine triple_bind (Q := fun _ => At 1) (triple_log fun h at_ => ?_) fun _ => ?_
  · exact at_.log (Nat.le_refl 1) fun ledger none => congrArg (· + 1) none
  · exact triple_leaving ((exchanging_at (Nat.le_refl 1)).exchangesKeys waits) (fun _ => left true)
      (fun _ => left false) fun _ => id

theorem handles_outside (depth : Nat) (rx : List UInt8) (m : Mem) :
    Stays (At 0) Single (handleWith noxtls env (performWith noxtls env (waitNested noxtls env depth)) rx m) :=
  (exchanging_at (Nat.zero_le 1)).toAnswering.handles (performs_outside (waits_inside depth)) rx m

theorem waits_outside (a b : UInt8) (outMax : Nat) : Stays (At 0) Single (waitForMessage noxtls env a b outMax) := by
  refine triple_byInbox fun depth => ?_
  have exchanging := @exchanging_at noxtls env 0 (Nat.zero_le 1)
  cases depth with
  | zero =>
      exact triple_waitLoop (fun _ => id) exchanging.asks exchanging.receives
        (fun _ _ => stays_stall fun _ => At.single) a b outMax waitTurns
  | succ depth =>
      exact triple_waitLoop (fun _ => id) exchanging.asks exchanging.receives (handles_outside depth) a b outMax waitTurns

theorem performs_at : Stays (At 0) Single (performCurve25519Kex noxtls env) :=
  performs_outside fun a b n => triple_byInbox fun depth => waits_inside depth a b n

theorem at_of_always {α : Type} {m : Prog Client α} (always : Always (Quiet Aside fun _ => ()) m) :
    Stays (At 0) Single m :=
  stays_of_always (fun _ => At.single) always fun _ _ quiet at_ => at_.quiet quiet

theorem calling_at : Calling noxtls env (At 0) (At 0) Single where
  weaker _ := At.single
  sharper _ := id
  keyed _ at_ _ := at_
  opened _ at_ _ := at_
  receives := (exchanging_at (Nat.zero_le 1)).receives
  handles rx m := (exchanging_at (Nat.zero_le 1)).toAnswering.handles performs_at rx m
  exchanges := (exchanging_at (Nat.zero_le 1)).toProposing.exchanges performs_at
  waits := waits_outside
  sends _ _ payload _ := at_of_always (always_sendPacket background_aside steady_unit.toPassive payload
    (fun _ => rfl) (fun _ => rfl))
  userauthReady _ := id
  connectionReady _ := id
  authenticated _ := id
  localChannel _ := id
  channelOpen _ _ _ _ := id
  channelClosed _ := id
  exitStatus _ _ := id
  ident _ _ := id
  username _ _ := id
  host _ _ := id
  password _ _ := id
  privateKey _ _ := id
  publicKey _ _ := id
  noKey _ := id

theorem connects_at : Stays (At 0) Single (connect noxtls env) :=
  triple_connect (fun _ => id) (fun data => at_of_always (always_sendAll background_aside.toPlumbing data))
    (at_of_always (always_recvLine (fun _ _ => rfl) 256)) (fun _ _ => id) (fun _ => id)
    calling_at.exchanges

theorem calls_at (calls : List Call) : Stays (At 0) Single (Calls.run noxtls env calls) := by
  refine stays_calls calls fun call _ => ?_
  by_cases connects : call = .connect
  · subst connects
    exact connects_at
  · exact calling_at.stays call connects fun _ _ => id

end Levels

/-! ## What one wait reads -/

/-- `n` packets outside of completed exchanges, and none of them left under way. -/
def Adds (n : Nat) (new : List (Event × Client)) : Prop := ∀ ledger, booked ledger new = (ledger.1 + n, ledger.2)

/-- An exchange is left under way. -/
def Deeper (new : List (Event × Client)) : Prop := ∀ ledger, ledger.2.length < (booked ledger new).2.length

/-- No exchange fails. -/
def Unfailing (new : List (Event × Client)) : Prop := ∀ e ∈ new, e.1 ≠ .kexLeft false

/-- At most `n` packets outside of completed exchanges, unless one fails or is left under way. -/
def Charges (n : Nat) (new : List (Event × Client)) : Prop :=
  Unfailing new → (∃ m ≤ n, Adds m new) ∨ Deeper new

def Charged (n : Nat) (h h' : Host Client) : Prop := ∃ new, h'.trace = h.trace ++ new ∧ Charges n new

section Charges

variable {noxtls : Noxtls} {env : Env} {n k : Nat} {new new' : List (Event × Client)} {h h₁ h₂ : Host Client}

theorem Unfailing.split (unfailing : Unfailing (new ++ new')) : Unfailing new ∧ Unfailing new' :=
  ⟨fun e member => unfailing e (List.mem_append_left _ member),
    fun e member => unfailing e (List.mem_append_right _ member)⟩

theorem Adds.append (first : Adds n new) (second : Adds k new') : Adds (n + k) (new ++ new') := by
  intro ledger
  rw [booked_append, first, second, Nat.add_assoc]

theorem Charges.append (first : Charges n new) (second : Charges k new') : Charges (n + k) (new ++ new') := by
  intro unfailing
  rcases first unfailing.split.1 with ⟨m, few, adds⟩ | deeper
  · rcases second unfailing.split.2 with ⟨m', few', adds'⟩ | deeper'
    · exact .inl ⟨m + m', Nat.add_le_add few few', adds.append adds'⟩
    · refine .inr fun ledger => ?_
      rw [booked_append, adds]
      exact deeper' (ledger.1 + m, ledger.2)
  · refine .inr fun ledger => ?_
    rw [booked_append]
    rcases second unfailing.split.2 with ⟨m', few', adds'⟩ | deeper'
    · rw [adds']
      exact deeper ledger
    · exact Nat.lt_trans (deeper ledger) (deeper' _)

theorem Charged.trans (first : Charged n h h₁) (second : Charged k h₁ h₂) : Charged (n + k) h h₂ := by
  obtain ⟨new, grown, charges⟩ := first
  obtain ⟨new', grown', charges'⟩ := second
  exact ⟨new ++ new', by rw [grown', grown, List.append_assoc], charges.append charges'⟩

theorem Charged.more (charged : Charged n h h₁) (more : n ≤ k) : Charged k h h₁ := by
  obtain ⟨new, grown, charges⟩ := charged
  exact ⟨new, grown, fun unfailing => (charges unfailing).imp_left fun ⟨m, few, adds⟩ => ⟨m, few.trans more, adds⟩⟩

theorem charged_of_quiet (quiet : Quiet Aside (fun _ => ()) h h₁) : Charged 0 h h₁ := by
  obtain ⟨-, new, grown, aside⟩ := quiet
  exact ⟨new, grown, fun _ => .inl ⟨0, Nat.le_refl 0, booked_aside fun e member => (aside e member).1⟩⟩

theorem charged_order : StepOrder (Charged 0) := ⟨fun h => charged_of_quiet ((quiet_order _ _).refl h), Charged.trans⟩

theorem charged_bind {α β : Type} {m : Prog Client α} {f : α → Prog Client β} (first : Always (Charged n) m)
    (rest : ∀ a, Always (Charged k) (f a)) : Always (Charged (n + k)) (m >>= f) := by
  intro h
  have charged := first h
  rw [bind_run]
  revert charged
  rcases m.run h with ⟨o, h'⟩
  cases o with
  | ok a => exact fun charged => charged.trans (rest a h')
  | err e => exact fun charged => charged.more (Nat.le_add_right n k)
  | stuck => exact fun charged => charged.more (Nat.le_add_right n k)

theorem charged_recvInto (payloadMax : Nat) : Always (Charged 1) (recvInto noxtls env payloadMax) := by
  intro h
  have hears : Triple (Charged 0 h) (recvInto noxtls env payloadMax) (Heard (Charged 0 h) payloadMax)
      (Breaks (Charged 0 h) (Charged 0 h)) :=
    triple_recvInto background_aside (fun _ _ => rfl) steady_unit.toPassive
      (fun _ _ quiet charged => charged.trans (charged_of_quiet quiet)) payloadMax
  have ends := hears.ends h (charged_order.refl h)
  revert ends
  rcases (recvInto noxtls env payloadMax).run h with ⟨o, h'⟩
  cases o with
  | ok arrival =>
      rintro ⟨h₁, rest, charged, -, -, rfl⟩
      exact charged.trans ⟨[(.received arrival.1, h₁.self)], rfl, fun _ => .inl ⟨1, Nat.le_refl 1, fun _ => rfl⟩⟩
  | err e => exact fun charged => charged.more (Nat.zero_le 1)
  | stuck => exact fun charged => charged.more (Nat.zero_le 1)

/-- An exchange begins, and has not come back. -/
theorem Charged.stuck (charged : Charged n { h with trace := h.trace ++ [(.kexEntered, h.self)] } h₁) :
    Charged 0 h h₁ := by
  obtain ⟨new, grown, charges⟩ := charged
  refine ⟨(.kexEntered, h.self) :: new, by simp [grown], fun unfailing => .inr fun ledger => ?_⟩
  show ledger.2.length < (booked (0, ledger.1 :: ledger.2) new).2.length
  rcases charges fun e member => unfailing e (List.mem_cons_of_mem _ member) with ⟨m, -, adds⟩ | deeper
  · rw [adds]
    exact Nat.lt_succ_self _
  · exact Nat.lt_of_succ_lt (deeper (0, ledger.1 :: ledger.2))

/-- It ends, and takes its packets with it, unless it failed. -/
theorem Charged.left (charged : Charged n { h with trace := h.trace ++ [(.kexEntered, h.self)] } h₁) (done : Bool) :
    Charged 0 h { h₁ with trace := h₁.trace ++ [(.kexLeft done, h₁.self)] } := by
  obtain ⟨new, grown, charges⟩ := charged
  refine ⟨(.kexEntered, h.self) :: new ++ [(.kexLeft done, h₁.self)], by simp [grown], fun unfailing => ?_⟩
  obtain rfl : done = true := by
    have left := unfailing.split.2 _ List.mem_cons_self
    simpa using left
  have books : ∀ ledger : Ledger, booked ledger ((.kexEntered, h.self) :: new ++ [(.kexLeft true, h₁.self)]) =
      book (booked (0, ledger.1 :: ledger.2) new) (.kexLeft true) := fun _ => booked_snoc _
  rcases charges fun e member => unfailing.split.1 e (List.mem_cons_of_mem _ member) with ⟨m, -, adds⟩ | deeper
  · refine .inl ⟨0, Nat.le_refl 0, fun ledger => ?_⟩
    rw [books, adds]
    rfl
  · refine .inr fun ledger => ?_
    have more := deeper (0, ledger.1 :: ledger.2)
    rw [books]
    revert more
    rcases booked (0, ledger.1 :: ledger.2) new with ⟨read, outer⟩
    cases outer with
    | nil => exact fun none => absurd none (Nat.not_lt_zero _)
    | cons before outer => exact Nat.lt_of_succ_lt_succ

/-- Some number of packets, whatever it is. -/
def Charging (h₀ h : Host Client) : Prop := ∃ n, Charged n h₀ h

theorem Charging.step {h₀ : Host Client} (charging : Charging h₀ h) (step : Charged k h h₁) : Charging h₀ h₁ := by
  obtain ⟨n, charged⟩ := charging
  exact ⟨n + k, charged.trans step⟩

theorem exchanging_charging (h₀ : Host Client) : Exchanging noxtls env (Charging h₀) (Charging h₀) :=
  exchanging_of_carries background_aside ⟨fun _ _ => rfl, fun _ _ _ _ => rfl⟩
    (fun _ _ _ _ => ⟨fun _ => rfl, fun _ => rfl⟩) (fun _ _ _ => rfl) steady_unit
    (fun _ _ quiet charging => charging.step (charged_of_quiet quiet)) (fun _ => id)
    fun payloadMax => stays_of_always (fun _ => id) (charged_recvInto payloadMax)
      fun _ _ step charging => charging.step step

/-- An exchange that completes costs nothing. -/
theorem charged_performWith {wait : UInt8 → UInt8 → Nat → Prog Client Arrival}
    (waits : ∀ a b outMax, Always (Charged k) (wait a b outMax)) : Always (Charged 0) (performWith noxtls env wait) := by
  intro h
  rw [performWith, self_bind_run]
  by_cases exchanged : h.self.kexinitExchanged = true
  · rw [ensure_bind_pos exchanged, log_bind_run, leaving, ending_run]
    have stays : Stays (Charging { h with trace := h.trace ++ [(.kexEntered, h.self)] })
        (Charging { h with trace := h.trace ++ [(.kexEntered, h.self)] }) (exchangeKeys noxtls env wait) :=
      (exchanging_charging _).exchangesKeys fun a b outMax => stays_of_always (fun _ => id) (waits a b outMax)
        fun _ _ step charging => charging.step step
    have charging := stays.keeps _ ⟨0, charged_order.refl _⟩
    revert charging
    rcases (exchangeKeys noxtls env wait).run _ with ⟨o, h'⟩
    rintro ⟨n, charged⟩
    cases o with
    | ok _ => exact charged.left true
    | err e => exact charged.left false
    | stuck => exact charged.stuck
  · rw [ensure_bind_neg exchanged]
    exact charged_order.refl h

theorem charged_handleWith {perform : Prog Client Unit} (performs : Always (Charged 0) perform) (rx : List UInt8)
    (m : Mem) : Always (Charged 0) (handleWith noxtls env perform rx m) := by
  intro h
  have answering : Answering noxtls env (Charged 0 h) (Charged 0 h) :=
    answering_of_carries background_aside (fun _ _ _ _ => ⟨fun _ => rfl, fun _ => rfl⟩) steady_unit
      (fun _ _ quiet charged => charged.trans (charged_of_quiet quiet)) fun _ => id
  have stays : Stays (Charged 0 h) (Charged 0 h) (handleWith noxtls env perform rx m) :=
    answering.handles (stays_of_always (fun _ => id) performs fun _ _ step charged => charged.trans step) rx m
  exact stays.keeps h (charged_order.refl h)

/-- Every turn of the loop reads a packet. -/
theorem charged_waitLoop {handle : List UInt8 → Mem → Prog Client Unit} (handles : ∀ rx m, Always (Charged 0) (handle rx m))
    (a b : UInt8) (outMax turns : Nat) : Always (Charged turns) (waitLoop noxtls env handle a b outMax turns) := by
  induction turns with
  | zero => exact always_fail charged_order _
  | succ turns ih =>
      suffices each : Always (Charged (1 + turns)) (waitLoop noxtls env handle a b outMax (turns + 1)) by
        rwa [Nat.add_comm] at each
      refine charged_bind (always_failAs _ (charged_recvInto _)) ?_
      rintro ⟨rx, m⟩
      dsimp only
      split
      · exact ih
      · refine always_ite ?_ (always_ite ?_ ih)
        · have rest := charged_bind (always_failAs .failed (handles rx m)) fun _ => ih
          rwa [Nat.zero_add] at rest
        · have ends : Always (Charged 0) (ensure (rx.length ≤ outMax) .failed >>= fun _ =>
              ask env.stale >>= fun rest => pure (rx, memOf rx rest) : Prog Client Arrival) :=
            always_bind charged_order (always_ensure charged_order _ _) fun _ =>
              always_bind charged_order (fun h => charged_of_quiet (always_ask env.stale h)) fun rest =>
                always_pure charged_order _
          exact always_mono ends fun _ _ charged => charged.more (Nat.zero_le turns)

theorem charged_waitNested (depth : Nat) (a b : UInt8) (outMax : Nat) :
    Always (Charged waitTurns) (waitNested noxtls env depth a b outMax) := by
  induction depth generalizing a b outMax with
  | zero => exact charged_waitLoop (fun _ _ => always_stall charged_order) a b outMax waitTurns
  | succ depth ih => exact charged_waitLoop (charged_handleWith (charged_performWith ih)) a b outMax waitTurns

end Charges

/-- **One key exchange at a time.**  In every run of the client no more than one exchange is
ever under way if no KEXINIT that it accepts comes while one is; and in every state, one
call of `netnox_ssh_wait_for_message` reads at most 32 packets outside of completed
exchanges if every exchange that begins in it is completed. -/
theorem one_exchange_at_a_time (noxtls : Noxtls) (env : Env) :
    (∀ (port : Nat) (inbox : List UInt8) (calls : List Call),
      OneByOne ((Calls.run noxtls env calls).run ⟨Client.init port, 0, inbox, []⟩).2.trace →
      AtMostOne ((Calls.run noxtls env calls).run ⟨Client.init port, 0, inbox, []⟩).2.trace) ∧
    ∀ (h : Host Client) (a b : UInt8) (outMax : Nat),
      ∃ new, ((waitForMessage noxtls env a b outMax).run h).2.trace = h.trace ++ new ∧
        (Unfailing new → underWay new = 0 → packetsOutside new ≤ 32) := by
  constructor
  · intro port inbox calls
    have starts : At 0 ⟨Client.init port, 0, inbox, []⟩ := fun _ => ⟨rfl, fun i => by simp [underWay, booked]⟩
    have ends := (@calls_at noxtls env calls).ends _ starts
    show Single _
    revert ends
    rcases (Calls.run noxtls env calls).run ⟨Client.init port, 0, inbox, []⟩ with ⟨o, h⟩
    cases o with
    | ok _ => exact At.single
    | err e => exact At.single
    | stuck => exact id
  · intro h a b outMax
    obtain ⟨new, grown, charges⟩ := @charged_waitNested noxtls env (h.inbox.length + 1) a b outMax h
    refine ⟨new, grown, fun unfailing back => ?_⟩
    rcases charges unfailing with ⟨m, few, adds⟩ | deeper
    · rw [packetsOutside, adds]
      simpa [waitTurns] using few
    · have more := deeper (0, [])
      rw [underWay] at back
      rw [back] at more
      exact absurd more (Nat.not_lt_zero _)

namespace Probe

/-- No KEXINIT at all while an exchange is under way. -/
def oneByOne (events : List (Event × Client)) : Bool :=
  (List.range events.length).all fun i => match events[i]? with
    | some (.received rx, _) => rx.head? ≠ some 20 ∨ underWay (events.take i) = 0
    | _ => true

theorem oneByOne_spec {events : List (Event × Client)} (checked : oneByOne events = true) : OneByOne events := by
  intro i rx c is acceptable
  have inside : i < events.length := (List.getElem?_eq_some_iff.1 is).1
  have each := List.all_eq_true.1 checked i (List.mem_range.2 inside)
  rw [is] at each
  exact (of_decide_eq_true each).resolve_left fun other => other acceptable.1

/-- What `connect` makes of these packets. -/
def greeted (payloads : List (List UInt8)) : Host Client :=
  ((Calls.run noxtls brisk [.connect]).run ⟨Client.init 22, 0, greeting payloads, []⟩).2

-- Compared as functions: with packets the kernel would try to run the client.
theorem greeted_fun : greeted = fun payloads =>
    ((Calls.run noxtls brisk [.connect]).run ⟨Client.init 22, 0, greeting payloads, []⟩).2 :=
  rfl

theorem greeted_eq (payloads : List (List UInt8)) : greeted payloads =
    ((Calls.run noxtls brisk [.connect]).run ⟨Client.init 22, 0, greeting payloads, []⟩).2 :=
  congrFun greeted_fun payloads

/-- What waiting for a SERVICE_ACCEPT makes of these packets in the clear. -/
def waited (payloads : List (List UInt8)) : Host Client :=
  ((waitForMessage noxtls brisk 6 255 64).run
    ⟨Client.init 22, 0, sealAll noxtls ⟨false, [], [], [], 0⟩ payloads, []⟩).2

end Probe

/-- An exchange that waits for its reply, and a wait with a packet in between. -/
theorem one_exchange_at_a_time_sample :
    AtMostOne (Probe.greeted [Probe.kexinit]).trace ∧
      packetsOutside (Probe.waited [[2], [6]]).trace ≤ 32 := by
  obtain ⟨runs, waits⟩ := one_exchange_at_a_time Probe.noxtls Probe.brisk
  have checked : Probe.oneByOne (Probe.greeted [Probe.kexinit]).trace = true := by
    decide +kernel
  have back : (Probe.waited [[2], [6]]).trace.all (fun e => e.1 ≠ .kexLeft false) = true ∧
      underWay (Probe.waited [[2], [6]]).trace = 0 := by
    decide +kernel
  obtain ⟨new, grown, few⟩ := waits ⟨Client.init 22, 0, sealAll Probe.noxtls ⟨false, [], [], [], 0⟩ [[2], [6]], []⟩ 6 255 64
  obtain rfl : (Probe.waited [[2], [6]]).trace = new := grown
  refine ⟨?_, few (fun e member => ?_) back.2⟩
  · have fine := Probe.oneByOne_spec checked
    rw [Probe.greeted_eq] at fine ⊢
    exact runs 22 _ [.connect] fine
  · exact of_decide_eq_true (List.all_eq_true.1 back.1 e member)

/-- A second KEXINIT in place of the reply begins an exchange within the first. -/
theorem exchange_within_exchange :
    ¬ ∀ (noxtls : Noxtls) (env : Env) (port : Nat) (inbox : List UInt8) (calls : List Call),
      AtMostOne ((Calls.run noxtls env calls).run ⟨Client.init port, 0, inbox, []⟩).2.trace := by
  intro single
  have once : AtMostOne (Probe.greeted [Probe.kexinit, Probe.kexinit]).trace := by
    rw [Probe.greeted_eq]
    exact single Probe.noxtls Probe.brisk 22 (Probe.greeting [Probe.kexinit, Probe.kexinit]) [.connect]
  have few := once (Probe.greeted [Probe.kexinit, Probe.kexinit]).trace.length
  have two : underWay (Probe.greeted [Probe.kexinit, Probe.kexinit]).trace = 2 := by decide +kernel
  have whole := List.take_length (l := (Probe.greeted [Probe.kexinit, Probe.kexinit]).trace)
  rw [whole, two] at few
  exact absurd few (by decide)

end NoxSsh.Client
