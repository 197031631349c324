/-
# Transport.Stream — moving whole byte strings over `send_cb` and `recv_cb`

`send_all`, `recv_exact` and `recv_line` are loops around callbacks that move
some of the bytes.  The client's loops and the server's differ in one thing: the
server looks at its deadlines before every call.  The loops here take that look
as a parameter, `check`.

A `Gate` is a look that either lets the loop go on or records `expired` and
fails.  Behind a gate, on live sockets, the loops do what their names say
(`sendAllWith_live`, `recvExactWith_live`, `recvLineWith_line`), whatever the
fragmentation; and whatever the sockets do, `recv_exact` returns only bytes that
were next in the inbox (`recvExactWith_ok`).
-/
import NoxSsh.Transport.Host
import Mathlib.Data.List.TakeWhile

namespace NoxSsh.Transport

open Theory Proc Wire

set_option autoImplicit false

section Loops

variable {π : Type} (env : Env) (check : Prog π (Option Nat))

/-- The loop of `send_all`; every turn takes at least a byte, so the length of
the data bounds the turns. -/
def sendLoop : Nat → List UInt8 → Prog π Unit
  | _, [] => pure ()
  | 0, _ :: _ => stall
  | turns + 1, c :: data => do
      let _ ← check
      let sent ← sendCb env (c :: data)
      if sent = 0 then fail .failed
      else sendLoop turns ((c :: data).drop sent)

def sendAllWith (data : List UInt8) : Prog π Unit := sendLoop env check data.length data

/-- The loop of `recv_exact` into a buffer of `room` bytes.  Bytes beyond `room`
overwrite whatever stands behind the buffer; from there on the run has no meaning. -/
def recvLoop (len room : Nat) : Nat → List UInt8 → Prog π (List UInt8)
  | 0, data => if data.length < len then stall else pure data
  | turns + 1, data =>
      if data.length < len then do
        let looked ← check
        let got ← recvCb env looked (len - data.length)
        if got = [] then fail .failed
        else if data.length + got.length > room then do
          log .overflow
          stall
        else recvLoop len room turns (data ++ got)
      else pure data

def recvExactWith (len room : Nat) : Prog π (List UInt8) := recvLoop env check len room len []

/-- The first loop of `recv_line`: up to `max` characters, CR dropped, LF ends it. -/
def lineLoop (max : Nat) : Nat → List UInt8 → Prog π (List UInt8)
  | 0, _ => stall
  | turns + 1, out =>
      if out.length < max then do
        let looked ← check
        let got ← recvCb env looked 1
        match got with
        | [] => fail .failed
        | ch :: _ =>
            if ch = 10 then pure out
            else if ch ≠ 13 then lineLoop max turns (out ++ [ch])
            else lineLoop max turns out
      else pure out

/-- The second loop of `recv_line`: drop the rest of a line that is too long.  It
does not look at the clock. -/
def discardLoop : Nat → Prog π Unit
  | 0 => stall
  | turns + 1 => do
      let got ← recvCb env none 1
      match got with
      | [] => fail .failed
      | ch :: _ => if ch = 10 then pure () else discardLoop turns

/-- The C string in a buffer. -/
def cString (buffer : List UInt8) : List UInt8 := buffer.takeWhile (· ≠ 0)

/-- What is kept of a line: no carriage return. -/
def withoutCr (line : List UInt8) : List UInt8 := line.filter (· ≠ 13)

/-- What `recv_line` makes of a line: nothing if it fills the buffer. -/
def lineRead (max : Nat) (line : List UInt8) : List UInt8 :=
  if max ≤ (withoutCr line).length then [] else cString (withoutCr line)

/-- One line; every turn takes a byte of the inbox, so its length bounds the turns. -/
def recvLineWith (outLen : Nat) : Prog π (List UInt8) := do
  let out ← ⟨fun h => (lineLoop env check (outLen - 1) (h.inbox.length + 1) []).run h⟩
  if out.length = outLen - 1 then do
    ⟨fun h => (discardLoop env (h.inbox.length + 1)).run h⟩
    pure []
  else pure (cString out)

end Loops

/-- The common shape of the deadline checks: pass without a trace, or fail with
the excuse `late`. -/
def Gate {π : Type} (late : Host π → Prop) (check : Prog π (Option Nat)) : Prop :=
  ∀ h, Returns late check (fun _ h' => ∃ t, h' = { h with tick := t }) h

theorem gate_pure {π : Type} (late : Host π → Prop) : Gate late (pure none : Prog π (Option Nat)) :=
  fun h => returns_of_run (pure_run none h) ⟨h.tick, rfl⟩

/-! ## Live sockets -/

section Live

variable {π : Type} {env : Env} {check : Prog π (Option Nat)} {late : Host π → Prop}

theorem sendCb_live (alive : ∀ t, 0 < env.send t) {data : List UInt8} (some : data ≠ []) (h : Host π) :
    ∃ n, 0 < n ∧ n ≤ data.length ∧ (sendCb env data).run h =
      (.ok n, { h with tick := h.tick + 1, trace := h.trace ++ [(.wire (data.take n), h.self)] }) := by
  have long : 0 < data.length := List.length_pos_iff.2 some
  have moved : 0 < min (env.send h.tick) data.length := lt_min (alive _) long
  refine ⟨_, moved, Nat.min_le_right _ _, ?_⟩
  rw [sendCb, bind_ok (ask_run h env.send)]
  dsimp only
  rw [if_neg (by omega)]
  rfl

/-- `h'` is `h` after the bytes `data` went out and nothing else happened. -/
def Wrote {π : Type} (data : List UInt8) (h h' : Host π) : Prop :=
  ∃ t new, h' = { h with tick := t, trace := h.trace ++ new } ∧ wireOf new = data ∧
    ∀ e ∈ new, e.2 = h.self ∧ ∃ bytes, e.1 = .wire bytes

theorem Wrote.nil (h : Host π) (t : Nat) : Wrote [] h { h with tick := t } :=
  ⟨t, [], by simp, rfl, by simp⟩

theorem Wrote.append {a b : List UInt8} {h h' h'' : Host π} (first : Wrote a h h')
    (second : Wrote b h' h'') : Wrote (a ++ b) h h'' := by
  obtain ⟨t, new, rfl, wire, only⟩ := first
  obtain ⟨t', new', rfl, wire', only'⟩ := second
  refine ⟨t', new ++ new', by simp, by rw [wireOf_append, wire, wire'], ?_⟩
  intro e he
  rcases List.mem_append.1 he with he | he
  · exact only e he
  · exact only' e he

/-- All of the data goes out, in order, and nothing else happens. -/
theorem sendLoop_live (alive : ∀ t, 0 < env.send t) (gate : Gate late check) :
    ∀ (turns : Nat) (data : List UInt8) (h : Host π), data.length ≤ turns →
      Returns late (sendLoop env check turns data) (fun _ h' => Wrote data h h') h := by
  intro turns
  induction turns with
  | zero =>
      intro data h short
      obtain rfl : data = [] := List.length_eq_zero_iff.1 (by omega)
      exact returns_of_run (pure_run () h) (Wrote.nil h h.tick)
  | succ turns ih =>
      intro data h short
      cases data with
      | nil => exact returns_of_run (pure_run () h) (Wrote.nil h h.tick)
      | cons c data =>
          rw [sendLoop]
          refine (gate h).bind ?_
          rintro _ _ ⟨t, rfl⟩
          obtain ⟨n, pos, le, ran⟩ := sendCb_live alive (List.cons_ne_nil c data) { h with tick := t }
          refine (returns_of_run (Q := fun sent h' => sent = n ∧ Wrote ((c :: data).take n) h h')
            ran ⟨rfl, t + 1, _, rfl, by simp [Event.wireBytes], by simp⟩).bind ?_
          rintro _ h' ⟨rfl, wrote⟩
          rw [if_neg (by omega)]
          refine (ih ((c :: data).drop _) h' (by rw [List.length_drop]; omega)).mono ?_
          intro _ h'' rest
          rw [← List.take_append_drop _ (c :: data)]
          exact wrote.append rest

theorem sendAllWith_live (alive : ∀ t, 0 < env.send t) (gate : Gate late check) (data : List UInt8)
    (h : Host π) : Returns late (sendAllWith env check data) (fun _ h' => Wrote data h h') h :=
  sendLoop_live alive gate data.length data h le_rfl

/-- `h'` is `h` after the inbox was read down to `rest` and nothing else happened. -/
def Took {π : Type} (rest : List UInt8) (h h' : Host π) : Prop :=
  ∃ t new, h' = { h with tick := t, inbox := rest, trace := h.trace ++ new } ∧
    ∀ e ∈ new, e.2 = h.self ∧ ∃ looked, e.1 = .receiving looked

theorem Took.none (h : Host π) (t : Nat) : Took h.inbox h { h with tick := t } :=
  ⟨t, [], by simp, by simp⟩

theorem Took.trans {rest rest' : List UInt8} {h h' h'' : Host π} (first : Took rest h h')
    (second : Took rest' h' h'') : Took rest' h h'' := by
  obtain ⟨t, new, rfl, only⟩ := first
  obtain ⟨t', new', rfl, only'⟩ := second
  refine ⟨t', new ++ new', by simp, ?_⟩
  intro e he
  rcases List.mem_append.1 he with he | he
  · exact only e he
  · exact only' e he

/-- Only the counter advanced before. -/
theorem Took.later {rest : List UInt8} {h h' : Host π} {t : Nat} (took : Took rest { h with tick := t } h') :
    Took rest h h' := took

theorem recvCb_live (alive : ∀ t, 0 < env.recv t) {len : Nat} (wanted : 0 < len) (looked : Option Nat)
    (h : Host π) (some : h.inbox ≠ []) :
    ∃ n h', 0 < n ∧ n ≤ len ∧ (recvCb env looked len).run h = (.ok (h.inbox.take n), h') ∧
      Took (h.inbox.drop n) h h' := by
  have moved : 0 < min (env.recv h.tick) len := lt_min (alive _) wanted
  refine ⟨_, _, moved, Nat.min_le_right _ _, ?_, h.tick + 1, [(.receiving looked, h.self)], rfl, by simp⟩
  rw [recvCb, log_bind_run, takeInbox]
  dsimp only
  rw [if_neg (by omega), if_neg some]

theorem recvLoop_live (alive : ∀ t, 0 < env.recv t) (gate : Gate late check) {len room : Nat}
    (fits : len ≤ room) :
    ∀ (turns : Nat) (data : List UInt8) (h : Host π) (next rest : List UInt8),
      h.inbox = next ++ rest → data.length + next.length = len → next.length ≤ turns →
      Returns late (recvLoop env check len room turns data)
        (fun got h' => got = data ++ next ∧ Took rest h h') h := by
  have finished : ∀ (data : List UInt8) (h : Host π) (rest : List UInt8), h.inbox = rest →
      Returns late (pure data : Prog π (List UInt8)) (fun got h' => got = data ++ [] ∧ Took rest h h') h := by
    rintro data h _ rfl
    exact returns_of_run (pure_run data h) ⟨by simp, Took.none h h.tick⟩
  intro turns
  induction turns with
  | zero =>
      intro data h next rest inbox whole short
      obtain rfl : next = [] := List.length_eq_zero_iff.1 (by omega)
      simp only [List.length_nil] at whole
      rw [recvLoop, if_neg (by omega)]
      exact finished data h rest inbox
  | succ turns ih =>
      intro data h next rest inbox whole short
      rw [recvLoop]
      split
      · rename_i wanting
        refine (gate h).bind ?_
        rintro looked _ ⟨t, rfl⟩
        have waiting : next ≠ [] := by
          rintro rfl
          simp only [List.length_nil] at whole
          omega
        obtain ⟨n, h₁, pos, le, ran, took⟩ := recvCb_live alive (show 0 < len - data.length by omega)
          looked { h with tick := t } (by simp [inbox, waiting])
        have inside : n ≤ next.length := by omega
        have size : (next.take n).length = n := by rw [List.length_take]; omega
        have taken : h.inbox.take n = next.take n := by
          rw [inbox, List.take_append_of_le_length inside]
        have left : h.inbox.drop n = next.drop n ++ rest := by
          rw [inbox, List.drop_append_of_le_length inside]
        refine (returns_of_run (Q := fun got h' => got = next.take n ∧ Took (next.drop n ++ rest) h h')
          ran ⟨taken, left ▸ took.later⟩).bind ?_
        rintro _ h₂ ⟨rfl, took⟩
        rw [if_neg (by intro none; rw [none] at size; simp at size; omega), if_neg (by omega)]
        have later := ih (data ++ next.take n) h₂ (next.drop n) rest (by obtain ⟨_, _, rfl, _⟩ := took; rfl)
          (by simp only [List.length_append, List.length_drop]; omega) (by rw [List.length_drop]; omega)
        rw [List.append_assoc, List.take_append_drop] at later
        exact later.mono fun got h' ⟨same, more⟩ => ⟨same, took.trans more⟩
      · obtain rfl : next = [] := List.length_eq_zero_iff.1 (by omega)
        exact finished data h rest inbox

/-- The next `len` bytes of the inbox arrive, however they are cut. -/
theorem recvExactWith_live (alive : ∀ t, 0 < env.recv t) (gate : Gate late check) {len room : Nat}
    (fits : len ≤ room) {h : Host π} {next rest : List UInt8} (inbox : h.inbox = next ++ rest)
    (whole : next.length = len) :
    Returns late (recvExactWith env check len room) (fun got h' => got = next ∧ Took rest h h') h :=
  recvLoop_live alive gate fits len [] h next rest inbox (by simpa using whole) (by omega)

theorem recvChar_live (alive : ∀ t, 0 < env.recv t) (looked : Option Nat) {h : Host π} {c : UInt8}
    {rest : List UInt8} (inbox : h.inbox = c :: rest) :
    Returns late (recvCb env looked 1) (fun got h' => got = [c] ∧ Took rest h h') h := by
  obtain ⟨n, h', pos, le, ran, took⟩ := recvCb_live alive (show 0 < 1 by decide) looked h (by simp [inbox])
  obtain rfl : n = 1 := by omega
  rw [inbox] at ran took
  exact returns_of_run ran ⟨rfl, took⟩

/-- One turn of the loop reads the next character. -/
theorem readsChar (alive : ∀ t, 0 < env.recv t) (gate : Gate late check) {c : UInt8} {rest : List UInt8} {h : Host π}
    (inbox : h.inbox = c :: rest) :
    Returns late (check >>= fun looked => recvCb env looked 1) (fun got h' => got = [c] ∧ Took rest h h') h := by
  refine (gate h).bind ?_
  rintro looked _ ⟨t, rfl⟩
  exact (@recvChar_live π env late alive looked { h with tick := t } c rest inbox).mono
    fun _ _ ⟨got, took⟩ => ⟨got, took.later⟩

theorem Took.inbox {rest : List UInt8} {h h' : Host π} (took : Took rest h h') : h'.inbox = rest := by
  obtain ⟨_, _, rfl, _⟩ := took
  rfl

/-- The characters of a line are collected one by one, up to its end or to the end of the
buffer. -/
theorem lineLoop_line (alive : ∀ t, 0 < env.recv t) (gate : Gate late check) (max : Nat) :
    ∀ (turns : Nat) (out line rest : List UInt8) (h : Host π),
      h.inbox = line ++ 10 :: rest → line.length < turns → out.length ≤ max → 10 ∉ line →
      Returns late (lineLoop env check max turns out) (fun got h' =>
        (got.length < max ∧ got = out ++ withoutCr line ∧ Took rest h h') ∨
        (got.length = max ∧ max ≤ out.length + (withoutCr line).length ∧
          ∃ left, 10 ∉ left ∧ Took (left ++ 10 :: rest) h h')) h := by
  intro turns
  induction turns with
  | zero => intro _ line _ _ _ short; omega
  | succ turns ih =>
      intro out line rest h inbox enough room clean
      rw [lineLoop]
      by_cases full : out.length < max
      · rw [if_pos full, ← bind_assoc_run]
        cases line with
        | nil =>
            refine (readsChar alive gate inbox).bind ?_
            rintro _ h₁ ⟨rfl, took⟩
            dsimp only
            rw [if_pos rfl]
            exact returns_of_run (pure_run out _) (.inl ⟨full, by simp [withoutCr], took⟩)
        | cons c line =>
            have fresh : c ≠ 10 ∧ 10 ∉ line := by
              rw [List.mem_cons, not_or] at clean
              exact ⟨fun is => clean.1 is.symm, clean.2⟩
            rw [List.length_cons] at enough
            refine (readsChar alive gate inbox).bind ?_
            rintro _ h₁ ⟨rfl, took⟩
            dsimp only
            rw [if_neg fresh.1]
            by_cases cr : c = 13
            · have dropped : withoutCr (c :: line) = withoutCr line := by simp [withoutCr, cr]
              rw [if_neg (not_not.2 cr), dropped]
              refine (ih out line rest h₁ took.inbox (by omega) room fresh.2).mono fun got h' case => ?_
              rcases case with ⟨short, is, later⟩ | ⟨is, long, left, clean, later⟩
              · exact .inl ⟨short, is, took.trans later⟩
              · exact .inr ⟨is, long, left, clean, took.trans later⟩
            · have kept : withoutCr (c :: line) = c :: withoutCr line := by simp [withoutCr, cr]
              rw [if_pos cr, kept]
              have longer : (out ++ [c]).length = out.length + 1 := by simp
              refine (ih (out ++ [c]) line rest h₁ took.inbox (by omega) (by omega) fresh.2).mono fun got h' case => ?_
              rw [longer] at case
              rcases case with ⟨short, is, later⟩ | ⟨is, long, left, clean, later⟩
              · exact .inl ⟨short, by simpa using is, took.trans later⟩
              · exact .inr ⟨is, by rw [List.length_cons]; omega, left, clean, took.trans later⟩
      · rw [if_neg full]
        refine returns_of_run (pure_run out h) (.inr ⟨by omega, by omega, line, clean, ?_⟩)
        rw [← inbox]
        exact Took.none h h.tick

/-- The rest of a long line is dropped. -/
theorem discardLoop_line (alive : ∀ t, 0 < env.recv t) :
    ∀ (turns : Nat) (line rest : List UInt8) (h : Host π), h.inbox = line ++ 10 :: rest → line.length < turns →
      10 ∉ line → Returns late (discardLoop env turns) (fun _ h' => Took rest h h') h := by
  intro turns
  induction turns with
  | zero => intro line _ _ _ short; omega
  | succ turns ih =>
      intro line rest h inbox enough clean
      rw [discardLoop]
      cases line with
      | nil =>
          refine (recvChar_live alive none inbox).bind ?_
          rintro _ h₁ ⟨rfl, took⟩
          dsimp only
          rw [if_pos rfl]
          exact returns_of_run (pure_run () _) took
      | cons c line =>
          rw [List.mem_cons, not_or] at clean
          rw [List.length_cons] at enough
          refine (recvChar_live alive none inbox).bind ?_
          rintro _ h₁ ⟨rfl, took⟩
          dsimp only
          rw [if_neg fun is => clean.1 is.symm]
          exact (ih line rest h₁ took.inbox (by omega) clean.2).mono fun _ _ later => took.trans later

/-- A line is read and its end taken, however long it is. -/
theorem recvLineWith_line (alive : ∀ t, 0 < env.recv t) (gate : Gate late check) {outLen : Nat} {h : Host π}
    {line rest : List UInt8} (inbox : h.inbox = line ++ 10 :: rest) (clean : 10 ∉ line) :
    Returns late (recvLineWith env check outLen) (fun got h' => got = lineRead (outLen - 1) line ∧ Took rest h h') h := by
  have reads := lineLoop_line alive gate (outLen - 1) (h.inbox.length + 1) [] line rest h inbox
    (by rw [inbox, List.length_append, List.length_cons]; omega) (Nat.zero_le _) clean
  rw [recvLineWith]
  refine Returns.bind (show Returns late ⟨_⟩ _ h from reads) ?_
  rintro got h₁ (⟨short, is, took⟩ | ⟨full, long, left, leftClean, took⟩)
  · rw [List.nil_append] at is
    subst is
    rw [if_neg (by omega), lineRead, if_neg (by omega)]
    exact returns_of_run (pure_run _ h₁) ⟨rfl, took⟩
  · rw [List.length_nil, Nat.zero_add] at long
    rw [if_pos full, lineRead, if_pos long]
    have drops := @discardLoop_line π env late alive (h₁.inbox.length + 1) left rest h₁ took.inbox
      (by rw [took.inbox, List.length_append, List.length_cons]; omega) leftClean
    refine Returns.bind (show Returns late ⟨_⟩ _ h₁ from drops) ?_
    intro _ h₂ later
    exact returns_of_run (pure_run _ h₂) ⟨rfl, took.trans later⟩

end Live

/-! ## Any sockets -/

section Any

variable {π γ : Type} {env : Env} {check : Prog π (Option Nat)} {late : Host π → Prop}
  {ok : Event → Prop} {view : π → γ}

theorem Gate.passed (gate : Gate late check) {h h' : Host π} {looked : Option Nat}
    (ran : check.run h = (.ok looked, h')) : ∃ t, h' = { h with tick := t } := by
  have returns := gate h
  rw [Returns, ran] at returns
  exact returns

theorem recvCb_ok {looked : Option Nat} {len : Nat} {h h' : Host π} {got : List UInt8}
    (ran : (recvCb env looked len).run h = (.ok got, h')) :
    got.length ≤ len ∧ h.inbox = got ++ h'.inbox ∧ Took h'.inbox h h' := by
  rw [recvCb, log_bind_run, takeInbox] at ran
  dsimp only at ran
  have calls : ∀ e ∈ [((.receiving looked : Event), h.self)], e.2 = h.self ∧ ∃ looked, e.1 = .receiving looked := by
    simp
  split at ran
  · simp only [Prod.mk.injEq, Outcome.ok.injEq] at ran
    obtain ⟨rfl, rfl⟩ := ran
    exact ⟨Nat.zero_le _, rfl, h.tick + 1, _, rfl, calls⟩
  · split at ran
    · simp at ran
    · simp only [Prod.mk.injEq, Outcome.ok.injEq] at ran
      obtain ⟨rfl, rfl⟩ := ran
      refine ⟨?_, (List.take_append_drop _ _).symm, h.tick + 1, _, rfl, calls⟩
      rw [List.length_take]
      exact (Nat.min_le_left _ _).trans (Nat.min_le_right _ _)

theorem recvLoop_ok (gate : Gate late check) {len room : Nat} :
    ∀ (turns : Nat) (data : List UInt8) (h h' : Host π) (got : List UInt8), data.length ≤ len →
      data.length ≤ room → (recvLoop env check len room turns data).run h = (.ok got, h') →
      ∃ next, got = data ++ next ∧ got.length = len ∧ len ≤ room ∧ h.inbox = next ++ h'.inbox ∧
        Took h'.inbox h h' := by
  have finished : ∀ (data : List UInt8) (h h' : Host π) (got : List UInt8), data.length ≤ len →
      data.length ≤ room → ¬ data.length < len → (pure data : Prog π (List UInt8)).run h = (.ok got, h') →
      ∃ next, got = data ++ next ∧ got.length = len ∧ len ≤ room ∧ h.inbox = next ++ h'.inbox ∧
        Took h'.inbox h h' := by
    intro data h h' got short inRoom full ran
    simp only [pure_run, Prod.mk.injEq, Outcome.ok.injEq] at ran
    obtain ⟨rfl, rfl⟩ := ran
    exact ⟨[], by simp, by omega, by omega, rfl, Took.none h h.tick⟩
  intro turns
  induction turns with
  | zero =>
      intro data h h' got short inRoom ran
      rw [recvLoop] at ran
      split at ran
      · simp at ran
      · exact finished data h h' got short inRoom ‹_› ran
  | succ turns ih =>
      intro data h h' got short inRoom ran
      rw [recvLoop] at ran
      split at ran
      · obtain ⟨_, h₁, passed, ran⟩ := bind_inv ran
        obtain ⟨t, rfl⟩ := gate.passed passed
        obtain ⟨chunk, h₂, moved, ran⟩ := bind_inv ran
        obtain ⟨size, inbox, took⟩ := recvCb_ok moved
        dsimp only at inbox
        split at ran
        · simp at ran
        · split at ran
          · simp [bind_run] at ran
          · obtain ⟨next, rfl, whole, room', inbox', took'⟩ := ih (data ++ chunk) h₂ h' got
              (by simp only [List.length_append]; omega) (by simp only [List.length_append]; omega) ran
            refine ⟨chunk ++ next, by simp, whole, room', ?_, took.later.trans took'⟩
            rw [inbox, inbox', List.append_assoc]
      · exact finished data h h' got short inRoom ‹_› ran

/-- What `recv_exact` returns was next in the inbox and fits the buffer. -/
theorem recvExactWith_ok (gate : Gate late check) {len room : Nat} {h h' : Host π}
    {got : List UInt8} (ran : (recvExactWith env check len room).run h = (.ok got, h')) :
    got.length = len ∧ len ≤ room ∧ h.inbox = got ++ h'.inbox ∧ Took h'.inbox h h' := by
  obtain ⟨next, rfl, rest⟩ := recvLoop_ok gate len [] h h' got (Nat.zero_le _) (Nat.zero_le _) ran
  exact rest

/-- Sending comes back whatever the sockets do: every call takes a byte or fails. -/
theorem settles_sendLoop (checks : Settles check) :
    ∀ (turns : Nat) (data : List UInt8), data.length ≤ turns → Settles (sendLoop env check turns data) := by
  intro turns
  induction turns with
  | zero =>
      intro data short
      obtain rfl : data = [] := List.length_eq_zero_iff.1 (by omega)
      exact settles_pure ()
  | succ turns ih =>
      intro data short
      cases data with
      | nil => exact settles_pure ()
      | cons c data =>
          refine settles_bind checks fun _ => settles_bind (settles_sendCb env _) fun sent => ?_
          by_cases none : sent = 0
          · rw [if_pos none]
            exact settles_fail _
          · rw [if_neg none]
            exact ih _ (by rw [List.length_drop]; omega)

theorem settles_sendAllWith (checks : Settles check) (data : List UInt8) :
    Settles (sendAllWith env check data) := settles_sendLoop checks data.length data le_rfl

section Plain

variable {R : Host π → Host π → Prop} (plain : Plain R)

include plain

theorem always_sendLoop (wire : ∀ bytes, Always R (log (.wire bytes) : Prog π Unit)) (checks : Always R check) :
    ∀ (turns : Nat) (data : List UInt8), Always R (sendLoop env check turns data) := by
  have order := plain.toStepOrder
  intro turns
  induction turns with
  | zero =>
      intro data
      cases data with
      | nil => exact always_pure order ()
      | cons c data => exact always_stall order
  | succ turns ih =>
      intro data
      cases data with
      | nil => exact always_pure order ()
      | cons c data =>
          refine always_bind order checks fun _ => ?_
          refine always_bind order (plain.sendCb wire env _) fun sent => ?_
          exact always_ite (always_fail order _) (ih _)

theorem always_sendAllWith (wire : ∀ bytes, Always R (log (.wire bytes) : Prog π Unit)) (checks : Always R check)
    (data : List UInt8) : Always R (sendAllWith env check data) :=
  always_sendLoop plain wire checks data.length data

/-- A look at the clock and the call it was for. -/
theorem always_checked (receiving : ∀ looked, Always R (log (.receiving looked) : Prog π Unit))
    (checks : Always R check) (len : Nat) : Always R (check >>= fun looked => recvCb env looked len) :=
  always_bind plain.toStepOrder checks fun looked => plain.recvCb (receiving looked) env len

theorem always_recvLoop (overflow : Always R (log .overflow : Prog π Unit))
    (reads : ∀ len, Always R (check >>= fun looked => recvCb env looked len))
    (len room : Nat) : ∀ (turns : Nat) (data : List UInt8),
      Always R (recvLoop env check len room turns data) := by
  have order := plain.toStepOrder
  intro turns
  induction turns with
  | zero => exact fun data => always_ite (always_stall order) (always_pure order data)
  | succ turns ih =>
      intro data
      refine always_ite ?_ (always_pure order data)
      rw [← bind_assoc_run]
      refine always_bind order (reads _) fun got => ?_
      refine always_ite (always_fail order _) (always_ite ?_ (ih _))
      exact always_bind order overflow fun _ => always_stall order

theorem always_recvExactWith (overflow : Always R (log .overflow : Prog π Unit))
    (reads : ∀ len, Always R (check >>= fun looked => recvCb env looked len))
    (len room : Nat) : Always R (recvExactWith env check len room) :=
  always_recvLoop plain overflow reads len room len []

theorem always_lineLoop (reads : ∀ len, Always R (check >>= fun looked => recvCb env looked len))
    (max : Nat) :
    ∀ (turns : Nat) (out : List UInt8), Always R (lineLoop env check max turns out) := by
  have order := plain.toStepOrder
  intro turns
  induction turns with
  | zero => exact fun _ => always_stall order
  | succ turns ih =>
      intro out
      refine always_ite ?_ (always_pure order out)
      rw [← bind_assoc_run]
      refine always_bind order (reads 1) fun got => ?_
      cases got with
      | nil => exact always_fail order _
      | cons ch _ => exact always_ite (always_pure order out) (always_ite (ih _) (ih _))

theorem always_discardLoop (receiving : Always R (log (.receiving none) : Prog π Unit)) : ∀ turns : Nat,
    Always R (discardLoop env turns : Prog π Unit) := by
  have order := plain.toStepOrder
  intro turns
  induction turns with
  | zero => exact always_stall order
  | succ turns ih =>
      refine always_bind order (plain.recvCb receiving env 1) fun got => ?_
      cases got with
      | nil => exact always_fail order _
      | cons ch _ => exact always_ite (always_pure order ()) ih

theorem always_recvLineWith (receiving : ∀ looked, Always R (log (.receiving looked) : Prog π Unit))
    (checks : Always R check) (outLen : Nat) : Always R (recvLineWith env check outLen) := by
  have order := plain.toStepOrder
  refine always_bind order (fun h => always_lineLoop plain (always_checked plain receiving checks) _ _ _ h) fun out => ?_
  refine always_ite ?_ (always_pure order _)
  exact always_bind order (fun h => always_discardLoop plain (receiving none) (h.inbox.length + 1) h) fun _ =>
    always_pure order []

end Plain

end Any

end NoxSsh.Transport
