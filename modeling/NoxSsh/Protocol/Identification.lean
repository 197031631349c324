/-
# Protocol.Identification — the identification string on its way

Each side sends its identification with CR LF behind it, and the other reads up to eight
lines until one begins with `SSH-`.  A line is read into a buffer of 256 bytes without its
carriage returns, and one that fills the buffer is thrown away.

The setters take 255 bytes, but a line of 255 bytes fills the buffer; and a line in front
that begins with `SSH-` once its carriage returns are gone is taken for the string.  Except
for these every string arrives (`identification_survives_iff`).
-/
import NoxSsh.Client.Calls
import NoxSsh.Server.Conduct

namespace NoxSsh.Client

open Theory Proc Wire Transport

set_option autoImplicit false

/-- The loop of `netnox_ssh_client_connect` up to the key exchange. -/
def identLoop (env : Env) : Nat → Prog Client Unit
  | 0 => fail .failed
  | lines + 1 => do
      let line ← attempt (recvLine env 256)
      match line with
      | none => do
          let left ← ask env.stale
          modify (setServerIdent (cString (slice left 0 256)))
          fail .failed
      | some line => do
          modify (setServerIdent line)
          if isIdentLine line then modify setConnected else identLoop env lines

/-- The loop, and then the exchange. -/
theorem readIdent_eq (noxtls : Noxtls) (env : Env) (lines : Nat) (h : Host Client) :
    (readIdent noxtls env lines).run h =
        (identLoop env lines >>= fun _ => exchangeKexinit noxtls env).run h := by
  induction lines generalizing h with
  | zero => rw [readIdent, identLoop, fail_bind_run, fail_run]
  | succ lines ih =>
      obtain ⟨exchange, is⟩ : ∃ exchange, exchange = exchangeKexinit noxtls env := ⟨_, rfl⟩
      rw [readIdent, identLoop, ← is, bind_assoc_run]
      rw [bind_run, bind_run]
      rcases (attempt (recvLine env 256)).run h with ⟨o, h₁⟩
      cases o with
      | err e => rfl
      | stuck => rfl
      | ok line =>
          cases line with
          | none => rfl
          | some line =>
              dsimp only
              rw [bind_assoc_run, modify_bind_run, modify_bind_run]
              by_cases ident : isIdentLine line = true
              · rw [if_pos ident, if_pos ident]
              · rw [if_neg ident, if_neg ident, ih, is]

end NoxSsh.Client

namespace NoxSsh.Protocol

open Theory Proc Wire Transport

set_option autoImplicit false

/-! ## Reading a line -/

section Lines

variable {π : Type} {env : Env} {check : Prog π (Option Nat)} {late : Host π → Prop}

/-- Every turn takes a byte. -/
theorem lineLoop_takes (gate : Gate late check) {max : Nat} :
    ∀ (turns : Nat) (out got : List UInt8) (h h' : Host π),
      (lineLoop env check max turns out).run h = (.ok got, h') →
      h'.inbox.length ≤ h.inbox.length ∧ (out.length < max → h'.inbox.length < h.inbox.length) := by
  intro turns
  induction turns with
  | zero =>
      intro out got h h' ran
      simp [lineLoop] at ran
  | succ turns ih =>
      intro out got h h' ran
      rw [lineLoop] at ran
      by_cases room : out.length < max
      · rw [if_pos room] at ran
        obtain ⟨looked, h₁, passed, ran⟩ := bind_inv ran
        obtain ⟨t, rfl⟩ := gate.passed passed
        obtain ⟨chunk, h₂, moved, ran⟩ := bind_inv ran
        obtain ⟨-, inbox, -⟩ := recvCb_ok moved
        have size := congrArg List.length inbox
        rw [List.length_append] at size
        cases chunk with
        | nil => simp at ran
        | cons c chunk =>
            rw [List.length_cons] at size
            dsimp only at ran size
            have shorter : h'.inbox.length ≤ h₂.inbox.length := by
              split at ran
              · rw [pure_run] at ran
                cases ran
                exact Nat.le_refl _
              · split at ran
                · exact (ih _ _ _ _ ran).1
                · exact (ih _ _ _ _ ran).1
            exact ⟨by omega, fun _ => by omega⟩
      · rw [if_neg room, pure_run] at ran
        cases ran
        exact ⟨Nat.le_refl _, fun less => absurd less room⟩

theorem discardLoop_takes :
    ∀ (turns : Nat) (h h' : Host π), (discardLoop env turns).run h = (.ok (), h') →
      h'.inbox.length ≤ h.inbox.length := by
  intro turns
  induction turns with
  | zero =>
      intro h h' ran
      simp [discardLoop] at ran
  | succ turns ih =>
      intro h h' ran
      rw [discardLoop] at ran
      obtain ⟨chunk, h₂, moved, ran⟩ := bind_inv ran
      obtain ⟨-, inbox, -⟩ := recvCb_ok moved
      have size := congrArg List.length inbox
      rw [List.length_append] at size
      cases chunk with
      | nil => simp at ran
      | cons c chunk =>
          dsimp only at ran
          split at ran
          · rw [pure_run] at ran
            cases ran
            omega
          · have later := ih _ _ ran
            omega

theorem recvLineWith_takes (gate : Gate late check) {outLen : Nat} (room : 1 < outLen) {h h' : Host π}
    {line : List UInt8} (ran : (recvLineWith env check outLen).run h = (.ok line, h')) : h'.inbox.length < h.inbox.length := by
  rw [recvLineWith] at ran
  obtain ⟨out, h₁, collected, ran⟩ := bind_inv ran
  have less := (lineLoop_takes gate _ _ _ _ _ collected).2 (by rw [List.length_nil]; omega)
  split at ran
  · obtain ⟨_, h₂, dropped, ran⟩ := bind_inv ran
    rw [pure_run] at ran
    cases ran
    have later := @discardLoop_takes _ env (h₁.inbox.length + 1) h₁ _ dropped
    omega
  · rw [pure_run] at ran
    cases ran
    exact less

end Lines

/-! ## Reading lines -/

/-- A line that is taken for an identification. -/
def Mistaken (line : List UInt8) : Prop := isIdentLine (withoutCr line) = true ∧ (withoutCr line).length < 255

/-- The string is not of the length that fills the buffer, and no line before it is mistaken for it. -/
def Survives (banners : List (List UInt8)) (ident : List UInt8) : Prop :=
  ident.length ≤ 254 ∧ ∀ line ∈ banners, ¬ Mistaken line

/-- A string that the setters take and that can be sent on a line. -/
structure IsIdent (ident : List UInt8) : Prop where
  begins : isIdentLine ident = true
  plain : ∀ c ∈ ident, c ≠ 10 ∧ c ≠ 13 ∧ c ≠ 0
  accepted : copyString 256 ident = .ok ident

/-- Up to seven lines before it. -/
structure AreBanners (banners : List (List UInt8)) : Prop where
  few : banners.length ≤ 7
  lines : ∀ line ∈ banners, 10 ∉ line ∧ isIdentLine line = false

/-- The lines, the string with its CR LF, and what follows. -/
def onTheLine (banners : List (List UInt8)) (ident rest : List UInt8) : List UInt8 :=
  banners.flatMap (· ++ [10]) ++ txIdent ident ++ rest

/-- What the two loops over the lines have in common. -/
structure Reader {π : Type} (run : Nat → Host π → Outcome NetnoxReturn Unit × Host π)
    (stored : π → List UInt8) (good : Host π → Prop) (ident : List UInt8) : Prop where
  found : ∀ n h line rest, good h → h.inbox = line ++ 10 :: rest → 10 ∉ line →
    isIdentLine (lineRead 255 line) = true →
    ∃ h', run (n + 1) h = (.ok (), h') ∧ stored h'.self = lineRead 255 line ∧ h'.inbox = rest
  skipped : ∀ n h line rest, good h → h.inbox = line ++ 10 :: rest → 10 ∉ line →
    isIdentLine (lineRead 255 line) = false →
    ∃ h', run (n + 1) h = run n h' ∧ good h' ∧ h'.inbox = rest
  takes : ∀ n h h', run (n + 1) h = (.ok (), h') → h'.inbox.length < h.inbox.length
  stops : ∀ h h', good h → run 0 h = (.ok (), h') → stored h'.self ≠ ident

section Reading

variable {ident line rest : List UInt8}

/-- A zero byte behind the four letters does not matter. -/
theorem isIdentLine_cString (s : List UInt8) : isIdentLine (cString s) = isIdentLine s := by
  rw [isIdentLine, isIdentLine, decide_eq_decide]
  obtain ⟨t, whole⟩ := List.takeWhile_prefix (l := s) (· ≠ 0)
  constructor
  · intro is
    have long : 4 ≤ (cString s).length := by
      have size := congrArg List.length is
      rw [List.length_take] at size
      have four : (ascii "SSH-").length = 4 := rfl
      omega
    have same : s.take 4 = (cString s).take 4 := by
      conv_lhs => rw [← whole]
      exact List.take_append_of_le_length long
    exact same.trans is
  · intro is
    rw [← List.take_append_drop 4 s, is, cString, List.takeWhile_append_of_pos (by decide +kernel)]
    rfl

/-- A line counts if it is mistaken for a string, or is one. -/
theorem counts_iff : isIdentLine (lineRead 255 line) = true ↔ Mistaken line := by
  rw [lineRead, Mistaken]
  split
  · rename_i long
    simp only [Nat.not_lt.2 long, and_false, iff_false]
    decide
  · rename_i short
    simp [isIdentLine_cString, Nat.lt_of_not_le short]

theorem IsIdent.length (is : IsIdent ident) : ident.length ≤ 255 := by
  have accepted := is.accepted
  rw [copyString] at accepted
  split at accepted
  · cases accepted
  · omega

theorem IsIdent.withoutCr (is : IsIdent ident) : withoutCr (ident ++ [13]) = ident := by
  rw [Transport.withoutCr, List.filter_append, List.filter_eq_self.2 fun c mem => by simp [(is.plain c mem).2.1]]
  simp

/-- A string of at most 254 bytes is read as it is. -/
theorem IsIdent.lineRead (is : IsIdent ident) (short : ident.length ≤ 254) : lineRead 255 (ident ++ [13]) = ident := by
  rw [Transport.lineRead, is.withoutCr, if_neg (by omega), cString, List.takeWhile_eq_self_iff]
  intro c mem
  simpa using (is.plain c mem).2.2

theorem IsIdent.clean (is : IsIdent ident) : 10 ∉ ident ++ [13] := by
  simpa using fun mem => (is.plain 10 mem).1 rfl

/-- What is sent is the string and CR LF. -/
theorem IsIdent.txIdent (is : IsIdent ident) : txIdent ident = ident ++ [13] ++ [10] := by
  have short := is.length
  have fits : (ident ++ [13, 10]).length ≤ 257 := by
    rw [List.length_append, List.length_cons, List.length_cons, List.length_nil]
    omega
  rw [Transport.txIdent, List.take_of_length_le fits]
  simp

/-- The loop stores the string and stops behind its line exactly if it survives. -/
theorem Reader.reads_iff {π : Type} {run : Nat → Host π → Outcome NetnoxReturn Unit × Host π}
    {stored : π → List UInt8} {good : Host π → Prop} (reader : Reader run stored good ident)
    (isIdent : IsIdent ident) (rest : List UInt8) :
    ∀ (banners : List (List UInt8)) (n : Nat) (h : Host π),
      banners.length < n → (∀ line ∈ banners, 10 ∉ line) → good h → h.inbox = onTheLine banners ident rest →
      ((∃ h', run n h = (.ok (), h') ∧ stored h'.self = ident ∧ h'.inbox = rest) ↔ Survives banners ident) := by
  intro banners
  induction banners with
  | nil =>
      intro n h room _ fine inbox
      obtain ⟨n, rfl⟩ : ∃ m, n = m + 1 := ⟨n - 1, by simp at room; omega⟩
      have stands : h.inbox = (ident ++ [13]) ++ 10 :: rest := by
        rw [inbox, onTheLine, isIdent.txIdent]
        simp
      have clean := isIdent.clean
      by_cases short : ident.length ≤ 254
      · have kept := isIdent.lineRead short
        have reads := reader.found n h _ rest fine stands clean (by rw [kept]; exact isIdent.begins)
        rw [kept] at reads
        simpa [Survives, short] using reads
      · have lost : isIdentLine (lineRead 255 (ident ++ [13])) = false := by
          rw [lineRead, isIdent.withoutCr, if_pos (by omega)]
          decide
        obtain ⟨h₁, same, fine₁, inbox₁⟩ := reader.skipped n h _ rest fine stands clean lost
        simp only [Survives, short, false_and, iff_false]
        rintro ⟨h', ran, is, left⟩
        rw [same] at ran
        cases n with
        | zero => exact reader.stops h₁ h' fine₁ ran is
        | succ n =>
            have less := reader.takes n h₁ h' ran
            rw [left, inbox₁] at less
            exact Nat.lt_irrefl _ less
  | cons line banners ih =>
      intro n h room clean fine inbox
      obtain ⟨n, rfl⟩ : ∃ m, n = m + 1 := ⟨n - 1, by rw [List.length_cons] at room; omega⟩
      rw [List.length_cons] at room
      have stands : h.inbox = line ++ 10 :: onTheLine banners ident rest := by
        rw [inbox, onTheLine, onTheLine]
        simp
      by_cases mistaken : Mistaken line
      · obtain ⟨h', ran, -, left⟩ :=
          reader.found n h line _ fine stands (clean line (by simp)) (counts_iff.2 mistaken)
        constructor
        · rintro ⟨h'', ran', -, left'⟩
          rw [ran] at ran'
          cases ran'
          -- the rest of the lines is still there
          have longer := congrArg List.length (left.symm.trans left')
          rw [onTheLine, isIdent.txIdent] at longer
          simp only [List.length_append, List.length_cons] at longer
          omega
        · rintro ⟨-, none⟩
          exact absurd mistaken (none line (by simp))
      · have passed : isIdentLine (lineRead 255 line) = false := by
          rw [Bool.eq_false_iff, ne_eq, counts_iff]
          exact mistaken
        obtain ⟨h₁, same, fine₁, inbox₁⟩ := reader.skipped n h line _ fine stands (clean line (by simp)) passed
        rw [same, ih n h₁ (by omega) (fun line mem => clean line (by simp [mem])) fine₁ inbox₁]
        simp [Survives, mistaken]

end Reading

/-! ## The two loops -/

section Loops

variable {env : Env} {ident : List UInt8}

theorem ran_of_returns {π α : Type} {late : Host π → Prop} {m : Prog π α} {Q : α → Host π → Prop} {h : Host π}
    (returns : Returns late m Q h) (inTime : ∀ e h', m.run h = (.err e, h') → ¬ late h') :
    ∃ a h', m.run h = (.ok a, h') ∧ Q a h' := by
  rw [Returns] at returns
  rcases ran : m.run h with ⟨o, h'⟩
  rw [ran] at returns
  cases o with
  | ok a => exact ⟨a, h', rfl, returns⟩
  | err e => exact absurd returns (inTime e h' ran)
  | stuck => exact returns.elim

theorem client_line (alive : ∀ t, 0 < env.recv t) {h : Host Client} {line rest : List UInt8}
    (inbox : h.inbox = line ++ 10 :: rest) (clean : 10 ∉ line) :
    ∃ h', (Client.recvLine env 256).run h = (.ok (lineRead 255 line), h') ∧ Took rest h h' := by
  have reads : Returns (fun _ => False) (Client.recvLine env 256)
      (fun got h' => got = lineRead 255 line ∧ Took rest h h') h :=
    recvLineWith_line alive (gate_pure _) inbox clean
  obtain ⟨a, h', ran, rfl, took⟩ := ran_of_returns reads fun _ _ _ never => never
  exact ⟨h', ran, took⟩

theorem attempt_inv {π α : Type} {m : Prog π α} {h h' : Host π} {a : α}
    (ran : (attempt m).run h = (.ok (some a), h')) : m.run h = (.ok a, h') := by
  rw [attempt_run] at ran
  rcases first : m.run h with ⟨o, h₁⟩
  rw [first] at ran
  cases o with
  | ok b =>
      cases ran
      rfl
  | err e => cases ran
  | stuck => cases ran

theorem client_takes : ∀ (n : Nat) (h h' : Host Client), (Client.identLoop env n).run h = (.ok (), h') →
    h'.inbox.length < h.inbox.length := by
  intro n
  induction n with
  | zero =>
      intro h h' ran
      cases ran
  | succ n ih =>
      intro h h' ran
      rw [Client.identLoop] at ran
      obtain ⟨line, h₁, read, ran⟩ := bind_inv ran
      cases line with
      | none =>
          obtain ⟨_, _, -, ran⟩ := bind_inv ran
          obtain ⟨_, _, -, ran⟩ := bind_inv ran
          cases ran
      | some line =>
          have less := recvLineWith_takes (gate_pure fun _ => False) (by decide) (attempt_inv read)
          dsimp only at ran
          rw [modify_bind_run] at ran
          split at ran
          · rw [modify_run] at ran
            cases ran
            exact less
          · exact Nat.lt_trans (ih _ _ ran) less

/-- A line is stored, and ends the loop or not. -/
theorem client_step (alive : ∀ t, 0 < env.recv t) (n : Nat) {h : Host Client} {line rest : List UInt8}
    (inbox : h.inbox = line ++ 10 :: rest) (clean : 10 ∉ line) :
    ∃ h', h'.self.serverIdent = lineRead 255 line ∧ h'.inbox = rest ∧ (Client.identLoop env (n + 1)).run h =
      (if isIdentLine (lineRead 255 line) then modify Client.setConnected else Client.identLoop env n).run h' := by
  obtain ⟨h', ran, took⟩ := client_line alive inbox clean
  refine ⟨{ h' with self := Client.setServerIdent (lineRead 255 line) h'.self }, rfl, took.inbox, ?_⟩
  rw [Client.identLoop, bind_ok (attempt_ok ran)]
  dsimp only
  rw [modify_bind_run]

theorem client_reader (alive : ∀ t, 0 < env.recv t) :
    Reader (fun n h => (Client.identLoop env n).run h) Client.serverIdent (fun _ => True) ident where
  found n h line rest _ inbox clean counts := by
    obtain ⟨h', stored, left, ran⟩ := client_step alive n inbox clean
    rw [if_pos counts, modify_run] at ran
    exact ⟨_, ran, stored, left⟩
  skipped n h line rest _ inbox clean passes := by
    obtain ⟨h', -, left, ran⟩ := client_step alive n inbox clean
    rw [if_neg (by simp [passes])] at ran
    exact ⟨h', ran, trivial, left⟩
  takes n h h' ran := client_takes (n + 1) h h' ran
  stops h h' _ ran := by cases ran

/-- No look at the clock finds the deadline past. -/
def InHandshakeTime (env : Env) (s : Server) : Prop := ∀ t, Server.lineExpired s (env.clock t) = false

theorem gate_line : Gate (fun h => ¬ InHandshakeTime env h.self) (Server.deadline env Server.lineExpired) := by
  intro h
  by_cases past : Server.lineExpired h.self (env.clock h.tick) = true
  · have ran : (Server.deadline env Server.lineExpired).run h =
        (.err .failed, { h with tick := h.tick + 1, trace := h.trace ++ [(.expired, h.self)] }) := by
      rw [Server.deadline, bind_ok (ask_run h env.clock), bind_ok (self_run _), if_pos past]
      rfl
    refine returns_of_err ran fun inTime => ?_
    rw [inTime h.tick] at past
    cases past
  · have ran : (Server.deadline env Server.lineExpired).run h =
        (.ok (some (env.clock h.tick)), { h with tick := h.tick + 1 }) := by
      rw [Server.deadline, bind_ok (ask_run h env.clock), bind_ok (self_run _), if_neg past]
      rfl
    exact returns_of_run ran ⟨h.tick + 1, rfl⟩

theorem server_line (alive : ∀ t, 0 < env.recv t) {h : Host Server} {line rest : List UInt8}
    (inTime : InHandshakeTime env h.self) (inbox : h.inbox = line ++ 10 :: rest) (clean : 10 ∉ line) :
    ∃ h', (Server.recvLine env 256).run h = (.ok (lineRead 255 line), h') ∧ Took rest h h' := by
  have plumbing : Plumbing fun _ => True := ⟨fun _ => trivial, trivial, trivial⟩
  have reads : Returns (fun h => ¬ InHandshakeTime env h.self) (Server.recvLine env 256)
      (fun got h' => got = lineRead 255 line ∧ Took rest h h') h :=
    recvLineWith_line alive gate_line inbox clean
  obtain ⟨a, h', ran, rfl, took⟩ := ran_of_returns reads fun e h' ran late => by
    have quiet : Quiet (fun _ => True) Server.handshakeDeadlineMs h h' :=
      always_ran ran (Server.always_recvLine plumbing (fun _ => trivial) 256)
    apply late
    intro t
    have before := inTime t
    rw [Server.lineExpired] at before ⊢
    rw [show h'.self.handshakeDeadlineMs = h.self.handshakeDeadlineMs from quiet.1]
    exact before
  exact ⟨h', ran, took⟩

theorem server_takes : ∀ (n : Nat) (h h' : Host Server), (Server.readIdent env n).run h = (.ok (), h') →
    h'.inbox.length ≤ h.inbox.length ∧ (0 < n → h'.inbox.length < h.inbox.length) := by
  intro n
  induction n with
  | zero =>
      intro h h' ran
      cases ran
      exact ⟨Nat.le_refl _, fun none => absurd none (by decide)⟩
  | succ n ih =>
      intro h h' ran
      rw [Server.readIdent] at ran
      obtain ⟨line, h₁, read, ran⟩ := failAs_bind_inv ran
      have less := recvLineWith_takes gate_line (by decide) read
      have later : h'.inbox.length ≤ h₁.inbox.length := by
        split at ran
        · split at ran
          · cases ran
          · rw [modify_run] at ran
            cases ran
            exact Nat.le_refl _
        · exact (ih _ _ ran).1
      exact ⟨by omega, fun _ => by omega⟩

theorem server_step (alive : ∀ t, 0 < env.recv t) (n : Nat) {h : Host Server} {line rest : List UInt8}
    (inTime : InHandshakeTime env h.self) (inbox : h.inbox = line ++ 10 :: rest) (clean : 10 ∉ line) :
    ∃ h', h'.self = h.self ∧ h'.inbox = rest ∧ (Server.readIdent env (n + 1)).run h =
      (if isIdentLine (lineRead 255 line) then modify (Server.setClientIdent (lineRead 255 line))
        else Server.readIdent env n).run h' := by
  obtain ⟨h', ran, took⟩ := server_line alive inTime inbox clean
  have fits : copyString 256 (lineRead 255 line) = .ok (lineRead 255 line) := by
    rw [copyString, if_neg]
    rw [lineRead]
    split
    · simp
    · rename_i short
      have cut : (cString (withoutCr line)).length ≤ (withoutCr line).length := (List.takeWhile_prefix _).length_le
      omega
  refine ⟨h', ?_, took.inbox, ?_⟩
  · obtain ⟨_, _, rfl, _⟩ := took
    rfl
  · rw [Server.readIdent, bind_ok (failAs_ok ran)]
    simp only [fits]

theorem server_reader (alive : ∀ t, 0 < env.recv t) :
    Reader (fun n h => (Server.readIdent env n).run h) Server.clientIdent
      (fun h => InHandshakeTime env h.self ∧ h.self.clientIdent ≠ ident) ident where
  found n h line rest fine inbox clean counts := by
    obtain ⟨h', -, left, ran⟩ := server_step alive n fine.1 inbox clean
    rw [if_pos counts, modify_run] at ran
    exact ⟨_, ran, rfl, left⟩
  skipped n h line rest fine inbox clean passes := by
    obtain ⟨h', same, left, ran⟩ := server_step alive n fine.1 inbox clean
    rw [if_neg (by simp [passes])] at ran
    exact ⟨h', ran, by rw [same]; exact fine, left⟩
  takes n h h' ran := (server_takes (n + 1) h h' ran).2 (Nat.succ_pos n)
  stops h h' fine ran := by
    cases ran
    exact fine.2

end Loops

/-- **Identification strings.**  For every string that a setter takes and that can be sent on a
line, and up to seven lines before it, over sockets that go on: the client's loop stores
exactly the string and reads no further exactly if it has at most 254 bytes and no line
before it is mistaken for one; so does the server's, in time and if it did not hold the
string before. -/
theorem identification_survives_iff (env : Env) (alive : ∀ t, 0 < env.recv t) (banners : List (List UInt8))
    (ident rest : List UInt8) (isIdent : IsIdent ident) (areBanners : AreBanners banners) :
    (∀ h : Host Client, h.inbox = onTheLine banners ident rest →
      ((∃ h', (Client.identLoop env maxBannerLines).run h = (.ok (), h') ∧ h'.self.serverIdent = ident ∧
          h'.inbox = rest) ↔
        Survives banners ident)) ∧
    ∀ h : Host Server, h.inbox = onTheLine banners ident rest → InHandshakeTime env h.self →
      h.self.clientIdent ≠ ident →
      ((∃ h', (Server.readIdent env maxBannerLines).run h = (.ok (), h') ∧ h'.self.clientIdent = ident ∧
          h'.inbox = rest) ↔
        Survives banners ident) := by
  have few : banners.length < maxBannerLines := Nat.lt_succ_of_le areBanners.few
  have clean : ∀ line ∈ banners, 10 ∉ line := fun line mem => (areBanners.lines line mem).1
  constructor
  · intro h inbox
    exact (client_reader alive).reads_iff isIdent rest banners maxBannerLines h few clean trivial inbox
  · intro h inbox inTime other
    exact (server_reader alive).reads_iff isIdent rest banners maxBannerLines h few clean ⟨inTime, other⟩ inbox

/-- A short string after one line, to a fresh client and a fresh server. -/
theorem identification_survives_iff_short :
    (∃ h', (Client.identLoop calm maxBannerLines).run
        ⟨Client.init 0, 0, onTheLine [ascii "hello"] (ascii "SSH-a") [1], []⟩ = (.ok (), h') ∧
      h'.self.serverIdent = ascii "SSH-a" ∧ h'.inbox = [1]) ∧
    ∃ h', (Server.readIdent calm maxBannerLines).run
        ⟨{ Server.init with handshakeDeadlineMs := 1000 }, 0, onTheLine [ascii "hello"] (ascii "SSH-a") [1], []⟩ =
          (.ok (), h') ∧
      h'.self.clientIdent = ascii "SSH-a" ∧ h'.inbox = [1] := by
  have alive : ∀ t, 0 < calm.recv t := live_calm.recv
  have isIdent : IsIdent (ascii "SSH-a") := ⟨by decide +kernel, by decide +kernel, by rfl⟩
  have areBanners : AreBanners [ascii "hello"] := ⟨by decide +kernel, by decide +kernel⟩
  have survives : Survives [ascii "hello"] (ascii "SSH-a") := by
    refine ⟨by decide, fun line mem => ?_⟩
    obtain rfl := List.mem_singleton.1 mem
    rw [Mistaken]
    decide +kernel
  have both := identification_survives_iff calm alive [ascii "hello"] (ascii "SSH-a") [1] isIdent areBanners
  exact ⟨(both.1 _ rfl).2 survives, (both.2 _ rfl (fun _ => by rfl) (by decide +kernel)).2 survives⟩

/-- A string of 255 bytes is taken by the setters and fills the buffer. -/
def longest : List UInt8 := ascii "SSH-" ++ List.replicate 251 97

theorem isIdent_longest : IsIdent longest where
  begins := by decide +kernel
  plain := by decide +kernel
  accepted := if_neg (by decide +kernel)

/-- A string of 255 bytes is lost, and so is one behind a line that hides its first letters
behind a carriage return. -/
theorem identification_lost :
    (IsIdent longest ∧ ∀ h : Host Client, h.inbox = onTheLine [] longest [] →
      ¬ ∃ h', (Client.identLoop calm maxBannerLines).run h = (.ok (), h') ∧ h'.self.serverIdent = longest ∧
        h'.inbox = []) ∧
    (IsIdent (ascii "SSH-a") ∧ AreBanners [13 :: ascii "SSH-b"] ∧ ∀ h : Host Client,
      h.inbox = onTheLine [13 :: ascii "SSH-b"] (ascii "SSH-a") [] →
      ¬ ∃ h', (Client.identLoop calm maxBannerLines).run h = (.ok (), h') ∧ h'.self.serverIdent = ascii "SSH-a" ∧
        h'.inbox = []) := by
  have alive : ∀ t, 0 < calm.recv t := live_calm.recv
  have isIdent : IsIdent (ascii "SSH-a") := ⟨by decide +kernel, by decide +kernel, by rfl⟩
  have areBanners : AreBanners [13 :: ascii "SSH-b"] := ⟨by decide +kernel, by decide +kernel⟩
  refine ⟨⟨isIdent_longest, fun h inbox reads => ?_⟩, isIdent, areBanners, fun h inbox reads => ?_⟩
  · have survives :=
      ((client_reader alive).reads_iff isIdent_longest [] [] 8 h (by decide) (by simp) trivial inbox).1 reads
    exact absurd survives.1 (by decide +kernel)
  · have clean : ∀ line ∈ [13 :: ascii "SSH-b"], 10 ∉ line := fun line mem => (areBanners.lines line mem).1
    have survives := ((client_reader alive).reads_iff isIdent [] _ 8 h (by decide) clean trivial inbox).1 reads
    refine survives.2 (13 :: ascii "SSH-b") (by simp) ?_
    rw [Mistaken]
    decide +kernel

end NoxSsh.Protocol
