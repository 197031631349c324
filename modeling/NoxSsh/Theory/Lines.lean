/-
# Theory.Lines — reading lines through a buffer

`readLine` fills a buffer of `n` places: it stops after the end of a line, at the end of
the text, or when the buffer is full.  A line that does not fit comes in `pieces`, and
nothing tells a piece from a line.  What a reader looks for in its buffers it finds
exactly where some piece of some line has it (`exists_buffer_iff`), and what it does buffer
by buffer it does line by line to the text whose lines are cut (`foldl_buffers`).  Behind a
text that ends with a line another one is read by itself (`buffers_append`).
-/
import Mathlib.Data.List.Basic

namespace NoxSsh.Theory

set_option autoImplicit false

/-- The `n` elements of the line from a multiple of `n` on, or what there is of them. -/
def Piece {α : Type} (n : Nat) (line piece : List α) : Prop :=
  ∃ q, q * n < line.length ∧ piece = (line.drop (q * n)).take n

section Lines

variable {α : Type} [DecidableEq α] (eol : α)

/-- The next buffer and what is left, or nothing at the end of the text. -/
def readLine (n : Nat) (text : List α) : Option (List α × List α) :=
  let room := text.take n
  let line := room.takeWhile (· ≠ eol)
  if text = [] then none
  else if line.length < room.length then some (line ++ [eol], text.drop (line.length + 1))
  else some (room, text.drop n)

/-- All buffers, at most `turns` of them. -/
def buffers (n : Nat) : Nat → List α → List (List α)
  | 0, _ => []
  | turns + 1, text =>
      match readLine eol n text with
      | none => []
      | some (buffer, rest) => buffer :: buffers n turns rest

variable {eol} {n : Nat}

theorem takeWhile_line {line rest : List α} (within : eol ∉ line) :
    (line ++ eol :: rest).takeWhile (· ≠ eol) = line := by
  rw [List.takeWhile_append_of_pos]
  · simp
  · intro a mem
    simpa using fun is : a = eol => within (is ▸ mem)

theorem takeWhile_all {line : List α} (within : eol ∉ line) : line.takeWhile (· ≠ eol) = line := by
  rw [← List.append_nil line, List.takeWhile_append_of_pos]
  · simp
  · intro a mem
    simpa using fun is : a = eol => within (is ▸ mem)

/-- A line that fits comes with its end. -/
theorem readLine_line {line rest : List α} (within : eol ∉ line) (fits : line.length < n) :
    readLine eol n (line ++ eol :: rest) = some (line ++ [eol], rest) := by
  have room : (line ++ eol :: rest).take n = line ++ eol :: rest.take (n - line.length - 1) := by
    rw [List.take_append, List.take_of_length_le (by omega)]
    obtain ⟨k, is⟩ : ∃ k, n - line.length = k + 1 := ⟨n - line.length - 1, by omega⟩
    rw [is, List.take_succ_cons]
    rfl
  rw [readLine]
  simp only [room, takeWhile_line within]
  rw [if_neg (by simp), if_pos (by simp)]
  simp

/-- One that does not comes in part. -/
theorem readLine_piece {text : List α} (within : eol ∉ text.take n) (some_ : text ≠ []) :
    readLine eol n text = some (text.take n, text.drop n) := by
  rw [readLine]
  simp only [takeWhile_all within]
  rw [if_neg some_, if_neg (Nat.lt_irrefl _)]

end Lines

section Pieces

variable {α : Type} {n : Nat} {line piece : List α}

/-- The first piece, or one of what is left. -/
theorem piece_iff :
    Piece n line piece ↔ (line ≠ [] ∧ piece = line.take n) ∨ Piece n (line.drop n) piece := by
  constructor
  · rintro ⟨q, inside, rfl⟩
    cases q with
    | zero =>
        left
        refine ⟨fun none => ?_, by rw [Nat.zero_mul, List.drop_zero]⟩
        rw [none, List.length_nil] at inside
        exact absurd inside (Nat.not_lt_zero _)
    | succ q =>
        right
        rw [Nat.succ_mul] at inside ⊢
        refine ⟨q, by rw [List.length_drop]; omega, ?_⟩
        rw [List.drop_drop, Nat.add_comm n]
  · rintro (⟨some_, rfl⟩ | ⟨q, inside, rfl⟩)
    · refine ⟨0, ?_, by rw [Nat.zero_mul, List.drop_zero]⟩
      rw [Nat.zero_mul]
      exact List.length_pos_iff.2 some_
    · rw [List.length_drop] at inside
      refine ⟨q + 1, by rw [Nat.succ_mul]; omega, ?_⟩
      rw [List.drop_drop, Nat.succ_mul, Nat.add_comm n]

theorem not_piece_nil : ¬ Piece n ([] : List α) piece := by
  rintro ⟨q, inside, -⟩
  exact absurd inside (Nat.not_lt_zero _)

/-- A line that fits is its only piece. -/
theorem piece_short (fits : line.length ≤ n) : Piece n line piece ↔ line ≠ [] ∧ piece = line := by
  rw [piece_iff, List.take_of_length_le fits, List.drop_of_length_le fits]
  simp only [not_piece_nil, or_false]

end Pieces

/-! ## Looking for something -/

section Looking

variable {α : Type} [DecidableEq α] {eol : α} {n : Nat} {P : List α → Prop}

theorem splitOn_append {line : List α} (fresh : eol ∉ line) (rest : List α) :
    (line ++ rest).splitOn eol = (rest.splitOn eol).modifyHead (line ++ ·) := by
  induction line with
  | nil =>
      rw [List.nil_append]
      cases rest.splitOn eol <;> rfl
  | cons a line ih =>
      have apart : ¬ (a == eol) = true := by
        simpa using fun is : a = eol => fresh (is ▸ List.mem_cons_self)
      rw [List.cons_append, List.splitOn_cons_eq_if_modifyHead, if_neg apart,
        ih fun mem => fresh (List.mem_cons_of_mem _ mem), List.modifyHead_modifyHead]
      rfl

/-- A buffer with no end of a line in it is the first piece of a line that goes on with the
rest of the text. -/
theorem splitOn_buffer {text : List α} (fresh : eol ∉ text.take n) :
    ∃ first others, (text.drop n).splitOn eol = first :: others ∧
      text.splitOn eol = (text.take n ++ first) :: others ∧
      (text.take n ++ first).take n = text.take n ∧ (text.take n ++ first).drop n = first := by
  obtain ⟨first, others, is⟩ := List.exists_cons_of_ne_nil (List.splitOn_ne_nil eol (text.drop n))
  refine ⟨first, others, is, ?_, ?_⟩
  · have split := splitOn_append fresh (text.drop n)
    rw [List.take_append_drop, is] at split
    exact split
  · by_cases full : n ≤ text.length
    · have size : (text.take n).length = n := by rw [List.length_take]; omega
      exact ⟨List.take_left' size, List.drop_left' size⟩
    · rw [List.drop_of_length_le (by omega), List.splitOn_nil] at is
      obtain ⟨rfl, -⟩ := List.cons.inj is
      rw [List.append_nil, List.take_take, Nat.min_self]
      exact ⟨rfl, List.drop_of_length_le (by rw [List.length_take]; omega)⟩

/-- What does not mind the end of a line and is not in nothing is in some buffer exactly if
it is in some piece of some line. -/
theorem exists_buffer_iff (room : 0 < n) (ends : ∀ line, eol ∉ line → (P (line ++ [eol]) ↔ P line)) (nothing : ¬ P []) :
    ∀ (turns : Nat) (text : List α), text.length ≤ turns →
      ((∃ buffer ∈ buffers eol n turns text, P buffer) ↔
        ∃ line ∈ text.splitOn eol, ∃ piece, Piece n line piece ∧ P piece) := by
  intro turns
  induction turns with
  | zero =>
      intro text fits
      obtain rfl := List.length_eq_zero_iff.1 (Nat.le_zero.1 fits)
      simp [buffers, not_piece_nil]
  | succ turns ih =>
      intro text fits
      by_cases none : text = []
      · subst none
        simp [buffers, readLine, not_piece_nil]
      by_cases within : eol ∈ text.take n
      · -- the line ends in the buffer
        obtain ⟨line, more, is, fresh⟩ := List.eq_append_cons_of_mem within
        have short : line.length < n := by
          have := congrArg List.length is
          rw [List.length_append, List.length_cons, List.length_take] at this
          omega
        obtain ⟨rest, rfl⟩ : ∃ rest, text = line ++ eol :: rest :=
          ⟨more ++ text.drop n, by rw [← List.cons_append, ← List.append_assoc, ← is, List.take_append_drop]⟩
        rw [buffers, readLine_line fresh short]
        rw [List.length_append, List.length_cons] at fits
        have later := ih rest (by omega)
        have own : (∃ piece, Piece n line piece ∧ P piece) ↔ P line := by
          simp only [piece_short (Nat.le_of_lt short)]
          constructor
          · rintro ⟨_, ⟨-, rfl⟩, has⟩
            exact has
          · intro has
            exact ⟨line, ⟨fun none => nothing (none ▸ has), rfl⟩, has⟩
        rw [List.splitOn_append_cons_self_of_not_mem fresh]
        simp only [List.exists_mem_cons_iff, ends line fresh, own, later]
      · -- a full buffer, or the last line
        rw [buffers, readLine_piece within none]
        have size : 0 < text.length := List.length_pos_iff.2 none
        have later := ih (text.drop n) (by rw [List.length_drop]; omega)
        obtain ⟨first, others, splits, whole, taken, dropped⟩ := splitOn_buffer within
        have some_ : text.take n ++ first ≠ [] := by
          intro is
          have := congrArg List.length is
          rw [List.length_append, List.length_take, List.length_nil] at this
          omega
        have own : (∃ piece, Piece n (text.take n ++ first) piece ∧ P piece) ↔
            P (text.take n) ∨ ∃ piece, Piece n first piece ∧ P piece := by
          simp only [@piece_iff _ _ (text.take n ++ first), taken, dropped, ne_eq, some_, not_false_eq_true, true_and]
          constructor
          · rintro ⟨piece, rfl | is, has⟩
            · exact .inl has
            · exact .inr ⟨piece, is, has⟩
          · rintro (has | ⟨piece, is, has⟩)
            · exact ⟨_, .inl rfl, has⟩
            · exact ⟨piece, .inr is, has⟩
        rw [whole]
        rw [splits] at later
        simp only [List.exists_mem_cons_iff, own, later, or_assoc]

end Looking

/-! ## Doing something for each -/

/-- The pieces of a line, at most `turns` of them. -/
def pieces {α : Type} (n : Nat) : Nat → List α → List (List α)
  | 0, _ => []
  | _ + 1, [] => []
  | turns + 1, a :: line => (a :: line).take n :: pieces n turns ((a :: line).drop n)

/-- The line in pieces of `n` elements. -/
def cut {α : Type} (n : Nat) (line : List α) : List (List α) := pieces n line.length line

/-- The lines of the text, in pieces of `n` elements. -/
def cutLines {α : Type} [DecidableEq α] (eol : α) (n : Nat) (text : List α) : List (List α) :=
  (text.splitOn eol).flatMap (cut n)

section Cutting

variable {α β : Type} {n : Nat} {line : List α}

/-- More turns than there are elements do not matter. -/
theorem pieces_enough (room : 0 < n) : ∀ (turns : Nat) (line : List α), line.length ≤ turns → pieces n turns line = cut n line := by
  intro turns
  induction turns using Nat.strongRecOn with
  | _ turns ih =>
      intro line enough
      cases turns with
      | zero =>
          obtain rfl := List.length_eq_zero_iff.1 (Nat.le_zero.1 enough)
          rfl
      | succ turns =>
          cases line with
          | nil => rfl
          | cons a line =>
              have shorter : ((a :: line).drop n).length ≤ line.length := by
                rw [List.length_drop, List.length_cons]
                omega
              rw [List.length_cons] at enough
              show _ :: pieces n turns _ = _ :: pieces n line.length _
              rw [ih turns (by omega) _ (by omega), ih line.length (by omega) _ shorter]

@[simp] theorem cut_nil : cut n ([] : List α) = [] := rfl

theorem cut_cons (room : 0 < n) (some_ : line ≠ []) : cut n line = line.take n :: cut n (line.drop n) := by
  obtain ⟨a, rest, rfl⟩ := List.exists_cons_of_ne_nil some_
  show _ :: pieces n rest.length _ = _
  rw [pieces_enough room]
  rw [List.length_drop, List.length_cons]
  omega

theorem length_of_mem_cut (room : 0 < n) : ∀ {line piece : List α}, piece ∈ cut n line → piece.length ≤ n := by
  intro line
  induction size : line.length using Nat.strongRecOn generalizing line with
  | _ m ih =>
      intro piece mem
      by_cases none : line = []
      · rw [none, cut_nil] at mem
        cases mem
      · rw [cut_cons room none] at mem
        have some_ := List.length_pos_iff.2 none
        rcases List.mem_cons.1 mem with rfl | mem
        · exact List.length_take_le n line
        · exact ih _ (by rw [List.length_drop]; omega) rfl mem

/-- A line that fits is not cut. -/
theorem cut_short (room : 0 < n) (fits : line.length ≤ n) (some_ : line ≠ []) : cut n line = [line] := by
  rw [cut_cons room some_, List.take_of_length_le fits, List.drop_of_length_le fits, cut_nil]

variable {f : β → List α → β}

theorem foldl_flatMap_cut (room : 0 < n) (nothing : ∀ b, f b [] = b) {lines : List (List α)}
    (short : ∀ line ∈ lines, line.length ≤ n) (b : β) : (lines.flatMap (cut n)).foldl f b = lines.foldl f b := by
  induction lines generalizing b with
  | nil => rfl
  | cons line lines ih =>
      have alone : (cut n line).foldl f b = f b line := by
        by_cases some_ : line = []
        · rw [some_, cut_nil, nothing]
          rfl
        · rw [cut_short room (short line List.mem_cons_self) some_]
          rfl
      rw [List.flatMap_cons, List.foldl_append, alone, List.foldl_cons]
      exact ih (fun line mem => short line (List.mem_cons_of_mem _ mem)) _

variable [DecidableEq α] {eol : α}

/-- A fold over the buffers that does not mind the ends of lines is one over the cut lines. -/
theorem foldl_buffers (room : 0 < n) (ends : ∀ b line, eol ∉ line → f b (line ++ [eol]) = f b line)
    (nothing : ∀ b, f b [] = b) :
    ∀ (turns : Nat) (text : List α), text.length ≤ turns → ∀ b,
      (buffers eol n turns text).foldl f b = (cutLines eol n text).foldl f b := by
  intro turns
  induction turns with
  | zero =>
      intro text fits b
      obtain rfl := List.length_eq_zero_iff.1 (Nat.le_zero.1 fits)
      rfl
  | succ turns ih =>
      intro text fits b
      by_cases none : text = []
      · subst none
        rfl
      by_cases within : eol ∈ text.take n
      · obtain ⟨line, more, is, fresh⟩ := List.eq_append_cons_of_mem within
        have short : line.length < n := by
          have := congrArg List.length is
          rw [List.length_append, List.length_cons, List.length_take] at this
          omega
        obtain ⟨rest, rfl⟩ : ∃ rest, text = line ++ eol :: rest :=
          ⟨more ++ text.drop n, by rw [← List.cons_append, ← List.append_assoc, ← is, List.take_append_drop]⟩
        rw [List.length_append, List.length_cons] at fits
        have alone : (cut n line).foldl f b = f b line := by
          by_cases some_ : line = []
          · rw [some_, cut_nil, nothing]
            rfl
          · rw [cut_short room (Nat.le_of_lt short) some_]
            rfl
        rw [buffers, readLine_line fresh short, cutLines, List.splitOn_append_cons_self_of_not_mem fresh,
          List.flatMap_cons, List.foldl_append, alone]
        show (buffers eol n turns rest).foldl f (f b (line ++ [eol])) = _
        rw [ends b line fresh, ih rest (by omega)]
        rfl
      · have size : 0 < text.length := List.length_pos_iff.2 none
        obtain ⟨first, others, splits, whole, taken, dropped⟩ := splitOn_buffer within
        have some_ : text.take n ++ first ≠ [] := by
          intro is
          have := congrArg List.length is
          rw [List.length_append, List.length_take, List.length_nil] at this
          omega
        have later := ih (text.drop n) (by rw [List.length_drop]; omega)
        rw [buffers, readLine_piece within none, cutLines, whole, List.flatMap_cons, cut_cons room some_, taken, dropped]
        rw [cutLines, splits, List.flatMap_cons] at later
        exact later _

theorem cutLines_line (fresh : eol ∉ line) : cutLines eol n line = cut n line := by
  rw [cutLines, List.splitOn_eq_singleton fresh]
  simp

theorem cutLines_append_cons (text rest : List α) :
    cutLines eol n (text ++ eol :: rest) = cutLines eol n text ++ cutLines eol n rest := by
  rw [cutLines, List.splitOn_append_cons_self, List.flatMap_append]
  rfl

/-- A line is cut by itself, whatever stands above and below it. -/
theorem cutLines_around (before after : List α) (above : ∀ a ∈ before.getLast?, a = eol) (below : ∀ a ∈ after.head?, a = eol) :
    ∃ head tail, ∀ line, eol ∉ line → cutLines eol n (before ++ line ++ after) = head ++ cut n line ++ tail := by
  have tail : ∃ tail, ∀ line, eol ∉ line → cutLines eol n (line ++ after) = cut n line ++ tail := by
    cases after with
    | nil => exact ⟨[], fun line fresh => by rw [List.append_nil, List.append_nil, cutLines_line fresh]⟩
    | cons a after =>
        obtain rfl := below a rfl
        exact ⟨cutLines a n after, fun line fresh => by rw [cutLines_append_cons, cutLines_line fresh]⟩
  obtain ⟨tail, ends⟩ := tail
  rcases List.eq_nil_or_concat' before with rfl | ⟨before, a, rfl⟩
  · exact ⟨[], tail, fun line fresh => ends line fresh⟩
  · obtain rfl := above a (by simp)
    refine ⟨cutLines a n before, tail, fun line fresh => ?_⟩
    rw [List.append_assoc, List.append_assoc, List.singleton_append, cutLines_append_cons, ends line fresh, List.append_assoc]

/-- Where every line fits nothing is cut. -/
theorem foldl_cutLines {text : List α} (room : 0 < n) (short : ∀ line ∈ text.splitOn eol, line.length ≤ n)
    (nothing : ∀ b, f b [] = b) (b : β) : (cutLines eol n text).foldl f b = (text.splitOn eol).foldl f b :=
  foldl_flatMap_cut room nothing short b

end Cutting

/-! ## One text behind the other -/

section Behind

variable {α : Type} [DecidableEq α] {eol : α} {n : Nat}

/-- A buffer is a part of the text, and not an empty one. -/
theorem readLine_part (room : 0 < n) {text buffer rest : List α} (read : readLine eol n text = some (buffer, rest)) :
    text = buffer ++ rest ∧ rest.length < text.length := by
  have some_ : text ≠ [] := by
    rintro rfl
    cases read
  have size := List.length_pos_iff.2 some_
  by_cases within : eol ∈ text.take n
  · obtain ⟨line, more, is, fresh⟩ := List.eq_append_cons_of_mem within
    have short : line.length < n := by
      have := congrArg List.length is
      rw [List.length_append, List.length_cons, List.length_take] at this
      omega
    obtain ⟨behind, rfl⟩ : ∃ behind, text = line ++ eol :: behind :=
      ⟨more ++ text.drop n, by rw [← List.cons_append, ← List.append_assoc, ← is, List.take_append_drop]⟩
    rw [readLine_line fresh short] at read
    cases read
    refine ⟨by simp, ?_⟩
    rw [List.length_append, List.length_cons]
    omega
  · rw [readLine_piece within some_] at read
    cases read
    refine ⟨(List.take_append_drop n text).symm, ?_⟩
    rw [List.length_drop]
    omega

theorem buffers_enough (room : 0 < n) :
    ∀ (turns turns' : Nat) (text : List α), text.length ≤ turns → text.length ≤ turns' →
      buffers eol n turns text = buffers eol n turns' text := by
  intro turns
  induction turns with
  | zero =>
      intro turns' text fits _
      obtain rfl := List.length_eq_zero_iff.1 (Nat.le_zero.1 fits)
      cases turns' with
      | zero => rfl
      | succ turns' => rfl
  | succ turns ih =>
      intro turns' text fits fits'
      cases turns' with
      | zero =>
          obtain rfl := List.length_eq_zero_iff.1 (Nat.le_zero.1 fits')
          rfl
      | succ turns' =>
          rw [buffers, buffers]
          cases read : readLine eol n text with
          | none => rfl
          | some split =>
              obtain ⟨-, less⟩ := readLine_part room read
              dsimp only
              rw [ih turns' split.2 (by omega) (by omega)]

/-- Where the text ends with a line the next buffer does not reach behind it. -/
theorem readLine_append {text more : List α} (some_ : text ≠ []) (complete : ∀ a ∈ text.getLast?, a = eol) :
    ∃ buffer rest, readLine eol n text = some (buffer, rest) ∧
      readLine eol n (text ++ more) = some (buffer, rest ++ more) ∧ ∀ a ∈ rest.getLast?, a = eol := by
  have ends : ∀ {front rest : List α}, text = front ++ rest → ∀ a ∈ rest.getLast?, a = eol := by
    rintro front rest rfl a mem
    exact complete a (by simp [Option.mem_def.1 mem])
  by_cases within : eol ∈ text.take n
  · obtain ⟨line, behind, is, fresh⟩ := List.eq_append_cons_of_mem within
    have short : line.length < n := by
      have := congrArg List.length is
      rw [List.length_append, List.length_cons, List.length_take] at this
      omega
    obtain ⟨rest, rfl⟩ : ∃ rest, text = line ++ eol :: rest :=
      ⟨behind ++ text.drop n, by rw [← List.cons_append, ← List.append_assoc, ← is, List.take_append_drop]⟩
    refine ⟨line ++ [eol], rest, readLine_line fresh short, ?_,
      ends (List.append_cons line eol rest)⟩
    rw [List.append_assoc, List.cons_append, readLine_line fresh short]
  · have longer : n ≤ text.length := by
      refine Nat.le_of_not_lt fun short => within ?_
      rw [List.take_of_length_le (Nat.le_of_lt short)]
      obtain ⟨a, last⟩ := Option.ne_none_iff_exists'.1 fun none => some_ (List.getLast?_eq_none_iff.1 none)
      obtain rfl := complete a last
      exact List.mem_of_getLast? last
    have taken : (text ++ more).take n = text.take n := List.take_append_of_le_length longer
    refine ⟨text.take n, text.drop n, readLine_piece within some_, ?_, ends (List.take_append_drop n text).symm⟩
    rw [readLine_piece (by rw [taken]; exact within) (by simp [some_]), taken, List.drop_append_of_le_length longer]

/-- The buffers of the one and then those of the other. -/
theorem buffers_append (room : 0 < n) (more : List α) : ∀ (text : List α), (∀ a ∈ text.getLast?, a = eol) →
    buffers eol n (text ++ more).length (text ++ more) =
      buffers eol n text.length text ++ buffers eol n more.length more := by
  intro text
  induction size : text.length using Nat.strongRecOn generalizing text with
  | _ m ih =>
      subst size
      intro complete
      by_cases none : text = []
      · subst none
        rfl
      obtain ⟨buffer, rest, read, reads, ends⟩ := @readLine_append _ _ _ n text more none complete
      obtain ⟨whole, less⟩ := readLine_part room read
      obtain ⟨k, long⟩ : ∃ k, text.length = k + 1 := ⟨text.length - 1, by omega⟩
      obtain ⟨k', long'⟩ : ∃ k', (text ++ more).length = k' + 1 :=
        ⟨k + more.length, by rw [List.length_append]; omega⟩
      have fits : (rest ++ more).length ≤ k' := by
        rw [List.length_append] at long' ⊢
        omega
      rw [long, long', buffers, buffers, reads, read]
      show buffer :: buffers eol n k' (rest ++ more) = buffer :: (buffers eol n k rest ++ _)
      rw [buffers_enough room k' (rest ++ more).length _ fits (Nat.le_refl _), ih rest.length less rest rfl ends,
        buffers_enough room k rest.length rest (by omega) (Nat.le_refl _)]

end Behind
end NoxSsh.Theory
