import Offside.Proofs.LineFeeds
import Offside.Proofs.Maximality

/-!
# Comments and the ends of their lines

A comment stops at a carriage return or a line feed, but only the line feed ends its line: a
carriage return without one is a blank.  So a comment runs to the end of its line if and only if
what is left of the line is blank (`commentsEndLines_iff`); past a lone carriage return the line may
go on with code (`not_commentsEndLines_of_return`).  Where no carriage return is alone, comments end
their lines (`commentsEndLines_of_paired`).
-/

namespace Offside

/-! ### The rest of a line -/

/-- What is left of the line that an item stops on. -/
def Item.restOfLine (source : List Char) (item : Item) : List Char :=
  ((item.textAfter source).getD []).takeWhile (· ≠ '\n')

/-- That after a comment no item but a line break starts on its line. -/
def CommentsEndLines (source : List Char) : Prop :=
  ∀ front comment back, items source = front ++ comment :: back →
    comment.lexeme = .token .comment →
      ∀ item ∈ back, item.isNewline = true ∨ comment.lineIn source < item.lineIn source

section

variable {p : Position} {text : List Char} {its : List Item}

/-- The next item starts on the line where the text does. -/
theorem Lexes.line_head (h : Lexes p text its) :
    ∀ item ∈ its.head?, item.position.line = p.line := by
  cases h with
  | done => simp
  | item blank scanned split others =>
    intro item first
    obtain rfl := Option.some.inj first
    rw [Rest.itemOf, Position.line_advanceAll _ (newline_not_mem_lead scanned),
      Position.line_advanceAll _ blank.newline_not_mem]

/-- The first line of a text is blank if and only if no item but a line break comes next. -/
theorem Lexes.blank_iff (h : Lexes p text its) :
    (∀ c ∈ text.takeWhile (· ≠ '\n'), Unicode.isBlank c = true) ↔
      ∀ item ∈ its.head?, item.isNewline = true := by
  cases h with
  | done blank =>
    have whole : ∀ c ∈ text.takeWhile (· ≠ '\n'), Unicode.isBlank c = true :=
      fun c hc => (blank c ((List.takeWhile_prefix _).subset hc)).1
    simpa using whole
  | @item _ gap cs after c s _ blank scanned split others =>
    have past : (gap ++ c :: cs).takeWhile (· ≠ '\n') = gap ++ (c :: cs).takeWhile (· ≠ '\n') :=
      List.takeWhile_append_of_pos fun d hd => by simpa using (blank d hd).2
    have gaps : ∀ d ∈ gap, Unicode.isBlank d = true := fun d hd => (blank d hd).1
    rw [past]
    simp only [List.forall_mem_append, List.head?_cons, Option.mem_some_iff, forall_eq',
      Item.isNewline, Rest.itemOf, beq_iff_eq]
    refine ⟨fun h => ?_, fun lexeme => ⟨gaps, ?_⟩⟩
    · by_contra other
      have first : c ≠ '\n' := by
        rintro rfl
        exact other (newline_of_blank scanned (by decide))
      rw [List.takeWhile_cons_of_pos (by simpa using first)] at h
      exact other (newline_of_blank scanned (h.2 c List.mem_cons_self))
    · rcases newline_of_scan scanned lexeme with ⟨rfl, -⟩ | ⟨rfl, next, -⟩
      · simp
      · obtain ⟨ds, rfl⟩ := List.head?_eq_some_iff.1 next
        simpa using show Unicode.isBlank '\r' = true by decide

end

/-! ### Comments -/

/-- Past a comment comes what is read next, on its line. -/
theorem exists_lexes_comment {source : List Char} {front back : List Item} {comment : Item}
    (split : items source = front ++ comment :: back)
    (lexeme : comment.lexeme = .token .comment) : ∃ p after,
      comment.textAfter source = some after ∧ Lexes p after back ∧
        p.line = comment.position.line := by
  have lexes := lexes_items source
  rw [split] at lexes
  obtain ⟨before, tail, rfl, -, rest⟩ := lexes.of_append
  cases rest with
  | @item _ gap cs after c s _ blank scanned joined others =>
    refine ⟨_, after, ?_, others, ?_⟩
    · rw [joined, ← List.append_assoc, ← Position.advanceAll_append]
      exact textAfter_itemOf (before ++ gap) after s
    · have line : '\n' ∉ s.body := newline_not_mem_body scanned lexeme (by simp)
      rw [Scan.consumed, Rest.itemOf, Position.advanceAll_append, Position.advanceAll_append,
        Position.line_advanceAll _ line]

/-- The line of a comment goes on with nothing but line breaks if and only if one comes next. -/
theorem forall_lineIn_lt_iff {source : List Char} {front back : List Item} {comment : Item}
    (split : items source = front ++ comment :: back)
    (lexeme : comment.lexeme = .token .comment) :
    (∀ item ∈ back, item.isNewline = true ∨ comment.lineIn source < item.lineIn source) ↔
      ∀ item ∈ back.head?, item.isNewline = true := by
  have line {item : Item} (mem : item ∈ comment :: back) :
      item.lineIn source = item.position.line :=
    Item.lineIn_eq (by rw [split]; exact List.mem_append_right front mem)
  have here := line List.mem_cons_self
  refine ⟨fun h item first => ?_, fun h item mem => ?_⟩
  · have mem := List.mem_of_mem_head? first
    obtain ⟨p, after, -, lexes, same⟩ := exists_lexes_comment split lexeme
    refine (h item mem).resolve_right ?_
    rw [here, line (List.mem_cons_of_mem _ mem), lexes.line_head item first, same]
    exact Nat.lt_irrefl _
  · cases back with
    | nil => cases mem
    | cons nl back =>
      have newline : nl.isNewline = true := h nl rfl
      rcases List.mem_cons.1 mem with rfl | mem
      · exact .inl newline
      · rw [here, line (List.mem_cons_of_mem _ (List.mem_cons_of_mem _ mem))]
        have past : items source = (front ++ [comment]) ++ nl :: back := by simp [split]
        exact .inr (line_lt_of_newline past newline (by simp) mem)

/-! ### Sources -/

/-- **Comments end their lines if and only if what is left of these is blank.** -/
theorem commentsEndLines_iff (source : List Char) :
    CommentsEndLines source ↔ ∀ item ∈ items source, item.lexeme = .token .comment →
      ∀ c ∈ item.restOfLine source, Unicode.isBlank c = true := by
  have each {front back : List Item} {comment : Item}
      (split : items source = front ++ comment :: back)
      (lexeme : comment.lexeme = .token .comment) :
      (∀ item ∈ back, item.isNewline = true ∨ comment.lineIn source < item.lineIn source) ↔
        ∀ c ∈ comment.restOfLine source, Unicode.isBlank c = true := by
    obtain ⟨p, after, text, lexes, -⟩ := exists_lexes_comment split lexeme
    rw [forall_lineIn_lt_iff split lexeme, ← lexes.blank_iff, Item.restOfLine, text,
      Option.getD_some]
  refine ⟨fun h comment mem lexeme => ?_, fun h front comment back split lexeme => ?_⟩
  · obtain ⟨front, back, split⟩ := List.append_of_mem mem
    exact (each split lexeme).1 (h front comment back split lexeme)
  · exact (each split lexeme).2 (h comment (by simp [split]) lexeme)

/-- The line of a comment goes on with a carriage return, if it goes on. -/
theorem head_restOfLine {source : List Char} {comment : Item} (mem : comment ∈ items source)
    (lexeme : comment.lexeme = .token .comment) :
    ∀ c ∈ (comment.restOfLine source).head?, c = '\r' := by
  obtain ⟨before, c, cs, s, after, rfl, split, scanned, rfl⟩ :=
    (lexes_items source).scanned_mem mem
  have stop : Token.comment.EndsBefore after := endsBefore_of_scan scanned split lexeme
  intro d first
  rw [Item.restOfLine, textAfter_itemOf, Option.getD_some] at first
  cases after with
  | nil => cases first
  | cons e es =>
    rcases stop e rfl with rfl | rfl
    · exact (Option.some.inj first).symm
    · cases first

/-- Comments end their lines where no carriage return is alone. -/
theorem commentsEndLines_of_paired {source : List Char}
    (paired : ∀ before after, source = before ++ '\r' :: after → after.head? = some '\n') :
    CommentsEndLines source := by
  refine (commentsEndLines_iff source).2 fun comment mem lexeme => ?_
  obtain ⟨front, back, split⟩ := List.append_of_mem mem
  have first := head_restOfLine mem lexeme
  obtain ⟨before, c, cs, s, after, rfl, split, scanned, rfl⟩ :=
    (lexes_items source).scanned_mem mem
  rw [Item.restOfLine, textAfter_itemOf, Option.getD_some] at first ⊢
  cases after with
  | nil => simp
  | cons d ds =>
    by_cases feed : d = '\n'
    · simp [feed]
    rw [List.takeWhile_cons_of_pos (by simpa using feed)] at first ⊢
    obtain rfl : d = '\r' := first d rfl
    obtain ⟨tail, rfl⟩ := List.head?_eq_some_iff.1
      (paired (before ++ s.consumed) ds (List.append_assoc ..).symm)
    simpa using show Unicode.isBlank '\r' = true by decide

/-- **A comment runs up to a line feed or a carriage return.**  Nothing but a lone carriage return
can stand between it and the end of its line, and it is the end if and only if only blanks follow
that. -/
theorem comments_run_to_returns (source : List Char) :
    (∀ item ∈ items source, item.lexeme = .token .comment →
        ∀ c ∈ (item.restOfLine source).head?, c = '\r') ∧
      (CommentsEndLines source ↔ ∀ item ∈ items source, item.lexeme = .token .comment →
        ∀ c ∈ item.restOfLine source, Unicode.isBlank c = true) :=
  ⟨fun _ mem lexeme => head_restOfLine mem lexeme, commentsEndLines_iff source⟩

/-- A lone carriage return ends the comment but not its line. -/
theorem not_commentsEndLines_of_return : ¬ CommentsEndLines "// a\rb".toList := by
  rw [commentsEndLines_iff]
  intro blank
  obtain ⟨comment, mem, lexeme, code⟩ : ∃ item ∈ items "// a\rb".toList,
      item.lexeme = .token .comment ∧ 'b' ∈ item.restOfLine "// a\rb".toList := by
    decide +kernel
  exact absurd (blank comment mem lexeme 'b' code) (by decide)

end Offside
