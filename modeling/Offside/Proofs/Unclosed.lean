import Offside.Proofs.Continuation
import Offside.Proofs.Lossless
import Offside.Proofs.Markers
import Offside.Proofs.OpenParens

/-!
# Where an open paren is

The error for a paren that is never closed names the line and the column of an item
(`ParenError.exists_opener`).  The diagram in its message finds both again in the source, where an
item stands as its position says (`Item.exists_divides`).  So **the message names the place that it
shows** (`pointsAt_of_parse`), however deep in the source the error is, and whatever the line before
the paren is made of.

If the paren is far from the edge its diagram is too wide, and there is no message
(`not_rendered_of_wide_paren`).
-/

namespace Offside

/-! ### Items in their source -/

/-- **An item stands where its position says**, and what it covers is what its lexeme is written
as. -/
theorem Item.exists_divides {source : List Char} {item : Item} (h : item ∈ items source) :
    ∃ lines front body after, item.span.Divides source lines front body after ∧
      item.lexeme.Written body ∧ item.position.line = 1 + (lines ++ front).count '\n' ∧
      item.position.column = front.length := by
  obtain ⟨before, c, cs, s, after, rfl, -, scanned, rfl⟩ := (lexes_items source).scanned_mem h
  obtain ⟨lines, front, split, whole, line⟩ := exists_lines (before ++ s.lead)
  have position : (Rest.itemOf (Position.origin.advanceAll before) s).position =
      Position.origin.advanceAll (lines ++ front) := by
    rw [← split, Position.advanceAll_append]
    rfl
  have text : before ++ (s.consumed ++ after) = lines ++ (front ++ (s.body ++ after)) := by
    rw [← List.append_assoc lines, ← split, Scan.consumed]
    simp only [List.append_assoc]
  refine ⟨lines, front, s.body, after, ⟨text, whole, line, ?_, rfl⟩,
    (faithful_of_scan scanned).body, ?_, ?_⟩
  · rw [Item.span, position, Position.offset_advanceAll]
    exact Nat.zero_add _
  · rw [position, Position.line_advanceAll_count]
    rfl
  · rw [position, Position.column_advanceAll_lines whole line]

/-- The error for a paren that is not closed names the place of the paren. -/
theorem ParenError.exists_opener {span : Span} {isGrouped containsExpression : Bool}
    {items : List Item} {line column : Nat} {cause : Option LexError}
    (h : ParenError span isGrouped items (.unclosed line column containsExpression cause)) :
    ∃ opener ∈ items, opener.lexeme = .token (.opening .round) ∧ opener.span = span ∧
      opener.position.line = line ∧ opener.position.column = column := by
  cases h with
  | unclosed before site opens => exact ⟨_, by simp, eq_of_beq opens, site, rfl, rfl⟩
  | stuck before site opens => exact ⟨_, by simp, eq_of_beq opens, site, rfl, rfl⟩

/-! ### Messages -/

/-- That the message for an error shows the paren at `span`, and that this is the place on the line
and at the column that the error names. -/
structure ParseError.PointsAt (source : List Char) (e : ParseError) (span : Span)
    (line column : Nat) (lines front after shown returns : List Char) : Prop where
  /-- The error was found at a paren. -/
  divides : span.Divides source lines front ['('] after
  /-- That is one byte. -/
  length : span.length = 1
  /-- Its line counts the line feeds before it. -/
  line_eq : line = 1 + (lines ++ front).count '\n'
  /-- Its column counts the characters before it on its line. -/
  column_eq : column = front.length
  /-- The line is what is shown and some returns. -/
  shown_eq : front ++ '(' :: Diagram.lineOf after = shown ++ returns ∧ ∀ c ∈ returns, c = '\r'
  /-- The message shows the place in a diagram. -/
  message : e.diagnostic source = ": ".intercalate (e.chain.map text) ++ "\n\n" ++
    String.ofList (Diagram.render source span) ++ e.root.2.trailer
  /-- The diagram has that number in its gutter, and one tilde under that column. -/
  marks : Diagram.Marks (Diagram.render source span) line shown column 1
  /-- The message is rendered, if what stands before the tilde is no wider than a field may be. -/
  rendered : e.checkedDiagnostic source =
    if (Diagram.gutter line).length + column ≤ Diagram.widest then .ok (e.diagnostic source)
    else .error .tooWide

/-- **The message for a paren that is never closed names the place that it shows.** -/
theorem pointsAt_of_parse {limit line column : Nat} {source : String} {e : ParseError}
    {span : Span} {containsExpression : Bool} {cause : Option LexError}
    (h : parseWithin limit source = .error e) (last : e.chain.getLast e.chain_ne_nil =
      .plain span (.unclosed line column containsExpression cause)) :
    ∃ lines front after shown returns,
      e.PointsAt source.toList span line column lines front after shown returns := by
  rw [ParseError.getLast_chain, ParseError.plain.injEq] at last
  obtain ⟨site, root⟩ := last
  have knows := knowsParens_of_parse h
  rw [ParseError.KnowsParens, site, root] at knows
  obtain ⟨opener, mem, lexeme, rfl, rfl, rfl⟩ := (knows rfl).exists_opener
  obtain ⟨lines, front, body, after, divides, written, line, column⟩ := Item.exists_divides mem
  rw [lexeme] at written
  obtain rfl : body = ['('] := written
  have covered : Diagram.lineOf ('(' :: after) = '(' :: Diagram.lineOf after := rfl
  obtain ⟨returns, shown, hidden, -⟩ := Diagram.exists_returns (front ++ '(' :: Diagram.lineOf after)
  have marks := Diagram.marks_of_divides divides
  rw [List.singleton_append, covered, ← line, ← column] at marks
  refine ⟨lines, front, after, _, returns, divides, divides.length, line, column, ⟨shown, hidden⟩,
    ?_, marks, ?_⟩
  · rw [ParseError.diagnostic_eq, site]
  · rw [ParseError.checkedDiagnostic_eq, site, Diagram.indent_of_divides divides, line, column]

/-- `pointsAt_of_parse` for a paren in the argument of an operand, past a character of two bytes and
a line that ends with a return. -/
theorem pointsAt_of_parse_operand : ∃ e, parseWithin 8 "a\r\nλ + f (" = .error e ∧
    e.chain.getLast e.chain_ne_nil = .plain ⟨10, 1⟩ (.unclosed 2 6 false none) ∧
    ∃ lines front after shown returns,
      e.PointsAt "a\r\nλ + f (".toList ⟨10, 1⟩ 2 6 lines front after shown returns := by
  obtain ⟨e, failed, last⟩ := exists_of_error (x := parseWithin 8 "a\r\nλ + f (")
    (p := fun e => decide (e.chain.getLast e.chain_ne_nil =
      .plain ⟨10, 1⟩ (.unclosed 2 6 false none))) (by decide +kernel)
  have last := of_decide_eq_true last
  exact ⟨e, failed, last, pointsAt_of_parse failed last⟩

theorem advanceAll_indent (width : Nat) :
    Position.origin.advanceAll (List.replicate width ' ') = ⟨width, 1, width⟩ := by
  induction width with
  | zero => rfl
  | succ width ih =>
    rw [List.replicate_succ', Position.advanceAll_append, ih]
    rfl

theorem toList_indented (width : Nat) (line : String) :
    (indented width line).toList = List.replicate width ' ' ++ line.toList := by
  rw [indented, String.toList_append, String.toList_ofList]

/-- The error of a paren that nothing but spaces come before. -/
theorem parseWithin_indented_open (limit width : Nat) :
    parseWithin (limit + 1) (indented width "(") =
      .error (.plain ⟨width, 1⟩ (.unclosed 1 width false none)) := by
  have items_open : items (List.replicate width ' ' ++ "(".toList) =
      [⟨.token (.opening .round), ⟨width, 1, width⟩, 1⟩] := by
    rw [items_eq_itemsFrom, itemsFrom_indent, advanceAll_indent]
    exact (itemsFrom_open _ []).trans (congrArg _ (itemsFrom_nil _))
  rw [parseWithin, toList_indented, items_open]
  rfl

/-- For a paren past 65531 spaces there is an error but no message. -/
theorem not_rendered_of_wide_paren :
    parse (indented 65531 "(") = .error (.plain ⟨65531, 1⟩ (.unclosed 1 65531 false none)) ∧
    (ParseError.plain ⟨65531, 1⟩ (.unclosed 1 65531 false none)).checkedDiagnostic
      (indented 65531 "(").toList = .error .tooWide := by
  have wide : Diagram.indent (indented 65531 "(").toList ⟨65531, 1⟩ = 5 + 65531 := by
    rw [toList_indented]
    exact Diagram.indent_spaces 65531 ['(']
  refine ⟨parseWithin_indented_open 63 65531, ?_⟩
  rw [ParseError.checkedDiagnostic_eq, ParseError.root, wide]
  exact if_neg (by decide)

end Offside
