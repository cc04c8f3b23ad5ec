import Offside.Proofs.Continuation
import Offside.Proofs.LineEnds
import Offside.Proofs.Moved

/-!
# Rewriting the line breaks of a source

`relaid crlf width` replaces each line feed of a text by one with a carriage return before it, or
by one alone, and begins the next line with spaces.  The items up to the first lexical error stay
the same, moved to the right by so many columns (`moved_relaid`), so that

* **line endings do not matter**: with a carriage return before every line feed a source is read as
  an expression with the same text, or for errors that say the same (`report_withCrlf`);
* **indentation as a whole does not matter**: with every line indented by some spaces a source is
  read as an expression with the same text, or for errors of the same kinds (`summary_indentedBy`),
  unless in open parens some token begins a line in the first column (`inset`).
-/

namespace Offside

/-! ### Texts with other line breaks -/

/-- A line break, and spaces at the beginning of the next line. -/
def lineBreak (crlf : Bool) (width : Nat) : List Char :=
  (if crlf then ['\r', '\n'] else ['\n']) ++ List.replicate width ' '

/-- A text with every line feed replaced by such a line break. -/
def relaid (crlf : Bool) (width : Nat) (cs : List Char) : List Char :=
  cs.flatMap fun c => if c = '\n' then lineBreak crlf width else [c]

variable {crlf : Bool} {k : Nat} {c : Char} {cs xs ys : List Char} {s : Scan} {p q : Position}

theorem relaid_cons (h : c ≠ '\n') (cs : List Char) :
    relaid crlf k (c :: cs) = c :: relaid crlf k cs := by
  rw [relaid, List.flatMap_cons, if_neg h]
  rfl

theorem relaid_newline (cs : List Char) :
    relaid crlf k ('\n' :: cs) = lineBreak crlf k ++ relaid crlf k cs := by
  rw [relaid, List.flatMap_cons, if_pos rfl]
  rfl

/-- What stands before a line feed stays. -/
theorem relaid_append (line : '\n' ∉ xs) (ys : List Char) :
    relaid crlf k (xs ++ ys) = xs ++ relaid crlf k ys := by
  induction xs with
  | nil => rfl
  | cons c xs ih =>
    obtain ⟨first, others⟩ := List.ne_and_not_mem_of_not_mem_cons line
    rw [List.cons_append, relaid_cons first.symm, ih others, List.cons_append]

theorem lineEnd_lineBreak (crlf : Bool) (k : Nat) (ys : List Char) :
    LineEnd (lineBreak crlf k ++ ys) := by
  cases crlf with
  | false => exact .newline _
  | true => exact .crlf _

/-- A text is a line and what ends it, and so it is with other line breaks. -/
theorem exists_line (crlf : Bool) (k : Nat) (cs : List Char) : ∃ line rest rest',
    cs = line ++ rest ∧ relaid crlf k cs = line ++ rest' ∧ LineEnd rest ∧ LineEnd rest' := by
  induction cs with
  | nil => exact ⟨[], [], [], rfl, rfl, .nil, .nil⟩
  | cons c cs ih =>
    by_cases newline : c = '\n'
    · subst newline
      exact ⟨[], _, _, rfl, relaid_newline cs, .newline cs, lineEnd_lineBreak crlf k _⟩
    · obtain ⟨line, rest, rest', split, split', ends, ends'⟩ := ih
      refine ⟨c :: line, rest, rest', by rw [split, List.cons_append], ?_, ends, ends'⟩
      rw [relaid_cons newline, split', List.cons_append]

/-! ### Scans -/

theorem scan_relaid_of_blank (h : scan c cs = none) : scan c (relaid crlf k cs) = none := by
  obtain ⟨blank, newline⟩ := blank_of_scan_eq_none h
  have apart : ¬(c = '\r' ∧ (relaid crlf k cs).head? = some '\n') := by
    rintro ⟨rfl, next⟩
    cases cs with
    | nil => cases next
    | cons d cs =>
      have other : d ≠ '\n' := by
        rintro rfl
        simp [scan] at h
      rw [relaid_cons other, List.head?_cons, Option.some_inj] at next
      exact other next
  rw [scan, if_neg newline, if_neg apart, if_pos blank]

/-- **A scan that makes no line break is alike with other line breaks.** -/
theorem scan_relaid (crlf : Bool) (k : Nat) (h : scan c cs = some s)
    (solid : s.lexeme ≠ .token .newline) :
    ∃ s', scan c (relaid crlf k cs) = some s' ∧ s.Alike s' := by
  obtain ⟨line, rest, rest', rfl, split, ends, ends'⟩ := exists_line crlf k cs
  rw [split]
  exact scan_congr h ends ends' solid

theorem ne_newline_of_scan (h : scan c cs = some s) (solid : s.lexeme ≠ .token .newline) :
    c ≠ '\n' := by
  rintro rfl
  simp only [scan, if_true, Option.some.injEq] at h
  subst h
  exact solid rfl

/-- A token that is no line break is taken from one line. -/
theorem newline_not_mem_consumed {t : Token} (h : scan c cs = some s)
    (lexeme : s.lexeme = .token t) (solid : t ≠ .newline) : '\n' ∉ s.consumed := by
  rw [Scan.consumed, lead_of_token h lexeme, List.nil_append]
  exact newline_not_mem_body h lexeme solid

/-- Past a line break the next line begins. -/
theorem advanceAll_of_newline (h : scan c cs = some s) (newline : s.lexeme = .token .newline)
    (p : Position) :
    (p.advanceAll s.consumed).column = 0 ∧ (p.advanceAll s.consumed).line = p.line + 1 := by
  rcases newline_of_scan h newline with ⟨-, rfl⟩ | ⟨-, -, rfl⟩
  · exact ⟨rfl, rfl⟩
  · exact ⟨rfl, rfl⟩

/-- A line break makes one item. -/
theorem itemsFrom_lineBreak (crlf : Bool) (k : Nat) (p : Position) (ys : List Char) :
    ∃ nl q, nl.lexeme = .token .newline ∧ q.column = k ∧ q.line = p.line + 1 ∧
      itemsFrom p (lineBreak crlf k ++ ys) = nl :: itemsFrom q ys := by
  have spaces : ∀ q : Position, q.column = 0 → q.line = p.line + 1 →
      ∃ r : Position, r.column = k ∧ r.line = p.line + 1 ∧
        itemsFrom q (List.replicate k ' ' ++ ys) = itemsFrom r ys := by
    intro q column line
    refine ⟨_, ?_, ?_, itemsFrom_indent q k ys⟩
    · rw [column_indent, column, Nat.zero_add]
    · rw [Position.line_advanceAll q (by simp), line]
  cases crlf with
  | false =>
    obtain ⟨r, column, line, same⟩ := spaces (p.advance '\n') rfl rfl
    exact ⟨_, r, rfl, column, line, itemsFrom_newline.trans (congrArg _ same)⟩
  | true =>
    have pair : scan '\r' ('\n' :: (List.replicate k ' ' ++ ys)) =
        some (.token .newline ['\r', '\n']) := by
      simp [scan]
    obtain ⟨r, column, line, same⟩ := spaces (p.advanceAll ['\r', '\n']) rfl rfl
    exact ⟨_, r, rfl, column, line, (itemsFrom_of_scan pair rfl).trans (congrArg _ same)⟩

/-- A line break with a carriage return more makes one item as well. -/
theorem itemsFrom_return_lineBreak (crlf : Bool) (k : Nat) (p : Position) (ys : List Char) :
    ∃ nl q, nl.lexeme = .token .newline ∧ q.column = k ∧ q.line = p.line + 1 ∧
      itemsFrom p ('\r' :: (lineBreak crlf k ++ ys)) = nl :: itemsFrom q ys := by
  cases crlf with
  | false => exact itemsFrom_lineBreak true k p ys
  | true =>
    have blank : scan '\r' (lineBreak true k ++ ys) = none := by
      simp [scan, lineBreak, show Unicode.isBlank '\r' = true by decide]
    rw [itemsFrom_of_blank blank]
    exact itemsFrom_lineBreak true k (p.advance '\r') ys

theorem itemsFrom_relaid_of_newline (h : scan c cs = some s)
    (newline : s.lexeme = .token .newline) (split : s.consumed ++ ys = c :: cs) (crlf : Bool)
    (k : Nat) (p : Position) : ∃ nl q, nl.lexeme = .token .newline ∧ q.column = k ∧
      q.line = p.line + 1 ∧
      itemsFrom p (relaid crlf k (c :: cs)) = nl :: itemsFrom q (relaid crlf k ys) := by
  rcases newline_of_scan h newline with ⟨rfl, rfl⟩ | ⟨rfl, -, rfl⟩
  · obtain rfl : ys = cs := (List.cons.inj split).2
    rw [relaid_newline]
    exact itemsFrom_lineBreak crlf k p _
  · obtain rfl : '\n' :: ys = cs := (List.cons.inj split).2
    rw [relaid_cons (by decide), relaid_newline]
    exact itemsFrom_return_lineBreak crlf k p _

/-! ### Items -/

/-- Whether an item is a token. -/
def Item.isToken (item : Item) : Bool :=
  match item.lexeme with
  | .token _ => true
  | .error _ => false

/-- Whether no token in open parens stands in the first column, where `depth` parens are open before
the items.  Trivia and closing parens may, and after a paren that closes nothing anything. -/
def inset (depth : Nat) : List Item → Bool
  | [] => true
  | item :: items =>
    (depth == 0 || item.column != 0 || item.isTrivia || item.isClose || !item.isToken) &&
      (parens depth item).all fun depth => inset depth items

theorem sheltered_of_inset {depth : Nat} {item : Item} {items : List Item}
    (h : inset depth (item :: items) = true) (solid : item.isTrivia = false) :
    item.Sheltered depth := by
  intro open' flush
  rw [inset, Bool.and_eq_true_iff] at h
  have error : item.isClose = true ∨ item.isToken = false := by
    have shallow : depth ≠ 0 := by omega
    simpa [shallow, flush, solid] using h.1
  refine error.imp_right fun error => ?_
  cases lexeme : item.lexeme with
  | token t => simp [Item.isToken, lexeme] at error
  | error c => exact ⟨c, rfl⟩

theorem inset_tail {depth after : Nat} {item : Item} {items : List Item}
    (h : inset depth (item :: items) = true) (past : parens depth item = some after) :
    inset after items = true := by
  rw [inset, Bool.and_eq_true_iff, past] at h
  exact h.2

/-- **The items of a text are those with other line breaks, moved to the right**, if the text begins
so many columns further left and its tokens in open parens are not in the first column. -/
theorem moved_relaid {d : Detail} {depth : Nat} (column : q.column = p.column + k)
    (line : d = .texts → p.line = q.line) (hinset : k = 0 ∨ inset depth (itemsFrom p cs) = true) :
    Moved .erase .erase d k depth (itemsFrom p cs) (itemsFrom q (relaid crlf k cs)) ∧
      Spaced d (itemsFrom p cs) (itemsFrom q (relaid crlf k cs)) := by
  induction cs using scan_induction generalizing p q depth with
  | nil =>
    rw [relaid, List.flatMap_nil, itemsFrom_nil, itemsFrom_nil]
    exact ⟨.nil rfl rfl, .nil⟩
  | blank c cs hs ih =>
    have newline := (blank_of_scan_eq_none hs).2
    rw [itemsFrom_of_blank hs] at hinset ⊢
    rw [relaid_cons newline, itemsFrom_of_blank (scan_relaid_of_blank hs)]
    refine ih ?_ (fun texts => ?_) hinset
    · rw [Position.advance_of_ne_newline p newline, Position.advance_of_ne_newline q newline]
      show q.column + 1 = p.column + 1 + k
      omega
    · rw [Position.advance_of_ne_newline p newline, Position.advance_of_ne_newline q newline]
      exact line texts
  | item c cs s after hs split ih =>
    rw [itemsFrom_of_scan hs split.symm] at hinset ⊢
    generalize hx : Rest.itemOf p s = x at hinset ⊢
    have said : x.lexeme = s.lexeme := by rw [← hx]; rfl
    have start : x.position = p.advanceAll s.lead := by rw [← hx]; rfl
    have lead := newline_not_mem_lead hs
    have sheltered : x.isTrivia = false → k = 0 ∨ x.Sheltered depth := fun solid =>
      hinset.imp_right fun h => sheltered_of_inset h solid
    by_cases newline : s.lexeme = .token .newline
    · -- Past the line break the second text is indented.
      obtain ⟨nl, r, hnl, column', line', right⟩ :=
        itemsFrom_relaid_of_newline hs newline split crlf k q
      obtain ⟨column₀, line₀⟩ := advanceAll_of_newline hs newline p
      have trivia : x.isTrivia = true := Item.isTrivia_of_newline (said.trans newline)
      rw [right]
      refine Moved.cons_cons ⟨(said.trans newline).trans hnl.symm, rfl⟩ ?_ ?_ sheltered
        fun t after' lexeme past => ih (by omega) (fun texts => ?_)
          (hinset.imp_right fun h => inset_tail h past)
      · simp [trivia]
      · simp [trivia]
      · rw [line₀, line', line texts]
    · obtain ⟨s', scanned, alike⟩ := scan_relaid crlf k hs newline
      obtain ⟨after', split'⟩ := scan_isPrefix scanned
      have first := ne_newline_of_scan hs newline
      rw [relaid_cons first, itemsFrom_of_scan scanned split'.symm]
      have start' : (Rest.itemOf q s').position = q.advanceAll s.lead := by rw [alike.lead]; rfl
      refine Moved.cons_cons ⟨said.trans alike.lexeme, rfl⟩ (fun _ => ?_) (fun _ texts => ?_)
        sheltered fun t inside lexeme past => ?_
      · rw [Item.column, Item.column, start, start', Position.column_advanceAll _ lead,
          Position.column_advanceAll _ lead]
        omega
      · rw [start, start', Position.line_advanceAll _ lead, Position.line_advanceAll _ lead,
          line texts]
      · -- Past a token both texts go on with the same line.
        have token : s.lexeme = .token t := said ▸ lexeme
        obtain rfl := alike.eq_of_token t token
        have whole := newline_not_mem_consumed hs token fun h => newline (h ▸ token)
        obtain rfl : after' = relaid crlf k after := by
          rw [← relaid_cons first, ← split, relaid_append whole] at split'
          exact List.append_cancel_left split'
        refine ih ?_ (fun texts => ?_) (hinset.imp_right fun h => inset_tail h past)
        · rw [Position.column_advanceAll _ whole, Position.column_advanceAll _ whole]
          omega
        · rw [Position.line_advanceAll _ whole, Position.line_advanceAll _ whole, line texts]

/-! ### Line endings -/

/-- A source with a carriage return put before every line feed. -/
def withCrlf (source : String) : String :=
  String.ofList (source.toList.flatMap fun c => if c = '\n' then ['\r', '\n'] else [c])

/-- What is said of a source that is read or not, in full: the text of the expression, or the kinds
and the texts of the error and its causes. -/
def report : Except ParseError Expr → Except (List (String × String)) String
  | .ok e => .ok e.toText
  | .error e => .error (e.chain.map fun e => (e.kind, e.text))

theorem Parsed.Agrees.report_eq {f g : SpanMap} {r r' : Except ParseError Expr}
    (h : Agrees f g .texts r r') : report r = report r' := by
  cases h with
  | ok like => exact congrArg Except.ok (Expr.toText_eq_of_mapSpans_eq like)
  | error agrees => exact congrArg Except.error agrees.texts

/-- **Line endings do not matter.**  A source with a carriage return put before every line feed,
whether or not one is there, is read as an expression with the same text, or for an error whose
chain is of the same kinds and texts. -/
theorem report_withCrlf (limit : Nat) (source : String) :
    report (parseWithin limit (withCrlf source)) = report (parseWithin limit source) := by
  have text : (withCrlf source).toList = relaid true 0 source.toList := String.toList_ofList
  have moved : Moved .erase .erase .texts 0 0 (items source.toList)
      (items (relaid true 0 source.toList)) :=
    (moved_relaid rfl (fun _ => rfl) (.inl rfl)).1
  rw [parseWithin, parseWithin, text]
  exact (moved.parseItems_agrees rfl fun _ => rfl).report_eq.symm

/-! ### Indentation -/

/-- A source with every line moved to the right by some spaces. -/
def indentedBy (width : Nat) (source : String) : String :=
  String.ofList (List.replicate width ' ' ++ source.toList.flatMap fun c =>
    if c = '\n' then '\n' :: List.replicate width ' ' else [c])

/-- **Indentation as a whole does not matter.**  If in open parens no token begins a line in the
first column, other than closing parens, a source with every line moved to the right is read as an
expression with the same text, or for an error whose chain is of the same kinds. -/
theorem summary_indentedBy {source : String} (hinset : inset 0 (items source.toList) = true)
    (limit width : Nat) :
    summary (parseWithin limit (indentedBy width source)) = summary (parseWithin limit source) := by
  have text : (indentedBy width source).toList =
      List.replicate width ' ' ++ relaid false width source.toList := String.toList_ofList
  have start : (Position.origin.advanceAll (List.replicate width ' ')).column =
      Position.origin.column + width := column_indent .origin width
  have moved : Moved .erase .erase .kinds width 0 (items source.toList)
      (items (List.replicate width ' ' ++ relaid false width source.toList)) := by
    rw [items_eq_itemsFrom (_ ++ _), itemsFrom_indent]
    exact (moved_relaid (d := .kinds) start (by simp) (.inr hinset)).1
  rw [parseWithin, parseWithin, text]
  exact (moved.parseItems_agrees rfl (by simp)).summary_eq.symm

/-- `summary_indentedBy` for a group that is closed at the beginning of a line. -/
theorem summary_indentedBy_group : ∃ e e',
    parseWithin 8 (indentedBy 3 "f (\n  let x = 1\n  x\n) y\nz") = .ok e ∧
      parseWithin 8 "f (\n  let x = 1\n  x\n) y\nz" = .ok e' ∧ e.toText = e'.toText := by
  obtain ⟨e, h, -⟩ := exists_of_any (p := fun _ => true)
    (x := parseWithin 8 (indentedBy 3 "f (\n  let x = 1\n  x\n) y\nz")) (by decide +kernel)
  obtain ⟨e', h', -⟩ := exists_of_any (p := fun _ => true)
    (x := parseWithin 8 "f (\n  let x = 1\n  x\n) y\nz") (by decide +kernel)
  have same : summary (parseWithin 8 (indentedBy 3 "f (\n  let x = 1\n  x\n) y\nz")) =
      summary (parseWithin 8 "f (\n  let x = 1\n  x\n) y\nz") :=
    summary_indentedBy (by decide +kernel) 8 3
  rw [h, h'] at same
  exact ⟨e, e', h, h', Except.ok.inj same⟩

end Offside
