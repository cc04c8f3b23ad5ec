import Mathlib.Data.List.Forall2
import Offside.Proofs.Lexing
import Offside.Proofs.Parens
import Offside.Proofs.Runs

/-!
# The tokens of an expression

An expression knows its tokens, in order and with the offsets that its nodes carry
(`Expr.yield`).  Reading loses none, makes up none and changes no order: what an expression
yields is what was read for it, without the parens that only group (`faithful_of_derivable`).  So
a source that is read has no lexical error, its parens are balanced, and the yield of the result
is the list of its significant items without grouping parens (`yield_parse`).
-/

namespace Offside

/-! ### Yields -/

/-- A token of an expression, and what the expression knows of its place. -/
structure Mark where
  /-- The token. -/
  token : Token
  /-- The offset of its first byte. -/
  start : Option Nat
  /-- The offset past its last byte. -/
  stop : Option Nat
  deriving DecidableEq

namespace Mark

/-- The mark of a token whose span is known. -/
def within (token : Token) (span : Span) : Mark := ⟨token, some span.start, some span.stop⟩

/-- Whether an item is the token of a mark, at its place. -/
def Describes (mark : Mark) (item : Item) : Prop :=
  item.lexeme = .token mark.token ∧ (∀ n ∈ mark.start, item.span.start = n) ∧
    ∀ n ∈ mark.stop, item.span.stop = n

theorem describes_within {item : Item} {t : Token} (h : item.lexeme = .token t) :
    (within t item.span).Describes item :=
  ⟨h, by simp [within], by simp [within]⟩

end Mark

mutual

/-- The tokens of an expression, in order.  The unit literal yields both its parens, and a
declaration its keyword, its name and its sign before its value. -/
def Expr.yield : Expr → List Mark
  | .name span spelling => [.within (.name spelling) span]
  | .unit span =>
    [⟨.opening .round, some span.start, none⟩, ⟨.closing .round, none, some span.stop⟩]
  | .number span spelling => [.within (.number spelling) span]
  | .text span value => [.within (.text value) span]
  | .bool span value => [.within (.bool value) span]
  | .block _ statements => yieldAll statements
  | .declaration span keyword bound boundSpan value =>
    ⟨.keyword keyword, some span.start, none⟩ :: .within (.name bound) boundSpan ::
      ⟨.operator "=", none, none⟩ :: value.yield
  | .binary _ operator operatorSpan left right =>
    left.yield ++ .within (.operator operator.symbol) operatorSpan :: right.yield
  | .apply _ _ _ function argument => function.yield ++ argument.yield

/-- The tokens of statements, in order. -/
def Expr.yieldAll : List Expr → List Mark
  | [] => []
  | statement :: statements => statement.yield ++ yieldAll statements

end

namespace Expr

theorem yieldAll_append (es fs : List Expr) : yieldAll (es ++ fs) = yieldAll es ++ yieldAll fs := by
  induction es with
  | nil => rfl
  | cons e es ih => rw [List.cons_append, yieldAll, yieldAll, ih, List.append_assoc]

theorem yieldAll_statements (e : Expr) : yieldAll e.statements = e.yield := by
  cases e <;> simp [statements, yieldAll, yield]

theorem yield_sequence (e : Expr) (es : List Expr) :
    (e.sequence es).yield = e.yield ++ yieldAll es := by
  cases es with
  | nil => exact (List.append_nil _).symm
  | cons f fs => rw [sequence, yield, yieldAll]

theorem yield_infixed (left right : Expr) (op : Operator) (span : Span) :
    (left.infixed op span right).yield =
      left.yield ++ .within (.operator op.symbol) span :: right.yield := by
  rw [infixed, yield]

theorem yield_applied (function argument : Expr) :
    (function.applied argument).yield = function.yield ++ argument.yield := by
  rw [applied, yield]

end Expr

/-! ### What is read is what is yielded -/

/-- The significant items `ts` are tokens whose parens are balanced, and the marks describe them
in order but for grouping parens. -/
structure Faithful (marks : List Mark) (ts : List Item) : Prop where
  /-- There is no lexical error. -/
  token : ∀ item ∈ ts, ∃ t, item.lexeme = .token t
  /-- Every paren has its partner. -/
  balanced : Balanced ts
  /-- The marks are the tokens. -/
  described : List.Forall₂ Mark.Describes marks (ungrouped ts)

namespace Faithful

theorem nil : Faithful [] [] :=
  ⟨List.forall_mem_nil _, rfl, .nil⟩

theorem ne_nil {marks : List Mark} {ts : List Item} (h : Faithful marks ts) (hm : marks ≠ []) :
    ts ≠ [] := by
  rintro rfl
  cases h.described
  exact hm rfl

theorem append {ms ns : List Mark} {ts us : List Item} (h : Faithful ms ts)
    (h' : Faithful ns us) : Faithful (ms ++ ns) (ts ++ us) := by
  refine ⟨List.forall_mem_append.2 ⟨h.token, h'.token⟩, h.balanced.append h'.balanced, ?_⟩
  rw [ungrouped_append h.balanced.getLast_not_isOpen]
  exact List.rel_append h.described h'.described

theorem single {mark : Mark} {item : Item} (h : mark.Describes item)
    (hp : item.isParen = false) : Faithful [mark] [item] := by
  refine ⟨List.forall_mem_singleton.2 ⟨_, h.1⟩, .of_not_isParen hp, ?_⟩
  simp [ungrouped, hp, h]

theorem cons {mark : Mark} {item : Item} {ms : List Mark} {ts : List Item}
    (h : mark.Describes item) (hp : item.isParen = false) (h' : Faithful ms ts) :
    Faithful (mark :: ms) (item :: ts) :=
  (single h hp).append h'

theorem unit {m n : Mark} {opener close : Item} (hm : m.Describes opener)
    (hn : n.Describes close) (ho : opener.isOpen = true) (hc : close.isClose = true) :
    Faithful [m, n] [opener, close] := by
  have empty : Balanced [] := rfl
  refine ⟨?_, empty.group ho hc, ?_⟩
  · simp [hm.1, hn.1]
  · simp [ungrouped, ho, hc, hm, hn]

theorem group {ms : List Mark} {ts : List Item} {opener close : Item} (h : Faithful ms ts)
    (hne : ms ≠ []) (ho : opener.isOpen = true) (hc : close.isClose = true) :
    Faithful ms (opener :: (ts ++ [close])) := by
  refine ⟨?_, h.balanced.group ho hc, ?_⟩
  · rw [Item.isOpen, beq_iff_eq] at ho
    rw [Item.isClose, beq_iff_eq] at hc
    simpa [ho, hc, or_imp, forall_and] using h.token
  · rw [ungrouped_group ho hc h.balanced (h.ne_nil hne)]
    exact h.described

end Faithful

theorem Item.yield_of_leaf {item : Item} {e : Expr} (h : item.first = .leaf e) :
    ∃ t, item.lexeme = .token t ∧ e.yield = [.within t item.span] := by
  obtain ⟨t, lexeme, leaf⟩ := fits_of_first h
  cases t <;> cases leaf <;> exact ⟨_, lexeme, by rw [Expr.yield]⟩

/-- That what is read is what is yielded. -/
def Judgement.Yields : Judgement → Prop
  | expression _ _ used _ e => e.yield ≠ [] ∧ Faithful e.yield (solid used)
  | extension _ _ lhs used _ e =>
    ∃ marks, e.yield = lhs.yield ++ marks ∧ Faithful marks (solid used)
  | statements _ _ _ used _ es => Faithful (Expr.yieldAll es) (solid used)
  | block _ _ _ used _ e => e.yield ≠ [] ∧ Faithful e.yield (solid used)

/-- **What is read for an expression is what it yields**, whichever part of the parser reads
it. -/
theorem faithful_of_derivable {j : Judgement} (h : Derivable j)
    (order : j.items.IsChain Item.Precedes) : j.Yields := by
  induction h with
  | stop => exact ⟨[], (List.append_nil _).symm, .nil⟩
  | comment lexeme next ih =>
    obtain ⟨ms, he, hf⟩ := ih order.tail
    exact ⟨ms, he, by rwa [solid_cons_of_trivia (Item.isTrivia_of_comment lexeme)]⟩
  | continuation lexeme continues next ih =>
    obtain ⟨ms, he, hf⟩ := ih order.tail
    refine ⟨ms, he, ?_⟩
    rwa [solid_cons_of_trivia (Item.isTrivia_of_newline lexeme)]
  | @operator _ _ lhs rhs e item symbol used₁ used₂ rest lexeme accepted right next ihr ihn =>
    obtain ⟨-, hr⟩ := ihr (order.suffix Judgement.suffix_operand)
    obtain ⟨ms, he, hf⟩ := ihn (order.suffix Judgement.suffix_next)
    refine ⟨.within (.operator symbol) item.span :: (rhs.yield ++ ms), ?_, ?_⟩
    · rw [he, Expr.yield_infixed, List.append_assoc]
      rfl
    · rw [solid_cons (Item.not_isTrivia_of_lexeme lexeme (by simp) (by simp)), solid_append]
      exact .cons (Mark.describes_within lexeme)
        (Item.not_isParen_of_lexeme lexeme (by simp) (by simp)) (hr.append hf)
  | @argument _ _ lhs rhs e item used₁ used₂ rest follow accepted right next ihr ihn =>
    obtain ⟨-, hr⟩ := ihr (order.suffix Judgement.suffix_argument)
    obtain ⟨ms, he, hf⟩ := ihn (order.suffix Judgement.suffix_next)
    refine ⟨rhs.yield ++ ms, ?_, ?_⟩
    · rw [he, Expr.yield_applied, List.append_assoc]
    · rw [← List.cons_append, solid_append]
      exact hr.append hf
  | leadingComment lexeme next ih =>
    rw [Judgement.Yields, solid_cons_of_trivia (Item.isTrivia_of_comment lexeme)]
    exact ih order.tail
  | leadingNewline lexeme stays next ih =>
    rw [Judgement.Yields, solid_cons_of_trivia (Item.isTrivia_of_newline lexeme)]
    exact ih order.tail
  | leaf first next ih =>
    obtain ⟨ms, he, hf⟩ := ih order.tail
    obtain ⟨t, ht, hy⟩ := Item.yield_of_leaf first
    rw [Judgement.Yields, he, hy, solid_cons (Item.not_isTrivia_of_leaf first)]
    exact ⟨by simp, .cons (Mark.describes_within ht) (Item.not_isParen_of_leaf first) hf⟩
  | @unit _ _ e opener close used rest opens closes next ih =>
    obtain ⟨ms, he, hf⟩ := ih order.tail.tail
    -- The span of the literal ends with its second paren, since the parens come in order.
    have before := (List.isChain_cons_cons.1 order).1.stop_le
    have stop : (opener.span.through close.span).stop = close.span.stop := by
      rw [Span.stop_through]
      simp only [Span.stop] at before ⊢
      omega
    rw [Judgement.Yields, he, solid_cons (Item.not_isTrivia_of_lexeme opens (by simp) (by simp)),
      solid_cons (Item.not_isTrivia_of_lexeme closes (by simp) (by simp)), Expr.yield]
    refine ⟨by simp, Faithful.append (.unit ⟨opens, ?_, ?_⟩ ⟨closes, ?_, ?_⟩ ?_ ?_) hf⟩
    · simp
    · simp
    · simp
    · simp [stop]
    · simp [Item.isOpen, opens]
    · simp [Item.isClose, closes]
  | @group _ _ inner e opener close body skipped used rest opens content trivia closes next ihc
      ihn =>
    obtain ⟨hne, hb⟩ := ihc (order.suffix Judgement.suffix_body)
    obtain ⟨ms, he, hf⟩ := ihn (order.suffix Judgement.suffix_past_group)
    -- Only the parens and what is between them are of note: what the block leaves is trivia.
    have items : solid (opener :: (body ++ (skipped ++ close :: used))) =
        opener :: (solid body ++ [close]) ++ solid used := by
      rw [solid_cons (Item.not_isTrivia_of_lexeme opens (by simp) (by simp)), solid_append,
        solid_append, solid_eq_nil_iff.2 trivia,
        solid_cons (Item.not_isTrivia_of_lexeme closes (by simp) (by simp))]
      simp
    rw [Judgement.Yields, he, items]
    exact ⟨by simp [hne], (hb.group hne (Item.isOpen_of_opening opens)
      (Item.isClose_of_closing closes)).append hf⟩
  | @declaration _ _ value item bound sign first word name skipped used rest lexeme statement
      named assigned trivia solid' indented content ih =>
    obtain ⟨-, hv⟩ := ih (order.suffix Judgement.suffix_value)
    rw [Judgement.Yields, Expr.yield,
      solid_cons (Item.not_isTrivia_of_lexeme lexeme (by simp) (by simp)),
      solid_cons (Item.not_isTrivia_of_lexeme named (by simp) (by simp)),
      solid_cons (Item.not_isTrivia_of_lexeme assigned (by simp) (by simp)), solid_append,
      solid_eq_nil_iff.2 trivia, List.nil_append]
    refine ⟨by simp, .cons ⟨lexeme, by simp, by simp⟩ ?_ (.cons (Mark.describes_within named) ?_
      (.cons ⟨assigned, by simp, by simp⟩ ?_ hv))⟩
    · exact Item.not_isParen_of_lexeme lexeme (by simp) (by simp)
    · exact Item.not_isParen_of_lexeme named (by simp) (by simp)
    · exact Item.not_isParen_of_lexeme assigned (by simp) (by simp)
  | finish => exact .nil
  | @statement _ _ _ e es first skipped used₁ used₂ rest trivia _ deep content others ihc iho =>
    obtain ⟨-, hc⟩ := ihc (order.suffix Judgement.suffix_statement)
    have ho := iho (order.suffix Judgement.suffix_others)
    rw [Judgement.Yields, Expr.yieldAll_append, Expr.yieldAll_statements, solid_append,
      solid_eq_nil_iff.2 trivia, List.nil_append, ← List.cons_append, solid_append]
    exact hc.append ho
  | @block _ _ _ e es used₁ used₂ rest first others ihf iho =>
    obtain ⟨hne, hf⟩ := ihf (order.suffix Judgement.suffix_block_first)
    have ho := iho (order.suffix Judgement.suffix_block_others)
    rw [Judgement.Yields, Expr.yield_sequence, solid_append]
    exact ⟨by simp [hne], hf.append ho⟩

/-! ### Whole sources -/

theorem isChain_items (source : List Char) : (items source).IsChain Item.Precedes :=
  (lexes_items source).isChain

/-- **No token is lost, made up or moved.**  A source that is read has no lexical error, its
parens are balanced, and the result yields its significant items without grouping parens; it is
the empty block if and only if there are none. -/
theorem yield_parse {limit : Nat} {source : String} {e : Expr}
    (h : parseWithin limit source = .ok e) :
    (∀ item ∈ items source.toList, ∃ t, item.lexeme = .token t) ∧
      Balanced (solid (items source.toList)) ∧
      List.Forall₂ Mark.Describes e.yield (ungrouped (solid (items source.toList))) ∧
      ((∃ span, e = .block span []) ↔ solid (items source.toList) = []) := by
  have token : ∀ {its : List Item}, (∀ item ∈ solid its, ∃ t, item.lexeme = .token t) →
      ∀ item ∈ its, ∃ t, item.lexeme = .token t := by
    intro its hs item hi
    by_cases ht : item.isTrivia = true
    · exact Item.token_of_trivia ht
    · exact hs item (List.mem_filter.2 ⟨hi, by simpa using ht⟩)
  rcases derivable_of_parse h with ⟨hs, rfl⟩ | ⟨used, rest, hu, hrest, hd⟩
  · have none : solid (items source.toList) = [] :=
      solid_eq_nil_iff.2 (significant_eq_nil_iff.1 hs)
    rw [none]
    refine ⟨token (by simp [none]), rfl, ?_, by simp⟩
    rw [Expr.yield, Expr.yieldAll]
    exact .nil
  · obtain ⟨hne, hf⟩ := faithful_of_derivable hd
      (by rw [Judgement.items, ← hu]; exact isChain_items _)
    have all : solid (items source.toList) = solid used := by
      rw [hu, solid_append, solid_eq_nil_iff.2 (significant_eq_nil_iff.1 hrest), List.append_nil]
    rw [all]
    refine ⟨token (by rw [all]; exact hf.token), hf.balanced, hf.described, ?_, ?_⟩
    · rintro ⟨span, rfl⟩
      exact absurd (by rw [Expr.yield, Expr.yieldAll]) hne
    · exact fun hs => absurd hs (hf.ne_nil hne)

/-- `yield_parse` for a group over two lines, a unit literal and a comment. -/
theorem yield_parse_group : ∃ e, parseWithin 8 "f (a\nb) () // c" = .ok e ∧
    Balanced (solid (items "f (a\nb) () // c".toList)) ∧
    List.Forall₂ Mark.Describes e.yield (ungrouped (solid (items "f (a\nb) () // c".toList))) := by
  obtain ⟨e, h, -⟩ := exists_of_any (x := parseWithin 8 "f (a\nb) () // c")
    (p := fun _ => true) (by decide +kernel)
  obtain ⟨-, balanced, described, -⟩ := yield_parse h
  exact ⟨e, h, balanced, described⟩

end Offside
