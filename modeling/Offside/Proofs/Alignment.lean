import Offside.Proofs.Declared
import Offside.Proofs.Lines

/-!
# Where the statements of a block begin

The first statement of a block stands at the level of the block, and one that follows an
expression does, too: further right the expression would go on, and further left the block would
end.  One that follows a declaration is not held to the level: the value of the declaration ends
left of where it began, which may be anywhere to the right of the keyword.

Without parens that is the only way out of line: the statements of every block begin at one column
if and only if every declaration is followed by an item at or to the left of its keyword
(`aligned_iff_returns`).
-/

namespace Offside

/-- Whether the statements of a block begin at one column; `column` is that of an offset. -/
def Expr.AlignedBy (column : Nat → Nat) : Expr → Prop
  | .block _ statements => ∀ s ∈ statements, ∀ t ∈ statements,
    column s.span.start = column t.span.start
  | _ => True

instance (column : Nat → Nat) : DecidablePred (Expr.AlignedBy column)
  | .block _ statements => inferInstanceAs (Decidable (∀ s ∈ statements, ∀ t ∈ statements,
      column s.span.start = column t.span.start))
  | .name .. | .unit .. | .number .. | .text .. | .bool .. | .declaration .. | .binary ..
  | .apply .. => .isTrue trivial

/-- Whether the item that ends the value of a declaration stands at or to the left of the
keyword. -/
def Expr.ReturnsIn (items : List Item) : Expr → Prop
  | .declaration span word spelling nameSpan value => ∃ keyword first tail,
    Declares items (.declaration span word spelling nameSpan value) keyword first tail ∧
      ∀ next ∈ (cut first.column .outer (first :: tail)).2.head?, next.column ≤ keyword.column
  | _ => True

/-- An expression without blocks and declarations. -/
def Expr.IsSimple (e : Expr) : Prop :=
  ∀ node ∈ e.nodes, node.isDeclaration = false ∧ node.isBlock = false

namespace Expr

theorem alignedBy_of_not_isBlock {e : Expr} (h : e.isBlock = false) (column : Nat → Nat) :
    e.AlignedBy column := by
  cases e with
  | block => cases h
  | _ => trivial

theorem returnsIn_of_not_isDeclaration {e : Expr} (h : e.isDeclaration = false)
    (items : List Item) : e.ReturnsIn items := by
  cases e with
  | declaration => cases h
  | _ => trivial

/-- All nodes of an expression return if it does itself and all inside it do. -/
theorem returns_iff {e : Expr} {items : List Item} :
    (∀ node ∈ e.nodes, node.ReturnsIn items) ↔
      e.ReturnsIn items ∧ ∀ node ∈ e.nodes.tail, node.ReturnsIn items := by
  rw [nodes_eq_cons, List.forall_mem_cons, List.tail_cons]

namespace IsSimple

theorem not_isBlock {e : Expr} (h : e.IsSimple) : e.isBlock = false := (h e e.mem_nodes_self).2

theorem alignedBy {e : Expr} (h : e.IsSimple) (column : Nat → Nat) :
    ∀ node ∈ e.nodes, node.AlignedBy column :=
  fun node hn => alignedBy_of_not_isBlock (h node hn).2 column

theorem returnsIn {e : Expr} (h : e.IsSimple) (items : List Item) :
    ∀ node ∈ e.nodes, node.ReturnsIn items :=
  fun node hn => returnsIn_of_not_isDeclaration (h node hn).1 items

theorem of_leaf {item : Item} {e : Expr} (h : item.first = .leaf e) : e.IsSimple := by
  obtain ⟨t, -, leaf⟩ := Item.fits_of_first h
  cases t <;> cases leaf <;> simp [IsSimple, nodes, isDeclaration, isBlock]

theorem infixed {left right : Expr} (hl : left.IsSimple) (hr : right.IsSimple) (op : Operator)
    (span : Span) : (left.infixed op span right).IsSimple := by
  intro node hn
  rw [nodes_infixed, List.mem_cons, List.mem_append] at hn
  rcases hn with rfl | hn | hn
  · exact ⟨rfl, rfl⟩
  · exact hl node hn
  · exact hr node hn

theorem applied {function argument : Expr} (hf : function.IsSimple) (ha : argument.IsSimple) :
    (function.applied argument).IsSimple := by
  intro node hn
  rw [nodes_applied, List.mem_cons, List.mem_append] at hn
  rcases hn with rfl | hn | hn
  · exact ⟨rfl, rfl⟩
  · exact hf node hn
  · exact ha node hn

end IsSimple

theorem alignedBy_block_iff {e : Expr} {es : List Expr} {span : Span} {column : Nat → Nat} :
    (block span (e :: es)).AlignedBy column ↔
      ∀ s ∈ es, column s.span.start = column e.span.start := by
  constructor
  · exact fun h s hs => h s (List.mem_cons_of_mem e hs) e List.mem_cons_self
  · intro h
    have all : ∀ s ∈ e :: es, column s.span.start = column e.span.start :=
      List.forall_mem_cons.2 ⟨rfl, h⟩
    exact fun s hs t ht => (all s hs).trans (all t ht).symm

/-- A sequence is in line if its statements begin where the first does and are in line. -/
theorem aligned_sequence_iff {e : Expr} {es : List Expr} {column : Nat → Nat} :
    (∀ node ∈ (e.sequence es).nodes, node.AlignedBy column) ↔
      (∀ node ∈ e.nodes, node.AlignedBy column) ∧
      ∀ s ∈ es, column s.span.start = column e.span.start ∧
        ∀ node ∈ s.nodes, node.AlignedBy column := by
  cases es with
  | nil => simp [sequence]
  | cons f fs =>
    rw [sequence, nodes_block, List.forall_mem_cons, alignedBy_block_iff, nodesAll_cons,
      List.forall_mem_append, forall_mem_nodesAll]
    constructor
    · rintro ⟨start, first, others⟩
      exact ⟨first, fun s hs => ⟨start s hs, others s hs⟩⟩
    · rintro ⟨first, others⟩
      exact ⟨fun s hs => (others s hs).1, first, fun s hs => (others s hs).2⟩

theorem returns_sequence_iff {e : Expr} {es : List Expr} {items : List Item} :
    (∀ node ∈ (e.sequence es).nodes, node.ReturnsIn items) ↔
      (∀ node ∈ e.nodes, node.ReturnsIn items) ∧
      ∀ s ∈ es, ∀ node ∈ s.nodes, node.ReturnsIn items := by
  cases es with
  | nil => simp [sequence]
  | cons f fs =>
    rw [sequence, nodes_block, List.forall_mem_cons, nodesAll_cons, List.forall_mem_append,
      forall_mem_nodesAll]
    exact and_iff_right trivial

end Expr

/-! ### What follows a statement -/

/-- That the next significant item, if there is one, stands at `column` or to the left of it. -/
def NextUpTo (column : Nat) (items : List Item) : Prop :=
  ∀ next ∈ (significant items).head?, next.column ≤ column

theorem nextUpTo_append {column : Nat} {skipped : List Item} (h : ∀ i ∈ skipped, i.isTrivia = true)
    (items : List Item) : NextUpTo column (skipped ++ items) ↔ NextUpTo column items := by
  rw [NextUpTo, NextUpTo, significant_append h]

theorem nextUpTo_cons {column : Nat} {item : Item} (h : item.isTrivia = false)
    (items : List Item) : NextUpTo column (item :: items) ↔ item.column ≤ column := by
  simp [NextUpTo, significant_cons h]

/-- Past a statement that stops at a line break, nothing stands right of the level. -/
theorem nextUpTo_of_stops {ctx : Context} {rest : List Item} (statement : ctx.isStatement = true)
    (floor : ctx.floor = 0) (noParens : ∀ item ∈ rest, item.isParen = false)
    (stops : ctx.stops rest = true) : NextUpTo ctx.level rest := by
  cases rest with
  | nil => exact fun next hn => by cases hn
  | cons item rest =>
    have plain := noParens item (by simp)
    rcases atBreak_of_stops floor stops item rfl with hn | hc
    · have lexeme : item.lexeme = .token .newline := by simpa [Item.isNewline] using hn
      have follow : item.follow = .newline := by simp [Item.follow, lexeme]
      rw [NextUpTo, significant_cons_newline lexeme]
      intro next hm
      obtain ⟨tail, hs⟩ := List.head?_eq_some_iff.1 hm
      simp only [Context.stops, follow, Context.continues, statement, hs, Bool.true_and,
        Bool.not_eq_true', Bool.or_eq_false_iff, decide_eq_false_iff_not] at stops
      exact Nat.not_lt.1 stops.1
    · rw [Item.isParen, hc, Bool.or_true] at plain
      cases plain

theorem nextUpTo_of_blockEnds {level : Nat} {isGrouped : Bool} {rest : List Item}
    (noParens : ∀ item ∈ rest, item.isParen = false)
    (ends : blockEnds level isGrouped rest = true) : NextUpTo level rest := by
  intro next hn
  obtain ⟨tail, hs⟩ := List.head?_eq_some_iff.1 hn
  have plain := noParens next ((significant_suffix rest).subset (by simp [hs]))
  rw [Item.isParen, Bool.or_eq_false_iff] at plain
  simp only [blockEnds, hs, plain.2, Bool.and_false, Bool.or_false, decide_eq_true_eq] at ends
  exact Nat.le_of_lt ends

/-- Whether a declaration returns to the column of its keyword is up to what follows it. -/
theorem returnsIn_iff_nextUpTo {room : Nat} {isGrouped : Bool} {all used rest : List Item}
    {span nameSpan : Span} {word : Keyword} {name : String} {value : Expr} {keyword first : Item}
    (order : all.IsChain Item.Precedes)
    (declares : Declares all (.declaration span word name nameSpan value) keyword first
      (used ++ rest))
    (content : Derivable (.block room first.column isGrouped (first :: used) rest value))
    (order' : (first :: (used ++ rest)).IsChain Item.Precedes) (solid : first.isTrivia = false) :
    (Expr.declaration span word name nameSpan value).ReturnsIn all ↔
      NextUpTo keyword.column rest := by
  obtain ⟨skipped, -, -, hcut⟩ := cut_of_block content order' solid rfl
  constructor
  · rintro ⟨keyword', first', tail', declares', returns⟩
    obtain ⟨rfl, rfl, rfl⟩ := declares.unique declares' order
    rwa [hcut] at returns
  · intro next
    refine ⟨keyword, first, used ++ rest, declares, ?_⟩
    rw [hcut]
    exact next

/-! ### Blocks in line -/

/-- That what is read is in line just if its declarations return, where no parens are.

An expression is judged by the declarations inside it, and whether it returns itself by what
follows.  Statements are in line if the first of them is at the level and they return. -/
def Judgement.Agrees (all : List Item) (column : Nat → Nat) : Judgement → Prop
  | expression _ ctx used rest e => ∃ first tail, significant used = first :: tail ∧
    e.span.start = first.span.start ∧ e.isBlock = false ∧
    (ctx.isStatement = false → e.IsSimple) ∧
    ((∀ node ∈ e.nodes, node.AlignedBy column) ↔ ∀ node ∈ e.nodes.tail, node.ReturnsIn all) ∧
    (ctx.isStatement = true → ctx.floor = 0 → ctx.level ≤ first.column →
      (e.ReturnsIn all ↔ NextUpTo first.column rest))
  | extension _ ctx lhs _ rest e => lhs.IsSimple → e.IsSimple ∧ e.span.start = lhs.span.start ∧
    (ctx.isStatement = true → ctx.floor = 0 → NextUpTo ctx.level rest)
  | statements _ level _ used rest es =>
    ((∀ s ∈ es.head?, column s.span.start = level) → NextUpTo level (used ++ rest)) ∧
    (NextUpTo level (used ++ rest) →
      ((∀ s ∈ es, column s.span.start = level ∧ ∀ node ∈ s.nodes, node.AlignedBy column) ↔
        ∀ s ∈ es, ∀ node ∈ s.nodes, node.ReturnsIn all))
  | block _ level _ used _ e => (∀ first ∈ (significant used).head?, first.column = level) →
    ((∀ node ∈ e.nodes, node.AlignedBy column) ↔ ∀ node ∈ e.nodes, node.ReturnsIn all)

/-- An expression without blocks and declarations agrees with whatever stops it. -/
theorem agrees_of_isSimple {room : Nat} {ctx : Context} {all used rest tail : List Item}
    {first : Item} {e : Expr} {column : Nat → Nat} (simple : e.IsSimple)
    (start : e.span.start = first.span.start) (hs : significant used = first :: tail)
    (next : ctx.isStatement = true → ctx.floor = 0 → NextUpTo ctx.level rest) :
    (Judgement.expression room ctx used rest e).Agrees all column := by
  refine ⟨first, tail, hs, start, simple.not_isBlock, fun _ => simple, ?_, ?_⟩
  · exact iff_of_true (simple.alignedBy column) fun node hn =>
      simple.returnsIn all node (List.mem_of_mem_tail hn)
  · refine fun statement floor deep => iff_of_true (simple.returnsIn all e e.mem_nodes_self) ?_
    exact fun i hi => Nat.le_trans (next statement floor i hi) deep

/-- A statement at the level and those after it are in line just if they return. -/
theorem agrees_cons {room level : Nat} {isGrouped : Bool} {all used rest : List Item} {e : Expr}
    {es : List Expr} {column : Nat → Nat}
    (aligned : (∀ node ∈ e.nodes, node.AlignedBy column) ↔
      ∀ node ∈ e.nodes.tail, node.ReturnsIn all)
    (returns : e.ReturnsIn all ↔ NextUpTo level (used ++ rest))
    (others : (Judgement.statements room level isGrouped used rest es).Agrees all column) :
    ((∀ node ∈ e.nodes, node.AlignedBy column) ∧
        ∀ s ∈ es, column s.span.start = level ∧ ∀ node ∈ s.nodes, node.AlignedBy column) ↔
      (∀ node ∈ e.nodes, node.ReturnsIn all) ∧
        ∀ s ∈ es, ∀ node ∈ s.nodes, node.ReturnsIn all := by
  obtain ⟨next_of_level, agrees⟩ := others
  constructor
  -- One way the columns of the others show that the statement returns, the other way that it
  -- returns puts them at the level.
  · rintro ⟨hfirst, hothers⟩
    have next := next_of_level fun s hs => (hothers s (List.mem_of_mem_head? hs)).1
    exact ⟨Expr.returns_iff.2 ⟨returns.2 next, aligned.1 hfirst⟩, (agrees next).1 hothers⟩
  · rintro ⟨hfirst, hothers⟩
    obtain ⟨hself, hinside⟩ := Expr.returns_iff.1 hfirst
    exact ⟨aligned.2 hinside, (agrees (returns.1 hself)).2 hothers⟩

/-- **What is read is in line just if its declarations return**, whichever part of the parser
reads it. -/
theorem agrees_of_derivable {all : List Item} {column : Nat → Nat}
    (order : all.IsChain Item.Precedes) (noParens : ∀ item ∈ all, item.isParen = false)
    (columns : ∀ item ∈ all, column item.span.start = item.column) {j : Judgement}
    (h : Derivable j) (suffix : j.items <:+ all) : j.Agrees all column := by
  induction h with
  | @stop _ ctx lhs rest stops =>
    refine fun simple => ⟨simple, rfl, fun statement floor => ?_⟩
    exact nextUpTo_of_stops statement floor (fun i hi => noParens i (suffix.subset hi)) stops
  | comment lexeme next ih => exact ih ((List.suffix_cons ..).trans suffix)
  | continuation lexeme continues next ih => exact ih ((List.suffix_cons ..).trans suffix)
  | @operator _ ctx lhs rhs e item symbol used₁ used₂ rest lexeme accepted right next ihr ihn =>
    obtain ⟨-, -, -, -, -, hr, -, -⟩ := ihr (.trans Judgement.suffix_operand suffix)
    intro simple
    obtain ⟨he, start, next⟩ :=
      ihn (.trans Judgement.suffix_next suffix) (simple.infixed (hr rfl) _ _)
    exact ⟨he, start, next⟩
  | @argument _ ctx lhs rhs e item used₁ used₂ rest follow accepted right next ihr ihn =>
    obtain ⟨-, -, -, -, -, hr, -, -⟩ := ihr (.trans Judgement.suffix_argument suffix)
    intro simple
    obtain ⟨he, start, next⟩ :=
      ihn (.trans Judgement.suffix_next suffix) (simple.applied (hr rfl))
    exact ⟨he, start, next⟩
  | leadingComment lexeme next ih =>
    obtain ⟨first, tail, hs, others⟩ := ih ((List.suffix_cons ..).trans suffix)
    exact ⟨first, tail, (significant_cons_comment lexeme _).trans hs, others⟩
  | leadingNewline lexeme stays next ih =>
    obtain ⟨first, tail, hs, others⟩ := ih ((List.suffix_cons ..).trans suffix)
    exact ⟨first, tail, (significant_cons_newline lexeme _).trans hs, others⟩
  | @leaf _ ctx lhs e item used rest first next ih =>
    obtain ⟨he, start, next⟩ := ih ((List.suffix_cons ..).trans suffix) (.of_leaf first)
    rw [Item.span_of_leaf first] at start
    exact agrees_of_isSimple he start (significant_cons (Item.not_isTrivia_of_leaf first) used) next
  | @unit _ ctx e opener close used rest opens closes next ih =>
    -- Here and in the next case there is a paren, against `noParens`.
    have plain := noParens opener (suffix.subset (by simp [Judgement.items]))
    simp [Item.isParen, Item.isOpen, opens] at plain
  | @group _ ctx inner e opener close body skipped used rest opens content trivia closes next ihc
      ihn =>
    have plain := noParens opener (suffix.subset (by simp [Judgement.items]))
    simp [Item.isParen, Item.isOpen, opens] at plain
  | @declaration _ ctx value item bound sign first word name skipped used rest lexeme statement
      named assigned trivia solid indented content ih =>
    have keyword := Item.not_isTrivia_of_lexeme lexeme (by simp) (by simp)
    have content_suffix : first :: used ++ rest <:+ all := .trans Judgement.suffix_value suffix
    -- The value is a block whose level is the column of its first item.
    have aligned := ih content_suffix (by simp [significant_cons solid])
    refine ⟨item, _, significant_cons keyword _, rfl, rfl, fun h => ?_, ?_, fun _ _ _ => ?_⟩
    · rw [statement] at h
      cases h
    · rw [Expr.nodes_declaration, List.forall_mem_cons, List.tail_cons]
      exact (and_iff_right trivial).trans aligned
    · have shape : item :: bound :: sign :: (skipped ++ first :: used) ++ rest =
          item :: bound :: sign :: (skipped ++ first :: (used ++ rest)) := by simp
      rw [Judgement.items, shape] at suffix
      exact returnsIn_iff_nextUpTo order
        ((declares_of_parts lexeme named assigned trivia solid).of_suffix suffix) content
        (order.suffix content_suffix) solid
  | @finish _ level isGrouped rest ends =>
    have next : NextUpTo level rest :=
      nextUpTo_of_blockEnds (fun i hi => noParens i (suffix.subset hi)) ends
    exact ⟨fun _ => next, fun _ => by simp⟩
  | @statement _ level _ e es first skipped used₁ used₂ rest trivia solid deep content others ihc
      iho =>
    have content_suffix : first :: used₁ ++ (used₂ ++ rest) <:+ all :=
      .trans Judgement.suffix_statement suffix
    have others_suffix : used₂ ++ rest <:+ all := .trans Judgement.suffix_others suffix
    obtain ⟨first', tail, hs, start, notBlock, -, aligned, returns⟩ := ihc content_suffix
    rw [significant_cons solid] at hs
    obtain ⟨rfl, rfl⟩ := List.cons.inj hs
    have place : column e.span.start = first.column := by
      rw [start]
      exact columns first (content_suffix.subset (by simp))
    -- A statement stands at the level or right of it; what came before it tells which.
    have next_iff : NextUpTo level (skipped ++ first :: (used₁ ++ used₂) ++ rest) ↔
        first.column = level := by
      rw [List.append_assoc, nextUpTo_append trivia, List.cons_append, nextUpTo_cons solid]
      have deep : level ≤ first.column := deep
      omega
    rw [Expr.statements_of_not_isBlock notBlock, List.singleton_append]
    refine ⟨fun h => next_iff.2 (place ▸ h e rfl), fun next => ?_⟩
    have returns := returns rfl rfl deep
    rw [next_iff.1 next] at returns place
    have agrees := agrees_cons aligned returns (iho others_suffix)
    rw [List.forall_mem_cons, List.forall_mem_cons, ← agrees]
    exact and_congr_left' (and_iff_right place)
  | @block _ level _ e es used₁ used₂ rest first others ihf iho =>
    have first_suffix : used₁ ++ (used₂ ++ rest) <:+ all :=
      .trans Judgement.suffix_block_first suffix
    have others_suffix : used₂ ++ rest <:+ all := .trans Judgement.suffix_block_others suffix
    obtain ⟨item, tail, hs, start, -, -, aligned, returns⟩ := ihf first_suffix
    intro level_eq
    have level_eq : item.column = level := level_eq item (by simp [significant_append_of_cons hs])
    have place : column e.span.start = level := by
      rw [start, ← level_eq]
      refine columns item (first_suffix.subset (List.mem_append_left _ ?_))
      exact (significant_suffix used₁).subset (by simp [hs])
    have returns := returns rfl rfl (Nat.le_of_eq level_eq.symm)
    rw [level_eq] at returns
    rw [Expr.aligned_sequence_iff, Expr.returns_sequence_iff, place]
    exact agrees_cons aligned returns (iho others_suffix)

/-! ### Whole sources -/

/-- **The statements of every block begin at one column if and only if every declaration returns
to its keyword**: in a source without parens, the item that ends the value of a declaration, if
there is one, stands at or to the left of the keyword. -/
theorem aligned_iff_returns {limit : Nat} {source : String} {e : Expr}
    (h : parseWithin limit source = .ok e)
    (noParens : ∀ item ∈ items source.toList, item.isParen = false) :
    (∀ node ∈ e.nodes, node.AlignedBy
        ((LineIndex.ofSource source.toList).column source.toList)) ↔
      ∀ node ∈ e.nodes, node.ReturnsIn (items source.toList) := by
  rcases derivable_of_parse h with ⟨-, rfl⟩ | ⟨used, rest, hu, -, hb⟩
  · simp [Expr.nodes, Expr.nodesAll, Expr.AlignedBy, Expr.ReturnsIn]
  · have whole : used ++ rest <:+ items source.toList := ⟨[], hu.symm⟩
    refine agrees_of_derivable (isChain_items _) noParens (fun _ => LineIndex.column_item) hb
      whole fun first hf => ?_
    obtain ⟨tail, hs⟩ := List.head?_eq_some_iff.1 hf
    rw [hu, firstColumn, significant_append_of_cons hs]

/-- `aligned_iff_returns` for a declaration that returns. -/
theorem aligned_iff_returns_nested : ∃ e, parseWithin 8 "let x =\n    1\n    2\ny" = .ok e ∧
    (∀ node ∈ e.nodes, node.ReturnsIn (items "let x =\n    1\n    2\ny".toList)) := by
  obtain ⟨e, h, aligned⟩ := exists_of_any (x := parseWithin 8 "let x =\n    1\n    2\ny")
    (p := fun e => e.nodes.all fun node => decide (node.AlignedBy
      ((LineIndex.ofSource "let x =\n    1\n    2\ny".toList).column
        "let x =\n    1\n    2\ny".toList))) (by decide +kernel)
  refine ⟨e, h, (aligned_iff_returns h (by decide +kernel)).1 fun node hn => ?_⟩
  exact of_decide_eq_true (List.all_eq_true.1 aligned node hn)

/-- A declaration that returns to the right of its keyword puts the next statement out of line. -/
theorem not_aligned_of_shallow_return : ∃ e, parseWithin 8 "let x =\n    1\n  2" = .ok e ∧
    (∀ item ∈ items "let x =\n    1\n  2".toList, item.isParen = false) ∧
    ∃ node ∈ e.nodes, ¬node.AlignedBy
      ((LineIndex.ofSource "let x =\n    1\n  2".toList).column
        "let x =\n    1\n  2".toList) := by
  obtain ⟨e, h, crooked⟩ := exists_of_any (x := parseWithin 8 "let x =\n    1\n  2")
    (p := fun e => e.nodes.any fun node => decide ¬node.AlignedBy
      ((LineIndex.ofSource "let x =\n    1\n  2".toList).column
        "let x =\n    1\n  2".toList)) (by decide +kernel)
  obtain ⟨node, hn, hc⟩ := List.any_eq_true.1 crooked
  exact ⟨e, h, by decide +kernel, node, hn, of_decide_eq_true hc⟩

end Offside
