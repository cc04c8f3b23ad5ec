import Offside.Proofs.Replay
import Offside.Proofs.Yield

/-!
# How operands bind across lines

On one line a chain stands for its well-bound tree.  A line break changes this in one way only: it
stops every operand that is being read, and what follows takes the whole statement so far for its
left operand.  So the operands of a node bind as on one line wherever no line break stands before
its operator or argument, and a node with a line break there is found from its statement by steps
to the left only (`bound_of_parse`).

`Expr.places` lists the nodes of an expression with whether they are found that way, and
`Joint.BoundIn` says what holds for the operands of each.
-/

namespace Offside

/-! ### Places -/

/-- A node of an expression, and whether it is found from its statement by steps to the operand on
the left only. -/
structure Place where
  /-- The node. -/
  node : Expr
  /-- Whether only steps to the left lead to it. -/
  leftmost : Bool

mutual

/-- The places of the nodes of an expression that is `leftmost` in its statement or not. -/
def Expr.places (leftmost : Bool) : Expr → List Place
  | .name span spelling => [⟨.name span spelling, leftmost⟩]
  | .unit span => [⟨.unit span, leftmost⟩]
  | .number span spelling => [⟨.number span spelling, leftmost⟩]
  | .text span value => [⟨.text span value, leftmost⟩]
  | .bool span value => [⟨.bool span value, leftmost⟩]
  | .block span statements => ⟨.block span statements, leftmost⟩ :: placesAll statements
  | .declaration span keyword bound boundSpan value =>
    ⟨.declaration span keyword bound boundSpan value, leftmost⟩ :: value.places true
  | .binary span operator operatorSpan left right =>
    ⟨.binary span operator operatorSpan left right, leftmost⟩ ::
      (left.places leftmost ++ right.places false)
  | .apply span curried anchor function argument =>
    ⟨.apply span curried anchor function argument, leftmost⟩ ::
      (function.places leftmost ++ argument.places false)

/-- The places of the nodes of statements, in order. -/
def Expr.placesAll : List Expr → List Place
  | [] => []
  | e :: es => e.places true ++ placesAll es

end

namespace Expr

mutual

/-- Every node has its place. -/
theorem map_node_places (leftmost : Bool) (e : Expr) :
    (e.places leftmost).map Place.node = e.nodes := by
  cases e with
  | name | unit | number | text | bool => rfl
  | block span statements => simp [places, nodes, map_node_placesAll statements]
  | declaration span keyword bound boundSpan value =>
    simp [places, nodes, map_node_places true value]
  | binary span operator operatorSpan left right =>
    simp [places, nodes, map_node_places leftmost left, map_node_places false right]
  | apply span curried anchor function argument =>
    simp [places, nodes, map_node_places leftmost function, map_node_places false argument]

theorem map_node_placesAll (es : List Expr) : (placesAll es).map Place.node = nodesAll es := by
  cases es with
  | nil => rfl
  | cons e es => simp [placesAll, nodesAll, map_node_places true e, map_node_placesAll es]

end

theorem placesAll_append (es fs : List Expr) :
    placesAll (es ++ fs) = placesAll es ++ placesAll fs := by
  induction es with
  | nil => rfl
  | cons e es ih => rw [List.cons_append, placesAll, placesAll, ih, List.append_assoc]

theorem mem_places_of_mem_statements {e : Expr} {p : Place} (h : p ∈ placesAll e.statements) :
    p ∈ e.places true := by
  cases e with
  | block span statements => exact List.mem_cons_of_mem _ h
  | _ => exact (List.mem_append.1 h).resolve_right List.not_mem_nil

theorem mem_places_sequence {e : Expr} {es : List Expr} {p : Place}
    (h : p ∈ (e.sequence es).places true) :
    (∃ span, p.node = .block span (e :: es)) ∨ p ∈ e.places true ∨ p ∈ placesAll es := by
  cases es with
  | nil => exact .inr (.inl h)
  | cons f fs =>
    rw [sequence, places, List.mem_cons, placesAll, List.mem_append] at h
    exact h.imp_left fun hp => ⟨_, by rw [hp]⟩

end Expr

/-! ### Joints -/

/-- What an operator or an application joins. -/
structure Joint where
  /-- How it binds. -/
  binding : Binding
  /-- The operand on the left; the function of an application. -/
  left : Expr
  /-- Where the operator begins; where the argument of an application does. -/
  start : Nat
  /-- The operand on the right; the argument of an application. -/
  right : Expr

/-- What a node joins, if it has operands. -/
def Expr.joint? : Expr → Option Joint
  | .binary _ operator operatorSpan left right =>
    some ⟨operator.binding, left, operatorSpan.start, right⟩
  | .apply _ _ _ function argument =>
    some ⟨.application, function, argument.span.start, argument⟩
  | _ => none

/-- How a node binds, if it has operands. -/
def Expr.binding? (e : Expr) : Option Binding := e.joint?.map Joint.binding

/-- Whether a line break stands among `items` between two offsets. -/
def BreaksBetween (items : List Item) (start stop : Nat) : Prop :=
  ∃ item ∈ items, item.isNewline = true ∧ start ≤ item.span.start ∧ item.span.stop ≤ stop

/-- How the operands at a place are bound, in a source of these items. -/
structure Joint.BoundIn (items : List Item) (leftmost : Bool) (j : Joint) : Prop where
  /-- The operand on the left is neither a block nor a declaration. -/
  left_plain : j.left.isBlock = false ∧ j.left.isDeclaration = false
  /-- The operand on the right is neither a block nor a declaration. -/
  right_plain : j.right.isBlock = false ∧ j.right.isDeclaration = false
  /-- An operand on the right binds tighter, or as tight and to the right. -/
  right_binds : ∀ q, j.right.binding? = some q → q.bindsAbove j.binding.precedence = true
  /-- An operand on the left that ends on the same line binds tighter, or as tight and to the
  left. -/
  left_binds : ¬BreaksBetween items j.left.span.stop j.start → ∀ q, j.left.binding? = some q →
    j.binding.precedence < q.precedence ∨
      q.precedence = j.binding.precedence ∧ q.associativity = .left
  /-- Past a line break only the whole statement so far is an operand. -/
  leftmost_of_breaks : BreaksBetween items j.left.span.stop j.start → leftmost = true

/-- That the operands at a place, if any, are bound. -/
def Place.BoundIn (items : List Item) (p : Place) : Prop :=
  ∀ j, p.node.joint? = some j → j.BoundIn items p.leftmost

theorem Place.boundIn_of_leaf {items : List Item} {item : Item} {e : Expr} {leftmost : Bool}
    (h : item.first = .leaf e) : ∀ p ∈ e.places leftmost, p.BoundIn items := by
  obtain ⟨t, -, leaf⟩ := Item.fits_of_first h
  cases t <;> cases leaf <;> simp [Expr.places, Place.BoundIn, Expr.joint?]

theorem Expr.binding?_of_leaf {item : Item} {e : Expr} (h : item.first = .leaf e) :
    e.binding? = none := by
  obtain ⟨t, -, leaf⟩ := Item.fits_of_first h
  cases t <;> cases leaf <;> rfl

theorem Expr.isDeclaration_of_leaf {item : Item} {e : Expr} (h : item.first = .leaf e) :
    e.isDeclaration = false := by
  obtain ⟨t, -, leaf⟩ := Item.fits_of_first h
  cases t <;> cases leaf <;> rfl

/-! ### Line breaks between items -/

/-- A line break between two items is one of those that stand between them. -/
theorem breaksBetween_iff {all between tail : List Item} {last next : Item}
    (order : all.IsChain Item.Precedes) (suffix : last :: (between ++ next :: tail) <:+ all)
    (hlast : last.isNewline = false) (hnext : next.isNewline = false) :
    BreaksBetween all last.span.stop next.span.start ↔ between.any Item.isNewline = true := by
  obtain ⟨before, rfl⟩ := suffix
  have order := pairwise_of_isChain order
  obtain ⟨-, inner, outer⟩ := List.pairwise_append.1 order
  obtain ⟨past_last, inner⟩ := List.pairwise_cons.1 inner
  obtain ⟨-, past_next, up_to_next⟩ := List.pairwise_append.1 inner
  constructor
  · rintro ⟨i, hi, newline, hstart, hstop⟩
    have hlt := i.span.start_le_stop
    simp only [List.mem_append, List.mem_cons] at hi
    rcases hi with hi | rfl | hi | rfl | hi
    · have h := (outer i hi last (by simp)).1
      have := last.span.start_le_stop
      omega
    · rw [hlast] at newline
      cases newline
    · exact List.any_eq_true.2 ⟨i, hi, newline⟩
    · rw [hnext] at newline
      cases newline
    · have h := ((List.pairwise_cons.1 past_next).1 i hi).1
      omega
  · intro h
    obtain ⟨i, hi, newline⟩ := List.any_eq_true.1 h
    refine ⟨i, by simp [hi], newline, ?_, ?_⟩
    · exact (past_last i (by simp [hi])).2
    · exact (up_to_next i hi next (by simp)).2

/-! ### Where operands stop -/

/-- That an operand stops before what is left of the items, and so does any part that is read up to
a place where nothing more belongs to it. -/
def Judgement.Stops : Judgement → Prop
  | expression _ ctx _ rest _ => ctx.isStatement = false → ctx.stops rest = true
  | extension _ ctx _ _ rest _ => ctx.stops rest = true
  | statements .. | block .. => True

theorem stops_of_derivable {j : Judgement} (h : Derivable j) : j.Stops := by
  induction h with
  | stop stops => exact stops
  | comment _ _ ih | continuation _ _ _ ih => exact ih
  | operator _ _ _ _ _ ih | argument _ _ _ _ _ ih => exact ih
  | leadingComment _ _ ih | leadingNewline _ _ _ ih => exact ih
  | leaf _ _ ih | unit _ _ _ ih | group _ _ _ _ _ _ ih => exact fun _ => ih
  | declaration _ statement =>
    intro operand
    rw [statement] at operand
    cases operand
  | finish | statement | block => trivial

/-! ### Operands -/

namespace Link

variable (link : Link) (left right : Expr)

theorem span_join : (link.join left right).span = left.span.through right.span := by
  cases link <;> rfl

theorem plain_join : (link.join left right).isBlock = false ∧
    (link.join left right).isDeclaration = false := by
  cases link <;> exact ⟨rfl, rfl⟩

theorem binding?_join : (link.join left right).binding? = some link.binding := by
  cases link <;> rfl

theorem places_join (leftmost : Bool) : (link.join left right).places leftmost =
    ⟨link.join left right, leftmost⟩ :: (left.places leftmost ++ right.places false) := by
  cases link <;> rfl

end Link

/-- That `e` ends with an item of `all` before `items`, where only `between` is in between. -/
def EndsBefore (all : List Item) (e : Expr) (between items : List Item) : Prop :=
  ∃ last, last :: (between ++ items) <:+ all ∧ last.isNewline = false ∧
    e.span.stop = last.span.stop

/-- How an expression stands that has been read in the context `ctx`, up to `items`. -/
structure Part (all : List Item) (ctx : Context) (e : Expr) (items : List Item) : Prop where
  /-- It is neither a block nor a declaration. -/
  plain : e.isBlock = false ∧ e.isDeclaration = false
  /-- What it is made with is accepted. -/
  accepted : ∀ q, e.binding? = some q → ctx.accepts q = true
  /-- Its operands are bound. -/
  bound : ∀ p ∈ e.places ctx.isStatement, p.BoundIn all
  /-- Since its end a statement may have passed a line break; if not, its operand on the right
  stops before `items`. -/
  ends : ∃ between, EndsBefore all e between items ∧
    (between.any Item.isNewline = true ∧ ctx.isStatement = true ∨
      between.any Item.isNewline = false ∧ ∀ q, e.binding? = some q →
        (∃ link : Link, link.binding = q) ∧ (ctx.operand q).stops items = true)

namespace Part

variable {all items : List Item} {ctx : Context} {lhs rhs : Expr}

theorem of_leaf {item : Item} (first : item.first = .leaf lhs) (suffix : item :: items <:+ all) :
    Part all ctx lhs items := by
  have line := Item.not_isNewline_of_not_isTrivia (Item.not_isTrivia_of_leaf first)
  have none := Expr.binding?_of_leaf first
  refine ⟨⟨Expr.isBlock_of_leaf first, Expr.isDeclaration_of_leaf first⟩, by simp [none],
    Place.boundIn_of_leaf first, [], ⟨item, suffix, line, by rw [Item.span_of_leaf first]⟩,
    .inr ⟨rfl, by simp [none]⟩⟩

/-- A comment does not change how a part stands. -/
theorem comment {item : Item} (lexeme : item.lexeme = .token .comment)
    (h : Part all ctx lhs (item :: items)) : Part all ctx lhs items := by
  obtain ⟨between, ⟨last, suffix, line, stop⟩, ends⟩ := h.ends
  refine ⟨h.plain, h.accepted, h.bound, between ++ [item],
    ⟨last, by simpa using suffix, line, stop⟩,
    ends.imp (fun passed => ⟨by simp [passed.1], passed.2⟩) fun inline =>
      ⟨by simp [inline.1, Item.not_isNewline_of_comment lexeme], fun q hq => ?_⟩⟩
  -- An operand does not stop before a comment.
  have stops := (inline.2 q hq).2
  simp [Context.stops, Item.follow, lexeme] at stops

/-- A line break is passed by statements only. -/
theorem newline {item : Item} (lexeme : item.lexeme = .token .newline)
    (statement : ctx.isStatement = true) (h : Part all ctx lhs (item :: items)) :
    Part all ctx lhs items := by
  obtain ⟨between, ⟨last, suffix, line, stop⟩, -⟩ := h.ends
  exact ⟨h.plain, h.accepted, h.bound, between ++ [item],
    ⟨last, by simpa using suffix, line, stop⟩,
    .inl ⟨by simp [Item.isNewline_of_newline lexeme], statement⟩⟩

/-- **A link joins two parts to one** that is bound, too. -/
theorem join (link : Link) {next : Item} {tail : List Item} (order : all.IsChain Item.Precedes)
    (left : Part all ctx lhs (next :: tail)) (right : Part all (ctx.operand link.binding) rhs items)
    (accepted : ctx.accepts link.binding = true) (line : next.isNewline = false)
    (joint : (link.join lhs rhs).joint? = some ⟨link.binding, lhs, next.span.start, rhs⟩)
    (enters : ∀ outer : Link, (ctx.operand outer.binding).stops (next :: tail) = true →
      link.enters outer = false)
    (after : next.span.start ≤ rhs.span.start)
    (stops : (ctx.operand link.binding).stops items = true) :
    Part all ctx (link.join lhs rhs) items := by
  obtain ⟨before, ⟨last, suffix, last_line, stop⟩, left_ends⟩ := left.ends
  obtain ⟨between, ⟨last', suffix', line', stop'⟩, right_ends⟩ := right.ends
  have breaks : BreaksBetween all lhs.span.stop next.span.start ↔
      before.any Item.isNewline = true := by
    rw [stop]
    exact breaksBetween_iff order suffix last_line line
  have bound : Joint.BoundIn all ctx.isStatement ⟨link.binding, lhs, next.span.start, rhs⟩ := by
    refine ⟨left.plain, right.plain, right.accepted, fun none q hq => ?_, fun h => ?_⟩
    · rcases left_ends with ⟨passed, -⟩ | ⟨-, held⟩
      · exact absurd (breaks.2 passed) none
      · obtain ⟨⟨outer, rfl⟩, hstops⟩ := held q hq
        exact Link.not_enters_iff.1 (enters outer hstops)
    · rcases left_ends with ⟨-, statement⟩ | ⟨passed, -⟩
      · exact statement
      · rw [breaks.1 h] at passed
        cases passed
  have ends : (link.join lhs rhs).span.stop = last'.span.stop := by
    have up_to : lhs.span.stop ≤ next.span.start := by
      rw [stop]
      obtain ⟨pre, rfl⟩ := suffix
      have pairs := (List.pairwise_append.1 (pairwise_of_isChain order)).2.1
      exact ((List.pairwise_cons.1 pairs).1 next (by simp)).2
    have := lhs.span.start_le_stop
    have := rhs.span.start_le_stop
    rw [Link.span_join, Span.stop_through, ← stop']
    omega
  refine ⟨link.plain_join lhs rhs, ?_, ?_, between, ⟨last', suffix', line', ends⟩, .inr ⟨?_, ?_⟩⟩
  · rw [Link.binding?_join]
    rintro q ⟨⟩
    exact accepted
  · rw [Link.places_join, List.forall_mem_cons, List.forall_mem_append]
    refine ⟨fun j hj => ?_, left.bound, right.bound⟩
    rw [joint] at hj
    cases hj
    exact bound
  · rcases right_ends with ⟨-, statement⟩ | ⟨inline, -⟩
    · cases statement
    · exact inline
  · rw [Link.binding?_join]
    rintro q ⟨⟩
    exact ⟨⟨link, rfl⟩, stops⟩

end Part

/-- That the operands in what is read are bound. -/
def Judgement.Bound (all : List Item) : Judgement → Prop
  | expression _ ctx _ rest e => (∀ p ∈ e.places ctx.isStatement, p.BoundIn all) ∧
    (ctx.isStatement = false → Part all ctx e rest)
  | extension _ ctx lhs used rest e => Part all ctx lhs (used ++ rest) → Part all ctx e rest
  | statements _ _ _ _ _ es => ∀ p ∈ Expr.placesAll es, p.BoundIn all
  | block _ _ _ _ _ e => ∀ p ∈ e.places true, p.BoundIn all

/-- Where what is read begins, if it does not begin with a paren. -/
theorem start_of_derivable {room : Nat} {ctx : Context} {used rest : List Item} {e : Expr}
    (h : Derivable (.expression room ctx used rest e))
    (noParens : ∀ item ∈ used, item.isParen = false) :
    ∃ first tail, significant used = first :: tail ∧ e.span.start = first.span.start := by
  obtain ⟨first, tail, hs, -, start⟩ := begins_of_derivable h
  have plain := noParens first ((significant_suffix used).subset (by simp [hs]))
  rw [Item.isParen, Bool.or_eq_false_iff] at plain
  exact ⟨first, tail, hs, (start plain.1).1⟩

/-- **The operands in whatever is read are bound.** -/
theorem bound_of_derivable {all : List Item} (order : all.IsChain Item.Precedes)
    (noParens : ∀ item ∈ all, item.isParen = false) {j : Judgement} (h : Derivable j)
    (suffix : j.items <:+ all) : j.Bound all := by
  induction h with
  | stop => exact fun part => part
  | comment lexeme _ ih =>
    exact fun part => ih ((List.suffix_cons ..).trans suffix) (part.comment lexeme)
  | @continuation _ ctx _ _ _ used rest lexeme continues _ ih =>
    have statement : ctx.isStatement = true := by
      simp only [Context.continues, Bool.and_eq_true] at continues
      exact continues.1
    exact fun part => ih ((List.suffix_cons ..).trans suffix) (part.newline lexeme statement)
  | @operator _ ctx lhs rhs e item symbol used₁ used₂ rest lexeme accepted right next ihr ihn =>
    intro part
    have operand := (ihr (.trans Judgement.suffix_operand suffix)).2 rfl
    obtain ⟨first, tail, hs, start⟩ := start_of_derivable right fun i hi =>
      noParens i (suffix.subset (by simp [Judgement.items, hi]))
    have follow : item.follow = .operator (.ofSymbol symbol) := by simp [Item.follow, lexeme]
    refine ihn (.trans Judgement.suffix_next suffix) (part.join (.operator symbol item.span)
      order operand accepted (by simp [Item.isNewline, lexeme]) rfl (fun outer hstops => ?_) ?_
      (stops_of_derivable right rfl))
    · have refused : (ctx.operand outer.binding).accepts (Operator.ofSymbol symbol).binding =
          false := by simpa [Context.stops, follow] using hstops
      exact refused
    · have pairs := (pairwise_of_isChain order).sublist suffix.sublist
      have after := ((List.pairwise_cons.1 pairs).1 first (by
        have := (significant_suffix used₁).subset (hs ▸ List.mem_cons_self)
        simp [this])).1
      rw [start]
      exact Nat.le_of_lt after
  | @argument _ ctx lhs rhs e item used₁ used₂ rest follow accepted right next ihr ihn =>
    intro part
    have operand := (ihr (.trans Judgement.suffix_argument suffix)).2 rfl
    have solid := (Item.isStart_of_follow follow).not_isTrivia
    obtain ⟨first, tail, hs, start⟩ := start_of_derivable right fun i hi =>
      noParens i (suffix.subset (Judgement.suffix_argument.subset (List.mem_append_left _ hi)))
    rw [significant_cons solid] at hs
    obtain ⟨rfl, rfl⟩ := List.cons.inj hs
    refine ihn (.trans Judgement.suffix_next suffix) (part.join .application
      order operand accepted (Item.not_isNewline_of_not_isTrivia solid) ?_ (fun outer hstops => ?_)
      (Nat.le_of_eq start.symm) (stops_of_derivable right rfl))
    · rw [← start]
      rfl
    · have refused : (ctx.operand outer.binding).accepts .application = false := by
        simpa [Context.stops, follow] using hstops
      exact refused
  | leadingComment lexeme _ ih => exact ih ((List.suffix_cons ..).trans suffix)
  | leadingNewline lexeme _ _ ih => exact ih ((List.suffix_cons ..).trans suffix)
  | leaf first _ ih =>
    have part := ih ((List.suffix_cons ..).trans suffix) (.of_leaf first suffix)
    exact ⟨part.bound, fun _ => part⟩
  | @unit _ _ _ opener _ _ _ opens =>
    -- Here and in the next case there is a paren, against `noParens`.
    have plain := noParens opener (suffix.subset (by simp [Judgement.items]))
    simp [Item.isParen, Item.isOpen, opens] at plain
  | @group _ _ _ _ opener _ _ _ _ _ opens =>
    have plain := noParens opener (suffix.subset (by simp [Judgement.items]))
    simp [Item.isParen, Item.isOpen, opens] at plain
  | declaration lexeme statement _ _ _ _ _ _ ih =>
    refine ⟨?_, fun operand => ?_⟩
    · have value_bound := ih (.trans Judgement.suffix_value suffix)
      rw [Expr.places, List.forall_mem_cons]
      exact ⟨by simp [Place.BoundIn, Expr.joint?], value_bound⟩
    · rw [statement] at operand
      cases operand
  | finish => exact fun p hp => by cases hp
  | statement _ _ _ _ _ ihc iho =>
    rw [Judgement.Bound, Expr.placesAll_append, List.forall_mem_append]
    exact ⟨fun p hp => (ihc (.trans Judgement.suffix_statement suffix)).1 p
      (Expr.mem_places_of_mem_statements hp), iho (.trans Judgement.suffix_others suffix)⟩
  | block _ _ ihf iho =>
    intro p hp
    rcases Expr.mem_places_sequence hp with ⟨span, hnode⟩ | hp | hp
    · intro j hj
      rw [hnode] at hj
      cases hj
    · exact (ihf (.trans Judgement.suffix_block_first suffix)).1 p hp
    · exact iho (.trans Judgement.suffix_block_others suffix) p hp

/-! ### Whole sources -/

/-- **Operands bind by their precedence, across line breaks, too**: in a source without parens that
is read, no operand of a node is a block or a declaration, the one on the right binds into the
node, and so does the one on the left unless a line break comes after it; with a line break there
the node is found from its statement by steps to the left only. -/
theorem bound_of_parse {limit : Nat} {source : String} {e : Expr}
    (h : parseWithin limit source = .ok e)
    (noParens : ∀ item ∈ items source.toList, item.isParen = false) :
    ∀ p ∈ e.places true, ∀ j, p.node.joint? = some j →
      j.BoundIn (items source.toList) p.leftmost := by
  rcases derivable_of_parse h with ⟨-, rfl⟩ | ⟨used, rest, hu, -, hd⟩
  · simp [Expr.places, Expr.placesAll, Expr.joint?]
  · exact bound_of_derivable (isChain_items _) noParens hd ⟨[], hu.symm⟩

/-- `bound_of_parse` for an expression that goes on past a line break. -/
theorem bound_of_parse_continuation : ∃ e, parseWithin 8 "f a + b\n  * c ^ d\nlet x = y" = .ok e ∧
    ∀ p ∈ e.places true, ∀ j, p.node.joint? = some j →
      j.BoundIn (items "f a + b\n  * c ^ d\nlet x = y".toList) p.leftmost := by
  obtain ⟨e, h, -⟩ := exists_of_any (x := parseWithin 8 "f a + b\n  * c ^ d\nlet x = y")
    (p := fun _ => true) (by decide +kernel)
  exact ⟨e, h, bound_of_parse h (by decide +kernel)⟩

end Offside
