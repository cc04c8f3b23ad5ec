import Offside.Parse.Source

/-!
# More room to nest

A parser of expressions that may nest deeper does what one with less room does, unless that one
gives up.  `Deepens` relates the two results; each part of the parser keeps the relation up over
the expressions inside it, and so a whole source deepens (`deepens_parseItems`).

Where the first parser gives up nothing is said of the second one: with more room it goes on, and
may find any tree or error there.
-/

namespace Offside

/-- How a result under a limit is related to one with more room: the first parser gave up, or both
results are the same. -/
inductive Deepens (limit : Nat) {α : Type} :
    Except ParseError α → Except ParseError α → Prop
  /-- The first parser gave up. -/
  | gaveUp (span : Span) (r : Except ParseError α) :
      Deepens limit (.error (.plain span (.tooDeep limit))) r
  /-- Both did the same. -/
  | same (r : Except ParseError α) : Deepens limit r r

/-- That expressions are read the same with more room, unless the first parser gives up. -/
def ExprParser.DeepensTo (limit : Nat) (inner deeper : ExprParser) : Prop :=
  ∀ ctx items, Deepens limit (inner.run ctx items) (deeper.run ctx items)

variable {limit : Nat} {inner deeper : ExprParser}

namespace Deepens

theorem eq_of_ok {α : Type} {a : α} {r : Except ParseError α} (h : Deepens limit (.ok a) r) :
    r = .ok a := by
  cases h
  rfl

/-- An error is passed on as it is, also where the first parser gave up. -/
theorem pass {α β : Type} {e : ParseError} {r : Except ParseError α} {r' : Except ParseError β}
    (h : Deepens limit (.error e) r) (same : r = .error e → r' = .error e) :
    Deepens limit (.error e) r' := by
  cases h with
  | gaveUp => exact .gaveUp _ _
  | same => rw [same rfl]; exact .same _

theorem required {r r' : Reading Outcome} (h : Deepens limit r r') (span : Span)
    (what : Expectation) : Deepens limit (r.required span what) (r'.required span what) := by
  cases h with
  | gaveUp => exact .gaveUp _ _
  | same => exact .same _

theorem found {r r' : Reading Expr} (h : Deepens limit r r') :
    Deepens limit r.found r'.found := by
  cases h with
  | gaveUp => exact .gaveUp _ _
  | same => exact .same _

end Deepens

namespace ExprParser.DeepensTo

variable (h : inner.DeepensTo limit deeper)

include h

theorem of_run {ctx : Context} {items : List Item} {r : Reading Outcome}
    (hr : inner.run ctx items = r) : Deepens limit r (deeper.run ctx items) :=
  hr ▸ h ctx items

theorem of_required {ctx : Context} {items : List Item} {span : Span} {what : Expectation}
    {r : Reading Expr} (hr : (inner.run ctx items).required span what = r) :
    Deepens limit r ((deeper.run ctx items).required span what) :=
  hr ▸ (h ctx items).required span what

theorem extend (ctx : Context) (lhs : Expr) (items : List Item) :
    Deepens limit (extend inner ctx lhs items) (extend deeper ctx lhs items) := by
  fun_induction Offside.extend inner ctx lhs items with
  | case1 =>
    rw [extend_nil]
    exact .same _
  | case2 lhs item items hf ih =>
    rw [extend_comment hf]
    exact ih
  | case3 lhs item items hf hc ih =>
    rw [extend_newline hf, if_pos hc]
    exact ih
  | case4 lhs item items hf hc =>
    rw [extend_newline hf, if_neg hc]
    exact .same _
  | case5 lhs item items op hf ha rhs rest hr ih =>
    rw [extend_operator hf, if_pos ha, (h.of_required hr).eq_of_ok]
    exact ih
  | case6 lhs item items op hf ha e hr =>
    rw [extend_operator hf, if_pos ha]
    exact (h.of_required hr).pass fun same => by rw [same]
  | case7 lhs item items op hf ha =>
    rw [extend_operator hf, if_neg ha]
    exact .same _
  | case8 lhs item items hf ha rhs rest hr ih =>
    rw [extend_argument hf, if_pos ha, (h.of_required hr).eq_of_ok]
    exact ih
  | case9 lhs item items hf ha e hr =>
    rw [extend_argument hf, if_pos ha]
    exact (h.of_required hr).pass fun same => by rw [same]
  | case10 lhs item items hf ha =>
    rw [extend_argument hf, if_neg ha]
    exact .same _
  | case11 lhs item items hf =>
    rw [extend_closing hf]
    exact .same _
  | case12 lhs item items problem hf =>
    rw [extend_misplaced hf]
    exact .same _

theorem statementsAfter (level : Nat) (isGrouped : Bool) (items : List Item) :
    Deepens limit (statementsAfter inner level isGrouped items)
      (statementsAfter deeper level isGrouped items) := by
  fun_induction Offside.statementsAfter inner level isGrouped items with
  | case1 items hs =>
    rw [statementsAfter_eq, hs]
    exact .same _
  | case2 items item tail hs hc =>
    rw [statementsAfter_eq, hs]
    simp only [if_pos hc]
    exact .same _
  | case3 items item tail hs hc e rest hr others last hl ih =>
    -- Both the statement and those after it were read, so both are read again.
    rw [hl] at ih
    rw [statementsAfter_eq, hs]
    simp only [if_neg hc, (h.of_run hr).eq_of_ok, ih.eq_of_ok]
    exact .same _
  | case4 items item tail hs hc e rest hr cause hl ih =>
    rw [hl] at ih
    rw [statementsAfter_eq, hs]
    simp only [if_neg hc, (h.of_run hr).eq_of_ok]
    exact ih.pass fun same => by rw [same]
  | case5 items item tail hs hc o rest none hr =>
    rw [statementsAfter_eq, hs]
    simp only [if_neg hc, (h.of_run hr).eq_of_ok]
    exact .same _
  | case6 items item tail hs hc cause hr =>
    rw [statementsAfter_eq, hs]
    simp only [if_neg hc]
    exact (h.of_run hr).pass fun same => by rw [same]

theorem block (level : Nat) (isGrouped : Bool) (items : List Item) :
    Deepens limit (block inner level isGrouped items) (block deeper level isGrouped items) := by
  have first := h (.statement level isGrouped) items
  rw [Offside.block, Offside.block]
  generalize inner.run _ items = r at first ⊢
  generalize deeper.run _ items = r' at first ⊢
  cases first with
  | gaveUp => exact .gaveUp _ _
  | same =>
    -- Other statements are read only where a first one is found.
    obtain e | ⟨e | _ | _, rest⟩ := r
    case ok.found =>
      have others := h.statementsAfter level isGrouped rest
      dsimp only
      generalize Offside.statementsAfter inner _ _ rest = s at others ⊢
      generalize Offside.statementsAfter deeper _ _ rest = s' at others ⊢
      cases others with
      | gaveUp => exact .gaveUp _ _
      | same => exact .same _
    all_goals exact .same _

theorem group (opener : Item) (items : List Item) :
    Deepens limit (group inner opener items) (group deeper opener items) := by
  have body : Deepens limit (groupBody inner opener items) (groupBody deeper opener items) := by
    have content := h.block 0 true items
    rw [groupBody, groupBody]
    generalize Offside.block inner _ _ items = r at content ⊢
    generalize Offside.block deeper _ _ items = r' at content ⊢
    cases content with
    | gaveUp => exact .gaveUp _ _
    | same => exact .same _
  rw [Offside.group.eq_def, Offside.group.eq_def]
  split
  · exact .same _
  · split
    · exact .same _
    · exact body
    · exact .same _

theorem initializer (level : Nat) (isGrouped : Bool) (assignment : Span) (items : List Item) :
    Deepens limit (initializer inner level isGrouped assignment items)
      (initializer deeper level isGrouped assignment items) := by
  rw [Offside.initializer, Offside.initializer]
  split
  · exact (h.block _ _ _).required _ _
  · split
    · exact .same _
    · exact (h.block _ _ _).required _ _

theorem declaration (sourceEnd : Nat) (word : Keyword) (isGrouped : Bool) (item : Item)
    (items : List Item) :
    Deepens limit (declaration inner sourceEnd word isGrouped item items)
      (declaration deeper sourceEnd word isGrouped item items) := by
  rw [Offside.declaration, Offside.declaration]
  split
  · exact .same _
  split
  · exact .same _
  next assignment rest ha =>
  have value := h.initializer item.column isGrouped assignment rest
  generalize Offside.initializer inner _ _ _ rest = r at value ⊢
  generalize Offside.initializer deeper _ _ _ rest = r' at value ⊢
  cases value with
  | gaveUp => exact .gaveUp _ _
  | same => exact .same _

theorem term (sourceEnd : Nat) (ctx : Context) (items : List Item) :
    Deepens limit (term inner sourceEnd ctx items) (term deeper sourceEnd ctx items) := by
  induction items with
  | nil => exact .same _
  | cons item items ih =>
    rw [Offside.term, Offside.term]
    split
    · exact ih
    · split
      · exact .same _
      · exact ih
    · exact (h.extend _ _ _).found
    · split
      · exact (h.declaration _ _ _ _ _).found
      · exact .same _
    · -- What follows a group is read past its end, which is the same for both parsers.
      have grouped := h.group item items
      generalize Offside.group inner item items = r at grouped ⊢
      generalize Offside.group deeper item items = r' at grouped ⊢
      cases grouped with
      | gaveUp => exact .gaveUp _ _
      | same =>
        obtain e | ⟨e, rest⟩ := r
        · exact .same _
        · exact (h.extend _ _ _).found
    · exact .same _
    · exact .same _

end ExprParser.DeepensTo

/-! ### Whole sources -/

/-- **Expressions are read the same with more room.** -/
theorem deepensTo_expression (limit limit' sourceEnd room more : Nat) :
    (expression limit sourceEnd room).DeepensTo limit
      (expression limit' sourceEnd (room + more)) := by
  induction room with
  | zero =>
    intro ctx items
    rw [expression_zero, tooDeep]
    split <;> exact .gaveUp _ _
  | succ room ih =>
    intro ctx items
    rw [Nat.add_right_comm, expression_succ, expression_succ]
    exact ih.term sourceEnd ctx items

/-- **A source is read the same under a higher limit**, unless it is given up under the lower
one. -/
theorem deepens_parseItems {limit limit' : Nat} (le : limit ≤ limit') (sourceEnd : Nat)
    (items : List Item) :
    Deepens limit (parseItems limit sourceEnd items) (parseItems limit' sourceEnd items) := by
  obtain ⟨more, rfl⟩ := Nat.exists_eq_add_of_le le
  have content := (deepensTo_expression limit (limit + more) sourceEnd limit more).block
    (firstColumn items) false items
  rw [parseItems, parseItems]
  generalize block (expression limit _ _) _ _ items = r at content ⊢
  generalize block (expression (limit + more) _ _) _ _ items = r' at content ⊢
  cases content with
  | gaveUp => exact .gaveUp _ _
  | same => exact .same _

end Offside
