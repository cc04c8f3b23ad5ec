import Offside.Proofs.Grammar
import Offside.Proofs.Nodes

/-!
# From derivations to runs

Whatever is derivable is read (`run_of_derivable`), so derivations say just what the parser does,
and a source is read as soon as its statements are derivable (`parseItems_of_derivable`).

What is read begins with a token that can begin a phrase (`begins_of_derivable`).  An expression
that does not begin with a paren starts at that token and is no block.
-/

namespace Offside

/-! ### Where what is read begins -/

theorem Item.isStart_of_first_leaf {item : Item} {e : Expr} (h : item.first = .leaf e) :
    item.IsStart := by
  obtain ⟨t, lexeme, leaf⟩ := fits_of_first h
  exact isStart_of_follow (follow_of_leaf lexeme leaf)

theorem Expr.isBlock_of_leaf {item : Item} {e : Expr} (h : item.first = .leaf e) :
    e.isBlock = false := by
  obtain ⟨t, -, leaf⟩ := Item.fits_of_first h
  cases t <;> cases leaf <;> rfl

/-- How what is read begins. -/
def Judgement.Begins : Judgement → Prop
  | expression _ _ used _ e => ∃ first tail, significant used = first :: tail ∧ first.IsStart ∧
    (first.isOpen = false → e.span.start = first.span.start ∧ e.isBlock = false)
  | extension _ _ lhs _ _ e => e.span.start = lhs.span.start ∧
    (lhs.isBlock = false → e.isBlock = false)
  | statements .. => True
  | block _ _ _ used _ _ => ∃ first tail, significant used = first :: tail ∧ first.IsStart

/-- **What is read begins with a token that can begin a phrase.** -/
theorem begins_of_derivable {j : Judgement} (h : Derivable j) : j.Begins := by
  induction h with
  | stop => exact ⟨rfl, fun h => h⟩
  | comment _ _ ih => exact ih
  | continuation _ _ _ ih => exact ih
  | operator _ _ _ _ _ ih => exact ⟨ih.1, fun _ => ih.2 rfl⟩
  | argument _ _ _ _ _ ih => exact ⟨ih.1, fun _ => ih.2 rfl⟩
  | leadingComment lexeme _ ih =>
    obtain ⟨first, tail, hs, begins⟩ := ih
    exact ⟨first, tail, (significant_cons_comment lexeme _).trans hs, begins⟩
  | leadingNewline lexeme _ _ ih =>
    obtain ⟨first, tail, hs, begins⟩ := ih
    exact ⟨first, tail, (significant_cons_newline lexeme _).trans hs, begins⟩
  | leaf first _ ih =>
    refine ⟨_, _, significant_cons (Item.not_isTrivia_of_leaf first) _,
      Item.isStart_of_first_leaf first, fun _ => ⟨?_, ih.2 (Expr.isBlock_of_leaf first)⟩⟩
    rw [ih.1, Item.span_of_leaf first]
  | unit opens =>
    -- Here and in the next case the expression begins with a paren.
    have start := Item.isStart_of_follow (Item.follow_of_opening opens)
    refine ⟨_, _, significant_cons start.not_isTrivia _, start, fun h => ?_⟩
    rw [Item.isOpen_of_opening opens] at h
    cases h
  | group opens =>
    have start := Item.isStart_of_follow (Item.follow_of_opening opens)
    refine ⟨_, _, significant_cons start.not_isTrivia _, start, fun h => ?_⟩
    rw [Item.isOpen_of_opening opens] at h
    cases h
  | declaration lexeme =>
    have start : Item.IsStart _ := ⟨_, lexeme, by simp, by simp, by simp⟩
    exact ⟨_, _, significant_cons start.not_isTrivia _, start, fun _ => ⟨rfl, rfl⟩⟩
  | finish => trivial
  | statement => trivial
  | block _ _ ih =>
    obtain ⟨first, tail, hs, start, -⟩ := ih
    exact ⟨first, _, significant_append_of_cons hs _, start⟩

/-! ### What is derivable is read -/

section Reading

variable {limit sourceEnd : Nat}

/-- That the parser reads what a judgement says. -/
def Judgement.Read (limit sourceEnd : Nat) : Judgement → Prop
  | expression room ctx used rest e =>
    (Offside.expression limit sourceEnd room).run ctx (used ++ rest) = .ok (.found e, rest)
  | extension room ctx lhs used rest e =>
    extend (Offside.expression limit sourceEnd room) ctx lhs (used ++ rest) = .ok (e, rest)
  | statements room level isGrouped used rest es => 0 < room →
    statementsAfter (Offside.expression limit sourceEnd room) level isGrouped (used ++ rest) =
      .ok (es, rest)
  | block room level isGrouped used rest e =>
    Offside.block (Offside.expression limit sourceEnd room) level isGrouped (used ++ rest) =
      .ok (.found e, rest)

/-- No statement is read where a block ends. -/
theorem statementsAfter_of_blockEnds {room level : Nat} {isGrouped : Bool} {rest : List Item}
    (ends : blockEnds level isGrouped rest = true) :
    statementsAfter (expression limit sourceEnd (room + 1)) level isGrouped rest =
      .ok ([], rest) := by
  rw [statementsAfter_eq]
  rw [blockEnds] at ends
  cases hs : significant rest with
  | nil => rfl
  | cons item tail =>
    rw [hs] at ends
    dsimp only at ends ⊢
    split
    · rfl
    · next hlt =>
      -- The item is no further left than the block, so it closes the group around it.
      simp only [hlt, decide_false, Bool.false_or, Bool.and_eq_true] at ends
      obtain ⟨grouped, close⟩ := ends
      have first : item.first = .closing := by
        rw [Item.isClose, beq_iff_eq] at close
        simp [Item.first, close]
      simp [expression_succ, term, first, Context.statement, grouped]

/-- A group that does not end at once holds a block. -/
theorem group_of_block {room : Nat} {opener close first : Item} {e : Expr}
    {body skipped tail rest : List Item} (begins : significant body = first :: tail)
    (start : first.IsStart)
    (content : block (expression limit sourceEnd room) 0 true
      (body ++ (skipped ++ close :: rest)) = .ok (.found e, skipped ++ close :: rest))
    (trivia : ∀ i ∈ skipped, i.isTrivia = true)
    (closes : close.lexeme = .token (.closing .round)) :
    group (expression limit sourceEnd room) opener (body ++ (skipped ++ close :: rest)) =
      .ok (e, rest) := by
  have solid : close.isTrivia = false := Item.not_isTrivia_of_lexeme closes (by simp) (by simp)
  have closed : closeGroup opener e (skipped ++ close :: rest) = .ok (e, rest) := by
    rw [closeGroup, significant_append trivia, significant_cons solid]
    dsimp only
    rw [closes]
  -- The item after the paren is trivia or begins the block.
  obtain ⟨item, others, rfl, t, lexeme, opens⟩ :
      ∃ item others, body = item :: others ∧ ∃ t, item.lexeme = .token t ∧ t ≠ .closing .round := by
    obtain ⟨front, rfl, hfront, -⟩ := split_significant begins
    cases front with
    | nil =>
      obtain ⟨t, lexeme, opens, -⟩ := start
      exact ⟨first, tail, rfl, t, lexeme, opens⟩
    | cons item front =>
      have trivial := hfront item (by simp)
      obtain ⟨t, lexeme⟩ := Item.token_of_trivia trivial
      refine ⟨item, front ++ first :: tail, rfl, t, lexeme, ?_⟩
      rintro rfl
      rw [Item.not_isTrivia_of_lexeme lexeme (by simp) (by simp)] at trivial
      cases trivial
  have entered : group (expression limit sourceEnd room) opener
        (item :: others ++ (skipped ++ close :: rest)) =
      groupBody (expression limit sourceEnd room) opener
        (item :: others ++ (skipped ++ close :: rest)) := by
    rw [List.cons_append, group, lexeme]
    split
    · next h => exact absurd (Lexeme.token.inj h) opens
    · rfl
    · next h => cases h
  rw [entered, groupBody, content]
  exact closed

/-- The value of a declaration is read from its first item on. -/
theorem initializer_of_block {room level : Nat} {isGrouped : Bool} {assignment : Span}
    {first : Item} {skipped tail rest : List Item} {value : Expr}
    (trivia : ∀ i ∈ skipped, i.isTrivia = true) (solid : first.isTrivia = false)
    (indented : skipped.any Item.isNewline = true → level < first.column)
    (content : block (expression limit sourceEnd room) first.column isGrouped (first :: tail) =
      .ok (.found value, rest)) :
    initializer (expression limit sourceEnd room) level isGrouped assignment
      (skipped ++ first :: tail) = .ok (value, rest) := by
  have hs : significant (skipped ++ first :: tail) = first :: tail := by
    rw [significant_append trivia, significant_cons solid]
  obtain ⟨front, hfront, hskipped, hcross⟩ := split_significant hs
  obtain rfl : front = skipped := (List.append_cancel_right hfront).symm
  have placed :
      (crossesLine (front ++ first :: tail) && decide (first.column ≤ level)) = false := by
    rw [hcross, Bool.and_eq_false_iff]
    by_cases hn : front.any Item.isNewline = true
    · exact .inr (decide_eq_false (Nat.not_le_of_lt (indented hn)))
    · exact .inl (Bool.eq_false_iff.2 hn)
  rw [initializer, hs]
  dsimp only
  rw [placed, if_neg Bool.false_ne_true, content]
  rfl

/-- **Whatever is derivable is read.** -/
theorem run_of_derivable {j : Judgement} (h : Derivable j) : j.Read limit sourceEnd := by
  induction h with
  | stop stops => exact extend_of_stops stops
  | @comment _ _ _ _ item _ _ lexeme _ ih =>
    have follow : item.follow = .comment := by simp [Item.follow, lexeme]
    rw [Judgement.Read, List.cons_append, extend_comment follow]
    exact ih
  | @continuation _ _ _ _ item _ _ lexeme continues _ ih =>
    have follow : item.follow = .newline := by simp [Item.follow, lexeme]
    rw [Judgement.Read, List.cons_append, extend_newline follow, if_pos continues]
    exact ih
  | @operator room ctx lhs rhs e item symbol used₁ used₂ rest lexeme accepted right next ihr ihn =>
    have follow : item.follow = .operator (.ofSymbol symbol) := by simp [Item.follow, lexeme]
    have accepted : ctx.accepts (Operator.ofSymbol symbol).binding = true := accepted
    have ihr : (expression limit sourceEnd room).run
      (ctx.operand (Operator.ofSymbol symbol).binding) (used₁ ++ (used₂ ++ rest)) =
        .ok (.found rhs, used₂ ++ rest) := ihr
    rw [Judgement.Read, List.cons_append, List.append_assoc, extend_operator follow,
      if_pos accepted, ihr]
    exact ihn
  | @argument room ctx lhs rhs e item used₁ used₂ rest follow accepted right next ihr ihn =>
    have ihr : (expression limit sourceEnd room).run (ctx.operand .application)
      (item :: (used₁ ++ (used₂ ++ rest))) = .ok (.found rhs, used₂ ++ rest) := ihr
    rw [Judgement.Read, List.cons_append, List.append_assoc, extend_argument follow,
      if_pos accepted, ihr]
    exact ihn
  | @leadingComment _ _ _ item _ _ lexeme _ ih =>
    have first : item.first = .comment := by simp [Item.first, lexeme]
    rw [Judgement.Read, List.cons_append, expression_succ, term, first]
    exact ih
  | @leadingNewline _ _ _ item _ _ lexeme stays _ ih =>
    have first : item.first = .newline := by simp [Item.first, lexeme]
    rw [Judgement.Read, List.cons_append, expression_succ, term, first]
    dsimp only
    rw [stays, if_neg Bool.false_ne_true]
    exact ih
  | leaf first _ ih =>
    rw [Judgement.Read] at ih
    rw [Judgement.Read, List.cons_append, expression_succ, term, first]
    dsimp only
    rw [ih]
    rfl
  | @unit _ _ _ opener _ _ _ opens closes _ ih =>
    have first : opener.first = .opening := by simp [Item.first, opens]
    rw [Judgement.Read] at ih
    rw [Judgement.Read, List.cons_append, List.cons_append, expression_succ, term, first, group,
      closes]
    dsimp only
    rw [ih]
    rfl
  | @group room ctx inner e opener close body skipped used rest opens content trivia closes next ihc
      ihn =>
    have first : opener.first = .opening := by simp [Item.first, opens]
    have shape : opener :: (body ++ (skipped ++ close :: used)) ++ rest =
        opener :: (body ++ (skipped ++ close :: (used ++ rest))) := by simp
    obtain ⟨begin, tail, begins, start⟩ := begins_of_derivable content
    have grouped : group (expression limit sourceEnd room) opener
        (body ++ (skipped ++ close :: (used ++ rest))) = .ok (inner, used ++ rest) :=
      group_of_block begins start ihc trivia closes
    rw [Judgement.Read] at ihn
    rw [Judgement.Read, shape, expression_succ, term, first]
    dsimp only
    rw [grouped]
    dsimp only
    rw [ihn]
    rfl
  | @declaration room ctx value item bound sign first word name skipped used rest lexeme statement
      named assigned trivia solid indented content ih =>
    have role : item.first = .keyword word := by simp [Item.first, lexeme]
    have shape : item :: bound :: sign :: (skipped ++ first :: used) ++ rest =
        item :: bound :: sign :: (skipped ++ first :: (used ++ rest)) := by simp
    have ih : block (expression limit sourceEnd room) first.column ctx.isGrouped
      (first :: (used ++ rest)) = .ok (.found value, rest) := ih
    have read : initializer (expression limit sourceEnd room) item.column ctx.isGrouped sign.span
        (skipped ++ first :: (used ++ rest)) = .ok (value, rest) :=
      initializer_of_block trivia solid indented ih
    rw [Judgement.Read, shape, expression_succ, term, role]
    simp [statement, declaration, expect, named, declaredName?, assigned, assignment?, read,
      Reading.found, Except.map]
  | finish ends =>
    intro room_pos
    obtain ⟨room, rfl⟩ := Nat.exists_eq_succ_of_ne_zero (Nat.ne_of_gt room_pos)
    exact statementsAfter_of_blockEnds ends
  | @statement room level isGrouped e es first skipped used₁ used₂ rest trivia solid deep content
      others ihc iho =>
    intro room_pos
    have shape : skipped ++ first :: (used₁ ++ used₂) ++ rest =
        skipped ++ first :: (used₁ ++ (used₂ ++ rest)) := by simp
    have ihc : (expression limit sourceEnd room).run (.statement level isGrouped)
      (first :: (used₁ ++ (used₂ ++ rest))) = .ok (.found e, used₂ ++ rest) := ihc
    rw [shape, statementsAfter_eq, significant_append trivia, significant_cons solid]
    dsimp only
    rw [if_neg (Nat.not_lt_of_le deep), ihc]
    dsimp only
    rw [iho room_pos]
  | @block room level isGrouped e es used₁ used₂ rest first others ihf iho =>
    have ihf : (expression limit sourceEnd room).run (.statement level isGrouped)
      (used₁ ++ (used₂ ++ rest)) = .ok (.found e, used₂ ++ rest) := ihf
    have room_pos : 0 < room := by
      cases room with
      | zero => cases ihf
      | succ room => exact Nat.succ_pos room
    rw [Judgement.Read, List.append_assoc, block, ihf]
    dsimp only
    rw [iho room_pos]

/-- **A source is read as the block that is derivable from its items.** -/
theorem parseItems_of_derivable {used rest : List Item} {e : Expr}
    (h : Derivable (.block limit (firstColumn (used ++ rest)) false used rest e))
    (trivia : significant rest = []) : parseItems limit sourceEnd (used ++ rest) = .ok e := by
  have read : block (expression limit sourceEnd limit) (firstColumn (used ++ rest)) false
      (used ++ rest) = .ok (.found e, rest) := run_of_derivable h
  rw [parseItems, read]
  simp [leftover?, trivia]

end Reading

end Offside
