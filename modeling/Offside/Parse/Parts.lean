import Offside.Parse.Context
import Offside.Parse.Role

/-!
# The parts of an expression

Expressions nest: an operand, an argument and a statement is an expression again. Each part here
is written over an `ExprParser` that reads the expressions inside it.

* `term` reads an expression from its first item, `extend` what follows it on its right;
* `block` reads the statements of a block, `declaration` and `group` what begins with a keyword
  and with an open paren.

Each part reads some items off the front and leaves the rest. A parser that finds an expression
leaves fewer items than it was given (`ExprParser.shrinks`), which ends the loops, and so does
`term` over such a parser (`term_shrinks`).
-/

namespace Offside

/-- A parser of expressions that are nested up to some depth. -/
structure ExprParser where
  /-- Reads an expression off the front of a list of items. -/
  run : Context → List Item → Reading Outcome
  /-- An expression takes at least one item. -/
  shrinks : ∀ {ctx : Context} {items rest : List Item} {e : Expr},
    run ctx items = .ok (.found e, rest) → rest.length < items.length

variable (inner : ExprParser) (sourceEnd : Nat)

/-! ### Operators and arguments -/

/-- Goes on with `lhs` on its right, up to an item that belongs to a construct around it. -/
def extend (ctx : Context) (lhs : Expr) : List Item → Reading Expr
  | [] => .ok (lhs, [])
  | item :: items =>
    match item.follow with
    | .comment => extend ctx lhs items
    | .newline =>
      if ctx.continues items then extend ctx lhs items else .ok (lhs, item :: items)
    | .operator op =>
      if ctx.accepts op.binding then
        match _h : (inner.run (ctx.operand op.binding) items).required item.span
            (.operand op.symbol) with
        | .ok (rhs, rest) => extend ctx (lhs.infixed op item.span rhs) rest
        | .error e => .error e
      else .ok (lhs, item :: items)
    | .argument =>
      if ctx.accepts .application then
        match _h : (inner.run (ctx.operand .application) (item :: items)).required
            (.emptyAt lhs.span.stop) .argument with
        | .ok (rhs, rest) => extend ctx (lhs.applied rhs) rest
        | .error e => .error e
      else .ok (lhs, item :: items)
    | .closing => .ok (lhs, item :: items)
    | .misplaced problem => .error (.plain item.span problem)
termination_by items => items.length
decreasing_by
  · simp
  · simp
  · have := inner.shrinks (Reading.required_eq_ok (by assumption))
    simp only [List.length_cons]
    omega
  · exact inner.shrinks (Reading.required_eq_ok (by assumption))

/-! ### Blocks -/

/-- The statements at `level` that follow another one. A statement that is itself a block joins
its statements to them. -/
def statementsAfter (level : Nat) (isGrouped : Bool) (items : List Item) : Reading (List Expr) :=
  match _hs : significant items with
  | [] => .ok ([], items)
  | item :: tail =>
    if item.column < level then .ok ([], items)
    else
      match _h : inner.run (.statement level isGrouped) (item :: tail) with
      | .ok (.found e, rest) =>
        match statementsAfter level isGrouped rest with
        | .ok (others, rest) => .ok (e.statements ++ others, rest)
        | .error e => .error e
      | .ok (_, _) => .ok ([], items)
      | .error e => .error e
termination_by items.length
decreasing_by
  have := inner.shrinks (by assumption)
  have := length_significant_le items
  simp_all only [List.length_cons]
  omega

/-- Reads the statements of a block at `level`; one alone stands for itself. -/
def block (level : Nat) (isGrouped : Bool) (items : List Item) : Reading Outcome :=
  match inner.run (.statement level isGrouped) items with
  | .ok (.found first, rest) =>
    match statementsAfter inner level isGrouped rest with
    | .ok (others, rest) => .ok (.found (first.sequence others), rest)
    | .error e => .error e
  | outcome => outcome

/-! ### Groups -/

/-- The error of the paren `opener`, which is never closed. -/
def unclosed (opener : Item) (containsExpression : Bool) (cause : Option LexError) : ParseError :=
  .plain opener.span
    (.unclosed opener.position.line opener.position.column containsExpression cause)

/-- Closes the group of the expression `e`. -/
def closeGroup (opener : Item) (e : Expr) (items : List Item) : Reading Expr :=
  match significant items with
  | [] => .error (unclosed opener true none)
  | item :: rest =>
    match item.lexeme with
    | .token (.closing .round) => .ok (e, rest)
    | .token _ => .error (.plain item.span .expectedClose)
    | .error cause => .error (unclosed opener true (some cause))

/-- Reads the expression of a group, whose items stand after its paren, and closes the group. -/
def groupBody (opener : Item) (items : List Item) : Reading Expr :=
  match block inner 0 true items with
  | .ok (.found e, rest) => closeGroup opener e rest
  | .ok (.exhausted, _) => .error (unclosed opener false none)
  | .ok (.closed, _) => .error (.plain opener.span .unbalanced)
  | .error e => .error e

/-- Reads the group that the paren `opener` opens; `items` are those after it. A paren closed at
once is the unit literal. -/
def group (opener : Item) (items : List Item) : Reading Expr :=
  match items with
  | [] => .error (unclosed opener false none)
  | item :: rest =>
    match item.lexeme with
    | .token (.closing .round) => .ok (.unit (opener.span.through item.span), rest)
    | .token _ => groupBody inner opener items
    | .error cause => .error (unclosed opener false (some cause))

/-! ### Declarations -/

/-- Reads an item that `accept` knows and that has to follow at once. -/
def expect {α : Type} (accept : Token → Option α) (problem : Problem) :
    List Item → Reading (α × Span)
  | [] => .error (.plain (.emptyAt sourceEnd) problem)
  | item :: items =>
    match item.lexeme with
    | .token t =>
      match accept t with
      | some a => .ok ((a, item.span), items)
      | none => .error (.plain item.span problem)
    | .error e => .error (.plain item.span (.lexical e))

/-- The name that a token is. -/
def declaredName? : Token → Option String
  | .name spelling => some spelling
  | _ => none

/-- Whether a token is the sign between a declared name and its value. -/
def assignment? : Token → Option Unit
  | .operator symbol => if symbol = "=" then some () else none
  | _ => none

/-- Reads the value of a declaration that stands at `level`. On a later line it has to be
indented past the declaration; its own column is the level of its block. -/
def initializer (level : Nat) (isGrouped : Bool) (assignment : Span) (items : List Item) :
    Reading Expr :=
  match significant items with
  | [] => (block inner (level + 1) isGrouped items).required assignment .initializer
  | item :: rest =>
    if crossesLine items && item.column ≤ level then
      .error (.plain item.span .expectedIndented)
    else (block inner item.column isGrouped (item :: rest)).required assignment .initializer

/-- Reads the declaration that the keyword `item` begins; `items` are those after it. -/
def declaration (word : Keyword) (isGrouped : Bool) (item : Item) (items : List Item) :
    Reading Expr :=
  match expect sourceEnd declaredName? .expectedName items with
  | .error e => .error e
  | .ok ((name, nameSpan), items) =>
    match expect sourceEnd assignment? .expectedAssignment items with
    | .error e => .error e
    | .ok ((_, assignment), items) =>
      match initializer inner item.column isGrouped assignment items with
      | .error e => .error e
      | .ok (value, rest) =>
        .ok (.declaration (item.span.through value.span) word name nameSpan value, rest)

/-! ### Terms -/

/-- The reading of an expression, as an outcome. -/
def Reading.found (r : Reading Expr) : Reading Outcome := r.map fun (e, rest) => (.found e, rest)

/-- Reads an expression from its first item on. -/
def term (ctx : Context) : List Item → Reading Outcome
  | [] => .ok (.exhausted, [])
  | item :: items =>
    match item.first with
    | .comment => term ctx items
    | .newline => if ctx.dedents items then .ok (.closed, item :: items) else term ctx items
    | .leaf e => (extend inner ctx e items).found
    | .keyword word =>
      if ctx.isStatement then (declaration inner sourceEnd word ctx.isGrouped item items).found
      else .error (.plain item.span (.keywordAsOperand word))
    | .opening =>
      match group inner item items with
      | .ok (e, rest) => (extend inner ctx e rest).found
      | .error e => .error e
    | .closing =>
      if ctx.isGrouped then .ok (.closed, item :: items)
      else .error (.plain item.span .unexpectedClose)
    | .misplaced problem => .error (.plain item.span problem)

/-! ### Equations -/

variable {inner sourceEnd}

section Equations

variable {ctx : Context} {lhs : Expr} {item : Item} {items : List Item}

theorem extend_nil : extend inner ctx lhs [] = .ok (lhs, []) := by
  rw [extend]

theorem extend_comment (h : item.follow = .comment) :
    extend inner ctx lhs (item :: items) = extend inner ctx lhs items := by
  rw [extend, h]

theorem extend_newline (h : item.follow = .newline) :
    extend inner ctx lhs (item :: items) =
      if ctx.continues items then extend inner ctx lhs items else .ok (lhs, item :: items) := by
  rw [extend, h]

theorem extend_operator {op : Operator} (h : item.follow = .operator op) :
    extend inner ctx lhs (item :: items) =
      if ctx.accepts op.binding then
        match (inner.run (ctx.operand op.binding) items).required item.span
            (.operand op.symbol) with
        | .ok (rhs, rest) => extend inner ctx (lhs.infixed op item.span rhs) rest
        | .error e => .error e
      else .ok (lhs, item :: items) := by
  rw [extend, h]
  dsimp only
  split
  · split <;> rename_i hr <;> simp only [hr]
  · rfl

theorem extend_argument (h : item.follow = .argument) :
    extend inner ctx lhs (item :: items) =
      if ctx.accepts .application then
        match (inner.run (ctx.operand .application) (item :: items)).required
            (.emptyAt lhs.span.stop) .argument with
        | .ok (rhs, rest) => extend inner ctx (lhs.applied rhs) rest
        | .error e => .error e
      else .ok (lhs, item :: items) := by
  rw [extend, h]
  dsimp only
  split
  · split <;> rename_i hr <;> simp only [hr]
  · rfl

theorem extend_closing (h : item.follow = .closing) :
    extend inner ctx lhs (item :: items) = .ok (lhs, item :: items) := by
  rw [extend, h]

theorem extend_misplaced {problem : Problem} (h : item.follow = .misplaced problem) :
    extend inner ctx lhs (item :: items) = .error (.plain item.span problem) := by
  rw [extend, h]

theorem statementsAfter_eq {level : Nat} {isGrouped : Bool} :
    statementsAfter inner level isGrouped items =
      match significant items with
      | [] => .ok ([], items)
      | item :: tail =>
        if item.column < level then .ok ([], items)
        else
          match inner.run (.statement level isGrouped) (item :: tail) with
          | .ok (.found e, rest) =>
            match statementsAfter inner level isGrouped rest with
            | .ok (others, rest) => .ok (e.statements ++ others, rest)
            | .error e => .error e
          | .ok (_, _) => .ok ([], items)
          | .error e => .error e := by
  rw [statementsAfter]
  split
  · next hs => simp [hs]
  · next hs =>
    rw [hs]
    split
    · next h => simp [h]
    · next h =>
      simp only [h, if_false]
      split <;> rename_i hr <;> simp only [hr]

end Equations

/-! ### What is left -/

theorem extend_length_le {ctx : Context} {lhs e : Expr} {items rest : List Item}
    (h : extend inner ctx lhs items = .ok (e, rest)) : rest.length ≤ items.length := by
  fun_induction extend inner ctx lhs items with
  | case1 => cases h; exact Nat.le_refl _
  | case2 lhs item items _ ih => exact Nat.le_succ_of_le (ih h)
  | case3 lhs item items _ _ ih => exact Nat.le_succ_of_le (ih h)
  | case4 => cases h; exact Nat.le_refl _
  | case5 lhs item items op _ _ rhs next hr ih =>
    have := inner.shrinks (Reading.required_eq_ok hr)
    have := ih h
    simp only [List.length_cons]
    omega
  | case6 => cases h
  | case7 => cases h; exact Nat.le_refl _
  | case8 lhs item items _ _ rhs next hr ih =>
    have := inner.shrinks (Reading.required_eq_ok hr)
    have := ih h
    omega
  | case9 => cases h
  | case10 => cases h; exact Nat.le_refl _
  | case11 => cases h; exact Nat.le_refl _
  | case12 => cases h

theorem statementsAfter_length_le {level : Nat} {isGrouped : Bool} {items rest : List Item}
    {es : List Expr} (h : statementsAfter inner level isGrouped items = .ok (es, rest)) :
    rest.length ≤ items.length := by
  fun_induction statementsAfter inner level isGrouped items generalizing es with
  | case1 => cases h; exact Nat.le_refl _
  | case2 => cases h; exact Nat.le_refl _
  | case3 items item tail hs _ e next hr others last hl ih =>
    cases h
    have := inner.shrinks hr
    have := ih hl
    have := length_significant_le items
    rw [hs] at this
    omega
  | case4 => cases h
  | case5 => cases h; exact Nat.le_refl _
  | case6 => cases h

theorem block_length_lt {level : Nat} {isGrouped : Bool} {items rest : List Item} {e : Expr}
    (h : block inner level isGrouped items = .ok (.found e, rest)) :
    rest.length < items.length := by
  unfold block at h
  split at h
  · next first next hr =>
    have := inner.shrinks hr
    split at h
    · next hs =>
      cases h
      have := statementsAfter_length_le hs
      omega
    · cases h
  · exact inner.shrinks h

theorem closeGroup_length_lt {opener : Item} {e e' : Expr} {items rest : List Item}
    (h : closeGroup opener e items = .ok (e', rest)) : rest.length < items.length := by
  unfold closeGroup at h
  split at h
  · cases h
  · next item tail hs =>
    have := length_significant_le items
    rw [hs] at this
    split at h <;> cases h
    exact this

theorem groupBody_length_lt {opener : Item} {e : Expr} {items rest : List Item}
    (h : groupBody inner opener items = .ok (e, rest)) : rest.length < items.length := by
  unfold groupBody at h
  split at h
  · next hb =>
    exact Nat.lt_trans (closeGroup_length_lt h) (block_length_lt hb)
  all_goals cases h

theorem group_length_lt {opener : Item} {e : Expr} {items rest : List Item}
    (h : group inner opener items = .ok (e, rest)) : rest.length < items.length := by
  unfold group at h
  split at h
  · cases h
  · split at h
    · cases h
      exact Nat.lt_succ_self _
    · exact groupBody_length_lt h
    · cases h

theorem expect_length_lt {α : Type} {accept : Token → Option α} {problem : Problem} {a : α}
    {span : Span} {items rest : List Item}
    (h : expect sourceEnd accept problem items = .ok ((a, span), rest)) :
    rest.length < items.length := by
  unfold expect at h
  split at h
  · cases h
  · split at h
    · split at h <;> cases h
      exact Nat.lt_succ_self _
    · cases h

theorem initializer_length_lt {level : Nat} {isGrouped : Bool} {assignment : Span} {e : Expr}
    {items rest : List Item}
    (h : initializer inner level isGrouped assignment items = .ok (e, rest)) :
    rest.length < items.length := by
  unfold initializer at h
  split at h
  · exact block_length_lt (Reading.required_eq_ok h)
  · next item tail hs =>
    have := length_significant_le items
    rw [hs] at this
    split at h
    · cases h
    · exact Nat.lt_of_lt_of_le (block_length_lt (Reading.required_eq_ok h)) this

theorem declaration_length_lt {word : Keyword} {isGrouped : Bool} {item : Item} {e : Expr}
    {items rest : List Item}
    (h : declaration inner sourceEnd word isGrouped item items = .ok (e, rest)) :
    rest.length < items.length := by
  unfold declaration at h
  split at h
  · cases h
  next hn =>
  split at h
  · cases h
  next ha =>
  split at h
  · cases h
  next hi =>
  cases h
  have := expect_length_lt hn
  have := expect_length_lt ha
  have := initializer_length_lt hi
  omega

theorem Reading.found_eq_ok {r : Reading Expr} {e : Expr} {rest : List Item}
    (h : r.found = .ok (.found e, rest)) : r = .ok (e, rest) := by
  unfold Reading.found at h
  rcases r with err | ⟨e', rest'⟩ <;> cases h
  rfl

/-- A term takes at least one item. -/
theorem term_shrinks {ctx : Context} {items rest : List Item} {e : Expr}
    (h : term inner sourceEnd ctx items = .ok (.found e, rest)) :
    rest.length < items.length := by
  fun_induction term inner sourceEnd ctx items with
  | case1 => cases h
  | case2 item items _ ih => exact Nat.lt_succ_of_lt (ih h)
  | case3 => cases h
  | case4 item items _ _ ih => exact Nat.lt_succ_of_lt (ih h)
  | case5 item items e hf =>
    exact Nat.lt_succ_of_le (extend_length_le (Reading.found_eq_ok h))
  | case6 item items word hf hs =>
    exact Nat.lt_succ_of_lt (declaration_length_lt (Reading.found_eq_ok h))
  | case7 => cases h
  | case8 item items hf e' rest' hg =>
    have := group_length_lt hg
    have := extend_length_le (Reading.found_eq_ok h)
    simp only [List.length_cons]
    omega
  | case9 => cases h
  | case10 => cases h
  | case11 => cases h
  | case12 => cases h

end Offside
