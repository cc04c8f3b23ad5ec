import Offside.Error.Basic
import Offside.Expr.Basic

/-!
# Contexts and layout

A `Context` is what the reading of an expression inherits from the construct that asks for it.
Where a line break comes up, the column of the next significant item decides what it means:

* below the level of the block, the block ends (`Context.dedents`);
* at the level, a new statement begins, unless an operator stands there;
* past the level, or at it with an operator, the expression goes on (`Context.continues`).

Only statements take these decisions; an operand ends at every line break.
-/

namespace Offside

/-- What the reading of an expression inherits. -/
structure Context where
  /-- The column of the block around it. -/
  level : Nat
  /-- An operator has to bind above this to go on with the expression. -/
  floor : Nat
  /-- Whether the expression is a statement. -/
  isStatement : Bool
  /-- Whether a paren is open around it. -/
  isGrouped : Bool

namespace Context

/-- The context of a statement. -/
def statement (level : Nat) (isGrouped : Bool) : Context := ⟨level, 0, true, isGrouped⟩

/-- The context of an operand on the right of what binds like `binding`. -/
def operand (ctx : Context) (binding : Binding) : Context :=
  ⟨ctx.level, binding.precedence, false, ctx.isGrouped⟩

/-- Whether an operator of this binding goes on with the expression. -/
def accepts (ctx : Context) (binding : Binding) : Bool := binding.bindsAbove ctx.floor

/-- Whether a line break before `items` ends the block. -/
def dedents (ctx : Context) (items : List Item) : Bool :=
  match significant items with
  | [] => false
  | next :: _ => next.column < ctx.level

/-- Whether the expression goes on past a line break before `items`. -/
def continues (ctx : Context) (items : List Item) : Bool :=
  ctx.isStatement &&
    match significant items with
    | [] => false
    | next :: _ => ctx.level < next.column || (next.column == ctx.level && next.isOperator)

end Context

/-- What comes of looking for an expression, where nothing is wrong. -/
inductive Outcome where
  /-- It was read. -/
  | found (e : Expr)
  /-- The source ended before it began. -/
  | exhausted
  /-- The construct around it ended before it began. -/
  | closed

/-- What comes of reading a part off the front of a list of items, and the items after it. -/
abbrev Reading (α : Type) := Except ParseError (α × List Item)

/-- The outcome for an expression that `what` cannot do without, expected at `span`. -/
def Reading.required (span : Span) (what : Expectation) : Reading Outcome → Reading Expr
  | .ok (.found e, rest) => .ok (e, rest)
  | .ok (_, _) => .error (.plain span (.missing what))
  | .error e => .error (e.wrap span what)

theorem Reading.required_eq_ok {span : Span} {what : Expectation} {r : Reading Outcome}
    {e : Expr} {rest : List Item} (h : Reading.required span what r = .ok (e, rest)) :
    r = .ok (.found e, rest) := by
  unfold Reading.required at h
  split at h <;> cases h
  rfl

end Offside
