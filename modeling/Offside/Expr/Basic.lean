import Offside.Operator
import Offside.Source.Span
import Offside.Token.Basic

/-!
# Expressions

`Expr` is the tree that a source stands for. Each node carries the span of source it was read
from; grouping parens leave no node and no span behind.
-/

namespace Offside

/-- An expression. -/
inductive Expr where
  /-- A name. -/
  | name (span : Span) (spelling : String)
  /-- The unit literal, an empty pair of parens. -/
  | unit (span : Span)
  /-- A number, as written. -/
  | number (span : Span) (spelling : String)
  /-- A text, its escapes decoded. -/
  | text (span : Span) (value : String)
  /-- A truth value. -/
  | bool (span : Span) (value : Bool)
  /-- Statements that follow each other. -/
  | block (span : Span) (statements : List Expr)
  /-- A declaration of a name with its value. -/
  | declaration (span : Span) (keyword : Keyword) (name : String) (nameSpan : Span)
      (value : Expr)
  /-- An operator between two operands. -/
  | binary (span : Span) (operator : Operator) (operatorSpan : Span) (left right : Expr)
  /-- A function applied to an argument. The anchor is where the sign of the application would
  stand. Reading never yields a curried application. -/
  | apply (span : Span) (curried : Bool) (anchor : Span) (function argument : Expr)

namespace Expr

/-- The part of the source that an expression was read from. -/
def span : Expr → Span
  | name span _ | unit span | number span _ | text span _ | bool span _ | block span _
  | declaration span _ _ _ _ | binary span _ _ _ _ | apply span _ _ _ _ => span

/-- The statements of a block; any other expression is one statement. -/
def statements : Expr → List Expr
  | block _ statements => statements
  | e => [e]

/-- The block of a statement and those after it; a statement alone is no block. -/
def sequence (first : Expr) : List Expr → Expr
  | [] => first
  | second :: others =>
    let last := (second :: others).getLast (by simp)
    block (first.span.through last.span) (first :: second :: others)

/-- An operator applied to the operands on its sides. -/
def infixed (left : Expr) (operator : Operator) (operatorSpan : Span) (right : Expr) : Expr :=
  binary (left.span.through right.span) operator operatorSpan left right

/-- A function applied to the argument that follows it. -/
def applied (function argument : Expr) : Expr :=
  apply (function.span.through argument.span) false (.emptyAt function.span.stop) function
    argument

@[simp] theorem span_infixed (left : Expr) (operator : Operator) (operatorSpan : Span)
    (right : Expr) :
    (infixed left operator operatorSpan right).span = left.span.through right.span := rfl

@[simp] theorem span_applied (function argument : Expr) :
    (applied function argument).span = function.span.through argument.span := rfl

end Expr

end Offside
