import Offside.Expr.Basic

/-!
# The text of an expression

An expression is shown in prefix form: each node that has parts stands in parens, its kind or
operator first and its parts after it, a space between them. Leaves are shown as written, texts
quoted.
-/

namespace Offside.Expr

mutual

/-- The text of an expression. -/
def display : Expr → List Char
  | .name _ spelling => spelling.toList
  | .unit _ => "()".toList
  | .number _ spelling => spelling.toList
  | .text _ value => Quoted.text value
  | .bool _ value => if value then "true".toList else "false".toList
  | .block _ statements => "(block".toList ++ displayAll statements ++ [')']
  | .declaration _ keyword bound _ value =>
    '(' :: (keyword.spelling.toList ++ ' ' :: (bound.toList ++ ' ' :: (value.display ++ [')'])))
  | .binary _ operator _ left right =>
    '(' :: (operator.symbol.toList ++ ' ' :: (left.display ++ ' ' :: (right.display ++ [')'])))
  | .apply _ curried _ function argument =>
    (if curried then "(curry ".toList else "(apply ".toList) ++
      (function.display ++ ' ' :: (argument.display ++ [')']))

/-- The texts of statements, each after a space. -/
def displayAll : List Expr → List Char
  | [] => []
  | statement :: statements => ' ' :: (statement.display ++ displayAll statements)

end

/-- The text of an expression, as a string. -/
def toText (e : Expr) : String := String.ofList e.display

/-! ### Equations -/

theorem display_block (span : Span) (es : List Expr) :
    (block span es).display = "(block".toList ++ displayAll es ++ [')'] := rfl

theorem display_declaration (span boundSpan : Span) (keyword : Keyword) (bound : String)
    (value : Expr) : (declaration span keyword bound boundSpan value).display =
      '(' :: (keyword.spelling.toList ++ ' ' :: (bound.toList ++ ' ' ::
        (value.display ++ [')']))) := rfl

theorem display_binary (span operatorSpan : Span) (operator : Operator) (left right : Expr) :
    (binary span operator operatorSpan left right).display =
      '(' :: (operator.symbol.toList ++ ' ' :: (left.display ++ ' ' ::
        (right.display ++ [')']))) := rfl

theorem display_apply (span anchor : Span) (curried : Bool) (function argument : Expr) :
    (apply span curried anchor function argument).display =
      (if curried then "(curry ".toList else "(apply ".toList) ++
        (function.display ++ ' ' :: (argument.display ++ [')'])) := rfl

theorem displayAll_cons (e : Expr) (es : List Expr) :
    displayAll (e :: es) = ' ' :: (e.display ++ displayAll es) := rfl

end Offside.Expr
