import Offside.Error.Basic
import Offside.Expr.Basic

/-!
# The parts that items play

What an item means depends on whether an expression is about to begin (`Item.first`) or has just
been read (`Item.follow`).
-/

namespace Offside

/-- The part an item plays where an expression is to begin. -/
inductive First where
  | comment
  | newline
  /-- It is an expression by itself. -/
  | leaf (e : Expr)
  /-- It begins a declaration. -/
  | keyword (word : Keyword)
  /-- It opens a group. -/
  | opening
  /-- It closes a group. -/
  | closing
  /-- It does not belong there. -/
  | misplaced (problem : Problem)

/-- The part an item plays after an expression. -/
inductive Follow where
  | comment
  | newline
  /-- It joins the expression to one on its right. -/
  | operator (operator : Operator)
  /-- It begins an argument. -/
  | argument
  /-- It closes a group. -/
  | closing
  /-- It does not belong there. -/
  | misplaced (problem : Problem)

namespace Item

/-- The part an item plays where an expression is to begin. -/
def first (item : Item) : First :=
  match item.lexeme with
  | .error e => .misplaced (.lexical e)
  | .token .comment => .comment
  | .token .newline => .newline
  | .token (.name spelling) => .leaf (.name item.span spelling)
  | .token (.number spelling) => .leaf (.number item.span spelling)
  | .token (.text value) => .leaf (.text item.span value)
  | .token (.bool value) => .leaf (.bool item.span value)
  | .token (.operator symbol) => .misplaced (.operatorAsExpression symbol)
  | .token (.generic _) => .misplaced .unsupportedGeneric
  | .token (.keyword word) => .keyword word
  | .token (.opening .round) => .opening
  | .token (.closing .round) => .closing
  | .token (.opening bracket) => .misplaced (.unsupportedGrouping bracket)
  | .token (.closing bracket) => .misplaced (.unsupportedGrouping bracket)

/-- The part an item plays after an expression. -/
def follow (item : Item) : Follow :=
  match item.lexeme with
  | .error e => .misplaced (.lexical e)
  | .token .comment => .comment
  | .token .newline => .newline
  | .token (.name _) | .token (.number _) | .token (.text _) | .token (.bool _) => .argument
  | .token (.operator symbol) => .operator (.ofSymbol symbol)
  | .token (.generic _) => .misplaced .genericAfterExpression
  | .token (.keyword word) => .misplaced (.keywordAfterExpression word)
  | .token (.opening .round) => .argument
  | .token (.closing .round) => .closing
  | .token (.opening bracket) => .misplaced (.unsupportedGrouping bracket)
  | .token (.closing bracket) => .misplaced (.unsupportedGrouping bracket)

end Item

end Offside
