/-!
# Infix operators

How tightly each operator binds and to which side a chain of it groups. Function application is
written without a sign and takes its place among the operators with a binding of its own.
-/

namespace Offside

/-- The side to which operators of one precedence group. -/
inductive Associativity where
  /-- The operator on the left binds first. -/
  | left
  /-- The operator on the right binds first. -/
  | right
  deriving DecidableEq

/-- How an operator binds. -/
structure Binding where
  /-- How tightly it binds; higher binds tighter. -/
  precedence : Nat
  /-- To which side it groups among operators of its precedence. -/
  associativity : Associativity
  deriving DecidableEq

namespace Binding

/-- A binding that groups to the left. -/
def ofLeft (precedence : Nat) : Binding := ⟨precedence, .left⟩

/-- The binding of operators that have none of their own. -/
def fallback : Binding := ofLeft 13

/-- The binding of function application. -/
def application : Binding := ofLeft 14

/-- The operators that have a binding of their own, from loose to tight. -/
def table : List (Binding × List String) :=
  [(ofLeft 1, [","]),
   (ofLeft 2, ["=", "+=", "-=", "*=", "/=", "%=", "^="]),
   (ofLeft 3, ["<|", "|>"]),
   (ofLeft 4, ["<<", ">>"]),
   (ofLeft 5, ["||"]),
   (ofLeft 6, ["&&"]),
   (ofLeft 7, ["??"]),
   (ofLeft 8, ["==", "!=", "===", "!=="]),
   (ofLeft 9, ["<", "<=", ">=", ">"]),
   (ofLeft 10, ["+", "-"]),
   (ofLeft 11, ["*", "/", "%"]),
   (⟨12, .right⟩, ["^"]),
   (ofLeft 15, [".", "?."])]

/-- The binding of an operator in the table. -/
def lookup? (symbol : String) : Option Binding :=
  (table.find? fun entry => entry.2.contains symbol).map Prod.fst

/-- The binding of an operator. -/
def ofSymbol (symbol : String) : Binding := (lookup? symbol).getD fallback

/-- Whether an operator may go on with an expression whose operands bind above `floor`. -/
def bindsAbove (b : Binding) (floor : Nat) : Bool :=
  floor < b.precedence || (b.precedence == floor && b.associativity == .right)

theorem bindsAbove_iff {b : Binding} {floor : Nat} :
    b.bindsAbove floor = true ↔
      floor < b.precedence ∨ b.precedence = floor ∧ b.associativity = .right := by
  simp [bindsAbove]

/-- Every operator binds above nothing. -/
theorem ofSymbol_precedence_pos (symbol : String) : 0 < (ofSymbol symbol).precedence := by
  have pos : ∀ entry ∈ table, 0 < entry.1.precedence := by decide
  unfold ofSymbol lookup?
  cases h : table.find? fun entry => entry.2.contains symbol with
  | none => decide
  | some entry => exact pos entry (List.mem_of_find?_eq_some h)

end Binding

/-- An operator as written, with its binding. -/
structure Operator where
  /-- The operator as written. -/
  symbol : String
  /-- How it binds. -/
  binding : Binding
  deriving DecidableEq

/-- The operator of this symbol. -/
def Operator.ofSymbol (symbol : String) : Operator := ⟨symbol, .ofSymbol symbol⟩

end Offside
