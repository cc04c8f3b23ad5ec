import Offside.Source.Span
import Offside.Token.Basic

/-!
# Errors

A `ParseError` says what is wrong and where. One that arose while a part of a larger construct
was read is wrapped, once for each construct around it that could not go on without the part:
the wrapper says what was expected, its cause why it is missing. `ParseError.chain` lists an
error and its causes from the outside in.

Lexical errors and excessive nesting are never wrapped (`ParseError.wrap`).
-/

namespace Offside

/-- A part that a construct cannot go on without. -/
inductive Expectation where
  /-- The value of a declaration. -/
  | initializer
  /-- The operand on the right of an operator. -/
  | operand (symbol : String)
  /-- The argument of a function application. -/
  | argument
  deriving DecidableEq

namespace Expectation

/-- What is missing, in short. -/
def kind : Expectation → String
  | initializer => "expected initializer"
  | operand _ => "expected operand"
  | argument => "expected argument"

/-- What is missing, in words. -/
def text : Expectation → String
  | initializer => "expected an expression after the assignment"
  | operand symbol => "expected an expression to the right of the operator `" ++ symbol ++ "`"
  | argument => "expected an argument for the function application"

end Expectation

/-- What is wrong with a source. -/
inductive Problem where
  /-- A lexical error. -/
  | lexical (e : LexError)
  /-- A keyword with no name after it. -/
  | expectedName
  /-- A declared name with no `=` after it. -/
  | expectedAssignment
  /-- The value of a declaration begins on a later line and is not indented past it. -/
  | expectedIndented
  /-- A part is missing and nothing stands in its place. -/
  | missing (what : Expectation)
  /-- A keyword after an expression on its line. -/
  | keywordAfterExpression (word : Keyword)
  /-- A declaration where an operand belongs. -/
  | keywordAsOperand (word : Keyword)
  /-- A generic marker after an expression. -/
  | genericAfterExpression
  /-- A generic marker where an expression belongs. -/
  | unsupportedGeneric
  /-- A bracket other than a paren. -/
  | unsupportedGrouping (bracket : Bracket)
  /-- An operator where an expression belongs. -/
  | operatorAsExpression (symbol : String)
  /-- A closing paren with no open one. -/
  | unexpectedClose
  /-- An open paren, by its line counted from 1 and its column counted from 0, that is never
  closed: whether an expression was read inside, and the lexical error that stands where it
  should be closed. -/
  | unclosed (line column : Nat) (containsExpression : Bool) (cause : Option LexError)
  /-- A paren whose group ends before an expression begins. -/
  | unbalanced
  /-- Something other than a closing paren after the expression of a group. -/
  | expectedClose
  /-- A line indented less than the first statement. -/
  | inconsistentIndentation
  /-- Expressions nested deeper than the limit. -/
  | tooDeep (limit : Nat)
  deriving DecidableEq

namespace Problem

/-- What is wrong, in short. -/
def kind : Problem → String
  | lexical e => e.kind
  | expectedName => "expected identifier"
  | expectedAssignment => "expected assignment"
  | expectedIndented => "expected indented expression"
  | missing what => what.kind
  | keywordAfterExpression _ => "keyword after expression"
  | keywordAsOperand _ => "keyword as operand"
  | genericAfterExpression => "generic after expression"
  | unsupportedGeneric => "unsupported generic"
  | unsupportedGrouping _ => "unsupported grouping"
  | operatorAsExpression _ => "operator as expression"
  | unexpectedClose => "unexpected close paren"
  | unclosed .. => "unclosed paren"
  | unbalanced => "unbalanced indentation"
  | expectedClose => "expected close paren"
  | inconsistentIndentation => "inconsistent indentation"
  | tooDeep _ => "nesting too deep"

/-- What is wrong, in words. -/
def text : Problem → String
  | lexical e => e.text
  | expectedName => "expected an identifier"
  | expectedAssignment => "expected the assignment operator `=` after the identifier"
  | expectedIndented => "the current expression is incomplete: expected an indented expression"
  | missing what => what.text
  | keywordAfterExpression word =>
    "`" ++ word.spelling ++ "` cannot follow an expression on the same line"
  | keywordAsOperand word =>
    "a `" ++ word.spelling ++ "` declaration cannot be used as an operand"
  | genericAfterExpression => "a generic was not expected after the expression"
  | unsupportedGeneric => "generics are not supported yet"
  | unsupportedGrouping bracket =>
    "grouping with `" ++ String.ofList [bracket.openSign, bracket.closeSign] ++
      "` is not supported yet"
  | operatorAsExpression symbol =>
    "an operator cannot be used as an expression. To refer to the operator itself, " ++
      "wrap it in parentheses, for example: (" ++ symbol ++ ")"
  | unexpectedClose => "unexpected closing paren: there is no open paren to close"
  | unclosed line column containsExpression _ =>
    "the paren opened at " ++ line.repr ++ "," ++ column.repr ++
      (if containsExpression then " contains an expression, but is never closed"
        else " is never closed")
  | unbalanced => "indentation error: the paren was never closed"
  | expectedClose => "expected a closing paren"
  | inconsistentIndentation =>
    "this line is indented less than the first statement, so it belongs to no block"
  | tooDeep limit => "expressions are nested more than " ++ limit.repr ++ " levels deep"

/-- Whether a problem is never wrapped. -/
def propagates : Problem → Bool
  | lexical _ | tooDeep _ => true
  | _ => false

/-- The lexical error that stands where an open paren should be closed. -/
def lexicalCause : Problem → Option LexError
  | unclosed _ _ _ cause => cause
  | _ => none

end Problem

/-- An error, with the part of the source it is about. -/
inductive ParseError where
  /-- A problem found there. -/
  | plain (span : Span) (problem : Problem)
  /-- A part expected there that could not be read. -/
  | within (span : Span) (what : Expectation) (cause : ParseError)
  deriving DecidableEq

namespace ParseError

/-- The part of the source an error is about. -/
def span : ParseError → Span
  | plain span _ | within span _ _ => span

/-- What is wrong, in short. -/
def kind : ParseError → String
  | plain _ problem => problem.kind
  | within _ what _ => what.kind

/-- What is wrong, in words and without the cause. -/
def text : ParseError → String
  | plain _ problem => problem.text
  | within _ what _ => what.text

/-- The error that an error wraps. -/
def cause? : ParseError → Option ParseError
  | plain _ _ => none
  | within _ _ cause => some cause

/-- An error and its causes, from the outside in. -/
def chain : ParseError → List ParseError
  | e@(plain _ _) => [e]
  | e@(within _ _ cause) => e :: cause.chain

/-- The problem at the end of the chain, and where it was found. -/
def root : ParseError → Span × Problem
  | plain span problem => (span, problem)
  | within _ _ cause => cause.root

/-- Whether an error is never wrapped. -/
def propagates : ParseError → Bool
  | plain _ problem => problem.propagates
  | within _ _ _ => false

/-- The error of a construct whose part `what`, expected at `span`, failed with `e`. -/
def wrap (span : Span) (what : Expectation) (e : ParseError) : ParseError :=
  if e.propagates then e else within span what e

/-! ### Chains -/

theorem chain_ne_nil (e : ParseError) : e.chain ≠ [] := by
  cases e <;> simp [chain]

theorem head?_chain (e : ParseError) : e.chain.head? = some e := by
  cases e <;> rfl

theorem getLast_chain (e : ParseError) :
    e.chain.getLast e.chain_ne_nil = plain e.root.1 e.root.2 := by
  induction e with
  | plain span problem => rfl
  | within span what cause ih =>
    simp only [chain, root]
    rw [List.getLast_cons cause.chain_ne_nil, ih]

theorem plain_mem_chain {e : ParseError} {span : Span} {problem : Problem} :
    plain span problem ∈ e.chain ↔ e.root = (span, problem) := by
  induction e with
  | plain => simp [chain, root, eq_comm]
  | within _ _ cause ih => simp [chain, root, ih]

@[simp] theorem root_wrap (e : ParseError) (span : Span) (what : Expectation) :
    (e.wrap span what).root = e.root := by
  rw [wrap]
  split <;> rfl

end ParseError

end Offside
