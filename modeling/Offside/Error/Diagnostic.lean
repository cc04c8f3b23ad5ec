import Offside.Error.Basic
import Offside.Error.Diagram

/-!
# Diagnostics

The message for a reader: what is wrong at each link of an error's chain, then one diagram of
the place where the last link was found, and the lexical error behind it if it names one.
-/

namespace Offside

/-- What a message says past its diagram. -/
def Problem.trailer (problem : Problem) : String :=
  match problem.lexicalCause with
  | some e => "\nbecause of a lexical error: " ++ e.text
  | none => ""

/-- A problem in words, with a diagram of the place in `source` where it was found. -/
def Problem.diagnostic (source : List Char) (span : Span) (problem : Problem) : String :=
  problem.text ++ "\n\n" ++ String.ofList (Diagram.render source span) ++ problem.trailer

/-- The message for an error found in `source`. -/
def ParseError.diagnostic (source : List Char) : ParseError → String
  | plain span problem => problem.diagnostic source span
  | within _ what cause => what.text ++ ": " ++ cause.diagnostic source

end Offside
