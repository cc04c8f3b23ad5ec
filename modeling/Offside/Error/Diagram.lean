import Offside.Source.Lines
import Offside.Source.Span

/-!
# Caret diagrams

A diagram shows the line on which a span starts and a run of tildes beneath what the span covers
of it. The marker never leaves the line and is at least one character wide; carriage returns at
the end of the line are not shown.
-/

namespace Offside.Diagram

/-- The characters of a text up to its first line feed. -/
def lineOf (text : List Char) : List Char := text.takeWhile (· ≠ '\n')

/-- A text without the carriage returns at its end. -/
def trimReturns (text : List Char) : List Char := (text.reverse.dropWhile (· = '\r')).reverse

/-- What stands left of the line of this number. -/
def gutter (number : Nat) : List Char := ' ' :: (Nat.toDigits 10 number ++ " | ".toList)

/-- The offset `n` confined to those from `low` to `high`. -/
def confine (low high n : Nat) : Nat := max low (min n high)

/-- The diagram of a span of `source`. -/
def render (source : List Char) (span : Span) : List Char :=
  let line := (LineIndex.ofSource source).locate span.start
  let text := lineOf ((dropBytes? line.start source).getD [])
  let lineStop := line.start + byteLength text
  let start := confine line.start lineStop span.start
  let stop := confine start lineStop span.stop
  let indent := (gutter line.number).length + charsBetween source line.start start
  let width := max 1 (charsBetween source start stop)
  gutter line.number ++ trimReturns text ++ '\n' ::
    (List.replicate indent ' ' ++ List.replicate width '~' ++ ['\n'])

end Offside.Diagram
