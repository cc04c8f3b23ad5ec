import Offside.Error.Diagnostic
import Offside.Parse.Session

/-!
# Rendering step by step

A diagram and a message as they are rendered: the line is looked up in the index, the source is cut
into slices, the offsets are confined to the line, and the marker is set in.  Every index, slice,
range and difference is checked, and the blanks before the marker are set as one field, whose width
is bounded.  A step that cannot be taken is a `Diagram.Fault`, and nothing is rendered then.
-/

namespace Offside

namespace Diagram

/-- What goes wrong while a diagram is rendered. -/
inductive Fault where
  /-- An index that a list does not have, or a difference below zero. -/
  | arithmetic (fault : Offside.Fault)
  /-- An end of a slice that is no end of a character, or comes before the other one. -/
  | cut
  /-- A range of offsets whose ends are not in order. -/
  | disorder
  /-- A field that is too wide. -/
  | tooWide
  deriving DecidableEq

/-- A fault in words. -/
def Fault.message : Fault → String
  | arithmetic (.misuse step) => step.message
  | arithmetic .outOfRange => "index out of bounds"
  | arithmetic .underflow => "attempt to subtract with overflow"
  | cut => "byte index is not a char boundary"
  | disorder => "assertion failed: min <= max"
  | tooWide => "Formatting argument out of range"

/-- The width of the widest field, which 16 bits hold. -/
def widest : Nat := 65535

/-- The width of a field. -/
def checkedWidth (width : Nat) : Except Fault Nat :=
  if width ≤ widest then .ok width else .error .tooWide

/-- The text from byte `start` up to byte `stop`. -/
def checkedSlice (cs : List Char) (start stop : Nat) : Except Fault (List Char) :=
  match slice? cs start stop with
  | some slice => .ok slice
  | none => .error .cut

/-- The offset `n` confined to those from `low` to `high`. -/
def checkedConfine (low high n : Nat) : Except Fault Nat :=
  if low ≤ high then .ok (confine low high n) else .error .disorder

/-- The number of characters from byte `start` up to byte `stop`; the number of bytes is taken in
any case. -/
def checkedChars (cs : List Char) (start stop : Nat) : Except Fault Nat := do
  let bytes ← (checkedSub stop start).mapError .arithmetic
  match slice? cs start stop with
  | some slice => return slice.length
  | none => return bytes

/-- The offset of the first line feed of a text. -/
def lineFeed? : List Char → Option Nat
  | [] => none
  | c :: cs => if c = '\n' then some 0 else (lineFeed? cs).map (c.utf8Size + ·)

/-- The offset of the end of the line that begins at `start`. -/
def checkedLineEnd (source : List Char) (start : Nat) : Except Fault Nat := do
  let sourceEnd := byteLength source
  match lineFeed? (← checkedSlice source start sourceEnd) with
  | some length => return start + length
  | none => return sourceEnd

/-- The diagram of a span of `source`. -/
def checkedRender (source : List Char) (span : Span) : Except Fault (List Char) := do
  let line ← ((LineIndex.ofSource source).checkedLocate span.start).mapError .arithmetic
  let lineStart := min line.start (byteLength source)
  let lineStop ← checkedLineEnd source lineStart
  let text ← checkedSlice source lineStart lineStop
  let start ← checkedConfine lineStart lineStop span.start
  let stop ← checkedConfine start lineStop span.stop
  let column ← checkedChars source lineStart start
  let width ← checkedChars source start stop
  let indent ← checkedWidth ((gutter line.number).length + column)
  return gutter line.number ++ trimReturns text ++ '\n' ::
    (List.replicate indent ' ' ++ List.replicate (max 1 width) '~' ++ ['\n'])

end Diagram

/-- The message for an error found in `source`. -/
def ParseError.checkedDiagnostic (source : List Char) : ParseError → Except Diagram.Fault String
  | plain span problem => do
    let diagram ← Diagram.checkedRender source span
    return problem.text ++ "\n\n" ++ String.ofList diagram ++ problem.trailer
  | within _ what cause => do
    return what.text ++ ": " ++ (← cause.checkedDiagnostic source)

end Offside
