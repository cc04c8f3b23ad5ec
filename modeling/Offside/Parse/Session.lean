import Offside.Parse.Parts
import Offside.Source.Lines
import Offside.Token.Reader

/-!
# Parsing sessions

A `Session` is the state of a parser that reads its source on demand: a reader, and how many parens
and expressions are open.  A step of a session (`Parsing`) may change the state, and it may come to
a `Fault`: an index that a list does not have, a difference below zero, or a step that the reader
refuses.  No fault is an answer, so a session in which one arises is broken.  A step may also never
end.

The steps here are those of the reader and of the line index: `next`, `unread`, `sight` and `jump`
move over the items as `Reader` does, with every index and every difference checked.
-/

namespace Offside

/-! ### Faults -/

/-- What goes wrong in a session that is no fault of the source. -/
inductive Fault where
  /-- The reader refuses a step. -/
  | misuse (step : Misuse)
  /-- A list has no entry at an index. -/
  | outOfRange
  /-- A difference falls below zero. -/
  | underflow
  deriving DecidableEq

/-- The entry of an array at an index. -/
def checkedEntry {α : Type} (xs : Array α) (index : Nat) : Except Fault α :=
  match xs[index]? with
  | some x => .ok x
  | none => .error .outOfRange

/-- The difference of two numbers. -/
def checkedSub (m n : Nat) : Except Fault Nat := if n ≤ m then .ok (m - n) else .error .underflow

/-- The span from the start of `s` to the end of `t`, empty when `t` ends before `s` starts. -/
def Span.checkedThrough (s t : Span) : Except Fault Span := do
  let length ← checkedSub (max t.stop s.start) s.start
  return ⟨s.start, length⟩

namespace LineIndex

/-- The line that `offset` falls on. -/
def checkedLocate (index : LineIndex) (offset : Nat) : Except Fault Line := do
  let number := index.lineNumber offset
  let place ← checkedSub number 1
  let start ← checkedEntry index.starts place
  return ⟨number, start⟩

/-- The column of `offset` in `source`; the number of bytes before it on its line is taken in any
case. -/
def checkedColumn (index : LineIndex) (source : List Char) (offset : Nat) : Except Fault Nat := do
  let line ← index.checkedLocate offset
  let bytes ← checkedSub offset line.start
  match slice? source line.start offset with
  | some slice => return slice.length
  | none => return bytes

end LineIndex

/-! ### Sessions -/

/-- What a session reads, and how deep expressions may nest in it. -/
structure Setup where
  /-- The source. -/
  text : List Char
  /-- Where its lines start. -/
  lines : LineIndex
  /-- The limit. -/
  limit : Nat

/-- The setup for a source. -/
def Setup.of (limit : Nat) (source : List Char) : Setup := ⟨source, .ofSource source, limit⟩

/-- The state of a parser. -/
structure Session where
  /-- The items. -/
  reader : Reader
  /-- How many parens are open. -/
  openParens : Nat
  /-- How many expressions are being read inside each other. -/
  depth : Nat

/-- A step of a session: `none` if it never ends. -/
abbrev Parsing (α : Type) := StateT Session (ExceptT Fault Option) α

/-- The next significant item, found without moving, and its column as the line index has it. -/
structure Sight extends Look where
  /-- The column of the item found. -/
  place : Option Nat

namespace Session

/-- A session at the start of a source. -/
def ofSource (source : List Char) : Session := ⟨.ofSource source, 0, 0⟩

/-- The session with another reader. -/
def withReader (s : Session) (reader : Reader) : Session := { s with reader }

/-- A step that has nothing to do with the state. -/
def check {α : Type} (x : Except Fault α) : Parsing α := fun s => some (x.map fun a => (a, s))

/-- Moves the reader, unless it refuses. -/
def move (f : Reader → Except Misuse Reader) : Parsing Unit := fun s =>
  match f s.reader with
  | .ok reader => some (.ok ((), s.withReader reader))
  | .error step => some (.error (.misuse step))

/-- Reads on until the item at `index` is buffered, and says whether it is. -/
def fill (index : Nat) : Parsing Bool := fun s =>
  let reader := s.reader.fill index
  some (.ok (decide (index < reader.buffered.size), s.withReader reader))

/-- The buffered item at `index`. -/
def itemAt (index : Nat) : Parsing Item := fun s => check (checkedEntry s.reader.buffered index) s

/-- Reads the next item. -/
def next : Parsing (Option Item) := do
  let index := (← get).reader.index
  if ← fill index then
    let item ← itemAt index
    modify fun s => s.withReader { s.reader with index := index + 1, returnable := some index }
    return some item
  else
    modify fun s => s.withReader { s.reader with returnable := none }
    return none

/-- Returns the item that was read last. -/
def unread : Parsing Unit := move Reader.unread

/-- Moves to what a look found. -/
def jump (look : Look) : Parsing Unit := move fun reader => reader.jump look

/-- The column of an offset. -/
def column (setup : Setup) (offset : Nat) : Parsing Nat :=
  check (setup.lines.checkedColumn setup.text offset)

/-- Looks from the item at `index` on for one that is no trivia. -/
def sightFrom (setup : Setup) (origin index : Nat) (crossed : Bool) : Parsing Sight :=
  -- The loop is tied by `apply`, for an application that is written out keeps its place in the file.
  letI lookOn (index : Nat) (crossed : Bool) : Parsing Sight := by
    apply sightFrom
    · exact setup
    · exact origin
    · exact index
    · exact crossed
  do
    if ← fill index then
      let item ← itemAt index
      if item.isTrivia then lookOn (index + 1) (crossed || item.isNewline)
      else
        let place ← column setup item.span.start
        return ⟨⟨some item, crossed, origin, index⟩, some place⟩
    else return ⟨⟨none, crossed, origin, index⟩, none⟩
partial_fixpoint

/-- Looks past comments and line breaks for the next significant item. -/
def sight (setup : Setup) : Parsing Sight := do
  let index := (← get).reader.index
  sightFrom setup index index false

/-- The span from the start of one span to the end of another. -/
def through (s t : Span) : Parsing Span := check (s.checkedThrough t)

/-- Counts one more expression. -/
def enter : Parsing Unit := modify fun s => { s with depth := s.depth + 1 }

/-- Counts one expression less. -/
def leave : Parsing Unit := do
  let depth ← check (checkedSub (← get).depth 1)
  modify fun s => { s with depth }

/-- Counts one more open paren. -/
def openParen : Parsing Unit := modify fun s => { s with openParens := s.openParens + 1 }

/-- Counts one open paren less. -/
def closeParen : Parsing Unit := do
  let openParens ← check (checkedSub (← get).openParens 1)
  modify fun s => { s with openParens }

end Session

end Offside
