import Offside.Token.Lexer

/-!
# Reading items on demand

A `Reader` reads the items of a source one at a time and only as far as it is asked to. The item
read last can be returned once, and `Reader.lookAhead` looks past comments and line breaks
without moving; a later `Reader.jump` of what it found moves there, provided that the reader
stands where the look was taken.

Each operation that can be misused has a `Misuse` as its error and leaves the reader as it was.
-/

namespace Offside

/-- A step that a reader refuses. -/
inductive Misuse where
  /-- No item was read since the last one was returned or the reader was moved. -/
  | nothingToReturn
  /-- The reader has moved since the look was taken. -/
  | streamMoved
  deriving DecidableEq

/-- A refused step in words. -/
def Misuse.message : Misuse → String
  | nothingToReturn => "push_back without a token to return"
  | streamMoved => "lookahead committed after the stream moved"

/-- The next significant item, found without moving. -/
structure Look where
  /-- The item, or `none` at the end of the source. -/
  item : Option Item
  /-- Whether a line break lies before it. -/
  crossedNewline : Bool
  /-- The index where the look was taken. -/
  origin : Nat
  /-- The index of the item found. -/
  target : Nat

namespace Look

/-- The column of the item found. -/
def column (look : Look) : Option Nat := look.item.map Item.column

/-- The part of the source that the item found covers. -/
def span (look : Look) : Option Span := look.item.map Item.span

/-- Whether the item found is an operator. -/
def isOperator (look : Look) : Bool := look.item.any Item.isOperator

end Look

/-- A stream of items, read as far as needed. -/
structure Reader where
  /-- What is still to be read of the source. -/
  rest : Rest
  /-- The items read so far. -/
  buffered : Array Item
  /-- The index of the next item. -/
  index : Nat
  /-- The index of the item that can be returned. -/
  returnable : Option Nat

namespace Reader

/-- A reader at the start of a source. -/
def ofSource (source : List Char) : Reader := ⟨.ofSource source, #[], 0, none⟩

/-- Reads on until the item at `index` is buffered or the source ends. -/
def fillFrom (rest : Rest) (buffered : Array Item) (index : Nat) : Rest × Array Item :=
  if buffered.size ≤ index then
    match _h : rest.next? with
    | none => (rest, buffered)
    | some (item, next) => fillFrom next (buffered.push item) index
  else (rest, buffered)
termination_by rest.text.length
decreasing_by exact Rest.next?_length_lt (by assumption)

/-- The reader with the item at `index` buffered, if the source has one. -/
def fill (reader : Reader) (index : Nat) : Reader :=
  let (rest, buffered) := fillFrom reader.rest reader.buffered index
  { reader with rest, buffered }

/-- Reads the next item. -/
def next (reader : Reader) : Option Item × Reader :=
  let reader := reader.fill reader.index
  match reader.buffered[reader.index]? with
  | none => (none, { reader with returnable := none })
  | some item => (some item,
      { reader with index := reader.index + 1, returnable := some reader.index })

/-- Returns the item that was read last. -/
def unread (reader : Reader) : Except Misuse Reader :=
  match reader.returnable with
  | none => .error .nothingToReturn
  | some index => .ok { reader with index, returnable := none }

/-- Looks from the item at `index` on for one that is no trivia. -/
def lookFrom (buffered : Array Item) (origin index : Nat) (crossed : Bool) (rest : Rest) :
    Look × Rest × Array Item :=
  match _h : buffered[index]? with
  | some item =>
    if item.isTrivia then lookFrom buffered origin (index + 1) (crossed || item.isNewline) rest
    else (⟨some item, crossed, origin, index⟩, rest, buffered)
  | none =>
    match _h : rest.next? with
    | none => (⟨none, crossed, origin, index⟩, rest, buffered)
    | some (item, next) => lookFrom (buffered.push item) origin index crossed next
termination_by (rest.text.length, buffered.size - index)
decreasing_by
  · have : index < buffered.size := (Array.getElem?_eq_some_iff.1 (by assumption)).1
    exact Prod.Lex.right _ (by omega)
  · exact Prod.Lex.left _ _ (Rest.next?_length_lt (by assumption))

/-- Looks past comments and line breaks for the next significant item. -/
def lookAhead (reader : Reader) : Look × Reader :=
  let (look, rest, buffered) :=
    lookFrom reader.buffered reader.index reader.index false reader.rest
  (look, { reader with rest, buffered })

/-- Moves to what a look found. -/
def jump (reader : Reader) (look : Look) : Except Misuse Reader :=
  if reader.index = look.origin then .ok { reader with index := look.target, returnable := none }
  else .error .streamMoved

end Reader

end Offside
