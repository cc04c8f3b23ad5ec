/-!
# Positions in a source

`Position` says how much of a source lies before a place, in three measures that are kept
together: bytes, lines and the characters of the current line. `Position.advance` moves a
position past one character; only a line feed begins a new line.
-/

namespace Offside

/-- A place in a source. -/
structure Position where
  /-- The number of bytes before it. -/
  offset : Nat
  /-- Its line, counted from 1. -/
  line : Nat
  /-- The number of characters before it on its line. -/
  column : Nat
  deriving DecidableEq, Inhabited

namespace Position

/-- The start of a source. -/
def origin : Position := ⟨0, 1, 0⟩

/-- The position past `c`, when `c` is what stands at `p`. -/
def advance (p : Position) (c : Char) : Position :=
  if c = '\n' then ⟨p.offset + c.utf8Size, p.line + 1, 0⟩
  else ⟨p.offset + c.utf8Size, p.line, p.column + 1⟩

/-- The position past a run of characters. -/
def advanceAll (p : Position) (cs : List Char) : Position := cs.foldl advance p

@[simp] theorem offset_advance (p : Position) (c : Char) :
    (p.advance c).offset = p.offset + c.utf8Size := by
  unfold advance
  split <;> rfl

@[simp] theorem advanceAll_nil (p : Position) : p.advanceAll [] = p := rfl

@[simp] theorem advanceAll_cons (p : Position) (c : Char) (cs : List Char) :
    p.advanceAll (c :: cs) = (p.advance c).advanceAll cs := rfl

theorem advanceAll_append (p : Position) (cs ds : List Char) :
    p.advanceAll (cs ++ ds) = (p.advanceAll cs).advanceAll ds := by
  simp [advanceAll, List.foldl_append]

end Position

end Offside
