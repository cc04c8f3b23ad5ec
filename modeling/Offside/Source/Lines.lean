import Offside.Source.Slice

/-!
# The lines of a source

`LineIndex` lists the offsets where the lines of a source start, so that the line of any offset
is found by bisection. Offsets past the end belong to the last line.

* `LineIndex.locate` is the line that an offset falls on;
* `LineIndex.column` is the number of characters before an offset on its line, or of bytes if
  the offset lies inside a character or past the end.
-/

namespace Offside

/-- A line: its number, counted from 1, and the offset of its first byte. -/
structure Line where
  /-- The number of the line. -/
  number : Nat
  /-- The offset where the line starts. -/
  start : Nat
  deriving DecidableEq

/-- The offsets past each line feed of a text that begins at `offset`. -/
def lineStarts (offset : Nat) : List Char → List Nat
  | [] => []
  | c :: cs =>
    let next := offset + c.utf8Size
    if c = '\n' then next :: lineStarts next cs else lineStarts next cs

/-- Where each line of a source starts, in order. -/
structure LineIndex where
  /-- The offset of the first line, which is 0, and of each later one. -/
  starts : Array Nat

namespace LineIndex

/-- The index of a source. -/
def ofSource (source : List Char) : LineIndex := ⟨(0 :: lineStarts 0 source).toArray⟩

/-- In `xs` from `lo` up to `hi`, the place of the first entry above `offset`, by bisection. -/
def bisect (xs : Array Nat) (offset lo hi : Nat) (le_size : hi ≤ xs.size) : Nat :=
  if h : lo < hi then
    let mid := lo + (hi - lo) / 2
    have mid_lt : mid < hi := by simp only [mid]; omega
    if xs[mid] ≤ offset then bisect xs offset (mid + 1) hi le_size
    else bisect xs offset lo mid (by omega)
  else lo
termination_by hi - lo

/-- The number of the line that `offset` falls on. -/
def lineNumber (index : LineIndex) (offset : Nat) : Nat :=
  max 1 (bisect index.starts offset 0 index.starts.size (Nat.le_refl _))

/-- The line that `offset` falls on. -/
def locate (index : LineIndex) (offset : Nat) : Line :=
  let number := index.lineNumber offset
  ⟨number, index.starts.getD (number - 1) 0⟩

/-- The column of `offset` in `source`, counted from 0. -/
def column (index : LineIndex) (source : List Char) (offset : Nat) : Nat :=
  charsBetween source (index.locate offset).start offset

end LineIndex

end Offside
