import Offside.Unicode.Ranges

/-!
# Blank characters

The characters with the property `White_Space`, the same in Unicode 17.0 and 18.0. Every
character that core takes for whitespace is one (`isBlank_of_isWhitespace`).
-/

namespace Offside.Unicode

/-- The ranges of `White_Space`. -/
def blankRanges : Ranges :=
  [(0x9, 0xD), (0x20, 0x20), (0x85, 0x85), (0xA0, 0xA0), (0x1680, 0x1680), (0x2000, 0x200A),
   (0x2028, 0x2029), (0x202F, 0x202F), (0x205F, 0x205F), (0x3000, 0x3000)]

/-- Whether a character is blank: it separates tokens and belongs to none. -/
def isBlank (c : Char) : Bool := inRanges blankRanges c

theorem increasing_blankRanges : increasingFrom 0 blankRanges = true := by decide

theorem isBlank_of_isWhitespace {c : Char} (h : c.isWhitespace = true) : isBlank c = true := by
  simp only [Char.isWhitespace, Bool.or_eq_true, decide_eq_true_eq] at h
  rcases h with ((rfl | rfl) | rfl) | rfl <;> decide

end Offside.Unicode
