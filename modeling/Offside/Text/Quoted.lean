import Offside.Unicode.Invisible

/-!
# Quoted text

Text and single characters as they appear between quotes in what the library prints: control
characters by a letter, the quote itself and the backslash behind a backslash, other characters
without a glyph by their code point, all else as it is.
-/

namespace Offside.Quoted

/-- The written form of `c` between two `quote`s. -/
def escape (quote c : Char) : List Char :=
  if c = '\x00' then ['\\', '0']
  else if c = '\t' then ['\\', 't']
  else if c = '\n' then ['\\', 'n']
  else if c = '\r' then ['\\', 'r']
  else if c = '\\' ∨ c = quote then ['\\', c]
  else if Unicode.isInvisible c then
    ['\\', 'u', '\x7b'] ++ Nat.toDigits 16 c.toNat ++ ['\x7d']
  else [c]

/-- A text between two `quote`s, character by character. -/
def enclose (quote : Char) (cs : List Char) : List Char :=
  quote :: (cs.flatMap (escape quote) ++ [quote])

/-- A text in double quotes. -/
def text (s : String) : List Char := enclose '"' s.toList

/-- A character in single quotes. -/
def char (c : Char) : List Char := enclose '\x27' [c]

/-! ### Written forms -/

@[simp] theorem escape_self (quote : Char) (h : 0x20 ≤ quote.toNat) :
    escape quote quote = ['\\', quote] := by
  have small : ∀ d : Char, d.toNat < 0x20 → quote ≠ d := fun d hd e => by subst e; omega
  simp [escape, small '\x00' (by decide), small '\t' (by decide), small '\n' (by decide),
    small '\r' (by decide)]

theorem escape_ne_nil (quote c : Char) : escape quote c ≠ [] := by
  unfold escape
  repeat' split
  all_goals simp

end Offside.Quoted
