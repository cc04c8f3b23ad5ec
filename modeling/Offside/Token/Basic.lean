import Offside.Source.Position
import Offside.Source.Slice
import Offside.Source.Span
import Offside.Text.Quoted

/-!
# Tokens

A source is cut into items. An `Item` is a lexeme with the place where it starts and its length;
a `Lexeme` is a token or a lexical error, for reading goes on after an error. Comments and line
breaks are tokens too, the *trivia*: a line break may end an expression, and both may stand
where a token is required to follow at once.
-/

namespace Offside

/-- The words that introduce a declaration. -/
inductive Keyword where
  /-- The word `let`, for a name that may change. -/
  | mutable
  /-- The word `const`, for a name that may not. -/
  | constant
  deriving DecidableEq

/-- A keyword as written. -/
def Keyword.spelling : Keyword → String
  | mutable => "let"
  | constant => "const"

/-- The kinds of paired signs. -/
inductive Bracket where
  /-- Parens. -/
  | round
  /-- Square brackets. -/
  | square
  /-- Braces. -/
  | curly
  deriving DecidableEq

namespace Bracket

/-- The sign that opens a pair. -/
def openSign : Bracket → Char
  | round => '('
  | square => '['
  | curly => '\x7b'

/-- The sign that closes a pair. -/
def closeSign : Bracket → Char
  | round => ')'
  | square => ']'
  | curly => '\x7d'

end Bracket

/-- A lexical unit. -/
inductive Token where
  /-- A comment, to the end of its line. -/
  | comment
  /-- A line break. -/
  | newline
  /-- A name. -/
  | name (spelling : String)
  /-- A number, as written. -/
  | number (spelling : String)
  /-- A text, its escapes decoded. -/
  | text (value : String)
  /-- One of the words `true` and `false`. -/
  | bool (value : Bool)
  /-- A run of operator characters. -/
  | operator (symbol : String)
  /-- A generic marker, without its quote. -/
  | generic (name : String)
  /-- A word that introduces a declaration. -/
  | keyword (word : Keyword)
  /-- An opening bracket. -/
  | opening (bracket : Bracket)
  /-- A closing bracket. -/
  | closing (bracket : Bracket)
  deriving DecidableEq

/-- Why no token could be read. -/
inductive LexError where
  /-- The character begins no token. -/
  | unexpected (c : Char)
  /-- A text is not closed on its line. -/
  | missingQuote
  /-- A backslash in a text with no escape after it. -/
  | badEscape
  deriving DecidableEq

namespace LexError

/-- The kind of the error, in short. -/
def kind : LexError → String
  | unexpected _ => "unexpected char"
  | missingQuote => "missing end quote"
  | badEscape => "invalid escape sequence"

/-- The error in words. -/
def text : LexError → String
  | unexpected c => "unexpected character " ++ String.ofList (Quoted.char c)
  | missingQuote => "the text literal is never closed"
  | badEscape => "invalid escape sequence"

end LexError

/-- What reading yields: a token, or a lexical error in its place. -/
inductive Lexeme where
  | token (t : Token)
  | error (e : LexError)
  deriving DecidableEq

/-- A lexeme and the part of the source it covers. -/
structure Item where
  /-- What was read. -/
  lexeme : Lexeme
  /-- The place where it starts. -/
  position : Position
  /-- The number of bytes it covers. -/
  length : Nat
  deriving DecidableEq

namespace Item

/-- The part of the source that an item covers. -/
def span (item : Item) : Span := ⟨item.position.offset, item.length⟩

/-- The column at which an item starts. -/
def column (item : Item) : Nat := item.position.column

/-- Whether an item is a line break. -/
def isNewline (item : Item) : Bool := item.lexeme == .token .newline

/-- Whether an item is a comment or a line break. -/
def isTrivia (item : Item) : Bool := item.lexeme == .token .comment || item.isNewline

/-- Whether an item is an operator. -/
def isOperator (item : Item) : Bool :=
  match item.lexeme with
  | .token (.operator _) => true
  | _ => false

end Item

/-! ### Trivia -/

/-- What is left of a list of items past the trivia at its front. -/
def significant (items : List Item) : List Item := items.dropWhile Item.isTrivia

/-- Whether a line break is among the trivia at the front of a list of items. -/
def crossesLine (items : List Item) : Bool := (items.takeWhile Item.isTrivia).any Item.isNewline

theorem significant_suffix (items : List Item) : significant items <:+ items :=
  List.dropWhile_suffix _

theorem length_significant_le (items : List Item) :
    (significant items).length ≤ items.length :=
  (significant_suffix items).length_le

theorem isTrivia_of_significant {items rest : List Item} {item : Item}
    (h : significant items = item :: rest) : item.isTrivia = false := by
  induction items with
  | nil => simp [significant] at h
  | cons i items ih =>
    rw [significant, List.dropWhile_cons] at h
    split at h
    · exact ih h
    · next hi =>
      obtain ⟨rfl, -⟩ := List.cons.inj h
      simpa using hi

end Offside
