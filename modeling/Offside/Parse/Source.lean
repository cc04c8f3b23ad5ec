import Offside.Parse.Parts
import Offside.Token.Lexer

/-!
# Reading a source

`expression` reads one expression, nested up to some depth, by recursion on the depth; `parse`
reads the statements of a whole source, whose level is the column of its first one.
-/

namespace Offside

/-- How deep expressions may nest if nothing else is said. -/
def defaultLimit : Nat := 64

/-- The error of an expression that begins past the limit. -/
def tooDeep (limit sourceEnd : Nat) (items : List Item) : ParseError :=
  match significant items with
  | [] => .plain (.emptyAt sourceEnd) (.tooDeep limit)
  | item :: _ => .plain item.span (.tooDeep limit)

/-- The parser of the expressions in a source of `sourceEnd` bytes that are nested up to `room`
deep, where the whole source has `limit` to spend. -/
def expression (limit sourceEnd : Nat) : Nat → ExprParser
  | 0 => ⟨fun _ items => .error (tooDeep limit sourceEnd items), fun h => by cases h⟩
  | room + 1 => ⟨fun ctx items => term (expression limit sourceEnd room) sourceEnd ctx items,
      term_shrinks⟩

/-- The error of what is left of a source past its last statement, if it is more than trivia. -/
def leftover? (items : List Item) : Option ParseError :=
  match significant items with
  | [] => none
  | item :: _ =>
    match item.lexeme with
    | .error e => some (.plain item.span (.lexical e))
    | .token (.closing .round) => some (.plain item.span .unexpectedClose)
    | .token _ => some (.plain item.span .inconsistentIndentation)

/-- The column of the first significant item. -/
def firstColumn (items : List Item) : Nat :=
  match significant items with
  | [] => 0
  | item :: _ => item.column

/-- Reads all items of a source of `sourceEnd` bytes. Without a statement there is an empty
block. -/
def parseItems (limit sourceEnd : Nat) (items : List Item) : Except ParseError Expr :=
  match block (expression limit sourceEnd limit) (firstColumn items) false items with
  | .error e => .error e
  | .ok (outcome, rest) =>
    match leftover? rest with
    | some e => .error e
    | none =>
      match outcome with
      | .found e => .ok e
      | _ => .ok (.block (.emptyAt 0) [])

/-- Reads a source whose expressions may nest up to `limit` deep. -/
def parseWithin (limit : Nat) (source : String) : Except ParseError Expr :=
  let text := source.toList
  parseItems limit (byteLength text) (items text)

/-- Reads a source. -/
def parse (source : String) : Except ParseError Expr := parseWithin defaultLimit source

/-! ### Nesting -/

theorem expression_zero (limit sourceEnd : Nat) (ctx : Context) (items : List Item) :
    (expression limit sourceEnd 0).run ctx items = .error (tooDeep limit sourceEnd items) := rfl

theorem expression_succ (limit sourceEnd room : Nat) (ctx : Context) (items : List Item) :
    (expression limit sourceEnd (room + 1)).run ctx items =
      term (expression limit sourceEnd room) sourceEnd ctx items := rfl

end Offside
