import Offside.Parse.Session
import Offside.Parse.Source

/-!
# Reading a source on demand

The parser as a session: it reads its items from a reader one at a time, returns the one that it
has no use for, and looks past comments and line breaks to decide where a construct ends.  It asks
the session how many parens are open, and how deep it is, instead of being told.

Its loops are given by their rounds.  A round goes on with what it has so far (`Round.again`) or
ends the loop (`Round.done`).

* `Session.perform` reads any `Session.Part` that holds expressions, and each of them has a name:
  `Session.expression` reads an expression, `Session.term` its first part, `Session.extend` what
  follows on its right and `Session.block` the statements of a block;
* `Session.source` reads a whole source, and `parseOnDemand` runs it.
-/

namespace Offside

/-- What the reading of an expression inherits, apart from the state of the session. -/
structure Frame where
  /-- The column of the block around it. -/
  level : Nat
  /-- An operator has to bind above this to go on with the expression. -/
  floor : Nat
  /-- Whether the expression is a statement. -/
  isStatement : Bool

namespace Frame

/-- The frame of a statement. -/
def statement (level : Nat) : Frame := ⟨level, 0, true⟩

/-- The frame of an operand on the right of what binds like `binding`. -/
def operand (frame : Frame) (binding : Binding) : Frame := ⟨frame.level, binding.precedence, false⟩

/-- Whether an operator of this binding goes on with the expression. -/
def accepts (frame : Frame) (binding : Binding) : Bool := binding.bindsAbove frame.floor

end Frame

/-- What comes of one round of a loop. -/
inductive Round (σ α : Type) where
  /-- The loop goes on. -/
  | again (state : σ)
  /-- The loop ends. -/
  | done (result : α)

/-- An expression that was read or an error. -/
abbrev Reply (α : Type) := Except ParseError α

/-- The reply for an expression that `what` cannot do without, expected at `span`. -/
def Reply.required (span : Span) (what : Expectation) : Reply Outcome → Reply Expr
  | .ok (.found e) => .ok e
  | .ok _ => .error (.plain span (.missing what))
  | .error e => .error (e.wrap span what)

/-- The reply of an expression, as an outcome. -/
def Reply.found (r : Reply Expr) : Reply Outcome := r.map .found

namespace Session

variable (setup : Setup)

/-- Decides whether the expression goes on past the line break that comes next; if so, moves
there. -/
def lineBreak (frame : Frame) : Parsing Bool := do
  if !frame.isStatement then return false
  let sight ← sight setup
  match sight.place with
  | none => return false
  | some place =>
    if frame.level < place || (place == frame.level && sight.isOperator) then
      jump sight.toLook
      return true
    else return false

/-- Decides whether another statement of a block at `level` comes next; if so, moves there. -/
def nextStatement (level : Nat) : Parsing Bool := do
  let sight ← sight setup
  match sight.place with
  | none => return false
  | some place =>
    if level ≤ place then
      jump sight.toLook
      return true
    else return false

/-- Reads an item that `accept` knows and that has to follow at once. -/
def expect {α : Type} (accept : Token → Option α) (problem : Problem) :
    Parsing (Reply (α × Span)) := do
  match ← next with
  | none => return .error (.plain (.emptyAt (byteLength setup.text)) problem)
  | some item =>
    match item.lexeme with
    | .token t =>
      match accept t with
      | some a => return .ok (a, item.span)
      | none => return .error (.plain item.span problem)
    | .error e => return .error (.plain item.span (.lexical e))

/-- The error of the paren `opener`, which is never closed. -/
def unclosed (opener : Span) (containsExpression : Bool) (cause : Option LexError) :
    Parsing ParseError := do
  let line ← check (setup.lines.checkedLocate opener.start)
  let column ← column setup opener.start
  return .plain opener (.unclosed line.number column containsExpression cause)

/-- Makes an expression of the statements of a block; one alone stands for itself. -/
def assemble (statements : Array Expr) : Parsing Expr := do
  if statements.size = 1 then check (checkedEntry statements 0)
  else
    let first ← check (checkedEntry statements 0)
    let place ← check (checkedSub statements.size 1)
    let last ← check (checkedEntry statements place)
    let span ← through first.span last.span
    return .block span statements.toList

/-- Closes the group of the expression `e`. -/
def closeGroup (opener : Span) (e : Expr) : Parsing (Reply Expr) := do
  let sight ← sight setup
  jump sight.toLook
  match ← next with
  | none => return .error (← unclosed setup opener true none)
  | some item =>
    match item.lexeme with
    | .token (.closing .round) => return .ok e
    | .token _ => return .error (.plain item.span .expectedClose)
    | .error cause => return .error (← unclosed setup opener true (some cause))

/-- A part of the parser with what it is told, by the type of what it comes to. -/
inductive Part : Type → Type 1 where
  /-- An expression, one level deeper. -/
  | expression (frame : Frame) : Part (Reply Outcome)
  /-- An expression from its first item on. -/
  | term (frame : Frame) : Part (Reply Outcome)
  /-- An item that may begin an expression, and the expression if it does. -/
  | termRound (frame : Frame) : Part (Round Unit (Reply Outcome))
  /-- What goes on with `lhs` on its right. -/
  | extend (frame : Frame) (lhs : Expr) : Part (Reply Expr)
  /-- What goes on with `lhs` by one item, operand or argument. -/
  | extendRound (frame : Frame) (lhs : Expr) : Part (Round Expr (Reply Expr))
  /-- The operand on the right of an operator. -/
  | operand (frame : Frame) (lhs : Expr) (op : Operator) (span : Span) : Part (Reply Expr)
  /-- The argument of a function. -/
  | argument (frame : Frame) (function : Expr) : Part (Reply Expr)
  /-- The statements of a block. -/
  | block (level : Nat) : Part (Reply Outcome)
  /-- The statements of a block that follow others. -/
  | statementsAfter (level : Nat) (statements : Array Expr) : Part (Reply (Array Expr))
  /-- One statement that follows others, if there is one. -/
  | statementRound (level : Nat) (statements : Array Expr) :
    Part (Round (Array Expr) (Reply (Array Expr)))
  /-- The declaration that a keyword begins. -/
  | declaration (word : Keyword) (keyword : Span) : Part (Reply Expr)
  /-- The value of a declaration. -/
  | initializer (level : Nat) (assignment : Span) : Part (Reply Expr)
  /-- What a paren opens. -/
  | group (opener : Span) : Part (Reply Expr)
  /-- What stands between a paren and the one that closes it, and that one. -/
  | groupBody (opener : Span) : Part (Reply Expr)

/-- Reads one part by way of others; the statements of a block join those before them. -/
def perform {α : Type} (part : Part α) : Parsing α :=
  -- The knot is tied by `apply`, for an application that is written out keeps its place in the file.
  letI read : {α : Type} → Part α → Parsing α := fun part => by apply perform; exact part
  match part with
  | .expression frame => do
    if setup.limit ≤ (← get).depth then
      let sight ← sight setup
      let place := sight.span.getD (.emptyAt (byteLength setup.text))
      return .error (.plain place (.tooDeep setup.limit))
    else
      enter
      let reply ← read (.term frame)
      leave
      return reply
  | .term frame => do
    match ← read (.termRound frame) with
    | .again () => read (.term frame)
    | .done reply => return reply
  | .termRound frame => do
    match ← next with
    | none => return .done (.ok .exhausted)
    | some item =>
      match item.first with
      | .comment => return .again ()
      | .newline =>
        unread
        let sight ← sight setup
        if sight.place.any (· < frame.level) then return .done (.ok .closed)
        else
          jump sight.toLook
          return .again ()
      | .leaf e => return .done (← read (.extend frame e)).found
      | .keyword word =>
        if frame.isStatement then return .done (← read (.declaration word item.span)).found
        else return .done (.error (.plain item.span (.keywordAsOperand word)))
      | .opening =>
        match ← read (.group item.span) with
        | .ok e => return .done (← read (.extend frame e)).found
        | .error e => return .done (.error e)
      | .closing =>
        if 0 < (← get).openParens then
          unread
          return .done (.ok .closed)
        else return .done (.error (.plain item.span .unexpectedClose))
      | .misplaced problem => return .done (.error (.plain item.span problem))
  | .extend frame lhs => do
    match ← read (.extendRound frame lhs) with
    | .again e => read (.extend frame e)
    | .done reply => return reply
  | .extendRound frame lhs => do
    match ← next with
    | none => return .done (.ok lhs)
    | some item =>
      match item.follow with
      | .comment => return .again lhs
      | .newline =>
        unread
        if ← lineBreak setup frame then return .again lhs else return .done (.ok lhs)
      | .operator op =>
        if frame.accepts op.binding then
          match ← read (.operand frame lhs op item.span) with
          | .ok e => return .again e
          | .error e => return .done (.error e)
        else
          unread
          return .done (.ok lhs)
      | .argument =>
        unread
        if frame.accepts .application then
          match ← read (.argument frame lhs) with
          | .ok e => return .again e
          | .error e => return .done (.error e)
        else return .done (.ok lhs)
      | .closing =>
        unread
        return .done (.ok lhs)
      | .misplaced problem => return .done (.error (.plain item.span problem))
  | .operand frame lhs op span => do
    match (← read (.expression (frame.operand op.binding))).required span (.operand op.symbol) with
    | .ok rhs =>
      let whole ← through lhs.span rhs.span
      return .ok (.binary whole op span lhs rhs)
    | .error e => return .error e
  | .argument frame function => do
    let anchor := Span.emptyAt function.span.stop
    match (← read (.expression (frame.operand .application))).required anchor .argument with
    | .ok argument =>
      let whole ← through function.span argument.span
      return .ok (.apply whole false anchor function argument)
    | .error e => return .error e
  | .block level => do
    match ← read (.expression (.statement level)) with
    | .ok (.found first) =>
      match ← read (.statementsAfter level #[first]) with
      | .ok statements => return .ok (.found (← assemble statements))
      | .error e => return .error e
    | reply => return reply
  | .statementsAfter level statements => do
    match ← read (.statementRound level statements) with
    | .again statements => read (.statementsAfter level statements)
    | .done reply => return reply
  | .statementRound level statements => do
    if ← nextStatement setup level then
      match ← read (.expression (.statement level)) with
      | .ok (.found e) => return .again (statements ++ e.statements)
      | .ok _ => return .done (.ok statements)
      | .error e => return .done (.error e)
    else return .done (.ok statements)
  | .declaration word keyword => do
    let level ← column setup keyword.start
    match ← expect setup declaredName? .expectedName with
    | .error e => return .error e
    | .ok (name, nameSpan) =>
      match ← expect setup assignment? .expectedAssignment with
      | .error e => return .error e
      | .ok ((), assignment) =>
        match ← read (.initializer level assignment) with
        | .ok value =>
          let whole ← through keyword value.span
          return .ok (.declaration whole word name nameSpan value)
        | .error e => return .error e
  | .initializer level assignment => do
    let sight ← sight setup
    match sight.place, sight.span with
    | some place, some span =>
      if sight.crossedNewline && place ≤ level then
        return .error (.plain span .expectedIndented)
      else
        jump sight.toLook
        return (← read (.block place)).required assignment .initializer
    | _, _ => return (← read (.block (level + 1))).required assignment .initializer
  | .group opener => do
    openParen
    let reply ← read (.groupBody opener)
    closeParen
    return reply
  | .groupBody opener => do
    match ← next with
    | none => return .error (← unclosed setup opener false none)
    | some item =>
      match item.lexeme with
      | .token (.closing .round) =>
        let whole ← through opener item.span
        return .ok (.unit whole)
      | .token _ =>
        unread
        match ← read (.block 0) with
        | .ok (.found e) => closeGroup setup opener e
        | .ok .closed => return .error (.plain opener .unbalanced)
        | .ok .exhausted => return .error (← unclosed setup opener false none)
        | .error e => return .error e
      | .error cause => return .error (← unclosed setup opener false (some cause))
partial_fixpoint

/-- Reads an expression, one level deeper. -/
def expression (frame : Frame) : Parsing (Reply Outcome) := perform setup (.expression frame)

/-- Reads an expression from its first item on. -/
def term (frame : Frame) : Parsing (Reply Outcome) := perform setup (.term frame)

/-- Reads an item that may begin an expression, and the expression if it does. -/
def termRound (frame : Frame) : Parsing (Round Unit (Reply Outcome)) :=
  perform setup (.termRound frame)

/-- Goes on with `lhs` on its right, up to an item that belongs to a construct around it. -/
def extend (frame : Frame) (lhs : Expr) : Parsing (Reply Expr) := perform setup (.extend frame lhs)

/-- Goes on with `lhs` by one item, operand or argument. -/
def extendRound (frame : Frame) (lhs : Expr) : Parsing (Round Expr (Reply Expr)) :=
  perform setup (.extendRound frame lhs)

/-- Reads the operand on the right of an operator. -/
def operand (frame : Frame) (lhs : Expr) (op : Operator) (span : Span) : Parsing (Reply Expr) :=
  perform setup (.operand frame lhs op span)

/-- Reads the argument of a function. -/
def argument (frame : Frame) (function : Expr) : Parsing (Reply Expr) :=
  perform setup (.argument frame function)

/-- Reads the statements of a block at `level`. -/
def block (level : Nat) : Parsing (Reply Outcome) := perform setup (.block level)

/-- Reads the statements at `level` that follow others. -/
def statementsAfter (level : Nat) (statements : Array Expr) : Parsing (Reply (Array Expr)) :=
  perform setup (.statementsAfter level statements)

/-- Reads one statement that follows others, if there is one; the statements of a block join
them. -/
def statementRound (level : Nat) (statements : Array Expr) :
    Parsing (Round (Array Expr) (Reply (Array Expr))) :=
  perform setup (.statementRound level statements)

/-- Reads the declaration that a keyword begins. -/
def declaration (word : Keyword) (keyword : Span) : Parsing (Reply Expr) :=
  perform setup (.declaration word keyword)

/-- Reads the value of a declaration at `level`. -/
def initializer (level : Nat) (assignment : Span) : Parsing (Reply Expr) :=
  perform setup (.initializer level assignment)

/-- Reads what the paren `opener` opens. -/
def group (opener : Span) : Parsing (Reply Expr) := perform setup (.group opener)

/-- Reads what stands between the paren `opener` and the one that closes it, and that one. -/
def groupBody (opener : Span) : Parsing (Reply Expr) := perform setup (.groupBody opener)

/-- Says what is left of the source past its last statement, if it is more than trivia. -/
def leftover : Parsing (Option ParseError) := do
  let sight ← sight setup
  match sight.item with
  | none => return none
  | some item =>
    match item.lexeme with
    | .error e => return some (.plain item.span (.lexical e))
    | .token (.closing .round) => return some (.plain item.span .unexpectedClose)
    | .token _ => return some (.plain item.span .inconsistentIndentation)

/-- Reads a whole source. -/
def source : Parsing (Reply Expr) := do
  let sight ← sight setup
  match ← block setup (sight.place.getD 0) with
  | .error e => return .error e
  | .ok outcome =>
    match ← leftover setup with
    | some e => return .error e
    | none =>
      match outcome with
      | .found e => return .ok e
      | _ => return .ok (.block (.emptyAt 0) [])

end Session

/-- Reads a source on demand; also says where the session stands at the end. -/
def parseOnDemand (limit : Nat) (source : String) :
    Option (Except Fault (Reply Expr × Session)) :=
  Session.source (.of limit source.toList) (.ofSource source.toList)

end Offside
