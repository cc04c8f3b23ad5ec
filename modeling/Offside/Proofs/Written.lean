import Offside.Proofs.Replay
import Offside.Proofs.Spans
import Offside.Proofs.Spelling

/-!
# Writing expressions down

Every well-formed expression (`Expr.WellFormed`) has a written form (`Expr.written`) that is read
back as an expression of the same shape (`parse_written`).  Operands, values and blocks inside
blocks are written in parens, on lines of their own, so each of them begins at the left margin.

* `Falls.inParens` follows what is written in parens down to its items;
* `ReadsOperand`, `ReadsStatement` and `ReadsBlock` say that items are read as an expression of some
  shape, whatever follows them there.
-/

namespace Offside

/-! ### Written forms -/

/-- A text in parens, on lines of its own. -/
def inParens (text : List Char) : List Char := '(' :: '\n' :: (text ++ ['\n', ')'])

mutual

/-- An expression as it is written. -/
def Expr.written : Expr → List Char
  | .name _ spelling => spelling.toList
  | .unit _ => ['(', ')']
  | .number _ spelling => spelling.toList
  | .text _ value => quote value
  | .bool _ value => if value then "true".toList else "false".toList
  | .block _ statements => writtenBlock statements
  | .declaration _ keyword bound _ value =>
    keyword.spelling.toList ++
      ' ' :: (bound.toList ++ ' ' :: (['='] ++ ' ' :: inParens value.written))
  | .binary _ operator _ left right =>
    inParens left.written ++ ' ' :: (operator.symbol.toList ++ ' ' :: inParens right.written)
  | .apply _ _ _ function argument =>
    inParens function.written ++ ' ' :: inParens argument.written

/-- The statements of a block as they are written, one a line; the first one in parens if it is a
block itself. -/
def Expr.writtenBlock : List Expr → List Char
  | [] => []
  | e :: es => (if e.isBlock then inParens e.written else e.written) ++ writtenAfter es

/-- Statements after another one as they are written, each on a line of its own. -/
def Expr.writtenAfter : List Expr → List Char
  | [] => []
  | e :: es => '\n' :: (e.written ++ writtenAfter es)

end

mutual

/-- Whether an expression can be written: its words have a spelling, its operators are bound by
their symbols, no application is curried, and a block has two statements or more, of which the
first one only may be a block. -/
def Expr.WellFormed : Expr → Prop
  | .name _ spelling => IsName spelling
  | .unit _ => True
  | .number _ spelling => IsNumber spelling
  | .text _ _ => True
  | .bool _ _ => True
  | .block _ statements =>
    2 ≤ statements.length ∧ (∀ e ∈ statements.tail, e.isBlock = false) ∧ WellFormedAll statements
  | .declaration _ _ bound _ value => IsName bound ∧ value.WellFormed
  | .binary _ operator _ left right =>
    IsSymbol operator.symbol ∧ operator.binding = .ofSymbol operator.symbol ∧
      left.WellFormed ∧ right.WellFormed
  | .apply _ curried _ function argument =>
    curried = false ∧ function.WellFormed ∧ argument.WellFormed

/-- Whether expressions can be written. -/
def Expr.WellFormedAll : List Expr → Prop
  | [] => True
  | e :: es => e.WellFormed ∧ WellFormedAll es

end

/-! ### Items in parens -/

theorem Position.column_advanceAll_newline (p : Position) (xs : List Char) :
    (p.advanceAll (xs ++ ['\n'])).column = 0 := by
  rw [advanceAll_append]
  rfl

theorem Position.column_advanceAll_space (p : Position) (xs : List Char) :
    0 < (p.advanceAll (xs ++ [' '])).column := by
  rw [advanceAll_append]
  exact Nat.succ_pos _

/-- That items are those of a group around `its` whose paren stands at `p`. -/
def InParens (p : Position) (its gts : List Item) : Prop :=
  ∃ opener first last close, gts = opener :: first :: (its ++ [last, close]) ∧
    opener.position = p ∧ opener.lexeme = .token (.opening .round) ∧
    first.lexeme = .token .newline ∧ last.lexeme = .token .newline ∧
    close.lexeme = .token (.closing .round) ∧ close.column = 0

/-- The items of a text in parens. -/
theorem Falls.inParens {p : Position} {text : List Char} {its : List Item}
    (h : Falls (p.advanceAll ['(', '\n']) text its) :
    ∃ gts, Falls p (inParens text) gts ∧ InParens p its gts := by
  have opened : Falls p ['('] _ := of_spells spells_open (by simp) p
  obtain ⟨last, hlast, body⟩ := h.line (.of_spells spells_close (by simp) _)
  obtain ⟨first, hfirst, all⟩ := opened.line body
  exact ⟨_, all, _, first, last, _, rfl, rfl, rfl, hfirst, hlast, rfl,
    Position.column_advanceAll_newline _ _⟩

theorem InParens.length_solid {p : Position} {its gts : List Item} (h : InParens p its gts) :
    (solid gts).length = (solid its).length + 2 := by
  obtain ⟨opener, first, last, close, rfl, -, ho, hf, hl, hc, -⟩ := h
  rw [solid_cons (Item.not_isTrivia_of_lexeme ho (by simp) (by simp)),
    solid_cons_of_trivia (Item.isTrivia_of_newline hf), solid_append,
    solid_cons_of_trivia (Item.isTrivia_of_newline hl),
    solid_cons (Item.not_isTrivia_of_lexeme hc (by simp) (by simp))]
  simp

/-! ### What the items are read as -/

/-- Whether a statement can end before items: either none are left, or the next line has something
at the left margin that is no operator. -/
def AtMargin (rest : List Item) : Prop :=
  rest = [] ∨ ∃ nl tail, rest = nl :: tail ∧ nl.lexeme = .token .newline ∧
    ∀ next ∈ (significant tail).head?, next.column = 0 ∧ next.isOperator = false

/-- Every expression stops at the margin. -/
theorem AtMargin.stops {rest : List Item} (h : AtMargin rest) (ctx : Context) :
    ctx.stops rest = true := by
  rcases h with rfl | ⟨nl, tail, rfl, hnl, hnext⟩
  · rfl
  · have ends : ctx.continues tail = false := by
      unfold Context.continues
      split
      · simp
      · next next others hs =>
        obtain ⟨column, operator⟩ := hnext next (by simp [hs])
        simp [column, operator]
    simp [Context.stops, Item.follow, hnl, ends]

/-- A block that is indented ends at the margin. -/
theorem AtMargin.blockEnds {rest : List Item} (h : AtMargin rest) {level : Nat} (pos : 0 < level)
    (isGrouped : Bool) : blockEnds level isGrouped rest = true := by
  rcases h with rfl | ⟨nl, tail, rfl, hnl, hnext⟩
  · rfl
  · rw [Offside.blockEnds, significant_cons_newline hnl]
    split
    · rfl
    · next next others hs =>
      obtain ⟨column, -⟩ := hnext next (by simp [hs])
      simp [column, pos]

/-- That items begin at `p` with a token that begins a phrase. -/
def BeginsAt (p : Position) (its : List Item) : Prop :=
  ∃ first tail, its = first :: tail ∧ first.position = p ∧ first.IsStart ∧ first.isOperator = false

/-- That the items of a group whose paren stands at `p` are read as an operand of the shape of
`x`, whatever follows. -/
structure ReadsOperand (p : Position) (x : Expr) (gts : List Item) : Prop where
  /-- They are those of a group. -/
  parens : ∃ its, InParens p its gts
  /-- They are read as such an operand. -/
  read : ∀ (room : Nat) (ctx : Context) (after : List Item), (solid gts).length ≤ room + 1 →
    ∃ e, e.bare = x.bare ∧ ∀ used rest y, used ++ rest = after →
      Derivable (.extension room ctx e used rest y) →
      Derivable (.expression (room + 1) ctx (gts ++ used) rest y)

/-- That items are read as a statement of the shape of `x` where a statement can end. -/
def ReadsStatement (x : Expr) (its : List Item) : Prop :=
  ∀ (room level : Nat) (isGrouped : Bool) (rest : List Item), (solid its).length ≤ room →
    AtMargin rest → ∃ e, e.bare = x.bare ∧
      Derivable (.expression room (.statement level isGrouped) its rest e)

/-- That items are read as a block at the margin of the shape of `x` where a block can end. -/
def ReadsBlock (x : Expr) (its : List Item) : Prop :=
  ∀ (room : Nat) (isGrouped : Bool) (rest : List Item), (solid its).length ≤ room →
    AtMargin rest → blockEnds 0 isGrouped rest = true → ∃ e, e.bare = x.bare ∧
      Derivable (.block room 0 isGrouped its rest e)

section Reads

variable {p : Position} {x left right : Expr} {its gts : List Item}

/-- A line break before a block at the margin is skipped. -/
theorem derivable_newline_block {room : Nat} {isGrouped : Bool} {nl : Item} {used rest : List Item}
    {e : Expr} (hnl : nl.lexeme = .token .newline)
    (h : Derivable (.block room 0 isGrouped used rest e)) :
    Derivable (.block room 0 isGrouped (nl :: used) rest e) := by
  cases h with
  | @block _ _ _ first es used₁ used₂ _ hfirst hothers =>
    have stays : (Context.statement 0 isGrouped).dedents (used₁ ++ (used₂ ++ rest)) = false := by
      unfold Context.dedents
      split <;> simp [Context.statement]
    cases room with
    | zero => cases hfirst
    | succ room => exact .block (.leadingNewline hnl stays hfirst) hothers

/-- A block in parens is an operand. -/
theorem ReadsBlock.operand (h : ReadsBlock x its) (parens : InParens p its gts) :
    ReadsOperand p x gts := by
  refine ⟨⟨its, parens⟩, fun room ctx after fits => ?_⟩
  rw [parens.length_solid] at fits
  obtain ⟨opener, first, last, close, rfl, -, ho, hf, hl, hc, margin⟩ := parens
  have solid_close := Item.not_isTrivia_of_lexeme hc (by simp) (by simp)
  have shut : significant (last :: close :: after) = close :: after := by
    rw [significant_cons_newline hl, significant_cons solid_close]
  have ends : blockEnds 0 true (last :: close :: after) = true := by
    simp [blockEnds, shut, Item.isClose_of_closing hc]
  have stops : AtMargin (last :: close :: after) := by
    refine .inr ⟨last, close :: after, rfl, hl, ?_⟩
    simp [significant_cons solid_close, margin, Item.isOperator, hc]
  obtain ⟨e, bare, content⟩ := h room true (last :: close :: after) (by omega) stops ends
  refine ⟨e, bare, fun used rest y hu next => ?_⟩
  have shape : opener :: first :: (its ++ [last, close]) ++ used =
      opener :: ((first :: its) ++ ([last] ++ close :: used)) := by simp
  rw [shape]
  refine .group ho ?_ (by simp [Item.isTrivia_of_newline hl]) hc next
  rw [hu]
  exact derivable_newline_block hf content

theorem ReadsOperand.two_le_length (h : ReadsOperand p x gts) : 2 ≤ (solid gts).length := by
  obtain ⟨its, parens⟩ := h.parens
  rw [parens.length_solid]
  exact Nat.le_add_left ..

theorem ReadsOperand.beginsAt (h : ReadsOperand p x gts) (rest : List Item) :
    BeginsAt p (gts ++ rest) := by
  obtain ⟨its, opener, first, last, close, rfl, hp, ho, -⟩ := h.parens
  exact ⟨opener, _, rfl, hp, ⟨_, ho, by simp, by simp, by simp⟩, by simp [Item.isOperator, ho]⟩

/-- An operand by itself is a statement. -/
theorem ReadsOperand.statement (h : ReadsOperand p x gts) : ReadsStatement x gts := by
  intro room level isGrouped rest fits margin
  have two := h.two_le_length
  obtain ⟨room, rfl⟩ : ∃ r, room = r + 1 := ⟨room - 1, by omega⟩
  obtain ⟨e, bare, read⟩ := h.read room (.statement level isGrouped) rest fits
  have := read [] rest e rfl (.stop (margin.stops _))
  rw [List.append_nil] at this
  exact ⟨e, bare, this⟩

/-- A statement by itself is a block. -/
theorem ReadsStatement.block (h : ReadsStatement x its) : ReadsBlock x its := by
  intro room isGrouped rest fits margin ends
  obtain ⟨e, bare, read⟩ := h room 0 isGrouped rest fits margin
  have alone : Derivable (.block room 0 isGrouped (its ++ []) rest (e.sequence [])) :=
    .block read (.finish ends)
  rw [List.append_nil] at alone
  exact ⟨e, bare, alone⟩

theorem readsStatement_leaf {item : Item} {t : Token} {e : Expr} (lexeme : item.lexeme = .token t)
    (leaf : t.leaf? item.span = some e) (bare : e.bare = x.bare) : ReadsStatement x [item] := by
  intro room level isGrouped rest fits margin
  have first := Item.first_of_leaf lexeme leaf
  rw [solid_cons (Item.not_isTrivia_of_leaf first)] at fits
  cases room with
  | zero => cases fits
  | succ room => exact ⟨e, bare, .leaf first (.stop (margin.stops _))⟩

theorem readsStatement_unit {opener close : Item} (span : Span)
    (opens : opener.lexeme = .token (.opening .round))
    (closes : close.lexeme = .token (.closing .round)) :
    ReadsStatement (.unit span) [opener, close] := by
  intro room level isGrouped rest fits margin
  rw [solid_cons (Item.not_isTrivia_of_lexeme opens (by simp) (by simp))] at fits
  cases room with
  | zero => cases fits
  | succ room =>
    exact ⟨.unit (opener.span.through close.span), rfl,
      .unit opens closes (.stop (margin.stops _))⟩

/-- Operands with an operator in between. -/
theorem readsStatement_binary {q : Position} {item : Item} {operator : Operator}
    {span operatorSpan : Span} (hl : ReadsOperand p left its) (hr : ReadsOperand q right gts)
    (lexeme : item.lexeme = .token (.operator operator.symbol))
    (bound : operator.binding = .ofSymbol operator.symbol) :
    ReadsStatement (.binary span operator operatorSpan left right) (its ++ item :: gts) := by
  intro room level isGrouped rest fits margin
  rw [solid_append, solid_cons (Item.not_isTrivia_of_lexeme lexeme (by simp) (by simp)),
    List.length_append, List.length_cons] at fits
  have two := hl.two_le_length
  -- The operand on the right is read one level deeper.
  obtain ⟨room, rfl⟩ : ∃ r, room = r + 2 := ⟨room - 2, by omega⟩
  have symbol : operator = .ofSymbol operator.symbol := by
    rw [Operator.ofSymbol, ← bound]
  obtain ⟨l, left_bare, left_read⟩ := hl.read (room + 1) (.statement level isGrouped)
    (item :: (gts ++ rest)) (by omega)
  obtain ⟨r, right_bare, right_read⟩ := hr.read room
    ((Context.statement level isGrouped).operand (.ofSymbol operator.symbol)) rest (by omega)
  have operand := right_read [] rest r rfl (.stop (margin.stops _))
  rw [List.append_nil] at operand
  have accepted : (Context.statement level isGrouped).accepts (.ofSymbol operator.symbol) = true :=
    Binding.bindsAbove_iff.2 (.inl (Binding.ofSymbol_precedence_pos _))
  refine ⟨l.infixed (.ofSymbol operator.symbol) item.span r, ?_, ?_⟩
  · rw [Expr.infixed, Expr.bare_binary, Expr.bare_binary, left_bare, right_bare, ← symbol]
  · have next : Derivable (.extension (room + 1) (.statement level isGrouped) l
        (item :: (gts ++ [])) rest (l.infixed (.ofSymbol operator.symbol) item.span r)) :=
      .operator lexeme accepted operand (.stop (margin.stops _))
    rw [List.append_nil] at next
    exact left_read (item :: gts) rest _ rfl next

/-- Operands next to each other. -/
theorem readsStatement_apply {q : Position} {span anchor : Span} (hl : ReadsOperand p left its)
    (hr : ReadsOperand q right gts) :
    ReadsStatement (.apply span false anchor left right) (its ++ gts) := by
  intro room level isGrouped rest fits margin
  rw [solid_append, List.length_append] at fits
  have two := hl.two_le_length
  have two' := hr.two_le_length
  obtain ⟨room, rfl⟩ : ∃ r, room = r + 2 := ⟨room - 2, by omega⟩
  obtain ⟨l, left_bare, left_read⟩ := hl.read (room + 1) (.statement level isGrouped) (gts ++ rest)
    (by omega)
  obtain ⟨r, right_bare, right_read⟩ := hr.read room
    ((Context.statement level isGrouped).operand .application) rest (by omega)
  have operand := right_read [] rest r rfl (.stop (margin.stops _))
  rw [List.append_nil] at operand
  obtain ⟨body, opener, first, last, close, rfl, -, ho, -⟩ := hr.parens
  have accepted : (Context.statement level isGrouped).accepts .application = true := rfl
  refine ⟨l.applied r, ?_, ?_⟩
  · rw [Expr.applied, Expr.bare_apply, Expr.bare_apply, left_bare, right_bare]
  · have next : Derivable (.extension (room + 1) (.statement level isGrouped) l
        (opener :: (first :: (body ++ [last, close]) ++ [])) rest (l.applied r)) :=
      .argument (Item.follow_of_opening ho) accepted operand (.stop (margin.stops _))
    rw [List.append_nil] at next
    exact left_read _ rest _ rfl next

/-- A declaration whose value is in parens. -/
theorem readsStatement_declaration {keyword sign bound : Item} {word : Keyword} {name : String}
    {span nameSpan : Span} (hv : ReadsOperand p x gts)
    (lexeme : keyword.lexeme = .token (.keyword word)) (named : bound.lexeme = .token (.name name))
    (assigned : sign.lexeme = .token (.operator "=")) (indented : 0 < p.column) :
    ReadsStatement (.declaration span word name nameSpan x) (keyword :: bound :: sign :: gts) := by
  intro room level isGrouped rest fits margin
  rw [solid_cons (Item.not_isTrivia_of_lexeme lexeme (by simp) (by simp)),
    solid_cons (Item.not_isTrivia_of_lexeme named (by simp) (by simp)),
    solid_cons (Item.not_isTrivia_of_lexeme assigned (by simp) (by simp))] at fits
  simp only [List.length_cons] at fits
  obtain ⟨room, rfl⟩ : ∃ r, room = r + 1 := ⟨room - 1, by omega⟩
  obtain ⟨v, bare, read⟩ := hv.statement room p.column isGrouped rest (by omega) margin
  have value : Derivable (.block room p.column isGrouped (gts ++ []) rest (v.sequence [])) :=
    .block read (.finish (margin.blockEnds indented isGrouped))
  rw [List.append_nil] at value
  obtain ⟨its, opener, first, last, close, rfl, rfl, ho, -⟩ := hv.parens
  have derived : Derivable (.expression (room + 1) (.statement level isGrouped)
      (keyword :: bound :: sign :: ([] ++ opener :: (first :: (its ++ [last, close])))) rest
      (.declaration (keyword.span.through v.span) word name bound.span v)) :=
    .declaration lexeme rfl named assigned (by simp)
      (Item.not_isTrivia_of_lexeme ho (by simp) (by simp)) (by simp) value
  refine ⟨_, ?_, derived⟩
  exact congrArg (Expr.declaration _ word name _) bare

/-! ### Blocks -/

/-- That each of the lines is read as a statement of the shape of one of `xs`. -/
inductive ReadsLines : List Expr → List Item → Prop
  /-- No line is left. -/
  | nil : ReadsLines [] []
  /-- A statement stands on the next line. -/
  | cons {x : Expr} {xs : List Expr} {nl : Item} {q : Position} {its lines : List Item}
    (newline : nl.lexeme = .token .newline) (begins : BeginsAt q its) (margin : q.column = 0)
    (plain : x.isBlock = false) (statement : ReadsStatement x its) (others : ReadsLines xs lines) :
    ReadsLines (x :: xs) (nl :: (its ++ lines))

theorem ReadsLines.atMargin {xs : List Expr} {lines rest : List Item} (h : ReadsLines xs lines)
    (hrest : AtMargin rest) : AtMargin (lines ++ rest) := by
  cases h with
  | nil => exact hrest
  | @cons x xs nl q its lines newline begins margin plain statement others =>
    obtain ⟨first, tail, rfl, rfl, start, operator⟩ := begins
    refine .inr ⟨nl, first :: (tail ++ lines) ++ rest, rfl, newline, ?_⟩
    rw [List.cons_append, significant_cons start.not_isTrivia]
    rintro next ⟨⟩
    exact ⟨margin, operator⟩

/-- Lines are read as statements. -/
theorem ReadsLines.statements {xs : List Expr} {lines rest : List Item} {room : Nat}
    {isGrouped : Bool} (h : ReadsLines xs lines) (fits : (solid lines).length ≤ room)
    (margin : AtMargin rest) (ends : blockEnds 0 isGrouped rest = true) :
    ∃ es, es.map Expr.bare = xs.map Expr.bare ∧
      Derivable (.statements room 0 isGrouped lines rest es) := by
  induction h with
  | nil => exact ⟨[], rfl, .finish ends⟩
  | @cons x xs nl q its lines newline begins _ plain statement others ih =>
    rw [solid_cons_of_trivia (Item.isTrivia_of_newline newline), solid_append,
      List.length_append] at fits
    obtain ⟨es, bare, derived⟩ := ih (by omega)
    obtain ⟨e, shape, content⟩ := statement room 0 isGrouped (lines ++ rest) (by omega)
      (others.atMargin margin)
    obtain ⟨first, tail, rfl, -, start, -⟩ := begins
    have single : e.isBlock = false := by
      rw [← Expr.isBlock_mapSpans .erase e]
      exact (congrArg Expr.isBlock shape).trans ((Expr.isBlock_mapSpans .erase x).trans plain)
    have all : Derivable (.statements room 0 isGrouped ([nl] ++ first :: (tail ++ lines)) rest
        (e.statements ++ es)) :=
      .statement (by simp [Item.isTrivia_of_newline newline]) start.not_isTrivia (Nat.zero_le _)
        content derived
    rw [Expr.statements_of_not_isBlock single] at all
    exact ⟨e :: es, by rw [List.map_cons, List.map_cons, shape, bare], all⟩

/-- A statement and some lines are a block. -/
theorem readsBlock_lines {xs : List Expr} {lines : List Item} {span : Span}
    (first : ReadsStatement x its) (others : ReadsLines xs lines) (more : xs ≠ []) :
    ReadsBlock (.block span (x :: xs)) (its ++ lines) := by
  intro room isGrouped rest fits margin ends
  rw [solid_append, List.length_append] at fits
  obtain ⟨e, bare, read⟩ := first room 0 isGrouped (lines ++ rest) (by omega)
    (others.atMargin margin)
  obtain ⟨es, shapes, derived⟩ : ∃ es, es.map Expr.bare = xs.map Expr.bare ∧
      Derivable (.statements room 0 isGrouped lines rest es) :=
    others.statements (by omega) margin ends
  refine ⟨e.sequence es, ?_, .block read derived⟩
  have shape : (e :: es).map Expr.bare = (x :: xs).map Expr.bare := by
    rw [List.map_cons, List.map_cons, bare, shapes]
  cases es with
  | nil => exact absurd (List.map_eq_nil_iff.1 shapes.symm) more
  | cons e' es =>
    rw [Expr.sequence, Expr.bare_block, Expr.bare_block, shape]

end Reads

/-! ### Every written form is read -/

/-- That what is written for an expression at the margin is read as an expression of its shape. -/
def Expr.Readable (x : Expr) : Prop :=
  ∀ p : Position, p.column = 0 → ∃ its, Falls p x.written its ∧ BeginsAt p its ∧
    ReadsBlock x its ∧ (x.isBlock = false → ReadsStatement x its)

namespace Expr

variable {x : Expr}

/-- What is written for it in parens is an operand, wherever it stands. -/
theorem Readable.operand (h : x.Readable) (p : Position) :
    ∃ gts, Falls p (inParens x.written) gts ∧ ReadsOperand p x gts := by
  obtain ⟨its, falls, -, block, -⟩ :=
    h (p.advanceAll ['(', '\n']) (Position.column_advanceAll_newline p ['('])
  obtain ⟨gts, all, parens⟩ := falls.inParens
  exact ⟨gts, all, block.operand parens⟩

/-- A statement that is no block is readable if its items are read as one. -/
theorem Readable.of_statement (h : ∀ p : Position, p.column = 0 →
    ∃ its, Falls p x.written its ∧ BeginsAt p its ∧ ReadsStatement x its) : x.Readable := by
  intro p margin
  obtain ⟨its, falls, begins, statement⟩ := h p margin
  exact ⟨its, falls, begins, statement.block, fun _ => statement⟩

/-- A token that is an expression by itself is readable. -/
theorem Readable.of_leaf {t : Token} (h : Spells x.written t)
    (leaf : ∀ span, ∃ e, t.leaf? span = some e ∧ e.bare = x.bare) : x.Readable := by
  refine .of_statement fun p _ => ?_
  obtain ⟨e, he, bare⟩ := leaf ⟨p.offset, byteLength x.written⟩
  have first : Item.first ⟨.token t, p, byteLength x.written⟩ = .leaf e := Item.first_of_leaf rfl he
  have start := Item.isStart_of_first_leaf first
  have comment : t ≠ .comment := by
    rintro rfl
    cases he
  refine ⟨_, .of_spells h comment p, ⟨_, [], rfl, rfl, start, ?_⟩, readsStatement_leaf rfl he bare⟩
  cases t <;> cases he <;> rfl

/-- Lines after a text are read as statements. -/
theorem exists_readsLines {es : List Expr} (readable : ∀ e ∈ es, e.Readable)
    (plain : ∀ e ∈ es, e.isBlock = false) {p : Position} {xs : List Char} {its : List Item}
    (h : Falls p xs its) :
    ∃ lines, Falls p (xs ++ writtenAfter es) (its ++ lines) ∧ ReadsLines es lines := by
  induction es generalizing xs its with
  | nil => exact ⟨[], by simpa [writtenAfter] using h, .nil⟩
  | cons e es ih =>
    rw [List.forall_mem_cons] at readable plain
    have margin := Position.column_advanceAll_newline p xs
    obtain ⟨jts, falls, begins, -, statement⟩ := readable.1 _ margin
    obtain ⟨nl, hnl, line⟩ := h.line falls
    obtain ⟨lines, all, others⟩ := ih readable.2 plain.2 line
    refine ⟨nl :: (jts ++ lines), ?_, .cons hnl begins margin plain.1 (statement plain.1) others⟩
    rw [writtenAfter]
    simpa using all

mutual

/-- Every well-formed expression is readable. -/
theorem readable (x : Expr) (h : x.WellFormed) : x.Readable := by
  cases x with
  | name span spelling => exact .of_leaf (spells_name h) fun span => ⟨_, rfl, rfl⟩
  | unit span =>
    refine .of_statement fun p _ => ?_
    have opened : Falls p ['('] _ := .of_spells spells_open (by simp) p
    have closed : Falls (p.advanceAll ['(']) [')'] _ := .of_spells spells_close (by simp) _
    exact ⟨_, opened.append isSeparator_close (by decide) closed,
      ⟨_, _, rfl, rfl, ⟨_, rfl, by simp, by simp, by simp⟩, rfl⟩, readsStatement_unit span rfl rfl⟩
  | number span spelling => exact .of_leaf (spells_number h) fun span => ⟨_, rfl, rfl⟩
  | text span value => exact .of_leaf (spells_text value) fun span => ⟨_, rfl, rfl⟩
  | bool span value => exact .of_leaf (spells_bool value) fun span => ⟨_, rfl, rfl⟩
  | block span statements =>
    obtain ⟨two, plain, wellFormed⟩ := h
    have all := readableAll statements wellFormed
    cases statements with
    | nil => cases two
    | cons e es =>
      rw [List.forall_mem_cons] at all
      have more : es ≠ [] := by
        rintro rfl
        simp at two
      intro p margin
      by_cases nested : e.isBlock = true
      · obtain ⟨gts, falls, operand⟩ := all.1.operand p
        obtain ⟨lines, whole, others⟩ := exists_readsLines all.2 plain falls
        refine ⟨gts ++ lines, ?_, operand.beginsAt _,
          readsBlock_lines operand.statement others more, fun h => by cases h⟩
        rw [written, writtenBlock, if_pos nested]
        exact whole
      · obtain ⟨its, falls, begins, -, statement⟩ := all.1 p margin
        obtain ⟨lines, whole, others⟩ := exists_readsLines all.2 plain falls
        refine ⟨its ++ lines, ?_, ?_,
          readsBlock_lines (statement (by simpa using nested)) others more, fun h => by cases h⟩
        · rw [written, writtenBlock, if_neg nested]
          exact whole
        · obtain ⟨first, tail, rfl, hp, start, operator⟩ := begins
          exact ⟨first, _, rfl, hp, start, operator⟩
  | declaration span word name nameSpan value =>
    obtain ⟨named, wellFormed⟩ := h
    have assignment : IsSymbol "=" := .inr ⟨by decide, List.all_eq_true.1 (by decide), by decide⟩
    refine .of_statement fun p _ => ?_
    obtain ⟨gts, falls, operand⟩ := (readable value wellFormed).operand _
    refine ⟨_, .space (.of_spells (spells_keyword word) (by simp) p)
      (.space (.of_spells (spells_name named) (by simp) _)
        (.space (.of_spells (spells_operator assignment) (by simp) _) falls)),
      ⟨_, _, rfl, rfl, ⟨_, rfl, by simp, by simp, by simp⟩, rfl⟩,
      readsStatement_declaration operand rfl rfl rfl (Position.column_advanceAll_space _ _)⟩
  | binary span operator operatorSpan left right =>
    obtain ⟨symbol, bound, wellFormed, wellFormed'⟩ := h
    refine .of_statement fun p _ => ?_
    obtain ⟨its, falls, operand⟩ := (readable left wellFormed).operand p
    obtain ⟨gts, falls', operand'⟩ := (readable right wellFormed').operand _
    exact ⟨_, falls.space (.space (.of_spells (spells_operator symbol) (by simp) _) falls'),
      operand.beginsAt _, readsStatement_binary operand operand' rfl bound⟩
  | apply span curried anchor function argument =>
    obtain ⟨rfl, wellFormed, wellFormed'⟩ := h
    refine .of_statement fun p _ => ?_
    obtain ⟨its, falls, operand⟩ := (readable function wellFormed).operand p
    obtain ⟨gts, falls', operand'⟩ := (readable argument wellFormed').operand _
    exact ⟨_, falls.space falls', operand.beginsAt _, readsStatement_apply operand operand'⟩

theorem readableAll (es : List Expr) (h : WellFormedAll es) : ∀ e ∈ es, e.Readable := by
  cases es with
  | nil => simp
  | cons e es => exact List.forall_mem_cons.2 ⟨readable e h.1, readableAll es h.2⟩

end

end Expr

/-! ### Whole sources -/

/-- **What is written for a well-formed expression is read back as an expression of its shape**, if
expressions may nest deeper than it has significant items. -/
theorem parse_written {x : Expr} (wellFormed : x.WellFormed) {limit : Nat}
    (deep : (solid (items x.written)).length < limit) :
    ∃ e, parseWithin limit (String.ofList x.written) = .ok e ∧ e.bare = x.bare := by
  obtain ⟨its, ⟨rfl, -⟩, ⟨first, tail, hs, hp, start, -⟩, block, -⟩ :=
    x.readable wellFormed .origin rfl
  obtain ⟨e, bare, derived⟩ := block limit false [] (Nat.le_of_lt deep) (.inl rfl) rfl
  have level : firstColumn (itemsFrom .origin x.written ++ []) = 0 := by
    rw [hs, List.append_nil, firstColumn, significant_cons start.not_isTrivia]
    exact congrArg Position.column hp
  rw [← level] at derived
  have read : parseItems limit (byteLength x.written) (itemsFrom .origin x.written ++ []) = .ok e :=
    parseItems_of_derivable derived rfl
  rw [List.append_nil] at read
  refine ⟨e, ?_, bare⟩
  rw [parseWithin, String.toList_ofList]
  exact read

/-- `parse_written` for a block that begins with a block and goes on with a declaration. -/
theorem parse_written_block :
    let s : Span := .emptyAt 0
    let x : Expr := .block s [.block s [.name s "a", .text s "\"\n"],
      .declaration s .constant "x" s (.binary s (.ofSymbol "+") s (.number s "1.5")
        (.apply s false s (.name s "f") (.unit s)))]
    ∃ e, parseWithin 32 (String.ofList x.written) = .ok e ∧ e.bare = x.bare := by
  intro s x
  have wellFormed : x.WellFormed := by
    simp only [x, Expr.WellFormed, Expr.WellFormedAll]
    have number : IsNumber "1.5" :=
      .inr ⟨['1'], ['5'], rfl, ⟨by decide, List.all_eq_true.1 (by decide)⟩,
        ⟨by decide, List.all_eq_true.1 (by decide)⟩⟩
    have symbol : IsSymbol "+" := .inr ⟨by decide, List.all_eq_true.1 (by decide), by decide⟩
    exact ⟨by decide, by decide, ⟨by decide, by decide, by decide +kernel, trivial, trivial⟩,
      ⟨by decide +kernel, symbol, rfl, number, trivial, by decide +kernel, trivial⟩, trivial⟩
  exact parse_written wellFormed (by decide +kernel)

end Offside
