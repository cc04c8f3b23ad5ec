import Offside.Parse.Source
import Offside.Proofs.Items

/-!
# Derivations of what is read

A `Judgement` says that a part of the parser reads the items `used` off the front of
`used ++ rest` and what it makes of them.  `Derivable` has one rule for each way in which that
comes about, so a statement about everything that is read is one induction over the rules.  The
items of each premise are a suffix of those of the conclusion (`Judgement.suffix_operand` and so
on).

A statement ends at a line break or a closing paren (`breaks_of_derivable`).
-/

namespace Offside

/-! ### Judgements -/

/-- Whether an expression in this context ends before `items`. -/
def Context.stops (ctx : Context) : List Item → Bool
  | [] => true
  | item :: items =>
    match item.follow with
    | .newline => !ctx.continues items
    | .operator op => !ctx.accepts op.binding
    | .argument => !ctx.accepts .application
    | .closing => true
    | .comment | .misplaced _ => false

/-- Whether a block at `level` ends before `items`. -/
def blockEnds (level : Nat) (isGrouped : Bool) (items : List Item) : Bool :=
  match significant items with
  | [] => true
  | item :: _ => item.column < level || (isGrouped && item.isClose)

/-- That a part of the parser reads the items `used`, where `rest` follows them; `room` is how
deep the expressions inside it may nest. -/
inductive Judgement where
  /-- It reads the expression `e`. -/
  | expression (room : Nat) (ctx : Context) (used rest : List Item) (e : Expr)
  /-- It goes on with `lhs` on its right, which makes `e`. -/
  | extension (room : Nat) (ctx : Context) (lhs : Expr) (used rest : List Item) (e : Expr)
  /-- It reads statements that follow another one. -/
  | statements (room level : Nat) (isGrouped : Bool) (used rest : List Item) (es : List Expr)
  /-- It reads the statements of a block, which make `e`. -/
  | block (room level : Nat) (isGrouped : Bool) (used rest : List Item) (e : Expr)

/-- The items from the first one used on. -/
def Judgement.items : Judgement → List Item
  | expression _ _ used rest _ | extension _ _ _ used rest _ | statements _ _ _ used rest _
  | block _ _ _ used rest _ => used ++ rest

/-- The items that are read. -/
def Judgement.used : Judgement → List Item
  | expression _ _ used _ _ | extension _ _ _ used _ _ | statements _ _ _ used _ _
  | block _ _ _ used _ _ => used

/-- The rules by which expressions are read. -/
inductive Derivable : Judgement → Prop
  /-- Nothing more belongs to the expression. -/
  | stop {room : Nat} {ctx : Context} {lhs : Expr} {rest : List Item}
      (stops : ctx.stops rest = true) : Derivable (.extension room ctx lhs [] rest lhs)
  /-- A comment after an expression is skipped. -/
  | comment {room : Nat} {ctx : Context} {lhs e : Expr} {item : Item} {used rest : List Item}
      (lexeme : item.lexeme = .token .comment)
      (next : Derivable (.extension room ctx lhs used rest e)) :
      Derivable (.extension room ctx lhs (item :: used) rest e)
  /-- A line break that the expression goes on past is skipped. -/
  | continuation {room : Nat} {ctx : Context} {lhs e : Expr} {item : Item} {used rest : List Item}
      (lexeme : item.lexeme = .token .newline) (continues : ctx.continues (used ++ rest) = true)
      (next : Derivable (.extension room ctx lhs used rest e)) :
      Derivable (.extension room ctx lhs (item :: used) rest e)
  /-- An operator joins the expression to an operand. -/
  | operator {room : Nat} {ctx : Context} {lhs rhs e : Expr} {item : Item} {symbol : String}
      {used₁ used₂ rest : List Item} (lexeme : item.lexeme = .token (.operator symbol))
      (accepted : ctx.accepts (.ofSymbol symbol) = true)
      (right : Derivable (.expression room (ctx.operand (.ofSymbol symbol)) used₁
        (used₂ ++ rest) rhs))
      (next : Derivable (.extension room ctx (lhs.infixed (.ofSymbol symbol) item.span rhs)
        used₂ rest e)) :
      Derivable (.extension room ctx lhs (item :: (used₁ ++ used₂)) rest e)
  /-- What stands next to the expression is its argument. -/
  | argument {room : Nat} {ctx : Context} {lhs rhs e : Expr} {item : Item}
      {used₁ used₂ rest : List Item} (follow : item.follow = .argument)
      (accepted : ctx.accepts .application = true)
      (right : Derivable (.expression room (ctx.operand .application) (item :: used₁)
        (used₂ ++ rest) rhs))
      (next : Derivable (.extension room ctx (lhs.applied rhs) used₂ rest e)) :
      Derivable (.extension room ctx lhs (item :: (used₁ ++ used₂)) rest e)
  /-- A comment before an expression is skipped. -/
  | leadingComment {room : Nat} {ctx : Context} {e : Expr} {item : Item} {used rest : List Item}
      (lexeme : item.lexeme = .token .comment)
      (next : Derivable (.expression (room + 1) ctx used rest e)) :
      Derivable (.expression (room + 1) ctx (item :: used) rest e)
  /-- A line break before an expression is skipped if the block goes on past it. -/
  | leadingNewline {room : Nat} {ctx : Context} {e : Expr} {item : Item} {used rest : List Item}
      (lexeme : item.lexeme = .token .newline) (stays : ctx.dedents (used ++ rest) = false)
      (next : Derivable (.expression (room + 1) ctx used rest e)) :
      Derivable (.expression (room + 1) ctx (item :: used) rest e)
  /-- An item that is an expression by itself. -/
  | leaf {room : Nat} {ctx : Context} {lhs e : Expr} {item : Item} {used rest : List Item}
      (first : item.first = .leaf lhs)
      (next : Derivable (.extension room ctx lhs used rest e)) :
      Derivable (.expression (room + 1) ctx (item :: used) rest e)
  /-- A paren that is closed at once. -/
  | unit {room : Nat} {ctx : Context} {e : Expr} {opener close : Item} {used rest : List Item}
      (opens : opener.lexeme = .token (.opening .round))
      (closes : close.lexeme = .token (.closing .round))
      (next : Derivable (.extension room ctx (.unit (opener.span.through close.span)) used
        rest e)) :
      Derivable (.expression (room + 1) ctx (opener :: close :: used) rest e)
  /-- A block in parens. -/
  | group {room : Nat} {ctx : Context} {inner e : Expr} {opener close : Item}
      {body skipped used rest : List Item} (opens : opener.lexeme = .token (.opening .round))
      (content : Derivable (.block room 0 true body (skipped ++ close :: (used ++ rest)) inner))
      (trivia : ∀ i ∈ skipped, i.isTrivia = true)
      (closes : close.lexeme = .token (.closing .round))
      (next : Derivable (.extension room ctx inner used rest e)) :
      Derivable (.expression (room + 1) ctx (opener :: (body ++ (skipped ++ close :: used)))
        rest e)
  /-- A declaration; the column of the first item of its value is the level of its block. -/
  | declaration {room : Nat} {ctx : Context} {value : Expr} {item bound sign first : Item}
      {word : Keyword} {name : String} {skipped used rest : List Item}
      (lexeme : item.lexeme = .token (.keyword word)) (statement : ctx.isStatement = true)
      (named : bound.lexeme = .token (.name name))
      (assigned : sign.lexeme = .token (.operator "="))
      (trivia : ∀ i ∈ skipped, i.isTrivia = true) (solid : first.isTrivia = false)
      (indented : skipped.any Item.isNewline = true → item.column < first.column)
      (content : Derivable (.block room first.column ctx.isGrouped (first :: used) rest value)) :
      Derivable (.expression (room + 1) ctx
        (item :: bound :: sign :: (skipped ++ first :: used)) rest
        (.declaration (item.span.through value.span) word name bound.span value))
  /-- No statement follows. -/
  | finish {room level : Nat} {isGrouped : Bool} {rest : List Item}
      (ends : blockEnds level isGrouped rest = true) :
      Derivable (.statements room level isGrouped [] rest [])
  /-- A statement follows. -/
  | statement {room level : Nat} {isGrouped : Bool} {e : Expr} {es : List Expr} {first : Item}
      {skipped used₁ used₂ rest : List Item} (trivia : ∀ i ∈ skipped, i.isTrivia = true)
      (solid : first.isTrivia = false) (deep : level ≤ first.column)
      (content : Derivable (.expression room (.statement level isGrouped) (first :: used₁)
        (used₂ ++ rest) e))
      (others : Derivable (.statements room level isGrouped used₂ rest es)) :
      Derivable (.statements room level isGrouped (skipped ++ first :: (used₁ ++ used₂)) rest
        (e.statements ++ es))
  /-- The statements of a block. -/
  | block {room level : Nat} {isGrouped : Bool} {e : Expr} {es : List Expr}
      {used₁ used₂ rest : List Item}
      (first : Derivable (.expression room (.statement level isGrouped) used₁ (used₂ ++ rest) e))
      (others : Derivable (.statements room level isGrouped used₂ rest es)) :
      Derivable (.block room level isGrouped (used₁ ++ used₂) rest (e.sequence es))

/-! ### Premises

Each premise of a rule is about a suffix of the items that its conclusion is about.
-/

namespace Judgement

section Suffixes

variable {item opener close bound sign first : Item}
variable {used used₁ used₂ body skipped rest : List Item}

theorem suffix_operand :
    used₁ ++ (used₂ ++ rest) <:+ item :: (used₁ ++ used₂) ++ rest := ⟨[item], by simp⟩

theorem suffix_argument :
    item :: used₁ ++ (used₂ ++ rest) <:+ item :: (used₁ ++ used₂) ++ rest := ⟨[], by simp⟩

theorem suffix_next : used₂ ++ rest <:+ item :: (used₁ ++ used₂) ++ rest :=
  ⟨item :: used₁, by simp⟩

theorem suffix_body : body ++ (skipped ++ close :: (used ++ rest)) <:+
    opener :: (body ++ (skipped ++ close :: used)) ++ rest := ⟨[opener], by simp⟩

theorem suffix_past_group :
    used ++ rest <:+ opener :: (body ++ (skipped ++ close :: used)) ++ rest :=
  ⟨opener :: (body ++ (skipped ++ [close])), by simp⟩

theorem suffix_value :
    first :: used ++ rest <:+ item :: bound :: sign :: (skipped ++ first :: used) ++ rest :=
  ⟨item :: bound :: sign :: skipped, by simp⟩

theorem suffix_statement :
    first :: used₁ ++ (used₂ ++ rest) <:+ skipped ++ first :: (used₁ ++ used₂) ++ rest :=
  ⟨skipped, by simp⟩

theorem suffix_others : used₂ ++ rest <:+ skipped ++ first :: (used₁ ++ used₂) ++ rest :=
  ⟨skipped ++ first :: used₁, by simp⟩

theorem suffix_block_first : used₁ ++ (used₂ ++ rest) <:+ used₁ ++ used₂ ++ rest :=
  ⟨[], by simp⟩

theorem suffix_block_others : used₂ ++ rest <:+ used₁ ++ used₂ ++ rest := ⟨used₁, by simp⟩

end Suffixes

end Judgement

/-! ### What is read is tokens -/

/-- **No lexical error is read.** -/
theorem clean_of_derivable {j : Judgement} (h : Derivable j) : Clean j.used := by
  induction h with
  | stop => exact clean_nil
  | comment lexeme _ ih => exact ih.cons lexeme
  | continuation lexeme _ _ ih => exact ih.cons lexeme
  | operator lexeme _ _ _ ihr ihn => exact (ihr.append ihn).cons lexeme
  | argument _ _ _ _ ihr ihn => exact ihr.append ihn
  | leadingComment lexeme _ ih => exact ih.cons lexeme
  | leadingNewline lexeme _ _ ih => exact ih.cons lexeme
  | leaf first _ ih =>
    obtain ⟨t, lexeme, -⟩ := Item.fits_of_first first
    exact ih.cons lexeme
  | unit opens closes _ ih => exact (ih.cons closes).cons opens
  | group opens _ trivia closes _ ihc ihn =>
    exact (ihc.append ((clean_of_trivia trivia).append (ihn.cons closes))).cons opens
  | declaration lexeme _ named assigned trivia _ _ _ ih =>
    exact ((((clean_of_trivia trivia).append ih).cons assigned).cons named).cons lexeme
  | finish => exact clean_nil
  | statement trivia _ _ _ _ ihc iho => exact (clean_of_trivia trivia).append (ihc.append iho)
  | block _ _ ihf iho => exact ihf.append iho

/-! ### Where what is read ends -/

/-- Whether items begin with a line break or a closing paren, if there are any. -/
def AtBreak (items : List Item) : Prop :=
  ∀ item ∈ items.head?, item.isNewline = true ∨ item.isClose = true

/-- That what is read ends at a line break or a closing paren, an operand aside; a block ends
before an item that it cannot have, too. -/
def Judgement.Breaks : Judgement → Prop
  | expression _ ctx _ rest _ | extension _ ctx _ _ rest _ =>
    ctx.isStatement = true → ctx.floor = 0 → AtBreak rest
  | statements _ level isGrouped used rest _ =>
    (AtBreak (used ++ rest) → AtBreak rest) ∧ blockEnds level isGrouped rest = true
  | block _ level isGrouped _ rest _ => AtBreak rest ∧ blockEnds level isGrouped rest = true

/-- A statement stops at a line break or a closing paren only: it accepts whatever operator or
argument comes next. -/
theorem atBreak_of_stops {ctx : Context} {rest : List Item} (hf : ctx.floor = 0)
    (h : ctx.stops rest = true) : AtBreak rest := by
  intro item hi
  cases rest with
  | nil => cases hi
  | cons i rest =>
    cases hi
    simp only [Context.stops] at h
    split at h
    · next hn => exact .inl (Item.isNewline_of_newline (Item.fits_of_follow hn))
    · next op ho =>
      have pos := Binding.ofSymbol_precedence_pos op.symbol
      rw [(Item.fits_of_follow ho).1] at h
      simp [Context.accepts, Binding.bindsAbove, Operator.ofSymbol, hf, pos] at h
    · simp [Context.accepts, Binding.bindsAbove, Binding.application, Binding.ofLeft, hf] at h
    · next hc => exact .inr (Item.isClose_of_closing (Item.fits_of_follow hc))
    · cases h
    · cases h

/-- **Statements and blocks end at a line break or a closing paren.** -/
theorem breaks_of_derivable {j : Judgement} (h : Derivable j) : j.Breaks := by
  induction h with
  | stop stops => exact fun _ hf => atBreak_of_stops hf stops
  | comment _ _ ih => exact ih
  | continuation _ _ _ ih => exact ih
  | operator _ _ _ _ _ ih => exact ih
  | argument _ _ _ _ _ ih => exact ih
  | leadingComment _ _ ih => exact ih
  | leadingNewline _ _ _ ih => exact ih
  | leaf _ _ ih => exact ih
  | unit _ _ _ ih => exact ih
  | group _ _ _ _ _ _ ih => exact ih
  | declaration _ _ _ _ _ _ _ _ ih => exact fun _ _ => ih.1
  | finish ends => exact ⟨fun h => h, ends⟩
  | statement _ _ _ _ _ ihc iho => exact ⟨fun _ => iho.1 (ihc rfl rfl), iho.2⟩
  | block _ _ ihf iho => exact ⟨iho.1 (ihf rfl rfl), iho.2⟩

end Offside
