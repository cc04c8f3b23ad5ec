import Offside.Proofs.Alike
import Offside.Proofs.Replies

/-!
# Lists of items that differ in their trivia

What a run of the parser makes of comments and line breaks at one place depends on little: whether
a line break is among them, and where the next significant item stands (`extend_trivia`,
`term_trivia`).  So two runs go the same way past trivia that are alike in this (`Spaced`), if what
follows stands alike to the blocks that the runs are in (`Layer`, `Abreast`).

Readings agree (`Reading.Agrees`) if they find like things in lists that stay related, or fail for
like reasons.  How much of the reasons is alike is a matter of `Detail`.
-/

namespace Offside

/-! ### Errors that agree -/

/-- How much of their errors two runs have in common. -/
inductive Detail where
  /-- That there is one. -/
  | failure
  /-- Of what kinds it and its causes are. -/
  | kinds
  /-- What it and its causes say. -/
  | texts
  deriving DecidableEq

/-- That two errors agree. -/
inductive ParseError.Agrees (d : Detail) : ParseError → ParseError → Prop
  /-- The same problem, anywhere. -/
  | plain (span span' : Span) (problem : Problem) : Agrees d (.plain span problem)
      (.plain span' problem)
  /-- Open parens, which say where they stand. -/
  | unclosed (span span' : Span) {line line' column column' : Nat} (containsExpression : Bool)
      (cause : Option LexError) (place : d = .texts → line = line' ∧ column = column') :
      Agrees d (.plain span (.unclosed line column containsExpression cause))
        (.plain span' (.unclosed line' column' containsExpression cause))
  /-- The same part could not be read, for reasons that agree. -/
  | within (span span' : Span) (what : Expectation) {e e' : ParseError} (cause : Agrees d e e') :
      Agrees d (.within span what e) (.within span' what e')
  /-- Anything, if no more is asked. -/
  | any (h : d = .failure) (e e' : ParseError) : Agrees d e e'

namespace ParseError.Agrees

variable {d : Detail} {e e' : ParseError}

theorem propagates (h : Agrees d e e') (hd : d ≠ .failure) : e.propagates = e'.propagates := by
  cases h with
  | plain | unclosed | within => rfl
  | any h => exact absurd h hd

theorem wrap (h : Agrees d e e') (span span' : Span) (what : Expectation) :
    Agrees d (e.wrap span what) (e'.wrap span' what) := by
  by_cases hd : d = .failure
  · exact .any hd _ _
  · rw [ParseError.wrap, ParseError.wrap, ← h.propagates hd]
    split
    · exact h
    · exact .within span span' what h

/-- The chains of errors that agree are of the same kinds. -/
theorem kinds (h : Agrees d e e') (hd : d ≠ .failure) :
    e.chain.map ParseError.kind = e'.chain.map ParseError.kind := by
  induction h with
  | plain | unclosed => rfl
  | within span span' what _ ih => exact congrArg (what.kind :: ·) ih
  | any h => exact absurd h hd

/-- The chains of errors that agree say the same. -/
theorem texts (h : Agrees .texts e e') : e.chain.map (fun e => (e.kind, e.text)) =
    e'.chain.map fun e => (e.kind, e.text) := by
  induction h with
  | plain => rfl
  | unclosed span span' containsExpression cause place =>
    obtain ⟨rfl, rfl⟩ := place rfl
    rfl
  | within span span' what _ ih => exact congrArg ((what.kind, what.text) :: ·) ih
  | any h => cases h

end ParseError.Agrees

/-! ### Readings that agree -/

/-- That two readings find things that are related by `R` and leave lists that are related by `T`,
or fail for reasons that agree.  Where it finds what is in `E`, the first one may have stopped just
before a lexical error that the second one has run into. -/
inductive Reading.Agrees {α β : Type} (d : Detail) (R : α → β → Prop)
    (T : List Item → List Item → Prop) (E : α → Prop) : Reading α → Reading β → Prop
  /-- Both find something. -/
  | ok {a : α} {b : β} {us vs : List Item} (value : R a b) (rest : T us vs) :
    Agrees d R T E (.ok (a, us)) (.ok (b, vs))
  /-- Both fail. -/
  | error {e e' : ParseError} (agrees : e.Agrees d e') : Agrees d R T E (.error e) (.error e')
  /-- The second one fails where the first one is about to. -/
  | early {a : α} {us tail : List Item} {item : Item} {span : Span} {c : LexError} (ends : E a)
    (next : significant us = item :: tail) (lexeme : item.lexeme = .error c) :
    Agrees d R T E (.ok (a, us)) (.error (.plain span (.lexical c)))

/-- Of nothing. -/
def Never {α : Type} : α → Prop := fun _ => False

/-- That an outcome is an expression, where `p` holds. -/
def FoundIf (p : Prop) (o : Outcome) : Prop := p ∧ ∃ e, o = .found e

namespace Reading.Agrees

variable {α β : Type} {d : Detail} {R : α → β → Prop} {T T' : List Item → List Item → Prop}
  {E E' : α → Prop} {f g : SpanMap} {p : Prop} {r : Reading α} {r' : Reading β}

theorem mono (h : Agrees d R T E r r')
    (rest : ∀ {us vs}, T us vs → T' us vs) (ends : ∀ {a}, E a → E' a) :
    Agrees d R T' E' r r' := by
  cases h with
  | ok value left => exact .ok value (rest left)
  | error agrees => exact .error agrees
  | early early next lexeme => exact .early (ends early) next lexeme

/-- What is required of outcomes that agree agrees. -/
theorem required {r r' : Reading Outcome} (h : Agrees d (Outcome.Like f g) T Never r r')
    (span span' : Span) (what : Expectation) :
    Agrees d (Expr.Alike f g) T Never (r.required span what) (r'.required span' what) := by
  cases h with
  | ok value rest =>
    cases value with
    | found like => exact .ok like rest
    | exhausted | closed => exact .error (.plain span span' _)
  | error agrees => exact .error (agrees.wrap span span' what)
  | early ends => exact ends.elim

theorem found {r r' : Reading Expr} (h : Agrees d (Expr.Alike f g) T (fun _ => p) r r') :
    Agrees d (Outcome.Like f g) T (FoundIf p) r.found r'.found := by
  cases h with
  | ok value rest => exact .ok (.found value) rest
  | error agrees => exact .error agrees
  | early ends next lexeme => exact .early ⟨ends, _, rfl⟩ next lexeme

end Reading.Agrees

/-- That two sources are read as like expressions, or both not read, for reasons that agree. -/
inductive Parsed.Agrees (f g : SpanMap) (d : Detail) :
    Except ParseError Expr → Except ParseError Expr → Prop
  /-- Both are read. -/
  | ok {e e' : Expr} (like : e.Alike f g e') : Agrees f g d (.ok e) (.ok e')
  /-- Neither is read. -/
  | error {e e' : ParseError} (agrees : e.Agrees d e') : Agrees f g d (.error e) (.error e')

/-! ### Trivia at one place -/

/-- A list from its first item on that is no comment. -/
def fromLine (items : List Item) : List Item :=
  items.dropWhile fun i => i.isTrivia && !i.isNewline

theorem fromLine_cons_of_newline {item : Item} (h : item.isNewline = true) (items : List Item) :
    fromLine (item :: items) = item :: items := by
  simp [fromLine, h]

theorem fromLine_cons_of_comment {item : Item} (h : item.isTrivia = true)
    (hn : item.isNewline = false) (items : List Item) :
    fromLine (item :: items) = fromLine items := by
  simp [fromLine, h, hn]

theorem Item.isTrivia_of_isNewline {item : Item} (h : item.isNewline = true) :
    item.isTrivia = true := by
  simp [isTrivia, h]

theorem crossesLine_cons_of_newline {item : Item} (h : item.isNewline = true)
    (items : List Item) : crossesLine (item :: items) = true := by
  rw [crossesLine_cons_of_trivia (Item.isTrivia_of_isNewline h), h, Bool.true_or]

theorem crossesLine_cons_of_comment {item : Item} (h : item.isTrivia = true)
    (hn : item.isNewline = false) (items : List Item) :
    crossesLine (item :: items) = crossesLine items := by
  rw [crossesLine_cons_of_trivia h, hn, Bool.false_or]

/-- Where a line break is next but for comments, the list from there on begins with it. -/
theorem fromLine_eq_cons {items : List Item} (h : crossesLine items = true) :
    ∃ nl tail, fromLine items = nl :: tail ∧ nl.isNewline = true ∧
      significant (nl :: tail) = significant items := by
  induction items with
  | nil => cases h
  | cons item items ih =>
    obtain hn | hn := Bool.eq_false_or_eq_true item.isNewline
    · exact ⟨item, items, fromLine_cons_of_newline hn items, hn, rfl⟩
    obtain ht | ht := Bool.eq_false_or_eq_true item.isTrivia
    · rw [crossesLine_cons_of_comment ht hn] at h
      obtain ⟨nl, tail, split, newline, same⟩ := ih h
      refine ⟨nl, tail, ?_, newline, ?_⟩
      · rw [fromLine_cons_of_comment ht hn, split]
      · rw [same, significant_cons_of_trivia ht]
    · rw [crossesLine_cons ht] at h
      cases h

theorem Context.continues_cons_of_trivia {ctx : Context} {item : Item} (h : item.isTrivia = true)
    (items : List Item) : ctx.continues (item :: items) = ctx.continues items := by
  rw [continues, continues, significant_cons_of_trivia h]

theorem Context.dedents_cons_of_trivia {ctx : Context} {item : Item} (h : item.isTrivia = true)
    (items : List Item) : ctx.dedents (item :: items) = ctx.dedents items := by
  rw [dedents, dedents, significant_cons_of_trivia h]

/-- **What becomes of trivia after an expression**: it ends before the first line break, or goes on
past all of them. -/
theorem extend_trivia {inner : ExprParser} {ctx : Context} {lhs : Expr} (items : List Item) :
    extend inner ctx lhs items =
      if crossesLine items && !ctx.continues items then .ok (lhs, fromLine items)
      else extend inner ctx lhs (significant items) := by
  induction items with
  | nil => rfl
  | cons item items ih =>
    obtain ht | ht := Bool.eq_false_or_eq_true item.isTrivia
    · rw [ctx.continues_cons_of_trivia ht, significant_cons_of_trivia ht]
      obtain hn | hn := Bool.eq_false_or_eq_true item.isNewline
      · rw [crossesLine_cons_of_newline hn, fromLine_cons_of_newline hn, Bool.true_and,
          extend_newline (by simp_all [Item.follow, Item.isNewline])]
        by_cases continues : ctx.continues items = true
        · rw [if_pos continues, continues, extend_significant continues]
          rfl
        · rw [if_neg continues, Bool.eq_false_iff.2 continues]
          rfl
      · rw [crossesLine_cons_of_comment ht hn, fromLine_cons_of_comment ht hn, ← ih]
        exact extend_comment (by simp [Item.follow, Item.lexeme_of_trivia ht hn])
    · rw [crossesLine_cons ht, significant_cons ht]
      rfl

/-- **What becomes of trivia before an expression**: the block ends before the first line break, or
all of them are passed. -/
theorem term_trivia {inner : ExprParser} {sourceEnd : Nat} {ctx : Context} (items : List Item) :
    term inner sourceEnd ctx items =
      if crossesLine items && ctx.dedents items then .ok (.closed, fromLine items)
      else term inner sourceEnd ctx (significant items) := by
  by_cases dedents : ctx.dedents items = true
  · rw [dedents, Bool.and_true]
    induction items with
    | nil => rfl
    | cons item items ih =>
      obtain ht | ht := Bool.eq_false_or_eq_true item.isTrivia
      · rw [ctx.dedents_cons_of_trivia ht] at dedents
        rw [significant_cons_of_trivia ht, term]
        obtain hn | hn := Bool.eq_false_or_eq_true item.isNewline
        · rw [crossesLine_cons_of_newline hn, fromLine_cons_of_newline hn,
            show item.first = .newline by simp_all [Item.first, Item.isNewline]]
          dsimp only
          rw [if_pos dedents, if_pos rfl]
        · rw [crossesLine_cons_of_comment ht hn, fromLine_cons_of_comment ht hn, ← ih dedents,
            show item.first = .comment by simp [Item.first, Item.lexeme_of_trivia ht hn]]
      · rw [crossesLine_cons ht, significant_cons ht, if_neg Bool.false_ne_true]
  · rw [Bool.eq_false_iff.2 dedents, Bool.and_false, if_neg Bool.false_ne_true]
    exact term_significant (Bool.eq_false_iff.2 dedents)

/-! ### One context at two levels -/

/-- An expression goes on past a line break only if the next item is placed for it. -/
theorem Context.continues_iff {ctx : Context} {items tail : List Item} {next : Item}
    (h : significant items = next :: tail) : ctx.continues items = true ↔
      ctx.isStatement = true ∧
        (ctx.level < next.column ∨ next.column = ctx.level ∧ next.isOperator = true) := by
  simp [continues, h]

/-- A context at another level. -/
def Context.at (ctx : Context) (level : Nat) : Context := { ctx with level }

theorem Context.isStatement_at (ctx : Context) (level : Nat) :
    (ctx.at level).isStatement = ctx.isStatement := rfl

theorem Context.isGrouped_at (ctx : Context) (level : Nat) :
    (ctx.at level).isGrouped = ctx.isGrouped := rfl

/-- What a context accepts does not depend on the level. -/
theorem Context.accepts_at_iff {ctx : Context} {binding : Binding} (level : Nat) :
    (ctx.at level).accepts binding = true ↔ ctx.accepts binding = true := Iff.rfl

theorem Context.operand_at (ctx : Context) (level : Nat) (binding : Binding) :
    (ctx.at level).operand binding = (ctx.operand binding).at level := rfl

/-! ### The blocks that two runs are in -/

/-- A block that two runs are in. -/
inductive Layer where
  /-- A block at the column `left` for the first run and `right` for the second one. -/
  | block (left right : Nat)
  /-- The block of a group. -/
  | group

namespace Layer

/-- The level for the first run. -/
def left : Layer → Nat
  | block left _ => left
  | group => 0

/-- The level for the second run. -/
def right : Layer → Nat
  | block _ right => right
  | group => 0

/-- That two items stand alike past a line break: both right of the level or neither.  In a group
this may fail for its closing paren, which ends the block anyhow, and for a lexical error at the
level of the group. -/
def Places : Layer → Item → Item → Prop
  | block left right, x, y => left < x.column ↔ right < y.column
  | group, x, y => (0 < x.column ↔ 0 < y.column) ∨ x.isClose = true ∨
      x.column = 0 ∧ ∃ c, x.lexeme = .error c

/-- `Past item layers layers'`: past an item that the runs have read together they are in `layers'`,
where they were in `layers`. -/
inductive Past (item : Item) : List Layer → List Layer → Prop
  /-- The item is no paren. -/
  | plain {layers : List Layer} (h : item.isParen = false) : Past item layers layers
  /-- A group begins. -/
  | opening {layers : List Layer} (h : item.isOpen = true) : Past item layers (.group :: layers)
  /-- A group ends. -/
  | closing {layers : List Layer} (h : item.isClose = true) : Past item (.group :: layers) layers

end Layer

/-- Whether a significant item is next at once. -/
def abuts (items : List Item) : Bool := items.head?.any fun i => !i.isTrivia

theorem abuts_cons (item : Item) (items : List Item) :
    abuts (item :: items) = !item.isTrivia := rfl

theorem exists_of_abuts {items : List Item} (h : abuts items = true) :
    ∃ item tail, items = item :: tail ∧ item.isTrivia = false := by
  cases items with
  | nil => cases h
  | cons item tail => exact ⟨item, tail, rfl, by simpa [abuts_cons] using h⟩

theorem isTrivia_of_not_abuts {item : Item} {items : List Item}
    (h : abuts (item :: items) = false) : item.isTrivia = true := by
  simpa [abuts_cons] using h

/-- That the trivia at the front of two lists are alike. -/
structure Spaced (d : Detail) (xs ys : List Item) : Prop where
  /-- A line break is among both or neither. -/
  crosses : crossesLine xs = crossesLine ys
  /-- There are none in both lists or neither. -/
  adjacent : abuts xs = abuts ys
  /-- Both lists end at once or neither does. -/
  isEmpty : d ≠ .failure → xs.isEmpty = ys.isEmpty

namespace Spaced

variable {d : Detail} {xs ys tx ty : List Item} {x y : Item}

theorem nil : Spaced d [] [] := ⟨rfl, rfl, fun _ => rfl⟩

/-- Nothing is in front of significant items. -/
theorem cons (hx : x.isTrivia = false) (hy : y.isTrivia = false) :
    Spaced d (x :: tx) (y :: ty) where
  crosses := by rw [crossesLine_cons hx, crossesLine_cons hy]
  adjacent := by rw [abuts_cons, abuts_cons, hx, hy]
  isEmpty _ := rfl

theorem newline (hx : x.isNewline = true) (hy : y.isNewline = true) :
    Spaced d (x :: tx) (y :: ty) where
  crosses := by rw [crossesLine_cons_of_newline hx, crossesLine_cons_of_newline hy]
  adjacent := by
    rw [abuts_cons, abuts_cons, Item.isTrivia_of_isNewline hx, Item.isTrivia_of_isNewline hy]
  isEmpty _ := rfl

/-- Comments may be put in front of both lists. -/
theorem comment (h : Spaced d xs ys) (hx : x.isTrivia = true) (hy : y.isTrivia = true)
    (hx' : x.isNewline = false) (hy' : y.isNewline = false) : Spaced d (x :: xs) (y :: ys) where
  crosses := by
    rw [crossesLine_cons_of_comment hx hx', crossesLine_cons_of_comment hy hy', h.crosses]
  adjacent := by rw [abuts_cons, abuts_cons, hx, hy]
  isEmpty _ := rfl

/-- Both lists begin with significant items or neither does. -/
theorem cases (h : Spaced d xs ys) :
    (∃ x y tx ty, xs = x :: tx ∧ ys = y :: ty ∧ x.isTrivia = false ∧ y.isTrivia = false) ∨
      abuts xs = false ∧ abuts ys = false := by
  obtain begins | begins := Bool.eq_false_or_eq_true (abuts xs)
  · obtain ⟨x, tx, rfl, hx⟩ := exists_of_abuts begins
    obtain ⟨y, ty, rfl, hy⟩ := exists_of_abuts (h.adjacent ▸ begins)
    exact .inl ⟨x, y, tx, ty, rfl, rfl, hx, hy⟩
  · exact .inr ⟨begins, h.adjacent ▸ begins⟩

end Spaced

/-- That two lists go on alike for runs that are in the block `p`. -/
structure Abreast (d : Detail) (p : Layer) (xs ys : List Item) : Prop extends Spaced d xs ys where
  /-- Past a line break the next significant items stand alike. -/
  places : crossesLine xs = true → ∀ {x y tx ty}, significant xs = x :: tx →
    significant ys = y :: ty → p.Places x y

namespace Abreast

variable {d : Detail} {p : Layer} {xs ys tx ty : List Item} {x y : Item}

theorem nil : Abreast d p [] [] := ⟨.nil, fun h => by cases h⟩

theorem cons (hx : x.isTrivia = false) (hy : y.isTrivia = false) :
    Abreast d p (x :: tx) (y :: ty) :=
  ⟨.cons hx hy, fun h => by rw [crossesLine_cons hx] at h; cases h⟩

/-- From the line breaks on the lists are abreast as well. -/
theorem fromLine (h : Abreast d p xs ys) (crosses : crossesLine xs = true) :
    Abreast d p (fromLine xs) (fromLine ys) := by
  obtain ⟨nl, tx, hx, newline, same⟩ := fromLine_eq_cons crosses
  obtain ⟨nl', ty, hy, newline', same'⟩ := fromLine_eq_cons (h.crosses ▸ crosses)
  rw [hx, hy]
  refine ⟨.newline newline newline', fun _ => ?_⟩
  rw [same, same']
  exact h.places crosses

end Abreast

end Offside
