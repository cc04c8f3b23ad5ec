import Offside.Proofs.Runs

/-!
# How reading fails

`Fails attempt e` derives the error `e` of a part of the parser, with one rule for each way in
which an error arises or comes through from a part inside.  What was read before the error is
derivable.  Every error of a run is derived (`fails_of_run`), and so is that of a whole source
(`failure_of_parseItems`), so a statement about all errors is one induction over the rules.

Some errors that the parser provides for have no rule, for they never arise: the argument of an
application is never missing, since it begins with the item that makes it one, and past the block
of a group stands the paren that closes it or the end of the source.
-/

namespace Offside

/-! ### The rules -/

/-- A part of the parser and the items that it is to read; `room` is how deep the expressions
inside it may nest. -/
inductive Attempt where
  /-- To read an expression. -/
  | expression (room : Nat) (ctx : Context) (items : List Item)
  /-- To go on with `lhs` on its right. -/
  | extension (room : Nat) (ctx : Context) (lhs : Expr) (items : List Item)
  /-- To read statements that follow another one. -/
  | statements (room level : Nat) (isGrouped : Bool) (items : List Item)
  /-- To read the statements of a block. -/
  | block (room level : Nat) (isGrouped : Bool) (items : List Item)

/-- The items that are to be read. -/
def Attempt.items : Attempt → List Item
  | expression _ _ items | extension _ _ _ items | statements _ _ _ items
  | block _ _ _ items => items

/-- That an item which `accept` knows does not come next, and the error that it makes. -/
inductive Lacks {α : Type} (sourceEnd : Nat) (accept : Token → Option α) (problem : Problem) :
    List Item → ParseError → Prop
  /-- The source ends. -/
  | ended : Lacks sourceEnd accept problem [] (.plain (.emptyAt sourceEnd) problem)
  /-- Another token comes next. -/
  | other {item : Item} {items : List Item} {t : Token} (lexeme : item.lexeme = .token t)
      (refused : accept t = none) :
      Lacks sourceEnd accept problem (item :: items) (.plain item.span problem)
  /-- A lexical error comes next. -/
  | error {item : Item} {items : List Item} {c : LexError} (lexeme : item.lexeme = .error c) :
      Lacks sourceEnd accept problem (item :: items) (.plain item.span (.lexical c))

/-- The rules by which reading fails, in a source of `sourceEnd` bytes whose expressions may nest
up to `limit` deep. -/
inductive Fails (limit sourceEnd : Nat) : Attempt → ParseError → Prop
  /-- An expression begins past the limit. -/
  | tooDeep {ctx : Context} {items : List Item} :
      Fails limit sourceEnd (.expression 0 ctx items) (tooDeep limit sourceEnd items)
  /-- What fails past trivia before an expression fails before them. -/
  | leading {room : Nat} {ctx : Context} {item : Item} {items : List Item} {e : ParseError}
      (trivia : item.isTrivia = true)
      (next : Fails limit sourceEnd (.expression (room + 1) ctx items) e) :
      Fails limit sourceEnd (.expression (room + 1) ctx (item :: items)) e
  /-- An item that no expression begins with. -/
  | misplaced {room : Nat} {ctx : Context} {item : Item} {items : List Item} {problem : Problem}
      (first : item.first = .misplaced problem) :
      Fails limit sourceEnd (.expression (room + 1) ctx (item :: items))
        (.plain item.span problem)
  /-- A declaration where an operand belongs. -/
  | keyword {room : Nat} {ctx : Context} {item : Item} {items : List Item} {word : Keyword}
      (lexeme : item.lexeme = .token (.keyword word)) (operand : ctx.isStatement = false) :
      Fails limit sourceEnd (.expression (room + 1) ctx (item :: items))
        (.plain item.span (.keywordAsOperand word))
  /-- A closing paren where no paren is open. -/
  | close {room : Nat} {ctx : Context} {item : Item} {items : List Item}
      (lexeme : item.lexeme = .token (.closing .round)) (outside : ctx.isGrouped = false) :
      Fails limit sourceEnd (.expression (room + 1) ctx (item :: items))
        (.plain item.span .unexpectedClose)
  /-- What follows an item that is an expression by itself. -/
  | leaf {room : Nat} {ctx : Context} {item : Item} {items : List Item} {lhs : Expr}
      {e : ParseError} (first : item.first = .leaf lhs)
      (next : Fails limit sourceEnd (.extension room ctx lhs items) e) :
      Fails limit sourceEnd (.expression (room + 1) ctx (item :: items)) e
  /-- What follows a paren that is closed at once. -/
  | unit {room : Nat} {ctx : Context} {opener close : Item} {items : List Item} {e : ParseError}
      (opens : opener.lexeme = .token (.opening .round))
      (closes : close.lexeme = .token (.closing .round))
      (next : Fails limit sourceEnd
        (.extension room ctx (.unit (opener.span.through close.span)) items) e) :
      Fails limit sourceEnd (.expression (room + 1) ctx (opener :: close :: items)) e
  /-- What follows a block in parens. -/
  | group {room : Nat} {ctx : Context} {opener close : Item} {body skipped items : List Item}
      {inner : Expr} {e : ParseError} (opens : opener.lexeme = .token (.opening .round))
      (content : Derivable (.block room 0 true body (skipped ++ close :: items) inner))
      (trivia : ∀ i ∈ skipped, i.isTrivia = true)
      (closes : close.lexeme = .token (.closing .round))
      (next : Fails limit sourceEnd (.extension room ctx inner items) e) :
      Fails limit sourceEnd
        (.expression (room + 1) ctx (opener :: (body ++ (skipped ++ close :: items)))) e
  /-- The block in parens. -/
  | content {room : Nat} {ctx : Context} {opener : Item} {items : List Item} {e : ParseError}
      (opens : opener.lexeme = .token (.opening .round))
      (inner : Fails limit sourceEnd (.block room 0 true items) e) :
      Fails limit sourceEnd (.expression (room + 1) ctx (opener :: items)) e
  /-- Nothing but trivia follows a paren. -/
  | openEnd {room : Nat} {ctx : Context} {opener : Item} {items : List Item}
      (opens : opener.lexeme = .token (.opening .round)) (ends : significant items = []) :
      Fails limit sourceEnd (.expression (room + 1) ctx (opener :: items))
        (unclosed opener false none)
  /-- A lexical error comes right after a paren. -/
  | openError {room : Nat} {ctx : Context} {opener item : Item} {items : List Item} {c : LexError}
      (opens : opener.lexeme = .token (.opening .round)) (lexeme : item.lexeme = .error c) :
      Fails limit sourceEnd (.expression (room + 1) ctx (opener :: item :: items))
        (unclosed opener false (some c))
  /-- A paren is closed past some trivia, before an expression begins. -/
  | unbalanced {room : Nat} {ctx : Context} {opener first close : Item} {items tail : List Item}
      (opens : opener.lexeme = .token (.opening .round)) (trivia : first.isTrivia = true)
      (next : significant items = close :: tail) (closes : close.isClose = true) :
      Fails limit sourceEnd (.expression (room + 1) ctx (opener :: first :: items))
        (.plain opener.span .unbalanced)
  /-- The source ends past a block in parens. -/
  | unclosed {room : Nat} {ctx : Context} {opener : Item} {body rest : List Item} {inner : Expr}
      (opens : opener.lexeme = .token (.opening .round))
      (content : Derivable (.block room 0 true body rest inner))
      (ends : significant rest = []) :
      Fails limit sourceEnd (.expression (room + 1) ctx (opener :: (body ++ rest)))
        (Offside.unclosed opener true none)
  /-- A keyword without a name. -/
  | name {room : Nat} {ctx : Context} {item : Item} {items : List Item} {word : Keyword}
      {e : ParseError} (lexeme : item.lexeme = .token (.keyword word))
      (lacks : Lacks sourceEnd declaredName? .expectedName items e) :
      Fails limit sourceEnd (.expression (room + 1) ctx (item :: items)) e
  /-- A declared name without its sign. -/
  | sign {room : Nat} {ctx : Context} {item bound : Item} {items : List Item} {word : Keyword}
      {name : String} {e : ParseError} (lexeme : item.lexeme = .token (.keyword word))
      (named : bound.lexeme = .token (.name name))
      (lacks : Lacks sourceEnd assignment? .expectedAssignment items e) :
      Fails limit sourceEnd (.expression (room + 1) ctx (item :: bound :: items)) e
  /-- The value of a declaration begins on a later line, no further right than the keyword. -/
  | notIndented {room : Nat} {ctx : Context} {item bound sign first : Item}
      {skipped items : List Item} {word : Keyword} {name : String}
      (lexeme : item.lexeme = .token (.keyword word)) (named : bound.lexeme = .token (.name name))
      (assigned : sign.lexeme = .token (.operator "="))
      (trivia : ∀ i ∈ skipped, i.isTrivia = true) (solid : first.isTrivia = false)
      (breaks : skipped.any Item.isNewline = true) (left : first.column ≤ item.column) :
      Fails limit sourceEnd
        (.expression (room + 1) ctx (item :: bound :: sign :: (skipped ++ first :: items)))
        (.plain first.span .expectedIndented)
  /-- No value begins after the sign of a declaration. -/
  | noValue {room : Nat} {ctx : Context} {item bound sign : Item} {items : List Item}
      {word : Keyword} {name : String} (lexeme : item.lexeme = .token (.keyword word))
      (named : bound.lexeme = .token (.name name))
      (assigned : sign.lexeme = .token (.operator "="))
      (none : ∀ next ∈ (significant items).head?, ctx.isGrouped = true ∧ next.isClose = true) :
      Fails limit sourceEnd (.expression (room + 1) ctx (item :: bound :: sign :: items))
        (.plain sign.span (.missing .initializer))
  /-- The value of a declaration. -/
  | value {room level : Nat} {ctx : Context} {item bound sign : Item} {skipped items : List Item}
      {word : Keyword} {name : String} {e : ParseError}
      (lexeme : item.lexeme = .token (.keyword word)) (named : bound.lexeme = .token (.name name))
      (assigned : sign.lexeme = .token (.operator "="))
      (trivia : ∀ i ∈ skipped, i.isTrivia = true)
      (content : Fails limit sourceEnd (.block room level ctx.isGrouped items) e) :
      Fails limit sourceEnd
        (.expression (room + 1) ctx (item :: bound :: sign :: (skipped ++ items)))
        (e.wrap sign.span .initializer)
  /-- What fails past trivia after an expression fails before them. -/
  | past {room : Nat} {ctx : Context} {lhs : Expr} {item : Item} {items : List Item}
      {e : ParseError} (trivia : item.isTrivia = true)
      (next : Fails limit sourceEnd (.extension room ctx lhs items) e) :
      Fails limit sourceEnd (.extension room ctx lhs (item :: items)) e
  /-- An item that nothing goes on with. -/
  | follow {room : Nat} {ctx : Context} {lhs : Expr} {item : Item} {items : List Item}
      {problem : Problem} (follow : item.follow = .misplaced problem) :
      Fails limit sourceEnd (.extension room ctx lhs (item :: items)) (.plain item.span problem)
  /-- No operand begins after an operator. -/
  | noOperand {room : Nat} {ctx : Context} {lhs : Expr} {item : Item} {items : List Item}
      {symbol : String} (lexeme : item.lexeme = .token (.operator symbol))
      (none : blockEnds ctx.level ctx.isGrouped items = true) :
      Fails limit sourceEnd (.extension room ctx lhs (item :: items))
        (.plain item.span (.missing (.operand symbol)))
  /-- The operand of an operator. -/
  | operand {room : Nat} {ctx : Context} {lhs : Expr} {item : Item} {items : List Item}
      {symbol : String} {e : ParseError} (lexeme : item.lexeme = .token (.operator symbol))
      (right : Fails limit sourceEnd (.expression room (ctx.operand (.ofSymbol symbol)) items) e) :
      Fails limit sourceEnd (.extension room ctx lhs (item :: items))
        (e.wrap item.span (.operand symbol))
  /-- What follows an operator and its operand. -/
  | operator {room : Nat} {ctx : Context} {lhs rhs : Expr} {item : Item} {used rest : List Item}
      {symbol : String} {e : ParseError} (lexeme : item.lexeme = .token (.operator symbol))
      (right : Derivable (.expression room (ctx.operand (.ofSymbol symbol)) used rest rhs))
      (next : Fails limit sourceEnd
        (.extension room ctx (lhs.infixed (.ofSymbol symbol) item.span rhs) rest) e) :
      Fails limit sourceEnd (.extension room ctx lhs (item :: (used ++ rest))) e
  /-- The argument of an application. -/
  | argument {room : Nat} {ctx : Context} {lhs : Expr} {item : Item} {items : List Item}
      {e : ParseError} (follow : item.follow = .argument)
      (right : Fails limit sourceEnd
        (.expression room (ctx.operand .application) (item :: items)) e) :
      Fails limit sourceEnd (.extension room ctx lhs (item :: items))
        (e.wrap (.emptyAt lhs.span.stop) .argument)
  /-- What follows an argument. -/
  | application {room : Nat} {ctx : Context} {lhs rhs : Expr} {used rest : List Item}
      {e : ParseError}
      (right : Derivable (.expression room (ctx.operand .application) used rest rhs))
      (next : Fails limit sourceEnd (.extension room ctx (lhs.applied rhs) rest) e) :
      Fails limit sourceEnd (.extension room ctx lhs (used ++ rest)) e
  /-- A statement that follows another one. -/
  | statement {room level : Nat} {isGrouped : Bool} {first : Item} {skipped items : List Item}
      {e : ParseError} (trivia : ∀ i ∈ skipped, i.isTrivia = true)
      (deep : level ≤ first.column)
      (content : Fails limit sourceEnd
        (.expression room (.statement level isGrouped) (first :: items)) e) :
      Fails limit sourceEnd (.statements room level isGrouped (skipped ++ first :: items)) e
  /-- What follows a statement that follows another one. -/
  | others {room level : Nat} {isGrouped : Bool} {s : Expr} {skipped used rest : List Item}
      {e : ParseError} (trivia : ∀ i ∈ skipped, i.isTrivia = true)
      (content : Derivable (.expression room (.statement level isGrouped) used rest s))
      (next : Fails limit sourceEnd (.statements room level isGrouped rest) e) :
      Fails limit sourceEnd (.statements room level isGrouped (skipped ++ (used ++ rest))) e
  /-- The first statement of a block. -/
  | first {room level : Nat} {isGrouped : Bool} {items : List Item} {e : ParseError}
      (content : Fails limit sourceEnd (.expression room (.statement level isGrouped) items) e) :
      Fails limit sourceEnd (.block room level isGrouped items) e
  /-- What follows the first statement of a block. -/
  | rest {room level : Nat} {isGrouped : Bool} {s : Expr} {used rest : List Item}
      {e : ParseError}
      (content : Derivable (.expression room (.statement level isGrouped) used rest s))
      (next : Fails limit sourceEnd (.statements room level isGrouped rest) e) :
      Fails limit sourceEnd (.block room level isGrouped (used ++ rest)) e

/-! ### Problems of one item -/

/-- Whether one item tells that there is a problem, or the end of the source does, with no regard
to what is around it. -/
def Problem.isLocal : Problem → Bool
  | missing _ | expectedIndented | unexpectedClose | unclosed .. | unbalanced | expectedClose
  | inconsistentIndentation => false
  | _ => true

theorem Item.isLocal_of_misplaced {item : Item} {problem : Problem}
    (h : item.first = .misplaced problem ∨ item.follow = .misplaced problem) :
    problem.isLocal = true := by
  rcases h with h | h
  · rw [first] at h
    split at h <;> cases h <;> rfl
  · rw [follow] at h
    split at h <;> cases h <;> rfl

theorem isLocal_tooDeep (limit sourceEnd : Nat) (items : List Item) :
    (tooDeep limit sourceEnd items).root.2.isLocal = true := by
  rw [tooDeep]
  split <;> rfl

theorem Lacks.isLocal {α : Type} {sourceEnd : Nat} {accept : Token → Option α}
    {problem : Problem} {items : List Item} {e : ParseError}
    (h : Lacks sourceEnd accept problem items e) (other : problem.isLocal = true) :
    e.root.2.isLocal = true := by
  cases h with
  | ended | other => exact other
  | error => rfl

/-! ### Runs that find nothing -/

section Runs

variable {limit sourceEnd room : Nat}

theorem Reading.required_eq_error {span : Span} {what : Expectation} {r : Reading Outcome}
    {e : ParseError} (h : Reading.required span what r = .error e) :
    (∃ o rest, r = .ok (o, rest) ∧ (∀ x, o ≠ .found x) ∧ e = .plain span (.missing what)) ∨
      ∃ cause, r = .error cause ∧ e = cause.wrap span what := by
  unfold Reading.required at h
  split at h
  · cases h
  · next o rest hne =>
    cases h
    exact .inl ⟨o, rest, rfl, fun x hx => hne x (by rw [hx]), rfl⟩
  · next cause =>
    cases h
    exact .inr ⟨cause, rfl, rfl⟩

theorem Reading.found_eq_error {r : Reading Expr} {e : ParseError} (h : r.found = .error e) :
    r = .error e := by
  unfold Reading.found at h
  rcases r with err | ⟨e', rest⟩ <;> cases h
  rfl

/-- Where no expression is found, the block around it ends. -/
theorem blockEnds_of_run {ctx : Context} {items rest : List Item} {o : Outcome}
    (h : (expression limit sourceEnd room).run ctx items = .ok (o, rest))
    (none : ∀ e, o ≠ .found e) : blockEnds ctx.level ctx.isGrouped items = true := by
  cases room with
  | zero => cases h
  | succ room =>
    rw [expression_succ] at h
    cases o with
    | found e => exact absurd rfl (none e)
    | exhausted => simp [blockEnds, (significant_of_exhausted h).1]
    | closed =>
      obtain ⟨-, item, tail, hs, ends⟩ := significant_of_closed h
      rcases ends with left | ⟨grouped, close⟩
      · simp [blockEnds, hs, left]
      · simp [blockEnds, hs, grouped, close]

theorem significant_of_run_exhausted {ctx : Context} {items rest : List Item}
    (h : (expression limit sourceEnd room).run ctx items = .ok (.exhausted, rest)) :
    significant items = [] := by
  cases room with
  | zero => cases h
  | succ room => exact (significant_of_exhausted h).1

theorem significant_of_run_closed {ctx : Context} {items rest : List Item}
    (h : (expression limit sourceEnd room).run ctx items = .ok (.closed, rest)) :
    ∃ item tail, significant items = item :: tail ∧
      (item.column < ctx.level ∨ ctx.isGrouped = true ∧ item.isClose = true) := by
  cases room with
  | zero => cases h
  | succ room => exact (significant_of_closed h).2

/-- Where no block is found, no statement is. -/
theorem run_of_block {level : Nat} {isGrouped : Bool} {items rest : List Item} {o : Outcome}
    (h : block (expression limit sourceEnd room) level isGrouped items = .ok (o, rest))
    (none : ∀ e, o ≠ .found e) :
    (expression limit sourceEnd room).run (.statement level isGrouped) items = .ok (o, rest) := by
  unfold block at h
  split at h
  · split at h
    · cases h
      exact absurd rfl (none _)
    · cases h
  · exact h

/-- An item that makes an application begins its argument. -/
theorem found_of_argument {inner : ExprParser} {ctx : Context} {item : Item}
    {items rest : List Item} {o : Outcome} (follow : item.follow = .argument)
    (h : term inner sourceEnd ctx (item :: items) = .ok (o, rest)) : ∃ e, o = .found e := by
  obtain ⟨t, lexeme, rfl | ⟨e, leaf⟩⟩ := Item.fits_of_follow follow
  · have first : item.first = .opening := by simp [Item.first, lexeme]
    rw [term, first] at h
    dsimp only at h
    split at h
    · exact Reading.exists_of_found h
    · cases h
  · rw [term, Item.first_of_leaf lexeme leaf] at h
    exact Reading.exists_of_found h

/-! ### From runs to the rules -/

/-- Whatever errors the expressions of this room make, they are derived. -/
def Accounted (limit sourceEnd room : Nat) : Prop :=
  ∀ ctx items e, (expression limit sourceEnd room).run ctx items = .error e →
    Fails limit sourceEnd (.expression room ctx items) e

theorem fails_of_extend (ih : Accounted limit sourceEnd room) {ctx : Context} {lhs : Expr}
    {items : List Item} {e : ParseError}
    (h : extend (expression limit sourceEnd room) ctx lhs items = .error e) :
    Fails limit sourceEnd (.extension room ctx lhs items) e := by
  fun_induction extend (expression limit sourceEnd room) ctx lhs items with
  | case2 lhs item items hf ih' =>
    exact .past (Item.isTrivia_of_comment (Item.fits_of_follow hf)) (ih' h)
  | case3 lhs item items hf hc ih' =>
    exact .past (Item.isTrivia_of_newline (Item.fits_of_follow hf)) (ih' h)
  | case5 lhs item items op hf hop rhs next hr ih' =>
    obtain ⟨used, rfl, right⟩ := derivable_of_run _ _ _ _ _ _ _ (Reading.required_eq_ok hr)
    obtain ⟨known, lexeme⟩ := Item.fits_of_follow hf
    obtain ⟨symbol, rfl⟩ : ∃ symbol, op = .ofSymbol symbol := ⟨_, known⟩
    exact .operator lexeme right (ih' h)
  | case6 lhs item items op hf hop cause hr =>
    cases h
    obtain ⟨known, lexeme⟩ := Item.fits_of_follow hf
    obtain ⟨symbol, rfl⟩ : ∃ symbol, op = .ofSymbol symbol := ⟨_, known⟩
    rcases Reading.required_eq_error hr with ⟨o, rest, ho, none, rfl⟩ | ⟨cause, hcause, rfl⟩
    · have ends := blockEnds_of_run ho none
      exact .noOperand lexeme ends
    · exact .operand lexeme (ih _ _ _ hcause)
  | case8 lhs item items hf ha rhs next hr ih' =>
    obtain ⟨used, hu, right⟩ := derivable_of_run _ _ _ _ _ _ _ (Reading.required_eq_ok hr)
    rw [hu]
    exact .application right (ih' h)
  | case9 lhs item items hf ha cause hr =>
    cases h
    rcases Reading.required_eq_error hr with ⟨o, rest, ho, none, rfl⟩ | ⟨cause, hcause, rfl⟩
    · cases room with
      | zero => cases ho
      | succ room =>
        obtain ⟨e, rfl⟩ := found_of_argument hf ho
        exact absurd rfl (none e)
    · exact .argument hf (ih _ _ _ hcause)
  | case12 lhs item items problem hf =>
    cases h
    exact .follow hf
  | case1 | case4 | case7 | case10 | case11 => cases h

theorem fails_of_statementsAfter (ih : Accounted limit sourceEnd room) {level : Nat}
    {isGrouped : Bool} {items : List Item} {e : ParseError}
    (h : statementsAfter (expression limit sourceEnd room) level isGrouped items = .error e) :
    Fails limit sourceEnd (.statements room level isGrouped items) e := by
  fun_induction statementsAfter (expression limit sourceEnd room) level isGrouped items with
  | case3 | case1 | case2 | case5 => cases h
  | case4 items item tail hs hc s next hr cause hl ih' =>
    cases h
    obtain ⟨skipped, rfl, trivia, -⟩ := split_significant hs
    obtain ⟨used, hu, content⟩ := derivable_of_run _ _ _ _ _ _ _ hr
    rw [hu]
    exact .others trivia content (ih' hl)
  | case6 items item tail hs hc cause hr =>
    cases h
    obtain ⟨skipped, rfl, trivia, -⟩ := split_significant hs
    exact .statement trivia (Nat.le_of_not_lt hc) (ih _ _ _ hr)

theorem fails_of_block (ih : Accounted limit sourceEnd room) {level : Nat} {isGrouped : Bool}
    {items : List Item} {e : ParseError}
    (h : block (expression limit sourceEnd room) level isGrouped items = .error e) :
    Fails limit sourceEnd (.block room level isGrouped items) e := by
  unfold block at h
  split at h
  · next s next hr =>
    split at h
    · cases h
    · next cause hl =>
      cases h
      obtain ⟨used, rfl, content⟩ := derivable_of_run _ _ _ _ _ _ _ hr
      exact .rest content (fails_of_statementsAfter ih hl)
  · exact .first (ih _ _ _ h)

/-- Past the block of a group the group is closed or the source ends. -/
theorem fails_of_closeGroup {ctx : Context} {opener : Item} {inner : Expr}
    {body rest : List Item} {e : ParseError} (opens : opener.lexeme = .token (.opening .round))
    (content : Derivable (.block room 0 true body rest inner))
    (h : closeGroup opener inner rest = .error e) :
    Fails limit sourceEnd (.expression (room + 1) ctx (opener :: (body ++ rest))) e := by
  unfold closeGroup at h
  split at h
  · next hs =>
    cases h
    exact .unclosed opens content hs
  · next item tail hs =>
    have ends := (breaks_of_derivable content).2
    simp only [blockEnds, hs, Nat.not_lt_zero, decide_false, Bool.false_or, Bool.true_and,
      Item.isClose, beq_iff_eq] at ends
    rw [ends] at h
    cases h

theorem fails_of_group (ih : Accounted limit sourceEnd room) {ctx : Context} {opener : Item}
    {items : List Item} {e : ParseError} (opens : opener.lexeme = .token (.opening .round))
    (h : group (expression limit sourceEnd room) opener items = .error e) :
    Fails limit sourceEnd (.expression (room + 1) ctx (opener :: items)) e := by
  unfold group at h
  split at h
  · cases h
    exact .openEnd opens rfl
  · next item tail =>
    split at h
    · cases h
    · next t other lexeme =>
      unfold groupBody at h
      split at h
      · next inner rest hb =>
        obtain ⟨body, hu, content⟩ := derivable_of_block (derivable_of_run _ _ _) hb
        rw [hu]
        exact fails_of_closeGroup opens content h
      · next rest hb =>
        cases h
        exact .openEnd opens (significant_of_run_exhausted (run_of_block hb (by simp)))
      · next rest hb =>
        cases h
        obtain ⟨close, behind, hs, ends⟩ := significant_of_run_closed (run_of_block hb (by simp))
        rcases ends with left | ⟨-, closes⟩
        · exact absurd left (Nat.not_lt_zero _)
        · -- The paren does not come at once, so trivia come before it.
          have trivia : item.isTrivia = true := by
            by_contra solid
            rw [significant_cons (Bool.eq_false_iff.2 solid)] at hs
            obtain ⟨rfl, rfl⟩ := List.cons.inj hs
            rw [Item.isClose, beq_iff_eq] at closes
            exact other (Lexeme.token.inj (lexeme.symm.trans closes))
          rw [significant_cons_of_trivia trivia] at hs
          exact .unbalanced opens trivia hs closes
      · cases h
        exact .content opens (fails_of_block ih (by assumption))
    · next c lexeme =>
      cases h
      exact .openError opens lexeme

theorem lacks_of_expect {α : Type} {accept : Token → Option α} {problem : Problem}
    {items : List Item} {e : ParseError}
    (h : expect sourceEnd accept problem items = .error e) :
    Lacks sourceEnd accept problem items e := by
  unfold expect at h
  split at h
  · cases h
    exact .ended
  · split at h
    · split at h
      · cases h
      · cases h
        exact .other (by assumption) (by assumption)
    · cases h
      exact .error (by assumption)

theorem fails_of_initializer (ih : Accounted limit sourceEnd room) {ctx : Context}
    {item bound sign : Item} {items : List Item} {word : Keyword} {name : String} {e : ParseError}
    (lexeme : item.lexeme = .token (.keyword word)) (named : bound.lexeme = .token (.name name))
    (assigned : sign.lexeme = .token (.operator "="))
    (h : initializer (expression limit sourceEnd room) item.column ctx.isGrouped sign.span items =
      .error e) :
    Fails limit sourceEnd (.expression (room + 1) ctx (item :: bound :: sign :: items)) e := by
  unfold initializer at h
  split at h
  · next hs =>
    rcases Reading.required_eq_error h with ⟨o, rest, ho, none, rfl⟩ | ⟨cause, hcause, rfl⟩
    · exact .noValue lexeme named assigned (by simp [hs])
    · have nothing : ∀ i ∈ ([] : List Item), i.isTrivia = true := List.forall_mem_nil _
      exact .value lexeme named assigned nothing (fails_of_block ih hcause)
  · next first tail hs =>
    obtain ⟨skipped, rfl, trivia, crosses⟩ := split_significant hs
    have solid := isTrivia_of_significant hs
    split at h
    · next breaks =>
      cases h
      simp only [crosses, Bool.and_eq_true, decide_eq_true_eq] at breaks
      exact .notIndented lexeme named assigned trivia solid breaks.1 breaks.2
    · rcases Reading.required_eq_error h with ⟨o, rest, ho, none, rfl⟩ | ⟨cause, hcause, rfl⟩
      · refine .noValue lexeme named assigned fun next hn => ?_
        have ends := blockEnds_of_run (run_of_block ho none) none
        rw [hs] at hn
        obtain rfl : first = next := by simpa using hn
        simpa [blockEnds, significant_cons solid, Context.statement] using ends
      · exact .value lexeme named assigned trivia (fails_of_block ih hcause)

theorem fails_of_declaration (ih : Accounted limit sourceEnd room) {ctx : Context}
    {word : Keyword} {item : Item} {items : List Item} {e : ParseError}
    (lexeme : item.lexeme = .token (.keyword word))
    (h : declaration (expression limit sourceEnd room) sourceEnd word ctx.isGrouped item items =
      .error e) :
    Fails limit sourceEnd (.expression (room + 1) ctx (item :: items)) e := by
  unfold declaration at h
  split at h
  · next hn =>
    cases h
    exact .name lexeme (lacks_of_expect hn)
  next hn =>
  obtain ⟨bound, t, rfl, hbound, hname, rfl⟩ := split_expect hn
  rw [declaredName?_eq_some hname] at hbound
  split at h
  · next ha =>
    cases h
    exact .sign lexeme hbound (lacks_of_expect ha)
  next ha =>
  obtain ⟨sign, t', rfl, hsign, hassign, rfl⟩ := split_expect ha
  rw [assignment?_eq_some hassign] at hsign
  split at h
  · next hi =>
    cases h
    exact fails_of_initializer ih lexeme hbound hsign hi
  · cases h

theorem fails_of_term (ih : Accounted limit sourceEnd room) {ctx : Context} {items : List Item}
    {e : ParseError}
    (h : term (expression limit sourceEnd room) sourceEnd ctx items = .error e) :
    Fails limit sourceEnd (.expression (room + 1) ctx items) e := by
  fun_induction term (expression limit sourceEnd room) sourceEnd ctx items with
  | case2 item items hf ih' =>
    exact .leading (Item.isTrivia_of_comment (Item.fits_of_first hf)) (ih' h)
  | case4 item items hf hd ih' =>
    exact .leading (Item.isTrivia_of_newline (Item.fits_of_first hf)) (ih' h)
  | case5 item items lhs hf => exact .leaf hf (fails_of_extend ih (Reading.found_eq_error h))
  | case6 item items word hf hs =>
    exact fails_of_declaration ih (Item.fits_of_first hf) (Reading.found_eq_error h)
  | case7 item items word hf hs =>
    cases h
    exact .keyword (Item.fits_of_first hf) (by simpa using hs)
  | case8 item items hf lhs next hg =>
    have next := fails_of_extend ih (Reading.found_eq_error h)
    have hopen := Item.fits_of_first hf
    rcases derivable_of_group (derivable_of_run _ _ _) hg with ⟨close, rfl, hclose, rfl⟩ |
        ⟨body, skipped, close, rfl, htrivia, hclose, hbody⟩
    · exact .unit hopen hclose next
    · exact .group hopen hbody htrivia hclose next
  | case9 item items hf cause hg =>
    cases h
    exact fails_of_group ih (Item.fits_of_first hf) hg
  | case11 item items hf hg =>
    cases h
    exact .close (Item.fits_of_first hf) (by simpa using hg)
  | case12 item items problem hf =>
    cases h
    exact .misplaced hf
  | case1 | case3 | case10 => cases h

/-- **Every error of a run is derived.** -/
theorem fails_of_run (limit sourceEnd room : Nat) : Accounted limit sourceEnd room := by
  induction room with
  | zero =>
    intro ctx items e h
    cases h
    exact .tooDeep
  | succ room ih => exact fun ctx items e h => fails_of_term ih h

end Runs

/-! ### Whole sources -/

/-- A block at the column of the first item, outside of parens, is found unless there is no item. -/
theorem found_of_block {limit sourceEnd room : Nat} {items rest tail : List Item} {item : Item}
    {o : Outcome} (hs : significant items = item :: tail)
    (h : block (expression limit sourceEnd room) (firstColumn items) false items =
      .ok (o, rest)) : ∃ e, o = .found e := by
  by_contra none
  have ends := blockEnds_of_run (run_of_block h (fun e he => none ⟨e, he⟩))
    (fun e he => none ⟨e, he⟩)
  simp [blockEnds, hs, Context.statement, firstColumn] at ends

/-- **The error of a whole source** comes from its statements, or something is left after them. -/
theorem failure_of_parseItems {limit sourceEnd : Nat} {items : List Item} {e : ParseError}
    (h : parseItems limit sourceEnd items = .error e) :
    Fails limit sourceEnd (.block limit (firstColumn items) false items) e ∨
    ∃ used rest value, items = used ++ rest ∧ leftover? rest = some e ∧
      Derivable (.block limit (firstColumn items) false used rest value) := by
  unfold parseItems at h
  split at h
  · next cause hb =>
    cases h
    exact .inl (fails_of_block (fails_of_run _ _ _) hb)
  next outcome rest hb =>
  split at h
  · next cause hl =>
    cases h
    cases hs : significant items with
    | nil =>
      cases limit with
      | zero => cases hb
      | succ limit =>
        rw [block_of_trivia hs] at hb
        cases hb
        cases hl
    | cons item tail =>
      obtain ⟨value, rfl⟩ := found_of_block hs hb
      obtain ⟨used, hu, hd⟩ := derivable_of_block (derivable_of_run _ _ _) hb
      exact .inr ⟨used, rest, value, hu, hl, hd⟩
  · split at h <;> cases h

end Offside
