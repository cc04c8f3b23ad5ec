import Offside.Proofs.OnDemand

/-!
# Sessions are safe and make progress

A step is safe in a session (`Session.Steps`) if it ends without a fault, leaves the reader among
the items of its source and no further back, and leaves as many parens and expressions open as
there were.  Wherever a session stands, each part of the parser is safe, an expression that is
found takes at least one item, and each round after which a loop goes on does (`Session.Safe`).

So reading a source on demand always comes to an end, with what the source is read as
(`parseOnDemand_safe`).
-/

namespace Offside

namespace Session

/-- What a step leaves of a session. -/
structure Onward (source : List Char) (s s' : Session) : Prop where
  /-- The reader stands among the items of the source. -/
  holds : s'.reader.Holds (items source)
  /-- It stands no further back. -/
  index_le : s.reader.index ≤ s'.reader.index
  /-- As many parens are open. -/
  openParens_eq : s'.openParens = s.openParens
  /-- As many expressions are being read. -/
  depth_eq : s'.depth = s.depth

/-- That a step is safe in a session, and moves the reader on where it has to. -/
def Steps {α : Type} (source : List Char) (s : Session) (x : Parsing α) (advances : α → Prop) :
    Prop :=
  Returns x s fun a s' => Onward source s s' ∧ (advances a → s.reader.index < s'.reader.index)

/-- That each part of the parser is safe in a session. -/
structure Safe (limit : Nat) (source : List Char) (s : Session) : Prop where
  /-- An expression that is found takes an item. -/
  expression : ∀ frame, s.Steps source (expression (.of limit source) frame)
    fun reply => ∃ e, reply = .ok (.found e)
  /-- So does one that is read from its first item on. -/
  term : ∀ frame, s.Steps source (term (.of limit source) frame)
    fun reply => ∃ e, reply = .ok (.found e)
  /-- Whatever is passed before its first item is an item. -/
  termRound : ∀ frame, s.Steps source (termRound (.of limit source) frame)
    fun round => ∃ state, round = .again state
  /-- Going on with an expression is safe. -/
  extend : ∀ frame lhs, s.Steps source (extend (.of limit source) frame lhs) fun _ => False
  /-- Whatever an expression goes on by takes an item. -/
  extendRound : ∀ frame lhs, s.Steps source (extendRound (.of limit source) frame lhs)
    fun round => ∃ e, round = .again e
  /-- An operand takes an item. -/
  operand : ∀ frame lhs op span, s.Steps source (operand (.of limit source) frame lhs op span)
    fun reply => ∃ e, reply = .ok e
  /-- An argument takes an item. -/
  argument : ∀ frame function, s.Steps source (argument (.of limit source) frame function)
    fun reply => ∃ e, reply = .ok e
  /-- Deciding about a line break is safe. -/
  lineBreak : ∀ frame, s.Steps source (lineBreak (.of limit source) frame) fun _ => False
  /-- A block that is found takes an item. -/
  block : ∀ level, s.Steps source (block (.of limit source) level)
    fun reply => ∃ e, reply = .ok (.found e)
  /-- Reading the statements that follow is safe. -/
  statementsAfter : ∀ level before,
    s.Steps source (statementsAfter (.of limit source) level before) fun _ => False
  /-- A statement that follows takes an item. -/
  statementRound : ∀ level before,
    s.Steps source (statementRound (.of limit source) level before)
      fun round => ∃ after, round = .again after
  /-- Deciding whether a statement follows is safe. -/
  nextStatement : ∀ level, s.Steps source (nextStatement (.of limit source) level) fun _ => False
  /-- A declaration takes an item past its keyword. -/
  declaration : ∀ word, ∀ item ∈ items source,
    s.Steps source (declaration (.of limit source) word item.span) fun reply => ∃ e, reply = .ok e
  /-- The value of a declaration takes an item. -/
  initializer : ∀ level assignment,
    s.Steps source (initializer (.of limit source) level assignment)
      fun reply => ∃ e, reply = .ok e
  /-- A group takes an item past its paren. -/
  group : ∀ opener ∈ items source, s.Steps source (group (.of limit source) opener.span)
    fun reply => ∃ e, reply = .ok e
  /-- So does what stands in an open paren. -/
  groupBody : 0 < s.openParens → ∀ opener ∈ items source,
    s.Steps source (groupBody (.of limit source) opener.span) fun reply => ∃ e, reply = .ok e
  /-- Saying what is left of the source is safe. -/
  leftover : s.Steps source (leftover (.of limit source)) fun _ => False

section Progress

variable {α : Type} {limit : Nat} {source : List Char} {s s' : Session} {exact : Prop}

theorem Stands.of_holds (h : s.reader.Holds (items source)) :
    Stands source s.reader.index s.openParens s.depth s := ⟨h, rfl, rfl, rfl⟩

theorem Stands.onward {j : Nat} (h : Stands source j s.openParens s.depth s')
    (le : s.reader.index ≤ j) : Onward source s s' :=
  ⟨h.holds, h.index_eq.symm ▸ le, h.openParens_eq, h.depth_eq⟩

section Agrees

variable {r : Reading α} {reply : Reply α}

theorem Agrees.onward
    (h : Agrees source s.reader.index s.openParens s.depth exact r reply s') :
    Onward source s s' := by
  obtain ⟨j, le, stands, -⟩ := h
  exact stands.onward le

/-- What takes an item moves the session on. -/
theorem Agrees.lt {i o d : Nat} {a : α} (h : Agrees source i o d exact r (.ok a) s')
    (takes : ∀ rest, r = .ok (a, rest) → rest.length < ((items source).drop i).length) :
    i < s'.reader.index := by
  obtain ⟨j, -, stands, replies⟩ := h
  obtain ⟨skipped, ok, -, -⟩ := replies.eq_of_ok
  have fewer := takes _ ok
  rw [List.length_append] at fewer
  rw [stands.index_eq]
  exact lt_of_length_drop_lt (items source) (by omega)

end Agrees

section Rounds

variable {σ : Type} {reading : σ → List Item → Reading α} {now : Reading α}

theorem Rounds.onward {round : Round σ (Reply α)}
    (h : Rounds source s.reader.index s.openParens s.depth exact reading now round s') :
    Onward source s s' := by
  cases round with
  | again state =>
    obtain ⟨j, lt, stands, -⟩ := h
    exact stands.onward (Nat.le_of_lt lt)
  | done reply => exact Agrees.onward h

/-- A round after which the loop goes on moves the session on. -/
theorem Rounds.lt {i o d : Nat} {state : σ}
    (h : Rounds source i o d exact reading now (.again state) s') : i < s'.reader.index := by
  obtain ⟨j, lt, stands, -⟩ := h
  rw [stands.index_eq]
  exact lt

end Rounds

section Steps

variable {σ : Type} {r : Reading α}

theorem Steps.of_onward {x : Parsing α} (h : Returns x s fun _ s' => Onward source s s') :
    s.Steps source x fun _ => False :=
  h.mono fun _ _ onward => ⟨onward, False.elim⟩

/-- A part that takes an item whenever it is read. -/
theorem Steps.of_agrees {x : Parsing (Reply α)}
    (h : Returns x s (Agrees source s.reader.index s.openParens s.depth exact r))
    (takes : ∀ a rest, r = .ok (a, rest) →
      rest.length < ((items source).drop s.reader.index).length) :
    s.Steps source x fun reply => ∃ a, reply = .ok a := by
  refine h.mono fun reply s' agrees => ⟨agrees.onward, ?_⟩
  rintro ⟨a, rfl⟩
  exact agrees.lt (takes a)

/-- A part that takes an item if an expression is found. -/
theorem Steps.of_found {x : Parsing (Reply Outcome)} {r : Reading Outcome}
    (h : Returns x s (Agrees source s.reader.index s.openParens s.depth exact r))
    (takes : ∀ e rest, r = .ok (.found e, rest) →
      rest.length < ((items source).drop s.reader.index).length) :
    s.Steps source x fun reply => ∃ e, reply = .ok (.found e) := by
  refine h.mono fun reply s' agrees => ⟨agrees.onward, ?_⟩
  rintro ⟨e, rfl⟩
  exact agrees.lt (takes e)

theorem Steps.of_rounds {x : Parsing (Round σ (Reply α))} {reading : σ → List Item → Reading α}
    (h : Returns x s (Rounds source s.reader.index s.openParens s.depth exact reading r)) :
    s.Steps source x fun round => ∃ state, round = .again state := by
  refine h.mono fun round s' rounds => ⟨rounds.onward, ?_⟩
  rintro ⟨state, rfl⟩
  exact rounds.lt

end Steps

/-- What is required of an expression takes an item. -/
theorem required_length_lt {inner : ExprParser} {ctx : Context} {here rest : List Item}
    {span : Span} {what : Expectation} {f : Expr → Expr} {e : Expr}
    (h : (Reading.required span what (inner.run ctx here)).mapValue f = .ok (e, rest)) :
    rest.length < here.length := by
  obtain ⟨inside, ok, -⟩ := Reading.eq_of_mapValue_eq_ok h
  exact inner.shrinks (Reading.required_eq_ok ok)

/-- **Each part of the parser is safe wherever a session stands.** -/
theorem safe_of_holds (limit : Nat) (h : s.reader.Holds (items source)) :
    s.Safe limit source := by
  have stands := Stands.of_holds h
  have inner : Accords limit source (limit - s.depth) := returns_expression limit source _
  constructor
  case expression =>
    exact fun frame => .of_found (inner frame rfl stands) fun _ _ => ExprParser.shrinks _
  case term =>
    exact fun frame => .of_found (returns_term inner rfl frame stands) fun _ _ => term_shrinks
  case termRound => exact fun frame => .of_rounds (returns_termRound inner rfl frame stands)
  case extend =>
    exact fun frame lhs => .of_onward
      ((returns_extend inner rfl frame lhs stands).mono fun _ _ agrees => agrees.onward)
  case extendRound =>
    exact fun frame lhs => .of_rounds (returns_extendRound inner rfl frame lhs stands)
  case operand =>
    exact fun frame lhs op span => .of_agrees (returns_operand inner rfl frame lhs op span stands)
      fun _ _ => required_length_lt
  case argument =>
    exact fun frame function => .of_agrees (returns_argument inner rfl frame function stands)
      fun _ _ => required_length_lt
  case lineBreak =>
    refine fun frame => .of_onward ((returns_lineBreak limit frame stands).mono ?_)
    rintro _ _ ⟨-, j, le, stands, -⟩
    exact stands.onward le
  case block =>
    exact fun level => .of_found (returns_block inner rfl level stands) fun _ _ => block_length_lt
  case statementsAfter =>
    exact fun level before => .of_onward
      ((returns_statementsAfter inner rfl level before stands).mono fun _ _ agrees =>
        agrees.onward)
  case statementRound =>
    exact fun level before => .of_rounds (returns_statementRound inner rfl level before stands)
  case nextStatement =>
    refine fun level => .of_onward ((returns_nextStatement limit level stands).mono ?_)
    rintro _ _ ⟨-, j, le, stands, -⟩
    exact stands.onward le
  case declaration =>
    exact fun word _ hi => .of_agrees (returns_declaration inner rfl word hi stands)
      fun _ _ => declaration_length_lt
  case initializer =>
    exact fun level assignment =>
      .of_agrees (returns_initializer inner rfl level assignment stands)
        fun _ _ => initializer_length_lt
  case group =>
    exact fun _ ho => .of_agrees (returns_group inner rfl ho stands) fun _ _ => group_length_lt
  case groupBody =>
    exact fun grouped _ ho => .of_agrees (returns_groupBody inner rfl ho grouped stands)
      fun _ _ => group_length_lt
  case leftover =>
    exact .of_onward ((returns_leftover limit stands).mono fun _ _ post =>
      post.2.onward (Nat.le_refl _))

end Progress

end Session

/-- **Reading a source on demand comes to an end** with what the source is read as, and no step on
the way is a fault.  The reader then stands among the items, and no paren and no expression is
open.  Wherever a session stands, each part of the parser is safe and makes progress. -/
theorem parseOnDemand_safe (limit : Nat) (source : String) :
    (∃ s, parseOnDemand limit source = some (.ok (parseWithin limit source, s)) ∧
      s.reader.Holds (items source.toList) ∧ s.openParens = 0 ∧ s.depth = 0) ∧
    ∀ s : Session, s.reader.Holds (items source.toList) → s.Safe limit source.toList := by
  refine ⟨?_, fun s => Session.safe_of_holds limit⟩
  obtain ⟨reply, s, ends, rfl, j, stands⟩ := Session.returns_source limit source.toList
  exact ⟨s, ends, stands.holds, stands.openParens_eq, stands.depth_eq⟩

/-- `parseOnDemand_safe` for a paren that is never closed, and for the session before it is
read. -/
theorem parseOnDemand_safe_unclosed :
    (∃ s, parseOnDemand 2 "f (a" = some (.ok (parseWithin 2 "f (a", s)) ∧
      s.reader.Holds (items "f (a".toList) ∧ s.openParens = 0 ∧ s.depth = 0) ∧
    (Session.ofSource "f (a".toList).Safe 2 "f (a".toList :=
  ⟨(parseOnDemand_safe 2 "f (a").1, (parseOnDemand_safe 2 "f (a").2 _ (Reader.holds_ofSource _)⟩

end Offside
