import Mathlib.Logic.Relation
import Offside.Proofs.Deepening
import Offside.Proofs.Failure

/-!
# The limit on nesting

`Attempt.Calls` says which parts of the parser are read in turn while a part is read.  A part that
calls, in any number of steps, for an expression past the limit gives up with the error of that
expression (`Attempt.failsWith_of_reaches`): nothing on the way changes or drops it.  Conversely a
chain of errors that has one for its nesting is that error alone, and comes from such a call
(`Attempt.reaches_of_failsWith`).  Each level that is entered takes a token
(`Attempt.room_le_of_reaches`), so **the limit is only a guard** (`parseWithin_limit`): it can be
raised without a change, and one past the number of tokens is never met.
-/

namespace Offside

/-! ### Tokens -/

/-- Whether an item is a token that is no trivia. -/
def Item.isContent (item : Item) : Bool :=
  match item.lexeme with
  | .token _ => !item.isTrivia
  | .error _ => false

theorem Item.isContent_of_lexeme {item : Item} {t : Token} (lexeme : item.lexeme = .token t)
    (h : item.isTrivia = false) : item.isContent = true := by
  simp [isContent, lexeme, h]

/-- The number of tokens among items, trivia aside. -/
def tokenCount (items : List Item) : Nat := items.countP Item.isContent

theorem tokenCount_cons {item : Item} {t : Token} (lexeme : item.lexeme = .token t)
    (h : item.isTrivia = false) (items : List Item) :
    tokenCount (item :: items) = tokenCount items + 1 :=
  List.countP_cons_of_pos (Item.isContent_of_lexeme lexeme h)

theorem tokenCount_le_of_suffix {xs ys : List Item} (h : xs <:+ ys) :
    tokenCount xs ≤ tokenCount ys := h.sublist.countP_le

theorem tokenCount_pos {items : List Item} (clean : Clean items) (some : significant items ≠ []) :
    0 < tokenCount items := by
  obtain ⟨item, tail, hs⟩ := List.exists_cons_of_ne_nil some
  have suffix := significant_suffix items
  obtain ⟨t, lexeme⟩ := clean item (suffix.subset (hs ▸ List.mem_cons_self))
  have := tokenCount_le_of_suffix suffix
  rw [hs, tokenCount_cons lexeme (isTrivia_of_significant hs)] at this
  omega

/-! ### Errors for the nesting -/

theorem exists_tooDeep_eq (limit sourceEnd : Nat) (items : List Item) :
    ∃ span, tooDeep limit sourceEnd items = .plain span (.tooDeep limit) := by
  rw [tooDeep]
  split <;> exact ⟨_, rfl⟩

theorem wrap_tooDeep (limit sourceEnd : Nat) (items : List Item) (span : Span)
    (what : Expectation) :
    (tooDeep limit sourceEnd items).wrap span what = tooDeep limit sourceEnd items := by
  obtain ⟨at', h⟩ := exists_tooDeep_eq limit sourceEnd items
  rw [h]
  rfl

theorem Item.first_ne_tooDeep {item : Item} {problem : Problem}
    (h : item.first = .misplaced problem) (k : Nat) : problem ≠ .tooDeep k := by
  rintro rfl
  rw [Item.first] at h
  split at h <;> cases h

theorem Item.follow_ne_tooDeep {item : Item} {problem : Problem}
    (h : item.follow = .misplaced problem) (k : Nat) : problem ≠ .tooDeep k := by
  rintro rfl
  rw [Item.follow] at h
  split at h <;> cases h

/-! ### Calls -/

namespace Attempt

/-- How many levels of expressions a part may open. -/
def room : Attempt → Nat
  | expression room _ _ | extension room _ _ _ | statements room _ _ _ | block room _ _ _ => room

/-- That a part of the parser fails with an error. -/
def FailsWith (limit sourceEnd : Nat) : Attempt → ParseError → Prop
  | expression room ctx items, e =>
    (Offside.expression limit sourceEnd room).run ctx items = .error e
  | extension room ctx lhs items, e =>
    extend (Offside.expression limit sourceEnd room) ctx lhs items = .error e
  | statements room level isGrouped items, e =>
    statementsAfter (Offside.expression limit sourceEnd room) level isGrouped items = .error e
  | block room level isGrouped items, e =>
    Offside.block (Offside.expression limit sourceEnd room) level isGrouped items = .error e

/-- That the first part is read by reading the second one, in turn or to go on with. -/
inductive Calls (limit sourceEnd : Nat) : Attempt → Attempt → Prop
  /-- An expression begins past a comment. -/
  | leadingComment {room : Nat} {ctx : Context} {item : Item} {items : List Item}
      (first : item.first = .comment) :
      Calls limit sourceEnd (expression (room + 1) ctx (item :: items))
        (expression (room + 1) ctx items)
  /-- An expression begins past a line break. -/
  | leadingNewline {room : Nat} {ctx : Context} {item : Item} {items : List Item}
      (first : item.first = .newline) (stays : ctx.dedents items = false) :
      Calls limit sourceEnd (expression (room + 1) ctx (item :: items))
        (expression (room + 1) ctx items)
  /-- Something may follow an item that is an expression by itself. -/
  | leaf {room : Nat} {ctx : Context} {item : Item} {items : List Item} {lhs : Expr}
      (first : item.first = .leaf lhs) :
      Calls limit sourceEnd (expression (room + 1) ctx (item :: items))
        (extension room ctx lhs items)
  /-- A paren that is not closed at once has a block in it. -/
  | content {room : Nat} {ctx : Context} {opener item : Item} {items : List Item} {t : Token}
      (first : opener.first = .opening) (lexeme : item.lexeme = .token t)
      (other : t ≠ .closing .round) :
      Calls limit sourceEnd (expression (room + 1) ctx (opener :: item :: items))
        (block room 0 true (item :: items))
  /-- Something may follow a group. -/
  | group {room : Nat} {ctx : Context} {opener : Item} {items rest : List Item} {lhs : Expr}
      (first : opener.first = .opening)
      (read : Offside.group (Offside.expression limit sourceEnd room) opener items =
        .ok (lhs, rest)) :
      Calls limit sourceEnd (expression (room + 1) ctx (opener :: items))
        (extension room ctx lhs rest)
  /-- The value of a declaration is a block at the column of its first item. -/
  | value {room : Nat} {ctx : Context} {item first : Item}
      {items afterName afterSign tail : List Item} {word : Keyword} {name : String × Span}
      {sign : Unit × Span} (keyword : item.first = .keyword word)
      (statement : ctx.isStatement = true)
      (named : expect sourceEnd declaredName? .expectedName items = .ok (name, afterName))
      (assigned : expect sourceEnd assignment? .expectedAssignment afterName =
        .ok (sign, afterSign))
      (begins : significant afterSign = first :: tail)
      (indented : (crossesLine afterSign && decide (first.column ≤ item.column)) = false) :
      Calls limit sourceEnd (expression (room + 1) ctx (item :: items))
        (block room first.column ctx.isGrouped (first :: tail))
  /-- The value of a declaration is looked for at the end of the source, too. -/
  | noValue {room : Nat} {ctx : Context} {item : Item} {items afterName afterSign : List Item}
      {word : Keyword} {name : String × Span} {sign : Unit × Span}
      (keyword : item.first = .keyword word) (statement : ctx.isStatement = true)
      (named : expect sourceEnd declaredName? .expectedName items = .ok (name, afterName))
      (assigned : expect sourceEnd assignment? .expectedAssignment afterName =
        .ok (sign, afterSign))
      (ends : significant afterSign = []) :
      Calls limit sourceEnd (expression (room + 1) ctx (item :: items))
        (block room (item.column + 1) ctx.isGrouped afterSign)
  /-- An expression goes on past a comment. -/
  | comment {room : Nat} {ctx : Context} {lhs : Expr} {item : Item} {items : List Item}
      (follow : item.follow = .comment) :
      Calls limit sourceEnd (extension room ctx lhs (item :: items))
        (extension room ctx lhs items)
  /-- An expression goes on past a line break. -/
  | continuation {room : Nat} {ctx : Context} {lhs : Expr} {item : Item} {items : List Item}
      (follow : item.follow = .newline) (continues : ctx.continues items = true) :
      Calls limit sourceEnd (extension room ctx lhs (item :: items))
        (extension room ctx lhs items)
  /-- An operator has an operand on its right. -/
  | operand {room : Nat} {ctx : Context} {lhs : Expr} {item : Item} {items : List Item}
      {op : Operator} (follow : item.follow = .operator op)
      (accepted : ctx.accepts op.binding = true) :
      Calls limit sourceEnd (extension room ctx lhs (item :: items))
        (expression room (ctx.operand op.binding) items)
  /-- Something may follow the operand. -/
  | operator {room : Nat} {ctx : Context} {lhs rhs : Expr} {item : Item}
      {items rest : List Item} {op : Operator} (follow : item.follow = .operator op)
      (accepted : ctx.accepts op.binding = true)
      (read : (Offside.expression limit sourceEnd room).run (ctx.operand op.binding) items =
        .ok (.found rhs, rest)) :
      Calls limit sourceEnd (extension room ctx lhs (item :: items))
        (extension room ctx (lhs.infixed op item.span rhs) rest)
  /-- An argument stands next to the expression. -/
  | argument {room : Nat} {ctx : Context} {lhs : Expr} {item : Item} {items : List Item}
      (follow : item.follow = .argument) (accepted : ctx.accepts .application = true) :
      Calls limit sourceEnd (extension room ctx lhs (item :: items))
        (expression room (ctx.operand .application) (item :: items))
  /-- Something may follow the argument. -/
  | application {room : Nat} {ctx : Context} {lhs rhs : Expr} {item : Item}
      {items rest : List Item} (follow : item.follow = .argument)
      (accepted : ctx.accepts .application = true)
      (read : (Offside.expression limit sourceEnd room).run (ctx.operand .application)
        (item :: items) = .ok (.found rhs, rest)) :
      Calls limit sourceEnd (extension room ctx lhs (item :: items))
        (extension room ctx (lhs.applied rhs) rest)
  /-- A statement follows another one. -/
  | statement {room level : Nat} {isGrouped : Bool} {items tail : List Item} {first : Item}
      (next : significant items = first :: tail) (inside : level ≤ first.column) :
      Calls limit sourceEnd (statements room level isGrouped items)
        (expression room (.statement level isGrouped) (first :: tail))
  /-- More statements may follow that one. -/
  | others {room level : Nat} {isGrouped : Bool} {items tail rest : List Item} {first : Item}
      {e : Expr} (next : significant items = first :: tail) (inside : level ≤ first.column)
      (read : (Offside.expression limit sourceEnd room).run (.statement level isGrouped)
        (first :: tail) = .ok (.found e, rest)) :
      Calls limit sourceEnd (statements room level isGrouped items)
        (statements room level isGrouped rest)
  /-- A block begins with a statement. -/
  | first {room level : Nat} {isGrouped : Bool} {items : List Item} :
      Calls limit sourceEnd (block room level isGrouped items)
        (expression room (.statement level isGrouped) items)
  /-- More statements may follow the first one. -/
  | rest {room level : Nat} {isGrouped : Bool} {items rest : List Item} {e : Expr}
      (read : (Offside.expression limit sourceEnd room).run (.statement level isGrouped) items =
        .ok (.found e, rest)) :
      Calls limit sourceEnd (block room level isGrouped items)
        (statements room level isGrouped rest)

/-- That a part calls, in any number of steps, for an expression past the limit, which would begin
at `rest`. -/
def Reaches (limit sourceEnd : Nat) (a : Attempt) (rest : List Item) : Prop :=
  ∃ ctx, Relation.ReflTransGen (Calls limit sourceEnd) a (expression 0 ctx rest)

variable {limit sourceEnd : Nat} {a b : Attempt} {e : ParseError} {rest : List Item}

theorem Reaches.head (h : a.Calls limit sourceEnd b) (r : b.Reaches limit sourceEnd rest) :
    a.Reaches limit sourceEnd rest := by
  obtain ⟨ctx, path⟩ := r
  exact ⟨ctx, path.head h⟩

/-! ### What a call raises -/

theorem required_of_error {r : Reading Outcome} (propagates : e.propagates = true)
    (hr : r = .error e) (span : Span) (what : Expectation) : r.required span what = .error e := by
  rw [hr, Reading.required, ParseError.wrap, if_pos propagates]

theorem group_of_token {inner : ExprParser} {opener item : Item} {items : List Item} {t : Token}
    (lexeme : item.lexeme = .token t) (other : t ≠ .closing .round) :
    group inner opener (item :: items) = groupBody inner opener (item :: items) := by
  rw [group, lexeme]
  split
  · next close =>
    cases close
    exact absurd rfl other
  · rfl
  · next error => cases error

/-- **An error that is never wrapped comes through a call as it is.** -/
theorem Calls.failsWith (h : a.Calls limit sourceEnd b) (propagates : e.propagates = true)
    (hb : b.FailsWith limit sourceEnd e) : a.FailsWith limit sourceEnd e := by
  cases h with
  | leadingComment first =>
    rw [FailsWith, expression_succ, term, first]
    exact hb
  | leadingNewline first stays =>
    rw [FailsWith, expression_succ, term, first, stays]
    exact hb
  | leaf first =>
    rw [FailsWith, expression_succ, term, first]
    rw [FailsWith] at hb
    simp only [hb, Reading.found, Except.map]
  | content first lexeme other =>
    rw [FailsWith] at hb
    simp only [FailsWith, expression_succ, term, first, group_of_token lexeme other, groupBody, hb]
  | group first read =>
    rw [FailsWith] at hb
    simp only [FailsWith, expression_succ, term, first, read, hb, Reading.found, Except.map]
  | @value _ _ _ _ _ _ _ _ _ name sign keyword statement named assigned begins indented =>
    obtain ⟨name, nameSpan⟩ := name
    obtain ⟨_, signSpan⟩ := sign
    -- The value is required, but an error that propagates gets no link for that.
    have content := required_of_error propagates hb signSpan .initializer
    simp only [FailsWith, expression_succ, term, keyword, statement, if_true, declaration, named,
      assigned, initializer, begins, indented, content, Reading.found, Except.map]
    simp
  | @noValue _ _ _ _ _ _ _ name sign keyword statement named assigned ends =>
    obtain ⟨name, nameSpan⟩ := name
    obtain ⟨_, signSpan⟩ := sign
    have content := required_of_error propagates hb signSpan .initializer
    simp only [FailsWith, expression_succ, term, keyword, statement, if_true, declaration, named,
      assigned, initializer, ends, content, Reading.found, Except.map]
  | comment follow =>
    rw [FailsWith, extend_comment follow]
    exact hb
  | continuation follow continues =>
    rw [FailsWith, extend_newline follow, if_pos continues]
    exact hb
  | operand follow accepted =>
    rw [FailsWith, extend_operator follow, if_pos accepted, required_of_error propagates hb]
  | operator follow accepted read =>
    rw [FailsWith, extend_operator follow, if_pos accepted, read]
    exact hb
  | argument follow accepted =>
    rw [FailsWith, extend_argument follow, if_pos accepted, required_of_error propagates hb]
  | application follow accepted read =>
    rw [FailsWith, extend_argument follow, if_pos accepted, read]
    exact hb
  | statement next inside =>
    rw [FailsWith] at hb
    simp only [FailsWith, statementsAfter_eq, next, if_neg (Nat.not_lt_of_le inside), hb]
  | others next inside read =>
    rw [FailsWith] at hb
    rw [FailsWith, statementsAfter_eq, next]
    simp only [if_neg (Nat.not_lt_of_le inside), read, hb]
  | first =>
    rw [FailsWith] at hb
    simp only [FailsWith, Offside.block, hb]
  | rest read =>
    rw [FailsWith] at hb
    simp only [FailsWith, Offside.block, read, hb]

/-- **Where a call reaches past the limit, the part gives up**, with the error of that call. -/
theorem failsWith_of_reaches (h : a.Reaches limit sourceEnd rest) :
    a.FailsWith limit sourceEnd (tooDeep limit sourceEnd rest) := by
  obtain ⟨ctx, path⟩ := h
  induction path using Relation.ReflTransGen.head_induction_on with
  | refl => rfl
  | head call _ ih =>
    obtain ⟨span, eq⟩ := exists_tooDeep_eq limit sourceEnd rest
    exact call.failsWith (by rw [eq]; rfl) ih

/-! ### Where errors for the nesting come from -/

/-- That an error is the one of a call past the limit, which the part reaches. -/
def Raises (limit sourceEnd : Nat) (a : Attempt) (e : ParseError) : Prop :=
  ∃ rest, a.Reaches limit sourceEnd rest ∧ e = tooDeep limit sourceEnd rest

theorem Raises.head (h : a.Calls limit sourceEnd b) (r : b.Raises limit sourceEnd e) :
    a.Raises limit sourceEnd e := by
  obtain ⟨rest, reaches, rfl⟩ := r
  exact ⟨rest, reaches.head h, rfl⟩

/-- An error for the nesting is the same where a part is required. -/
theorem Raises.wrap (h : a.Calls limit sourceEnd b) (r : b.Raises limit sourceEnd e)
    (span : Span) (what : Expectation) : a.Raises limit sourceEnd (e.wrap span what) := by
  obtain ⟨rest, reaches, rfl⟩ := r
  exact ⟨rest, reaches.head h, wrap_tooDeep limit sourceEnd rest span what⟩

end Attempt

/-- That an error is, or ends in, one for the nesting. -/
def ParseError.IsTooDeep (e : ParseError) : Prop := ∃ k, e.root.2 = .tooDeep k

section Origins

variable {limit sourceEnd room : Nat} {e : ParseError}

theorem ParseError.isTooDeep_wrap {span : Span} {what : Expectation} :
    (e.wrap span what).IsTooDeep ↔ e.IsTooDeep := by
  rw [IsTooDeep, root_wrap, IsTooDeep]

/-- That errors for the nesting of expressions of some room are raised past the limit. -/
def Traced (limit sourceEnd room : Nat) : Prop :=
  ∀ ctx items e, (expression limit sourceEnd room).run ctx items = .error e → e.IsTooDeep →
    (Attempt.expression room ctx items).Raises limit sourceEnd e

theorem raises_of_required {r : Reading Outcome} {span : Span} {what : Expectation}
    {a b : Attempt} (call : a.Calls limit sourceEnd b)
    (traced : ∀ cause, r = .error cause → cause.IsTooDeep → b.Raises limit sourceEnd cause)
    (h : r.required span what = .error e) (deep : e.IsTooDeep) :
    a.Raises limit sourceEnd e := by
  rcases Reading.required_eq_error h with ⟨o, rest, -, -, rfl⟩ | ⟨cause, hc, rfl⟩
  · -- Nothing was found where something has to be, which is an error of its own.
    obtain ⟨k, hk⟩ := deep
    cases hk
  · exact (traced cause hc (ParseError.isTooDeep_wrap.1 deep)).wrap call span what

theorem raises_of_extend (ih : Traced limit sourceEnd room) {ctx : Context} {lhs : Expr}
    {items : List Item} (h : extend (expression limit sourceEnd room) ctx lhs items = .error e)
    (deep : e.IsTooDeep) :
    (Attempt.extension room ctx lhs items).Raises limit sourceEnd e := by
  fun_induction extend (expression limit sourceEnd room) ctx lhs items with
  | case2 lhs item items hf ih' => exact (ih' h).head (.comment hf)
  | case3 lhs item items hf hc ih' => exact (ih' h).head (.continuation hf hc)
  | case5 lhs item items op hf ha rhs rest hr ih' =>
    exact (ih' h).head (.operator hf ha (Reading.required_eq_ok hr))
  | case6 lhs item items op hf ha cause hr =>
    cases h
    exact raises_of_required (.operand hf ha) (ih _ _) hr deep
  | case8 lhs item items hf ha rhs rest hr ih' =>
    exact (ih' h).head (.application hf ha (Reading.required_eq_ok hr))
  | case9 lhs item items hf ha cause hr =>
    cases h
    exact raises_of_required (.argument hf ha) (ih _ _) hr deep
  | case12 lhs item items problem hf =>
    cases h
    obtain ⟨k, hk⟩ := deep
    exact absurd hk (Item.follow_ne_tooDeep hf k)
  | case1 | case4 | case7 | case10 | case11 => cases h

theorem raises_of_statementsAfter (ih : Traced limit sourceEnd room) {level : Nat}
    {isGrouped : Bool} {items : List Item}
    (h : statementsAfter (expression limit sourceEnd room) level isGrouped items = .error e)
    (deep : e.IsTooDeep) :
    (Attempt.statements room level isGrouped items).Raises limit sourceEnd e := by
  fun_induction statementsAfter (expression limit sourceEnd room) level isGrouped items with
  | case3 | case1 | case2 | case5 => cases h
  | case4 items item tail hs hc s next hr cause hl ih' =>
    cases h
    exact (ih' hl).head (.others hs (Nat.le_of_not_lt hc) hr)
  | case6 items item tail hs hc cause hr =>
    cases h
    exact (ih _ _ _ hr deep).head (.statement hs (Nat.le_of_not_lt hc))

theorem raises_of_block (ih : Traced limit sourceEnd room) {level : Nat} {isGrouped : Bool}
    {items : List Item}
    (h : block (expression limit sourceEnd room) level isGrouped items = .error e)
    (deep : e.IsTooDeep) :
    (Attempt.block room level isGrouped items).Raises limit sourceEnd e := by
  unfold block at h
  split at h
  · next s next hr =>
    split at h
    · cases h
    · next cause hl =>
      cases h
      exact (raises_of_statementsAfter ih hl deep).head (.rest hr)
  · exact (ih _ _ _ h deep).head .first

theorem not_isTooDeep_of_closeGroup {opener : Item} {body : Expr} {items : List Item}
    (h : closeGroup opener body items = .error e) : ¬e.IsTooDeep := by
  rintro ⟨k, hk⟩
  unfold closeGroup at h
  split at h
  · cases h
    cases hk
  · split at h <;> cases h <;> cases hk

theorem raises_of_groupBody (ih : Traced limit sourceEnd room) {opener : Item}
    {items : List Item}
    (h : groupBody (expression limit sourceEnd room) opener items = .error e)
    (deep : e.IsTooDeep) : (Attempt.block room 0 true items).Raises limit sourceEnd e := by
  unfold groupBody at h
  split at h
  · exact absurd deep (not_isTooDeep_of_closeGroup h)
  · cases h
    obtain ⟨k, hk⟩ := deep
    cases hk
  · cases h
    obtain ⟨k, hk⟩ := deep
    cases hk
  · next cause hb =>
    cases h
    exact raises_of_block ih hb deep

/-- An error of a group for the nesting comes from the block in it. -/
theorem raises_of_group (ih : Traced limit sourceEnd room) {ctx : Context} {opener : Item}
    {items : List Item} (first : opener.first = .opening)
    (h : group (expression limit sourceEnd room) opener items = .error e) (deep : e.IsTooDeep) :
    (Attempt.expression (room + 1) ctx (opener :: items)).Raises limit sourceEnd e := by
  unfold group at h
  split at h
  · cases h
    obtain ⟨k, hk⟩ := deep
    cases hk
  · next item tail =>
    split at h
    · cases h
    · next t other lexeme =>
      exact (raises_of_groupBody ih h deep).head
        (.content first lexeme fun closes => other (closes ▸ rfl))
    · cases h
      obtain ⟨k, hk⟩ := deep
      cases hk

theorem not_isTooDeep_of_lacks {α : Type} {accept : Token → Option α} {problem : Problem}
    {items : List Item} (other : ∀ k, problem ≠ .tooDeep k)
    (h : Lacks sourceEnd accept problem items e) : ¬e.IsTooDeep := by
  rintro ⟨k, hk⟩
  cases h with
  | ended | other => exact other k hk
  | error => cases hk

theorem raises_of_declaration (ih : Traced limit sourceEnd room) {ctx : Context}
    {word : Keyword} {item : Item} {items : List Item} (keyword : item.first = .keyword word)
    (statement : ctx.isStatement = true)
    (h : declaration (expression limit sourceEnd room) sourceEnd word ctx.isGrouped item items =
      .error e) (deep : e.IsTooDeep) :
    (Attempt.expression (room + 1) ctx (item :: items)).Raises limit sourceEnd e := by
  unfold declaration at h
  split at h
  · next hn =>
    cases h
    exact absurd deep (not_isTooDeep_of_lacks (by simp) (lacks_of_expect hn))
  next name nameSpan afterName hn =>
  split at h
  · next ha =>
    cases h
    exact absurd deep (not_isTooDeep_of_lacks (by simp) (lacks_of_expect ha))
  next assignment afterSign ha =>
  split at h
  swap
  · cases h
  next cause hi =>
  cases h
  unfold initializer at hi
  split at hi
  · next ends =>
    exact raises_of_required (.noValue keyword statement hn ha ends)
      (fun _ hb => raises_of_block ih hb) hi deep
  · next first tail begins =>
    split at hi
    · cases hi
      obtain ⟨k, hk⟩ := deep
      cases hk
    · next indented =>
      exact raises_of_required
        (.value keyword statement hn ha begins (Bool.eq_false_iff.2 indented))
        (fun _ hb => raises_of_block ih hb) hi deep

theorem raises_of_term (ih : Traced limit sourceEnd room) {ctx : Context} {items : List Item}
    (h : term (expression limit sourceEnd room) sourceEnd ctx items = .error e)
    (deep : e.IsTooDeep) :
    (Attempt.expression (room + 1) ctx items).Raises limit sourceEnd e := by
  fun_induction term (expression limit sourceEnd room) sourceEnd ctx items with
  | case2 item items hf ih' => exact (ih' h).head (.leadingComment hf)
  | case4 item items hf hd ih' =>
    exact (ih' h).head (.leadingNewline hf (Bool.eq_false_iff.2 hd))
  | case5 item items lhs hf =>
    exact (raises_of_extend ih (Reading.found_eq_error h) deep).head (.leaf hf)
  | case6 item items word hf hs =>
    exact raises_of_declaration ih hf hs (Reading.found_eq_error h) deep
  | case8 item items hf lhs next hg =>
    exact (raises_of_extend ih (Reading.found_eq_error h) deep).head (.group hf hg)
  | case9 item items hf cause hg =>
    cases h
    exact raises_of_group ih hf hg deep
  | case12 item items problem hf =>
    cases h
    obtain ⟨k, hk⟩ := deep
    exact absurd hk (Item.first_ne_tooDeep hf k)
  | case7 | case11 =>
    cases h
    obtain ⟨k, hk⟩ := deep
    cases hk
  | case1 | case3 | case10 => cases h

/-- **Errors for the nesting are raised past the limit only**, and come through as they are. -/
theorem traced (limit sourceEnd room : Nat) : Traced limit sourceEnd room := by
  induction room with
  | zero =>
    -- No level is left, so any error of this parser is the one raised here.
    intro ctx items e h _
    cases h
    exact ⟨items, ⟨ctx, .refl⟩, rfl⟩
  | succ room ih => exact fun ctx items e h deep => raises_of_term ih h deep

end Origins

namespace Attempt

variable {limit sourceEnd : Nat} {a b : Attempt} {e : ParseError}

/-- **A part that fails for the nesting reaches past the limit**, and fails with the error of that
call. -/
theorem raises_of_failsWith (h : a.FailsWith limit sourceEnd e) (deep : e.IsTooDeep) :
    a.Raises limit sourceEnd e := by
  cases a with
  | expression room ctx items => exact traced limit sourceEnd room ctx items e h deep
  | extension => exact raises_of_extend (traced _ _ _) h deep
  | statements => exact raises_of_statementsAfter (traced _ _ _) h deep
  | block => exact raises_of_block (traced _ _ _) h deep

/-! ### Every level takes a token -/

theorem suffix_of_run {room : Nat} {ctx : Context} {items rest : List Item} {x : Expr}
    (h : (Offside.expression limit sourceEnd room).run ctx items = .ok (.found x, rest)) :
    rest <:+ items := by
  obtain ⟨used, rfl, -⟩ := derivable_of_run _ _ _ _ _ _ _ h
  exact List.suffix_append _ _

theorem suffix_of_group {room : Nat} {opener : Item} {items rest : List Item} {x : Expr}
    (h : group (Offside.expression limit sourceEnd room) opener items = .ok (x, rest)) :
    rest <:+ items := by
  rcases derivable_of_group (derivable_of_run _ _ _) h with ⟨close, rfl, -⟩ |
    ⟨body, skipped, close, rfl, -⟩
  · exact List.suffix_cons _ _
  · exact ⟨body ++ (skipped ++ [close]), by simp⟩

theorem suffix_of_expect {α : Type} {accept : Token → Option α} {problem : Problem}
    {a : α × Span} {items rest : List Item}
    (h : expect sourceEnd accept problem items = .ok (a, rest)) : rest <:+ items := by
  obtain ⟨item, t, rfl, -⟩ := split_expect h
  exact List.suffix_cons _ _

/-- A level is opened past a token. -/
theorem room_le_of_token {room : Nat} {item : Item} {t : Token} {items rest : List Item}
    (lexeme : item.lexeme = .token t) (solid : item.isTrivia = false) (h : rest <:+ items) :
    room + 1 + tokenCount rest ≤ room + tokenCount (item :: items) := by
  have := tokenCount_le_of_suffix h
  rw [tokenCount_cons lexeme solid]
  omega

/-- **A call that opens a level has taken a token.** -/
theorem Calls.room_le (h : a.Calls limit sourceEnd b) :
    a.room + tokenCount b.items ≤ b.room + tokenCount a.items := by
  have stays {room : Nat} {xs ys : List Item} (h : xs <:+ ys) :
      room + tokenCount xs ≤ room + tokenCount ys :=
    Nat.add_le_add_left (tokenCount_le_of_suffix h) room
  cases h with
  | leadingComment | leadingNewline | comment | continuation | operand =>
    exact stays (List.suffix_cons _ _)
  | leaf first =>
    obtain ⟨t, lexeme, -⟩ := Item.fits_of_first first
    exact room_le_of_token lexeme (Item.not_isTrivia_of_leaf first) List.suffix_rfl
  | content first =>
    have lexeme := Item.fits_of_first first
    exact room_le_of_token lexeme (Item.not_isTrivia_of_lexeme lexeme (by simp) (by simp))
      List.suffix_rfl
  | group first read =>
    have lexeme := Item.fits_of_first first
    exact room_le_of_token lexeme (Item.not_isTrivia_of_lexeme lexeme (by simp) (by simp))
      (suffix_of_group read)
  | value keyword statement named assigned begins =>
    have lexeme := Item.fits_of_first keyword
    have value := (significant_suffix _).trans
      ((suffix_of_expect assigned).trans (suffix_of_expect named))
    rw [begins] at value
    exact room_le_of_token lexeme (Item.not_isTrivia_of_lexeme lexeme (by simp) (by simp)) value
  | noValue keyword statement named assigned =>
    have lexeme := Item.fits_of_first keyword
    exact room_le_of_token lexeme (Item.not_isTrivia_of_lexeme lexeme (by simp) (by simp))
      ((suffix_of_expect assigned).trans (suffix_of_expect named))
  | operator _ _ read => exact stays ((suffix_of_run read).trans (List.suffix_cons _ _))
  | argument | first => exact Nat.le_refl _
  | application _ _ read | rest read => exact stays (suffix_of_run read)
  | statement next => exact stays (next ▸ significant_suffix _)
  | others next _ read => exact stays ((suffix_of_run read).trans (next ▸ significant_suffix _))

/-- **Past the limit there are as many tokens as levels**, and those that are left. -/
theorem room_le_of_reaches {rest : List Item} (h : a.Reaches limit sourceEnd rest) :
    a.room + tokenCount rest ≤ tokenCount a.items := by
  obtain ⟨ctx, path⟩ := h
  -- From the call past the limit, which has no room, back to the part that reaches it.
  induction path using Relation.ReflTransGen.head_induction_on with
  | refl => exact Nat.le_of_eq (Nat.zero_add _)
  | head call _ ih =>
    have := call.room_le
    omega

end Attempt

/-! ### Whole sources -/

/-- That reading a source comes to an expression past the limit, which would begin at `rest`. -/
def ReachesLimit (limit : Nat) (source : String) (rest : List Item) : Prop :=
  (Attempt.block limit (firstColumn (items source.toList)) false (items source.toList)).Reaches
    limit (byteLength source.toList) rest

/-- That a source is given up for its nesting: a link of the chain of its error says so. -/
def GivenUp (r : Except ParseError Expr) : Prop :=
  ∃ e span k, r = .error e ∧ .plain span (.tooDeep k) ∈ e.chain

theorem GivenUp.of_isTooDeep {e : ParseError} (deep : e.IsTooDeep) : GivenUp (.error e) := by
  obtain ⟨k, hk⟩ := deep
  exact ⟨e, e.root.1, k, rfl, ParseError.plain_mem_chain.2 (Prod.ext rfl hk)⟩

theorem not_givenUp_ok (e : Expr) : ¬GivenUp (.ok e) := by
  rintro ⟨_, _, _, h, -⟩
  cases h

theorem leftover?_not_isTooDeep {items : List Item} {e : ParseError}
    (h : leftover? items = some e) : ¬e.IsTooDeep := by
  rintro ⟨k, hk⟩
  rw [leftover?] at h
  split at h
  · cases h
  · split at h <;> cases h <;> cases hk

section Sources

variable {limit limit' : Nat} {source : String}

/-- An expression past the limit gives up the source. -/
theorem parseWithin_of_reachesLimit {rest : List Item} (h : ReachesLimit limit source rest) :
    parseWithin limit source = .error (tooDeep limit (byteLength source.toList) rest) := by
  have raised : block _ _ _ _ = .error _ := Attempt.failsWith_of_reaches h
  rw [parseWithin, parseItems, raised]

/-- **A source that is given up** reaches past the limit, and its error is the one raised there. -/
theorem reachesLimit_of_parseWithin {e : ParseError} (h : parseWithin limit source = .error e)
    (deep : e.IsTooDeep) : ∃ rest, ReachesLimit limit source rest ∧
      e = tooDeep limit (byteLength source.toList) rest := by
  rw [parseWithin, parseItems] at h
  split at h
  · next cause hb =>
    cases h
    exact Attempt.raises_of_failsWith (a := .block ..) hb deep
  · split at h
    · next hl =>
      cases h
      exact absurd deep (leftover?_not_isTooDeep hl)
    · split at h <;> cases h

/-- With a limit past the number of tokens no expression is past the limit. -/
theorem not_givenUp_of_tokenCount_lt (lt : tokenCount (items source.toList) < limit) :
    ¬GivenUp (parseWithin limit source) := by
  rintro ⟨e, span, k, h, link⟩
  have root := ParseError.plain_mem_chain.1 link
  obtain ⟨rest, reaches, -⟩ := reachesLimit_of_parseWithin h ⟨k, by rw [root]⟩
  have := Attempt.room_le_of_reaches reaches
  simp only [Attempt.room, Attempt.items] at this
  omega

/-- A source that is not given up is read the same under a higher limit. -/
theorem parseWithin_of_le (le : limit ≤ limit') (kept : ¬GivenUp (parseWithin limit source)) :
    parseWithin limit' source = parseWithin limit source := by
  have deepens := deepens_parseItems le (byteLength source.toList) (items source.toList)
  rw [parseWithin] at kept
  rw [parseWithin, parseWithin]
  generalize parseItems limit _ _ = r at deepens kept ⊢
  cases deepens with
  | gaveUp => exact absurd (.of_isTooDeep ⟨limit, rfl⟩) kept
  | same => rfl

/-- A source that is read under some limit is read the same under each that is past the number of
tokens. -/
theorem parseWithin_of_tokenCount_lt {e : Expr} (read : parseWithin limit source = .ok e)
    (lt : tokenCount (items source.toList) < limit') : parseWithin limit' source = .ok e := by
  -- The second limit may also be the lower one; then it is the first one that is raised to.
  rcases Nat.le_total limit limit' with le | le
  · rw [parseWithin_of_le le (by rw [read]; exact not_givenUp_ok e), read]
  · rw [← parseWithin_of_le le (not_givenUp_of_tokenCount_lt lt), read]

end Sources

/-- **The limit on nesting is only a guard.**  Whatever a source is read as under a limit, it is
read as under each higher one, unless it is given up.  Wherever an expression begins past the
limit, the error of the source is the one raised there; an error for the nesting has no links
around it, and says what the limit is.  With a limit past the number of tokens no source is given
up. -/
theorem parseWithin_limit (source : String) (limit : Nat) :
    (∀ limit', limit ≤ limit' → ¬GivenUp (parseWithin limit source) →
      parseWithin limit' source = parseWithin limit source) ∧
    (∀ rest, ReachesLimit limit source rest →
      parseWithin limit source = .error (tooDeep limit (byteLength source.toList) rest)) ∧
    (∀ e span k, parseWithin limit source = .error e → .plain span (.tooDeep k) ∈ e.chain →
      e = .plain span (.tooDeep limit) ∧ k = limit ∧ ∃ rest, ReachesLimit limit source rest) ∧
    (tokenCount (items source.toList) < limit → ¬GivenUp (parseWithin limit source)) := by
  refine ⟨fun limit' le kept => parseWithin_of_le le kept,
    fun rest h => parseWithin_of_reachesLimit h, fun e span k h link => ?_,
    not_givenUp_of_tokenCount_lt⟩
  have root := ParseError.plain_mem_chain.1 link
  obtain ⟨rest, reaches, rfl⟩ := reachesLimit_of_parseWithin h ⟨k, by rw [root]⟩
  obtain ⟨at', eq⟩ := exists_tooDeep_eq limit (byteLength source.toList) rest
  rw [eq, ParseError.root, Prod.mk.injEq, Problem.tooDeep.injEq] at root
  obtain ⟨rfl, rfl⟩ := root
  exact ⟨eq, rfl, rest, reaches⟩

/-- `parseWithin_limit` for parens in parens: two levels are not enough, three are, and six are more
than there are tokens. -/
theorem parseWithin_limit_parens :
    (∃ rest, ReachesLimit 2 "((1))" rest ∧
      parseWithin 2 "((1))" = .error (tooDeep 2 5 rest)) ∧
    parseWithin 8 "((1))" = parseWithin 3 "((1))" ∧ ¬GivenUp (parseWithin 6 "((1))") := by
  obtain ⟨-, raised, origin, -⟩ := parseWithin_limit "((1))" 2
  obtain ⟨same, -⟩ := parseWithin_limit "((1))" 3
  obtain ⟨-, -, -, few⟩ := parseWithin_limit "((1))" 6
  obtain ⟨e, deep, link⟩ := exists_of_error (x := parseWithin 2 "((1))")
    (p := fun e => decide (.plain ⟨2, 1⟩ (.tooDeep 2) ∈ e.chain)) (by decide +kernel)
  obtain ⟨t, read, -⟩ := exists_of_any (x := parseWithin 3 "((1))") (p := fun _ => true)
    (by decide +kernel)
  obtain ⟨-, -, rest, reaches⟩ := origin e ⟨2, 1⟩ 2 deep (of_decide_eq_true link)
  exact ⟨⟨rest, reaches, raised rest reaches⟩,
    same 8 (by decide) (by rw [read]; exact not_givenUp_ok t), few (by decide +kernel)⟩

end Offside
