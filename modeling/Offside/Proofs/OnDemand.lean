import Offside.Proofs.Nodes
import Offside.Proofs.Replies
import Offside.Proofs.Runs
import Offside.Proofs.Steps

/-!
# Reading on demand is reading from a list

Each part of the parser that reads its items on demand ends without a fault, with what the part of
the same name reads from the items that are left (`Session.Agrees`).  A loop does if each of its
rounds does and moves on wherever the loop goes on (`Session.Returns.loop`).

The induction is on how deep expressions may still nest: `Session.Accords` says it of the
expressions with less room, and `Session.returns_expression` of those with any.  A whole source is
the last step (`Session.returns_source`).
-/

namespace Offside

/-- The parser that is given the items of a source, for the expressions of this room. -/
abbrev ExprParser.of (limit : Nat) (source : List Char) (room : Nat) : ExprParser :=
  expression limit (byteLength source) room

/-- What a loop does after a round. -/
def Round.follow {σ α : Type} (loop : σ → Parsing α) : Round σ α → Parsing α
  | .again state => loop state
  | .done result => return result

namespace Session

/-! ### Agreement -/

section Agrees

variable {α σ : Type} {source : List Char} {i j o d : Nat} {exact : Prop} {s : Session}

/-- That a session, which stood at `index`, has read what the items are read as. -/
def Agrees (source : List Char) (index openParens depth : Nat) (exact : Prop) (r : Reading α)
    (reply : Reply α) (s : Session) : Prop :=
  ∃ j, index ≤ j ∧ Stands source j openParens depth s ∧
    Replies exact ((items source).drop j) r reply

theorem Agrees.mono {exact' : Prop} {r : Reading α} {reply : Reply α}
    (h : Agrees source j o d exact r reply s) (le : i ≤ j) (he : exact' → exact) :
    Agrees source i o d exact' r reply s := by
  obtain ⟨k, hjk, stands, replies⟩ := h
  exact ⟨k, Nat.le_trans le hjk, stands, replies.mono he⟩

theorem Agrees.error {e : ParseError} (h : Stands source j o d s) (le : i ≤ j) :
    Agrees (α := α) source i o d exact (.error e) (.error e) s := ⟨j, le, h, .error⟩

theorem Agrees.here {x : α} {left : List Item} (h : Stands source j o d s) (le : i ≤ j)
    (hl : (items source).drop j = left) :
    Agrees source i o d exact (.ok (x, left)) (.ok x) s := ⟨j, le, h, hl ▸ .here x⟩

/-- What one round of a loop comes to.  If it goes on, then further on, and what is read from there
is what is read from here. -/
def Rounds (source : List Char) (index openParens depth : Nat) (exact : Prop)
    (reading : σ → List Item → Reading α) (now : Reading α) :
    Round σ (Reply α) → Session → Prop
  | .again state, s => ∃ j, index < j ∧ Stands source j openParens depth s ∧
    ∀ reply t, Agrees source j openParens depth exact (reading state ((items source).drop j))
      reply t → Agrees source index openParens depth exact now reply t
  | .done reply, s => Agrees source index openParens depth exact now reply s

/-- What is read from there is what is read from here. -/
theorem Rounds.again {reading : σ → List Item → Reading α} {now : Reading α} {state : σ}
    (stands : Stands source j o d s) (lt : i < j)
    (same : now = reading state ((items source).drop j)) :
    Rounds source i o d exact reading now (.again state) s :=
  ⟨j, lt, stands, fun _ _ h => same ▸ h.mono (Nat.le_of_lt lt) fun e => e⟩

/-- **A loop ends** if each round that goes on moves on. -/
theorem Returns.loop {reading : σ → List Item → Reading α} {loop : σ → Parsing (Reply α)}
    {round : σ → Parsing (Round σ (Reply α))}
    (unfolds : ∀ state, loop state = round state >>= Round.follow loop)
    (rounds : ∀ state i s, Stands source i o d s → Returns (round state) s
      (Rounds source i o d exact reading (reading state ((items source).drop i))))
    (state : σ) (h : Stands source i o d s) :
    Returns (loop state) s
      (Agrees source i o d exact (reading state ((items source).drop i))) := by
  induction hn : (items source).length - i using Nat.strong_induction_on generalizing state i s with
  | h n ih =>
    rw [unfolds]
    refine (rounds state i s h).bind ?_
    rintro (state' | reply) s' round
    · obtain ⟨j, lt, stands, goes⟩ := round
      have le := stands.index_le
      exact (ih _ (by omega) state' stands rfl).mono goes
    · exact .pure round

end Agrees

/-! ### Parts that hold no expression -/

section Parts

variable {limit : Nat} {source : List Char} {i o d : Nat} {s : Session}

theorem returns_through (a b : Span) (s : Session) :
    Returns (through a b) s fun span s' => span = a.through b ∧ s' = s := by
  have span : a.checkedThrough b = .ok (a.through b) := by
    have le : a.start ≤ max b.stop a.start := Nat.le_max_right ..
    rw [Span.checkedThrough, checkedSub, if_pos le]
    rfl
  refine .of_eq ?_ ⟨rfl, rfl⟩
  rw [through, span]
  rfl

theorem returns_unclosed {opener : Item} (h : opener ∈ items source) (contains : Bool)
    (cause : Option LexError) (s : Session) :
    Returns (unclosed (.of limit source) opener.span contains cause) s fun e s' =>
      e = Offside.unclosed opener contains cause ∧ s' = s := by
  refine .of_check (LineIndex.checkedLocate_ofSource ..) (.step (column_eq ..) (.pure ⟨?_, rfl⟩))
  rw [LineIndex.locate_item h, LineIndex.column_item h]
  rfl

/-- The statements of a block are there to be assembled. -/
theorem returns_assemble {statements : Array Expr} {first : Expr} {others : List Expr}
    (h : statements.toList = first :: others) (s : Session) :
    Returns (assemble statements) s fun e s' => e = first.sequence others ∧ s' = s := by
  have size : statements.size = others.length + 1 := by
    rw [← Array.length_toList, h, List.length_cons]
  have entry : checkedEntry statements 0 = .ok first := by
    rw [checkedEntry, ← Array.getElem?_toList, h]
    rfl
  unfold assemble
  split
  · next one =>
    obtain rfl : others = [] := List.length_eq_zero_iff.1 (by omega)
    refine .of_eq (b := first) ?_ ⟨rfl, rfl⟩
    rw [check, entry]
    rfl
  · next more =>
    cases hl : others.getLast? with
    | none =>
      rw [List.getLast?_eq_none_iff] at hl
      simp [hl] at size
      exact absurd size more
    | some last =>
      have place : checkedSub statements.size 1 = .ok others.length := by
        rw [checkedSub, if_pos (by omega), size, Nat.add_sub_cancel]
      have entry' : checkedEntry statements others.length = .ok last := by
        have last_eq : (first :: others).getLast? = some last := by
          rw [List.getLast?_cons, hl]
          rfl
        rw [List.getLast?_eq_getElem?, List.length_cons, Nat.add_sub_cancel] at last_eq
        rw [checkedEntry, ← Array.getElem?_toList, h, last_eq]
      refine .of_check entry (.of_check place (.of_check entry' ?_))
      refine (returns_through ..).bind ?_
      rintro span s' ⟨rfl, rfl⟩
      rw [Expr.sequence_of_getLast? hl, h]
      exact .pure ⟨rfl, rfl⟩

theorem returns_expect {α : Type} {accept : Token → Option α} {problem : Problem}
    (h : Stands source i o d s) :
    Returns (expect (.of limit source) accept problem) s (Agrees source i o d True
      (Offside.expect (byteLength source) accept problem ((items source).drop i))) := by
  unfold expect
  cases hl : (items source).drop i with
  | nil =>
    refine (h.next_nil hl).bind ?_
    rintro r s' ⟨rfl, stands⟩
    exact .pure (.error stands (Nat.le_refl i))
  | cons item tail =>
    refine (h.next_cons hl).bind ?_
    rintro r s' ⟨rfl, stands, -⟩
    rw [Offside.expect]
    dsimp only
    cases item.lexeme with
    | token t =>
      dsimp only
      cases accept t with
      | some a => exact .pure (.here stands (Nat.le_succ i) (drop_succ hl))
      | none => exact .pure (.error stands (Nat.le_succ i))
    | error c => exact .pure (.error stands (Nat.le_succ i))

/-- What a decision about the next significant item comes to: whether the session moves there. -/
def Decides (source : List Char) (index openParens depth : Nat) (decision goes : Bool)
    (s : Session) : Prop :=
  goes = decision ∧ ∃ j, index ≤ j ∧ Stands source j openParens depth s ∧ (items source).drop j =
    if goes then significant ((items source).drop index) else (items source).drop index

theorem Decides.stay (h : Stands source i o d s) : Decides source i o d false false s :=
  ⟨rfl, i, Nat.le_refl i, h, rfl⟩

/-- The session moves to what it sees if that is decided. -/
theorem returns_decided {sight : Sight} (sees : Sees source i o d sight s) (goes : Prop)
    [Decidable goes] :
    Returns (if goes then do jump sight.toLook; return true else return false) s
      (Decides source i o d (decide goes)) := by
  split
  · next yes =>
    refine sees.jump.bind ?_
    rintro - s' stands
    exact .pure ⟨(decide_eq_true yes).symm, sight.target, sees.le, stands, sees.target⟩
  · next no =>
    rw [decide_eq_false no]
    exact .pure (.stay sees.stands)

theorem returns_lineBreak (limit : Nat) (frame : Frame) (h : Stands source i o d s) :
    Returns (lineBreak (.of limit source) frame) s
      (Decides source i o d ((frame.at o).continues ((items source).drop i))) := by
  unfold lineBreak Context.continues Frame.at
  cases frame.isStatement with
  | false => exact .pure (.stay h)
  | true =>
    refine (h.sight limit).bind ?_
    intro sight s' sees
    rw [sees.place]
    cases hs : significant ((items source).drop i) with
    | nil => exact .pure (.stay sees.stands)
    | cons next tail =>
      have operator : sight.isOperator = next.isOperator := by
        rw [Look.isOperator, sees.item, hs]
        rfl
      dsimp only [List.head?_cons, Option.map_some]
      rw [operator]
      have decided := returns_decided sees
        ((frame.level < next.column || next.column == frame.level && next.isOperator) = true)
      rwa [Bool.decide_eq_true] at decided

theorem returns_nextStatement (limit level : Nat) (h : Stands source i o d s) :
    Returns (nextStatement (.of limit source) level) s (Decides source i o d
      ((significant ((items source).drop i)).head?.any (level ≤ ·.column))) := by
  unfold nextStatement
  refine (h.sight limit).bind ?_
  intro sight s' sees
  rw [sees.place]
  cases hs : significant ((items source).drop i) with
  | nil => exact .pure (.stay sees.stands)
  | cons next tail => exact returns_decided sees (level ≤ next.column)

theorem returns_closeGroup {opener : Item} (ho : opener ∈ items source) (e : Expr)
    (h : Stands source i o d s) :
    Returns (closeGroup (.of limit source) opener.span e) s (Agrees source i o d True
      (Offside.closeGroup opener e ((items source).drop i))) := by
  unfold closeGroup
  refine (h.sight limit).bind fun sight s' sees => sees.jump.bind ?_
  rintro - s'' stands
  have target := sees.target
  cases hl : (items source).drop sight.target with
  | nil =>
    refine (stands.next_nil hl).bind ?_
    rintro r t ⟨rfl, stands⟩
    refine (returns_unclosed ho true none t).bind ?_
    rintro e t' ⟨rfl, rfl⟩
    rw [Offside.closeGroup, ← target, hl]
    exact .pure (.error stands sees.le)
  | cons item tail =>
    refine (stands.next_cons hl).bind ?_
    rintro r t ⟨rfl, stands, -⟩
    have le := Nat.le_succ_of_le sees.le
    dsimp only
    split
    · next lexeme =>
      simp only [Offside.closeGroup, ← target, hl, lexeme]
      exact .pure (.here stands le (drop_succ hl))
    · next other lexeme =>
      simp only [Offside.closeGroup, ← target, hl, lexeme]
      exact .pure (.error stands le)
    · next cause lexeme =>
      simp only [Offside.closeGroup, ← target, hl, lexeme]
      refine (returns_unclosed ho true _ t).bind ?_
      rintro e t' ⟨rfl, rfl⟩
      exact .pure (.error stands le)

end Parts

/-! ### Parts that hold expressions -/

/-- That the expressions of this room are read, at any depth that leaves this room. -/
def Accords (limit : Nat) (source : List Char) (room : Nat) : Prop :=
  ∀ {i o d : Nat} {s : Session} (frame : Frame), limit - d = room → Stands source i o d s →
    Returns (expression (.of limit source) frame) s
      (Agrees source i o d (frame.isStatement = false)
        ((ExprParser.of limit source room).run (frame.at o) ((items source).drop i)))

section Nested

variable {limit room : Nat} {source : List Char} {i o d : Nat} {s : Session}

/-- What is read is joined to what stands before it. -/
theorem returns_join {j : Nat} {exact : Prop} {r : Reading Expr} {reply : Reply Expr}
    (first : Span) (make : Span → Expr → Expr) (stands : Stands source j o d s) (le : i ≤ j)
    (replies : Replies exact ((items source).drop j) r reply) :
    Returns (match reply with
      | .ok e => do
        let whole ← through first e.span
        return .ok (make whole e)
      | .error e => return .error e) s
      (Agrees source i o d exact (r.mapValue fun e => make (first.through e.span) e)) := by
  cases reply with
  | ok e =>
    refine (returns_through first e.span s).bind ?_
    rintro whole t ⟨rfl, rfl⟩
    exact .pure ⟨j, le, stands, replies.map fun e => make (first.through e.span) e⟩
  | error e =>
    exact .pure ⟨j, le, stands, replies.map fun e => make (first.through e.span) e⟩

/-- What is read as an expression is its reply, with what follows it. -/
theorem returns_found {j : Nat} {exact : Prop} {x : Parsing (Reply Expr)} {r : Reading Expr}
    {reading : Unit → List Item → Reading Outcome} (le : i ≤ j)
    (h : Returns x s (Agrees source j o d exact r)) :
    Returns (do return .done (Reply.found (← x))) s
      (Rounds source i o d exact reading r.found) := by
  refine h.bind ?_
  rintro reply t ⟨k, le', stands, replies⟩
  exact .pure ⟨k, Nat.le_trans le le', stands, replies.found⟩

/-- An item that no statement begins with is still there. -/
theorem eq_of_not_found {sourceEnd j k : Nat} {ctx : Context} {all skipped : List Item}
    {outcome : Outcome} (le : j ≤ k) (stays : significant (all.drop j) = all.drop j)
    (trivia : ∀ i ∈ skipped, i.isTrivia = true) (missing : ∀ e, outcome ≠ .found e)
    (h : (Offside.expression limit sourceEnd room).run ctx (all.drop j) =
      .ok (outcome, skipped ++ all.drop k)) : all.drop k = all.drop j := by
  obtain ⟨e, found⟩ | same := significant_of_run h
  · exact absurd found (missing e)
  · rw [significant_append trivia, stays] at same
    have back : all.drop j <:+ all.drop k := same ▸ significant_suffix _
    have ahead : (all.drop k).length ≤ (all.drop j).length := by
      rw [List.length_drop, List.length_drop]
      omega
    exact (back.eq_of_length_le ahead).symm

variable (ih : Accords limit source room) (hd : limit - d = room)

include ih hd

/-! ### Operands and arguments -/

theorem returns_operand (frame : Frame) (lhs : Expr) (op : Operator) (span : Span)
    (h : Stands source i o d s) :
    Returns (operand (.of limit source) frame lhs op span) s (Agrees source i o d True
      ((Reading.required span (.operand op.symbol)
        ((ExprParser.of limit source room).run ((frame.at o).operand op.binding)
          ((items source).drop i))).mapValue fun rhs => lhs.infixed op span rhs)) := by
  rw [operand, perform]
  refine (ih (frame.operand op.binding) hd h).bind ?_
  rintro reply s' ⟨j, le, stands, replies⟩
  exact returns_join _ (fun whole rhs => .binary whole op span lhs rhs) stands le
    ((replies.mono fun _ => rfl).required span (.operand op.symbol))

theorem returns_argument (frame : Frame) (function : Expr) (h : Stands source i o d s) :
    Returns (argument (.of limit source) frame function) s (Agrees source i o d True
      ((Reading.required (.emptyAt function.span.stop) .argument
        ((ExprParser.of limit source room).run
          ((frame.at o).operand .application) ((items source).drop i))).mapValue
            function.applied)) := by
  rw [argument, perform]
  refine (ih (frame.operand .application) hd h).bind ?_
  rintro reply s' ⟨j, le, stands, replies⟩
  let anchor := Span.emptyAt function.span.stop
  exact returns_join _ (fun whole argument => .apply whole false anchor function argument)
    stands le ((replies.mono fun _ => rfl).required (.emptyAt function.span.stop) .argument)

theorem returns_extendRound (frame : Frame) (lhs : Expr) (h : Stands source i o d s) :
    Returns (extendRound (.of limit source) frame lhs) s (Rounds source i o d True
      (Offside.extend (ExprParser.of limit source room) (frame.at o))
      (Offside.extend (ExprParser.of limit source room) (frame.at o) lhs
        ((items source).drop i))) := by
  rw [extendRound, perform]
  cases hl : (items source).drop i with
  | nil =>
    refine (h.next_nil hl).bind ?_
    rintro r s' ⟨rfl, stands⟩
    rw [extend_nil]
    exact .pure (Agrees.here stands (Nat.le_refl i) hl)
  | cons item tail =>
    refine (h.next_cons hl).bind ?_
    rintro r s' ⟨rfl, stands, last⟩
    have tail_eq := drop_succ hl
    dsimp only
    cases hf : item.follow with
    | comment =>
      refine .pure (Rounds.again stands (Nat.lt_succ_self i) ?_)
      rw [extend_comment hf, tail_eq]
    | newline =>
      have skip := significant_cons_newline (Item.fits_of_follow hf) tail
      have continues : (frame.at o).continues (item :: tail) = (frame.at o).continues tail := by
        rw [Context.continues, Context.continues, skip]
      refine (stands.unread last).bind ?_
      rintro - s'' stands
      refine (returns_lineBreak limit frame stands).bind ?_
      rintro goes t ⟨hgoes, j, le, stands, hj⟩
      rw [hl, continues] at hgoes
      rw [hl, skip] at hj
      cases goes with
      | true =>
        refine .pure (Rounds.again stands (lt_of_drop_eq_significant hl hj) ?_)
        rw [extend_newline hf, if_pos hgoes.symm, extend_significant hgoes.symm]
        exact congrArg _ hj.symm
      | false =>
        rw [extend_newline hf, ← hgoes]
        exact .pure (Agrees.here stands le hj)
    | operator op =>
      dsimp only
      split
      · next accepted =>
        have accepted : (frame.at o).accepts op.binding = true := accepted
        refine (returns_operand ih hd frame lhs op item.span stands).bind ?_
        rintro (e | joined) t ⟨j, le, stands, replies⟩
        · have error := Reading.eq_of_mapValue_eq_error replies.eq_of_error
          rw [tail_eq] at error
          rw [extend_operator hf, if_pos accepted, error]
          exact .pure (Agrees.error stands (Nat.le_of_succ_le le))
        · obtain ⟨rhs, ok, rfl⟩ := Reading.eq_of_mapValue_eq_ok replies.eq_of_exact
          rw [tail_eq] at ok
          refine .pure (Rounds.again stands le ?_)
          rw [extend_operator hf, if_pos accepted, ok]
      · next refused =>
        refine (stands.unread last).bind ?_
        rintro - s'' stands
        rw [extend_operator hf, if_neg (show ¬ (frame.at o).accepts op.binding = true from refused)]
        exact .pure (Agrees.here stands (Nat.le_refl i) hl)
    | argument =>
      dsimp only
      refine (stands.unread last).bind ?_
      rintro - s'' stands
      split
      · next accepted =>
        have accepted : (frame.at o).accepts .application = true := accepted
        refine (returns_argument ih hd frame lhs stands).bind ?_
        rintro (e | joined) t ⟨j, le, stands, replies⟩
        · have error := Reading.eq_of_mapValue_eq_error replies.eq_of_error
          rw [hl] at error
          rw [extend_argument hf, if_pos accepted, error]
          exact .pure (Agrees.error stands le)
        · obtain ⟨rhs, ok, rfl⟩ := Reading.eq_of_mapValue_eq_ok replies.eq_of_exact
          -- The argument takes at least the item that it begins with.
          have lt := (ExprParser.of limit source room).shrinks
            (Reading.required_eq_ok ok)
          rw [hl] at ok
          refine .pure (Rounds.again stands (lt_of_length_drop_lt _ lt) ?_)
          rw [extend_argument hf, if_pos accepted, ok]
      · next refused =>
        rw [extend_argument hf,
          if_neg (show ¬ (frame.at o).accepts .application = true from refused)]
        exact .pure (Agrees.here stands (Nat.le_refl i) hl)
    | closing =>
      refine (stands.unread last).bind ?_
      rintro - s'' stands
      rw [extend_closing hf]
      exact .pure (Agrees.here stands (Nat.le_refl i) hl)
    | misplaced problem =>
      rw [extend_misplaced hf]
      exact .pure (Agrees.error stands (Nat.le_succ i))

theorem returns_extend (frame : Frame) (lhs : Expr) (h : Stands source i o d s) :
    Returns (extend (.of limit source) frame lhs) s (Agrees source i o d True
      (Offside.extend (ExprParser.of limit source room) (frame.at o) lhs
        ((items source).drop i))) := by
  refine Returns.loop (fun lhs => ?_) (fun lhs i s => returns_extendRound ih hd frame lhs) lhs h
  rw [extend, perform]
  exact bind_congr fun round => by cases round <;> rfl

/-! ### Blocks -/

theorem returns_statementRound (level : Nat) (before : Array Expr) (h : Stands source i o d s) :
    Returns (statementRound (.of limit source) level before) s (Rounds source i o d False
      (statementsOnto (ExprParser.of limit source room) level (decide (0 < o)))
      (statementsOnto (ExprParser.of limit source room) level (decide (0 < o))
        before ((items source).drop i))) := by
  rw [statementRound, perform]
  refine (returns_nextStatement limit level h).bind ?_
  rintro goes s' ⟨hgoes, j, le, stands, hj⟩
  cases goes with
  | false =>
    rw [statementsOnto_of_stop hgoes.symm]
    exact .pure (Agrees.here stands le hj)
  | true =>
    rw [statementsOnto_of_goes hgoes.symm]
    have hj : (items source).drop j = significant ((items source).drop i) := hj
    rw [← hj]
    refine (ih (.statement level) hd stands).bind ?_
    rintro reply t ⟨k, le', stands, replies⟩
    rw [Frame.at_statement] at replies
    cases reply with
    | error e =>
      rw [replies.eq_of_error]
      exact .pure (Agrees.error stands (Nat.le_trans le le'))
    | ok outcome =>
      obtain ⟨skipped, ok, trivia, -⟩ := replies.eq_of_ok
      rw [ok]
      cases outcome with
      | found e =>
        have lt : j < k := by
          refine lt_of_length_drop_lt _ (Nat.lt_of_le_of_lt ?_
            ((ExprParser.of limit source room).shrinks ok))
          rw [List.length_append]
          exact Nat.le_add_left ..
        refine .pure ⟨k, Nat.lt_of_le_of_lt le lt, stands, fun reply t' agrees => ?_⟩
        obtain ⟨m, le'', stands, replies⟩ := agrees
        exact ⟨m, by omega, stands, replies.of_statementsOnto trivia⟩
      | exhausted | closed =>
        have back := eq_of_not_found le' (by rw [hj, significant_significant]) trivia
          (fun e he => by cases he) ok
        refine .pure ⟨k, Nat.le_trans le le', stands, ?_⟩
        rw [back, hj]
        exact .skipping before _

theorem returns_statementsAfter (level : Nat) (before : Array Expr) (h : Stands source i o d s) :
    Returns (statementsAfter (.of limit source) level before) s (Agrees source i o d False
      (statementsOnto (ExprParser.of limit source room) level (decide (0 < o))
        before ((items source).drop i))) := by
  refine Returns.loop (fun before => ?_)
    (fun before i s => returns_statementRound ih hd level before) before h
  rw [statementsAfter, perform]
  exact bind_congr fun round => by cases round <;> rfl

theorem returns_block (level : Nat) (h : Stands source i o d s) :
    Returns (block (.of limit source) level) s (Agrees source i o d False
      (Offside.block (ExprParser.of limit source room) level (decide (0 < o))
        ((items source).drop i))) := by
  rw [block, perform, Offside.block]
  refine (ih (.statement level) hd h).bind ?_
  rw [Frame.at_statement]
  rintro reply s' ⟨j, le, stands, replies⟩
  cases reply with
  | error e =>
    rw [replies.eq_of_error]
    exact .pure (Agrees.error stands le)
  | ok outcome =>
    obtain ⟨skipped, ok, trivia, -⟩ := replies.eq_of_ok
    rw [ok]
    cases outcome with
    | found first =>
      dsimp only
      refine (returns_statementsAfter ih hd level #[first] stands).bind ?_
      rintro reply t ⟨k, le', stands, replies⟩
      have replies := replies.of_statementsOnto trivia
      have le := Nat.le_trans le le'
      cases reply with
      | error e =>
        rw [Reading.eq_of_mapValue_eq_error replies.eq_of_error]
        exact .pure (Agrees.error stands le)
      | ok statements =>
        obtain ⟨skipped', ok, trivia', -⟩ := replies.eq_of_ok
        obtain ⟨others, after, rfl⟩ := Reading.eq_of_mapValue_eq_ok ok
        have list : (#[first] ++ others.toArray).toList = first :: others := by simp
        rw [after]
        refine (returns_assemble list t).bind ?_
        rintro e t' ⟨rfl, rfl⟩
        exact .pure ⟨k, le, stands, .ok trivia' False.elim⟩
    | exhausted | closed => exact .pure ⟨j, le, stands, .ok trivia False.elim⟩

/-! ### Declarations -/

theorem returns_initializer (level : Nat) (assignment : Span) (h : Stands source i o d s) :
    Returns (initializer (.of limit source) level assignment) s (Agrees source i o d False
      (Offside.initializer (ExprParser.of limit source room) level
        (decide (0 < o)) assignment ((items source).drop i))) := by
  rw [initializer, perform, Offside.initializer]
  refine (h.sight limit).bind fun sight s' sees => ?_
  have span : sight.span = (significant ((items source).drop i)).head?.map Item.span := by
    rw [Look.span, sees.item]
  rw [sees.place, span, sees.crossedNewline]
  cases hs : significant ((items source).drop i) with
  | nil =>
    refine (returns_block ih hd (level + 1) sees.stands).bind ?_
    rintro reply t ⟨j, le, stands, replies⟩
    exact .pure ⟨j, le, stands, replies.required assignment .initializer⟩
  | cons item tail =>
    dsimp only [List.head?_cons, Option.map_some]
    split
    · exact .pure (Agrees.error sees.stands (Nat.le_refl i))
    · refine sees.jump.bind ?_
      rintro - s'' stands
      refine (returns_block ih hd item.column stands).bind ?_
      rintro reply t ⟨j, le, stands, replies⟩
      rw [sees.target, hs] at replies
      exact .pure ⟨j, Nat.le_trans sees.le le, stands, replies.required assignment .initializer⟩

theorem returns_declaration (word : Keyword) {item : Item} (hi : item ∈ items source)
    (h : Stands source i o d s) :
    Returns (declaration (.of limit source) word item.span) s (Agrees source i o d False
      (Offside.declaration (ExprParser.of limit source room)
        (byteLength source) word (decide (0 < o)) item ((items source).drop i))) := by
  rw [declaration, perform, Offside.declaration]
  refine .step (column_eq ..) ?_
  rw [LineIndex.column_item hi]
  refine (returns_expect h).bind ?_
  rintro (e | ⟨name, nameSpan⟩) s' ⟨j, le, stands, replies⟩
  · rw [replies.eq_of_error]
    exact .pure (Agrees.error stands le)
  rw [replies.eq_of_exact]
  dsimp only
  refine (returns_expect stands).bind ?_
  rintro (e | ⟨⟨⟩, assignment⟩) s'' ⟨k, le', stands, replies⟩
  · rw [replies.eq_of_error]
    exact .pure (Agrees.error stands (Nat.le_trans le le'))
  rw [replies.eq_of_exact]
  dsimp only
  refine (returns_initializer ih hd item.column assignment stands).bind ?_
  rintro reply t ⟨m, le'', stands, replies⟩
  generalize Offside.initializer _ _ _ _ _ = r at replies ⊢
  have joined := returns_join item.span
    (fun whole value => .declaration whole word name nameSpan value) stands
    (Nat.le_trans (Nat.le_trans le le') le'') replies
  cases r with
  | error e => exact joined
  | ok p => exact joined

/-! ### Groups -/

theorem returns_groupBody {opener : Item} (ho : opener ∈ items source) (grouped : 0 < o)
    (h : Stands source i o d s) :
    Returns (groupBody (.of limit source) opener.span) s (Agrees source i o d True
      (Offside.group (ExprParser.of limit source room) opener ((items source).drop i))) := by
  rw [groupBody, perform]
  cases hl : (items source).drop i with
  | nil =>
    refine (h.next_nil hl).bind ?_
    rintro r s' ⟨rfl, stands⟩
    refine (returns_unclosed ho false none s').bind ?_
    rintro e t ⟨rfl, rfl⟩
    exact .pure (Agrees.error stands (Nat.le_refl i))
  | cons item tail =>
    refine (h.next_cons hl).bind ?_
    rintro r s' ⟨rfl, stands, last⟩
    dsimp only
    split
    · next lexeme =>
      simp only [Offside.group, lexeme]
      refine (returns_through opener.span item.span s').bind ?_
      rintro whole t ⟨rfl, rfl⟩
      exact .pure (Agrees.here stands (Nat.le_succ i) (drop_succ hl))
    · next other lexeme =>
      simp only [Offside.group, lexeme]
      refine (stands.unread last).bind ?_
      rintro - s'' stands
      refine (returns_block ih hd 0 stands).bind ?_
      rintro reply t ⟨j, le, stands, replies⟩
      rw [decide_eq_true grouped, hl] at replies
      rw [Offside.groupBody]
      cases reply with
      | error e =>
        rw [replies.eq_of_error]
        exact .pure (Agrees.error stands le)
      | ok outcome =>
        obtain ⟨skipped, ok, trivia, -⟩ := replies.eq_of_ok
        rw [ok]
        cases outcome with
        | found e =>
          dsimp only
          rw [closeGroup_append trivia]
          exact (returns_closeGroup ho e stands).mono fun _ _ agrees => agrees.mono le fun e => e
        | closed => exact .pure (Agrees.error stands le)
        | exhausted =>
          refine (returns_unclosed ho false none t).bind ?_
          rintro e t' ⟨rfl, rfl⟩
          exact .pure (Agrees.error stands le)
    · next cause lexeme =>
      simp only [Offside.group, lexeme]
      refine (returns_unclosed ho false _ s').bind ?_
      rintro e t ⟨rfl, rfl⟩
      exact .pure (Agrees.error stands (Nat.le_succ i))

theorem returns_group {opener : Item} (ho : opener ∈ items source)
    (h : Stands source i o d s) :
    Returns (group (.of limit source) opener.span) s (Agrees source i o d True
      (Offside.group (ExprParser.of limit source room) opener ((items source).drop i))) := by
  rw [group, perform]
  refine h.openParen.bind fun _ s' stands => ?_
  refine (returns_groupBody ih hd ho (Nat.succ_pos o) stands).bind ?_
  rintro reply s'' ⟨j, le, stands, replies⟩
  refine stands.closeParen.bind fun _ t stands => ?_
  exact .pure ⟨j, le, stands, replies⟩

/-! ### Terms -/

theorem returns_termRound (frame : Frame) (h : Stands source i o d s) :
    Returns (termRound (.of limit source) frame) s
      (Rounds source i o d (frame.isStatement = false)
        (fun () items => Offside.term (ExprParser.of limit source room)
          (byteLength source) (frame.at o) items)
        (Offside.term (ExprParser.of limit source room) (byteLength source)
          (frame.at o) ((items source).drop i))) := by
  rw [termRound, perform]
  cases hl : (items source).drop i with
  | nil =>
    refine (h.next_nil hl).bind ?_
    rintro r s' ⟨rfl, stands⟩
    exact .pure (Agrees.here stands (Nat.le_refl i) hl)
  | cons item tail =>
    refine (h.next_cons hl).bind ?_
    rintro r s' ⟨rfl, stands, last⟩
    have tail_eq := drop_succ hl
    have member := mem_items_of_drop hl
    rw [Offside.term]
    dsimp only
    cases hf : item.first with
    | comment => exact .pure (Rounds.again stands (Nat.lt_succ_self i) (by rw [tail_eq]))
    | newline =>
      dsimp only
      refine (stands.unread last).bind ?_
      rintro - s'' stands
      refine (stands.sight limit).bind ?_
      intro sight t sees
      have skip := significant_cons_newline (Item.fits_of_first hf) tail
      have target := sees.target
      have place := sees.place
      rw [hl, skip] at target place
      have dedents : (frame.at o).dedents tail = sight.place.any (· < frame.level) := by
        rw [place, Context.dedents_eq_any]
        rfl
      rw [← dedents]
      split
      · exact .pure (Agrees.here sees.stands (Nat.le_refl i) hl)
      · next stays =>
        refine sees.jump.bind fun _ t' stands => ?_
        refine .pure (Rounds.again stands (lt_of_drop_eq_significant hl target) ?_)
        rw [term_significant (Bool.eq_false_iff.2 stays), target]
    | leaf e =>
      rw [← tail_eq]
      refine returns_found (Nat.le_succ i) ?_
      exact (returns_extend ih hd frame e stands).mono fun _ _ h =>
        h.mono (Nat.le_refl _) fun _ => trivial
    | keyword word =>
      dsimp only
      split
      · next statement =>
        rw [if_pos (show (frame.at o).isStatement = true from statement), ← tail_eq]
        refine returns_found (Nat.le_succ i) ?_
        exact (returns_declaration ih hd word member stands).mono fun _ _ h =>
          h.mono (Nat.le_refl _) fun operand => by simp [statement] at operand
      · next operand =>
        rw [if_neg (show ¬ (frame.at o).isStatement = true from operand)]
        exact .pure (Agrees.error stands (Nat.le_succ i))
    | opening =>
      dsimp only
      refine (returns_group ih hd member stands).bind ?_
      rw [tail_eq]
      rintro (e | e) t ⟨j, le, stands, replies⟩
      · rw [replies.eq_of_error]
        exact .pure (Agrees.error stands (Nat.le_of_succ_le le))
      · rw [replies.eq_of_exact]
        refine returns_found (Nat.le_of_succ_le le) ?_
        exact (returns_extend ih hd frame e stands).mono fun _ _ h =>
          h.mono (Nat.le_refl _) fun _ => trivial
    | closing =>
      refine .step rfl ?_
      rw [stands.openParens_eq]
      show Returns (if 0 < o then _ else _) _ _
      split
      · next grouped =>
        refine (stands.unread last).bind ?_
        rintro - s'' stands
        rw [if_pos (show (frame.at o).isGrouped = true from decide_eq_true grouped)]
        exact .pure (Agrees.here stands (Nat.le_refl i) hl)
      · next alone =>
        rw [if_neg (show ¬ (frame.at o).isGrouped = true by simpa [Frame.at] using alone)]
        exact .pure (Agrees.error stands (Nat.le_succ i))
    | misplaced problem =>
      exact .pure (Agrees.error stands (Nat.le_succ i))

theorem returns_term (frame : Frame) (h : Stands source i o d s) :
    Returns (term (.of limit source) frame) s (Agrees source i o d (frame.isStatement = false)
      (Offside.term (ExprParser.of limit source room) (byteLength source)
        (frame.at o) ((items source).drop i))) := by
  let loop : Unit → Parsing (Reply Outcome) := fun () => term (.of limit source) frame
  let reading : Unit → List Item → Reading Outcome := fun () =>
    Offside.term (ExprParser.of limit source room) (byteLength source) (frame.at o)
  have unfolds : ∀ state,
      loop state = termRound (.of limit source) frame >>= Round.follow loop := by
    intro state
    show term (.of limit source) frame = _
    rw [term, perform]
    exact bind_congr fun round => by cases round <;> rfl
  have rounds : ∀ state i s, Stands source i o d s → Returns (termRound (.of limit source) frame) s
      (Rounds source i o d (frame.isStatement = false) reading
        (reading state ((items source).drop i))) :=
    fun _ i s h => returns_termRound ih hd frame h
  exact Returns.loop unfolds rounds () h

end Nested

/-! ### Expressions -/

section Whole

variable {source : List Char} {i o d : Nat} {s : Session}

/-- **Expressions of any depth are read as they are from a list.** -/
theorem returns_expression (limit : Nat) (source : List Char) (room : Nat) :
    Accords limit source room := by
  induction room with
  | zero =>
    intro i o d s frame hd h
    rw [expression, perform, expression_zero]
    refine .step rfl ?_
    have deep : limit ≤ s.depth := by rw [h.depth_eq]; omega
    rw [Setup.of, if_pos deep]
    refine (h.sight limit).bind fun sight t sees => ?_
    have place : tooDeep limit (byteLength source) ((items source).drop i) =
        .plain (sight.span.getD (.emptyAt (byteLength source))) (.tooDeep limit) := by
      rw [Look.span, sees.item, tooDeep]
      cases significant ((items source).drop i) <;> rfl
    rw [place]
    exact .pure (Agrees.error sees.stands (Nat.le_refl i))
  | succ room ih =>
    intro i o d s frame hd h
    rw [expression, perform, expression_succ]
    refine .step rfl ?_
    have shallow : ¬ limit ≤ s.depth := by rw [h.depth_eq]; omega
    rw [Setup.of, if_neg shallow]
    refine h.enter.bind fun _ s' stands => ?_
    refine (returns_term ih (by omega) frame stands).bind ?_
    rintro reply s'' ⟨j, le, stands, replies⟩
    refine stands.leave.bind fun _ t stands => ?_
    exact .pure ⟨j, le, stands, replies⟩

/-! ### Whole sources -/

theorem returns_leftover (limit : Nat) (h : Stands source i o d s) :
    Returns (leftover (.of limit source)) s fun e s' =>
      e = leftover? ((items source).drop i) ∧ Stands source i o d s' := by
  refine (h.sight limit).bind fun sight t sees => ?_
  rw [sees.item, leftover?]
  cases significant ((items source).drop i) with
  | nil => exact .pure ⟨rfl, sees.stands⟩
  | cons item tail =>
    dsimp only [List.head?_cons]
    cases item.lexeme with
    | error cause => exact .pure ⟨rfl, sees.stands⟩
    | token t =>
      cases t with
      | closing bracket => cases bracket <;> exact .pure ⟨rfl, sees.stands⟩
      | _ => exact .pure ⟨rfl, sees.stands⟩

theorem returns_source (limit : Nat) (source : List Char) :
    Returns (Session.source (.of limit source)) (ofSource source) fun reply s =>
      reply = parseItems limit (byteLength source) (items source) ∧ ∃ j, Stands source j 0 0 s := by
  refine ((Stands.start source).sight limit).bind fun sight t sees => ?_
  have level : sight.place.getD 0 = firstColumn (items source) := by
    rw [sees.place, List.drop_zero, firstColumn]
    cases significant (items source) <;> rfl
  rw [level, parseItems]
  refine (returns_block (returns_expression limit source limit) (Nat.sub_zero limit) _
    sees.stands).bind ?_
  rw [List.drop_zero]
  rintro (e | outcome) t' ⟨j, -, stands, replies⟩
  · rw [show Offside.block _ _ false _ = _ from replies.eq_of_error]
    exact .pure ⟨rfl, j, stands⟩
  · obtain ⟨skipped, ok, trivia, -⟩ := replies.eq_of_ok
    rw [show Offside.block _ _ false _ = _ from ok]
    refine (returns_leftover limit stands).bind ?_
    rintro left t'' ⟨rfl, stands⟩
    have same : leftover? (skipped ++ (items source).drop j) =
        leftover? ((items source).drop j) := by
      rw [leftover?, leftover?, significant_append trivia]
    dsimp only
    rw [same]
    cases leftover? ((items source).drop j) with
    | some e => exact .pure ⟨rfl, j, stands⟩
    | none => cases outcome <;> exact .pure ⟨rfl, j, stands⟩

end Whole

end Session

end Offside
