import Offside.Parse.OnDemand
import Offside.Proofs.Items

/-!
# Replies and readings

A reply of a parser that reads on demand stands against a reading of the items that it could read
(`Replies`).  The reading may leave trivia that the reply has passed: it tells where it ends by the
next significant item, and so do the parts that are read after it.
-/

namespace Offside

/-! ### Replies and readings -/

/-- What a frame is in a session with this many open parens. -/
def Frame.at (frame : Frame) (openParens : Nat) : Context :=
  ⟨frame.level, frame.floor, frame.isStatement, decide (0 < openParens)⟩

theorem Frame.at_statement (level openParens : Nat) :
    (Frame.statement level).at openParens = .statement level (decide (0 < openParens)) := rfl

/-- The reading with its value changed. -/
def Reading.mapValue {α β : Type} (f : α → β) (r : Reading α) : Reading β :=
  r.map fun p => (f p.1, p.2)

/-- That a reply is what the items were read as, where `left` are those after it.  A reading may
leave trivia before them, unless it has to be exact. -/
inductive Replies {α : Type} (exact : Prop) (left : List Item) : Reading α → Reply α → Prop
  /-- Something was read. -/
  | ok {x : α} {skipped : List Item} (trivia : ∀ i ∈ skipped, i.isTrivia = true)
      (here : exact → skipped = []) : Replies exact left (.ok (x, skipped ++ left)) (.ok x)
  /-- Something was wrong. -/
  | error {e : ParseError} : Replies exact left (.error e) (.error e)

namespace Replies

variable {α β : Type} {exact exact' : Prop} {left : List Item} {r : Reading α} {reply : Reply α}

theorem here (x : α) : Replies exact left (.ok (x, left)) (.ok x) := by
  have nothing : ∀ i ∈ ([] : List Item), i.isTrivia = true := List.forall_mem_nil _
  exact .ok nothing fun _ => rfl

/-- Trivia are left before an item. -/
theorem skipping (x : α) (items : List Item) :
    Replies False (significant items) (.ok (x, items)) (.ok x) := by
  have split : items.takeWhile Item.isTrivia ++ significant items = items :=
    List.takeWhile_append_dropWhile
  have trivia : ∀ i ∈ items.takeWhile Item.isTrivia, i.isTrivia = true :=
    fun i hi => List.mem_takeWhile_imp hi
  have replies : Replies False (significant items)
      (.ok (x, items.takeWhile Item.isTrivia ++ significant items)) (.ok x) :=
    .ok trivia False.elim
  rwa [split] at replies

theorem mono (h : Replies exact left r reply) (he : exact' → exact) :
    Replies exact' left r reply := by
  cases h with
  | ok trivia here => exact .ok trivia fun h => here (he h)
  | error => exact .error

theorem map (f : α → β) (h : Replies exact left r reply) :
    Replies exact left (r.mapValue f) (reply.map f) := by
  cases h with
  | ok trivia here => exact .ok trivia here
  | error => exact .error

theorem required {r : Reading Outcome} {reply : Reply Outcome} (span : Span) (what : Expectation)
    (h : Replies exact left r reply) :
    Replies exact left (Reading.required span what r) (reply.required span what) := by
  cases h with
  | @ok x _ trivia here =>
    cases x with
    | found e => exact .ok trivia here
    | exhausted | closed => exact .error
  | error => exact .error

theorem found {r : Reading Expr} {reply : Reply Expr} (h : Replies exact left r reply) :
    Replies exact left r.found reply.found := by
  cases h with
  | ok trivia here => exact .ok trivia here
  | error => exact .error

/-- What a reply came from. -/
theorem eq_of_ok {x : α} (h : Replies exact left r (.ok x)) : ∃ skipped,
    r = .ok (x, skipped ++ left) ∧ (∀ i ∈ skipped, i.isTrivia = true) ∧
      (exact → skipped = []) := by
  cases h with
  | ok trivia here => exact ⟨_, rfl, trivia, here⟩

/-- What an exact reply came from. -/
theorem eq_of_exact {x : α} (h : Replies True left r (.ok x)) : r = .ok (x, left) := by
  obtain ⟨skipped, ok, -, here⟩ := h.eq_of_ok
  rw [ok, here trivial, List.nil_append]

theorem eq_of_error {e : ParseError} (h : Replies exact left r (.error e)) : r = .error e := by
  cases h with
  | error => rfl

end Replies

theorem Reading.eq_of_mapValue_eq_error {α β : Type} {f : α → β} {r : Reading α} {e : ParseError}
    (h : r.mapValue f = .error e) : r = .error e := by
  rcases r with e' | ⟨x, rest⟩
  · obtain rfl := Except.error.inj h
    rfl
  · cases h

theorem Reading.eq_of_mapValue_eq_ok {α β : Type} {f : α → β} {r : Reading α} {y : β}
    {rest : List Item} (h : r.mapValue f = .ok (y, rest)) :
    ∃ x, r = .ok (x, rest) ∧ y = f x := by
  rcases r with e | ⟨x, rest'⟩
  · cases h
  · obtain ⟨rfl, rfl⟩ := Prod.mk.inj (Except.ok.inj h)
    exact ⟨x, rfl, rfl⟩

/-! ### Statements -/

section Statements

/-- The statements that follow those in `before`. -/
def statementsOnto (inner : ExprParser) (level : Nat) (grouped : Bool) (before : Array Expr)
    (items : List Item) : Reading (Array Expr) :=
  (statementsAfter inner level grouped items).mapValue (before ++ ·.toArray)

variable {inner : ExprParser} {level : Nat} {grouped : Bool} {before : Array Expr}
  {items skipped : List Item}

theorem statementsOnto_of_stop
    (h : (significant items).head?.any (level ≤ ·.column) = false) :
    statementsOnto inner level grouped before items = .ok (before, items) := by
  have nothing : statementsAfter inner level grouped items = .ok ([], items) := by
    rw [statementsAfter_eq]
    cases hs : significant items with
    | nil => rfl
    | cons item tail =>
      rw [hs] at h
      have below : item.column < level := Nat.lt_of_not_le (of_decide_eq_false h)
      dsimp only
      rw [if_pos below]
  rw [statementsOnto, nothing]
  simp [Reading.mapValue, Except.map]

theorem statementsOnto_of_goes
    (h : (significant items).head?.any (level ≤ ·.column) = true) :
    statementsOnto inner level grouped before items =
      match inner.run (.statement level grouped) (significant items) with
      | .ok (.found e, rest) => statementsOnto inner level grouped (before ++ e.statements) rest
      | .ok (_, _) => .ok (before, items)
      | .error e => .error e := by
  cases hs : significant items with
  | nil =>
    rw [hs] at h
    cases h
  | cons item tail =>
    rw [hs] at h
    have above : ¬ item.column < level := Nat.not_lt_of_le (of_decide_eq_true h)
    rw [statementsOnto, statementsAfter_eq, hs]
    dsimp only
    rw [if_neg above]
    rcases inner.run (.statement level grouped) (item :: tail) with e | ⟨o, rest⟩
    · rfl
    · cases o with
      | found e =>
        dsimp only
        rw [statementsOnto]
        rcases statementsAfter inner level grouped rest with e' | ⟨others, rest'⟩
        · rfl
        · exact congrArg (fun es => Except.ok (es, rest')) (Array.ext' (by simp))
      | exhausted | closed => simp [Reading.mapValue, Except.map]

/-- Trivia before statements are skipped, or left where there is none. -/
theorem Replies.of_statementsOnto {left : List Item} {reply : Reply (Array Expr)}
    (trivia : ∀ i ∈ skipped, i.isTrivia = true)
    (h : Replies False left (statementsOnto inner level grouped before items) reply) :
    Replies False left (statementsOnto inner level grouped before (skipped ++ items)) reply := by
  -- Where no statement follows, the trivia stay in front of what is left.
  have stay : Replies False left (.ok (before, items)) reply →
      Replies False left (.ok (before, skipped ++ items)) reply := by
    intro h
    cases h with
    | ok trivia' =>
      rw [← List.append_assoc]
      exact .ok (List.forall_mem_append.2 ⟨trivia, trivia'⟩) False.elim
  have same : significant (skipped ++ items) = significant items := significant_append trivia
  cases goes : (significant items).head?.any (level ≤ ·.column) with
  | false =>
    rw [statementsOnto_of_stop goes] at h
    rw [statementsOnto_of_stop (by rw [same, goes])]
    exact stay h
  | true =>
    rw [statementsOnto_of_goes goes] at h
    rw [statementsOnto_of_goes (by rw [same, goes]), same]
    split at h
    · exact h
    · exact stay h
    · exact h

end Statements

/-! ### Trivia in front of a part -/

section Trivia

variable {inner : ExprParser} {ctx : Context} {items : List Item}

/-- An expression that goes on past a line break goes on with the next significant item. -/
theorem extend_significant {lhs : Expr} (h : ctx.continues items = true) :
    extend inner ctx lhs items = extend inner ctx lhs (significant items) := by
  induction items with
  | nil => rfl
  | cons item items ih =>
    by_cases trivia : item.isTrivia = true
    · have skip := significant_cons_of_trivia trivia items
      have h : ctx.continues items = true := by
        rw [← h, Context.continues, Context.continues, skip]
      rw [skip, ← ih h]
      obtain hn | hn := Bool.eq_false_or_eq_true item.isNewline
      · rw [extend_newline (by simp_all [Item.follow, Item.isNewline]), if_pos h]
      · rw [extend_comment (by simp [Item.follow, Item.lexeme_of_trivia trivia hn])]
    · rw [significant_cons (Bool.eq_false_iff.2 trivia)]

theorem closeGroup_append {opener : Item} {e : Expr} {skipped : List Item}
    (trivia : ∀ i ∈ skipped, i.isTrivia = true) :
    closeGroup opener e (skipped ++ items) = closeGroup opener e items := by
  rw [closeGroup, closeGroup, significant_append trivia]

/-- A term that does not end at a line break begins with the next significant item. -/
theorem term_significant {sourceEnd : Nat} (h : ctx.dedents items = false) :
    term inner sourceEnd ctx items =
      term inner sourceEnd ctx (significant items) := by
  induction items with
  | nil => rfl
  | cons item items ih =>
    by_cases trivia : item.isTrivia = true
    · have skip := significant_cons_of_trivia trivia items
      have h : ctx.dedents items = false := by
        rw [← h, Context.dedents, Context.dedents, skip]
      rw [skip, ← ih h, term]
      obtain hn | hn := Bool.eq_false_or_eq_true item.isNewline
      · rw [show item.first = .newline by simp_all [Item.first, Item.isNewline]]
        simp [h]
      · rw [show item.first = .comment by simp [Item.first, Item.lexeme_of_trivia trivia hn]]
    · rw [significant_cons (Bool.eq_false_iff.2 trivia)]

theorem Context.dedents_eq_any : ctx.dedents items =
    ((significant items).head?.map Item.column).any (· < ctx.level) := by
  rw [Context.dedents]
  cases significant items <;> rfl

end Trivia

end Offside
