import Offside.Proofs.Abreast
import Offside.Proofs.Extent
import Offside.Proofs.Replay

/-!
# What follows a part

A part of the parser looks at the items past it only to see that it ends there.  Items that begin
on a new line, with one that neither stands past the column `base` nor goes on with what stands at
it, end each part that began at `base` or right of it (`Outside`).  So such items may be exchanged
for others of the kind, and the part is read as before (`exchanged_of_derivable`).

Where a part stops before that, nothing is asked of it.
-/

namespace Offside

/-- Items that go on with nothing that began at `base` or right of it. -/
structure Outside (base : Nat) (items : List Item) : Prop where
  /-- They begin on a new line. -/
  newline : ∀ item ∈ items.head?, item.isNewline = true
  /-- The first significant one stands no further right, and is no operator if it stands there. -/
  first : ∀ item ∈ (significant items).head?,
    item.column ≤ base ∧ (item.column = base → item.isOperator = false)

/-- That the first significant item stands left of a column. -/
def LeftOf (column : Nat) (items : List Item) : Prop :=
  ∀ item ∈ (significant items).head?, item.column < column

theorem outside_nil (base : Nat) : Outside base [] := ⟨by simp, by simp [significant]⟩

/-- Trivia from a line break on are outside of everything. -/
theorem outside_of_trivia {base : Nat} {items : List Item}
    (newline : ∀ item ∈ items.head?, item.isNewline = true) (trivia : significant items = []) :
    Outside base items :=
  ⟨newline, by simp [trivia]⟩

namespace Outside

variable {base : Nat} {a b items x : List Item} {ctx : Context}

theorem leftOf {column : Nat} (h : Outside base items) (lt : base < column) :
    LeftOf column items :=
  fun item hi => Nat.lt_of_le_of_lt (h.first item hi).1 lt

theorem not_continues (h : Outside base items)
    (deep : ctx.isStatement = true → base ≤ ctx.level) : ctx.continues items = false := by
  cases hs : significant items with
  | nil => simp [Context.continues, hs]
  | cons item tail =>
    obtain ⟨le, operator⟩ := h.first item (by rw [hs]; rfl)
    rw [Bool.eq_false_iff, Ne, Context.continues_iff hs]
    rintro ⟨statement, right | ⟨level, isOperator⟩⟩
    · have := deep statement
      omega
    · have := deep statement
      rw [operator (by omega)] at isOperator
      cases isOperator

theorem stops (h : Outside base items) (deep : ctx.isStatement = true → base ≤ ctx.level) :
    ctx.stops items = true := by
  cases items with
  | nil => rfl
  | cons nl items =>
    have lexeme : nl.lexeme = .token .newline := by simpa [Item.isNewline] using h.newline nl rfl
    have follow : nl.follow = .newline := by simp [Item.follow, lexeme]
    have ends : ctx.continues items = false := by
      have all := h.not_continues deep
      rwa [Context.continues, significant_cons_newline lexeme] at all
    simp [Context.stops, follow, ends]

/-- Whether an expression goes on does not depend on what is outside of it. -/
theorem continues_eq (ha : Outside base a) (hb : Outside base b)
    (deep : significant x = [] → ctx.isStatement = true → base ≤ ctx.level) :
    ctx.continues (x ++ a) = ctx.continues (x ++ b) := by
  cases hx : significant x with
  | nil =>
    have trivia := significant_eq_nil_iff.1 hx
    have left := ha.not_continues (deep hx)
    have right := hb.not_continues (deep hx)
    rw [Context.continues] at left right ⊢
    rw [Context.continues, significant_append trivia, significant_append trivia, left, right]
  | cons item tail =>
    simp only [Context.continues, significant_append_of_cons hx]

/-- An expression stops before what is outside of it, whatever that is. -/
theorem stops_exchange (ha : Outside base a) (hb : Outside base b)
    (deep : significant x = [] → ctx.isStatement = true → base ≤ ctx.level)
    (h : ctx.stops (x ++ a) = true) : ctx.stops (x ++ b) = true := by
  cases x with
  | nil => exact hb.stops (deep rfl)
  | cons item x =>
    simp only [List.cons_append, Context.stops] at h ⊢
    split at h
    · next newline =>
      have trivia := significant_cons_newline (Item.fits_of_follow newline) x
      rwa [← continues_eq ha hb fun hx => deep (trivia.trans hx)]
    all_goals exact h

end Outside

/-- A block ends before what is left of it. -/
theorem blockEnds_exchange {level : Nat} {isGrouped : Bool} {a b x : List Item}
    (left : significant x = [] → LeftOf level b) (h : blockEnds level isGrouped (x ++ a) = true) :
    blockEnds level isGrouped (x ++ b) = true := by
  cases hx : significant x with
  | nil =>
    rw [blockEnds, significant_append (significant_eq_nil_iff.1 hx)]
    have left := left hx
    split
    · rfl
    · next item tail hb =>
      simp [left item (by rw [hb]; rfl)]
  | cons item tail => simpa only [blockEnds, significant_append_of_cons hx] using h

/-! ### Parts -/

/-- A block starts where its first expression does. -/
theorem StartsFrom.of_expression {column room : Nat} {ctx : Context} {used₁ used₂ rest : List Item}
    {e : Expr} (h : StartsFrom column (used₁ ++ used₂))
    (first : Derivable (.expression room ctx used₁ rest e)) : StartsFrom column used₁ := by
  obtain ⟨item, tail, begins, -⟩ := begins_of_derivable first
  intro i hi
  rw [begins] at hi
  exact h i (by rwa [significant_append_of_cons begins])

/-- That a part is derived with `b` in place of `a` at the end, provided that, where it reads up to
there, it is at `base` or right of it and, if it is a block, right of what begins in `b`. -/
def Judgement.Exchanged (base : Nat) (a b : List Item) : Judgement → Prop
  | expression room ctx used rest e => ∀ x, rest = x ++ a →
    (significant x = [] → ctx.isStatement = true → base ≤ ctx.level ∧ StartsFrom base used) →
      Derivable (.expression room ctx used (x ++ b) e)
  | extension room ctx lhs used rest e => ∀ x, rest = x ++ a →
    (significant x = [] → ctx.isStatement = true → base ≤ ctx.level) →
      Derivable (.extension room ctx lhs used (x ++ b) e)
  | statements room level isGrouped used rest es => ∀ x, rest = x ++ a →
    (significant x = [] → base ≤ level ∧ LeftOf level b) →
      Derivable (.statements room level isGrouped used (x ++ b) es)
  | block room level isGrouped used rest e => ∀ x, rest = x ++ a →
    (significant x = [] → base ≤ level ∧ LeftOf level b ∧ StartsFrom base used) →
      Derivable (.block room level isGrouped used (x ++ b) e)

/-- **What is outside of a part may be exchanged.** -/
theorem exchanged_of_derivable {base : Nat} {a b : List Item} (ha : Outside base a)
    (hb : Outside base b) {j : Judgement} (h : Derivable j)
    (order : j.items.IsChain Item.Precedes) : j.Exchanged base a b := by
  induction h with
  | stop stops =>
    rintro x rfl deep
    exact .stop (ha.stops_exchange hb deep stops)
  | comment lexeme _ ih => exact fun x hx deep => .comment lexeme (ih order.tail x hx deep)
  | @continuation room ctx lhs e item used rest lexeme continues _ ih =>
    rintro x rfl deep
    have goes : ctx.continues (used ++ (x ++ b)) = true := by
      rw [← List.append_assoc] at continues ⊢
      rwa [← ha.continues_eq hb fun hs => deep (significant_append_eq_nil_iff.1 hs).2]
    exact .continuation lexeme goes (ih order.tail x rfl deep)
  | @operator room ctx lhs rhs e item symbol used₁ used₂ rest lexeme accepted right next ihr ihn =>
    rintro x rfl deep
    have operand := ihr (order.suffix Judgement.suffix_operand) (used₂ ++ x)
      (List.append_assoc ..).symm fun _ hs => by cases hs
    rw [List.append_assoc] at operand
    exact .operator lexeme accepted operand (ihn (order.suffix Judgement.suffix_next) x rfl deep)
  | @argument room ctx lhs rhs e item used₁ used₂ rest follow accepted right next ihr ihn =>
    rintro x rfl deep
    have operand := ihr (order.suffix Judgement.suffix_argument) (used₂ ++ x)
      (List.append_assoc ..).symm fun _ hs => by cases hs
    rw [List.append_assoc] at operand
    exact .argument follow accepted operand (ihn (order.suffix Judgement.suffix_next) x rfl deep)
  | leadingComment lexeme _ ih =>
    refine fun x hx deep => .leadingComment lexeme (ih order.tail x hx fun hs hc => ?_)
    rw [← startsFrom_cons_of_trivia (Item.isTrivia_of_comment lexeme)]
    exact deep hs hc
  | @leadingNewline room ctx e item used rest lexeme stays next ih =>
    rintro x rfl deep
    obtain ⟨first, tail, begins, -⟩ := begins_of_derivable next
    have remains : ctx.dedents (used ++ (x ++ b)) = false := by
      simpa only [Context.dedents, significant_append_of_cons begins] using stays
    refine .leadingNewline lexeme remains (ih order.tail x rfl fun hs hc => ?_)
    rw [← startsFrom_cons_of_trivia (Item.isTrivia_of_newline lexeme)]
    exact deep hs hc
  | leaf first _ ih =>
    exact fun x hx deep => .leaf first (ih order.tail x hx fun hs hc => (deep hs hc).1)
  | unit opens closes _ ih =>
    exact fun x hx deep =>
      .unit opens closes (ih order.tail.tail x hx fun hs hc => (deep hs hc).1)
  | @group room ctx inner e opener close body skipped used rest opens content trivia closes next ihc
      ihn =>
    rintro x rfl deep
    -- The paren that closes the group is left after its block.
    have block := ihc (order.suffix Judgement.suffix_body) (skipped ++ close :: (used ++ x))
      (by simp) fun hs => by
        have closed := significant_eq_nil_iff.1 hs close (by simp)
        rw [Item.not_isTrivia_of_lexeme closes (by simp) (by simp)] at closed
        cases closed
    have shape : skipped ++ close :: (used ++ x) ++ b =
        skipped ++ close :: (used ++ (x ++ b)) := by simp
    rw [shape] at block
    exact .group opens block trivia closes
      (ihn (order.suffix Judgement.suffix_past_group) x rfl fun hs hc => (deep hs hc).1)
  | @declaration room ctx value item bound sign first word name skipped used rest lexeme statement
      named assigned trivia solid indented content ih =>
    intro x hx deep
    have right : item.column < first.column :=
      keyword_column_lt (by simpa [Judgement.items] using order) lexeme named assigned trivia
        indented
    refine .declaration lexeme statement named assigned trivia solid indented
      (ih (order.suffix Judgement.suffix_value) x hx fun hs => ?_)
    -- The value begins further right than the keyword, which stands no further left than `base`.
    have keyword := (deep hs statement).2
    rw [startsFrom_cons (Item.not_isTrivia_of_lexeme lexeme (by simp) (by simp))] at keyword
    exact ⟨by omega, hb.leftOf (by omega), (startsFrom_cons solid _).2 (by omega)⟩
  | finish ends =>
    rintro x rfl deep
    exact .finish (blockEnds_exchange (fun hs => (deep hs).2) ends)
  | @statement room level isGrouped e es first skipped used₁ used₂ rest trivia solid indented
      content others ihc iho =>
    rintro x rfl deep
    have statement := ihc (order.suffix Judgement.suffix_statement) (used₂ ++ x)
      (List.append_assoc ..).symm fun hs _ => by
        have level := (deep (significant_append_eq_nil_iff.1 hs).2).1
        exact ⟨level, (startsFrom_cons solid _).2 (Nat.le_trans level indented)⟩
    rw [List.append_assoc] at statement
    exact .statement trivia solid indented statement
      (iho (order.suffix Judgement.suffix_others) x rfl deep)
  | @block room level isGrouped e es used₁ used₂ rest first others ihf iho =>
    rintro x rfl deep
    have statement := ihf (order.suffix Judgement.suffix_block_first) (used₂ ++ x)
      (List.append_assoc ..).symm fun hs _ => by
        obtain ⟨level, -, starts⟩ := deep (significant_append_eq_nil_iff.1 hs).2
        exact ⟨level, starts.of_expression first⟩
    rw [List.append_assoc] at statement
    exact .block statement (iho (order.suffix Judgement.suffix_block_others) x rfl fun hs =>
      ⟨(deep hs).1, (deep hs).2.1⟩)

end Offside
