import Offside.Proofs.Derivation
import Offside.Proofs.Lexing
import Offside.Proofs.Parens

/-!
# How far a block reaches

Columns alone say where a block ends that begins at some column: outside the parens opened on the
way, at a closing paren or at the first item of a line that stands further left.  `cut` divides the
items there.

* `Scope` is what a pass over items keeps in mind, and `Scope.next` ends the pass.
* `stays_of_derivable`: the pass gets through what a block reads and comes out at the depth it
  went in at.
* `cut_of_block`: so a block that begins at its level is what `cut` divides off.
-/

namespace Offside

/-! ### Passes over items -/

/-- What a pass over items keeps in mind. -/
structure Scope where
  /-- How many of the parens are open that it has met. -/
  depth : Nat
  /-- Whether it has met only trivia since the last line break. -/
  fresh : Bool

namespace Scope

/-- Where a pass begins that has met no line break yet. -/
def outer : Scope := ⟨0, false⟩

/-- The scope past an item; `none` where the item ends what began at `column`. -/
def next (column : Nat) (s : Scope) (item : Item) : Option Scope :=
  if item.isTrivia then some ⟨s.depth, s.fresh || item.isNewline⟩
  else if s.depth = 0 ∧ s.fresh = true ∧ item.column < column then none
  else (parens s.depth item).map fun depth => ⟨depth, false⟩

/-- The scope past all items; `none` where one of them ends what began at `column`. -/
def run (column : Nat) (s : Scope) (items : List Item) : Option Scope :=
  items.foldlM (next column) s

end Scope

/-- The items up to the one that ends what began at `column`, and those from it on. -/
def cut (column : Nat) (s : Scope) : List Item → List Item × List Item
  | [] => ([], [])
  | item :: items =>
    match s.next column item with
    | none => ([], item :: items)
    | some s =>
      let (inside, beyond) := cut column s items
      (item :: inside, beyond)

namespace Scope

variable {column : Nat} {s s' : Scope} {item : Item}

theorem next_of_trivia (h : item.isTrivia = true) :
    s.next column item = some ⟨s.depth, s.fresh || item.isNewline⟩ := by
  simp [next, h]

theorem next_of_solid {depth : Nat} (h : item.isTrivia = false)
    (inside : s.depth = 0 → s.fresh = true → column ≤ item.column)
    (hp : parens s.depth item = some depth) : s.next column item = some ⟨depth, false⟩ := by
  have stays : ¬(s.depth = 0 ∧ s.fresh = true ∧ item.column < column) := by
    rintro ⟨hd, hf, hlt⟩
    exact Nat.not_lt_of_le (inside hd hf) hlt
  simp [next, h, stays, hp]

theorem next_of_plain (h : item.isTrivia = false) (plain : item.isParen = false)
    (inside : s.depth = 0 → s.fresh = true → column ≤ item.column) :
    s.next column item = some ⟨s.depth, false⟩ :=
  next_of_solid h inside (parens_of_not_isParen plain _)

theorem next_of_isOpen (h : item.isOpen = true)
    (inside : s.depth = 0 → s.fresh = true → column ≤ item.column) :
    s.next column item = some ⟨s.depth + 1, false⟩ :=
  next_of_solid (Item.not_isTrivia_of_isOpen h) inside (parens_of_isOpen h _)

theorem next_of_isClose {depth : Nat} {fresh : Bool} (h : item.isClose = true) :
    next column ⟨depth + 1, fresh⟩ item = some ⟨depth, false⟩ :=
  next_of_solid (Item.not_isTrivia_of_isClose h) (fun hd _ => by cases hd)
    (parens_succ_of_isClose h _)

theorem next_outer_of_isClose {fresh : Bool} (h : item.isClose = true) :
    next column ⟨0, fresh⟩ item = none := by
  simp [next, Item.not_isTrivia_of_isClose h, parens_zero_of_isClose h]

theorem next_outer_of_column_lt (h : item.isTrivia = false) (hlt : item.column < column) :
    next column ⟨0, true⟩ item = none := by
  simp [next, h, hlt]

theorem run_nil : s.run column [] = some s := rfl

theorem run_cons (h : s.next column item = some s') (items : List Item) :
    s.run column (item :: items) = s'.run column items := by
  rw [run, List.foldlM_cons, h]
  rfl

theorem run_append {xs : List Item} (h : s.run column xs = some s') (ys : List Item) :
    s.run column (xs ++ ys) = s'.run column ys := by
  rw [run] at h
  rw [run, List.foldlM_append, h]
  rfl

/-- Trivia are passed, and line breaks among them remembered. -/
theorem run_of_trivia {skipped : List Item} (h : ∀ i ∈ skipped, i.isTrivia = true) :
    s.run column skipped = some ⟨s.depth, s.fresh || skipped.any Item.isNewline⟩ := by
  induction skipped generalizing s with
  | nil => simp [run]
  | cons item skipped ih =>
    obtain ⟨hi, hs⟩ := List.forall_mem_cons.1 h
    rw [run_cons (next_of_trivia hi), ih hs, List.any_cons, Bool.or_assoc]

theorem run_comment (h : item.lexeme = .token .comment) (items : List Item) :
    s.run column (item :: items) = s.run column items := by
  rw [run_cons (next_of_trivia (Item.isTrivia_of_comment h)), Item.not_isNewline_of_comment h,
    Bool.or_false]

theorem run_newline (h : item.lexeme = .token .newline) (items : List Item) :
    s.run column (item :: items) = run column ⟨s.depth, true⟩ items := by
  rw [run_cons (next_of_trivia (Item.isTrivia_of_newline h)), Item.isNewline_of_newline h,
    Bool.or_true]

/-- A group is passed if what is in it is passed one paren deeper. -/
theorem run_group {opener close : Item} {body skipped : List Item} {fresh : Bool}
    (opens : opener.lexeme = .token (.opening .round))
    (inside : s.depth = 0 → s.fresh = true → column ≤ opener.column)
    (content : run column ⟨s.depth + 1, false⟩ body = some ⟨s.depth + 1, fresh⟩)
    (trivia : ∀ i ∈ skipped, i.isTrivia = true)
    (closes : close.lexeme = .token (.closing .round)) (items : List Item) :
    s.run column (opener :: (body ++ (skipped ++ close :: items))) =
      run column ⟨s.depth, false⟩ items := by
  have opened := next_of_isOpen (Item.isOpen_of_opening opens) inside
  have closed : next column ⟨s.depth + 1, fresh || skipped.any Item.isNewline⟩ close =
      some ⟨s.depth, false⟩ := next_of_isClose (Item.isClose_of_closing closes)
  rw [run_cons opened, run_append content, run_append (run_of_trivia trivia), run_cons closed]

/-- The keyword, the name and the sign of a declaration are passed. -/
theorem run_head {keyword bound sign : Item} {word : Keyword} {name : String}
    (lexeme : keyword.lexeme = .token (.keyword word))
    (inside : s.depth = 0 → s.fresh = true → column ≤ keyword.column)
    (named : bound.lexeme = .token (.name name))
    (assigned : sign.lexeme = .token (.operator "=")) (items : List Item) :
    s.run column (keyword :: bound :: sign :: items) = run column ⟨s.depth, false⟩ items := by
  have past_keyword : s.next column keyword = some ⟨s.depth, false⟩ :=
    next_of_plain (Item.not_isTrivia_of_lexeme lexeme (by simp) (by simp))
      (Item.not_isParen_of_lexeme lexeme (by simp) (by simp)) inside
  have past_name : next column ⟨s.depth, false⟩ bound = some ⟨s.depth, false⟩ :=
    next_of_plain (Item.not_isTrivia_of_lexeme named (by simp) (by simp))
      (Item.not_isParen_of_lexeme named (by simp) (by simp)) fun _ h => by cases h
  have past_sign : next column ⟨s.depth, false⟩ sign = some ⟨s.depth, false⟩ :=
    next_of_plain (Item.not_isTrivia_of_lexeme assigned (by simp) (by simp))
      (Item.not_isParen_of_lexeme assigned (by simp) (by simp)) fun _ h => by cases h
  rw [run_cons past_keyword, run_cons past_name, run_cons past_sign]

end Scope

theorem cut_append {column : Nat} {s s' : Scope} {xs : List Item}
    (h : s.run column xs = some s') (ys : List Item) :
    cut column s (xs ++ ys) = (xs ++ (cut column s' ys).1, (cut column s' ys).2) := by
  induction xs generalizing s with
  | nil => cases h; rfl
  | cons x xs ih =>
    cases hx : s.next column x with
    | none =>
      rw [Scope.run, List.foldlM_cons, hx] at h
      cases h
    | some t =>
      rw [Scope.run_cons hx] at h
      rw [List.cons_append, cut, hx]
      dsimp only
      rw [ih h]
      rfl

theorem cut_of_next_eq_none {column : Nat} {s : Scope} {item : Item}
    (h : s.next column item = none) (items : List Item) :
    cut column s (item :: items) = ([], item :: items) := by
  rw [cut, h]

/-! ### Columns along a line -/

/-- The columns of items grow up to the first one past a run without line breaks. -/
theorem column_lt_of_isChain {item first : Item} {between after : List Item}
    (order : (item :: (between ++ first :: after)).IsChain Item.Precedes)
    (line : ∀ i ∈ item :: between, ∃ t, i.lexeme = .token t ∧ t ≠ .newline) :
    item.column < first.column := by
  induction between generalizing item with
  | nil =>
    obtain ⟨t, ht, hn⟩ := line item (by simp)
    exact (List.isChain_cons_cons.1 order).1.column_lt t ht hn
  | cons i between ih =>
    obtain ⟨t, ht, hn⟩ := line item (by simp)
    have step := (List.isChain_cons_cons.1 order).1.column_lt t ht hn
    have others := ih order.tail fun j hj => line j (List.mem_cons_of_mem item hj)
    exact Nat.lt_trans step others

/-- The value of a declaration begins to the right of its keyword, on whichever line. -/
theorem keyword_column_lt {item bound sign first : Item} {word : Keyword} {name : String}
    {skipped after : List Item}
    (order : (item :: bound :: sign :: (skipped ++ first :: after)).IsChain Item.Precedes)
    (lexeme : item.lexeme = .token (.keyword word)) (named : bound.lexeme = .token (.name name))
    (assigned : sign.lexeme = .token (.operator "="))
    (trivia : ∀ i ∈ skipped, i.isTrivia = true)
    (indented : skipped.any Item.isNewline = true → item.column < first.column) :
    item.column < first.column := by
  by_cases hn : skipped.any Item.isNewline = true
  · exact indented hn
  · have line : ∀ i ∈ item :: bound :: sign :: skipped,
        ∃ t, i.lexeme = .token t ∧ t ≠ .newline := by
      intro i hi
      simp only [List.mem_cons] at hi
      rcases hi with rfl | rfl | rfl | hi
      · exact ⟨_, lexeme, by simp⟩
      · exact ⟨_, named, by simp⟩
      · exact ⟨_, assigned, by simp⟩
      · have line : i.isNewline = false := by simp_all
        exact ⟨_, Item.lexeme_of_trivia (trivia i hi) line, by simp⟩
    rw [← List.cons_append, ← List.cons_append] at order
    exact column_lt_of_isChain order line

/-! ### Passes through what a block reads -/

/-- That the first significant item stands at `column` or to the right of it. -/
def StartsFrom (column : Nat) (items : List Item) : Prop :=
  ∀ item ∈ (significant items).head?, column ≤ item.column

theorem startsFrom_cons {column : Nat} {item : Item} (h : item.isTrivia = false)
    (items : List Item) : StartsFrom column (item :: items) ↔ column ≤ item.column := by
  simp [StartsFrom, significant_cons h]

theorem startsFrom_cons_of_trivia {column : Nat} {item : Item} (h : item.isTrivia = true)
    (items : List Item) : StartsFrom column (item :: items) ↔ StartsFrom column items := by
  rw [StartsFrom, StartsFrom, significant_cons_of_trivia h]

theorem StartsFrom.mono {column lower : Nat} {items : List Item} (h : StartsFrom column items)
    (hle : lower ≤ column) : StartsFrom lower items :=
  fun item hi => Nat.le_trans hle (h item hi)

theorem startsFrom_of_not_dedents {ctx : Context} {items : List Item}
    (h : ctx.dedents items = false) : StartsFrom ctx.level items := by
  intro item hi
  unfold Context.dedents at h
  split at h
  · next hs =>
    rw [hs] at hi
    cases hi
  · next hs =>
    rw [hs] at hi
    cases hi
    simpa using h

theorem startsFrom_of_continues {ctx : Context} {items : List Item}
    (h : ctx.continues items = true) : StartsFrom ctx.level items := by
  intro item hi
  unfold Context.continues at h
  split at h
  · simp at h
  · next hs =>
    rw [hs] at hi
    cases hi
    simp only [Bool.and_eq_true, Bool.or_eq_true, decide_eq_true_eq, beq_iff_eq] at h
    omega

/-- That a pass for something that began at or left of the level gets through what is read and
comes out at the depth it went in at; past an operand it has met no line break since the last
significant item. -/
def Judgement.Stays : Judgement → Prop
  | expression _ ctx used rest _ => ∀ (column : Nat) (s : Scope),
    (s.depth = 0 → column ≤ ctx.level ∧
      (s.fresh = true ∨ ctx.isStatement = true → StartsFrom column (used ++ rest))) →
    ∃ fresh, s.run column used = some ⟨s.depth, fresh⟩ ∧
      (ctx.isStatement = false → fresh = false)
  | extension _ ctx _ used rest _ => ∀ (column : Nat) (s : Scope),
    (s.depth = 0 → column ≤ ctx.level ∧
      (s.fresh = true → StartsFrom column (used ++ rest))) →
    ∃ fresh, s.run column used = some ⟨s.depth, fresh⟩ ∧
      (ctx.isStatement = false → s.fresh = false → fresh = false)
  | statements _ level _ used _ _ => ∀ (column : Nat) (s : Scope),
    (s.depth = 0 → column ≤ level) → ∃ fresh, s.run column used = some ⟨s.depth, fresh⟩
  | block _ level _ used rest _ => ∀ (column : Nat) (s : Scope),
    (s.depth = 0 → column ≤ level ∧ StartsFrom column (used ++ rest)) →
    ∃ fresh, s.run column used = some ⟨s.depth, fresh⟩

/-- **A pass gets through whatever is read**, if it is for something that began at or left of the
level of the block. -/
theorem stays_of_derivable {j : Judgement} (h : Derivable j)
    (order : j.items.IsChain Item.Precedes) : j.Stays := by
  induction h with
  | stop => exact fun column s _ => ⟨s.fresh, rfl, fun _ hf => hf⟩
  | @comment _ _ _ _ item _ _ lexeme next ih =>
    intro column s hs
    rw [Scope.run_comment lexeme]
    refine ih order.tail column s fun hd => ⟨(hs hd).1, fun hf => ?_⟩
    rw [← startsFrom_cons_of_trivia (Item.isTrivia_of_comment lexeme)]
    exact (hs hd).2 hf
  | @continuation _ ctx _ _ item used rest lexeme continues next ih =>
    intro column s hs
    have statement : ctx.isStatement = true := by
      simp only [Context.continues, Bool.and_eq_true] at continues
      exact continues.1
    obtain ⟨fresh, hr, -⟩ := ih order.tail column ⟨s.depth, true⟩ fun hd =>
      ⟨(hs hd).1, fun _ => (startsFrom_of_continues continues).mono (hs hd).1⟩
    -- Only a statement goes on past a line break.
    refine ⟨fresh, by rw [Scope.run_newline lexeme, hr], fun operand => ?_⟩
    rw [statement] at operand
    cases operand
  | @operator _ ctx lhs rhs e item symbol used₁ used₂ rest lexeme accepted right next ihr ihn =>
    intro column s hs
    have solid := Item.not_isTrivia_of_lexeme lexeme (by simp) (by simp)
    have plain := Item.not_isParen_of_lexeme lexeme (by simp) (by simp)
    have first : s.next column item = some ⟨s.depth, false⟩ :=
      Scope.next_of_plain solid plain fun hd hf => (startsFrom_cons solid _).1 ((hs hd).2 hf)
    -- Past the operator the scope is not fresh, so it does not matter where the operand begins.
    obtain ⟨fresh, hr, hf⟩ := ihr (order.suffix Judgement.suffix_operand) column
      ⟨s.depth, false⟩ fun hd => ⟨(hs hd).1, by rintro (h | h) <;> cases h⟩
    obtain rfl := hf rfl
    obtain ⟨fresh, hn, hf⟩ := ihn (order.suffix Judgement.suffix_next)
      column ⟨s.depth, false⟩ fun hd => ⟨(hs hd).1, fun h => by cases h⟩
    exact ⟨fresh, by rw [Scope.run_cons first, Scope.run_append hr, hn], fun ho _ => hf ho rfl⟩
  | @argument _ ctx lhs rhs e item used₁ used₂ rest follow accepted right next ihr ihn =>
    intro column s hs
    have entry : s.depth = 0 → column ≤ ctx.level ∧ (s.fresh = true ∨ false = true →
        StartsFrom column (item :: used₁ ++ (used₂ ++ rest))) := by
      refine fun hd => ⟨(hs hd).1, ?_⟩
      rintro (hf | hf)
      · simpa using (hs hd).2 hf
      · cases hf
    obtain ⟨fresh, hr, hf⟩ := ihr (order.suffix Judgement.suffix_argument) column s entry
    obtain rfl := hf rfl
    obtain ⟨fresh, hn, hf⟩ := ihn (order.suffix Judgement.suffix_next)
      column ⟨s.depth, false⟩ fun hd => ⟨(hs hd).1, fun h => by cases h⟩
    refine ⟨fresh, ?_, fun ho _ => hf ho rfl⟩
    rw [← List.cons_append, Scope.run_append hr, hn]
  | @leadingComment _ ctx _ item _ _ lexeme next ih =>
    intro column s hs
    rw [Scope.run_comment lexeme]
    refine ih order.tail column s fun hd => ⟨(hs hd).1, fun hf => ?_⟩
    rw [← startsFrom_cons_of_trivia (Item.isTrivia_of_comment lexeme)]
    exact (hs hd).2 hf
  | @leadingNewline _ ctx _ item _ _ lexeme stays next ih =>
    intro column s hs
    rw [Scope.run_newline lexeme]
    exact ih order.tail column ⟨s.depth, true⟩ fun hd =>
      ⟨(hs hd).1, fun _ => (startsFrom_of_not_dedents stays).mono (hs hd).1⟩
  | @leaf _ ctx lhs e item used rest first next ih =>
    intro column s hs
    have solid := Item.not_isTrivia_of_leaf first
    have plain := Item.not_isParen_of_leaf first
    have passed : s.next column item = some ⟨s.depth, false⟩ :=
      Scope.next_of_plain solid plain fun hd hf =>
        (startsFrom_cons solid _).1 ((hs hd).2 (.inl hf))
    obtain ⟨fresh, hn, hf⟩ := ih order.tail column ⟨s.depth, false⟩
      fun hd => ⟨(hs hd).1, fun h => by cases h⟩
    exact ⟨fresh, by rw [Scope.run_cons passed, hn], fun ho => hf ho rfl⟩
  | @unit _ ctx e opener close used rest opens closes next ih =>
    intro column s hs
    have solid := Item.not_isTrivia_of_lexeme opens (by simp) (by simp)
    obtain ⟨fresh, hn, hf⟩ := ih order.tail.tail column ⟨s.depth, false⟩
      fun hd => ⟨(hs hd).1, fun h => by cases h⟩
    have passed := Scope.run_group opens
      (fun hd hf => (startsFrom_cons solid _).1 ((hs hd).2 (.inl hf))) Scope.run_nil
      (List.forall_mem_nil _) closes used
    exact ⟨fresh, passed.trans hn, fun operand => hf operand rfl⟩
  | @group _ ctx inner e opener close body skipped used rest opens content trivia closes next ihc
      ihn =>
    intro column s hs
    have solid := Item.not_isTrivia_of_lexeme opens (by simp) (by simp)
    -- Inside the parens no column matters.
    obtain ⟨fresh, hb⟩ := ihc (order.suffix Judgement.suffix_body) column ⟨s.depth + 1, false⟩
      fun hd => by cases hd
    obtain ⟨fresh', hn, hf⟩ := ihn (order.suffix Judgement.suffix_past_group) column
      ⟨s.depth, false⟩ fun hd => ⟨(hs hd).1, fun h => by cases h⟩
    have passed := Scope.run_group opens
      (fun hd hf => (startsFrom_cons solid _).1 ((hs hd).2 (.inl hf))) hb trivia closes used
    exact ⟨fresh', passed.trans hn, fun operand => hf operand rfl⟩
  | @declaration _ ctx value item bound sign first word name skipped used rest lexeme statement
      named assigned trivia solid indented content ih =>
    intro column s hs
    have keyword := Item.not_isTrivia_of_lexeme lexeme (by simp) (by simp)
    have inside : s.depth = 0 → column ≤ item.column := fun hd =>
      (startsFrom_cons keyword _).1 ((hs hd).2 (.inr statement))
    have deeper : item.column < first.column :=
      keyword_column_lt (by simpa [Judgement.items] using order) lexeme named assigned trivia
        indented
    -- The value begins further right than the declaration, so the pass goes on through it.
    have entry : s.depth = 0 → column ≤ first.column ∧
        StartsFrom column (first :: used ++ rest) := by
      intro hd
      have := inside hd
      rw [List.cons_append, startsFrom_cons solid]
      omega
    obtain ⟨fresh, hv⟩ := ih (order.suffix Judgement.suffix_value) column
      ⟨s.depth, false || skipped.any Item.isNewline⟩ entry
    refine ⟨fresh, ?_, fun operand => ?_⟩
    · rw [Scope.run_head lexeme (fun hd _ => inside hd) named assigned,
        Scope.run_append (Scope.run_of_trivia trivia), hv]
    · rw [statement] at operand
      cases operand
  | finish => exact fun column s _ => ⟨s.fresh, rfl⟩
  | @statement _ level _ e es first skipped used₁ used₂ rest trivia solid deep content others ihc
      iho =>
    intro column s hs
    obtain ⟨fresh, hc, -⟩ := ihc (order.suffix Judgement.suffix_statement) column
      ⟨s.depth, s.fresh || skipped.any Item.isNewline⟩ fun hd => ⟨hs hd, fun _ => by
        rw [List.cons_append, startsFrom_cons solid]
        exact Nat.le_trans (hs hd) deep⟩
    obtain ⟨fresh, ho⟩ := iho (order.suffix Judgement.suffix_others)
      column ⟨s.depth, fresh⟩ hs
    refine ⟨fresh, ?_⟩
    rw [Scope.run_append (Scope.run_of_trivia trivia), ← List.cons_append, Scope.run_append hc, ho]
  | @block _ level _ e es used₁ used₂ rest first others ihf iho =>
    intro column s hs
    obtain ⟨fresh, hf, -⟩ := ihf (order.suffix Judgement.suffix_block_first) column s
      fun hd => ⟨(hs hd).1, fun _ => by simpa using (hs hd).2⟩
    obtain ⟨fresh, ho⟩ := iho (order.suffix Judgement.suffix_block_others)
      column ⟨s.depth, fresh⟩ fun hd => (hs hd).1
    exact ⟨fresh, by rw [Scope.run_append hf, ho]⟩

/-! ### Where a block is cut off -/

/-- A pass that comes to where a block ends goes no further than some trivia. -/
theorem cut_of_blockEnds {level : Nat} {isGrouped : Bool} {rest : List Item}
    (hb : AtBreak rest) (ends : blockEnds level isGrouped rest = true) (fresh : Bool) :
    ∃ skipped, rest = skipped ++ significant rest ∧ (∀ i ∈ skipped, i.isTrivia = true) ∧
      cut level ⟨0, fresh⟩ rest = (skipped, significant rest) := by
  cases hs : significant rest with
  | nil =>
    have trivia := significant_eq_nil_iff.1 hs
    refine ⟨rest, by simp, trivia, ?_⟩
    have passed := cut_append (@Scope.run_of_trivia level ⟨0, fresh⟩ rest trivia) []
    simpa [cut] using passed
  | cons item tail =>
    obtain ⟨skipped, rfl, trivia, -⟩ := split_significant hs
    have solid := isTrivia_of_significant hs
    refine ⟨skipped, rfl, trivia, ?_⟩
    rw [cut_append (Scope.run_of_trivia trivia), cut_of_next_eq_none, List.append_nil]
    by_cases hc : item.isClose = true
    · exact Scope.next_outer_of_isClose hc
    -- The item is no paren, so it stands too far left, and a line break comes before it.
    have hlt : item.column < level := by simpa [blockEnds, hs, hc] using ends
    have broken : skipped.any Item.isNewline = true := by
      cases skipped with
      | nil =>
        have line : item.isNewline = false := (Bool.or_eq_false_iff.1 solid).2
        rcases hb item rfl with hn | hn
        · rw [hn] at line
          cases line
        · exact absurd hn hc
      | cons i skipped =>
        have hi := trivia i (by simp)
        rcases hb i rfl with hn | hn
        · simp [hn]
        · rw [Item.not_isTrivia_of_isClose hn] at hi
          cases hi
    rw [broken, Bool.or_true]
    exact Scope.next_outer_of_column_lt solid hlt

/-- **A block that begins at its level is what `cut` divides off**, but for trivia. -/
theorem cut_of_block {room level : Nat} {isGrouped : Bool} {first : Item} {used rest : List Item}
    {value : Expr} (h : Derivable (.block room level isGrouped (first :: used) rest value))
    (order : (first :: (used ++ rest)).IsChain Item.Precedes) (solid : first.isTrivia = false)
    (hl : level = first.column) :
    ∃ skipped, (∀ i ∈ skipped, i.isTrivia = true) ∧ rest = skipped ++ significant rest ∧
      cut level .outer (first :: (used ++ rest)) =
        (first :: (used ++ skipped), significant rest) := by
  obtain ⟨fresh, hr⟩ := stays_of_derivable h order level .outer fun _ =>
    ⟨Nat.le_refl _, (startsFrom_cons solid _).2 (Nat.le_of_eq hl)⟩
  obtain ⟨hb, ends⟩ := breaks_of_derivable h
  obtain ⟨skipped, hrest, trivia, hc⟩ := cut_of_blockEnds hb ends fresh
  refine ⟨skipped, trivia, hrest, ?_⟩
  have := cut_append hr rest
  rw [List.cons_append] at this
  rw [this]
  show (first :: used ++ (cut level ⟨0, fresh⟩ rest).1, (cut level ⟨0, fresh⟩ rest).2) = _
  rw [hc, List.cons_append]

end Offside
