import Offside.Proofs.Grouping
import Offside.Proofs.Nesting
import Offside.Proofs.OpenParens

/-!
# Statements in parens after another statement

The statements of a source go on with those of a source before it, in parens as well as without
them, for a block that follows another statement gives its statements to the block around it.  That
is one level of blocks only: the first statement of a block is kept whole, as what its text says,
so where the second source begins with a block in parens and goes on after it, the group keeps that
block and without the group it is spliced.  In all other cases **parens around the statements that
follow others change nothing** (`grouped_iff_joined`).

An expression that is a block is one group, from its first token to its last (`OneGroup`), which is
how that case is told from a source that is a block in parens as a whole.
-/

namespace Offside

/-! ### Groups -/

/-- Whether the tokens of some items are one group: a paren, balanced items and the paren that
closes it. -/
def OneGroup (items : List Item) : Prop :=
  ∃ opener inside close, solid items = opener :: (inside ++ [close]) ∧
    opener.isOpen = true ∧ Balanced inside ∧ close.isClose = true

/-- Trivia do not matter for the balance. -/
theorem foldlM_parens_solid (items : List Item) (depth : Nat) :
    (solid items).foldlM parens depth = items.foldlM parens depth := by
  induction items generalizing depth with
  | nil => rfl
  | cons item items ih =>
    cases trivia : item.isTrivia with
    | true =>
      rw [solid_cons_of_trivia trivia, List.foldlM_cons, parens_of_isTrivia trivia, ih]
      rfl
    | false => simp only [solid_cons trivia, List.foldlM_cons, ih]

theorem Balanced.solid {items : List Item} (h : Balanced items) : Balanced (solid items) :=
  (foldlM_parens_solid items 0).trans h

/-- A paren is closed in one place. -/
theorem Balanced.eq_of_append_close {xs ys us vs : List Item} {a b : Item} (hx : Balanced xs)
    (hy : Balanced ys) (ha : a.isClose = true) (hb : b.isClose = true)
    (h : xs ++ a :: us = ys ++ b :: vs) : us = vs := by
  rcases List.append_eq_append_iff.1 h with ⟨zs, rfl, tail⟩ | ⟨zs, rfl, tail⟩
  · cases zs with
    | nil => exact (List.cons.inj tail).2
    | cons z zs =>
      obtain ⟨rfl, -⟩ := List.cons.inj tail
      exact absurd ⟨xs, a, zs, rfl, hx, ha⟩ hy.not_paired
  · cases zs with
    | nil => exact (List.cons.inj tail).2.symm
    | cons z zs =>
      obtain ⟨rfl, -⟩ := List.cons.inj tail
      exact absurd ⟨ys, b, zs, rfl, hy, hb⟩ hx.not_paired

/-- Nothing comes after a group in one group. -/
theorem OneGroup.solid_eq_nil {xs ys : List Item} (h : OneGroup xs) (whole : OneGroup (xs ++ ys)) :
    solid ys = [] := by
  obtain ⟨opener, inside, close, eq, -, balanced, closes⟩ := h
  obtain ⟨opener', inside', close', eq', -, balanced', closes'⟩ := whole
  rw [solid_append, eq, List.cons_append, List.append_assoc] at eq'
  exact balanced.eq_of_append_close balanced' closes closes' (List.cons.inj eq').2

/-- An expression has statements if a block has two or more. -/
theorem Expr.statements_ne_nil {e : Expr} (several : e.isBlock = true → 2 ≤ e.statements.length) :
    e.statements ≠ [] := by
  cases isBlock : e.isBlock with
  | false => simp [statements_of_not_isBlock isBlock]
  | true => exact fun none => absurd (several isBlock) (by simp [none])

/-- That a block is made by one group and has at least two statements, and that there are tokens
just where there are statements. -/
def Judgement.Whole : Judgement → Prop
  | expression _ _ used _ e =>
    e.isBlock = true → OneGroup used ∧ 2 ≤ e.statements.length
  | extension _ _ lhs used _ e => e.isBlock = true → e = lhs ∧ solid used = []
  | statements _ _ _ used _ es => es = [] ↔ solid used = []
  | block _ _ _ _ _ e => e.isBlock = true → 2 ≤ e.statements.length

theorem OneGroup.of_trivia {item : Item} {items : List Item} (trivia : item.isTrivia = true)
    (h : OneGroup items) : OneGroup (item :: items) := by
  rwa [OneGroup, solid_cons_of_trivia trivia]

/-- **An expression that is a block is one group.** -/
theorem whole_of_derivable {j : Judgement} (h : Derivable j) : j.Whole := by
  induction h with
  | stop => exact fun _ => ⟨rfl, rfl⟩
  | comment lexeme _ ih =>
    intro isBlock
    rw [solid_cons_of_trivia (Item.isTrivia_of_comment lexeme)]
    exact ih isBlock
  | continuation lexeme _ _ ih =>
    intro isBlock
    rw [solid_cons_of_trivia (Item.isTrivia_of_newline lexeme)]
    exact ih isBlock
  | operator _ _ _ _ _ ih | argument _ _ _ _ _ ih =>
    -- What goes on with an operator or an argument is no block.
    intro isBlock
    rw [(ih isBlock).1] at isBlock
    cases isBlock
  | leadingComment lexeme _ ih =>
    exact fun isBlock => (ih isBlock).imp_left (.of_trivia (Item.isTrivia_of_comment lexeme))
  | leadingNewline lexeme _ _ ih =>
    exact fun isBlock => (ih isBlock).imp_left (.of_trivia (Item.isTrivia_of_newline lexeme))
  | leaf first _ ih =>
    intro isBlock
    rw [(ih isBlock).1, Expr.isBlock_of_leaf first] at isBlock
    cases isBlock
  | unit _ _ _ ih =>
    intro isBlock
    rw [(ih isBlock).1] at isBlock
    cases isBlock
  | @group room ctx inner e opener close body skipped used rest opens content trivia closes next ihc
      ihn =>
    intro isBlock
    -- The group is not extended, so it is the whole of the expression.
    obtain ⟨rfl, none⟩ := ihn isBlock
    refine ⟨⟨opener, solid body, close, ?_, Item.isOpen_of_opening opens,
      (balanced_of_derivable content).solid, Item.isClose_of_closing closes⟩, ihc isBlock⟩
    rw [solid_cons (Item.not_isTrivia_of_lexeme opens (by simp) (by simp)), solid_append,
      solid_append, solid_eq_nil_iff.2 trivia,
      solid_cons (Item.not_isTrivia_of_lexeme closes (by simp) (by simp)), none]
    rfl
  | declaration => exact fun isBlock => by cases isBlock
  | finish => exact ⟨fun _ => rfl, fun _ => rfl⟩
  | @statement room level isGrouped e es first skipped used₁ used₂ rest _ solid' _ _ _ ihc _ =>
    have some := Expr.statements_ne_nil fun isBlock => (ihc isBlock).2
    simp [Judgement.Whole, some, solid_cons solid']
  | @block room level isGrouped e es used₁ used₂ rest first others ihf iho =>
    intro isBlock
    cases es with
    | nil => exact (ihf isBlock).2
    | cons f fs => exact Nat.le_add_left 2 fs.length

/-! ### Statements and those after them -/

/-- That all items are read at `base`, as the statement `e` with `es` after it. -/
def Sequenced (limit base : Nat) (items : List Item) (e : Expr) (es : List Expr) : Prop :=
  firstColumn items = base ∧ ∃ used₁ used₂ rest, items = used₁ ++ (used₂ ++ rest) ∧
    significant rest = [] ∧
    Derivable (.expression limit (.statement base false) used₁ (used₂ ++ rest) e) ∧
    Derivable (.statements limit base false used₂ rest es)

namespace Sequenced

variable {limit base sourceEnd n : Nat} {xs ys : List Item} {e e' : Expr} {es es' : List Expr}

/-- What a source is read as is a sequence. -/
theorem of_parseItems {t : Expr} (h : parseItems limit sourceEnd xs = .ok t)
    (some : significant xs ≠ []) :
    ∃ e es, t = e.sequence es ∧ Sequenced limit (firstColumn xs) xs e es := by
  rcases derivable_of_parseItems h with ⟨none, -⟩ | ⟨used, rest, split, trivia, derived⟩
  · exact absurd none some
  · cases derived with
    | @block _ _ _ e es used₁ used₂ _ first others =>
      exact ⟨e, es, rfl, rfl, used₁, used₂, rest, by rw [split, List.append_assoc], trivia, first,
        others⟩

/-- Items that are moved on by whole lines are read as the same statements, moved. -/
theorem shift (h : Sequenced limit base xs e es) (alike : AlikeItems (.shift n) .id xs ys)
    (columns : xs.map Item.column = ys.map Item.column) :
    Sequenced limit base ys (e.shift n) (es.map (Expr.shift n)) := by
  obtain ⟨column, used₁, used₂, rest, rfl, trivia, first, others⟩ := h
  obtain ⟨used₁', used₂', rest', rfl, trivia', first', others'⟩ :=
    derivable_shift_statements first others trivia alike columns
  refine ⟨?_, used₁', used₂', rest', rfl, trivia', first', others'⟩
  obtain ⟨item, tail, begins, -⟩ := begins_of_derivable first
  obtain ⟨item', tail', begins', -⟩ := begins_of_derivable first'
  have hs := significant_append_of_cons begins (used₂ ++ rest)
  have hs' := significant_append_of_cons begins' (used₂' ++ rest')
  rw [firstColumn, hs] at column
  rw [firstColumn, hs']
  exact (alike.column_eq columns hs hs').symm.trans column

/-- In parens, statements are one. -/
theorem inParens {gts : List Item} (parens : InParens .origin xs gts)
    (h : Sequenced limit 0 xs e es) : Sequenced (limit + 1) 0 gts (e.sequence es) [] := by
  obtain ⟨-, used₁, used₂, rest, rfl, trivia, first, others⟩ := h
  rw [← List.append_assoc] at parens
  obtain ⟨group, column⟩ := derivable_inParens parens (.block first others) trivia
  exact ⟨column, gts, [], [], by simp, rfl, group, .finish rfl⟩

/-- **The statements of a source go on with those of the next one.** -/
theorem parseItems_append {nl : Item} (newline : nl.lexeme = .token .newline)
    (order : (xs ++ nl :: ys).IsChain Item.Precedes) (h : Sequenced limit base xs e es)
    (h' : Sequenced limit base ys e' es') :
    parseItems limit sourceEnd (xs ++ nl :: ys) =
      .ok (e.sequence (es ++ (e'.statements ++ es'))) := by
  obtain ⟨column, used₁, used₂, rest, rfl, trivia, first, others⟩ := h
  obtain ⟨column', used₁', used₂', rest', rfl, trivia', first', others'⟩ := h'
  obtain ⟨item, tail, begins, -⟩ := begins_of_derivable first
  obtain ⟨item', tail', begins', -⟩ := begins_of_derivable first'
  -- Both begin at the base, so no statement of the second one is a continuation line.
  rw [firstColumn, significant_append_of_cons begins] at column
  rw [firstColumn, significant_append_of_cons begins'] at column'
  have starts : StartsFrom base used₁ := fun i hi => by
    rw [begins] at hi
    cases hi
    exact Nat.le_of_eq column.symm
  have starts' : ∀ i ∈ (significant used₁').head?, i.column = base := fun i hi => by
    rw [begins'] at hi
    cases hi
    exact column'
  have joined := sequence_append newline (by simpa using order.left_of_append) trivia first others
    starts first' others' starts'
  have shape : used₁ ++ (used₂ ++ rest) ++ nl :: (used₁' ++ (used₂' ++ rest')) =
      used₁ ++ used₂ ++ (rest ++ nl :: (used₁' ++ used₂')) ++ rest' := by simp
  rw [shape]
  refine parseItems_of_derivable ?_ trivia'
  have start : firstColumn (used₁ ++ used₂ ++ (rest ++ nl :: (used₁' ++ used₂')) ++ rest') =
      base := by
    rw [← shape, List.append_assoc, firstColumn, significant_append_of_cons begins]
    exact column
  rw [start]
  exact joined

end Sequenced

/-! ### Sources -/

namespace Expr

/-- Whether an expression is a block that begins with another one. -/
def beginsWithBlock : Expr → Bool
  | block _ (first :: _) => first.isBlock
  | _ => false

theorem beginsWithBlock_sequence {e : Expr} {es : List Expr} (h : es ≠ []) :
    (e.sequence es).beginsWithBlock = e.isBlock := by
  obtain ⟨span, eq⟩ := exists_sequence_eq_block (e := e) h
  rw [eq]
  rfl

theorem beginsWithBlock_of_not_isBlock {e : Expr} (h : e.isBlock = false) :
    e.beginsWithBlock = false := by
  cases e with
  | block => cases h
  | _ => rfl

theorem bare_sequence (e : Expr) (es : List Expr) :
    (e.sequence es).bare = e.bare.sequence (es.map bare) := mapSpans_sequence e es

/-- Two sequences with one first statement are the same if the others are, where there are any. -/
theorem sequence_inj {e : Expr} {es es' : List Expr} (h : es ≠ []) (h' : es' ≠ []) :
    e.sequence es = e.sequence es' ↔ es = es' := by
  refine ⟨fun same => ?_, fun same => by rw [same]⟩
  obtain ⟨span, eq⟩ := exists_sequence_eq_block (e := e) h
  obtain ⟨span', eq'⟩ := exists_sequence_eq_block (e := e) h'
  rw [eq, eq', block.injEq] at same
  exact (List.cons.inj same.2).2

/-- The statements of a sequence are those of the first one with the others after them unless a
block is the first of several. -/
theorem statements_sequence_bare_iff {e : Expr} {es : List Expr}
    (several : e.isBlock = true → 2 ≤ e.statements.length) :
    (e.sequence es).statements.map bare = (e.statements ++ es).map bare ↔
      es = [] ∨ e.isBlock = false := by
  constructor
  · intro same
    by_contra other
    obtain ⟨some, isBlock⟩ := not_or.1 other
    rw [Bool.not_eq_false] at isBlock
    -- In the sequence the block counts as one statement, and it has two at least.
    rw [statements_sequence fun none => absurd none some] at same
    have lengths := congrArg List.length same
    simp only [List.length_map, List.length_cons, List.length_append] at lengths
    have := several isBlock
    omega
  · rintro h
    rw [statements_sequence_append fun some => h.resolve_left some]

end Expr

section Sources

variable {limit : Nat} {s₁ s₂ : String} {e e' : Expr} {es es' : List Expr}

/-- The statements of a source on the lines after another one go on with those of that one. -/
theorem parseWithin_of_sequenced (clean : Clean (items s₁.toList))
    (h : Sequenced limit 0 (items s₁.toList) e es)
    (h' : Sequenced limit 0 (items s₂.toList) e' es') :
    ∃ t, parseWithin limit (s₁ ++ "\n" ++ s₂) = .ok t ∧
      t.bare = e.bare.sequence (es.map Expr.bare ++ (e'.statements ++ es').map Expr.bare) := by
  obtain ⟨nl, newline, joined⟩ := itemsFrom_append_newline clean s₂.toList
  generalize hq : Position.origin.advanceAll (s₁.toList ++ ['\n']) = q at joined
  have line : q.column = 0 := by rw [← hq, Position.advanceAll_append]; rfl
  obtain ⟨alike, columns⟩ := alike_itemsFrom line s₂.toList
  have text : (s₁ ++ "\n" ++ s₂).toList = s₁.toList ++ '\n' :: s₂.toList := by simp
  rw [← items_eq_itemsFrom, ← items_eq_itemsFrom] at joined
  rw [parseWithin, text, joined]
  refine ⟨_, h.parseItems_append newline (joined ▸ isChain_items _) (h'.shift alike columns), ?_⟩
  have moved (fs : List Expr) : (fs.map (Expr.shift q.offset)).map Expr.bare = fs.map Expr.bare :=
    Expr.map_bare_mapSpans _ fs
  have statements : (e'.shift q.offset).statements = e'.statements.map (Expr.shift q.offset) :=
    Expr.statements_mapSpans e'
  simp only [Expr.bare_sequence, statements, List.map_append, moved]

/-- A source in parens is one statement. -/
theorem sequenced_inParens (clean : Clean (items s₂.toList))
    (h : Sequenced limit 0 (items s₂.toList) e es) :
    Sequenced (limit + 1) 0 (items ("(\n" ++ s₂ ++ "\n)").toList) ((e.sequence es).shift 2) [] := by
  have text : ("(\n" ++ s₂ ++ "\n)").toList = inParens s₂.toList := by simp [inParens]
  obtain ⟨its, parens, alike, columns⟩ := items_inParens clean
  rw [text, Expr.shift, Expr.mapSpans_sequence]
  exact (h.shift alike columns).inParens parens

/-- A first statement that is a block has at least two statements. -/
theorem Sequenced.several {base : Nat} {xs : List Item} (h : Sequenced limit base xs e es)
    (isBlock : e.isBlock = true) : 2 ≤ e.statements.length := by
  obtain ⟨-, used₁, used₂, rest, -, -, first, -⟩ := h
  exact (whole_of_derivable first isBlock).2

/-- A block is the first of several statements just where the source begins with a block and is not
one group. -/
theorem Sequenced.plain_iff {base : Nat} {xs : List Item} (h : Sequenced limit base xs e es) :
    es = [] ∨ e.isBlock = false ↔ (e.sequence es).beginsWithBlock = false ∨ OneGroup xs := by
  obtain ⟨-, used₁, used₂, rest, rfl, trivia, first, others⟩ := h
  have whole := whole_of_derivable first
  have left : solid rest = [] := solid_eq_nil_iff.2 (significant_eq_nil_iff.1 trivia)
  constructor
  · rintro (rfl | plain)
    · cases isBlock : e.isBlock with
      | false => exact .inl (Expr.beginsWithBlock_of_not_isBlock isBlock)
      | true =>
        -- A block without statements after it is all there is of the source.
        obtain ⟨⟨opener, inside, close, eq, group⟩, -⟩ := whole isBlock
        have none : solid used₂ = [] := (whole_of_derivable others).1 rfl
        refine .inr ⟨opener, inside, close, ?_, group⟩
        rw [solid_append, solid_append, none, left, eq]
        simp
    · left
      cases es with
      | nil => exact Expr.beginsWithBlock_of_not_isBlock plain
      | cons f fs => rw [Expr.beginsWithBlock_sequence (by simp), plain]
  · rintro (plain | group)
    · cases es with
      | nil => exact .inl rfl
      | cons f fs => exact .inr (by rwa [Expr.beginsWithBlock_sequence (by simp)] at plain)
    · by_contra several
      obtain ⟨some, isBlock⟩ := not_or.1 several
      have behind := (whole (by simpa using isBlock)).1.solid_eq_nil group
      rw [solid_append, List.append_eq_nil_iff] at behind
      exact some ((whole_of_derivable others).2 behind.1)

/-- **Parens around the statements that follow others change nothing**, but for a block.  Let two
sources be read that begin in the first column.  The second one, on the lines after the first one,
is read there with parens on lines of their own around it as well as without them, and the two
expressions differ only in where their parts stand, unless the second source begins with a block and
is not one group as a whole; then they do not. -/
theorem grouped_iff_joined {limit limit₁ limit₂ : Nat} {s₁ s₂ : String} {t₁ t₂ : Expr}
    {first₁ first₂ : Item} (h₁ : parseWithin limit₁ s₁ = .ok t₁)
    (h₂ : parseWithin limit₂ s₂ = .ok t₂)
    (begins₁ : (significant (items s₁.toList)).head? = some first₁)
    (begins₂ : (significant (items s₂.toList)).head? = some first₂)
    (margin₁ : first₁.column = 0) (margin₂ : first₂.column = 0)
    (room : tokenCount (items s₁.toList) + tokenCount (items s₂.toList) < limit) :
    ∃ t t', parseWithin limit (s₁ ++ "\n(\n" ++ s₂ ++ "\n)") = .ok t ∧
      parseWithin limit (s₁ ++ "\n" ++ s₂) = .ok t' ∧
      (t.bare = t'.bare ↔ t₂.beginsWithBlock = false ∨ OneGroup (items s₂.toList)) := by
  obtain ⟨tail₁, begins₁⟩ := List.head?_eq_some_iff.1 begins₁
  obtain ⟨tail₂, begins₂⟩ := List.head?_eq_some_iff.1 begins₂
  have clean₁ := clean_of_parse h₁
  have clean₂ := clean_of_parse h₂
  have column₁ : firstColumn (items s₁.toList) = 0 := by rw [firstColumn, begins₁, ← margin₁]
  have column₂ : firstColumn (items s₂.toList) = 0 := by rw [firstColumn, begins₂, ← margin₂]
  have some₁ : significant (items s₁.toList) ≠ [] := by simp [begins₁]
  have some₂ : significant (items s₂.toList) ≠ [] := by simp [begins₂]
  -- The first source has a token, so there is room for a group around the second one.
  have token := tokenCount_pos clean₁ some₁
  obtain ⟨k, rfl⟩ : ∃ k, limit = k + 1 := ⟨limit - 1, by omega⟩
  have outer₁ : parseWithin (k + 1) s₁ = .ok t₁ := parseWithin_of_tokenCount_lt h₁ (by omega)
  have outer₂ : parseWithin (k + 1) s₂ = .ok t₂ := parseWithin_of_tokenCount_lt h₂ (by omega)
  have inner₂ : parseWithin k s₂ = .ok t₂ := parseWithin_of_tokenCount_lt h₂ (by omega)
  obtain ⟨e₁, es₁, -, seq₁⟩ := Sequenced.of_parseItems outer₁ some₁
  obtain ⟨e₂, es₂, joined, seq₂⟩ := Sequenced.of_parseItems outer₂ some₂
  obtain ⟨e₂', es₂', inner, seq₂'⟩ := Sequenced.of_parseItems inner₂ some₂
  rw [column₁] at seq₁
  rw [column₂] at seq₂ seq₂'
  -- In the group the second source has one level less, which it does not need.
  have group := sequenced_inParens clean₂ seq₂'
  rw [← inner] at group
  obtain ⟨t, read, shape⟩ := parseWithin_of_sequenced clean₁ seq₁ group
  obtain ⟨t', read', shape'⟩ := parseWithin_of_sequenced clean₁ seq₁ seq₂
  have text : s₁ ++ "\n(\n" ++ s₂ ++ "\n)" = s₁ ++ "\n" ++ ("(\n" ++ s₂ ++ "\n)") := by
    apply String.toList_inj.1
    simp
  refine ⟨t, t', by rw [text, read], read', ?_⟩
  have moved : (t₂.shift 2).statements.map Expr.bare = t₂.statements.map Expr.bare := by
    rw [Expr.shift, Expr.statements_mapSpans, Expr.map_bare_mapSpans]
  have some := Expr.statements_ne_nil seq₂.several
  have some' : t₂.statements ≠ [] := by
    rw [joined]
    cases es₂ with
    | nil => exact some
    | cons f fs => exact List.cons_ne_nil e₂ (f :: fs)
  rw [shape, shape', List.append_nil, moved, Expr.sequence_inj (by simp [some']) (by simp [some]),
    List.append_cancel_left_eq, joined, Expr.statements_sequence_bare_iff seq₂.several,
    seq₂.plain_iff]

end Sources

/-- `grouped_iff_joined` for a declaration and two statements, the first of which has a block in
parens on the left of an operator. -/
theorem grouped_iff_joined_operand : ∃ t t',
    parseWithin 16 ("let x = 1" ++ "\n(\n" ++ "(a\nb) + x // c\nf x" ++ "\n)") = .ok t ∧
    parseWithin 16 ("let x = 1" ++ "\n" ++ "(a\nb) + x // c\nf x") = .ok t' ∧
    t.bare = t'.bare := by
  obtain ⟨t₁, h₁, -⟩ := exists_of_any (x := parseWithin 4 "let x = 1") (p := fun _ => true)
    (by decide +kernel)
  obtain ⟨t₂, h₂, plain⟩ := exists_of_any (x := parseWithin 4 "(a\nb) + x // c\nf x")
    (p := fun t => !t.beginsWithBlock) (by decide +kernel)
  have begins₁ : (significant (items "let x = 1".toList)).head? =
    some ⟨.token (.keyword .mutable), ⟨0, 1, 0⟩, 3⟩ := by decide +kernel
  have begins₂ : (significant (items "(a\nb) + x // c\nf x".toList)).head? =
    some ⟨.token (.opening .round), ⟨0, 1, 0⟩, 1⟩ := by decide +kernel
  have room : tokenCount (items "let x = 1".toList) +
    tokenCount (items "(a\nb) + x // c\nf x".toList) < 16 := by decide +kernel
  obtain ⟨t, t', grouped, joined, same⟩ := grouped_iff_joined h₁ h₂ begins₁ begins₂ rfl rfl room
  exact ⟨t, t', grouped, joined, same.2 (.inl (by simpa using plain))⟩

/-- Parens around statements that follow others change what they are where a block is the first of
them: in the group it is kept whole, and after another statement it is not. -/
theorem grouped_ne_joined : ∃ t₁ t₂ first₁ first₂ t t',
    parseWithin 64 "x" = .ok t₁ ∧ parseWithin 64 "(a\nb)\nc" = .ok t₂ ∧
    (significant (items "x".toList)).head? = some first₁ ∧
    (significant (items "(a\nb)\nc".toList)).head? = some first₂ ∧
    first₁.column = 0 ∧ first₂.column = 0 ∧
    tokenCount (items ("x" ++ "\n(\n" ++ "(a\nb)\nc" ++ "\n)").toList) < 64 ∧
    parseWithin 64 ("x" ++ "\n(\n" ++ "(a\nb)\nc" ++ "\n)") = .ok t ∧
    parseWithin 64 ("x" ++ "\n" ++ "(a\nb)\nc") = .ok t' ∧ t.bare ≠ t'.bare := by
  obtain ⟨t₁, h₁, -⟩ := exists_of_any (x := parseWithin 64 "x") (p := fun _ => true)
    (by decide +kernel)
  obtain ⟨t₂, h₂, -⟩ := exists_of_any (x := parseWithin 64 "(a\nb)\nc") (p := fun _ => true)
    (by decide +kernel)
  obtain ⟨t, grouped, text⟩ := exists_of_any
    (x := parseWithin 64 ("x" ++ "\n(\n" ++ "(a\nb)\nc" ++ "\n)"))
    (p := fun t => t.toText = "(block x (block a b) c)") (by decide +kernel)
  obtain ⟨t', joined, text'⟩ := exists_of_any
    (x := parseWithin 64 ("x" ++ "\n" ++ "(a\nb)\nc"))
    (p := fun t => t.toText = "(block x a b c)") (by decide +kernel)
  refine ⟨t₁, t₂, ⟨.token (.name "x"), ⟨0, 1, 0⟩, 1⟩, ⟨.token (.opening .round), ⟨0, 1, 0⟩, 1⟩, t,
    t', h₁, h₂, by decide +kernel, by decide +kernel, rfl, rfl, by decide +kernel, grouped, joined,
    fun same => ?_⟩
  have texts : t.toText = t'.toText := Expr.toText_eq_of_mapSpans_eq same
  rw [of_decide_eq_true text, of_decide_eq_true text'] at texts
  exact absurd texts (by decide)

end Offside
