import Offside.Proofs.Concatenation
import Offside.Proofs.Exchange
import Offside.Proofs.Moved
import Offside.Proofs.Yield

/-!
# Joining sources

Two sources that begin in the same column make one when they are put on lines one after the other,
and its statements are those of the one and then those of the other (`parseWithin_append`).

A part of the first source is derived the same with the second one after it, unless it reads to the
end of the source and the second one belongs to it (`framed_of_derivable`).  That takes a level at
or left of the column where the second one begins, and none but the statements of the source have
such a level, which go on with those of the second one (`continued_of_derivable`).
-/

namespace Offside

/-! ### What goes on after a source -/

/-- Items that begin, on a new line and in the column `base`, with what can begin a statement. -/
structure Seam (base : Nat) (added : List Item) : Prop where
  /-- A line break comes first. -/
  newline : ∃ nl more, added = nl :: more ∧ nl.lexeme = .token .newline
  /-- The first significant item begins no other line. -/
  first : ∃ first tail, significant added = first :: tail ∧ first.column = base ∧
    first.isOperator = false

theorem Seam.outside {base : Nat} {added : List Item} (seam : Seam base added) :
    Outside base added := by
  obtain ⟨⟨nl, more, rfl, lexeme⟩, first, tail, hs, column, operator⟩ := seam
  refine ⟨fun item hi => ?_, fun item hi => ?_⟩
  · cases hi
    exact Item.isNewline_of_newline lexeme
  · rw [hs] at hi
    cases hi
    exact ⟨Nat.le_of_eq column, fun _ => operator⟩

/-! ### Frames -/

/-- That a part is derived with `added` after the source, provided that, where it reads the source
to its end, its level is `base` or right of it. -/
def Judgement.Framed (base : Nat) (added : List Item) : Judgement → Prop
  | expression room ctx used rest e =>
    (significant rest = [] → ctx.isStatement = true → base ≤ ctx.level ∧ StartsFrom base used) →
      Derivable (.expression room ctx used (rest ++ added) e)
  | extension room ctx lhs used rest e =>
    (significant rest = [] → ctx.isStatement = true → base ≤ ctx.level) →
      Derivable (.extension room ctx lhs used (rest ++ added) e)
  | statements room level isGrouped used rest es =>
    (significant rest = [] → base < level) →
      Derivable (.statements room level isGrouped used (rest ++ added) es)
  | block room level isGrouped used rest e =>
    (significant rest = [] → base < level ∧ StartsFrom base used) →
      Derivable (.block room level isGrouped used (rest ++ added) e)

/-- **What is read is read alike with another source after it.** -/
theorem framed_of_derivable {base : Nat} {added : List Item} (seam : Seam base added)
    {j : Judgement} (h : Derivable j) (order : j.items.IsChain Item.Precedes) :
    j.Framed base added := by
  have exchanged : j.Exchanged base [] added :=
    exchanged_of_derivable (outside_nil base) seam.outside h order
  cases j with
  | expression room ctx used rest e => exact exchanged rest (List.append_nil rest).symm
  | extension room ctx lhs used rest e => exact exchanged rest (List.append_nil rest).symm
  | statements room level isGrouped used rest es =>
    refine fun deep => exchanged rest (List.append_nil rest).symm fun hs => ?_
    exact ⟨Nat.le_of_lt (deep hs), seam.outside.leftOf (deep hs)⟩
  | block room level isGrouped used rest e =>
    refine fun deep => exchanged rest (List.append_nil rest).symm fun hs => ?_
    obtain ⟨right, starts⟩ := deep hs
    exact ⟨Nat.le_of_lt right, seam.outside.leftOf right, starts⟩

/-! ### Statements after a source -/

/-- That an expression is derived from its first significant item on, which is no operator. -/
def Judgement.Stripped : Judgement → Prop
  | expression room ctx used rest e => Derivable (.expression room ctx (significant used) rest e) ∧
    ∀ item ∈ (significant used).head?, item.isOperator = false
  | _ => True

/-- An expression whose first item is significant and no operator is derived from there on. -/
theorem Judgement.stripped_of_cons {room : Nat} {ctx : Context} {item : Item}
    {used rest : List Item} {e : Expr} (solid : item.isTrivia = false)
    (operator : item.isOperator = false)
    (h : Derivable (.expression room ctx (item :: used) rest e)) :
    (Judgement.expression room ctx (item :: used) rest e).Stripped := by
  rw [Stripped, significant_cons solid]
  refine ⟨h, ?_⟩
  rintro _ ⟨⟩
  exact operator

theorem stripped_of_derivable {j : Judgement} (h : Derivable j) : j.Stripped := by
  induction h with
  | leadingComment lexeme _ ih =>
    rw [Judgement.Stripped, significant_cons_comment lexeme]
    exact ih
  | leadingNewline lexeme _ _ ih =>
    rw [Judgement.Stripped, significant_cons_newline lexeme]
    exact ih
  | leaf first next =>
    refine Judgement.stripped_of_cons (Item.not_isTrivia_of_leaf first) ?_ (.leaf first next)
    obtain ⟨t, lexeme, leaf⟩ := Item.fits_of_first first
    cases t <;> cases leaf <;> simp [Item.isOperator, lexeme]
  | unit opens closes next =>
    exact Judgement.stripped_of_cons (Item.not_isTrivia_of_lexeme opens (by simp) (by simp))
      (by simp [Item.isOperator, opens]) (.unit opens closes next)
  | group opens content trivia closes next =>
    exact Judgement.stripped_of_cons (Item.not_isTrivia_of_lexeme opens (by simp) (by simp))
      (by simp [Item.isOperator, opens]) (.group opens content trivia closes next)
  | declaration lexeme statement named assigned trivia solid indented content =>
    exact Judgement.stripped_of_cons (Item.not_isTrivia_of_lexeme lexeme (by simp) (by simp))
      (by simp [Item.isOperator, lexeme])
      (.declaration lexeme statement named assigned trivia solid indented content)
  | _ => trivial

/-- That the statements of a source, at the level `base`, go on with those that follow in `added`
after what the source leaves. -/
def Judgement.Continued (base : Nat) (added : List Item) : Judgement → Prop
  | statements room level isGrouped used rest es => level = base → significant rest = [] →
    ∀ {used' rest' : List Item} {es' : List Expr}, added = used' ++ rest' →
      Derivable (.statements room level isGrouped (rest ++ used') rest' es') →
      Derivable (.statements room level isGrouped (used ++ (rest ++ used')) rest' (es ++ es'))
  | _ => True

theorem continued_of_derivable {base : Nat} {added : List Item} (seam : Seam base added)
    {j : Judgement} (h : Derivable j) (order : j.items.IsChain Item.Precedes) :
    j.Continued base added := by
  induction h with
  | finish => exact fun _ _ _ _ _ _ next => next
  | @statement room level isGrouped e es first skipped used₁ used₂ rest trivia solid indented
      content others _ iho =>
    rintro rfl hr used' rest' es' rfl next
    have shape : skipped ++ first :: (used₁ ++ used₂) ++ (rest ++ used') =
        skipped ++ first :: (used₁ ++ (used₂ ++ (rest ++ used'))) := by simp
    have statement := framed_of_derivable seam content (order.suffix Judgement.suffix_statement)
      fun _ _ => ⟨Nat.le_refl _, (startsFrom_cons solid _).2 indented⟩
    rw [shape, List.append_assoc]
    refine .statement trivia solid indented ?_
      (iho (order.suffix Judgement.suffix_others) rfl hr rfl next)
    simpa only [List.append_assoc] using statement
  | _ => trivial

namespace Expr

variable {e : Expr} {es : List Expr}

theorem exists_sequence_eq_block (h : es ≠ []) : ∃ span, e.sequence es = .block span (e :: es) := by
  cases es with
  | nil => exact absurd rfl h
  | cons f fs => exact ⟨_, rfl⟩

/-- A sequence has its first statement and those after it, unless it is a block by itself. -/
theorem statements_sequence (h : es = [] → e.isBlock = false) :
    (e.sequence es).statements = e :: es := by
  cases es with
  | nil => exact statements_of_not_isBlock (h rfl)
  | cons f fs => rfl

/-- A sequence has the statements of its first one and those after it, unless that is a block among
others. -/
theorem statements_sequence_append (h : es ≠ [] → e.isBlock = false) :
    (e.sequence es).statements = e.statements ++ es := by
  cases es with
  | nil => exact (List.append_nil _).symm
  | cons f fs => rw [statements_of_not_isBlock (h (by simp))]; rfl

end Expr

/-- The statements of a second block go on with those of the first one, past a line break. -/
theorem sequence_append {base limit : Nat} {nl : Item}
    {used₁ used₂ rest used₁' used₂' rest' : List Item} {e e' : Expr} {es es' : List Expr}
    (newline : nl.lexeme = .token .newline)
    (order : (used₁ ++ used₂ ++ rest).IsChain Item.Precedes) (trivia : significant rest = [])
    (first : Derivable (.expression limit (.statement base false) used₁ (used₂ ++ rest) e))
    (others : Derivable (.statements limit base false used₂ rest es))
    (starts : StartsFrom base used₁)
    (first' : Derivable (.expression limit (.statement base false) used₁' (used₂' ++ rest') e'))
    (others' : Derivable (.statements limit base false used₂' rest' es'))
    (starts' : ∀ item ∈ (significant used₁').head?, item.column = base) :
    Derivable (.block limit base false (used₁ ++ used₂ ++ (rest ++ nl :: (used₁' ++ used₂'))) rest'
      (e.sequence (es ++ (e'.statements ++ es')))) := by
  obtain ⟨item, tail, begins, start, -⟩ := begins_of_derivable first'
  obtain ⟨stripped, operator⟩ := stripped_of_derivable first'
  rw [begins] at stripped operator starts'
  have column : item.column = base := starts' item rfl
  have seam : Seam base (nl :: (used₁' ++ used₂') ++ rest') := by
    refine ⟨⟨nl, _, rfl, newline⟩, item, tail ++ used₂' ++ rest', ?_, column, operator item rfl⟩
    rw [List.cons_append, significant_cons_newline newline]
    exact significant_append_of_cons (significant_append_of_cons begins used₂') rest'
  -- What is between the blocks is skipped before the first statement of the second one.
  obtain ⟨front, hfront, skipped, -⟩ := split_significant begins
  have between : ∀ i ∈ rest ++ nl :: front, i.isTrivia = true := by
    rw [List.forall_mem_append, List.forall_mem_cons]
    exact ⟨significant_eq_nil_iff.1 trivia, Item.isTrivia_of_newline newline, skipped⟩
  have next : Derivable (.statements limit base false (rest ++ nl :: (used₁' ++ used₂')) rest'
      (e'.statements ++ es')) := by
    have shape : rest ++ nl :: (used₁' ++ used₂') =
        rest ++ nl :: front ++ item :: (tail ++ used₂') := by simp [hfront]
    rw [shape]
    exact .statement between start.not_isTrivia (Nat.le_of_eq column.symm) stripped others'
  have statement := framed_of_derivable seam first (order.suffix Judgement.suffix_block_first)
    fun _ _ => ⟨Nat.le_refl _, starts⟩
  have statements := continued_of_derivable seam others
    (order.suffix Judgement.suffix_block_others) rfl trivia rfl next
  rw [List.append_assoc]
  exact .block (by simpa only [List.append_assoc] using statement) statements

/-- **The statements of two blocks at one level make one block**, with a line break in between,
unless a block is the only statement of the first one or one among others of the second one. -/
theorem block_append {base limit : Nat} {nl : Item} {used rest used' rest' : List Item}
    {t t' : Expr} (newline : nl.lexeme = .token .newline)
    (order : (used ++ rest).IsChain Item.Precedes) (trivia : significant rest = [])
    (h : Derivable (.block limit base false used rest t)) (starts : StartsFrom base used)
    (order' : (used' ++ rest').IsChain Item.Precedes)
    (h' : Derivable (.block limit base false used' rest' t'))
    (starts' : ∀ item ∈ (significant used').head?, item.column = base)
    (plain : t.isBlock = false ∨ ∀ item ∈ (significant used).head?, item.isOpen = false)
    (plain' : ∀ e ∈ t'.statements.head?, e.isBlock = false) :
    ∃ span, Derivable (.block limit base false (used ++ (rest ++ nl :: used')) rest'
      (.block span (t.statements ++ t'.statements))) := by
  cases h with
  | @block _ _ _ e es used₁ used₂ _ first others =>
  cases h' with
  | @block _ _ _ e' es' used₁' used₂' _ first' others' =>
  obtain ⟨item, tail, begins, -, bare⟩ := begins_of_derivable first
  obtain ⟨item', tail', begins', -⟩ := begins_of_derivable first'
  rw [significant_append_of_cons begins] at plain
  rw [significant_append_of_cons begins'] at starts'
  have joined := sequence_append newline order trivia first others (starts.of_expression first)
    first' others' (by rwa [begins'])
  have alone : es = [] → e.isBlock = false := by
    rintro rfl
    exact plain.elim (fun h => h) fun opens => (bare (opens item rfl)).2
  have alone' : es' ≠ [] → e'.isBlock = false := fun hne => by
    obtain ⟨span, hspan⟩ := Expr.exists_sequence_eq_block (e := e') hne
    exact plain' e' (by rw [hspan]; rfl)
  have some : e'.statements ≠ [] := fun none => by
    have yields := (faithful_of_derivable first' (order'.suffix Judgement.suffix_block_first)).1
    rw [← Expr.yieldAll_statements, none] at yields
    exact yields rfl
  have more : es ++ (e'.statements ++ es') ≠ [] := by simp [some]
  obtain ⟨span, hspan⟩ := Expr.exists_sequence_eq_block (e := e) more
  refine ⟨span, ?_⟩
  rw [Expr.statements_sequence alone, Expr.statements_sequence_append alone', List.cons_append,
    ← hspan]
  exact joined

/-! ### Sources -/

/-- Like items in the same columns stay. -/
theorem AlikeItems.stays {f g : SpanMap} {xs ys : List Item} (alike : AlikeItems f g xs ys)
    (columns : xs.map Item.column = ys.map Item.column) :
    List.Forall₂ (Item.Stays f g) xs ys := by
  induction alike with
  | nil => exact .nil
  | cons same _ ih =>
    obtain ⟨first, others⟩ := List.cons.inj columns
    exact .cons ⟨same, first⟩ (ih others)

/-- The statements of some items are read, moved, from items that are moved on by whole lines. -/
theorem derivable_shift_statements {limit base n : Nat} {used₁ used₂ rest ys : List Item} {e : Expr}
    {es : List Expr}
    (first : Derivable (.expression limit (.statement base false) used₁ (used₂ ++ rest) e))
    (others : Derivable (.statements limit base false used₂ rest es))
    (trivia : significant rest = [])
    (alike : AlikeItems (.shift n) .id (used₁ ++ (used₂ ++ rest)) ys)
    (columns : (used₁ ++ (used₂ ++ rest)).map Item.column = ys.map Item.column) :
    ∃ used₁' used₂' rest', ys = used₁' ++ (used₂' ++ rest') ∧ significant rest' = [] ∧
      Derivable (.expression limit (.statement base false) used₁' (used₂' ++ rest') (e.shift n)) ∧
      Derivable (.statements limit base false used₂' rest' (es.map (Expr.shift n))) := by
  obtain ⟨moved, spaced⟩ : Moved (.shift n) .id .failure 0 0 (used₁ ++ (used₂ ++ rest)) ys ∧
      Spaced .failure (used₁ ++ (used₂ ++ rest)) ys :=
    Moved.of_stays (alike.stays columns) (by simp) 0
  have inside : (Layer.block base base).MovedBy 0 := rfl
  have depth : Moved (.shift n) .id .failure 0 (Layer.depth [.block base base])
    (used₁ ++ (used₂ ++ rest)) ys := moved
  have start : (Accord.moved (.shift n) .id .failure 0 (by simp)).At (.block base base) []
      (used₁ ++ (used₂ ++ rest)) ys :=
    ⟨⟨depth, List.forall_mem_singleton.2 inside⟩, depth.abreast spaced inside⟩
  have ih : (Accord.moved (.shift n) .id .failure 0 (by simp)).RunsAgree limit 0 0 limit :=
    Accord.run_agrees limit 0 0 limit
  have run : (expression limit 0 limit).run (.statement base false) (used₁ ++ (used₂ ++ rest)) =
    .ok (.found e, used₂ ++ rest) := run_of_derivable first
  have agrees : Reading.Agrees .failure _ _ _
      ((expression limit 0 limit).run (.statement base false) (used₁ ++ (used₂ ++ rest)))
      ((expression limit 0 limit).run (.statement base false) ys) := ih (.statement 0 false) start
  rw [run] at agrees
  generalize found : (expression limit 0 limit).run _ ys = r at agrees
  cases agrees with
  | early ends => cases ends.1.1
  | @ok _ _ _ left value after =>
  cases value with
  | @found _ e' same =>
  obtain ⟨used₁', rfl, first'⟩ := derivable_of_run limit 0 limit _ _ _ _ found
  obtain ⟨k, room⟩ := Accord.exists_room_of_run run
  have statements : statementsAfter (expression limit 0 limit) base false (used₂ ++ rest) =
    .ok (es, rest) := run_of_derivable others (room ▸ k.succ_pos)
  have agrees : Reading.Agrees .failure _ _ _
      (statementsAfter (expression limit 0 limit) base false (used₂ ++ rest))
      (statementsAfter (expression limit 0 limit) base false left) :=
    Accord.statementsAfter_agrees ih false after.1
  rw [statements] at agrees
  generalize found' : statementsAfter _ base false left = r at agrees
  cases agrees with
  | early ends => exact ends.elim
  | @ok _ es' _ left' all after' =>
  obtain ⟨used₂', rfl, others'⟩ :=
    derivable_of_statementsAfter (derivable_of_run limit 0 limit) found'
  have first_moved : e.shift n = e' := same.trans (Expr.mapSpans_id e')
  have moved : es.map (Expr.shift n) = es' := all.trans (List.map_id'' Expr.mapSpans_id es')
  refine ⟨used₁', used₂', left', rfl, after'.1.significant_eq_nil trivia, ?_, ?_⟩
  · rw [first_moved]
    exact first'
  · rw [moved]
    exact others'

/-- What is read from some items is read, moved, from items that are moved on by whole lines. -/
theorem derivable_shift {limit base n : Nat} {used rest ys : List Item} {t : Expr}
    (h : Derivable (.block limit base false used rest t)) (trivia : significant rest = [])
    (alike : AlikeItems (.shift n) .id (used ++ rest) ys)
    (columns : (used ++ rest).map Item.column = ys.map Item.column) :
    ∃ used' rest', ys = used' ++ rest' ∧ significant rest' = [] ∧
      Derivable (.block limit base false used' rest' (t.shift n)) := by
  cases h with
  | @block _ _ _ e es used₁ used₂ _ first others =>
  rw [List.append_assoc] at alike columns
  obtain ⟨used₁', used₂', rest', rfl, trivia', first', others'⟩ :=
    derivable_shift_statements first others trivia alike columns
  refine ⟨used₁' ++ used₂', rest', by simp, trivia', ?_⟩
  rw [Expr.shift, Expr.mapSpans_sequence]
  exact .block first' others'

/-- A source that begins with an item is derivable as a block at the column of the item. -/
theorem derivable_of_begins {limit sourceEnd : Nat} {xs tail : List Item} {first : Item} {t : Expr}
    (h : parseItems limit sourceEnd xs = .ok t) (begins : significant xs = first :: tail) :
    ∃ used rest, xs = used ++ rest ∧ significant rest = [] ∧
      Derivable (.block limit first.column false used rest t) ∧
      (significant used).head? = some first := by
  have column : firstColumn xs = first.column := by rw [firstColumn, begins]
  rcases derivable_of_parseItems h with ⟨none, -⟩ | ⟨used, rest, rfl, trivia, hd⟩
  · rw [begins] at none
    cases none
  · obtain ⟨item, items, hs, -⟩ := begins_of_derivable hd
    rw [significant_append_of_cons hs] at begins
    rw [column] at hd
    exact ⟨used, rest, rfl, trivia, hd, by rw [hs, (List.cons.inj begins).1]; rfl⟩

/-- The statements of the items `zs` are read after those of `xs` where `zs` are moved on by whole
lines. -/
theorem parseItems_append {limit n sourceEnd end₁ end₂ : Nat} {nl first₁ first₂ : Item}
    {xs ys zs tail₁ tail₂ : List Item} {t₁ t₂ : Expr} (newline : nl.lexeme = .token .newline)
    (order : (xs ++ nl :: ys).IsChain Item.Precedes)
    (h₁ : parseItems limit end₁ xs = .ok t₁) (h₂ : parseItems limit end₂ zs = .ok t₂)
    (alike : AlikeItems (.shift n) .id zs ys) (columns : zs.map Item.column = ys.map Item.column)
    (begins₁ : significant xs = first₁ :: tail₁) (begins₂ : significant zs = first₂ :: tail₂)
    (column : first₁.column = first₂.column) (plain₁ : t₁.isBlock = false ∨ first₁.isOpen = false)
    (plain₂ : ∀ e ∈ t₂.statements.head?, e.isBlock = false) :
    ∃ span, parseItems limit sourceEnd (xs ++ nl :: ys) =
      .ok (.block span (t₁.statements ++ t₂.statements.map (Expr.shift n))) := by
  obtain ⟨used, rest, rfl, trivia, hd, head⟩ := derivable_of_begins h₁ begins₁
  obtain ⟨used₂, rest₂, rfl, trivia₂, hd₂, -⟩ := derivable_of_begins h₂ begins₂
  obtain ⟨used', rest', rfl, trivia', hd'⟩ := derivable_shift hd₂ trivia₂ alike columns
  obtain ⟨item, items, hs, -⟩ := begins_of_derivable hd'
  have moved : first₂.column = item.column :=
    alike.column_eq columns begins₂ (significant_append_of_cons hs rest')
  have plain' : ∀ e ∈ (t₂.shift n).statements.head?, e.isBlock = false := by
    intro e he
    rw [Expr.shift, Expr.statements_mapSpans, List.head?_map] at he
    obtain ⟨e', he', rfl⟩ := Option.map_eq_some_iff.1 he
    rw [Expr.isBlock_mapSpans]
    exact plain₂ e' he'
  rw [← column] at hd'
  obtain ⟨span, joined⟩ := block_append newline order.left_of_append trivia hd
    (fun i hi => by rw [head] at hi; cases hi; exact Nat.le_refl _)
    (order.suffix ⟨used ++ rest ++ [nl], by simp⟩) hd'
    (fun i hi => by rw [hs] at hi; cases hi; rw [column, moved])
    (plain₁.imp_right fun opens i hi => by rw [head] at hi; cases hi; exact opens) plain'
  have shape : used ++ rest ++ nl :: (used' ++ rest') =
      used ++ (rest ++ nl :: used') ++ rest' := by simp
  have start : firstColumn (used ++ rest ++ nl :: (used' ++ rest')) = first₁.column := by
    rw [firstColumn, significant_append_of_cons begins₁]
  rw [← start, Expr.shift, Expr.statements_mapSpans] at joined
  rw [shape] at joined ⊢
  exact ⟨span, parseItems_of_derivable joined trivia'⟩

/-- An item on a later line is moved. -/
theorem Item.Twin.alike_shift {a b : Item} {q : Position} {text : List Char}
    (h : Twin .origin q text a b) : Item.Alike (.shift q.offset) .id a b := by
  have start : b.span.start = a.span.start + q.offset := h.start_eq (Nat.zero_add _).symm
  have length : a.span.length = b.span.length := h.length
  refine ⟨h.lexeme, ?_⟩
  simp only [SpanMap.shift, Span.shift, SpanMap.apply_id]
  rw [← start, length]

/-- The items of a text on later lines are those of the text, moved. -/
theorem alike_itemsFrom {q : Position} (column : q.column = 0) (text : List Char) :
    AlikeItems (.shift q.offset) .id (items text) (itemsFrom q text) ∧
      (items text).map Item.column = (itemsFrom q text).map Item.column := by
  have twins : List.Forall₂ (Item.Twin .origin q text) (items text) (itemsFrom q text) :=
    forall₂_itemsFrom .origin q text
  have columns : List.Forall₂ (· = ·) ((items text).map Item.column)
      ((itemsFrom q text).map Item.column) :=
    List.forall₂_map_left_iff.2 (List.forall₂_map_right_iff.2
      (twins.imp fun a b h => h.column_eq column.symm))
  rw [List.forall₂_eq_eq_eq] at columns
  exact ⟨twins.imp fun a b h => h.alike_shift, columns⟩

/-- **Sources that begin in the same column can be joined.**  If both are read, what they make on
lines one after the other is read as the block of the statements of the first one and those of the
second one, moved by the bytes before it.  It takes that the first source is no block in parens, and
that the second one is no block that begins with another one. -/
theorem parseWithin_append {limit : Nat} {s₁ s₂ : String} {t₁ t₂ : Expr} {first₁ first₂ : Item}
    (h₁ : parseWithin limit s₁ = .ok t₁) (h₂ : parseWithin limit s₂ = .ok t₂)
    (begins₁ : (significant (items s₁.toList)).head? = some first₁)
    (begins₂ : (significant (items s₂.toList)).head? = some first₂)
    (column : first₁.column = first₂.column) (plain₁ : t₁.isBlock = false ∨ first₁.isOpen = false)
    (plain₂ : ∀ span e es, t₂ = .block span (e :: es) → e.isBlock = false) :
    ∃ span, parseWithin limit (s₁ ++ "\n" ++ s₂) =
      .ok (.block span
        (t₁.statements ++ t₂.statements.map (Expr.shift (s₁.utf8ByteSize + 1)))) := by
  obtain ⟨tail₁, begins₁⟩ := List.head?_eq_some_iff.1 begins₁
  obtain ⟨tail₂, begins₂⟩ := List.head?_eq_some_iff.1 begins₂
  have plain : ∀ e ∈ t₂.statements.head?, e.isBlock = false := by
    intro e he
    cases t₂ with
    | block span es =>
      obtain ⟨others, rfl⟩ := List.head?_eq_some_iff.1 he
      exact plain₂ span e others rfl
    | _ => cases he; rfl
  -- The second source begins at `q`, in the first column of a line.
  have tokens : ∀ item ∈ itemsFrom .origin s₁.toList, ∃ t, item.lexeme = .token t :=
    clean_of_parse h₁
  obtain ⟨nl, newline, joined⟩ := itemsFrom_append_newline tokens s₂.toList
  generalize hq : Position.origin.advanceAll (s₁.toList ++ ['\n']) = q at joined
  have line : q.column = 0 := by rw [← hq, Position.advanceAll_append]; rfl
  have offset : q.offset = s₁.utf8ByteSize + 1 := by
    rw [← hq, Position.offset_advanceAll, byteLength_append, byteLength_toList]
    exact Nat.zero_add _
  obtain ⟨alike, columns⟩ := alike_itemsFrom line s₂.toList
  have text : (s₁ ++ "\n" ++ s₂).toList = s₁.toList ++ '\n' :: s₂.toList := by simp
  rw [← items_eq_itemsFrom, ← items_eq_itemsFrom] at joined
  rw [offset] at alike
  rw [parseWithin, text, joined]
  exact parseItems_append newline (joined ▸ isChain_items _) h₁ h₂ alike columns begins₁ begins₂
    column plain₁ plain

/-- `parseWithin_append` for a source that ends inside the value of a declaration. -/
theorem parseWithin_append_declaration : ∃ t₁ t₂ span,
    parseWithin 8 "let x =\n  f (1) // c" = .ok t₁ ∧ parseWithin 8 "\ng x\n  + 2\ny" = .ok t₂ ∧
    parseWithin 8 ("let x =\n  f (1) // c" ++ "\n" ++ "\ng x\n  + 2\ny") =
      .ok (.block span (t₁.statements ++ t₂.statements.map (Expr.shift 21))) := by
  obtain ⟨t₁, h₁, plain₁⟩ := exists_of_any (x := parseWithin 8 "let x =\n  f (1) // c")
    (p := fun t => !t.isBlock) (by decide +kernel)
  obtain ⟨t₂, h₂, plain₂⟩ := exists_of_any (x := parseWithin 8 "\ng x\n  + 2\ny")
    (p := fun t => t.statements.all fun e => !e.isBlock) (by decide +kernel)
  have begins₁ : (significant (items "let x =\n  f (1) // c".toList)).head? =
    some ⟨.token (.keyword .mutable), ⟨0, 1, 0⟩, 3⟩ := by decide +kernel
  have begins₂ : (significant (items "\ng x\n  + 2\ny".toList)).head? =
    some ⟨.token (.name "g"), ⟨1, 2, 0⟩, 1⟩ := by decide +kernel
  obtain ⟨span, joined⟩ := parseWithin_append h₁ h₂ begins₁ begins₂ rfl
    (.inl (by simpa using plain₁)) (by rintro span e es rfl; simp_all [Expr.statements])
  exact ⟨t₁, t₂, span, h₁, h₂, joined⟩

end Offside
