import Offside.Proofs.Derivation

/-!
# From runs to derivations

Whatever a run of the parser finds is derivable (`derivable_of_run`), and so is what the statements
of a whole source make (`derivable_of_parse`).  A run that finds nothing stands before the end of
the items or of its construct (`significant_of_exhausted`, `significant_of_closed`).
-/

namespace Offside

/-! ### Runs that find nothing -/

section Runs

variable {inner : ExprParser} {limit sourceEnd room : Nat}

theorem Reading.exists_of_found {r : Reading Expr} {o : Outcome} {rest : List Item}
    (h : r.found = .ok (o, rest)) : ∃ e, o = .found e := by
  rcases r with err | ⟨e, rest'⟩
  · cases h
  · exact ⟨e, (Prod.mk.inj (Except.ok.inj h)).1.symm⟩

/-- A term ends with the source only past the last significant item. -/
theorem significant_of_exhausted {ctx : Context} {items rest : List Item}
    (h : term inner sourceEnd ctx items = .ok (.exhausted, rest)) :
    significant items = [] ∧ rest = [] := by
  fun_induction term inner sourceEnd ctx items with
  | case1 => exact ⟨rfl, (Prod.mk.inj (Except.ok.inj h)).2.symm⟩
  | case2 item items hf ih =>
    rw [significant_cons_comment (Item.fits_of_first hf)]
    exact ih h
  | case4 item items hf hd ih =>
    rw [significant_cons_newline (Item.fits_of_first hf)]
    exact ih h
  | case5 | case6 | case8 =>
    obtain ⟨e, he⟩ := Reading.exists_of_found h
    cases he
  | case3 | case7 | case9 | case10 | case11 | case12 => cases h

/-- A term is closed before an item that is indented too little or closes a group. -/
theorem significant_of_closed {ctx : Context} {items rest : List Item}
    (h : term inner sourceEnd ctx items = .ok (.closed, rest)) :
    significant rest = significant items ∧ ∃ item tail, significant items = item :: tail ∧
      (item.column < ctx.level ∨ ctx.isGrouped = true ∧ item.isClose = true) := by
  fun_induction term inner sourceEnd ctx items with
  | case2 item items hf ih =>
    rw [significant_cons_comment (Item.fits_of_first hf)]
    exact ih h
  | case3 item items hf hd =>
    obtain rfl := (Prod.mk.inj (Except.ok.inj h)).2
    refine ⟨rfl, ?_⟩
    rw [significant_cons_newline (Item.fits_of_first hf)]
    unfold Context.dedents at hd
    split at hd
    · cases hd
    · next next tail hs => exact ⟨next, tail, hs, .inl (of_decide_eq_true hd)⟩
  | case4 item items hf hd ih =>
    rw [significant_cons_newline (Item.fits_of_first hf)]
    exact ih h
  | case10 item items hf hg =>
    obtain rfl := (Prod.mk.inj (Except.ok.inj h)).2
    have hl := Item.fits_of_first hf
    refine ⟨rfl, item, items, significant_cons ?_ items, .inr ⟨hg, ?_⟩⟩
    · exact Item.not_isTrivia_of_lexeme hl (by simp) (by simp)
    · exact Item.isClose_of_closing hl
  | case5 | case6 | case8 =>
    obtain ⟨e, he⟩ := Reading.exists_of_found h
    cases he
  | case1 | case7 | case9 | case11 | case12 => cases h

theorem term_of_trivia {ctx : Context} {items : List Item} (h : significant items = []) :
    term inner sourceEnd ctx items = .ok (.exhausted, []) := by
  induction items with
  | nil => rfl
  | cons item items ih =>
    rw [significant_eq_nil_iff, List.forall_mem_cons] at h
    have hs : significant items = [] := significant_eq_nil_iff.2 h.2
    have lexeme : item.lexeme = .token .comment ∨ item.lexeme = .token .newline := by
      simpa [Item.isTrivia, Item.isNewline] using h.1
    rcases lexeme with hl | hl
    · rw [term, show item.first = .comment by simp [Item.first, hl]]
      exact ih hs
    · rw [term, show item.first = .newline by simp [Item.first, hl]]
      simp [Context.dedents, hs, ih hs]

theorem block_of_trivia {level : Nat} {isGrouped : Bool} {items : List Item}
    (h : significant items = []) :
    block (expression limit sourceEnd (room + 1)) level isGrouped items =
      .ok (.exhausted, []) := by
  rw [block, expression_succ, term_of_trivia h]

/-! ### Runs that find an expression -/

/-- Whatever the expressions of this room are, they are derivable. -/
def Sound (limit sourceEnd room : Nat) : Prop :=
  ∀ ctx items rest e, (expression limit sourceEnd room).run ctx items = .ok (.found e, rest) →
    ∃ used, items = used ++ rest ∧ Derivable (.expression room ctx used rest e)

theorem derivable_of_extend (ih : Sound limit sourceEnd room) {ctx : Context} {lhs e : Expr}
    {items rest : List Item}
    (h : extend (expression limit sourceEnd room) ctx lhs items = .ok (e, rest)) :
    ∃ used, items = used ++ rest ∧ Derivable (.extension room ctx lhs used rest e) := by
  fun_induction extend (expression limit sourceEnd room) ctx lhs items with
  | case1 => cases h; exact ⟨[], rfl, .stop rfl⟩
  | case2 lhs item items hf ih' =>
    obtain ⟨used, rfl, hd⟩ := ih' h
    exact ⟨item :: used, rfl, .comment (Item.fits_of_follow hf) hd⟩
  | case3 lhs item items hf hc ih' =>
    obtain ⟨used, rfl, hd⟩ := ih' h
    exact ⟨item :: used, rfl, .continuation (Item.fits_of_follow hf) hc hd⟩
  | case4 lhs item items hf hc =>
    cases h
    exact ⟨[], rfl, .stop (by simp [Context.stops, hf, hc])⟩
  | case5 lhs item items op hf hop rhs next hr ih' =>
    obtain ⟨used₂, rfl, hd⟩ := ih' h
    obtain ⟨used₁, rfl, hright⟩ := ih _ _ _ _ (Reading.required_eq_ok hr)
    obtain ⟨hop', hl⟩ := Item.fits_of_follow hf
    rw [hop'] at hop hright hd
    exact ⟨item :: (used₁ ++ used₂), by simp, .operator hl hop hright hd⟩
  | case7 lhs item items op hf hop =>
    cases h
    exact ⟨[], rfl, .stop (by simp [Context.stops, hf, hop])⟩
  | case8 lhs item items hf ha rhs next hr ih' =>
    obtain ⟨used₂, rfl, hd⟩ := ih' h
    -- The argument takes at least the item that it begins with.
    have lt := (expression limit sourceEnd room).shrinks (Reading.required_eq_ok hr)
    obtain ⟨used₁, hu, hright⟩ := ih _ _ _ _ (Reading.required_eq_ok hr)
    cases used₁ with
    | nil => rw [hu] at lt; exact absurd lt (Nat.lt_irrefl _)
    | cons first used₁ =>
      obtain ⟨rfl, rfl⟩ := List.cons.inj hu
      exact ⟨item :: (used₁ ++ used₂), by simp, .argument hf ha hright hd⟩
  | case10 lhs item items hf ha =>
    cases h
    exact ⟨[], rfl, .stop (by simp [Context.stops, hf, ha])⟩
  | case11 lhs item items hf =>
    cases h
    exact ⟨[], rfl, .stop (by simp [Context.stops, hf])⟩
  | case6 | case9 | case12 => cases h

theorem derivable_of_statementsAfter (ih : Sound limit sourceEnd room) {level : Nat}
    {isGrouped : Bool} {items rest : List Item} {es : List Expr}
    (h : statementsAfter (expression limit sourceEnd room) level isGrouped items =
      .ok (es, rest)) :
    ∃ used, items = used ++ rest ∧
      Derivable (.statements room level isGrouped used rest es) := by
  fun_induction statementsAfter (expression limit sourceEnd room) level isGrouped items
    generalizing es with
  | case1 items hs => cases h; exact ⟨[], rfl, .finish (by simp [blockEnds, hs])⟩
  | case2 items item tail hs hc => cases h; exact ⟨[], rfl, .finish (by simp [blockEnds, hs, hc])⟩
  | case3 items item tail hs hc e next hr others last hl ih' =>
    cases h
    obtain ⟨used₂, rfl, hothers⟩ := ih' hl
    have lt := (expression limit sourceEnd room).shrinks hr
    obtain ⟨used₁, hu, hfirst⟩ := ih _ _ _ _ hr
    obtain ⟨skipped, rfl, htrivia, -⟩ := split_significant hs
    cases used₁ with
    | nil => rw [hu] at lt; exact absurd lt (Nat.lt_irrefl _)
    | cons first used₁ =>
      obtain ⟨rfl, rfl⟩ := List.cons.inj hu
      exact ⟨skipped ++ item :: (used₁ ++ used₂), by simp,
        .statement htrivia (isTrivia_of_significant hs) (Nat.le_of_not_lt hc) hfirst hothers⟩
  | case5 items item tail hs hc o next hne hr =>
    -- No statement is found at `item`, so it is one that the block ends before.
    cases h
    refine ⟨[], rfl, .finish ?_⟩
    cases room with
    | zero => cases hr
    | succ room =>
      rw [expression_succ] at hr
      have solid := significant_cons (isTrivia_of_significant hs) tail
      cases o with
      | found e => exact absurd rfl (hne e)
      | exhausted =>
        rw [(significant_of_exhausted hr).1] at solid
        cases solid
      | closed =>
        obtain ⟨-, item', tail', hs', hend⟩ := significant_of_closed hr
        obtain ⟨rfl, rfl⟩ := List.cons.inj (solid.symm.trans hs')
        rcases hend with hlt | ⟨hg, hclose⟩
        · exact absurd hlt hc
        · have hg : isGrouped = true := hg
          simp [blockEnds, hs, hg, hclose]
  | case4 | case6 => cases h

theorem derivable_of_block (ih : Sound limit sourceEnd room) {level : Nat} {isGrouped : Bool}
    {items rest : List Item} {e : Expr}
    (h : block (expression limit sourceEnd room) level isGrouped items =
      .ok (.found e, rest)) :
    ∃ used, items = used ++ rest ∧ Derivable (.block room level isGrouped used rest e) := by
  unfold block at h
  split at h
  · next first next hr =>
    split at h
    · next es last hl =>
      cases h
      obtain ⟨used₂, rfl, hothers⟩ := derivable_of_statementsAfter ih hl
      obtain ⟨used₁, rfl, hfirst⟩ := ih _ _ _ _ hr
      exact ⟨used₁ ++ used₂, by simp, .block hfirst hothers⟩
    · cases h
  · next hne => exact absurd h (hne e rest)

theorem split_closeGroup {opener : Item} {e inner : Expr} {items rest : List Item}
    (h : closeGroup opener e items = .ok (inner, rest)) :
    inner = e ∧ ∃ skipped close, items = skipped ++ close :: rest ∧
      (∀ i ∈ skipped, i.isTrivia = true) ∧ close.lexeme = .token (.closing .round) := by
  unfold closeGroup at h
  split at h
  · cases h
  · next close tail hs =>
    split at h <;> cases h
    obtain ⟨skipped, rfl, htrivia, -⟩ := split_significant hs
    exact ⟨rfl, skipped, close, rfl, htrivia, by assumption⟩

/-- A group begins with the paren that closes it or holds a block. -/
theorem derivable_of_group (ih : Sound limit sourceEnd room) {opener : Item} {e : Expr}
    {items rest : List Item}
    (h : group (expression limit sourceEnd room) opener items = .ok (e, rest)) :
    (∃ close, items = close :: rest ∧ close.lexeme = .token (.closing .round) ∧
      e = .unit (opener.span.through close.span)) ∨
    ∃ body skipped close, items = body ++ (skipped ++ close :: rest) ∧
      (∀ i ∈ skipped, i.isTrivia = true) ∧ close.lexeme = .token (.closing .round) ∧
      Derivable (.block room 0 true body (skipped ++ close :: rest) e) := by
  unfold group at h
  split at h
  · cases h
  · next close tail =>
    split at h
    · cases h
      exact .inl ⟨close, rfl, by assumption, rfl⟩
    · unfold groupBody at h
      split at h
      · next inner next hb =>
        obtain ⟨rfl, skipped, close, rfl, htrivia, hclose⟩ := split_closeGroup h
        obtain ⟨body, hbody, hd⟩ := derivable_of_block ih hb
        exact .inr ⟨body, skipped, close, hbody, htrivia, hclose, hd⟩
      all_goals cases h
    · cases h

theorem split_expect {α : Type} {accept : Token → Option α} {problem : Problem} {a : α}
    {span : Span} {items rest : List Item}
    (h : expect sourceEnd accept problem items = .ok ((a, span), rest)) :
    ∃ item t, items = item :: rest ∧ item.lexeme = .token t ∧ accept t = some a ∧
      span = item.span := by
  unfold expect at h
  split at h
  · cases h
  · next item items =>
    split at h
    · next t ht =>
      split at h <;> cases h
      exact ⟨item, t, rfl, ht, by assumption, rfl⟩
    · cases h

theorem declaredName?_eq_some {t : Token} {name : String} (h : declaredName? t = some name) :
    t = .name name := by
  unfold declaredName? at h
  split at h <;> cases h
  rfl

theorem assignment?_eq_some {t : Token} (h : assignment? t = some ()) : t = .operator "=" := by
  unfold assignment? at h
  split at h
  · split at h <;> cases h
    next hs => rw [hs]
  · cases h

/-- The value of a declaration stands past some trivia and begins with its first item. -/
theorem split_initializer (ih : Sound limit sourceEnd room) {level : Nat} {isGrouped : Bool}
    {assignment : Span} {items rest : List Item} {value : Expr}
    (h : initializer (expression limit sourceEnd room) level isGrouped assignment items =
      .ok (value, rest)) :
    ∃ skipped first used, items = skipped ++ first :: (used ++ rest) ∧
      (∀ i ∈ skipped, i.isTrivia = true) ∧ first.isTrivia = false ∧
      (skipped.any Item.isNewline = true → level < first.column) ∧
      Derivable (.block room first.column isGrouped (first :: used) rest value) := by
  unfold initializer at h
  split at h
  · next hs =>
    have hb := Reading.required_eq_ok h
    cases room with
    | zero => cases hb
    | succ room => rw [block_of_trivia hs] at hb; cases hb
  · next first tail hs =>
    split at h
    · cases h
    next hi =>
    have hb := Reading.required_eq_ok h
    have lt := block_length_lt hb
    obtain ⟨used, hu, hd⟩ := derivable_of_block ih hb
    obtain ⟨skipped, rfl, htrivia, hcross⟩ := split_significant hs
    cases used with
    | nil => rw [hu] at lt; exact absurd lt (Nat.lt_irrefl _)
    | cons first' used =>
      obtain ⟨rfl, rfl⟩ := List.cons.inj hu
      refine ⟨skipped, first, used, rfl, htrivia, isTrivia_of_significant hs, fun hn => ?_, hd⟩
      rw [hcross, hn, Bool.true_and, decide_eq_true_eq] at hi
      exact Nat.lt_of_not_le hi

theorem derivable_of_declaration (ih : Sound limit sourceEnd room) {ctx : Context}
    {word : Keyword} {item : Item} {items rest : List Item} {e : Expr}
    (hword : item.lexeme = .token (.keyword word)) (hs : ctx.isStatement = true)
    (h : declaration (expression limit sourceEnd room) sourceEnd word ctx.isGrouped item items =
      .ok (e, rest)) :
    ∃ used, items = used ++ rest ∧
      Derivable (.expression (room + 1) ctx (item :: used) rest e) := by
  unfold declaration at h
  split at h
  · cases h
  next hn =>
  split at h
  · cases h
  next ha =>
  split at h
  · cases h
  next hi =>
  cases h
  obtain ⟨bound, t, rfl, hbound, hname, rfl⟩ := split_expect hn
  obtain ⟨sign, t', rfl, hsign, hassign, rfl⟩ := split_expect ha
  obtain ⟨skipped, first, used, rfl, htrivia, hsolid, hindent, hd⟩ := split_initializer ih hi
  rw [declaredName?_eq_some hname] at hbound
  rw [assignment?_eq_some hassign] at hsign
  exact ⟨bound :: sign :: (skipped ++ first :: used), by simp,
    .declaration hword hs hbound hsign htrivia hsolid hindent hd⟩

theorem derivable_of_term (ih : Sound limit sourceEnd room) {ctx : Context}
    {items rest : List Item} {e : Expr}
    (h : term (expression limit sourceEnd room) sourceEnd ctx items = .ok (.found e, rest)) :
    ∃ used, items = used ++ rest ∧ Derivable (.expression (room + 1) ctx used rest e) := by
  fun_induction term (expression limit sourceEnd room) sourceEnd ctx items with
  | case2 item items hf ih' =>
    obtain ⟨used, rfl, hd⟩ := ih' h
    exact ⟨item :: used, rfl, .leadingComment (Item.fits_of_first hf) hd⟩
  | case4 item items hf hdedent ih' =>
    obtain ⟨used, rfl, hd⟩ := ih' h
    exact ⟨item :: used, rfl, .leadingNewline (Item.fits_of_first hf)
      (Bool.eq_false_iff.2 hdedent) hd⟩
  | case5 item items lhs hf =>
    obtain ⟨used, rfl, hd⟩ := derivable_of_extend ih (Reading.found_eq_ok h)
    exact ⟨item :: used, rfl, .leaf hf hd⟩
  | case6 item items word hf hs =>
    obtain ⟨used, rfl, hd⟩ := derivable_of_declaration ih (Item.fits_of_first hf) hs
      (Reading.found_eq_ok h)
    exact ⟨item :: used, rfl, hd⟩
  | case8 item items hf lhs next hg =>
    obtain ⟨used, rfl, hd⟩ := derivable_of_extend ih (Reading.found_eq_ok h)
    have hopen := Item.fits_of_first hf
    rcases derivable_of_group ih hg with ⟨close, rfl, hclose, rfl⟩ |
        ⟨body, skipped, close, rfl, htrivia, hclose, hbody⟩
    · exact ⟨item :: close :: used, rfl, .unit hopen hclose hd⟩
    · exact ⟨item :: (body ++ (skipped ++ close :: used)), by simp,
        .group hopen hbody htrivia hclose hd⟩
  | case1 | case3 | case7 | case9 | case10 | case11 | case12 => cases h

/-- **Every expression that is read is derivable.** -/
theorem derivable_of_run (limit sourceEnd room : Nat) : Sound limit sourceEnd room := by
  induction room with
  | zero => exact fun ctx items rest e h => by cases h
  | succ room ih => exact fun ctx items rest e h => derivable_of_term ih h

end Runs

/-! ### Whole sources -/

theorem significant_of_leftover? {rest : List Item} (h : leftover? rest = none) :
    significant rest = [] := by
  unfold leftover? at h
  split at h
  · assumption
  · split at h <;> cases h

/-- An expression that is not found stands before an item that its construct ends at, or the
end. -/
theorem significant_of_run {limit sourceEnd room : Nat} {ctx : Context} {items rest : List Item}
    {o : Outcome} (h : (expression limit sourceEnd room).run ctx items = .ok (o, rest)) :
    (∃ e, o = .found e) ∨ significant rest = significant items := by
  cases room with
  | zero => cases h
  | succ room =>
    rw [expression_succ] at h
    cases o with
    | found e => exact .inl ⟨e, rfl⟩
    | exhausted =>
      obtain ⟨hs, rfl⟩ := significant_of_exhausted h
      exact .inr hs.symm
    | closed => exact .inr (significant_of_closed h).1

/-- A block that is not found stands there, too. -/
theorem significant_of_block {limit sourceEnd room level : Nat} {isGrouped : Bool}
    {items rest : List Item} {o : Outcome}
    (h : block (expression limit sourceEnd room) level isGrouped items = .ok (o, rest)) :
    (∃ e, o = .found e) ∨ significant rest = significant items := by
  unfold block at h
  split at h
  · split at h <;> cases h
    exact .inl ⟨_, rfl⟩
  · exact significant_of_run h

/-- **A source that is read has only trivia, or is derivable as a block** at the column of its
first item, with nothing but trivia after it. -/
theorem derivable_of_parseItems {limit sourceEnd : Nat} {items : List Item} {e : Expr}
    (h : parseItems limit sourceEnd items = .ok e) :
    (significant items = [] ∧ e = .block (.emptyAt 0) []) ∨
    ∃ used rest, items = used ++ rest ∧ significant rest = [] ∧
      Derivable (.block limit (firstColumn items) false used rest e) := by
  unfold parseItems at h
  split at h
  · cases h
  next outcome rest hb =>
  split at h
  · cases h
  next hrest =>
  have hs := significant_of_leftover? hrest
  rcases significant_of_block hb with ⟨found, rfl⟩ | hnone
  · cases h
    obtain ⟨used, hu, hd⟩ := derivable_of_block (derivable_of_run limit sourceEnd limit) hb
    exact .inr ⟨used, rest, hu, hs, hd⟩
  · rw [hs] at hnone
    split at h
    · cases h
      obtain ⟨used, hu, hd⟩ := derivable_of_block (derivable_of_run limit sourceEnd limit) hb
      exact .inr ⟨used, rest, hu, hs, hd⟩
    · cases h
      exact .inl ⟨hnone.symm, rfl⟩

/-- `derivable_of_parseItems` for the text of a source. -/
theorem derivable_of_parse {limit : Nat} {source : String} {e : Expr}
    (h : parseWithin limit source = .ok e) :
    (significant (items source.toList) = [] ∧ e = .block (.emptyAt 0) []) ∨
    ∃ used rest, items source.toList = used ++ rest ∧ significant rest = [] ∧
      Derivable (.block limit (firstColumn (items source.toList)) false used rest e) :=
  derivable_of_parseItems h

/-- All items of a source that is read are tokens. -/
theorem clean_of_parse {limit : Nat} {source : String} {e : Expr}
    (h : parseWithin limit source = .ok e) : Clean (items source.toList) := by
  rcases derivable_of_parse h with ⟨hs, -⟩ | ⟨used, rest, hu, hrest, hd⟩
  · exact clean_of_trivia (significant_eq_nil_iff.1 hs)
  · rw [hu]
    exact (clean_of_derivable hd).append (clean_of_trivia (significant_eq_nil_iff.1 hrest))

theorem exists_of_any {ε α : Type} {x : Except ε α} {p : α → Bool}
    (h : x.toOption.any p = true) : ∃ a, x = .ok a ∧ p a = true := by
  cases x with
  | error => cases h
  | ok a => exact ⟨a, rfl, h⟩

theorem exists_of_error {ε α : Type} {x : Except ε α} {p : ε → Bool}
    (h : (match x with | .error e => p e | .ok _ => false) = true) :
    ∃ e, x = .error e ∧ p e = true := by
  cases x with
  | error e => exact ⟨e, rfl, h⟩
  | ok => cases h

end Offside
