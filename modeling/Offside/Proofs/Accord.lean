import Offside.Proofs.Abreast
import Offside.Proofs.Parens
import Offside.Proofs.Runs

/-!
# Runs in accord

Two runs of the parser go the same way over lists that need not have as many comments and line
breaks, nor in the same columns, as long as the columns lead to the same decisions.  An `Accord` is
a relation between what two runs have left, in the blocks that they are in, that shows this and is
kept up by every step.  Then the parts of the parser agree on related lists (`Accord.run_agrees`,
`Accord.extend_agrees`, `Accord.block_agrees`), and so do whole sources
(`Accord.parseItems_agrees`).

Only at a lexical error may one run be ahead of the other: where a statement in a group ends before
a line break and the lexical error after it stands at the level of the group, the other run may have
run into the error already.  The group fails for it in both runs.
-/

namespace Offside

/-! ### The relation -/

/-- That the first significant items of two lists, which begin with them, are alike and both left of
the block `p` or neither. -/
inductive Fronts (f g : SpanMap) (d : Detail) (p : Layer) : List Item → List Item → Prop
  /-- There is none. -/
  | nil : Fronts f g d p [] []
  /-- Both lists have one. -/
  | cons {x y : Item} {tx ty : List Item} (alike : Item.Alike f g x y)
    (left : x.column < p.left ↔ y.column < p.right)
    (place : d = .texts → x.isOpen = true →
      x.position.line = y.position.line ∧ x.position.column = y.position.column) :
    Fronts f g d p (x :: tx) (y :: ty)

theorem Fronts.eq_nil_iff {f g : SpanMap} {d : Detail} {p : Layer} {us vs : List Item}
    (h : Fronts f g d p us vs) : us = [] ↔ vs = [] := by
  cases h <;> simp

/-- A relation between what two runs of the parser have left, in the blocks that they are in; of
errors, so much is to agree. -/
structure Accord (f g : SpanMap) (d : Detail) where
  /-- The relation, of the blocks from the inside out and the items left. -/
  rel : List Layer → List Item → List Item → Prop
  /-- It does not depend on the trivia in front. -/
  trivia : ∀ {ps xs ys xs' ys'}, rel ps xs ys → significant xs' = significant xs →
    significant ys' = significant ys → rel ps xs' ys'
  /-- The next significant items are alike. -/
  fronts : ∀ {p ps xs ys}, rel (p :: ps) xs ys →
    Fronts f g d p (significant xs) (significant ys)
  /-- It holds in a block that begins at the next significant items. -/
  enter : ∀ {ps xs ys x y tx ty}, rel ps xs ys → significant xs = x :: tx →
    significant ys = y :: ty → rel (.block x.column y.column :: ps) xs ys
  /-- It holds past a block. -/
  leave : ∀ {l m ps xs ys}, rel (.block l m :: ps) xs ys → rel ps xs ys
  /-- Past the next tokens it holds again, and the trivia there are alike. -/
  step : ∀ {ps q qs xs ys x y tx ty t}, rel ps xs ys → significant xs = x :: tx →
    significant ys = y :: ty → x.lexeme = .token t → Layer.Past x ps (q :: qs) →
    rel (q :: qs) tx ty ∧ Abreast d q tx ty

namespace Accord

variable {f g : SpanMap} {d : Detail} {p : Layer} {ps : List Layer}
  {limit end₁ end₂ room : Nat} {xs ys us vs tx ty : List Item} {x y : Item} {ctx : Context}

section

variable (A : Accord f g d)

/-- That two lists are in accord at the same place. -/
structure At (p : Layer) (ps : List Layer) (xs ys : List Item) : Prop where
  /-- They are related. -/
  rel : A.rel (p :: ps) xs ys
  /-- Their trivia in front are alike. -/
  abreast : Abreast d p xs ys

/-- What two runs leave past an expression: related lists, at the same place unless a statement ends
there. -/
def Left (ctx : Context) (p : Layer) (ps : List Layer) (us vs : List Item) : Prop :=
  A.rel (p :: ps) us vs ∧ (ctx.isStatement = false → Abreast d p us vs)

/-- Where one run may stop before a lexical error that the other one runs into. -/
def Early (ctx : Context) (p : Layer) : Prop := p = .group ∧ ctx.isStatement = true

/-- That expressions of some room are read so that they agree. -/
def RunsAgree (limit end₁ end₂ room : Nat) : Prop :=
  ∀ (ctx : Context) {p : Layer} {ps : List Layer} {xs ys : List Item}, A.At p ps xs ys →
    Reading.Agrees d (Outcome.Like f g) (A.Left ctx p ps) (FoundIf (Early ctx p))
      ((expression limit end₁ room).run (ctx.at p.left) xs)
      ((expression limit end₂ room).run (ctx.at p.right) ys)

end

variable {A : Accord f g d}

theorem At.left (h : A.At p ps xs ys) : A.Left ctx p ps xs ys := ⟨h.rel, fun _ => h.abreast⟩

/-- Past the trivia in front, related lists are at the same place. -/
theorem At.of_rel (h : A.rel (p :: ps) xs ys) : A.At p ps (significant xs) (significant ys) := by
  refine ⟨A.trivia h (significant_significant xs) (significant_significant ys), ?_⟩
  have fronts := A.fronts h
  generalize hx : significant xs = us at fronts
  generalize hy : significant ys = vs at fronts
  cases fronts with
  | nil => exact .nil
  | cons => exact .cons (isTrivia_of_significant hx) (isTrivia_of_significant hy)

/-- From the line breaks on, lists are at the same place. -/
theorem At.onward (h : A.At p ps xs ys) (crosses : crossesLine xs = true) :
    A.At p ps (fromLine xs) (fromLine ys) := by
  obtain ⟨nl, tx, hx, -, same⟩ := fromLine_eq_cons crosses
  obtain ⟨nl', ty, hy, -, same'⟩ := fromLine_eq_cons (h.abreast.crosses ▸ crosses)
  exact ⟨A.trivia h.rel (hx ▸ same) (hy ▸ same'), h.abreast.fromLine crosses⟩

/-- Past a token that is no paren, lists are at the same place. -/
theorem At.step {t : Token} (h : A.rel (p :: ps) (x :: tx) (y :: ty)) (hx : x.isTrivia = false)
    (hy : y.isTrivia = false) (lexeme : x.lexeme = .token t) (plain : x.isParen = false) :
    A.At p ps tx ty := by
  obtain ⟨rel, abreast⟩ := A.step h (significant_cons hx tx) (significant_cons hy ty) lexeme
    (.plain plain)
  exact ⟨rel, abreast⟩

/-! ### Expressions -/

/-- Past a line break both statements go on, or neither does, or what is next ends them anyhow. -/
theorem At.continues_cases (ctx : Context) (h : A.At p ps xs ys)
    (crosses : crossesLine xs = true) :
    (ctx.at p.left).continues xs = (ctx.at p.right).continues ys ∨
      Early ctx p ∧ ∃ x y tx ty, significant xs = x :: tx ∧ significant ys = y :: ty ∧
        Item.Alike f g x y ∧ (x.isClose = true ∨
          (ctx.at p.left).continues xs = false ∧ ∃ c, x.lexeme = .error c) := by
  have fronts := A.fronts h.rel
  generalize hx : significant xs = us at fronts
  generalize hy : significant ys = vs at fronts
  cases fronts with
  | nil =>
    left
    rw [Context.continues, Context.continues, hx, hy]
    rfl
  | @cons x y tx ty alike left place =>
    by_cases statement : ctx.isStatement = true
    · have same : (p.left < x.column ↔ p.right < y.column) →
          (ctx.at p.left).continues xs = (ctx.at p.right).continues ys := by
        intro right
        have level : x.column = p.left ↔ y.column = p.right := by omega
        rw [Bool.eq_iff_iff, Context.continues_iff hx, Context.continues_iff hy]
        simp only [Context.at, right, level, alike.isOperator]
      have places := h.abreast.places crosses hx hy
      cases p with
      | block l m => exact .inl (same places)
      | group =>
        rcases places with right | close | ⟨flush, c, lexeme⟩
        · exact .inl (same right)
        · exact .inr ⟨⟨rfl, statement⟩, x, y, tx, ty, rfl, rfl, alike, .inl close⟩
        · refine .inr ⟨⟨rfl, statement⟩, x, y, tx, ty, rfl, rfl, alike, .inr ⟨?_, c, lexeme⟩⟩
          simp [Context.continues, hx, flush, Context.at, Layer.left, Item.isOperator, lexeme]
    · left
      simp [Context.continues, Context.at, statement]

/-- Operands are read so that they agree. -/
theorem operand_agrees (ih : A.RunsAgree limit end₁ end₂ room) (ctx : Context) (binding : Binding)
    (h : A.At p ps xs ys) (span span' : Span) (what : Expectation) :
    Reading.Agrees d (Expr.Alike f g) (A.At p ps) Never
      (((expression limit end₁ room).run ((ctx.at p.left).operand binding) xs).required span what)
      (((expression limit end₂ room).run ((ctx.at p.right).operand binding) ys).required span'
        what) := by
  rw [Context.operand_at, Context.operand_at]
  refine Reading.Agrees.required ?_ span span' what
  exact (ih (ctx.operand binding) h).mono (fun rest => ⟨rest.1, rest.2 rfl⟩)
    fun ends => by cases ends.1.2

/-- Like expressions go on so that they agree, where significant items are next. -/
theorem extend_agrees_of_fronts (ih : A.RunsAgree limit end₁ end₂ room) (ctx : Context)
    {lhs lhs' : Expr} (hlhs : lhs.Alike f g lhs') (h : A.At p ps us vs)
    (fronts : Fronts f g d p us vs) (hu : significant us = us) (hv : significant vs = vs)
    (step : ∀ {us' vs' : List Item} {lhs lhs' : Expr}, us'.length < us.length →
      lhs.Alike f g lhs' → A.At p ps us' vs' →
      Reading.Agrees d (Expr.Alike f g) (A.Left ctx p ps) (fun _ => Early ctx p)
        (extend (expression limit end₁ room) (ctx.at p.left) lhs us')
        (extend (expression limit end₂ room) (ctx.at p.right) lhs' vs')) :
    Reading.Agrees d (Expr.Alike f g) (A.Left ctx p ps) (fun _ => Early ctx p)
      (extend (expression limit end₁ room) (ctx.at p.left) lhs us)
      (extend (expression limit end₂ room) (ctx.at p.right) lhs' vs) := by
  cases fronts with
  | nil =>
    rw [extend_nil, extend_nil]
    exact .ok hlhs h.left
  | @cons x y tx ty alike left place =>
    have hx : x.isTrivia = false := isTrivia_of_significant hu
    have hy : y.isTrivia = false := isTrivia_of_significant hv
    have follow := alike.follow
    cases hf : x.follow with
    | comment =>
      rw [Item.isTrivia_of_comment (Item.fits_of_follow hf)] at hx
      cases hx
    | newline =>
      rw [Item.isTrivia_of_newline (Item.fits_of_follow hf)] at hx
      cases hx
    | operator op =>
      rw [extend_operator hf, extend_operator (follow ▸ hf)]
      by_cases accepted : ctx.accepts op.binding = true
      · rw [if_pos ((Context.accepts_at_iff p.left).2 accepted),
          if_pos ((Context.accepts_at_iff p.right).2 accepted)]
        have lexeme := (Item.fits_of_follow hf).2
        have plain := Item.not_isParen_of_lexeme lexeme (by simp) (by simp)
        have right := operand_agrees ih ctx op.binding (.step h.rel hx hy lexeme plain) x.span
          y.span (.operand op.symbol)
        generalize hr : Reading.required x.span _ _ = r at right ⊢
        generalize Reading.required y.span _ _ = r' at right ⊢
        cases right with
        | ok like rest =>
          have shorter := (expression limit end₁ room).shrinks (Reading.required_eq_ok hr)
          exact step (Nat.lt_succ_of_lt shorter) (hlhs.infixed like op alike.span) rest
        | error agrees => exact .error agrees
        | early ends => exact ends.elim
      · rw [if_neg (mt (Context.accepts_at_iff p.left).1 accepted),
          if_neg (mt (Context.accepts_at_iff p.right).1 accepted)]
        exact .ok hlhs h.left
    | argument =>
      rw [extend_argument hf, extend_argument (follow ▸ hf)]
      by_cases accepted : ctx.accepts .application = true
      · rw [if_pos ((Context.accepts_at_iff p.left).2 accepted),
          if_pos ((Context.accepts_at_iff p.right).2 accepted)]
        have right := operand_agrees ih ctx .application h (.emptyAt lhs.span.stop)
          (.emptyAt lhs'.span.stop) .argument
        generalize hr : Reading.required (.emptyAt lhs.span.stop) _ _ = r at right ⊢
        generalize Reading.required (.emptyAt lhs'.span.stop) _ _ = r' at right ⊢
        cases right with
        | ok like rest =>
          have shorter := (expression limit end₁ room).shrinks (Reading.required_eq_ok hr)
          exact step shorter (hlhs.applied like) rest
        | error agrees => exact .error agrees
        | early ends => exact ends.elim
      · rw [if_neg (mt (Context.accepts_at_iff p.left).1 accepted),
          if_neg (mt (Context.accepts_at_iff p.right).1 accepted)]
        exact .ok hlhs h.left
    | closing =>
      rw [extend_closing hf, extend_closing (follow ▸ hf)]
      exact .ok hlhs h.left
    | misplaced problem =>
      rw [extend_misplaced hf, extend_misplaced (follow ▸ hf)]
      exact .error (.plain _ _ _)

/-- Before a closing paren nothing goes on. -/
theorem extend_before_close (inner : ExprParser) (ctx : Context) (lhs : Expr)
    (hx : significant xs = x :: tx) (close : x.isClose = true) :
    ∃ us, extend inner ctx lhs xs = .ok (lhs, us) ∧ significant us = significant xs := by
  rw [extend_trivia]
  split
  · next stops =>
    obtain ⟨nl, us, split, -, same⟩ := fromLine_eq_cons (Bool.and_eq_true_iff.1 stops).1
    exact ⟨_, rfl, split ▸ same⟩
  · rw [hx, extend_closing (by rw [Item.isClose, beq_iff_eq] at close; simp [Item.follow, close])]
    exact ⟨_, rfl, hx ▸ significant_significant xs⟩

/-- **Like expressions go on so that they agree.** -/
theorem extend_agrees (ih : A.RunsAgree limit end₁ end₂ room) (ctx : Context) {lhs lhs' : Expr}
    (hlhs : lhs.Alike f g lhs') (h : A.At p ps xs ys) :
    Reading.Agrees d (Expr.Alike f g) (A.Left ctx p ps) (fun _ => Early ctx p)
      (extend (expression limit end₁ room) (ctx.at p.left) lhs xs)
      (extend (expression limit end₂ room) (ctx.at p.right) lhs' ys) := by
  induction hn : xs.length using Nat.strongRecOn generalizing lhs lhs' xs ys with
  | ind len step =>
    have past : Reading.Agrees d (Expr.Alike f g) (A.Left ctx p ps) (fun _ => Early ctx p)
        (extend (expression limit end₁ room) (ctx.at p.left) lhs (significant xs))
        (extend (expression limit end₂ room) (ctx.at p.right) lhs' (significant ys)) := by
      refine extend_agrees_of_fronts ih ctx hlhs (.of_rel h.rel) (A.fronts h.rel)
        (significant_significant xs) (significant_significant ys) fun shorter hlhs at' => ?_
      have fewer := length_significant_le xs
      exact step _ (by omega) hlhs at' rfl
    by_cases crosses : crossesLine xs = true
    · rcases h.continues_cases ctx crosses with same | ⟨early, x, y, tx, ty, hx, hy, alike, ends⟩
      · rw [extend_trivia xs, extend_trivia ys, ← h.abreast.crosses, crosses, ← same]
        split
        · exact .ok hlhs (h.onward crosses).left
        · exact past
      · have statement : ∀ {us vs}, A.rel (p :: ps) us vs → A.Left ctx p ps us vs :=
          fun rel => ⟨rel, fun operand => by rw [early.2] at operand; cases operand⟩
        rcases ends with close | ⟨stops, c, lexeme⟩
        · obtain ⟨us, left, hu⟩ :=
            extend_before_close (expression limit end₁ room) (ctx.at p.left) lhs hx close
          obtain ⟨vs, right, hv⟩ := extend_before_close (expression limit end₂ room)
            (ctx.at p.right) lhs' hy (alike.isClose ▸ close)
          rw [left, right]
          exact .ok hlhs (statement (A.trivia h.rel hu hv))
        · -- The first run stops before the error, and the second one may go on to it.
          rw [extend_trivia xs, extend_trivia ys, ← h.abreast.crosses, crosses, stops]
          have onward := h.onward crosses
          by_cases goes : (ctx.at p.right).continues ys = true
          · obtain ⟨nl, us, split, -, same⟩ := fromLine_eq_cons crosses
            rw [goes, hy, extend_misplaced (Item.follow_of_error (alike.lexeme ▸ lexeme))]
            exact .early early (by rw [split, same, hx]) lexeme
          · rw [Bool.eq_false_iff.2 goes]
            exact .ok hlhs onward.left
    · rw [extend_trivia xs, extend_trivia ys, ← h.abreast.crosses, Bool.eq_false_iff.2 crosses]
      exact past

/-! ### Blocks -/

/-- Statements that follow fail for a lexical error in their block. -/
theorem statementsAfter_of_error {sourceEnd level : Nat} {isGrouped : Bool} {c : LexError}
    (hx : significant xs = x :: tx) (lexeme : x.lexeme = .error c) (le : level ≤ x.column) :
    statementsAfter (expression limit sourceEnd (room + 1)) level isGrouped xs =
      .error (.plain x.span (.lexical c)) := by
  rw [statementsAfter_eq, hx]
  dsimp only
  rw [if_neg (Nat.not_lt_of_le le), expression_succ, term, Item.first_of_error lexeme]

/-- What was found was found by an expression that may nest. -/
theorem exists_room_of_run {sourceEnd : Nat} {r : Outcome × List Item}
    (h : (expression limit sourceEnd room).run ctx xs = .ok r) : ∃ k, room = k + 1 := by
  cases room with
  | zero => cases h
  | succ k => exact ⟨k, rfl⟩

/-- **Statements follow so that they agree.** -/
theorem statementsAfter_agrees (ih : A.RunsAgree limit end₁ end₂ room) (isGrouped : Bool)
    (h : A.rel (p :: ps) xs ys) :
    Reading.Agrees d (Expr.AllAlike f g) (A.rel (p :: ps)) Never
      (statementsAfter (expression limit end₁ room) p.left isGrouped xs)
      (statementsAfter (expression limit end₂ room) p.right isGrouped ys) := by
  induction hn : xs.length using Nat.strongRecOn generalizing xs ys with
  | ind len step =>
    have none : Reading.Agrees d (Expr.AllAlike f g) (A.rel (p :: ps)) Never (.ok ([], xs))
        (.ok ([], ys)) := .ok (show Expr.AllAlike f g [] [] from rfl) h
    have here := At.of_rel h
    have fronts := A.fronts h
    have fewer := length_significant_le xs
    rw [statementsAfter_eq, statementsAfter_eq]
    generalize significant xs = us at here fronts fewer ⊢
    generalize significant ys = vs at here fronts ⊢
    cases fronts with
    | nil => exact none
    | @cons x y tx ty alike left place =>
      dsimp only
      by_cases below : x.column < p.left
      · rw [if_pos below, if_pos (left.1 below)]
        exact none
      rw [if_neg below, if_neg (mt left.2 below)]
      have run : Reading.Agrees d (Outcome.Like f g) _ (FoundIf _)
        ((expression limit end₁ room).run (.statement p.left isGrouped) (x :: tx))
        ((expression limit end₂ room).run (.statement p.right isGrouped) (y :: ty)) :=
        ih (.statement 0 isGrouped) here
      generalize hr : (expression limit end₁ room).run _ _ = r at run ⊢
      generalize (expression limit end₂ room).run _ _ = r' at run ⊢
      cases run with
      | error agrees => exact .error agrees
      | early ends next lexeme =>
        obtain ⟨⟨rfl, -⟩, e, rfl⟩ := ends
        obtain ⟨k, rfl⟩ := exists_room_of_run hr
        dsimp only
        rw [Layer.left, statementsAfter_of_error next lexeme (Nat.zero_le _)]
        exact .error (.plain _ _ _)
      | ok like rest =>
        cases like with
        | exhausted | closed => exact none
        | @found e e' like =>
          have shorter := (expression limit end₁ room).shrinks hr
          have others := step _ (by omega) rest.1 rfl
          dsimp only
          generalize statementsAfter _ p.left isGrouped _ = s at others ⊢
          generalize statementsAfter _ p.right isGrouped _ = s' at others ⊢
          cases others with
          | error agrees => exact .error agrees
          | early ends => exact ends.elim
          | @ok es es' _ _ all rest =>
            have both : Expr.AllAlike f g (e.statements ++ es) (e'.statements ++ es') := by
              rw [Expr.AllAlike] at all ⊢
              rw [List.map_append, List.map_append, all, ← Expr.statements_mapSpans,
                ← Expr.statements_mapSpans, like]
            exact .ok both rest

/-- Blocks agree whose first statements do; they may begin with other items. -/
theorem block_agrees_of_run (ih : A.RunsAgree limit end₁ end₂ room) {isGrouped : Bool}
    (run : Reading.Agrees d (Outcome.Like f g) (A.rel (p :: ps)) (FoundIf (p = .group))
      ((expression limit end₁ room).run (.statement p.left isGrouped) xs)
      ((expression limit end₂ room).run (.statement p.right isGrouped) ys)) :
    Reading.Agrees d (Outcome.Like f g) (A.rel (p :: ps)) Never
      (block (expression limit end₁ room) p.left isGrouped xs)
      (block (expression limit end₂ room) p.right isGrouped ys) := by
  rw [block, block]
  generalize hr : (expression limit end₁ room).run _ _ = r at run ⊢
  generalize (expression limit end₂ room).run _ _ = r' at run ⊢
  cases run with
  | error agrees => exact .error agrees
  | early ends next lexeme =>
    obtain ⟨rfl, e, rfl⟩ := ends
    obtain ⟨k, rfl⟩ := exists_room_of_run hr
    dsimp only
    rw [Layer.left, statementsAfter_of_error next lexeme (Nat.zero_le _)]
    exact .error (.plain _ _ _)
  | ok like rest =>
    cases like with
    | exhausted => exact .ok .exhausted rest
    | closed => exact .ok .closed rest
    | @found e e' like =>
      have others := statementsAfter_agrees ih isGrouped rest
      dsimp only
      generalize statementsAfter _ p.left isGrouped _ = s at others ⊢
      generalize statementsAfter _ p.right isGrouped _ = s' at others ⊢
      cases others with
      | error agrees => exact .error agrees
      | early ends => exact ends.elim
      | @ok es es' _ _ all rest =>
        have both : (e.sequence es).Alike f g (e'.sequence es') := by
          rw [Expr.AllAlike] at all
          rw [Expr.Alike, Expr.mapSpans_sequence, Expr.mapSpans_sequence, like, all]
        exact .ok (.found both) rest

/-- **Blocks are read so that they agree.** -/
theorem block_agrees (ih : A.RunsAgree limit end₁ end₂ room) (isGrouped : Bool)
    (h : A.At p ps xs ys) :
    Reading.Agrees d (Outcome.Like f g) (A.rel (p :: ps)) Never
      (block (expression limit end₁ room) p.left isGrouped xs)
      (block (expression limit end₂ room) p.right isGrouped ys) :=
  block_agrees_of_run ih ((ih (.statement 0 isGrouped) h).mono (fun rest => rest.1)
    fun ends => ⟨ends.1.1, ends.2⟩)

/-! ### Groups -/

theorem closeGroup_agrees {opener opener' : Item} {e e' : Expr} (like : e.Alike f g e')
    (place : d = .texts → opener.position.line = opener'.position.line ∧
      opener.position.column = opener'.position.column)
    (h : A.rel (.group :: p :: ps) xs ys) :
    Reading.Agrees d (Expr.Alike f g) (A.At p ps) Never (closeGroup opener e xs)
      (closeGroup opener' e' ys) := by
  have fronts := A.fronts h
  rw [closeGroup, closeGroup]
  generalize hx : significant xs = us at fronts ⊢
  generalize hy : significant ys = vs at fronts ⊢
  cases fronts with
  | nil => exact .error (.unclosed _ _ _ _ place)
  | @cons x y tx ty alike left _ =>
    dsimp only
    rw [← alike.lexeme]
    split
    · next close =>
      obtain ⟨rel, abreast⟩ := A.step h hx hy close (.closing (Item.isClose_of_closing close))
      exact .ok like ⟨rel, abreast⟩
    · exact .error (.plain _ _ _)
    · exact .error (.unclosed _ _ _ _ place)

/-- What groups contain agrees. -/
theorem groupBody_agrees (ih : A.RunsAgree limit end₁ end₂ room) {opener opener' : Item}
    (place : d = .texts → opener.position.line = opener'.position.line ∧
      opener.position.column = opener'.position.column)
    (h : A.At .group (p :: ps) xs ys) :
    Reading.Agrees d (Expr.Alike f g) (A.At p ps) Never
      (groupBody (expression limit end₁ room) opener xs)
      (groupBody (expression limit end₂ room) opener' ys) := by
  rw [groupBody, groupBody]
  have content : Reading.Agrees d _ _ _ (block (expression limit end₁ room) 0 true xs)
    (block (expression limit end₂ room) 0 true ys) := block_agrees ih true h
  generalize block (expression limit end₁ room) 0 true xs = r at content ⊢
  generalize block (expression limit end₂ room) 0 true ys = r' at content ⊢
  cases content with
  | error agrees => exact .error agrees
  | early ends => exact ends.elim
  | ok like rest =>
    cases like with
    | exhausted => exact .error (.unclosed _ _ _ _ place)
    | closed => exact .error (.plain _ _ _)
    | found like => exact closeGroup_agrees like place rest

theorem group_of_trivia {inner : ExprParser} {opener : Item} (h : x.isTrivia = true) :
    group inner opener (x :: tx) = groupBody inner opener (x :: tx) := by
  obtain ⟨t, lexeme⟩ := Item.token_of_trivia h
  rw [group, lexeme]
  split
  · next close =>
    cases close
    rw [Item.isTrivia_of_lexeme lexeme] at h
    cases h
  · rfl
  · next error => cases error

/-- A group with nothing but trivia in it is no group. -/
theorem exists_error_of_group (limit room sourceEnd : Nat) (opener : Item)
    (h : significant xs = []) :
    ∃ e, group (expression limit sourceEnd room) opener xs = .error e := by
  cases xs with
  | nil => exact ⟨_, rfl⟩
  | cons x xs =>
    rw [group_of_trivia (significant_eq_nil_iff.1 h x List.mem_cons_self), groupBody]
    cases room with
    | zero => exact ⟨_, rfl⟩
    | succ room => exact ⟨_, by rw [block_of_trivia h]⟩

/-- **Like parens open groups that agree.** -/
theorem group_agrees (ih : A.RunsAgree limit end₁ end₂ room) {opener opener' : Item}
    (alike : Item.Alike f g opener opener')
    (place : d = .texts → opener.position.line = opener'.position.line ∧
      opener.position.column = opener'.position.column)
    (h : A.At .group (p :: ps) xs ys) :
    Reading.Agrees d (Expr.Alike f g) (A.At p ps) Never
      (group (expression limit end₁ room) opener xs)
      (group (expression limit end₂ room) opener' ys) := by
  have body := groupBody_agrees ih place h
  rcases h.abreast.cases with ⟨x, y, tx, ty, rfl, rfl, hx, hy⟩ | ⟨hx, hy⟩
  · have fronts := A.fronts h.rel
    rw [significant_cons hx, significant_cons hy] at fronts
    cases fronts with
    | cons same left _ =>
      rw [group, group, ← same.lexeme]
      split
      · next close =>
        obtain ⟨rel, abreast⟩ := A.step h.rel (significant_cons hx tx) (significant_cons hy ty)
          close (.closing (Item.isClose_of_closing close))
        have unit : (Expr.unit (opener.span.through x.span)).Alike f g
            (.unit (opener'.span.through y.span)) := by
          simp only [Expr.Alike, Expr.mapSpans, SpanMap.through, alike.span, same.span]
        exact .ok unit ⟨rel, abreast⟩
      · exact body
      · exact .error (.unclosed _ _ _ _ place)
  · by_cases ends : xs.isEmpty = ys.isEmpty
    · cases xs with
      | nil =>
        obtain rfl := List.isEmpty_iff.1 ends.symm
        exact .error (.unclosed _ _ _ _ place)
      | cons x tx =>
        cases ys with
        | nil => cases ends
        | cons y ty =>
          rw [group_of_trivia (isTrivia_of_not_abuts hx),
            group_of_trivia (isTrivia_of_not_abuts hy)]
          exact body
    · -- One list ends at once, so there is nothing in the other one either.
      have failure : d = .failure := Decidable.not_not.1 fun hd => ends (h.abreast.isEmpty hd)
      have fronts := (A.fronts h.rel).eq_nil_iff
      have nothing : significant xs = [] ∧ significant ys = [] := by
        cases xs with
        | nil => exact ⟨rfl, fronts.1 rfl⟩
        | cons x tx =>
          cases ys with
          | nil => exact ⟨fronts.2 rfl, rfl⟩
          | cons y ty => exact absurd rfl ends
      obtain ⟨e, left⟩ := exists_error_of_group limit room end₁ opener nothing.1
      obtain ⟨e', right⟩ := exists_error_of_group limit room end₂ opener' nothing.2
      rw [left, right]
      exact .error (.any failure e e')

/-! ### Declarations -/

theorem expect_of_not_abuts {α : Type} (sourceEnd : Nat) {accept : Token → Option α}
    (problem : Problem) (plain : ∀ t a, accept t = some a → t ≠ .comment ∧ t ≠ .newline ∧
      t ≠ .opening .round ∧ t ≠ .closing .round) (h : abuts xs = false) :
    ∃ span, expect sourceEnd accept problem xs = .error (.plain span problem) := by
  cases xs with
  | nil => exact ⟨_, rfl⟩
  | cons x tx =>
    obtain ⟨t, lexeme⟩ := Item.token_of_trivia (isTrivia_of_not_abuts h)
    have trivia := isTrivia_of_not_abuts h
    rw [expect, lexeme]
    dsimp only
    cases ha : accept t with
    | none => exact ⟨_, rfl⟩
    | some a =>
      obtain ⟨comment, newline, -⟩ := plain t a ha
      rw [Item.not_isTrivia_of_lexeme lexeme comment newline] at trivia
      cases trivia

/-- An item that is expected and has to follow at once. -/
theorem expect_agrees {α : Type} (end₁ end₂ : Nat) (accept : Token → Option α)
    (problem : Problem) (plain : ∀ t a, accept t = some a → t ≠ .comment ∧ t ≠ .newline ∧
      t ≠ .opening .round ∧ t ≠ .closing .round) (h : A.At p ps xs ys) :
    Reading.Agrees d (fun a b : α × Span => a.1 = b.1 ∧ f.apply a.2 = g.apply b.2) (A.At p ps) Never
      (expect end₁ accept problem xs) (expect end₂ accept problem ys) := by
  rcases h.abreast.cases with ⟨x, y, tx, ty, rfl, rfl, hx, hy⟩ | ⟨hx, hy⟩
  · have fronts := A.fronts h.rel
    rw [significant_cons hx, significant_cons hy] at fronts
    cases fronts with
    | cons alike left _ =>
      rw [expect, expect, ← alike.lexeme]
      split
      · next t lexeme =>
        split
        · next a ha =>
          obtain ⟨-, -, opening, closing⟩ := plain t a ha
          exact .ok ⟨rfl, alike.span⟩
            (.step h.rel hx hy lexeme (Item.not_isParen_of_lexeme lexeme opening closing))
        · exact .error (.plain _ _ _)
      · exact .error (.plain _ _ _)
  · obtain ⟨span, left⟩ := expect_of_not_abuts end₁ problem plain hx
    obtain ⟨span', right⟩ := expect_of_not_abuts end₂ problem plain hy
    rw [left, right]
    exact .error (.plain span span' problem)

/-- The values of like declarations agree. -/
theorem initializer_agrees (ih : A.RunsAgree limit end₁ end₂ room) {l m : Nat} (isGrouped : Bool)
    (assignment assignment' : Span) (h : A.At (.block l m) (p :: ps) xs ys) :
    Reading.Agrees d (Expr.Alike f g) (A.rel (p :: ps)) Never
      (initializer (expression limit end₁ room) l isGrouped assignment xs)
      (initializer (expression limit end₂ room) m isGrouped assignment' ys) := by
  have fronts := A.fronts h.rel
  have crosses := h.abreast.crosses
  have places := h.abreast.places
  rw [initializer, initializer]
  generalize hx : significant xs = us at fronts places ⊢
  generalize hy : significant ys = vs at fronts places ⊢
  cases fronts with
  | nil =>
    have content : Reading.Agrees d (Outcome.Like f g) (A.rel (p :: ps)) Never
        (block (expression limit end₁ room) (l + 1) isGrouped xs)
        (block (expression limit end₂ room) (m + 1) isGrouped ys) := by
      cases room with
      | zero =>
        rw [block, block, expression_zero, expression_zero, tooDeep, tooDeep, hx, hy]
        exact .error (.plain _ _ _)
      | succ room =>
        rw [block_of_trivia hx, block_of_trivia hy]
        exact .ok .exhausted (A.trivia (A.leave h.rel) hx.symm hy.symm)
    exact content.required _ _ _
  | @cons x y tx ty alike left _ =>
    have placed : (crossesLine xs && decide (x.column ≤ l)) =
        (crossesLine ys && decide (y.column ≤ m)) := by
      rw [← crosses]
      by_cases line : crossesLine xs = true
      · have right : l < x.column ↔ m < y.column := places line rfl rfl
        rw [decide_eq_decide.2 (show x.column ≤ l ↔ y.column ≤ m by omega)]
      · simp [line]
    dsimp only
    rw [placed]
    split
    · exact .error (.plain _ _ _)
    · have value := A.enter (A.leave h.rel) hx hy
      have here := At.of_rel value
      rw [hx, hy] at here
      exact ((block_agrees ih isGrouped here).required _ _ _).mono A.leave id

/-- **Like keywords begin like declarations.** -/
theorem declaration_agrees (ih : A.RunsAgree limit end₁ end₂ room) (word : Keyword)
    (isGrouped : Bool) (alike : Item.Alike f g x y)
    (h : A.At (.block x.column y.column) (p :: ps) tx ty) :
    Reading.Agrees d (Expr.Alike f g) (A.rel (p :: ps)) Never
      (declaration (expression limit end₁ room) end₁ word isGrouped x tx)
      (declaration (expression limit end₂ room) end₂ word isGrouped y ty) := by
  rw [declaration, declaration]
  have named := expect_agrees end₁ end₂ declaredName? .expectedName
    (fun t a ht => by rw [declaredName?_eq_some ht]; simp) h
  generalize expect end₁ declaredName? .expectedName tx = r at named ⊢
  generalize expect end₂ declaredName? .expectedName ty = r' at named ⊢
  cases named with
  | error agrees => exact .error agrees
  | early ends => exact ends.elim
  | @ok a b us vs like rest =>
    obtain ⟨name, nameSpan⟩ := a
    obtain ⟨name', nameSpan'⟩ := b
    obtain ⟨rfl, name_span⟩ := like
    dsimp only
    have assigned := expect_agrees end₁ end₂ assignment? .expectedAssignment
      (fun t a ht => by rw [assignment?_eq_some ht]; simp) rest
    generalize expect end₁ assignment? .expectedAssignment us = r at assigned ⊢
    generalize expect end₂ assignment? .expectedAssignment vs = r' at assigned ⊢
    cases assigned with
    | error agrees => exact .error agrees
    | early ends => exact ends.elim
    | @ok a b us vs _ rest =>
      have value := initializer_agrees ih isGrouped a.2 b.2 rest
      dsimp only
      generalize initializer _ x.column isGrouped a.2 us = r at value ⊢
      generalize initializer _ y.column isGrouped b.2 vs = r' at value ⊢
      cases value with
      | error agrees => exact .error agrees
      | early ends => exact ends.elim
      | @ok e e' _ _ like rest =>
        have span : f.apply e.span = g.apply e'.span := by
          rw [← Expr.span_mapSpans, ← Expr.span_mapSpans, like]
        refine .ok ?_ rest
        rw [Expr.Alike] at like ⊢
        simp only [Expr.mapSpans, SpanMap.through, alike.span, span, name_span, like]

/-! ### Terms -/

/-- Expressions begin with significant items so that they agree. -/
theorem term_agrees_of_fronts (ih : A.RunsAgree limit end₁ end₂ room) (ctx : Context)
    (h : A.At p ps us vs) (fronts : Fronts f g d p us vs) (hu : significant us = us)
    (hv : significant vs = vs) :
    Reading.Agrees d (Outcome.Like f g) (A.Left ctx p ps) (FoundIf (Early ctx p))
      (term (expression limit end₁ room) end₁ (ctx.at p.left) us)
      (term (expression limit end₂ room) end₂ (ctx.at p.right) vs) := by
  cases fronts with
  | nil => exact .ok .exhausted h.left
  | @cons x y tx ty alike left place =>
    have hx : x.isTrivia = false := isTrivia_of_significant hu
    have hy : y.isTrivia = false := isTrivia_of_significant hv
    rw [term, term]
    generalize hf : x.first = part
    generalize hf' : y.first = part'
    cases (hf ▸ hf' ▸ alike.first : First.Like f g part part') with
    | comment =>
      rw [Item.isTrivia_of_comment (Item.fits_of_first hf)] at hx
      cases hx
    | newline =>
      rw [Item.isTrivia_of_newline (Item.fits_of_first hf)] at hx
      cases hx
    | leaf like =>
      obtain ⟨t, lexeme, -⟩ := Item.fits_of_first hf
      have plain := Item.not_isParen_of_leaf hf
      exact (extend_agrees ih ctx like (.step h.rel hx hy lexeme plain)).found
    | keyword word =>
      dsimp only
      rw [Context.isStatement_at, Context.isStatement_at]
      split
      · next statement =>
        have lexeme := Item.fits_of_first hf
        have plain := Item.not_isParen_of_lexeme lexeme (by simp) (by simp)
        have inside := At.step (A.enter h.rel hu hv) hx hy lexeme plain
        refine ((declaration_agrees ih word ctx.isGrouped alike inside).mono (fun rest => ?_)
          fun ends => ends.elim).found
        exact ⟨rest, fun operand => by rw [statement] at operand; cases operand⟩
      · exact .error (.plain _ _ _)
    | opening =>
      have lexeme := Item.fits_of_first hf
      have opens := Item.isOpen_of_opening lexeme
      obtain ⟨rel, abreast⟩ := A.step h.rel hu hv lexeme (.opening opens)
      have grouped := group_agrees ih alike (fun hd => place hd opens) ⟨rel, abreast⟩
      dsimp only
      generalize group (expression limit end₁ room) x tx = r at grouped ⊢
      generalize group (expression limit end₂ room) y ty = r' at grouped ⊢
      cases grouped with
      | error agrees => exact .error agrees
      | early ends => exact ends.elim
      | ok like rest => exact (extend_agrees ih ctx like rest).found
    | closing =>
      dsimp only
      rw [Context.isGrouped_at, Context.isGrouped_at]
      split
      · exact .ok .closed h.left
      · exact .error (.plain _ _ _)
    | misplaced problem => exact .error (.plain _ _ _)

/-- **Expressions begin so that they agree.** -/
theorem term_agrees (ih : A.RunsAgree limit end₁ end₂ room) (ctx : Context)
    (h : A.At p ps xs ys) :
    Reading.Agrees d (Outcome.Like f g) (A.Left ctx p ps) (FoundIf (Early ctx p))
      (term (expression limit end₁ room) end₁ (ctx.at p.left) xs)
      (term (expression limit end₂ room) end₂ (ctx.at p.right) ys) := by
  have dedents : (ctx.at p.left).dedents xs = (ctx.at p.right).dedents ys := by
    have fronts := A.fronts h.rel
    rw [Context.dedents, Context.dedents]
    generalize significant xs = us at fronts ⊢
    generalize significant ys = vs at fronts ⊢
    cases fronts with
    | nil => rfl
    | cons _ left _ => exact decide_eq_decide.2 left
  rw [term_trivia xs, term_trivia ys, ← h.abreast.crosses, ← dedents]
  split
  · next ends => exact .ok .closed (h.onward (Bool.and_eq_true_iff.1 ends).1).left
  · exact term_agrees_of_fronts ih ctx (.of_rel h.rel) (A.fronts h.rel)
      (significant_significant xs) (significant_significant ys)

/-- Both runs give up past the limit. -/
theorem tooDeep_agrees (h : A.rel (p :: ps) xs ys) :
    (tooDeep limit end₁ xs).Agrees d (tooDeep limit end₂ ys) := by
  have fronts := A.fronts h
  rw [tooDeep, tooDeep]
  generalize significant xs = us at fronts ⊢
  generalize significant ys = vs at fronts ⊢
  cases fronts with
  | nil | cons => exact .plain _ _ _

/-- **Expressions are read so that they agree**, whatever room they have. -/
theorem run_agrees (limit end₁ end₂ room : Nat) : A.RunsAgree limit end₁ end₂ room := by
  induction room with
  | zero => exact fun ctx _ _ _ _ h => .error (tooDeep_agrees h.rel)
  | succ room ih => exact fun ctx _ _ _ _ h => term_agrees ih ctx h

/-! ### Sources -/

/-- What is left of both sources agrees. -/
theorem leftover_agrees (h : A.rel (p :: ps) xs ys) :
    (leftover? xs = none ∧ leftover? ys = none) ∨
      ∃ e e', leftover? xs = some e ∧ leftover? ys = some e' ∧ e.Agrees d e' := by
  have fronts := A.fronts h
  rw [leftover?, leftover?]
  generalize significant xs = us at fronts ⊢
  generalize significant ys = vs at fronts ⊢
  cases fronts with
  | nil => exact .inl ⟨rfl, rfl⟩
  | cons alike _ _ =>
    dsimp only
    rw [← alike.lexeme]
    refine .inr ?_
    split
    all_goals exact ⟨_, _, rfl, rfl, .plain _ _ _⟩

/-- Sources agree whose blocks do. -/
theorem parseItems_agrees_of_block (origin : f.apply (.emptyAt 0) = g.apply (.emptyAt 0))
    (content : Reading.Agrees d (Outcome.Like f g) (A.rel (p :: ps)) Never
      (block (expression limit end₁ limit) (firstColumn xs) false xs)
      (block (expression limit end₂ limit) (firstColumn ys) false ys)) :
    Parsed.Agrees f g d (parseItems limit end₁ xs) (parseItems limit end₂ ys) := by
  rw [parseItems, parseItems]
  generalize block _ (firstColumn xs) false xs = r at content ⊢
  generalize block _ (firstColumn ys) false ys = r' at content ⊢
  have empty : (Expr.block (.emptyAt 0) []).Alike f g (.block (.emptyAt 0) []) := by
    rw [Expr.Alike, Expr.mapSpans_block, Expr.mapSpans_block, origin]
    rfl
  cases content with
  | error agrees => exact .error agrees
  | early ends => exact ends.elim
  | ok like rest =>
    rcases leftover_agrees rest with ⟨hx, hy⟩ | ⟨e, e', hx, hy, agrees⟩
    · simp only [hx, hy]
      cases like with
      | found like => exact .ok like
      | exhausted | closed => exact .ok empty
    · simp only [hx, hy]
      exact .error agrees

/-- A source is read from its first significant item on. -/
theorem block_significant {sourceEnd : Nat} {isGrouped : Bool} (items : List Item) :
    block (expression limit sourceEnd room) (firstColumn items) isGrouped items =
      block (expression limit sourceEnd room) (firstColumn items) isGrouped
        (significant items) := by
  have run : (expression limit sourceEnd room).run (.statement (firstColumn items) isGrouped)
      items = (expression limit sourceEnd room).run (.statement (firstColumn items) isGrouped)
        (significant items) := by
    cases room with
    | zero => rw [expression_zero, expression_zero, tooDeep, tooDeep, significant_significant]
    | succ room =>
      refine term_significant ?_
      rw [Context.dedents]
      cases hs : significant items with
      | nil => rfl
      | cons item tail =>
        rw [firstColumn, hs]
        exact decide_eq_false (Nat.lt_irrefl item.column)
  rw [block, block, run]

/-- **Related sources are read so that they agree.** -/
theorem parseItems_agrees (origin : f.apply (.emptyAt 0) = g.apply (.emptyAt 0))
    (left : p.left = firstColumn xs) (right : p.right = firstColumn ys)
    (h : A.rel (p :: ps) xs ys) :
    Parsed.Agrees f g d (parseItems limit end₁ xs) (parseItems limit end₂ ys) := by
  have content := block_agrees (run_agrees limit end₁ end₂ limit) false (.of_rel h)
  rw [left, right, ← block_significant, ← block_significant] at content
  exact parseItems_agrees_of_block origin content

end Accord

end Offside
