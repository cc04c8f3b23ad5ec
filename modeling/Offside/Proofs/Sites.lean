import Offside.Proofs.Failure
import Offside.Proofs.Placement

/-!
# Where errors are

An error is about an item that reading came to, or about the end of the source.  Reading never goes
past a lexical error, so all items before that one are tokens (`Reached`).  A part that is missing
is expected at an item, an argument right after the expression it would belong to, and the error
that explains why comes later (`ParseError.Sited`, `sited_of_parse`).

* `wellChained_of_parse`: the links of a chain of errors lie in the source, in order.
* `stopsAt_of_firstError`: a source with a lexical error is not read, and its error comes no later
  and names no lexical error but the first one.
-/

namespace Offside

/-! ### Sites -/

/-- That reading comes to an item without passing a lexical error; `after` are the items past
it. -/
def Reached (all : List Item) (item : Item) (after : List Item) : Prop :=
  ∃ before, all = before ++ item :: after ∧ Clean before

/-- That a lexical error that a problem names is the one that the item of the problem is, or the
one that stands right after it. -/
def Problem.Fits (item : Item) (after : List Item) : Problem → Prop
  | lexical c => item.lexeme = .error c
  | unclosed _ _ _ (some c) =>
    (∃ t, item.lexeme = .token t) ∧ ∃ next tail, after = next :: tail ∧ next.lexeme = .error c
  | _ => True

/-- That each link of an error stands at an item that reading comes to or at the end, and after
the links that it explains. -/
inductive ParseError.Sited (all : List Item) (sourceEnd : Nat) : ParseError → Prop
  /-- The problem is about an item. -/
  | item {item : Item} {after : List Item} {problem : Problem} (reached : Reached all item after)
      (fits : problem.Fits item after) : Sited all sourceEnd (.plain item.span problem)
  /-- The problem is about the end of the source. -/
  | ended {problem : Problem} (clean : Clean all) :
      Sited all sourceEnd (.plain (.emptyAt sourceEnd) problem)
  /-- A part is expected after an item. -/
  | part {item : Item} {after : List Item} {what : Expectation} {cause : ParseError} {t : Token}
      (reached : Reached all item after) (lexeme : item.lexeme = .token t)
      (wrapped : cause.propagates = false) (later : item.span.stop ≤ cause.span.start)
      (inner : Sited all sourceEnd cause) : Sited all sourceEnd (.within item.span what cause)
  /-- An argument is expected right after the last item of an expression. -/
  | argument {item : Item} {after : List Item} {cause : ParseError} {t : Token}
      (reached : Reached all item after) (lexeme : item.lexeme = .token t)
      (wrapped : cause.propagates = false) (later : item.span.stop ≤ cause.span.start)
      (inner : Sited all sourceEnd cause) :
      Sited all sourceEnd (.within (.emptyAt item.span.stop) .argument cause)

theorem IsBoundary.le {source : List Char} {offset : Nat} (h : IsBoundary source offset) :
    offset ≤ byteLength source := by
  obtain ⟨before, after, rfl, rfl⟩ := h
  rw [byteLength_append]
  exact Nat.le_add_right ..

/-- What an item is that does not belong where it is names no error but its own. -/
theorem Item.fits_of_misplaced {item : Item} {after : List Item} {problem : Problem}
    (h : item.first = .misplaced problem ∨ item.follow = .misplaced problem) :
    problem.Fits item after := by
  rcases h with h | h
  · unfold first at h
    split at h <;> cases h
    · assumption
    all_goals trivial
  · unfold follow at h
    split at h <;> cases h
    · assumption
    all_goals trivial

/-- An expression ends no later than what an operator joins it to. -/
theorem Expr.Placed.stop_le_infixed {source : List Char} {left right : Expr} {op : Operator}
    {span : Span} (h : (left.infixed op span right).Placed source) :
    left.span.stop ≤ (left.infixed op span right).span.stop := by
  obtain ⟨-, stop, before, after, -⟩ := h.self.nested
  have := span.start_le_stop
  have := right.span.start_le_stop
  rw [span_infixed, stop]
  omega

/-- A function ends no later than its application. -/
theorem Expr.Placed.stop_le_applied {source : List Char} {function argument : Expr}
    (h : (function.applied argument).Placed source) :
    function.span.stop ≤ (function.applied argument).span.stop := by
  obtain ⟨-, stop, apart, -⟩ := h.self.nested
  rw [span_applied, stop]
  exact Nat.le_trans apart argument.span.start_le_stop

/-! ### Errors among items -/

/-- That an error among `items` is sited and not before them, whatever tokens come before. -/
def SitedIn (source : List Char) (items : List Item) (e : ParseError) : Prop :=
  ∀ seen, Clean seen → Laid source (seen ++ items) →
    e.Sited (seen ++ items) (byteLength source) ∧ ∀ i ∈ seen, i.span.stop ≤ e.span.start

/-- That an error past `lhs` among `items` is sited and not before the end of `lhs`. -/
def SitedPast (source : List Char) (lhs : Expr) (items : List Item) (e : ParseError) : Prop :=
  ∀ seen, Clean seen → Laid source (seen ++ items) → lhs.ReadFrom source seen →
    e.Sited (seen ++ items) (byteLength source) ∧ lhs.span.stop ≤ e.span.start

section Sites

variable {source : List Char} {front items : List Item} {item : Item} {lhs : Expr}
  {e : ParseError} {problem : Problem}

theorem Laid.stop_le {xs ys : List Item} (laid : Laid source (xs ++ ys)) {i j : Item}
    (hi : i ∈ xs) (hj : j ∈ ys) : i.span.stop ≤ j.span.start :=
  ((List.pairwise_append.1 laid.order).2.2 i hi j hj).2

namespace SitedIn

theorem plain (fits : problem.Fits item items) :
    SitedIn source (item :: items) (.plain item.span problem) := fun seen clean laid =>
  ⟨.item ⟨seen, rfl, clean⟩ fits, fun _ hi => laid.stop_le hi List.mem_cons_self⟩

theorem ended (clean : Clean items) :
    SitedIn source items (.plain (.emptyAt (byteLength source)) problem) := fun _ clean' laid =>
  ⟨.ended (clean'.append clean), fun i hi =>
    (laid.liesIn i (List.mem_append_left _ hi)).stop.le⟩

/-- Tokens may be passed over. -/
theorem past (h : SitedIn source items e) (clean : Clean front) :
    SitedIn source (front ++ items) e := by
  intro seen clean' laid
  obtain ⟨sited, past⟩ := h (seen ++ front) (clean'.append clean) (by simpa using laid)
  exact ⟨by simpa using sited, fun i hi => past i (List.mem_append_left _ hi)⟩

theorem cons {t : Token} (h : SitedIn source items e) (lexeme : item.lexeme = .token t) :
    SitedIn source (item :: items) e :=
  h.past (clean_nil.cons lexeme)

/-- A part that has to come after an item. -/
theorem wrap {t : Token} {what : Expectation} (h : SitedIn source items e)
    (lexeme : item.lexeme = .token t) :
    SitedIn source (item :: items) (e.wrap item.span what) := by
  rw [ParseError.wrap]
  split
  · exact h.cons lexeme
  · next wrapped =>
    intro seen clean laid
    obtain ⟨sited, past⟩ := h (seen ++ [item]) (clean.append (clean_nil.cons lexeme))
      (by simpa using laid)
    refine ⟨.part ⟨seen, rfl, clean⟩ lexeme (Bool.eq_false_iff.2 wrapped)
      (past item (by simp)) (by simpa using sited), fun i hi => ?_⟩
    exact laid.stop_le hi List.mem_cons_self

/-- Past an expression, what is not before the items is not before its end. -/
theorem past_expr (h : SitedIn source items e) : SitedPast source lhs items e := by
  intro seen clean laid read
  obtain ⟨sited, past⟩ := h seen clean laid
  obtain ⟨last, hlast, stop⟩ := read.stop
  exact ⟨sited, stop ▸ past last hlast⟩

/-- The argument of an expression. -/
theorem wrap_argument (h : SitedIn source items e) :
    SitedPast source lhs items (e.wrap (.emptyAt lhs.span.stop) .argument) := by
  rw [ParseError.wrap]
  split
  · exact h.past_expr
  · next wrapped =>
    intro seen clean laid read
    obtain ⟨sited, past⟩ := h seen clean laid
    obtain ⟨last, hlast, stop⟩ := read.stop
    obtain ⟨t, lexeme⟩ := clean last hlast
    obtain ⟨before, after, rfl⟩ := List.append_of_mem hlast
    rw [stop]
    exact ⟨.argument ⟨before, List.append_assoc .., (clean_append.1 clean).1⟩ lexeme
      (Bool.eq_false_iff.2 wrapped) (past last hlast) sited, Nat.le_refl _⟩

end SitedIn

namespace SitedPast

/-- The expression may go on with tokens. -/
theorem grow {lhs' : Expr} (h : SitedPast source lhs' items e) (clean : Clean front)
    (read : ∀ seen, Laid source (seen ++ front) → lhs.ReadFrom source seen →
      lhs'.ReadFrom source (seen ++ front) ∧ lhs.span.stop ≤ lhs'.span.stop) :
    SitedPast source lhs (front ++ items) e := by
  intro seen clean' laid hl
  obtain ⟨hl', le⟩ := read seen (laid.sublist (by simp)) hl
  obtain ⟨sited, past⟩ := h (seen ++ front) (clean'.append clean) (by simpa using laid) hl'
  exact ⟨by simpa using sited, Nat.le_trans le past⟩

/-- The expression begins with tokens. -/
theorem begin (h : SitedPast source lhs items e) (clean : Clean front)
    (read : lhs.ReadFrom source front) : SitedIn source (front ++ items) e := by
  intro seen clean' laid
  obtain ⟨sited, past⟩ := h (seen ++ front) (clean'.append clean) (by simpa using laid)
    (read.mono (List.subset_append_right ..))
  refine ⟨by simpa using sited, fun i hi => Nat.le_trans ?_ past⟩
  obtain ⟨last, hlast, stop⟩ := read.stop
  have before := laid.stop_le hi (List.mem_append_left _ hlast)
  rw [stop]
  exact Nat.le_trans before last.span.start_le_stop

end SitedPast

end Sites

/-! ### The errors of a run -/

/-- That an error of a part of the parser is sited. -/
def Attempt.Sites (source : List Char) (e : ParseError) : Attempt → Prop
  | expression _ _ items | statements _ _ _ items | block _ _ _ items => SitedIn source items e
  | extension _ _ lhs items => SitedPast source lhs items e

theorem SitedIn.of_lacks {α : Type} {source : List Char} {accept : Token → Option α}
    {problem : Problem} {items : List Item} {e : ParseError}
    (h : Lacks (byteLength source) accept problem items e)
    (fits : ∀ item after, problem.Fits item after) : SitedIn source items e := by
  cases h with
  | ended => exact .ended clean_nil
  | other => exact .plain (fits _ _)
  | error lexeme => exact .plain lexeme

theorem SitedIn.tooDeep {source : List Char} (limit : Nat) (items : List Item) :
    SitedIn source items (tooDeep limit (byteLength source) items) := by
  unfold Offside.tooDeep
  split
  · next hs => exact .ended (clean_of_trivia (significant_eq_nil_iff.1 hs))
  · next item tail hs =>
    obtain ⟨skipped, rfl, trivia, -⟩ := split_significant hs
    have head : SitedIn source (item :: tail) (.plain item.span (.tooDeep limit)) := .plain trivial
    exact head.past (clean_of_trivia trivia)

/-- **Every error is about an item that reading comes to, or about the end.** -/
theorem sited_of_fails {limit : Nat} {source : List Char} {a : Attempt} {e : ParseError}
    (h : Fails limit (byteLength source) a e) (laid : Laid source a.items) : a.Sites source e := by
  induction h with
  | tooDeep => exact SitedIn.tooDeep _ _
  | leading trivia next ih =>
    obtain ⟨t, lexeme⟩ := Item.token_of_trivia trivia
    exact (ih (laid.suffix (List.suffix_cons ..))).cons lexeme
  | misplaced first => exact .plain (Item.fits_of_misplaced (.inl first))
  | keyword | close => exact .plain trivial
  | leaf first next ih =>
    obtain ⟨t, lexeme, -⟩ := Item.fits_of_first first
    exact (ih (laid.suffix (List.suffix_cons ..))).begin (clean_nil.cons lexeme)
      (.leaf first laid)
  | unit opens closes next ih =>
    have ih := ih (laid.suffix ((List.suffix_cons ..).trans (List.suffix_cons ..)))
    exact ih.begin ((clean_nil.cons closes).cons opens) (.unit laid)
  | @group _ _ opener close body skipped items inner e opens content trivia closes next ih =>
    have read : inner.ReadFrom source body :=
      placed_of_derivable content (laid.suffix (List.suffix_cons ..))
    have shape : opener :: (body ++ (skipped ++ close :: items)) =
        opener :: (body ++ (skipped ++ [close])) ++ items := by simp
    have clean : Clean (opener :: (body ++ (skipped ++ [close]))) :=
      Clean.cons ((clean_of_derivable content).append
        ((clean_of_trivia trivia).append (clean_nil.cons closes))) opens
    have ih := ih (laid.suffix ⟨opener :: (body ++ (skipped ++ [close])), shape.symm⟩)
    rw [Attempt.Sites, shape]
    exact ih.begin clean (read.mono fun i hi => by simp [hi])
  | content opens inner ih => exact (ih (laid.suffix (List.suffix_cons ..))).cons opens
  | openEnd | unbalanced | unclosed => exact .plain trivial
  | openError opens lexeme => exact .plain ⟨⟨_, opens⟩, _, _, rfl, lexeme⟩
  | name lexeme lacks => exact (SitedIn.of_lacks lacks fun _ _ => trivial).cons lexeme
  | sign lexeme named lacks =>
    exact ((SitedIn.of_lacks lacks fun _ _ => trivial).cons named).cons lexeme
  | notIndented lexeme named assigned trivia =>
    refine (((SitedIn.past ?_ (clean_of_trivia trivia)).cons assigned).cons named).cons lexeme
    exact .plain trivial
  | noValue lexeme named assigned =>
    refine (SitedIn.cons ?_ named).cons lexeme
    exact .plain trivial
  | @value _ _ _ item bound sign skipped items _ _ _ lexeme named assigned trivia content ih =>
    have ih := ih (laid.suffix ⟨item :: bound :: sign :: skipped, by simp [Attempt.items]⟩)
    exact (((ih.past (clean_of_trivia trivia)).wrap assigned).cons named).cons lexeme
  | @past _ _ _ item _ _ trivia next ih =>
    obtain ⟨t, lexeme⟩ := Item.token_of_trivia trivia
    exact (ih (laid.suffix (List.suffix_cons ..))).grow (clean_nil.cons lexeme)
      fun seen laid read => ⟨read.mono (List.subset_append_left ..), Nat.le_refl _⟩
  | follow follow => exact SitedIn.past_expr (.plain (Item.fits_of_misplaced (.inr follow)))
  | noOperand => exact SitedIn.past_expr (.plain trivial)
  | operand lexeme right ih =>
    exact ((ih (laid.suffix (List.suffix_cons ..))).wrap lexeme).past_expr
  | @operator _ _ lhs rhs item used rest symbol _ lexeme right next ih =>
    have read : rhs.ReadFrom source used :=
      placed_of_derivable right (laid.suffix (List.suffix_cons ..))
    have ih := ih (laid.suffix ⟨item :: used, by simp [Attempt.items]⟩)
    have clean : Clean (item :: used) := (clean_of_derivable right).cons lexeme
    refine ih.grow clean fun seen laid hl => ?_
    have infixed : (lhs.infixed (.ofSymbol symbol) item.span rhs).ReadFrom source
        (seen ++ item :: used) := hl.infixed read laid
    exact ⟨infixed, infixed.placed.stop_le_infixed⟩
  | argument follow right ih => exact (ih laid).wrap_argument
  | @application _ _ lhs rhs used rest _ right next ih =>
    have read : rhs.ReadFrom source used := placed_of_derivable right laid
    have ih := ih (laid.suffix (List.suffix_append ..))
    refine ih.grow (clean_of_derivable right) fun seen laid hl => ?_
    have applied := hl.applied read laid
    exact ⟨applied, applied.placed.stop_le_applied⟩
  | statement trivia deep content ih =>
    exact (ih (laid.suffix (List.suffix_append ..))).past (clean_of_trivia trivia)
  | @others _ _ _ _ skipped used rest _ trivia content next ih =>
    have ih := ih (laid.suffix ⟨skipped ++ used, by simp [Attempt.items]⟩)
    exact (ih.past (clean_of_derivable content)).past (clean_of_trivia trivia)
  | first content ih => exact ih laid
  | rest content next ih =>
    exact (ih (laid.suffix (List.suffix_append ..))).past (clean_of_derivable content)

/-- What is left of a source past its statements is an error about its first item. -/
theorem SitedIn.of_leftover {source : List Char} {rest : List Item} {e : ParseError}
    (h : leftover? rest = some e) : SitedIn source rest e := by
  unfold leftover? at h
  split at h
  · cases h
  · next item tail hs =>
    obtain ⟨skipped, rfl, trivia, -⟩ := split_significant hs
    refine SitedIn.past ?_ (clean_of_trivia trivia)
    split at h <;> cases h
    · exact .plain (by assumption)
    · exact .plain trivial
    · exact .plain trivial

/-- **The error of a source is sited among its items.** -/
theorem sited_of_parse {limit : Nat} {source : String} {e : ParseError}
    (h : parseWithin limit source = .error e) :
    e.Sited (items source.toList) (byteLength source.toList) := by
  have laid := laid_items source.toList
  have sited : SitedIn source.toList (items source.toList) e := by
    rcases failure_of_parseItems h with fails | ⟨used, rest, value, hu, left, content⟩
    · exact sited_of_fails fails laid
    · rw [hu]
      exact (SitedIn.of_leftover left).past (clean_of_derivable content)
  exact (sited [] clean_nil laid).1

/-! ### Chains -/

/-- How the links of a chain of errors stand in the source and to each other. -/
structure ParseError.WellChained (source : List Char) (e : ParseError) : Prop where
  /-- Every link but the last lacks a part. -/
  wraps : ∀ link ∈ e.chain.dropLast, ∃ span what cause, link = .within span what cause
  /-- An error that is never wrapped is the only link. -/
  alone : ∀ link ∈ e.chain, link.propagates = true → e.chain = [link]
  /-- Each link lies in the source and cuts no character. -/
  liesIn : ∀ link ∈ e.chain, link.span.LiesIn source
  /-- Each link covers an item, or is an argument expected right after a token, or is about the
  end of the source. -/
  place : ∀ link ∈ e.chain, (∃ item ∈ items source, link.span = item.span) ∨
    (∃ item ∈ items source, (∃ t, item.lexeme = .token t) ∧
      ∃ cause, link = .within (.emptyAt item.span.stop) .argument cause) ∨
    link.span = .emptyAt (byteLength source)
  /-- Each cause comes after the link that it explains. -/
  order : e.chain.IsChain fun wrapper cause => wrapper.span.stop ≤ cause.span.start

namespace ParseError

variable {source : List Char} {all : List Item} {sourceEnd : Nat} {e link : ParseError}

/-- An error that is wrapped comes after its wrapper and is sited itself. -/
theorem Sited.of_within {span : Span} {what : Expectation} {cause : ParseError}
    (h : (within span what cause).Sited all sourceEnd) :
    cause.Sited all sourceEnd ∧ cause.propagates = false ∧ span.stop ≤ cause.span.start := by
  cases h with
  | part _ _ wrapped later inner => exact ⟨inner, wrapped, later⟩
  | argument _ _ wrapped later inner => exact ⟨inner, wrapped, later⟩

theorem Sited.of_mem_chain (h : e.Sited all sourceEnd) (hl : link ∈ e.chain) :
    link.Sited all sourceEnd := by
  induction e with
  | plain span problem =>
    obtain rfl := List.mem_singleton.1 hl
    exact h
  | within span what cause ih =>
    rcases List.mem_cons.1 hl with rfl | hl
    · exact h
    · exact ih h.of_within.1 hl

theorem wraps_of_mem_dropLast_chain (h : link ∈ e.chain.dropLast) :
    ∃ span what cause, link = within span what cause := by
  induction e with
  | plain span problem => cases h
  | within span what cause ih =>
    rw [chain, List.dropLast_cons_of_ne_nil cause.chain_ne_nil] at h
    rcases List.mem_cons.1 h with rfl | h
    · exact ⟨span, what, cause, rfl⟩
    · exact ih h

theorem Sited.chain_of_propagates (h : e.Sited all sourceEnd) (hl : link ∈ e.chain)
    (hp : link.propagates = true) : e.chain = [link] := by
  induction e with
  | plain span problem =>
    obtain rfl := List.mem_singleton.1 hl
    rfl
  | within span what cause ih =>
    obtain ⟨inner, wrapped, -⟩ := h.of_within
    rcases List.mem_cons.1 hl with rfl | hl
    · cases hp
    · -- The link would be the cause itself, which is wrapped.
      have head := cause.head?_chain
      rw [ih inner hl] at head
      obtain rfl : link = cause := by simpa using head
      rw [hp] at wrapped
      cases wrapped

theorem Sited.isChain_chain (h : e.Sited all sourceEnd) :
    e.chain.IsChain fun wrapper cause => wrapper.span.stop ≤ cause.span.start := by
  induction e with
  | plain span problem => exact .singleton _
  | within span what cause ih =>
    obtain ⟨inner, -, later⟩ := h.of_within
    rw [chain, List.isChain_cons]
    refine ⟨fun first hf => ?_, ih inner⟩
    rw [head?_chain] at hf
    cases hf
    exact later

end ParseError

theorem Reached.mem {all after : List Item} {item : Item} (h : Reached all item after) :
    item ∈ all := by
  obtain ⟨before, rfl, -⟩ := h
  simp

theorem ParseError.Sited.wellChained {source : List Char} {e : ParseError}
    (h : e.Sited (items source) (byteLength source)) : e.WellChained source := by
  have laid := laid_items source
  refine ⟨fun link => wraps_of_mem_dropLast_chain, fun link => h.chain_of_propagates,
    fun link hl => ?_, fun link hl => ?_, h.isChain_chain⟩
  · cases h.of_mem_chain hl with
    | item reached => exact laid.liesIn _ reached.mem
    | ended => exact ⟨isBoundary_end source, isBoundary_end source⟩
    | part reached => exact laid.liesIn _ reached.mem
    | argument reached =>
      have stop := (laid.liesIn _ reached.mem).stop
      exact ⟨stop, stop⟩
  · cases h.of_mem_chain hl with
    | item reached => exact .inl ⟨_, reached.mem, rfl⟩
    | ended => exact .inr (.inr rfl)
    | part reached => exact .inl ⟨_, reached.mem, rfl⟩
    | argument reached lexeme => exact .inr (.inl ⟨_, reached.mem, ⟨_, lexeme⟩, _, rfl⟩)

/-- **Chains of errors are in order.**  Each link of the error of a source says where the next one
was needed, stands before it and covers an item, if it is not about the end of an expression or of
the source; an error that is never wrapped stands alone. -/
theorem wellChained_of_parse {limit : Nat} {source : String} {e : ParseError}
    (h : parseWithin limit source = .error e) : e.WellChained source.toList :=
  (sited_of_parse h).wellChained

/-- `wellChained_of_parse` for a bracket in an operand in an argument in a declaration. -/
theorem wellChained_of_parse_nested : ∃ e, parseWithin 8 "let x = f (1 + [" = .error e ∧
    e.chain.length = 4 ∧ e.WellChained "let x = f (1 + [".toList := by
  obtain ⟨e, h, links⟩ := exists_of_error (x := parseWithin 8 "let x = f (1 + [")
    (p := fun e => e.chain.length == 4) (by decide +kernel)
  exact ⟨e, h, by simpa using links, wellChained_of_parse h⟩

/-! ### Lexical errors -/

/-- The first lexical error among items, and the part of the source that it covers. -/
def firstError? : List Item → Option (LexError × Span)
  | [] => none
  | item :: items =>
    match item.lexeme with
    | .error c => some (c, item.span)
    | .token _ => firstError? items

theorem firstError?_of_reached {all after : List Item} {item : Item} {c : LexError}
    (reached : Reached all item after) (lexeme : item.lexeme = .error c) :
    firstError? all = some (c, item.span) := by
  obtain ⟨before, rfl, clean⟩ := reached
  induction before with
  | nil => simp [firstError?, lexeme]
  | cons i before ih =>
    obtain ⟨⟨t, ht⟩, clean⟩ := clean_cons.1 clean
    simpa [firstError?, ht] using ih clean

theorem exists_of_firstError? {all : List Item} {c : LexError} {span : Span}
    (h : firstError? all = some (c, span)) :
    ∃ item ∈ all, item.lexeme = .error c ∧ item.span = span := by
  induction all with
  | nil => cases h
  | cons i items ih =>
    rw [firstError?] at h
    split at h
    · cases h
      exact ⟨i, List.mem_cons_self, by assumption, rfl⟩
    · obtain ⟨item, hi, found⟩ := ih h
      exact ⟨item, List.mem_cons_of_mem _ hi, found⟩

/-- What reading comes to is no lexical error or the first one. -/
theorem Reached.eq_or_mem {all after : List Item} {item bad : Item} {c : LexError}
    (reached : Reached all item after) (hb : bad ∈ all) (lexeme : bad.lexeme = .error c) :
    bad = item ∨ bad ∈ after := by
  obtain ⟨before, rfl, clean⟩ := reached
  rcases List.mem_append.1 hb with hb | hb
  · exact absurd lexeme (clean.not_error hb)
  · exact List.mem_cons.1 hb

section First

variable {source : List Char} {all after : List Item} {item bad second : Item} {c : LexError}

theorem Reached.mem_suffix (reached : Reached all item after) : item :: after <:+ all := by
  obtain ⟨before, rfl, -⟩ := reached
  exact List.suffix_append ..

theorem Reached.start_le (reached : Reached all item after) (laid : Laid source all)
    (hb : bad ∈ all) (lexeme : bad.lexeme = .error c) : item.span.start ≤ bad.span.start := by
  rcases reached.eq_or_mem hb lexeme with rfl | hb
  · exact Nat.le_refl _
  · have order := (laid.suffix reached.mem_suffix).order
    exact Nat.le_of_lt ((List.pairwise_cons.1 order).1 bad hb).1

theorem Reached.stop_le {t : Token} (reached : Reached all item after) (laid : Laid source all)
    (token : item.lexeme = .token t) (hb : bad ∈ all) (lexeme : bad.lexeme = .error c) :
    item.span.stop ≤ bad.span.start := by
  rcases reached.eq_or_mem hb lexeme with rfl | hb
  · rw [token] at lexeme
    cases lexeme
  · have order := (laid.suffix reached.mem_suffix).order
    exact ((List.pairwise_cons.1 order).1 bad hb).2

theorem Reached.follower {t : Token} (reached : Reached all item (second :: after))
    (token : item.lexeme = .token t) : Reached all second after := by
  obtain ⟨before, rfl, clean⟩ := reached
  exact ⟨before ++ [item], by simp, clean.append (clean_nil.cons token)⟩

/-- **No error comes after a lexical error.** -/
theorem ParseError.Sited.start_le {e : ParseError} {sourceEnd : Nat}
    (h : e.Sited all sourceEnd) (laid : Laid source all) (hb : bad ∈ all)
    (lexeme : bad.lexeme = .error c) : e.span.start ≤ bad.span.start := by
  cases h with
  | item reached => exact reached.start_le laid hb lexeme
  | ended clean => exact absurd lexeme (clean.not_error hb)
  | part reached => exact reached.start_le laid hb lexeme
  | argument reached token => exact reached.stop_le laid token hb lexeme

end First

/-- How an error stands to the first lexical error `c` of its source, which covers `span`. -/
structure ParseError.StopsAt (c : LexError) (span : Span) (e : ParseError) : Prop where
  /-- If it is a lexical error, it is that one. -/
  lexical : ∀ site d, e = .plain site (.lexical d) → (d, site) = (c, span)
  /-- A paren that is not closed for a lexical error names that one. -/
  unclosed : ∀ link ∈ e.chain, ∀ site line column containsExpression d,
    link = .plain site (.unclosed line column containsExpression (some d)) → d = c
  /-- No link begins after that one. -/
  start_le : ∀ link ∈ e.chain, link.span.start ≤ span.start

/-- **A lexical error is never passed.**  A source with a lexical error is not read, and its error
does not go past the first one. -/
theorem stopsAt_of_firstError {limit : Nat} {source : String} {c : LexError} {span : Span}
    (h : firstError? (items source.toList) = some (c, span)) :
    ∃ e, parseWithin limit source = .error e ∧ e.StopsAt c span := by
  obtain ⟨bad, hb, lexeme, rfl⟩ := exists_of_firstError? h
  cases hp : parseWithin limit source with
  | ok value => exact absurd lexeme ((clean_of_parse hp).not_error hb)
  | error e =>
    have sited := sited_of_parse hp
    refine ⟨e, rfl, ?_, ?_, fun link hl => ?_⟩
    · rintro site d rfl
      cases sited with
      | item reached fits =>
        rw [firstError?_of_reached reached fits] at h
        exact Option.some.inj h
      | ended clean => exact absurd lexeme (clean.not_error hb)
    · rintro link hl site line column containsExpression d rfl
      cases sited.of_mem_chain hl with
      | item reached fits =>
        obtain ⟨⟨t, token⟩, second, tail, rfl, error⟩ := fits
        rw [firstError?_of_reached (reached.follower token) error] at h
        exact (Prod.mk.inj (Option.some.inj h)).1
      | ended clean => exact absurd lexeme (clean.not_error hb)
    · exact (sited.of_mem_chain hl).start_le (laid_items _) hb lexeme

/-- `stopsAt_of_firstError` for a paren that a lexical error follows, in an argument. -/
theorem stopsAt_of_firstError_unclosed :
    firstError? (items "f (# 'T".toList) = some (.unexpected '#', ⟨3, 1⟩) ∧
      ∃ e, parseWithin 8 "f (# 'T" = .error e ∧ e.StopsAt (.unexpected '#') ⟨3, 1⟩ := by
  have first : firstError? (items "f (# 'T".toList) = some (.unexpected '#', ⟨3, 1⟩) := by
    decide +kernel
  exact ⟨first, stopsAt_of_firstError first⟩

end Offside
