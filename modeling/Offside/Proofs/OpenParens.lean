import Offside.Proofs.Failure
import Offside.Proofs.Parens

/-!
# Errors for parens

What the parser reads closes the parens that it opens (`balanced_of_derivable`).  So an error for a
closing paren stands where no paren is open, past a balanced list, and one for an opening paren at
the innermost paren that the source leaves open: what is behind it is balanced, which says that
each of the later parens is closed and that none of them closes this one.  `ParenError` collects
what an error knows of the items it was found in, the rules by which reading fails keep it up
(`knowsParens_of_fails`), and `Problem.Tells` is what it means for the whole source: **errors for
parens tell the truth** (`tells_of_parse`).
-/

namespace Offside

/-! ### Parens and the ones that close them -/

theorem Balanced.nil : Balanced [] := rfl

theorem Balanced.cons {item : Item} {items : List Item} (plain : item.isParen = false)
    (h : Balanced items) : Balanced (item :: items) :=
  (Balanced.of_not_isParen plain).append h

theorem Balanced.cons_of_lexeme {item : Item} {items : List Item} {t : Token}
    (lexeme : item.lexeme = .token t) (opening : t ≠ .opening .round)
    (closing : t ≠ .closing .round) (h : Balanced items) : Balanced (item :: items) :=
  h.cons (Item.not_isParen_of_lexeme lexeme opening closing)

theorem Balanced.of_trivia {items : List Item} (h : ∀ i ∈ items, i.isTrivia = true) :
    Balanced items := by
  induction items with
  | nil => rfl
  | cons item items ih =>
    obtain ⟨ht, h⟩ := List.forall_mem_cons.1 h
    rw [Balanced, List.foldlM_cons, parens_of_isTrivia ht]
    exact ih h

/-- **What is read closes the parens that it opens.** -/
theorem balanced_of_derivable {j : Judgement} (h : Derivable j) : Balanced j.used := by
  induction h with
  | stop | finish => exact .nil
  | comment lexeme _ ih => exact ih.cons_of_lexeme lexeme (by simp) (by simp)
  | continuation lexeme _ _ ih => exact ih.cons_of_lexeme lexeme (by simp) (by simp)
  | operator lexeme _ _ _ ihr ihn =>
    exact (ihr.append ihn).cons_of_lexeme lexeme (by simp) (by simp)
  | argument _ _ _ _ ihr ihn => exact ihr.append ihn
  | leadingComment lexeme _ ih => exact ih.cons_of_lexeme lexeme (by simp) (by simp)
  | leadingNewline lexeme _ _ ih => exact ih.cons_of_lexeme lexeme (by simp) (by simp)
  | leaf first _ ih => exact ih.cons (Item.not_isParen_of_leaf first)
  | unit opens closes _ ih =>
    exact (Balanced.nil.group (Item.isOpen_of_opening opens)
      (Item.isClose_of_closing closes)).append ih
  | @group _ _ _ _ opener close body skipped used _ opens _ trivia closes _ ihc ihn =>
    have inside : Balanced (body ++ skipped) := ihc.append (.of_trivia trivia)
    have grouped := (inside.group (Item.isOpen_of_opening opens)
      (Item.isClose_of_closing closes)).append ihn
    simpa [Judgement.used] using grouped
  | declaration lexeme _ named assigned trivia _ _ _ ih =>
    exact (((Balanced.of_trivia trivia).append ih).cons_of_lexeme assigned (by simp)
      (by simp)).cons_of_lexeme named (by simp) (by simp) |>.cons_of_lexeme lexeme (by simp)
        (by simp)
  | statement trivia _ _ _ _ ihc iho => exact (Balanced.of_trivia trivia).append (ihc.append iho)
  | block _ _ ihf iho => exact ihf.append iho

/-- That a paren which `after` follows is closed: what is between it and the closing paren is
balanced. -/
def Paired (after : List Item) : Prop :=
  ∃ inside close rest, after = inside ++ close :: rest ∧ Balanced inside ∧ close.isClose = true

/-- Before a balanced list ends, nothing outside of it is closed. -/
theorem Balanced.not_paired {after : List Item} (h : Balanced after) : ¬Paired after := by
  rintro ⟨inside, close, rest, rfl, balanced, closes⟩
  rw [Balanced, List.foldlM_append, balanced, Option.bind_eq_bind, Option.bind_some,
    List.foldlM_cons, parens_zero_of_isClose closes] at h
  cases h

/-- Where fewer parens are open in the end, one of those open before is closed. -/
theorem paired_of_foldlM {items : List Item} {depth after : Nat}
    (h : items.foldlM parens (depth + 1) = some after) (fewer : after ≤ depth) : Paired items := by
  induction hn : items.length using Nat.strongRecOn generalizing items depth with
  | ind len ih =>
    cases items with
    | nil =>
      cases h
      exact absurd fewer (Nat.not_succ_le_self depth)
    | cons item items =>
      rw [List.foldlM_cons, Option.bind_eq_bind, Option.bind_eq_some_iff] at h
      obtain ⟨d, hd, h⟩ := h
      simp only [List.length_cons] at hn
      by_cases opens : item.isOpen = true
      · -- A group comes first; the paren that closes this list comes past it.
        rw [parens_of_isOpen opens] at hd
        cases hd
        obtain ⟨inside, close, rest, rfl, balanced, closes⟩ :=
          ih _ (by omega) h (Nat.le_succ_of_le fewer) rfl
        rw [List.foldlM_append, balanced.foldlM, Option.bind_eq_bind, Option.bind_some,
          List.foldlM_cons, parens_succ_of_isClose closes] at h
        simp only [List.length_append, List.length_cons] at hn
        obtain ⟨inside', close', rest', rfl, balanced', closes'⟩ := ih _ (by omega) h fewer rfl
        exact ⟨_, close', rest', by simp, (balanced.group opens closes).append balanced', closes'⟩
      by_cases closes : item.isClose = true
      · exact ⟨[], item, items, rfl, .nil, closes⟩
      · have plain : item.isParen = false := by simp [Item.isParen, opens, closes]
        rw [parens_of_not_isParen plain] at hd
        cases hd
        obtain ⟨inside, close, rest, rfl, balanced, closes⟩ := ih _ (by omega) h fewer rfl
        exact ⟨_, close, rest, rfl, balanced.cons plain, closes⟩

/-- Each paren that opens in a balanced list is closed. -/
theorem Balanced.paired {front after : List Item} {opener : Item}
    (h : Balanced (front ++ opener :: after)) (opens : opener.isOpen = true) : Paired after := by
  rw [Balanced, List.foldlM_append, Option.bind_eq_bind, Option.bind_eq_some_iff] at h
  obtain ⟨depth, -, h⟩ := h
  rw [List.foldlM_cons, parens_of_isOpen opens] at h
  exact paired_of_foldlM h (Nat.zero_le depth)

/-! ### What errors know of parens -/

/-- What a problem for parens, found at `span` where `items` are to be read, knows of them;
`isGrouped` says whether a paren is open around them. -/
inductive ParenError (span : Span) : Bool → List Item → Problem → Prop
  /-- A closing paren is not expected past a balanced list, with no paren around it. -/
  | unexpectedClose (before : List Item) {after : List Item} {close : Item}
      (site : close.span = span) (closes : close.isClose = true) (balanced : Balanced before) :
      ParenError span false (before ++ close :: after) .unexpectedClose
  /-- An opening paren is not closed by what follows it, up to the end. -/
  | unclosed (before : List Item) {isGrouped containsExpression : Bool} {after : List Item}
      {opener : Item} (site : opener.span = span) (opens : opener.isOpen = true)
      (balanced : Balanced after) :
      ParenError span isGrouped (before ++ opener :: after)
        (.unclosed opener.position.line opener.position.column containsExpression none)
  /-- A lexical error comes right after an opening paren. -/
  | stuck (before : List Item) {isGrouped containsExpression : Bool} {after : List Item}
      {opener bad : Item} {c : LexError} (site : opener.span = span)
      (opens : opener.isOpen = true) (lexeme : bad.lexeme = .error c) :
      ParenError span isGrouped (before ++ opener :: bad :: after)
        (.unclosed opener.position.line opener.position.column containsExpression (some c))

/-- Whether a problem is about a paren that has none to go with it. -/
def Problem.aboutParens : Problem → Bool
  | unexpectedClose | unclosed .. => true
  | _ => false

/-- Whether a paren is open around what is to be read. -/
def Attempt.isGrouped : Attempt → Bool
  | expression _ ctx _ | extension _ ctx _ _ => ctx.isGrouped
  | statements _ _ isGrouped _ | block _ _ isGrouped _ => isGrouped

/-- That an error is about something else, or knows what it says of parens. -/
def ParseError.KnowsParens (isGrouped : Bool) (items : List Item) (e : ParseError) : Prop :=
  e.root.2.aboutParens = true → ParenError e.root.1 isGrouped items e.root.2

section Knowledge

variable {span : Span} {isGrouped : Bool} {before items : List Item} {problem : Problem}
  {e : ParseError}

theorem ParenError.append (h : ParenError span isGrouped items problem)
    (balanced : Balanced before) : ParenError span isGrouped (before ++ items) problem := by
  cases h with
  | unexpectedClose front site closes inside =>
    rw [← List.append_assoc]
    exact .unexpectedClose (before ++ front) site closes (balanced.append inside)
  | unclosed front site opens inside =>
    rw [← List.append_assoc]
    exact .unclosed (before ++ front) site opens inside
  | stuck front site opens lexeme =>
    rw [← List.append_assoc]
    exact .stuck (before ++ front) site opens lexeme

/-- Inside a group no closing paren is unexpected, so the paren before it does not matter. -/
theorem ParenError.of_grouped (h : ParenError span true items problem) (before : List Item) :
    ParenError span isGrouped (before ++ items) problem := by
  cases h with
  | unclosed front site opens inside =>
    rw [← List.append_assoc]
    exact .unclosed (before ++ front) site opens inside
  | stuck front site opens lexeme =>
    rw [← List.append_assoc]
    exact .stuck (before ++ front) site opens lexeme

namespace ParseError.KnowsParens

theorem of_not (h : e.root.2.aboutParens = false) : e.KnowsParens isGrouped items :=
  fun h' => by rw [h] at h'; cases h'

theorem wrap (h : e.KnowsParens isGrouped items) (span : Span) (what : Expectation) :
    (e.wrap span what).KnowsParens isGrouped items := by
  rw [KnowsParens, ParseError.root_wrap]
  exact h

theorem append (h : e.KnowsParens isGrouped items) (balanced : Balanced before) :
    e.KnowsParens isGrouped (before ++ items) :=
  fun about => (h about).append balanced

theorem cons {item : Item} {t : Token} (h : e.KnowsParens isGrouped items)
    (lexeme : item.lexeme = .token t) (opening : t ≠ .opening .round)
    (closing : t ≠ .closing .round) : e.KnowsParens isGrouped (item :: items) :=
  have plain : Balanced [item] := Balanced.nil.cons_of_lexeme lexeme opening closing
  h.append plain

theorem cons_of_trivia {item : Item} (h : e.KnowsParens isGrouped items)
    (trivia : item.isTrivia = true) : e.KnowsParens isGrouped (item :: items) :=
  have plain : Balanced [item] := .of_trivia (List.forall_mem_singleton.2 trivia)
  h.append plain

end ParseError.KnowsParens

theorem Problem.not_aboutParens_of_isLocal (h : problem.isLocal = true) :
    problem.aboutParens = false := by
  cases problem <;> first | rfl | cases h

theorem ParseError.KnowsParens.of_isLocal (h : e.root.2.isLocal = true) :
    e.KnowsParens isGrouped items :=
  .of_not (Problem.not_aboutParens_of_isLocal h)

/-- **Reading fails with errors that know what they say of parens.** -/
theorem knowsParens_of_fails {limit sourceEnd : Nat} {a : Attempt} {e : ParseError}
    (h : Fails limit sourceEnd a e) : e.KnowsParens a.isGrouped a.items := by
  induction h with
  | tooDeep => exact .of_isLocal (isLocal_tooDeep _ _ _)
  | leading trivia _ ih | past trivia _ ih => exact ih.cons_of_trivia trivia
  | misplaced first => exact .of_isLocal (Item.isLocal_of_misplaced (.inl first))
  | keyword | unbalanced | notIndented | noValue | noOperand => exact .of_not rfl
  | @close room ctx item items lexeme outside =>
    -- Inside a group the paren would close it, so no paren is open here.
    intro _
    rw [Attempt.isGrouped, outside]
    exact .unexpectedClose [] rfl (Item.isClose_of_closing lexeme) .nil
  | leaf first _ ih =>
    obtain ⟨t, lexeme, -⟩ := Item.fits_of_first first
    have plain : Balanced [_] := .of_not_isParen (Item.not_isParen_of_leaf first)
    exact ih.append plain
  | unit opens closes _ ih =>
    have unit := Balanced.nil.group (Item.isOpen_of_opening opens)
      (Item.isClose_of_closing closes)
    exact ih.append unit
  | @group room ctx opener close body skipped items inner e opens content trivia closes _ ih =>
    have inside : Balanced (body ++ skipped) :=
      (balanced_of_derivable content).append (.of_trivia trivia)
    have grouped := ih.append (inside.group (Item.isOpen_of_opening opens)
      (Item.isClose_of_closing closes))
    simpa [Attempt.items, Attempt.isGrouped] using grouped
  -- No closing paren is unexpected in a group, so the paren that opens it does not matter.
  | @content room ctx opener items e _ _ ih => exact fun about => (ih about).of_grouped [opener]
  | openEnd opens ends =>
    exact fun _ => .unclosed [] rfl (Item.isOpen_of_opening opens)
      (.of_trivia (significant_eq_nil_iff.1 ends))
  | openError opens lexeme =>
    exact fun _ => .stuck [] rfl (Item.isOpen_of_opening opens) lexeme
  | unclosed opens content ends =>
    exact fun _ => .unclosed [] rfl (Item.isOpen_of_opening opens)
      ((balanced_of_derivable content).append (.of_trivia (significant_eq_nil_iff.1 ends)))
  | name _ lacks | sign _ _ lacks => exact .of_isLocal (lacks.isLocal rfl)
  | value lexeme named assigned trivia _ ih =>
    exact ((((ih.append (.of_trivia trivia)).cons assigned (by simp) (by simp)).cons named
      (by simp) (by simp)).cons lexeme (by simp) (by simp)).wrap _ _
  | follow follow => exact .of_isLocal (Item.isLocal_of_misplaced (.inr follow))
  | operand lexeme _ ih => exact (ih.cons lexeme (by simp) (by simp)).wrap _ _
  | operator lexeme right _ ih =>
    exact (ih.append (balanced_of_derivable right)).cons lexeme (by simp) (by simp)
  | argument _ _ ih => exact ih.wrap _ _
  | application right _ ih => exact ih.append (balanced_of_derivable right)
  | statement trivia _ _ ih => exact ih.append (.of_trivia trivia)
  | others trivia content _ ih =>
    exact (ih.append (balanced_of_derivable content)).append (.of_trivia trivia)
  | first _ ih => exact ih
  | rest content _ ih => exact ih.append (balanced_of_derivable content)

end Knowledge

/-! ### Whole sources -/

/-- What a problem at `span` says of the parens among all items of its source. -/
def Problem.Tells (all : List Item) (span : Span) : Problem → Prop
  | unexpectedClose => ∃ before close after, all = before ++ close :: after ∧
    close.span = span ∧ close.isClose = true ∧ Balanced before
  | unclosed _ _ _ none => ∃ before opener after, all = before ++ opener :: after ∧
    opener.span = span ∧ opener.isOpen = true ∧ ¬Paired after ∧
    ∀ between later rest, after = between ++ later :: rest → later.isOpen = true → Paired rest
  | unclosed _ _ _ (some cause) => ∃ before opener bad after,
    all = before ++ opener :: bad :: after ∧ opener.span = span ∧ opener.isOpen = true ∧
    bad.lexeme = .error cause
  | _ => True

theorem ParenError.tells {span : Span} {isGrouped : Bool} {all : List Item} {problem : Problem}
    (h : ParenError span isGrouped all problem) : problem.Tells all span := by
  cases h with
  | unexpectedClose before site closes balanced => exact ⟨_, _, _, rfl, site, closes, balanced⟩
  | unclosed before site opens balanced =>
    refine ⟨_, _, _, rfl, site, opens, balanced.not_paired, ?_⟩
    rintro between later rest rfl later_opens
    exact balanced.paired later_opens
  | stuck before site opens lexeme => exact ⟨_, _, _, _, rfl, site, opens, lexeme⟩

theorem Problem.tells_of_not_aboutParens {problem : Problem} (h : problem.aboutParens = false)
    (all : List Item) (span : Span) : problem.Tells all span := by
  cases problem <;> trivial

/-- A paren that is left of a source closes nothing. -/
theorem knowsParens_of_leftover? {used rest : List Item} {e : ParseError}
    (balanced : Balanced used) (h : leftover? rest = some e) :
    e.KnowsParens false (used ++ rest) := by
  rw [leftover?] at h
  split at h
  · cases h
  next close tail hs =>
  obtain ⟨skipped, rfl, trivia, -⟩ := split_significant hs
  split at h <;> cases h
  · exact .of_not rfl
  · next closes =>
    intro _
    rw [← List.append_assoc]
    exact .unexpectedClose _ rfl (Item.isClose_of_closing closes)
      (balanced.append (.of_trivia trivia))
  · exact .of_not rfl

theorem knowsParens_of_parse {limit : Nat} {source : String} {e : ParseError}
    (h : parseWithin limit source = .error e) : e.KnowsParens false (items source.toList) := by
  -- Reading fails, or something is left of the items past what is read.
  rcases failure_of_parseItems h with fails | ⟨used, rest, value, split, left, derived⟩
  · exact knowsParens_of_fails fails
  · rw [split]
    exact knowsParens_of_leftover? (balanced_of_derivable derived) left

/-- **Errors for parens tell the truth.**  Let a source fail, for a problem at the end of the chain
of its error.  A closing paren that is not expected stands past balanced items.  A paren that is
never closed has no closing paren of its own, and each later one has: it is the innermost one left
open.  Where such a problem has a cause, that is the lexical error right after the paren. -/
theorem tells_of_parse {limit : Nat} {source : String} {e : ParseError} {span : Span}
    {problem : Problem} (h : parseWithin limit source = .error e)
    (last : e.chain.getLast e.chain_ne_nil = .plain span problem) :
    problem.Tells (items source.toList) span := by
  rw [ParseError.getLast_chain, ParseError.plain.injEq] at last
  obtain ⟨rfl, rfl⟩ := last
  have knows := knowsParens_of_parse h
  cases about : e.root.2.aboutParens with
  | false => exact Problem.tells_of_not_aboutParens about _ _
  | true => exact (knows about).tells

/-- `tells_of_parse` for a paren too many in an argument, one too few behind a group, and a lexical
error right after one. -/
theorem tells_of_parse_each :
    (∃ e, parseWithin 8 "f (a) + b) c" = .error e ∧
      Problem.Tells (items "f (a) + b) c".toList) ⟨9, 1⟩ .unexpectedClose) ∧
    (∃ e, parseWithin 8 "g (f (a)\nb" = .error e ∧
      Problem.Tells (items "g (f (a)\nb".toList) ⟨2, 1⟩ (.unclosed 1 2 true none)) ∧
    ∃ e, parseWithin 8 "f (g (# a)" = .error e ∧
      Problem.Tells (items "f (g (# a)".toList) ⟨5, 1⟩
        (.unclosed 1 5 false (some (.unexpected '#'))) := by
  have last {e : ParseError} {span : Span} {problem : Problem}
      (h : decide (e.chain.getLast e.chain_ne_nil = .plain span problem) = true) :=
    of_decide_eq_true h
  obtain ⟨e₁, h₁, last₁⟩ := exists_of_error (x := parseWithin 8 "f (a) + b) c")
    (p := fun e => decide (e.chain.getLast e.chain_ne_nil = .plain ⟨9, 1⟩ .unexpectedClose))
    (by decide +kernel)
  obtain ⟨e₂, h₂, last₂⟩ := exists_of_error (x := parseWithin 8 "g (f (a)\nb")
    (p := fun e => decide (e.chain.getLast e.chain_ne_nil =
      .plain ⟨2, 1⟩ (.unclosed 1 2 true none))) (by decide +kernel)
  obtain ⟨e₃, h₃, last₃⟩ := exists_of_error (x := parseWithin 8 "f (g (# a)")
    (p := fun e => decide (e.chain.getLast e.chain_ne_nil =
      .plain ⟨5, 1⟩ (.unclosed 1 5 false (some (.unexpected '#'))))) (by decide +kernel)
  exact ⟨⟨e₁, h₁, tells_of_parse h₁ (last last₁)⟩, ⟨e₂, h₂, tells_of_parse h₂ (last last₂)⟩,
    e₃, h₃, tells_of_parse h₃ (last last₃)⟩

end Offside
