import Offside.Proofs.Lossless
import Offside.Proofs.Runs
import Offside.Proofs.TokenLists

/-!
# What is read can be told from its words

Every token that is scanned, comments aside, can be spelled (`spellable_of_scan`): names begin like
names and are none of the other words, numbers begin with a digit, operators have operator
characters only.  So the words in an expression that is read are what they seem, its operators are
bound by their symbols, and no application in it is curried: it is `Expr.Legible`
(`legible_of_parse`).
-/

namespace Offside

/-! ### Words that are scanned -/

theorem isOperatorChar_of_mem_operatorRun {cs : List Char} :
    ∀ c ∈ operatorRun cs, isOperatorChar c = true := by
  induction cs with
  | nil => exact List.forall_mem_nil _
  | cons c cs ih =>
    rw [operatorRun]
    split
    · next run => exact List.forall_mem_cons.2 ⟨(Bool.and_eq_true_iff.1 run).1, ih⟩
    · exact List.forall_mem_nil _

/-- No comment begins in a run of operator characters. -/
theorem not_infix_cons_operatorRun {c : Char} {cs : List Char}
    (apart : ¬(c = '/' ∧ cs.head? = some '/')) : ¬['/', '/'] <:+: c :: operatorRun cs := by
  induction cs generalizing c with
  | nil => exact fun h => absurd h.length_le (by simp [operatorRun])
  | cons d ds ih =>
    rw [operatorRun]
    split
    · next run =>
      intro h
      rcases List.infix_cons_iff.1 h with front | inside
      · obtain ⟨rest, h⟩ := front
        simp only [List.cons_append, List.nil_append, List.cons.injEq] at h
        exact apart ⟨h.1.symm, by rw [List.head?_cons, h.2.1]⟩
      · exact ih (by simpa [← not_and_or] using (Bool.and_eq_true_iff.1 run).2) inside
    · exact fun h => absurd h.length_le (by simp)

theorem isSymbol_of_run {c : Char} {cs : List Char} (operator : isOperatorChar c = true)
    (apart : ¬(c = '/' ∧ cs.head? = some '/')) :
    IsSymbol (String.ofList (c :: operatorRun cs)) := by
  refine .inr ?_
  rw [String.toList_ofList]
  exact ⟨by simp, List.forall_mem_cons.2 ⟨operator, isOperatorChar_of_mem_operatorRun⟩,
    not_infix_cons_operatorRun apart⟩

theorem areDigits_cons {c : Char} {cs : List Char} (h : c.isDigit = true) :
    AreDigits (c :: cs.takeWhile Char.isDigit) :=
  ⟨by simp, List.forall_mem_cons.2 ⟨h, fun _ => List.mem_takeWhile_imp⟩⟩

theorem isNumber_of_run {c : Char} (cs : List Char) (digit : c.isDigit = true) :
    IsNumber (String.ofList (c :: numberRun cs)) := by
  rw [IsNumber, String.toList_ofList, numberRun]
  split
  · next d ds _ =>
    split
    · next point =>
      refine .inr ⟨_, (d :: ds).takeWhile Char.isDigit, rfl, areDigits_cons digit, ?_⟩
      rw [List.takeWhile_cons_of_pos point]
      exact areDigits_cons point
    · exact .inl (by simpa using areDigits_cons digit)
  · exact .inl (by simpa using areDigits_cons digit)

theorem spellable_wordToken {c : Char} (cs : List Char)
    (start : c = '_' ∨ Unicode.isNameStart c = true) :
    (wordToken (String.ofList (c :: cs.takeWhile Unicode.isNameContinue))).Spellable := by
  unfold wordToken
  split
  · trivial
  split
  · trivial
  split
  · trivial
  split
  · trivial
  · next h₁ h₂ h₃ h₄ =>
    -- A word that is no keyword and no truth value is a name.
    refine ⟨by simp, by simpa using start, by simpa using fun d => List.mem_takeWhile_imp, ?_⟩
    simp only [List.mem_cons, List.not_mem_nil, or_false, not_or]
    exact ⟨h₁, h₂, h₃, h₄⟩

theorem spellable_bracketToken {c : Char} {t : Token} (h : bracketToken c = some t) :
    t.Spellable := by
  unfold bracketToken at h
  repeat' split at h
  all_goals cases h
  all_goals trivial

/-- **Every token that is scanned can be spelled**, comments aside. -/
theorem spellable_of_scan {c : Char} {cs : List Char} {s : Scan} {t : Token}
    (h : scan c cs = some s) (lexeme : s.lexeme = .token t) (other : t ≠ .comment) :
    t.Spellable := by
  have apart : ¬(c = '/' ∧ cs.head? = some '/') := by
    rintro ⟨rfl, next⟩
    -- Two slashes would begin a comment.
    obtain ⟨ds, rfl⟩ := List.head?_eq_some_iff.1 next
    obtain rfl := Option.some.inj h
    cases lexeme
    exact other rfl
  rcases scan_cases h with (⟨-, rfl⟩ | ⟨-, -, rfl⟩) | ⟨slash, next, -⟩ | rfl | rfl | rfl
  · cases lexeme
    trivial
  · cases lexeme
    trivial
  · exact absurd ⟨slash, next⟩ apart
  · unfold TextScan.toScan at lexeme
    split at lexeme <;> cases lexeme
    trivial
  · unfold scanGeneric at lexeme
    split at lexeme
    · split at lexeme <;> cases lexeme
      next start =>
      exact ⟨by simp, by simpa using start, by simpa using fun d => List.mem_takeWhile_imp⟩
    · cases lexeme
  · unfold scanPlain at lexeme
    split at lexeme
    · next bracket =>
      cases lexeme
      exact spellable_bracketToken bracket
    split at lexeme
    · cases lexeme
      exact .inl rfl
    split at lexeme
    · next digit =>
      cases lexeme
      exact isNumber_of_run cs digit
    split at lexeme
    · next operator =>
      cases lexeme
      exact isSymbol_of_run operator apart
    split at lexeme
    · next start =>
      obtain rfl := Lexeme.token.inj lexeme
      exact spellable_wordToken cs start
    · cases lexeme

/-- Whether an item is a token that can be spelled, if it is any but a comment. -/
def Item.Spellable (item : Item) : Prop :=
  ∀ t, item.lexeme = .token t → t ≠ .comment → t.Spellable

theorem spellable_of_mem_items {source : List Char} {item : Item} (h : item ∈ items source) :
    item.Spellable := by
  obtain ⟨c, cs, s, scanned, same, -⟩ := textIn_of_mem_items h
  exact fun t lexeme other => spellable_of_scan scanned (same.symm.trans lexeme) other

/-! ### Expressions that are read -/

namespace Expr

mutual

/-- Whether the words in an expression are what they seem, its operators are bound by their symbols
and no application is curried. -/
def Legible : Expr → Prop
  | .name _ spelling => IsName spelling
  | .number _ spelling => IsNumber spelling
  | .unit _ | .text _ _ | .bool _ _ => True
  | .block _ statements => LegibleAll statements
  | .declaration _ _ bound _ value => IsName bound ∧ value.Legible
  | .binary _ operator _ left right =>
    IsSymbol operator.symbol ∧ operator = .ofSymbol operator.symbol ∧ left.Legible ∧ right.Legible
  | .apply _ curried _ function argument =>
    curried = false ∧ function.Legible ∧ argument.Legible

/-- Whether expressions are legible. -/
def LegibleAll : List Expr → Prop
  | [] => True
  | e :: es => e.Legible ∧ LegibleAll es

end

theorem legibleAll_append {es es' : List Expr} :
    LegibleAll (es ++ es') ↔ LegibleAll es ∧ LegibleAll es' := by
  induction es with
  | nil => simp [LegibleAll]
  | cons e es ih => simp only [List.cons_append, LegibleAll, ih, and_assoc]

theorem Legible.statements {e : Expr} (h : e.Legible) : LegibleAll e.statements := by
  cases e with
  | block span es => exact h
  | _ => exact ⟨h, trivial⟩

theorem Legible.sequence {e : Expr} {es : List Expr} (h : e.Legible) (hs : LegibleAll es) :
    (e.sequence es).Legible := by
  cases es with
  | nil => exact h
  | cons e' es => exact ⟨h, hs⟩

end Expr

/-- That what is made of items is legible if they can be spelled, and what it goes on from is. -/
def Judgement.Legible (j : Judgement) : Prop :=
  (∀ item ∈ j.used, item.Spellable) →
    match j with
    | expression _ _ _ _ e | block _ _ _ _ _ e => e.Legible
    | extension _ _ lhs _ _ e => lhs.Legible → e.Legible
    | statements _ _ _ _ _ es => Expr.LegibleAll es

theorem Expr.legible_of_leaf {item : Item} {e : Expr} (spelled : item.Spellable)
    (h : item.first = .leaf e) : e.Legible := by
  obtain ⟨t, lexeme, leaf⟩ := Item.fits_of_first h
  have word := spelled t lexeme
  cases t <;> cases leaf
  · exact word (by simp)
  · exact word (by simp)
  · trivial
  · trivial

/-- **What is read is legible.** -/
theorem legible_of_derivable {j : Judgement} (h : Derivable j) : j.Legible := by
  induction h with
  | stop => exact fun _ legible => legible
  | comment _ _ ih | continuation _ _ _ ih | leadingComment _ _ ih | leadingNewline _ _ _ ih =>
    exact fun spelled => ih (List.forall_mem_cons.1 spelled).2
  | operator lexeme _ _ _ ihr ihn =>
    -- The operator of the token is bound by its symbol, by definition.
    intro spelled legible
    obtain ⟨symbol, inside⟩ := List.forall_mem_cons.1 spelled
    obtain ⟨right, next⟩ := List.forall_mem_append.1 inside
    exact ihn next ⟨symbol _ lexeme (by simp), rfl, legible, ihr right⟩
  | argument _ _ _ _ ihr ihn =>
    intro spelled legible
    obtain ⟨word, inside⟩ := List.forall_mem_cons.1 spelled
    obtain ⟨right, next⟩ := List.forall_mem_append.1 inside
    exact ihn next ⟨rfl, legible, ihr (List.forall_mem_cons.2 ⟨word, right⟩)⟩
  | leaf first _ ih =>
    intro spelled
    obtain ⟨word, next⟩ := List.forall_mem_cons.1 spelled
    exact ih next (Expr.legible_of_leaf word first)
  | unit _ _ _ ih =>
    exact fun spelled => ih (fun item hi => spelled item (by simp_all [Judgement.used])) trivial
  | group _ _ _ _ _ ihc ihn =>
    intro spelled
    exact ihn (fun item hi => spelled item (by simp_all [Judgement.used]))
      (ihc fun item hi => spelled item (by simp_all [Judgement.used]))
  | declaration _ _ named _ _ _ _ _ ih =>
    intro spelled
    exact ⟨spelled _ (by simp [Judgement.used]) _ named (by simp),
      ih fun item hi => spelled item (by simp_all [Judgement.used])⟩
  | finish => exact fun _ => trivial
  | statement _ _ _ _ _ ihc iho =>
    intro spelled
    obtain ⟨word, inside⟩ := List.forall_mem_cons.1 (List.forall_mem_append.1 spelled).2
    obtain ⟨content, others⟩ := List.forall_mem_append.1 inside
    exact Expr.legibleAll_append.2
      ⟨Expr.Legible.statements (ihc (List.forall_mem_cons.2 ⟨word, content⟩)), iho others⟩
  | block _ _ ihf iho =>
    intro spelled
    obtain ⟨first, others⟩ := List.forall_mem_append.1 spelled
    exact Expr.Legible.sequence (ihf first) (iho others)

/-- **A source is read as a legible expression.** -/
theorem legible_of_parse {limit : Nat} {source : String} {e : Expr}
    (h : parseWithin limit source = .ok e) : e.Legible := by
  rcases derivable_of_parse h with ⟨-, rfl⟩ | ⟨used, rest, split, -, derived⟩
  · trivial
  · refine legible_of_derivable derived fun item hi => ?_
    exact spellable_of_mem_items (split.symm ▸ List.mem_append_left rest hi)

end Offside
