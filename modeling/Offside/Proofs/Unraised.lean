import Offside.Proofs.Failure

/-!
# Problems that never arise

Some problems that the parser provides for have no source (`Problem.isUnraised`).  An argument is
never missing, for the item that calls for it begins it; past the block of a group stands the paren
that closes it or the end of the source, so no other item stands in its place, and no lexical error
either.  A group without an expression is unbalanced only where trivia come between its parens
(`Hollow`).

`arises_of_fails` is the induction over the rules by which reading fails.  It also says that a
dedented line is no problem while statements are read: that is left for the end of a source.
-/

namespace Offside

/-- Whether a problem is provided for but never arises. -/
def Problem.isUnraised : Problem → Bool
  | expectedClose | missing .argument | unclosed _ _ true (some _) => true
  | _ => false

/-- That at `span` a paren opens, and that trivia and then a closing paren follow it. -/
def Hollow (all : List Item) (span : Span) : Prop :=
  ∃ before opener skipped close after, all = before ++ opener :: (skipped ++ close :: after) ∧
    opener.span = span ∧ opener.isOpen = true ∧ skipped ≠ [] ∧
      (∀ i ∈ skipped, i.isTrivia = true) ∧ close.isClose = true

/-- That a problem may arise at `span` of a source with the items `all`. -/
structure Problem.Arises (all : List Item) (span : Span) (problem : Problem) : Prop where
  /-- It is one of those that do. -/
  raised : problem.isUnraised = false
  /-- It is no unbalanced group but a hollow one. -/
  hollow : problem = .unbalanced → Hollow all span

/-- That an error may arise while `items` are read. -/
structure ParseError.ArisesIn (items : List Item) (e : ParseError) : Prop where
  /-- Its problem may. -/
  root : e.root.2.Arises items e.root.1
  /-- It is about no dedented line. -/
  indented : e.root.2 ≠ .inconsistentIndentation

section

variable {front items : List Item} {span : Span} {problem : Problem} {e : ParseError}

theorem Hollow.append (h : Hollow items span) : Hollow (front ++ items) span := by
  obtain ⟨before, opener, skipped, close, after, rfl, h⟩ := h
  exact ⟨front ++ before, opener, skipped, close, after, (List.append_assoc ..).symm, h⟩

theorem Problem.arises_of_isLocal (h : problem.isLocal = true) : problem.Arises items span := by
  constructor
  · cases problem with
    | missing | unclosed | expectedClose => cases h
    | _ => rfl
  · rintro rfl
    cases h

theorem Problem.Arises.append (h : problem.Arises items span) :
    problem.Arises (front ++ items) span :=
  ⟨h.raised, fun unbalanced => (h.hollow unbalanced).append⟩

namespace ParseError.ArisesIn

theorem of_isLocal (h : e.root.2.isLocal = true) : e.ArisesIn items := by
  refine ⟨Problem.arises_of_isLocal h, fun dedented => ?_⟩
  rw [dedented] at h
  cases h

/-- A problem that may arise whatever the items are. -/
theorem plain (raised : problem.isUnraised = false) (other : problem ≠ .unbalanced)
    (indented : problem ≠ .inconsistentIndentation) :
    (ParseError.plain span problem).ArisesIn items :=
  ⟨⟨raised, fun unbalanced => absurd unbalanced other⟩, indented⟩

theorem append (h : e.ArisesIn items) (front : List Item) : e.ArisesIn (front ++ items) :=
  ⟨h.root.append, h.indented⟩

theorem cons (h : e.ArisesIn items) (item : Item) : e.ArisesIn (item :: items) := h.append [item]

theorem wrap (h : e.ArisesIn items) (span : Span) (what : Expectation) :
    (e.wrap span what).ArisesIn items := by
  obtain ⟨root, indented⟩ := h
  rw [← ParseError.root_wrap e span what] at root indented
  exact ⟨root, indented⟩

end ParseError.ArisesIn

end

theorem hollow_of_significant {opener first close : Item} {items tail : List Item}
    (opens : opener.isOpen = true) (trivia : first.isTrivia = true)
    (next : significant items = close :: tail) (closes : close.isClose = true) :
    Hollow (opener :: first :: items) opener.span := by
  obtain ⟨skipped, rfl, others, -⟩ := split_significant next
  exact ⟨[], opener, first :: skipped, close, tail, rfl, rfl, opens, by simp,
    List.forall_mem_cons.2 ⟨trivia, others⟩, closes⟩

/-- **Reading fails with errors that may arise.** -/
theorem arises_of_fails {limit sourceEnd : Nat} {a : Attempt} {e : ParseError}
    (h : Fails limit sourceEnd a e) : e.ArisesIn a.items := by
  induction h with
  | tooDeep => exact .of_isLocal (isLocal_tooDeep _ _ _)
  | misplaced first => exact .of_isLocal (Item.isLocal_of_misplaced (.inl first))
  | follow follow => exact .of_isLocal (Item.isLocal_of_misplaced (.inr follow))
  | keyword => exact .of_isLocal rfl
  | name _ lacks | sign _ _ lacks => exact .of_isLocal (lacks.isLocal rfl)
  -- What is missing is the value of a declaration or an operand.
  | close | openEnd | openError | unclosed | notIndented | noValue | noOperand =>
    exact .plain rfl (by simp) (by simp)
  | unbalanced opens trivia next closes =>
    have hollow := hollow_of_significant (Item.isOpen_of_opening opens) trivia next closes
    exact ⟨⟨rfl, fun _ => hollow⟩, by simp [ParseError.root]⟩
  | leading _ _ ih | leaf _ _ ih | content _ _ ih | past _ _ ih => exact ih.cons _
  | unit _ _ _ ih => exact (ih.cons _).cons _
  | @group _ _ opener close body skipped _ _ _ _ _ _ _ _ ih =>
    exact (((ih.cons close).append skipped).append body).cons opener
  | value _ _ _ _ _ ih => exact ((((ih.append _).cons _).cons _).cons _).wrap _ _
  | operand _ _ ih => exact (ih.cons _).wrap _ _
  | operator _ _ _ ih => exact (ih.append _).cons _
  | argument _ _ ih => exact ih.wrap _ _
  | application _ _ ih | statement _ _ _ ih | rest _ _ ih => exact ih.append _
  | others _ _ _ ih => exact (ih.append _).append _
  | first _ ih => exact ih

theorem Problem.arises_of_leftover? {all rest : List Item} {e : ParseError}
    (h : leftover? rest = some e) : e.root.2.Arises all e.root.1 := by
  rw [leftover?] at h
  split at h
  · cases h
  · split at h <;> cases h <;> exact ⟨rfl, by simp [ParseError.root]⟩

/-- **No error of a source is one that never arises**, at any link of its chain, and one for an
unbalanced group is about a paren with nothing but trivia before the paren that closes it. -/
theorem arises_of_parse {limit : Nat} {source : String} {e : ParseError} {span : Span}
    {problem : Problem} (h : parseWithin limit source = .error e)
    (link : .plain span problem ∈ e.chain) : problem.Arises (items source.toList) span := by
  have root := ParseError.plain_mem_chain.1 link
  have arises : e.root.2.Arises (items source.toList) e.root.1 := by
    rcases failure_of_parseItems h with fails | ⟨_, _, _, -, left, -⟩
    · exact (arises_of_fails fails).root
    · exact Problem.arises_of_leftover? left
  rwa [root] at arises

/-- `arises_of_parse` for an argument in whose parens stands only a comment. -/
theorem arises_of_parse_hollow : ∃ e, parseWithin 8 "f (// c\n)" = .error e ∧
    .plain ⟨2, 1⟩ .unbalanced ∈ e.chain ∧
      Problem.Arises (items "f (// c\n)".toList) ⟨2, 1⟩ .unbalanced := by
  obtain ⟨e, failed, link⟩ := exists_of_error (x := parseWithin 8 "f (// c\n)")
    (p := fun e => decide (.plain ⟨2, 1⟩ .unbalanced ∈ e.chain)) (by decide +kernel)
  have link := of_decide_eq_true link
  exact ⟨e, failed, link, arises_of_parse failed link⟩

end Offside
