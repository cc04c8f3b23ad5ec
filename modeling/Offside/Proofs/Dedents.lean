import Offside.Proofs.Cutting
import Offside.Proofs.Exchange
import Offside.Proofs.LineFeeds
import Offside.Proofs.Unraised

/-!
# Dedented lines

A source is found to be indented inconsistently just where a token leads its line to the left of the
first statement, provided that all before it is read (`inconsistentIndentation_iff`).

* Such a token is not read with what is before it, for that ends on an earlier line
  (`tight_of_derivable`), and what is before it is read alike with the token after it or without it,
  for the token is outside of the statements of the source (`exchanged_of_derivable`).
* Nothing else is left of a source: what is left begins with a line break or a closing paren, and
  past the line break with an item that the block of the source cannot have.
* The source before the token falls into the items before it (`exists_cut_items`).
-/

namespace Offside

/-! ### Where what is read ends -/

/-- That a significant item stands behind each line break among items. -/
def Tight : List Item → Prop
  | [] => True
  | item :: items => (item.isNewline = true → significant items ≠ []) ∧ Tight items

namespace Tight

variable {item : Item} {xs ys : List Item}

theorem cons (h : Tight xs) (other : item.isNewline = false) : Tight (item :: xs) :=
  ⟨fun newline => by simp [other] at newline, h⟩

theorem cons_of_token {t : Token} (h : Tight xs) (lexeme : item.lexeme = .token t)
    (other : t ≠ .newline) : Tight (item :: xs) :=
  h.cons (by simp [Item.isNewline, lexeme, other])

theorem append (h : significant ys = [] → Tight xs) (h' : Tight ys) : Tight (xs ++ ys) := by
  induction xs with
  | nil => exact h'
  | cons x xs ih =>
    rw [List.cons_append]
    refine ⟨fun newline none => ?_, ih fun hs => (h hs).2⟩
    rw [significant_append_eq_nil_iff] at none
    exact (h none.2).1 newline none.1

/-- Whatever comes before a significant item, no line break is the last of it. -/
theorem append_of_ne_nil (h : Tight ys) (some : significant ys ≠ []) : Tight (xs ++ ys) := by
  induction xs with
  | nil => exact h
  | cons x xs ih =>
    rw [List.cons_append]
    exact ⟨fun _ none => some (significant_append_eq_nil_iff.1 none).2, ih⟩

theorem not_newline (h : Tight xs) (trivia : significant xs = []) :
    ∀ i ∈ xs, i.isNewline = false := by
  induction xs with
  | nil => simp
  | cons x xs ih =>
    rw [significant_eq_nil_iff, List.forall_mem_cons, ← significant_eq_nil_iff] at trivia
    refine List.forall_mem_cons.2 ⟨?_, ih h.2 trivia.2⟩
    exact Bool.eq_false_iff.2 fun newline => h.1 newline trivia.2

/-- No line break comes after the last significant item. -/
theorem exists_last (h : Tight xs) (some : significant xs ≠ []) : ∃ before last after,
    xs = before ++ last :: after ∧ last.isTrivia = false ∧ ∀ i ∈ after, i.isNewline = false := by
  induction xs with
  | nil => exact absurd rfl some
  | cons x xs ih =>
    by_cases more : significant xs = []
    · refine ⟨[], x, xs, rfl, ?_, h.2.not_newline more⟩
      by_contra trivia
      exact some ((significant_cons_of_trivia (by simpa using trivia) xs).trans more)
    · obtain ⟨before, last, after, rfl, found⟩ := ih h.2 more
      exact ⟨x :: before, last, after, rfl, found⟩

end Tight

theorem significant_ne_nil {item : Item} {items : List Item} (h : item.isTrivia = false) :
    significant (item :: items) ≠ [] := by
  simp [significant_cons h]

/-- That what is read ends with its last significant item, comments aside, if nothing significant is
left. -/
def Judgement.EndsTight : Judgement → Prop
  | expression _ _ used rest _ | extension _ _ _ used rest _ | statements _ _ _ used rest _
  | block _ _ _ used rest _ => significant rest = [] → Tight used

/-- **A source is read up to a significant item, and to the end of its line.** -/
theorem tight_of_derivable {j : Judgement} (h : Derivable j) : j.EndsTight := by
  induction h with
  | stop | finish => exact fun _ => trivial
  | comment lexeme _ ih | leadingComment lexeme _ ih =>
    exact fun trivia => (ih trivia).cons_of_token lexeme (by simp)
  | @continuation _ ctx _ _ _ used rest _ continues _ ih =>
    -- The expression goes on past the line break with a significant item.
    refine fun trivia => ⟨fun _ none => ?_, ih trivia⟩
    have skipped := significant_eq_nil_iff.1 none
    simp [Context.continues, significant_append skipped, trivia] at continues
  | operator lexeme _ _ _ ihr ihn =>
    intro trivia
    have right := fun hs => ihr (significant_append_eq_nil_iff.2 ⟨hs, trivia⟩)
    exact (Tight.append right (ihn trivia)).cons_of_token lexeme (by simp)
  | argument _ _ _ _ ihr ihn =>
    intro trivia
    exact .append (fun hs => ihr (significant_append_eq_nil_iff.2 ⟨hs, trivia⟩)) (ihn trivia)
  | leadingNewline _ _ next ih =>
    obtain ⟨first, tail, begins, -⟩ := begins_of_derivable next
    exact fun trivia => ⟨fun _ => by simp [begins], ih trivia⟩
  | leaf first _ ih =>
    exact fun trivia => (ih trivia).cons
      (Item.not_isNewline_of_not_isTrivia (Item.not_isTrivia_of_leaf first))
  | unit opens closes _ ih =>
    exact fun trivia =>
      ((ih trivia).cons_of_token closes (by simp)).cons_of_token opens (by simp)
  | @group _ _ _ _ _ close _ skipped used _ opens _ _ closes _ _ ih =>
    intro trivia
    have some : significant (close :: used) ≠ [] :=
      significant_ne_nil (Item.not_isTrivia_of_lexeme closes (by simp) (by simp))
    have closed : Tight (close :: used) := (ih trivia).cons_of_token closes (by simp)
    rw [← List.append_assoc]
    exact (closed.append_of_ne_nil some).cons_of_token opens (by simp)
  | declaration lexeme _ named assigned _ solid _ _ ih =>
    intro trivia
    exact ((((ih trivia).append_of_ne_nil (significant_ne_nil solid)).cons_of_token assigned
      (by simp)).cons_of_token named (by simp)).cons_of_token lexeme (by simp)
  | statement _ solid _ _ _ ihc iho =>
    intro trivia
    refine Tight.append_of_ne_nil ?_ (significant_ne_nil solid)
    exact .append (fun hs => ihc (significant_append_eq_nil_iff.2 ⟨hs, trivia⟩)) (iho trivia)
  | block _ _ ihf iho =>
    intro trivia
    exact .append (fun hs => ihf (significant_append_eq_nil_iff.2 ⟨hs, trivia⟩)) (iho trivia)

/-! ### What is left of a source -/

/-- Whether an item is a token that is neither a comment, a line break nor a closing paren. -/
structure Item.IsContent (item : Item) : Prop where
  /-- It is a token. -/
  token : ∃ t, item.lexeme = .token t
  /-- It is no trivia. -/
  solid : item.isTrivia = false
  /-- It closes no group. -/
  closes : item.isClose = false

/-- A source is indented inconsistently where something is left of it that is no closing paren. -/
theorem leftover?_eq_some_iff {rest : List Item} {span : Span} :
    leftover? rest = some (.plain span .inconsistentIndentation) ↔
      ∃ item tail, significant rest = item :: tail ∧ item.IsContent ∧ item.span = span := by
  rw [leftover?]
  cases hs : significant rest with
  | nil => simp
  | cons item tail =>
    have solid := isTrivia_of_significant hs
    dsimp only
    split
    · next lexeme =>
      refine ⟨fun h => by simp at h, ?_⟩
      rintro ⟨_, _, ⟨⟩, ⟨⟨t, token⟩, -⟩, -⟩
      rw [lexeme] at token
      cases token
    · next lexeme =>
      refine ⟨fun h => by simp at h, ?_⟩
      rintro ⟨_, _, ⟨⟩, ⟨-, -, closes⟩, -⟩
      rw [Item.isClose_of_closing lexeme] at closes
      cases closes
    · next t other lexeme =>
      have closes : item.isClose = false := by
        rw [Item.isClose_of_lexeme lexeme]
        simpa using other
      refine ⟨fun h => ?_, ?_⟩
      · exact ⟨item, tail, rfl, ⟨⟨t, lexeme⟩, solid, closes⟩, by simpa using h⟩
      · rintro ⟨_, _, ⟨⟩, -, rfl⟩
        rfl

theorem firstColumn_append {xs : List Item} (some : significant xs ≠ []) (ys : List Item) :
    firstColumn (xs ++ ys) = firstColumn xs := by
  obtain ⟨item, tail, hs⟩ := List.exists_cons_of_ne_nil some
  rw [firstColumn, firstColumn, significant_append_of_cons hs, hs]

theorem startsFrom_firstColumn (items : List Item) : StartsFrom (firstColumn items) items := by
  intro item hi
  obtain ⟨tail, hs⟩ := List.head?_eq_some_iff.1 hi
  rw [firstColumn, hs]

theorem significant_used_ne_nil {room level : Nat} {isGrouped : Bool} {used rest : List Item}
    {e : Expr} (h : Derivable (.block room level isGrouped used rest e)) :
    significant used ≠ [] := by
  obtain ⟨item, tail, hs, -⟩ := begins_of_derivable h
  simp [hs]

/-- The block of a source is read alike with other items after it that are outside of it. -/
theorem derivable_exchange {room : Nat} {isGrouped : Bool} {used rest rest' : List Item} {e : Expr}
    (h : Derivable (.block room (firstColumn used) isGrouped used rest e))
    (order : (used ++ rest).IsChain Item.Precedes) (outside : Outside (firstColumn used) rest)
    (outside' : Outside (firstColumn used) rest') (left : LeftOf (firstColumn used) rest') :
    Derivable (.block room (firstColumn used) isGrouped used rest' e) := by
  have exchanged : (Judgement.block room (firstColumn used) isGrouped used rest e).Exchanged
    (firstColumn used) rest rest' := exchanged_of_derivable outside outside' h order
  exact exchanged [] rfl fun _ => ⟨Nat.le_refl _, left, startsFrom_firstColumn used⟩

/-- Items from a line break on are outside of a block that the first significant one of them stands
left of. -/
theorem outside_of_left {base : Nat} {nl item : Item} {skipped : List Item}
    (newline : nl.isNewline = true) (trivia : ∀ i ∈ nl :: skipped, i.isTrivia = true)
    (solid : item.isTrivia = false) (left : item.column < base) (tail : List Item) :
    Outside base (nl :: skipped ++ item :: tail) ∧ LeftOf base (nl :: skipped ++ item :: tail) := by
  have next : significant (nl :: skipped ++ item :: tail) = item :: tail := by
    rw [significant_append trivia, significant_cons solid]
  refine ⟨⟨by simpa using newline, fun i hi => ?_⟩, fun i hi => ?_⟩
  · rw [next] at hi
    cases hi
    exact ⟨Nat.le_of_lt left, fun same => absurd same (Nat.ne_of_lt left)⟩
  · rw [next] at hi
    cases hi
    exact left

/-- **What is left of a source begins with a line break**, and past it stands an item left of the
first one. -/
theorem exists_leftover {limit : Nat} {used rest tail : List Item} {item : Item} {e : Expr}
    (h : Derivable (.block limit (firstColumn used) false used rest e))
    (next : significant rest = item :: tail) (content : item.IsContent) :
    ∃ nl skipped, rest = nl :: skipped ++ item :: tail ∧ nl.isNewline = true ∧
      (∀ i ∈ nl :: skipped, i.isTrivia = true) ∧ item.column < firstColumn used := by
  obtain ⟨atBreak, ends⟩ := breaks_of_derivable h
  obtain ⟨skipped, rfl, trivia, -⟩ := split_significant next
  have left : item.column < firstColumn used := by
    simpa [blockEnds, next] using ends
  cases skipped with
  | nil =>
    -- The item itself ends nothing: it is neither a line break nor a closing paren.
    rcases atBreak item rfl with newline | closes
    · rw [Item.not_isNewline_of_not_isTrivia content.solid] at newline
      cases newline
    · rw [content.closes] at closes
      cases closes
  | cons nl skipped =>
    refine ⟨nl, skipped, rfl, (atBreak nl rfl).resolve_right fun closes => ?_, trivia, left⟩
    have solid := Item.not_isTrivia_of_isClose closes
    rw [trivia nl List.mem_cons_self] at solid
    cases solid

/-- What is left of a source is its error. -/
theorem parseItems_of_leftover {limit sourceEnd : Nat} {used rest : List Item} {e : Expr}
    {err : ParseError} (h : Derivable (.block limit (firstColumn (used ++ rest)) false used rest e))
    (left : leftover? rest = some err) :
    parseItems limit sourceEnd (used ++ rest) = .error err := by
  have read : block (expression limit sourceEnd limit) (firstColumn (used ++ rest)) false
      (used ++ rest) = .ok (.found e, rest) := run_of_derivable h
  rw [parseItems, read]
  simp [left]

/-! ### Leading a line -/

/-- That no other significant token stands before an item on its line. -/
def LeadsLine (source : List Char) (item : Item) : Prop :=
  ∀ other ∈ items source, (∃ t, other.lexeme = .token t) → other.isTrivia = false →
    other.lineIn source = item.lineIn source → item.span.start ≤ other.span.start

section

variable {source : List Char} {used skipped back : List Item} {nl item : Item}

theorem start_lt_of_split {front after : List Item} {a b : Item}
    (split : items source = front ++ after) (ha : a ∈ front) (hb : b ∈ after) :
    a.span.start < b.span.start := by
  have order := pairwise_of_isChain (lexes_items source).isChain
  rw [split, List.pairwise_append] at order
  exact (order.2.2 a ha b hb).1

/-- Past a line break and trivia an item leads its line. -/
theorem leadsLine_of_newline (split : items source = used ++ (nl :: skipped ++ item :: back))
    (newline : nl.isNewline = true) (trivia : ∀ i ∈ nl :: skipped, i.isTrivia = true) :
    LeadsLine source item := by
  intro other mem _ solid line
  have here : item ∈ items source := by simp [split]
  rw [Item.lineIn_eq mem, Item.lineIn_eq here] at line
  rw [split, List.mem_append, List.mem_append, List.mem_cons (b := item)] at mem
  rcases mem with before | between | rfl | after
  · have later : item ∈ skipped ++ item :: back := List.mem_append_right _ List.mem_cons_self
    have earlier := line_lt_of_newline split newline before later
    exact absurd line (Nat.ne_of_lt earlier)
  · rw [trivia other between] at solid
    cases solid
  · exact Nat.le_refl _
  · have whole : items source = (used ++ (nl :: skipped ++ [item])) ++ back := by simp [split]
    exact Nat.le_of_lt (start_lt_of_split whole (by simp) after)

/-- An item that leads its line does not come right behind what is read. -/
theorem not_leadsLine_of_tight (split : items source = used ++ item :: back) (tight : Tight used)
    (some : significant used ≠ []) (clean : Clean used) : ¬LeadsLine source item := by
  intro leads
  obtain ⟨before, last, after, rfl, solid, line⟩ := tight.exists_last some
  have first : items source = before ++ last :: (after ++ item :: back) := by simp [split]
  have mem : last ∈ items source := by simp [first]
  have here : item ∈ items source := by simp [split]
  -- The last significant item is on the same line.
  have line : ∀ i ∈ last :: after, i.isNewline = false :=
    List.forall_mem_cons.2 ⟨Item.not_isNewline_of_not_isTrivia solid, line⟩
  have none : (last :: after).countP (Item.endsLine source) = 0 := by
    refine List.countP_eq_zero.2 fun i hi => ?_
    obtain ⟨t, lexeme⟩ := clean i (List.mem_append_right _ hi)
    simp [Item.endsLine_of_token lexeme, line i hi]
  have same : last.lineIn source = item.lineIn source := by
    rw [Item.lineIn_eq mem, Item.lineIn_eq here, line_eq_countP first, line_eq_countP split,
      List.countP_append, none, Nat.add_zero]
  have lt : last.span.start < item.span.start :=
    start_lt_of_split split (by simp) List.mem_cons_self
  exact Nat.not_le_of_lt lt (leads last mem (clean last (by simp)) solid same)

end

/-! ### Sources -/

/-- That an item of a source, neither trivia nor a closing paren, leads its line to the left of the
first significant one. -/
structure Dedented (source : List Char) (item : Item) : Prop where
  /-- It is an item of the source. -/
  mem : item ∈ items source
  /-- It is a token of a statement. -/
  content : item.IsContent
  /-- It leads its line. -/
  leads : LeadsLine source item
  /-- It stands left of the first one. -/
  left : item.column < firstColumn (items source)

/-- That a source is read up to an offset, and that a statement is in it. -/
def ReadBefore (limit : Nat) (source : List Char) (offset : Nat) : Prop :=
  ∃ before, takeBytes? offset source = some before ∧ significant (items before) ≠ [] ∧
    ∃ e, parseWithin limit (String.ofList before) = .ok e

theorem parseWithin_ofList (limit : Nat) (text : List Char) :
    parseWithin limit (String.ofList text) = parseItems limit (byteLength text) (items text) := by
  rw [parseWithin, String.toList_ofList]

theorem dedented_of_parse {limit : Nat} {source : String} {span : Span}
    (h : parseWithin limit source = .error (.plain span .inconsistentIndentation)) :
    (∃ item, Dedented source.toList item ∧ item.span = span) ∧
      ReadBefore limit source.toList span.start := by
  rcases failure_of_parseItems h with fails | ⟨used, rest, e, split, left, derived⟩
  · exact absurd rfl (arises_of_fails fails).indented
  obtain ⟨item, tail, next, content, rfl⟩ := leftover?_eq_some_iff.1 left
  have some := significant_used_ne_nil derived
  have order : (used ++ rest).IsChain Item.Precedes := split ▸ (lexes_items _).isChain
  rw [split, firstColumn_append some] at derived
  obtain ⟨nl, skipped, rfl, newline, trivia, column⟩ := exists_leftover derived next content
  have whole : items source.toList = used ++ nl :: skipped ++ item :: tail := by simp [split]
  have none : significant (nl :: skipped) = [] := significant_eq_nil_iff.2 trivia
  constructor
  · refine ⟨item, ⟨by simp [whole], content, leadsLine_of_newline split newline trivia, ?_⟩, rfl⟩
    rwa [split, firstColumn_append some]
  · -- The block of the source is read alike without the item and what follows it.
    have alone : Derivable (.block limit (firstColumn used) false used (nl :: skipped) e) :=
      derivable_exchange derived order
        (outside_of_left newline trivia content.solid column tail).1
        (outside_of_trivia (by simpa using newline) none) (by simp [LeftOf, none])
    rw [← firstColumn_append some (nl :: skipped)] at alone
    obtain ⟨t, lexeme⟩ := content.token
    obtain ⟨before, taken, same⟩ := exists_cut_items whole lexeme
    refine ⟨before, taken, ?_, e, ?_⟩
    · rw [same]
      exact fun empty => some (significant_append_eq_nil_iff.1 empty).1
    · rw [parseWithin_ofList, same]
      exact parseItems_of_derivable alone none

theorem parse_of_dedented {limit : Nat} {source : String} {item : Item}
    (dedented : Dedented source.toList item)
    (read : ReadBefore limit source.toList item.span.start) :
    parseWithin limit source = .error (.plain item.span .inconsistentIndentation) := by
  obtain ⟨mem, content, leads, left⟩ := dedented
  obtain ⟨before, taken, begins, e, parsed⟩ := read
  obtain ⟨t, lexeme⟩ := content.token
  obtain ⟨front, back, split⟩ := List.append_of_mem mem
  obtain ⟨before', taken', rfl⟩ := exists_cut_items split lexeme
  obtain rfl : before' = before := Option.some.inj (taken'.symm.trans taken)
  rw [parseWithin_ofList] at parsed
  obtain ⟨used, rest, joined, trivia, derived⟩ :=
    (derivable_of_parseItems parsed).resolve_left fun empty => begins empty.1
  have some := significant_used_ne_nil derived
  rw [joined, firstColumn_append some] at derived
  rw [joined] at split
  cases rest with
  | nil =>
    rw [List.append_nil] at split
    exact absurd leads (not_leadsLine_of_tight split (tight_of_derivable derived trivia) some
      (clean_of_derivable derived))
  | cons nl skipped =>
    have skip := significant_eq_nil_iff.1 trivia
    have newline : nl.isNewline = true := by
      refine ((breaks_of_derivable derived).1 nl rfl).resolve_right fun closes => ?_
      have solid := Item.not_isTrivia_of_isClose closes
      rw [skip nl List.mem_cons_self] at solid
      cases solid
    have order : (used ++ nl :: skipped).IsChain Item.Precedes :=
      joined ▸ (lexes_items before').isChain
    rw [split, List.append_assoc, firstColumn_append some] at left
    obtain ⟨outside, leftOf⟩ := outside_of_left newline skip content.solid left back
    have more := derivable_exchange derived order
      (outside_of_trivia (by simpa using newline) trivia) outside leftOf
    have next : significant (nl :: skipped ++ item :: back) = item :: back := by
      rw [significant_append skip, significant_cons content.solid]
    rw [← firstColumn_append some (nl :: skipped ++ item :: back)] at more
    rw [parseWithin, split, List.append_assoc]
    exact parseItems_of_leftover more (leftover?_eq_some_iff.2 ⟨item, back, next, content, rfl⟩)

/-- **Inconsistent indentation is found just at dedented lines**: at a token that is neither a
comment, a line break nor a closing paren and leads its line to the left of the first significant
item, if the source before it is read and has a statement. -/
theorem inconsistentIndentation_iff (limit : Nat) (source : String) (span : Span) :
    parseWithin limit source = .error (.plain span .inconsistentIndentation) ↔
      (∃ item, Dedented source.toList item ∧ item.span = span) ∧
        ReadBefore limit source.toList span.start := by
  refine ⟨dedented_of_parse, ?_⟩
  rintro ⟨⟨item, dedented, rfl⟩, read⟩
  exact parse_of_dedented dedented read

end Offside
