import Mathlib.Data.List.DropRight
import Mathlib.Data.List.TakeWhile
import Offside.Parse.Role

/-!
# What items say by themselves

Trivia are comments and line breaks.  `significant` skips those in front of an item, and `solid`
leaves them all out.  The token of an item decides whether it is a paren or trivia, and the part it
plays before and after an expression gives its token away.
-/

namespace Offside

namespace Item

/-- Whether an item closes a group. -/
def isClose (item : Item) : Bool := item.lexeme == .token (.closing .round)

/-- Whether an item opens a group. -/
def isOpen (item : Item) : Bool := item.lexeme == .token (.opening .round)

/-- Whether an item opens or closes a group. -/
def isParen (item : Item) : Bool := item.isOpen || item.isClose

variable {item : Item} {t : Token}

/-! ### The token of an item -/

theorem isTrivia_of_lexeme (h : item.lexeme = .token t) :
    item.isTrivia = (t == .comment || t == .newline) := by
  rw [Bool.eq_iff_iff]
  simp [isTrivia, isNewline, h]

theorem isOpen_of_lexeme (h : item.lexeme = .token t) :
    item.isOpen = (t == .opening .round) := by
  rw [Bool.eq_iff_iff]
  simp [isOpen, h]

theorem isClose_of_lexeme (h : item.lexeme = .token t) :
    item.isClose = (t == .closing .round) := by
  rw [Bool.eq_iff_iff]
  simp [isClose, h]

theorem not_isTrivia_of_lexeme (h : item.lexeme = .token t) (hc : t ≠ .comment)
    (hn : t ≠ .newline) : item.isTrivia = false := by
  simp [isTrivia_of_lexeme h, hc, hn]

theorem not_isParen_of_lexeme (h : item.lexeme = .token t) (ho : t ≠ .opening .round)
    (hc : t ≠ .closing .round) : item.isParen = false := by
  simp [isParen, isOpen_of_lexeme h, isClose_of_lexeme h, ho, hc]

theorem isTrivia_of_comment (h : item.lexeme = .token .comment) : item.isTrivia = true := by
  rw [isTrivia_of_lexeme h]
  rfl

theorem isTrivia_of_newline (h : item.lexeme = .token .newline) : item.isTrivia = true := by
  rw [isTrivia_of_lexeme h]
  rfl

theorem isNewline_of_newline (h : item.lexeme = .token .newline) : item.isNewline = true := by
  simp [isNewline, h]

theorem not_isNewline_of_comment (h : item.lexeme = .token .comment) : item.isNewline = false := by
  simp [isNewline, h]

theorem not_isNewline_of_not_isTrivia (h : item.isTrivia = false) : item.isNewline = false := by
  rw [isTrivia, Bool.or_eq_false_iff] at h
  exact h.2

theorem isOpen_of_opening (h : item.lexeme = .token (.opening .round)) : item.isOpen = true := by
  rw [isOpen_of_lexeme h]
  rfl

theorem isClose_of_closing (h : item.lexeme = .token (.closing .round)) :
    item.isClose = true := by
  rw [isClose_of_lexeme h]
  rfl

theorem not_isOpen_of_isClose (h : item.isClose = true) : item.isOpen = false := by
  rw [isClose, beq_iff_eq] at h
  rw [isOpen_of_lexeme h]
  rfl

theorem not_isTrivia_of_isOpen (h : item.isOpen = true) : item.isTrivia = false := by
  rw [isOpen, beq_iff_eq] at h
  rw [isTrivia_of_lexeme h]
  rfl

theorem not_isTrivia_of_isClose (h : item.isClose = true) : item.isTrivia = false := by
  rw [isClose, beq_iff_eq] at h
  rw [isTrivia_of_lexeme h]
  rfl

/-- Trivia are tokens. -/
theorem token_of_trivia (h : item.isTrivia = true) : ∃ t, item.lexeme = .token t := by
  simp only [isTrivia, isNewline, Bool.or_eq_true, beq_iff_eq] at h
  rcases h with h | h
  · exact ⟨_, h⟩
  · exact ⟨_, h⟩

theorem lexeme_of_trivia (h : item.isTrivia = true) (hn : item.isNewline = false) :
    item.lexeme = .token .comment := by
  simpa [isTrivia, hn] using h

end Item

/-! ### The parts that items play -/

/-- The expression that a token is by itself, at `span`. -/
def Token.leaf? (span : Span) : Token → Option Expr
  | .name spelling => some (.name span spelling)
  | .number spelling => some (.number span spelling)
  | .text value => some (.text span value)
  | .bool value => some (.bool span value)
  | _ => none

/-- Whether the token of an item plays this part where an expression is to begin; what does not
belong there is not told apart. -/
def First.Fits (item : Item) : First → Prop
  | comment => item.lexeme = .token .comment
  | newline => item.lexeme = .token .newline
  | leaf e => ∃ t, item.lexeme = .token t ∧ t.leaf? item.span = some e
  | keyword word => item.lexeme = .token (.keyword word)
  | opening => item.lexeme = .token (.opening .round)
  | closing => item.lexeme = .token (.closing .round)
  | misplaced _ => True

/-- Whether the token of an item plays this part after an expression; what does not belong there
is not told apart. -/
def Follow.Fits (item : Item) : Follow → Prop
  | comment => item.lexeme = .token .comment
  | newline => item.lexeme = .token .newline
  | operator op => op = .ofSymbol op.symbol ∧ item.lexeme = .token (.operator op.symbol)
  | argument => ∃ t, item.lexeme = .token t ∧
    (t = .opening .round ∨ ∃ e, t.leaf? item.span = some e)
  | closing => item.lexeme = .token (.closing .round)
  | misplaced _ => True

namespace Item

variable {item : Item} {t : Token} {e : Expr}

/-- **The part that an item plays gives its token away**, where an expression is to begin. -/
theorem fits_of_first {part : First} (h : item.first = part) : part.Fits item := by
  subst h
  unfold first
  split
  all_goals first
    | assumption
    | exact ⟨_, by assumption, rfl⟩
    | trivial

/-- **The part that an item plays gives its token away**, after an expression. -/
theorem fits_of_follow {part : Follow} (h : item.follow = part) : part.Fits item := by
  subst h
  unfold follow
  split
  all_goals first
    | assumption
    | exact ⟨rfl, by assumption⟩
    | exact ⟨_, by assumption, .inl rfl⟩
    | exact ⟨_, by assumption, .inr ⟨_, rfl⟩⟩
    | trivial

theorem first_of_leaf (lexeme : item.lexeme = .token t) (h : t.leaf? item.span = some e) :
    item.first = .leaf e := by
  cases t <;> cases h <;> simp [first, lexeme]

theorem follow_of_leaf (lexeme : item.lexeme = .token t) (h : t.leaf? item.span = some e) :
    item.follow = .argument := by
  cases t <;> cases h <;> simp [follow, lexeme]

theorem first_of_error {c : LexError} (lexeme : item.lexeme = .error c) :
    item.first = .misplaced (.lexical c) := by
  simp [first, lexeme]

theorem follow_of_error {c : LexError} (lexeme : item.lexeme = .error c) :
    item.follow = .misplaced (.lexical c) := by
  simp [follow, lexeme]

theorem not_isTrivia_of_leaf (h : item.first = .leaf e) : item.isTrivia = false := by
  obtain ⟨t, lexeme, leaf⟩ := fits_of_first h
  cases t <;> cases leaf <;> exact not_isTrivia_of_lexeme lexeme (by simp) (by simp)

theorem not_isParen_of_leaf (h : item.first = .leaf e) : item.isParen = false := by
  obtain ⟨t, lexeme, leaf⟩ := fits_of_first h
  cases t <;> cases leaf <;> exact not_isParen_of_lexeme lexeme (by simp) (by simp)

theorem span_of_leaf (h : item.first = .leaf e) : e.span = item.span := by
  obtain ⟨t, -, leaf⟩ := fits_of_first h
  cases t <;> cases leaf <;> rfl

end Item

/-! ### Trivia in front of an item -/

theorem significant_eq_nil_iff {items : List Item} :
    significant items = [] ↔ ∀ i ∈ items, i.isTrivia = true := by
  rw [significant, List.dropWhile_eq_nil_iff]

theorem significant_significant (items : List Item) :
    significant (significant items) = significant items := List.dropWhile_idempotent ..

theorem significant_append {skipped items : List Item} (h : ∀ i ∈ skipped, i.isTrivia = true) :
    significant (skipped ++ items) = significant items := by
  rw [significant, List.dropWhile_append_of_pos h, significant]

theorem significant_append_eq_nil_iff {xs ys : List Item} :
    significant (xs ++ ys) = [] ↔ significant xs = [] ∧ significant ys = [] := by
  simp only [significant_eq_nil_iff, List.forall_mem_append]

theorem significant_cons {item : Item} (h : item.isTrivia = false) (items : List Item) :
    significant (item :: items) = item :: items := by
  rw [significant, List.dropWhile_cons_of_neg (by simp [h])]

theorem significant_cons_of_trivia {item : Item} (h : item.isTrivia = true) (items : List Item) :
    significant (item :: items) = significant items := by
  rw [significant, List.dropWhile_cons_of_pos h, significant]

theorem significant_append_of_cons {items tail : List Item} {item : Item}
    (h : significant items = item :: tail) (others : List Item) :
    significant (items ++ others) = item :: (tail ++ others) := by
  rw [significant] at h ⊢
  rw [List.dropWhile_append, h]
  rfl

theorem split_significant {items tail : List Item} {item : Item}
    (h : significant items = item :: tail) :
    ∃ skipped, items = skipped ++ item :: tail ∧ (∀ i ∈ skipped, i.isTrivia = true) ∧
      crossesLine items = skipped.any Item.isNewline := by
  refine ⟨items.takeWhile Item.isTrivia, ?_, fun i hi => List.mem_takeWhile_imp hi, rfl⟩
  rw [← h, significant, List.takeWhile_append_dropWhile]

theorem significant_cons_comment {item : Item} (h : item.lexeme = .token .comment)
    (items : List Item) : significant (item :: items) = significant items :=
  significant_cons_of_trivia (Item.isTrivia_of_comment h) items

theorem significant_cons_newline {item : Item} (h : item.lexeme = .token .newline)
    (items : List Item) : significant (item :: items) = significant items :=
  significant_cons_of_trivia (Item.isTrivia_of_newline h) items

theorem crossesLine_cons_of_trivia {item : Item} (h : item.isTrivia = true) (items : List Item) :
    crossesLine (item :: items) = (item.isNewline || crossesLine items) := by
  simp [crossesLine, h]

theorem crossesLine_cons {item : Item} (h : item.isTrivia = false) (items : List Item) :
    crossesLine (item :: items) = false := by
  simp [crossesLine, h]

/-! ### Tokens -/

/-- That there is no lexical error among items. -/
def Clean (items : List Item) : Prop := ∀ item ∈ items, ∃ t, item.lexeme = .token t

theorem clean_nil : Clean [] := List.forall_mem_nil _

theorem clean_cons {item : Item} {items : List Item} :
    Clean (item :: items) ↔ (∃ t, item.lexeme = .token t) ∧ Clean items := List.forall_mem_cons

theorem clean_append {xs ys : List Item} : Clean (xs ++ ys) ↔ Clean xs ∧ Clean ys :=
  List.forall_mem_append

theorem Clean.cons {item : Item} {items : List Item} {t : Token} (h : Clean items)
    (lexeme : item.lexeme = .token t) : Clean (item :: items) := clean_cons.2 ⟨⟨t, lexeme⟩, h⟩

theorem Clean.append {xs ys : List Item} (h : Clean xs) (h' : Clean ys) : Clean (xs ++ ys) :=
  clean_append.2 ⟨h, h'⟩

theorem clean_of_trivia {items : List Item} (h : ∀ i ∈ items, i.isTrivia = true) : Clean items :=
  fun item hi => Item.token_of_trivia (h item hi)

theorem Clean.not_error {items : List Item} {item : Item} {c : LexError} (h : Clean items)
    (hi : item ∈ items) : item.lexeme ≠ .error c := by
  obtain ⟨t, lexeme⟩ := h item hi
  simp [lexeme]

/-! ### The items that are no trivia -/

/-- The items of a list that are no trivia. -/
def solid (items : List Item) : List Item := items.filter fun i => !i.isTrivia

@[simp] theorem solid_nil : solid [] = [] := rfl

@[simp] theorem solid_append (xs ys : List Item) : solid (xs ++ ys) = solid xs ++ solid ys :=
  List.filter_append ..

theorem solid_cons_of_trivia {item : Item} (h : item.isTrivia = true) (items : List Item) :
    solid (item :: items) = solid items := by
  simp [solid, h]

theorem solid_cons {item : Item} (h : item.isTrivia = false) (items : List Item) :
    solid (item :: items) = item :: solid items := by
  simp [solid, h]

theorem solid_eq_nil_iff {items : List Item} :
    solid items = [] ↔ ∀ i ∈ items, i.isTrivia = true := by
  simp [solid]

end Offside
