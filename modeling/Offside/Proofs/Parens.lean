import Offside.Proofs.Items

/-!
# Parens among items

`parens depth item` is how many parens are open past an item, where `depth` are before it; it is
`none` at a paren that closes nothing.  A list is `Balanced` if it closes what it opens and
nothing else, at any depth around it (`Balanced.foldlM`).

`ungrouped` drops the parens that group: all of them but an opening paren with its closing one
right after it, which together are the unit literal.  It passes through concatenation
(`ungrouped_append`) and drops the parens around a list (`ungrouped_group`).
-/

namespace Offside

/-! ### Balance -/

/-- The number of open parens past an item, of `depth` before it. -/
def parens (depth : Nat) (item : Item) : Option Nat :=
  if item.isOpen then some (depth + 1)
  else if item.isClose then
    match depth with
    | 0 => none
    | d + 1 => some d
  else some depth

/-- Whether a list closes just the parens that it opens. -/
def Balanced (items : List Item) : Prop := items.foldlM parens 0 = some 0

instance (items : List Item) : Decidable (Balanced items) :=
  inferInstanceAs (Decidable (_ = _))

theorem parens_of_isOpen {item : Item} (h : item.isOpen = true) (depth : Nat) :
    parens depth item = some (depth + 1) := by
  simp [parens, h]

theorem parens_zero_of_isClose {item : Item} (h : item.isClose = true) :
    parens 0 item = none := by
  simp [parens, h, Item.not_isOpen_of_isClose h]

theorem parens_succ_of_isClose {item : Item} (h : item.isClose = true) (depth : Nat) :
    parens (depth + 1) item = some depth := by
  simp [parens, h, Item.not_isOpen_of_isClose h]

theorem parens_of_not_isParen {item : Item} (h : item.isParen = false) (depth : Nat) :
    parens depth item = some depth := by
  rw [Item.isParen, Bool.or_eq_false_iff] at h
  simp [parens, h.1, h.2]

/-- Trivia open and close nothing. -/
theorem parens_of_isTrivia {item : Item} (h : item.isTrivia = true) (depth : Nat) :
    parens depth item = some depth := by
  obtain ⟨t, lexeme⟩ := Item.token_of_trivia h
  refine parens_of_not_isParen (Item.not_isParen_of_lexeme lexeme ?_ ?_) depth
  all_goals
    rintro rfl
    rw [Item.isTrivia_of_lexeme lexeme] at h
    cases h

theorem parens_add {depth after : Nat} {item : Item} (h : parens depth item = some after)
    (k : Nat) : parens (depth + k) item = some (after + k) := by
  by_cases ho : item.isOpen = true
  · rw [parens_of_isOpen ho] at h ⊢
    cases h
    rw [Nat.add_right_comm]
  by_cases hc : item.isClose = true
  · cases depth with
    | zero => rw [parens_zero_of_isClose hc] at h; cases h
    | succ d =>
      rw [parens_succ_of_isClose hc] at h
      cases h
      rw [Nat.add_right_comm, parens_succ_of_isClose hc]
  · have hp : item.isParen = false := by simp [Item.isParen, ho, hc]
    rw [parens_of_not_isParen hp] at h ⊢
    cases h
    rfl

theorem foldlM_parens_add {items : List Item} {depth after : Nat}
    (h : items.foldlM parens depth = some after) (k : Nat) :
    items.foldlM parens (depth + k) = some (after + k) := by
  induction items generalizing depth with
  | nil => cases h; rfl
  | cons item items ih =>
    rw [List.foldlM_cons, Option.bind_eq_bind, Option.bind_eq_some_iff] at h ⊢
    obtain ⟨d, hd, h⟩ := h
    exact ⟨d + k, parens_add hd k, ih h⟩

/-- What is balanced is passed at any depth. -/
theorem Balanced.foldlM {items : List Item} (h : Balanced items) (depth : Nat) :
    items.foldlM parens depth = some depth := by
  have := foldlM_parens_add h depth
  rwa [Nat.zero_add] at this

theorem Balanced.append {xs ys : List Item} (hx : Balanced xs) (hy : Balanced ys) :
    Balanced (xs ++ ys) := by
  rw [Balanced, List.foldlM_append, hx, Option.bind_eq_bind, Option.bind_some, hy]

theorem Balanced.of_not_isParen {item : Item} (h : item.isParen = false) : Balanced [item] := by
  rw [Item.isParen, Bool.or_eq_false_iff] at h
  simp [Balanced, parens, h.1, h.2]

theorem Balanced.group {opener close : Item} {items : List Item} (ho : opener.isOpen = true)
    (hc : close.isClose = true) (h : Balanced items) :
    Balanced (opener :: (items ++ [close])) := by
  simp [Balanced, parens_of_isOpen ho, parens_succ_of_isClose hc, List.foldlM_append, h.foldlM]

/-- A balanced list does not begin with a closing paren. -/
theorem Balanced.head_not_isClose {item : Item} {items : List Item}
    (h : Balanced (item :: items)) : item.isClose = false := by
  by_contra hc
  rw [Bool.not_eq_false] at hc
  rw [Balanced, List.foldlM_cons, parens_zero_of_isClose hc] at h
  cases h

/-- A balanced list does not end with an opening paren. -/
theorem Balanced.getLast_not_isOpen {items : List Item} (h : Balanced items) :
    ∀ item ∈ items.getLast?, item.isOpen = false := by
  intro item hi
  obtain ⟨front, rfl⟩ := List.getLast?_eq_some_iff.1 hi
  rw [Balanced, List.foldlM_append, Option.bind_eq_bind, Option.bind_eq_some_iff] at h
  obtain ⟨d, -, hd⟩ := h
  by_contra ho
  rw [Bool.not_eq_false] at ho
  rw [List.foldlM_cons, parens_of_isOpen ho] at hd
  cases hd

/-! ### Grouping parens -/

/-- A list of significant items without the parens that group: a paren stays where it is part of
a unit literal. -/
def ungrouped : List Item → List Item
  | [] => []
  | [item] => if item.isParen then [] else [item]
  | item :: next :: items =>
    if item.isOpen && next.isClose then item :: next :: ungrouped items
    else if item.isParen then ungrouped (next :: items)
    else item :: ungrouped (next :: items)

theorem ungrouped_cons {item : Item} (ho : item.isOpen = false) (items : List Item) :
    ungrouped (item :: items) =
      if item.isParen then ungrouped items else item :: ungrouped items := by
  cases items with
  | nil => rfl
  | cons next items => simp [ungrouped, ho]

theorem ungrouped_of_isClose {item : Item} (h : item.isClose = true) (items : List Item) :
    ungrouped (item :: items) = ungrouped items := by
  simp [ungrouped_cons (Item.not_isOpen_of_isClose h), Item.isParen, h]

/-- Lists stay apart where the first does not end with an opening paren. -/
theorem ungrouped_append {xs : List Item} (h : ∀ item ∈ xs.getLast?, item.isOpen = false)
    (ys : List Item) : ungrouped (xs ++ ys) = ungrouped xs ++ ungrouped ys := by
  fun_induction ungrouped xs with
  | case1 => rfl
  | case2 item hp => rw [List.singleton_append, ungrouped_cons (h item rfl), if_pos hp]; rfl
  | case3 item hp => rw [List.singleton_append, ungrouped_cons (h item rfl), if_neg hp]; rfl
  | case4 item next items hu ih =>
    rw [List.cons_append, List.cons_append, ungrouped, if_pos hu]
    cases items with
    | nil => rfl
    | cons => rw [ih (by simpa using h)]; rfl
  | case5 item next items hu hp ih =>
    rw [List.cons_append, List.cons_append, ungrouped, if_neg hu, if_pos hp]
    exact ih (by simpa using h)
  | case6 item next items hu hp ih =>
    rw [List.cons_append, List.cons_append, ungrouped, if_neg hu, if_neg hp]
    exact congrArg _ (ih (by simpa using h))

/-- The parens around a list that holds anything go. -/
theorem ungrouped_group {opener close : Item} {items : List Item} (ho : opener.isOpen = true)
    (hc : close.isClose = true) (h : Balanced items) (hne : items ≠ []) :
    ungrouped (opener :: (items ++ [close])) = ungrouped items := by
  cases items with
  | nil => exact absurd rfl hne
  | cons item items =>
    rw [List.cons_append, ungrouped, h.head_not_isClose, Bool.and_false,
      if_neg Bool.false_ne_true, Item.isParen, ho, Bool.true_or, if_pos rfl, ← List.cons_append,
      ungrouped_append h.getLast_not_isOpen, ungrouped_of_isClose hc]
    exact List.append_nil _

end Offside
