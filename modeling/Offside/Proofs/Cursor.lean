import Offside.Proofs.Items
import Offside.Token.Reader

/-!
# The reader as a cursor

A reader buffers the items that it was asked for and can read the others, so it stands for all
items of its source and a place among them (`Reader.Holds`).  What it does is what a cursor over
that list does: `Reader.next` reads the item at its place, and `Reader.lookAhead` finds the first
one from there on that is no trivia.
-/

namespace Offside

namespace Reader

variable {all : List Item} {reader : Reader}

/-- That a reader stands among the items `all`, and can return only the one before its place. -/
structure Holds (all : List Item) (reader : Reader) : Prop where
  /-- The items that are buffered and those that can be read are all. -/
  items : reader.buffered.toList ++ reader.rest.items = all
  /-- The reader stands among those that are buffered, or right after them. -/
  index_le : reader.index ≤ reader.buffered.size
  /-- The item that can be returned is the one before. -/
  returnable : ∀ index, reader.returnable = some index → index + 1 = reader.index

theorem holds_ofSource (source : List Char) :
    (ofSource source).Holds (Offside.items source) :=
  ⟨rfl, Nat.le_refl _, fun _ h => by cases h⟩

/-! ### Filling the buffer -/

theorem buffered_next {rest next : Rest} {item : Item} (h : rest.next? = some (item, next))
    (buffered : Array Item) :
    (buffered.push item).toList ++ next.items = buffered.toList ++ rest.items := by
  rw [Rest.items_of_some h, Array.toList_push, List.append_assoc, List.singleton_append]

theorem fillFrom_spec (rest : Rest) (buffered : Array Item) (index : Nat) :
    (fillFrom rest buffered index).2.toList ++ (fillFrom rest buffered index).1.items =
        buffered.toList ++ rest.items ∧
      buffered.size ≤ (fillFrom rest buffered index).2.size ∧
      (fillFrom rest buffered index).2[index]? = (buffered.toList ++ rest.items)[index]? := by
  fun_induction fillFrom rest buffered index with
  | case1 rest buffered h hn =>
    refine ⟨rfl, Nat.le_refl _, ?_⟩
    rw [Rest.items_of_none hn, List.append_nil, Array.getElem?_toList]
  | case2 rest buffered h item next hn ih =>
    obtain ⟨same, size, found⟩ := ih
    rw [buffered_next hn] at same found
    rw [Array.size_push] at size
    exact ⟨same, Nat.le_of_succ_le size, found⟩
  | case3 rest buffered h =>
    refine ⟨rfl, Nat.le_refl _, ?_⟩
    rw [List.getElem?_append_left (by simpa using h), Array.getElem?_toList]

/-- A reader that has an item buffered does not read for it. -/
theorem fill_of_lt {index : Nat} (h : index < reader.buffered.size) :
    reader.fill index = reader := by
  rw [Reader.fill, fillFrom, if_neg (Nat.not_le_of_lt h)]

/-- At the end of the source nothing more is read. -/
theorem fill_of_next?_eq_none {index : Nat} (h : reader.rest.next? = none) :
    reader.fill index = reader := by
  have same : fillFrom reader.rest reader.buffered index = (reader.rest, reader.buffered) := by
    rw [fillFrom]
    split
    · split
      · rfl
      · next hn =>
        rw [h] at hn
        cases hn
    · rfl
  rw [Reader.fill, same]

/-- A reader that does not have an item buffered reads on. -/
theorem fill_of_next?_eq_some {index : Nat} {item : Item} {next : Rest}
    (h : reader.rest.next? = some (item, next)) (le : reader.buffered.size ≤ index) :
    reader.fill index =
      { reader with rest := next, buffered := reader.buffered.push item }.fill index := by
  have same : fillFrom reader.rest reader.buffered index =
      fillFrom next (reader.buffered.push item) index := by
    rw [fillFrom, if_pos le]
    split
    · next hn =>
      rw [h] at hn
      cases hn
    · next hn =>
      rw [h] at hn
      cases hn
      rfl
  rw [Reader.fill, same]
  rfl

theorem Holds.fill (h : reader.Holds all) (index : Nat) :
    (reader.fill index).Holds all ∧ (reader.fill index).buffered[index]? = all[index]? := by
  obtain ⟨same, size, found⟩ := fillFrom_spec reader.rest reader.buffered index
  rw [h.items] at same found
  exact ⟨⟨same, Nat.le_trans h.index_le size, h.returnable⟩, found⟩

/-! ### Reading and returning -/

/-- At the end of the items nothing is read. -/
theorem Holds.next_of_none (h : reader.Holds all) (ends : all[reader.index]? = none) :
    reader.next.1 = none ∧ reader.next.2.Holds all ∧ reader.next.2.index = reader.index := by
  obtain ⟨filled, found⟩ := h.fill reader.index
  have buffered : (reader.fill reader.index).buffered[(reader.fill reader.index).index]? = none :=
    found.trans ends
  simp only [next, buffered]
  exact ⟨trivial, ⟨filled.items, filled.index_le, fun _ h => by cases h⟩, rfl⟩

/-- The item at the place of the reader is read, and can be returned. -/
theorem Holds.next_of_some {item : Item} (h : reader.Holds all)
    (here : all[reader.index]? = some item) :
    reader.next.1 = some item ∧ reader.next.2.Holds all ∧
      reader.next.2.index = reader.index + 1 ∧
      reader.next.2.returnable = some reader.index := by
  obtain ⟨filled, found⟩ := h.fill reader.index
  have buffered : (reader.fill reader.index).buffered[(reader.fill reader.index).index]? =
      some item := found.trans here
  have size := (Array.getElem?_eq_some_iff.1 buffered).1
  simp only [next, buffered]
  refine ⟨trivial, ⟨filled.items, size, fun index hi => ?_⟩, rfl, rfl⟩
  obtain rfl := Option.some.inj hi
  rfl

/-- An item that was read can be returned. -/
theorem Holds.unread {index : Nat} (h : reader.Holds all)
    (last : reader.returnable = some index) :
    ∃ reader', reader.unread = .ok reader' ∧ reader'.Holds all ∧ reader'.index = index := by
  have before := h.returnable index last
  have le := h.index_le
  refine ⟨{ reader with index, returnable := none }, ?_, ⟨h.items, ?_, fun _ h => by cases h⟩, rfl⟩
  · rw [Reader.unread, last]
  · show index ≤ reader.buffered.size
    omega

/-! ### Looking ahead -/

/-- What a look from the item at `index` on finds. -/
structure Finds (all : List Item) (origin index : Nat) (crossed : Bool) (look : Look) : Prop where
  /-- It knows where it was taken. -/
  origin : look.origin = origin
  /-- It finds the next significant item. -/
  item : look.item = (significant (all.drop index)).head?
  /-- It stands before that item. -/
  target : all.drop look.target = significant (all.drop index)
  /-- It looks ahead. -/
  le : index ≤ look.target
  /-- It knows whether a line break lies between. -/
  crossedNewline : look.crossedNewline = (crossed || crossesLine (all.drop index))

theorem drop_of_getElem? {index : Nat} {item : Item} (h : all[index]? = some item) :
    all.drop index = item :: all.drop (index + 1) := by
  obtain ⟨lt, rfl⟩ := List.getElem?_eq_some_iff.1 h
  exact List.drop_eq_getElem_cons lt

/-- What is found at an item that is trivia is found past it. -/
theorem Finds.of_trivia {origin index : Nat} {crossed : Bool} {look : Look} {item : Item}
    (here : all[index]? = some item) (trivia : item.isTrivia = true)
    (h : Finds all origin (index + 1) (crossed || item.isNewline) look) :
    Finds all origin index crossed look := by
  have drop := drop_of_getElem? here
  have skip := significant_cons_of_trivia trivia (all.drop (index + 1))
  refine ⟨h.origin, ?_, ?_, Nat.le_of_succ_le h.le, ?_⟩
  · rw [h.item, drop, skip]
  · rw [h.target, drop, skip]
  · rw [h.crossedNewline, drop, crossesLine_cons_of_trivia trivia, Bool.or_assoc]

/-- An item that is no trivia is found at once. -/
theorem Finds.of_solid {origin index : Nat} {crossed : Bool} {item : Item}
    (here : all[index]? = some item) (solid : item.isTrivia = false) :
    Finds all origin index crossed ⟨some item, crossed, origin, index⟩ := by
  have drop := drop_of_getElem? here
  have stay := significant_cons solid (all.drop (index + 1))
  refine ⟨rfl, ?_, ?_, Nat.le_refl _, ?_⟩
  · rw [drop, stay]
    rfl
  · rw [drop, stay]
  · rw [drop, crossesLine_cons solid, Bool.or_false]

/-- Nothing is found at the end. -/
theorem Finds.of_end {origin index : Nat} {crossed : Bool} (ends : all[index]? = none) :
    Finds all origin index crossed ⟨none, crossed, origin, index⟩ := by
  have drop : all.drop index = [] := List.drop_eq_nil_of_le (List.getElem?_eq_none_iff.1 ends)
  refine ⟨rfl, ?_, ?_, Nat.le_refl _, ?_⟩
  · rw [drop]
    rfl
  · rw [drop]
    rfl
  · rw [drop]
    exact (Bool.or_false _).symm

theorem lookFrom_spec (buffered : Array Item) (origin index : Nat) (crossed : Bool) (rest : Rest)
    (le : index ≤ buffered.size) :
    (lookFrom buffered origin index crossed rest).2.2.toList ++
        (lookFrom buffered origin index crossed rest).2.1.items = buffered.toList ++ rest.items ∧
      buffered.size ≤ (lookFrom buffered origin index crossed rest).2.2.size ∧
      (lookFrom buffered origin index crossed rest).1.target ≤
        (lookFrom buffered origin index crossed rest).2.2.size ∧
      Finds (buffered.toList ++ rest.items) origin index crossed
        (lookFrom buffered origin index crossed rest).1 := by
  fun_induction lookFrom buffered origin index crossed rest with
  | case1 buffered index crossed rest item found trivia ih =>
    have lt := (Array.getElem?_eq_some_iff.1 found).1
    obtain ⟨same, size, target, finds⟩ := ih lt
    have here : (buffered.toList ++ rest.items)[index]? = some item := by
      rw [List.getElem?_append_left (by simpa using lt), Array.getElem?_toList, found]
    exact ⟨same, size, target, finds.of_trivia here trivia⟩
  | case2 buffered index crossed rest item found solid =>
    have lt := (Array.getElem?_eq_some_iff.1 found).1
    have here : (buffered.toList ++ rest.items)[index]? = some item := by
      rw [List.getElem?_append_left (by simpa using lt), Array.getElem?_toList, found]
    exact ⟨rfl, Nat.le_refl _, le, .of_solid here (Bool.eq_false_iff.2 solid)⟩
  | case3 buffered index crossed rest missing hn =>
    have ends : (buffered.toList ++ rest.items)[index]? = none := by
      rw [Rest.items_of_none hn, List.append_nil, Array.getElem?_toList, missing]
    exact ⟨rfl, Nat.le_refl _, le, .of_end ends⟩
  | case4 buffered index crossed rest missing item next hn ih =>
    obtain ⟨same, size, target, finds⟩ := ih (by rw [Array.size_push]; omega)
    rw [buffered_next hn] at same finds
    rw [Array.size_push] at size
    exact ⟨same, Nat.le_of_succ_le size, target, finds⟩

/-- A look finds the next significant item, and the reader stays where it is. -/
theorem Holds.lookAhead (h : reader.Holds all) :
    Finds all reader.index reader.index false reader.lookAhead.1 ∧
      reader.lookAhead.2.Holds all ∧ reader.lookAhead.2.index = reader.index ∧
      reader.lookAhead.1.target ≤ reader.lookAhead.2.buffered.size := by
  obtain ⟨same, size, target, finds⟩ :=
    lookFrom_spec reader.buffered reader.index reader.index false reader.rest h.index_le
  rw [h.items] at same finds
  exact ⟨finds, ⟨same, Nat.le_trans h.index_le size, h.returnable⟩, rfl, target⟩

/-- What a look finds can be jumped to. -/
theorem Holds.jump {look : Look} (h : reader.Holds all)
    (origin : look.origin = reader.index) (le : look.target ≤ reader.buffered.size) :
    ∃ reader', reader.jump look = .ok reader' ∧ reader'.Holds all ∧
      reader'.index = look.target := by
  refine ⟨{ reader with index := look.target, returnable := none }, ?_,
    ⟨h.items, le, fun _ h => by cases h⟩, rfl⟩
  rw [Reader.jump, if_pos origin.symm]

end Reader

end Offside
