import Offside.Token.Scan

/-!
# The items of a source

`Rest` is what is still to be read of a source: its text and the position where that begins.
`Rest.next?` reads the next item past the blanks, and `items` reads them all.
-/

namespace Offside

/-- What is still to be read of a source. -/
structure Rest where
  /-- The position where it begins. -/
  position : Position
  /-- Its characters. -/
  text : List Char

namespace Rest

/-- The whole of a source. -/
def ofSource (source : List Char) : Rest := ⟨.origin, source⟩

/-- The item that a scan at `position` makes. -/
def itemOf (position : Position) (s : Scan) : Item :=
  ⟨s.lexeme, position.advanceAll s.lead, byteLength s.body⟩

/-- The next item from `position` on, and what is left after it. -/
def nextFrom? (position : Position) : List Char → Option (Item × Rest)
  | [] => none
  | c :: cs =>
    match scan c cs with
    | none => nextFrom? (position.advance c) cs
    | some s => some (itemOf position s,
        ⟨position.advanceAll s.consumed, (c :: cs).drop s.consumed.length⟩)

/-- The next item and what is left after it; `none` at the end of the source. -/
def next? (rest : Rest) : Option (Item × Rest) := nextFrom? rest.position rest.text

theorem nextFrom?_length_lt {position : Position} {text : List Char} {item : Item} {rest : Rest}
    (h : nextFrom? position text = some (item, rest)) : rest.text.length < text.length := by
  induction text generalizing position with
  | nil => cases h
  | cons c cs ih =>
    rw [nextFrom?] at h
    split at h
    · exact Nat.lt_succ_of_lt (ih h)
    · next s hs =>
      obtain ⟨-, rfl⟩ := Prod.mk.inj (Option.some.inj h)
      have pos := List.length_pos_iff.2 (scan_body_ne_nil hs)
      simp only [List.length_drop, List.length_cons, Scan.consumed, List.length_append]
      omega

theorem next?_length_lt {rest next : Rest} {item : Item} (h : rest.next? = some (item, next)) :
    next.text.length < rest.text.length :=
  nextFrom?_length_lt h

/-- All items of what is still to be read. -/
def items (rest : Rest) : List Item :=
  match _h : rest.next? with
  | none => []
  | some (item, next) => item :: items next
termination_by rest.text.length
decreasing_by exact next?_length_lt (by assumption)

theorem items_of_none {rest : Rest} (h : rest.next? = none) : rest.items = [] := by
  rw [items]
  split
  · rfl
  · next h' => rw [h] at h'; cases h'

theorem items_of_some {rest next : Rest} {item : Item} (h : rest.next? = some (item, next)) :
    rest.items = item :: next.items := by
  rw [items]
  split
  · next h' => rw [h] at h'; cases h'
  · next h' =>
    rw [h] at h'
    cases h'
    rfl

end Rest

/-- All items of a source, in order. -/
def items (source : List Char) : List Item := (Rest.ofSource source).items

end Offside
