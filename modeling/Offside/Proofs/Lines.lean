import Offside.Proofs.Lexing
import Offside.Source.Lines

/-!
# The line index

The line index finds what a plain scan counts.  Where a text falls apart into the line starts up
to an offset and those past it, bisection finds the last of the first (`LineIndex.locate_append`).

* `LineIndex.locate_bounds`: the line of any offset starts no later and is one of the source.
* `LineIndex.column_append`: the column of a place in a source is what `Position` counts there.
* `LineIndex.locate_item`, `LineIndex.column_item`: the line and the column of the place where an
  item begins are those of the item.
-/

namespace Offside

/-! ### Line starts -/

theorem lineStarts_append (offset : Nat) (xs ys : List Char) :
    lineStarts offset (xs ++ ys) =
      lineStarts offset xs ++ lineStarts (offset + byteLength xs) ys := by
  induction xs generalizing offset with
  | nil => rfl
  | cons x xs ih =>
    rw [List.cons_append, lineStarts, lineStarts, byteLength_cons, ← Nat.add_assoc]
    by_cases hx : x = '\n'
    · simp [hx, ih]
    · simp [hx, ih]

theorem mem_lineStarts {offset start : Nat} {xs : List Char} (h : start ∈ lineStarts offset xs) :
    offset < start ∧ start ≤ offset + byteLength xs := by
  induction xs generalizing offset with
  | nil => cases h
  | cons x xs ih =>
    have pos := x.utf8Size_pos
    have later : start ∈ lineStarts (offset + x.utf8Size) xs →
        offset < start ∧ start ≤ offset + byteLength (x :: xs) := by
      intro hm
      have := ih hm
      simp only [byteLength_cons]
      omega
    rw [lineStarts] at h
    by_cases hx : x = '\n'
    · simp only [if_pos hx, List.mem_cons] at h
      rcases h with rfl | h
      · simp only [byteLength_cons]
        omega
      · exact later h
    · simp only [if_neg hx] at h
      exact later h

theorem lineStarts_of_newline_not_mem {xs : List Char} (h : '\n' ∉ xs) (offset : Nat) :
    lineStarts offset xs = [] := by
  induction xs generalizing offset with
  | nil => rfl
  | cons x xs ih =>
    obtain ⟨hx, hxs⟩ := List.ne_and_not_mem_of_not_mem_cons h
    simp [lineStarts, hx.symm, ih hxs]

/-- A text is some whole lines and a part of one. -/
theorem exists_lines (cs : List Char) :
    ∃ lines line, cs = lines ++ line ∧ (∀ c ∈ lines.getLast?, c = '\n') ∧ '\n' ∉ line := by
  induction cs with
  | nil => exact ⟨[], [], rfl, by simp, by simp⟩
  | cons c cs ih =>
    obtain ⟨lines, line, rfl, hlast, hline⟩ := ih
    cases lines with
    | nil =>
      by_cases hc : c = '\n'
      · exact ⟨[c], line, rfl, by simp [hc], hline⟩
      · exact ⟨[], c :: line, rfl, by simp, by simp [hline, Ne.symm hc]⟩
    | cons d lines =>
      refine ⟨c :: d :: lines, line, rfl, ?_, hline⟩
      rw [List.getLast?_cons_cons]
      exact hlast

theorem getLast_lineStarts {lines line : List Char} (hlast : ∀ c ∈ lines.getLast?, c = '\n')
    (hline : '\n' ∉ line) : (lineStarts 0 (lines ++ line)).getLast?.getD 0 = byteLength lines := by
  rw [lineStarts_append, lineStarts_of_newline_not_mem hline, List.append_nil]
  cases lines using List.reverseRec with
  | nil => rfl
  | append_singleton front c =>
    obtain rfl : c = '\n' := hlast c (by simp)
    simp [lineStarts_append, lineStarts]

/-- Past whole lines and a part of one, the column counts what that part has. -/
theorem Position.column_advanceAll_lines {lines line : List Char}
    (hlast : ∀ c ∈ lines.getLast?, c = '\n') (hline : '\n' ∉ line) :
    (Position.origin.advanceAll (lines ++ line)).column = line.length := by
  have start : (Position.origin.advanceAll lines).column = 0 := by
    cases lines using List.reverseRec with
    | nil => rfl
    | append_singleton front c =>
      obtain rfl : c = '\n' := hlast c (by simp)
      rw [Position.advanceAll_append]
      rfl
  rw [Position.advanceAll_append, Position.column_advanceAll _ hline, start, Nat.zero_add]

namespace LineIndex

/-! ### Bisection -/

/-- Bisection finds the place where the entries pass the offset. -/
theorem bisect_eq {xs : Array Nat} {offset place lo hi : Nat} (le_size : hi ≤ xs.size)
    (below : ∀ (i : Nat) (h : i < xs.size), i < place → xs[i] ≤ offset)
    (above : ∀ (i : Nat) (h : i < xs.size), place ≤ i → offset < xs[i])
    (hlo : lo ≤ place) (hhi : place ≤ hi) : bisect xs offset lo hi le_size = place := by
  fun_induction bisect xs offset lo hi le_size with
  | case1 lo hi le_size h mid mid_lt hle ih =>
    refine ih ?_ hhi
    by_contra hlt
    exact Nat.not_lt_of_le hle (above mid _ (by omega))
  | case2 lo hi le_size h mid mid_lt hle ih =>
    refine ih hlo ?_
    by_contra hlt
    exact hle (below mid _ (by omega))
  | case3 lo hi le_size h => omega

theorem bisect_append {xs ys : List Nat} {offset : Nat} (below : ∀ x ∈ xs, x ≤ offset)
    (above : ∀ y ∈ ys, offset < y) (le_size : (xs ++ ys).toArray.size ≤ (xs ++ ys).toArray.size) :
    bisect (xs ++ ys).toArray offset 0 (xs ++ ys).toArray.size le_size = xs.length := by
  refine bisect_eq _ (fun i hi hlt => ?_) (fun i hi hle => ?_) (Nat.zero_le _) (by simp)
  · rw [List.getElem_toArray, List.getElem_append_left hlt]
    exact below _ (List.getElem_mem hlt)
  · rw [List.getElem_toArray, List.getElem_append_right hle]
    exact above _ (List.getElem_mem _)

/-- The entry before the place that bisection finds is no higher than the offset. -/
theorem bisect_bounds (xs : Array Nat) (offset : Nat) {lo hi : Nat} (le_size : hi ≤ xs.size)
    (le : lo ≤ hi) (before : ∀ (i : Nat) (h : i < xs.size), i + 1 = lo → xs[i] ≤ offset) :
    bisect xs offset lo hi le_size ≤ hi ∧ ∀ (i : Nat) (h : i < xs.size),
      i + 1 = bisect xs offset lo hi le_size → xs[i] ≤ offset := by
  fun_induction bisect xs offset lo hi le_size with
  | case1 lo hi le_size h mid mid_lt hle ih =>
    refine ih mid_lt fun i hi' hm => ?_
    obtain rfl : i = mid := Nat.succ_inj.1 hm
    exact hle
  | case2 lo hi le_size h mid mid_lt hle ih =>
    obtain ⟨bound, found⟩ := ih (by omega) before
    exact ⟨by omega, found⟩
  | case3 lo hi le_size h => exact ⟨le, before⟩

/-- **The line of an offset starts no later**, whatever the offset is, and is one of those that the
index has. -/
theorem locate_bounds (source : List Char) (offset : Nat) :
    1 ≤ ((ofSource source).locate offset).number ∧
      (ofSource source).starts[((ofSource source).locate offset).number - 1]? =
        some ((ofSource source).locate offset).start ∧
      ((ofSource source).locate offset).start ≤ offset := by
  have size : 0 < (ofSource source).starts.size := by simp [ofSource]
  have first : (ofSource source).starts[0] = 0 := by simp [ofSource]
  obtain ⟨bound, found⟩ := bisect_bounds (ofSource source).starts offset (Nat.le_refl _)
    (Nat.zero_le _) (fun i _ h => absurd h (Nat.succ_ne_zero i))
  rw [locate, lineNumber]
  generalize bisect (ofSource source).starts offset 0 (ofSource source).starts.size _ = place at *
  have lt : max 1 place - 1 < (ofSource source).starts.size := by omega
  dsimp only
  rw [Array.getD_eq_getD_getElem?, Array.getElem?_eq_getElem lt, Option.getD_some]
  refine ⟨Nat.le_max_left .., rfl, ?_⟩
  by_cases hp : place = 0
  · simp [hp, first]
  · exact found _ lt (by omega)

/-- The line of an offset is the last one that starts in a front of the text, if the lines of the
front start up to the offset and those of the rest past it. -/
theorem locate_append {before after : List Char} {offset : Nat}
    (below : ∀ start ∈ lineStarts 0 before, start ≤ offset)
    (above : ∀ start ∈ lineStarts (byteLength before) after, offset < start) :
    (ofSource (before ++ after)).locate offset =
      ⟨1 + (lineStarts 0 before).length, (lineStarts 0 before).getLast?.getD 0⟩ := by
  have starts : ofSource (before ++ after) =
      ⟨(0 :: lineStarts 0 before ++ lineStarts (byteLength before) after).toArray⟩ := by
    rw [ofSource, lineStarts_append, Nat.zero_add]
    rfl
  have below' : ∀ start ∈ 0 :: lineStarts 0 before, start ≤ offset :=
    List.forall_mem_cons.2 ⟨Nat.zero_le _, below⟩
  rw [starts, locate, lineNumber, bisect_append below' above, List.length_cons]
  have number : max 1 ((lineStarts 0 before).length + 1) = 1 + (lineStarts 0 before).length := by
    omega
  rw [number]
  congr 1
  cases lineStarts 0 before using List.reverseRec with
  | nil => simp
  | append_singleton front start => simp

/-- The line of a place in a source. -/
theorem locate_boundary (before after : List Char) :
    (ofSource (before ++ after)).locate (byteLength before) =
      ⟨1 + (lineStarts 0 before).length, (lineStarts 0 before).getLast?.getD 0⟩ := by
  refine locate_append (fun start hs => ?_) fun start hs => (mem_lineStarts hs).1
  have := (mem_lineStarts hs).2
  omega

/-! ### Columns -/

/-- **The column of a place is what `Position` counts there.** -/
theorem column_append (before after : List Char) :
    (ofSource (before ++ after)).column (before ++ after) (byteLength before) =
      (Position.origin.advanceAll before).column := by
  rw [column, locate_boundary]
  dsimp only
  -- `lines` are the lines before that of the place, and only `line` counts for its column.
  obtain ⟨lines, line, rfl, hlast, hline⟩ := exists_lines before
  rw [getLast_lineStarts hlast hline, byteLength_append, charsBetween_append,
    Position.column_advanceAll_lines hlast hline]

/-! ### Items -/

/-- Past a text the line number has grown by the lines that start in it. -/
theorem line_advanceAll (p : Position) (offset : Nat) (cs : List Char) :
    (p.advanceAll cs).line = p.line + (lineStarts offset cs).length := by
  induction cs generalizing p offset with
  | nil => rfl
  | cons c cs ih =>
    rw [Position.advanceAll_cons, ih _ (offset + c.utf8Size), lineStarts, Position.advance]
    split
    · simp only [List.length_cons]
      omega
    · rfl

/-- An item begins after some text, which its position counts. -/
theorem exists_before_item {source : List Char} {item : Item} (h : item ∈ items source) :
    ∃ before after, source = before ++ after ∧ item.span.start = byteLength before ∧
      item.position = Position.origin.advanceAll before := by
  obtain ⟨before, after, rfl, hp⟩ := (lexes_items source).position_mem h
  refine ⟨before, after, rfl, ?_, hp⟩
  rw [Item.span, hp, Position.offset_advanceAll]
  exact Nat.zero_add _

/-- **The line of the place where an item begins is that of the item.** -/
theorem locate_item {source : List Char} {item : Item} (h : item ∈ items source) :
    ((ofSource source).locate item.span.start).number = item.position.line := by
  obtain ⟨before, after, rfl, start, position⟩ := exists_before_item h
  rw [start, position, locate_boundary, line_advanceAll _ 0]
  rfl

/-- **The column of the place where an item begins is that of the item.** -/
theorem column_item {source : List Char} {item : Item} (h : item ∈ items source) :
    (ofSource source).column source item.span.start = item.column := by
  obtain ⟨before, after, rfl, start, position⟩ := exists_before_item h
  rw [start, column_append, Item.column, position]

end LineIndex

/-- The line that an item starts on, by the line index. -/
def Item.lineIn (source : List Char) (item : Item) : Nat :=
  ((LineIndex.ofSource source).locate item.span.start).number

theorem Item.lineIn_eq {source : List Char} {item : Item} (h : item ∈ items source) :
    item.lineIn source = item.position.line := LineIndex.locate_item h

end Offside
