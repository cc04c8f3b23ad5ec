import Mathlib.Data.List.DropRight
import Offside.Proofs.Rendering

/-!
# The marker of a diagram

The diagram of a span shows the line that the span starts on, without the returns at its end, and
under it one tilde for each character that the span covers of the line
(`Diagram.render_of_divides`).

The marker never leaves the line (`Diagram.underlines_render`), but the returns that are not shown
belong to the line, so it may leave what is shown.  It does so when the span covers one of them and
another character of the line before it; a line that ends with a return and a line feed is enough
(`Diagram.not_clipped_of_return`).
-/

namespace Offside

namespace Diagram

/-! ### Lines -/

theorem newline_not_mem_lineOf (cs : List Char) : '\n' ∉ lineOf cs := fun h => by
  simpa using List.mem_takeWhile_imp h

/-- What a text has of its first line ends with the text or with that line. -/
theorem min_byteLength_lineOf (cs ds : List Char) :
    min (byteLength cs) (byteLength (lineOf (cs ++ ds))) = byteLength (lineOf cs) := by
  induction cs with
  | nil => exact Nat.zero_min _
  | cons c cs ih =>
    rw [List.cons_append, lineOf_cons, lineOf_cons]
    split
    · exact Nat.min_zero _
    · rw [byteLength_cons, byteLength_cons, byteLength_cons, Nat.add_min_add_left, ih]

theorem lineOf_append_isPrefix (cs ds : List Char) : lineOf cs <+: lineOf (cs ++ ds) := by
  induction cs with
  | nil => exact List.nil_prefix
  | cons c cs ih =>
    rw [List.cons_append, lineOf_cons, lineOf_cons]
    split
    · exact List.prefix_rfl
    · exact List.cons_prefix_cons.2 ⟨rfl, ih⟩

/-- Without the returns at its end a text ends with another character. -/
theorem exists_returns (cs : List Char) : ∃ returns, cs = trimReturns cs ++ returns ∧
    (∀ c ∈ returns, c = '\r') ∧ ∀ c ∈ (trimReturns cs).getLast?, c ≠ '\r' := by
  refine ⟨cs.rtakeWhile (· = '\r'), (List.rdropWhile_append_rtakeWhile ..).symm, fun c hc => ?_,
    fun c hc => ?_⟩
  · simpa using List.mem_rtakeWhile_imp hc
  · obtain ⟨ne, rfl⟩ := List.mem_getLast?_eq_getLast hc
    exact fun h => List.rdropWhile_last_not (· = '\r') cs ne (decide_eq_true h)

theorem newline_not_mem_gutter (number : Nat) : '\n' ∉ gutter number := by
  intro h
  have digit : '\n' ∈ Nat.toDigits 10 number := by simpa [gutter] using h
  have := Nat.isDigit_of_mem_toDigits (by decide) (by decide) digit
  exact absurd this (by decide)

/-! ### Diagrams -/

section Divided

variable {source lines front covered after : List Char} {span : Span}

/-- The diagram of a span shows its line, and one tilde for each character that the span covers of
the line, but at least one. -/
theorem render_of_divides (h : span.Divides source lines front covered after) :
    render source span =
      gutter (1 + (lines ++ front).count '\n') ++ trimReturns (front ++ lineOf (covered ++ after)) ++
        '\n' :: (List.replicate
            ((gutter (1 + (lines ++ front).count '\n')).length + front.length) ' ' ++
          List.replicate (max 1 (lineOf covered).length) '~' ++ ['\n']) := by
  have stop : confine (byteLength lines + byteLength front)
      (byteLength lines + byteLength (front ++ lineOf (covered ++ after))) span.stop =
        byteLength (lines ++ front) + byteLength (lineOf covered) := by
    have := min_byteLength_lineOf covered after
    rw [Span.stop, h.start, h.length, confine, byteLength_append, byteLength_append]
    omega
  have width : charsBetween source (byteLength lines + byteLength front)
      (byteLength (lines ++ front) + byteLength (lineOf covered)) = (lineOf covered).length := by
    obtain ⟨others, split⟩ := lineOf_isPrefix covered
    have shape : source = (lines ++ front) ++ lineOf covered ++ (others ++ after) := by
      rw [h.text]
      nth_rewrite 1 [← split]
      simp only [List.append_assoc]
    rw [← byteLength_append, shape, charsBetween_append]
  simp only [render, h.locate, h.rest, lineOf_append h.line, h.confine_start, stop, h.column, width]

/-- That a diagram is two lines: one of the source behind its number, and under it a marker of some
width from some column of the line on. -/
structure Marks (diagram : List Char) (number : Nat) (shown : List Char) (column width : Nat) :
    Prop where
  /-- The lines of the diagram. -/
  lines : diagram = gutter number ++ shown ++ '\n' ::
    (List.replicate ((gutter number).length + column) ' ' ++ List.replicate width '~' ++ ['\n'])
  /-- The first one has no line feed in it. -/
  single : '\n' ∉ gutter number ++ shown
  /-- The marker is not empty. -/
  width_pos : 1 ≤ width

/-- That a marker ends with the line that is shown, or is a single tilde past it. -/
def Clipped (shown : List Char) (column width : Nat) : Prop :=
  column + width ≤ max shown.length (column + 1)

/-- The diagram of a span marks what the span covers of its line. -/
theorem marks_of_divides (h : span.Divides source lines front covered after) :
    Marks (render source span) (1 + (lines ++ front).count '\n')
      (trimReturns (front ++ lineOf (covered ++ after))) front.length
      (max 1 (lineOf covered).length) := by
  obtain ⟨returns, split, -⟩ := exists_returns (front ++ lineOf (covered ++ after))
  have single := List.not_mem_append h.line (newline_not_mem_lineOf (covered ++ after))
  rw [split] at single
  exact ⟨render_of_divides h, List.not_mem_append (newline_not_mem_gutter _)
    fun hm => single (List.mem_append_left _ hm), Nat.le_max_left ..⟩

end Divided

theorem Marks.lineOf_eq {diagram shown : List Char} {number column width : Nat}
    (h : Marks diagram number shown column width) : lineOf diagram = gutter number ++ shown := by
  rw [h.lines, lineOf_append h.single, lineOf_cons, if_pos rfl, List.append_nil]

/-- A diagram tells the line it shows and the width of its marker. -/
theorem Marks.unique {diagram shown shown' : List Char} {number column width width' : Nat}
    (h : Marks diagram number shown column width)
    (h' : Marks diagram number shown' column width') : shown = shown' ∧ width = width' := by
  obtain rfl := List.append_cancel_left (h.lineOf_eq.symm.trans h'.lineOf_eq)
  refine ⟨rfl, ?_⟩
  have lengths := congrArg List.length (h.lines.symm.trans h'.lines)
  simp only [List.length_append, List.length_cons, List.length_replicate] at lengths
  omega

/-- A marker is clipped if what it marks is shown or is no more than a character. -/
theorem clipped_iff {shown returns front covered line : List Char}
    (split : front ++ line = shown ++ returns) (part : covered <+: line) :
    Clipped shown front.length (max 1 covered.length) ↔
      front ++ covered <+: shown ∨ covered.length ≤ 1 := by
  have marked : front ++ covered <+: shown ++ returns :=
    split ▸ (List.prefix_append_right_inj front).2 part
  have seen : front ++ covered <+: shown ↔ front.length + covered.length ≤ shown.length := by
    rw [← List.length_append]
    exact ⟨List.IsPrefix.length_le,
      List.prefix_of_prefix_length_le marked (List.prefix_append _ _)⟩
  rw [seen, Clipped]
  omega

/-- How the diagram of a span shows what the span covers. -/
structure Underlines (source : List Char) (span : Span)
    (lines front covered after shown returns : List Char) (width : Nat) : Prop where
  /-- The span divides the source. -/
  divides : span.Divides source lines front covered after
  /-- The line on which it starts is what is shown and some more. -/
  line : front ++ lineOf (covered ++ after) = shown ++ returns
  /-- What is not shown are returns. -/
  hidden : ∀ c ∈ returns, c = '\r'
  /-- No return at the end of the line is shown. -/
  ends : ∀ c ∈ shown.getLast?, c ≠ '\r'
  /-- The number of the line counts the line feeds before the span, and the marker begins under the
  first character of the span. -/
  marks : Marks (render source span) (1 + (lines ++ front).count '\n') shown front.length width
  /-- The diagram is rendered, if what stands before the marker is no wider than a field may be. -/
  rendered : checkedRender source span =
    if (gutter (1 + (lines ++ front).count '\n')).length + front.length ≤ widest then
      .ok (render source span)
    else .error .tooWide
  /-- The marker does not leave the line. -/
  inside : front.length + width ≤ max (shown ++ returns).length (front.length + 1)
  /-- It is clipped to what is shown if and only if what the span covers of the line is shown, or is
  no more than a character. -/
  clipped : Clipped shown front.length width ↔
    front ++ lineOf covered <+: shown ∨ (lineOf covered).length ≤ 1

/-- **The diagram of a span has its marker under the line where the span starts.** -/
theorem underlines_render {source : List Char} {span : Span} (h : span.LiesIn source) :
    ∃ lines front covered after shown returns width,
      Underlines source span lines front covered after shown returns width := by
  obtain ⟨lines, front, covered, after, divides⟩ := h.divides
  obtain ⟨returns, line, hidden, ends⟩ := exists_returns (front ++ lineOf (covered ++ after))
  have part := lineOf_append_isPrefix covered after
  refine ⟨lines, front, covered, after, trimReturns (front ++ lineOf (covered ++ after)), returns,
    max 1 (lineOf covered).length, divides, line, hidden, ends, marks_of_divides divides, ?_, ?_,
    clipped_iff line part⟩
  · rw [checkedRender_eq, indent_of_divides divides]
  · have := part.length_le
    rw [← line, List.length_append]
    omega

/-- `underlines_render` for a span on the second line, past a character of two bytes. -/
theorem underlines_render_second :
    (⟨6, 2⟩ : Span).LiesIn "a\r\nλ (b".toList ∧
    ∃ lines front covered after shown returns width, Underlines "a\r\nλ (b".toList ⟨6, 2⟩
      lines front covered after shown returns width := by
  have lies : (⟨6, 2⟩ : Span).LiesIn "a\r\nλ (b".toList :=
    ⟨⟨"a\r\nλ ".toList, "(b".toList, rfl, rfl⟩, "a\r\nλ (b".toList, [], rfl, rfl⟩
  exact ⟨lies, underlines_render lies⟩

/-- Of a line that ends with a return and a line feed, the marker may leave what is shown. -/
theorem not_clipped_of_return :
    (⟨0, 2⟩ : Span).Divides "a\r\n".toList [] [] ['a', '\r'] ['\n'] ∧
    Marks (render "a\r\n".toList ⟨0, 2⟩) 1 ['a'] 0 2 ∧
    checkedRender "a\r\n".toList ⟨0, 2⟩ = .ok (render "a\r\n".toList ⟨0, 2⟩) ∧
    ∀ shown width, Marks (render "a\r\n".toList ⟨0, 2⟩) 1 shown 0 width →
      ¬ Clipped shown 0 width := by
  have divides : (⟨0, 2⟩ : Span).Divides "a\r\n".toList [] [] ['a', '\r'] ['\n'] :=
    ⟨rfl, by simp, by simp, rfl, rfl⟩
  have marks : Marks (render "a\r\n".toList ⟨0, 2⟩) 1 ['a'] 0 2 :=
    marks_of_divides divides
  have rendered : checkedRender "a\r\n".toList ⟨0, 2⟩ = .ok (render "a\r\n".toList ⟨0, 2⟩) := by
    rw [checkedRender_eq, indent_of_divides divides]
    exact if_pos (by decide)
  refine ⟨divides, marks, rendered, fun shown width other => ?_⟩
  obtain ⟨rfl, rfl⟩ := marks.unique other
  simp [Clipped]

end Diagram

end Offside
