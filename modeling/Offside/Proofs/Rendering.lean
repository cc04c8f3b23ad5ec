import Offside.Error.Checked
import Offside.Proofs.LineFeeds
import Offside.Proofs.Steps

/-!
# Rendering

A message says what each link of a chain of errors says, from the outside in, and shows the place
of the last one (`ParseError.diagnostic_eq`).

Its diagram is rendered without a fault but one (`Diagram.checkedRender_eq`).  The line that is
looked up begins at a boundary of the source, so no slice cuts a character and no range of offsets
is out of order, whatever the span is.  But the blanks before the marker are one field, and a field
is not wider than `Diagram.widest`: of a place far enough on its line there is no diagram, and no
message for an error there (`ParseError.not_rendered_of_wide`).
-/

namespace Offside

/-! ### Spans in a source -/

/-- Two boundaries in order divide a source. -/
theorem IsBoundary.exists_part {source : List Char} {start stop : Nat}
    (hs : IsBoundary source start) (ht : IsBoundary source stop) (h : start ≤ stop) :
    ∃ before part after, source = before ++ (part ++ after) ∧ start = byteLength before ∧
      stop = byteLength before + byteLength part := by
  obtain ⟨before, behind, rfl, rfl⟩ := hs
  obtain ⟨before', after, split, rfl⟩ := ht
  rcases List.append_eq_append_iff.1 split with ⟨part, rfl, rfl⟩ | ⟨part, rfl, rfl⟩
  · exact ⟨before, part, after, rfl, rfl, byteLength_append ..⟩
  · -- The boundaries come in this order only if nothing is between them.
    cases part with
    | nil => exact ⟨before', [], behind, by simp, by simp, by simp⟩
    | cons c cs =>
      have pos := byteLength_pos (List.cons_ne_nil c cs)
      rw [byteLength_append] at h
      omega

/-- How a span divides its source: `lines` are whole, `front` is what the line that the span starts
on has before it, and `covered` is what the span covers. -/
structure Span.Divides (source : List Char) (span : Span) (lines front covered after : List Char) :
    Prop where
  /-- The parts make the source. -/
  text : source = lines ++ (front ++ (covered ++ after))
  /-- The line of the span begins after a line feed or with the source. -/
  whole : ∀ c ∈ lines.getLast?, c = '\n'
  /-- It goes on up to the span. -/
  line : '\n' ∉ front
  /-- The span starts there. -/
  start : span.start = byteLength (lines ++ front)
  /-- It is as long as what it covers. -/
  length : span.length = byteLength covered

/-- **A span that lies in a source divides it.** -/
theorem Span.LiesIn.divides {source : List Char} {span : Span} (h : span.LiesIn source) :
    ∃ lines front covered after, span.Divides source lines front covered after := by
  obtain ⟨before, covered, after, text, start, stop⟩ :=
    h.start.exists_part h.stop span.start_le_stop
  obtain ⟨lines, front, rfl, whole, line⟩ := exists_lines before
  refine ⟨lines, front, covered, after, by rw [text, List.append_assoc], whole, line, start, ?_⟩
  rw [Span.stop, start] at stop
  exact Nat.add_left_cancel stop

/-! ### Lines -/

theorem isBoundary_of_mem_lineStarts {before after : List Char} {start : Nat}
    (h : start ∈ lineStarts (byteLength before) after) : IsBoundary (before ++ after) start := by
  induction after generalizing before with
  | nil => cases h
  | cons c cs ih =>
    have next : byteLength before + c.utf8Size = byteLength (before ++ [c]) := by simp
    have later : start ∈ lineStarts (byteLength before + c.utf8Size) cs →
        IsBoundary (before ++ c :: cs) start := by
      intro h
      rw [next] at h
      rw [List.append_cons]
      exact ih h
    rw [lineStarts] at h
    by_cases hc : c = '\n'
    · rw [if_pos hc] at h
      rcases List.mem_cons.1 h with rfl | h
      · exact ⟨before ++ [c], cs, List.append_cons .., next⟩
      · exact later h
    · rw [if_neg hc] at h
      exact later h

/-- **A line starts at a boundary**, whatever the offset is that it is the line of. -/
theorem LineIndex.isBoundary_locate (source : List Char) (offset : Nat) :
    IsBoundary source ((ofSource source).locate offset).start := by
  obtain ⟨-, entry, -⟩ := locate_bounds source offset
  have mem := List.mem_of_getElem? (Array.getElem?_toList.trans entry)
  rcases List.mem_cons.1 mem with first | later
  · exact ⟨[], source, rfl, first⟩
  · exact @isBoundary_of_mem_lineStarts [] source _ later

namespace Diagram

theorem lineOf_cons (c : Char) (cs : List Char) :
    lineOf (c :: cs) = if c = '\n' then [] else c :: lineOf cs := by
  by_cases h : c = '\n' <;> simp [lineOf, h]

theorem lineOf_append {cs : List Char} (h : '\n' ∉ cs) (ds : List Char) :
    lineOf (cs ++ ds) = cs ++ lineOf ds := by
  refine List.takeWhile_append_of_pos fun c hc => ?_
  rw [decide_eq_true_eq]
  rintro rfl
  exact h hc

theorem lineOf_isPrefix (cs : List Char) : lineOf cs <+: cs := List.takeWhile_prefix _

/-- The first line feed of a text stands right after its first line. -/
theorem lineFeed?_eq (cs : List Char) :
    lineFeed? cs = if '\n' ∈ cs then some (byteLength (lineOf cs)) else none := by
  induction cs with
  | nil => rfl
  | cons c cs ih =>
    rw [lineFeed?, lineOf_cons, ih]
    by_cases hc : c = '\n'
    · simp [hc]
    · by_cases later : '\n' ∈ cs <;> simp [hc, Ne.symm hc, later]

/-! ### Checked steps -/

theorem le_confine (low high n : Nat) : low ≤ confine low high n := Nat.le_max_left ..

theorem confine_le {low high : Nat} (h : low ≤ high) (n : Nat) : confine low high n ≤ high :=
  Nat.max_le.2 ⟨h, Nat.min_le_right ..⟩

theorem checkedSlice_append (before part after : List Char) :
    checkedSlice (before ++ part ++ after) (byteLength before)
      (byteLength before + byteLength part) = .ok part := by
  rw [checkedSlice, slice?_append]

theorem checkedConfine_of_le {low high : Nat} (h : low ≤ high) (n : Nat) :
    checkedConfine low high n = .ok (confine low high n) := if_pos h

theorem checkedChars_of_le {start stop : Nat} (h : start ≤ stop) (cs : List Char) :
    checkedChars cs start stop = .ok (charsBetween cs start stop) := by
  have bytes : checkedSub stop start = .ok (stop - start) := if_pos h
  rw [checkedChars, bytes, charsBetween]
  cases slice? cs start stop <;> rfl

/-- A line of a source ends where the line feed after it stands, or with the source. -/
theorem checkedLineEnd_append (lines rest : List Char) :
    checkedLineEnd (lines ++ rest) (byteLength lines) =
      .ok (byteLength lines + byteLength (lineOf rest)) := by
  have slice := checkedSlice_append lines rest []
  rw [List.append_nil, ← byteLength_append] at slice
  have found := lineFeed?_eq rest
  by_cases h : '\n' ∈ rest
  · rw [if_pos h] at found
    simp only [checkedLineEnd, slice, bind, Except.bind, found]
    rfl
  · have whole : lineOf rest = rest := List.takeWhile_eq_self_iff.2 fun c hc => by
      simpa using ne_of_mem_of_not_mem hc h
    rw [if_neg h] at found
    rw [whole, ← byteLength_append]
    simp only [checkedLineEnd, slice, bind, Except.bind, found]
    rfl

/-! ### The width of a diagram -/

/-- How many blanks stand before the marker of a diagram. -/
def indent (source : List Char) (span : Span) : Nat :=
  let line := (LineIndex.ofSource source).locate span.start
  let text := lineOf ((dropBytes? line.start source).getD [])
  (gutter line.number).length +
    charsBetween source line.start (confine line.start (line.start + byteLength text) span.start)

/-- **Only the width of a diagram can be at fault.** -/
theorem checkedRender_eq (source : List Char) (span : Span) :
    checkedRender source span =
      if indent source span ≤ widest then .ok (render source span) else .error .tooWide := by
  obtain ⟨lines, rest, rfl, start⟩ := LineIndex.isBoundary_locate source span.start
  -- The line of the span is the first one of `rest`.
  have located := LineIndex.checkedLocate_ofSource (lines ++ rest) span.start
  have inside : min (byteLength lines) (byteLength (lines ++ rest)) = byteLength lines := by
    rw [byteLength_append]
    exact Nat.min_eq_left (Nat.le_add_right ..)
  have slice : checkedSlice (lines ++ rest) (byteLength lines)
      (byteLength lines + byteLength (lineOf rest)) = .ok (lineOf rest) := by
    obtain ⟨others, split⟩ := lineOf_isPrefix rest
    nth_rewrite 1 [← split]
    rw [← List.append_assoc, checkedSlice_append]
  have order : byteLength lines ≤ byteLength lines + byteLength (lineOf rest) :=
    Nat.le_add_right ..
  have last := confine_le order span.start
  simp only [checkedRender, indent, render, located, start, inside, checkedLineEnd_append, slice,
    dropBytes?_append, checkedConfine_of_le order, checkedConfine_of_le last,
    checkedChars_of_le (le_confine ..), Except.mapError, checkedWidth, Option.getD_some, bind,
    Except.bind]
  split_ifs <;> rfl

end Diagram

section Divided

variable {source lines front covered after : List Char} {span : Span}

namespace Span.Divides

theorem locate (h : span.Divides source lines front covered after) :
    (LineIndex.ofSource source).locate span.start =
      ⟨1 + (lines ++ front).count '\n', byteLength lines⟩ := by
  rw [h.start, h.text, ← List.append_assoc, LineIndex.locate_boundary, length_lineStarts,
    getLast_lineStarts h.whole h.line]

theorem rest (h : span.Divides source lines front covered after) :
    (dropBytes? (byteLength lines) source).getD [] = front ++ (covered ++ after) := by
  rw [h.text, dropBytes?_append]
  rfl

theorem column (h : span.Divides source lines front covered after) :
    charsBetween source (byteLength lines) (byteLength lines + byteLength front) =
      front.length := by
  rw [h.text, ← List.append_assoc, charsBetween_append]

/-- The start of the span is not past the end of its line. -/
theorem confine_start (h : span.Divides source lines front covered after) (line : List Char) :
    Diagram.confine (byteLength lines) (byteLength lines + byteLength (front ++ line)) span.start =
      byteLength lines + byteLength front := by
  rw [h.start, Diagram.confine, byteLength_append, byteLength_append]
  omega

end Span.Divides

/-- Before the marker there are as many blanks as the gutter and the front of the line are long. -/
theorem Diagram.indent_of_divides (h : span.Divides source lines front covered after) :
    indent source span = (gutter (1 + (lines ++ front).count '\n')).length + front.length := by
  simp only [indent, h.locate, h.rest, lineOf_append h.line, h.confine_start, h.column]

end Divided

theorem byteLength_indent (width : Nat) : byteLength (List.replicate width ' ') = width := by
  induction width with
  | zero => rfl
  | succ width ih =>
    rw [List.replicate_succ, byteLength_cons, ih, Nat.add_comm]
    rfl

/-- Past spaces on the first line the marker begins that far from the gutter of that line. -/
theorem Diagram.indent_spaces (n : Nat) (line : List Char) :
    indent (List.replicate n ' ' ++ line) ⟨n, byteLength line⟩ = 5 + n := by
  have blank : '\n' ∉ List.replicate n ' ' := fun h => by
    simpa using List.eq_of_mem_replicate h
  have divides : (⟨n, byteLength line⟩ : Span).Divides (List.replicate n ' ' ++ line) []
      (List.replicate n ' ') line [] :=
    ⟨by simp, by simp, blank, (byteLength_indent n).symm, rfl⟩
  rw [indent_of_divides divides, List.nil_append, List.count_eq_zero.2 blank,
    List.length_replicate]
  rfl

/-! ### Messages -/

/-- Only a paren that is not closed for a lexical error has a trailer, which says what the error
is. -/
theorem Problem.trailer_cases (problem : Problem) :
    (∃ line column containsExpression e,
      problem = .unclosed line column containsExpression (some e) ∧
      problem.trailer = "\nbecause of a lexical error: " ++ e.text) ∨
    (∀ line column containsExpression e,
      problem ≠ .unclosed line column containsExpression (some e)) ∧ problem.trailer = "" := by
  cases problem with
  | unclosed line column containsExpression cause =>
    cases cause with
    | some e => exact .inl ⟨line, column, containsExpression, e, rfl, rfl⟩
    | none => exact .inr ⟨by simp, rfl⟩
  | _ => exact .inr ⟨by simp, rfl⟩

namespace ParseError

/-- **A message is the whole chain and one diagram.** -/
theorem diagnostic_eq (source : List Char) (e : ParseError) :
    e.diagnostic source = ": ".intercalate (e.chain.map text) ++ "\n\n" ++
      String.ofList (Diagram.render source e.root.1) ++ e.root.2.trailer := by
  induction e with
  | plain span problem =>
    rw [chain, List.map_singleton, String.intercalate_singleton]
    rfl
  | within span what cause ih =>
    have links : cause.chain.map text ≠ [] := by simp [chain_ne_nil]
    rw [diagnostic, ih, chain, List.map_cons, String.intercalate_cons_of_ne_nil links]
    simp only [String.append_assoc]
    rfl

/-- **A message is rendered if the diagram in it is not too wide.** -/
theorem checkedDiagnostic_eq (source : List Char) (e : ParseError) :
    e.checkedDiagnostic source =
      if Diagram.indent source e.root.1 ≤ Diagram.widest then .ok (e.diagnostic source)
      else .error .tooWide := by
  induction e with
  | plain span problem =>
    rw [checkedDiagnostic, Diagram.checkedRender_eq, root]
    split_ifs <;> rfl
  | within span what cause ih =>
    rw [checkedDiagnostic, ih, root]
    split_ifs <;> rfl

theorem isChain_chain (e : ParseError) :
    e.chain.IsChain fun wrapper cause => wrapper.cause? = some cause := by
  induction e with
  | plain => exact .singleton _
  | within span what cause ih =>
    refine List.isChain_cons.2 ⟨fun first hf => ?_, ih⟩
    rw [head?_chain] at hf
    exact hf

/-- What becomes of the message for an error. -/
structure Renders (source : List Char) (e : ParseError) : Prop where
  /-- The chain begins with the error. -/
  first : e.chain.head? = some e
  /-- Each link of it is the cause of the one before. -/
  links : e.chain.IsChain fun wrapper cause => wrapper.cause? = some cause
  /-- The last one has no cause. -/
  last : e.chain.getLast e.chain_ne_nil = .plain e.root.1 e.root.2
  /-- The message says what each link says, shows where the last one was found and ends with the
  trailer of that. -/
  message : e.diagnostic source = ": ".intercalate (e.chain.map text) ++ "\n\n" ++
    String.ofList (Diagram.render source e.root.1) ++ e.root.2.trailer
  /-- The trailer names the lexical error that is behind a paren that is not closed. -/
  trailer : (∃ line column containsExpression c,
      e.root.2 = .unclosed line column containsExpression (some c) ∧
      e.root.2.trailer = "\nbecause of a lexical error: " ++ c.text) ∨
    (∀ line column containsExpression c,
      e.root.2 ≠ .unclosed line column containsExpression (some c)) ∧ e.root.2.trailer = ""
  /-- The message is rendered, if its diagram is not too wide, and nothing else can be at fault. -/
  outcome : e.checkedDiagnostic source =
    if Diagram.indent source e.root.1 ≤ Diagram.widest then .ok (e.diagnostic source)
    else .error .tooWide

end ParseError

end Offside
