import Offside.Proofs.Lines
import Offside.Proofs.Lossless

/-!
# Line feeds among items

Each line feed of a source lies in just one of its items, which ends the line (`Item.endsLine`), so
the line of an item is counted by those before it that end one (`lined_items`).  Such an item is a
line break, but for one case: an escape that is none takes the character after its backslash with
it, and if that is a line feed, no line break is made of it (`Item.swallows`).  The line breaks
alone count the lines of just those sources where this does not happen; of a quote, a backslash and
a line feed they do not (`not_lined_of_escape`).
-/

namespace Offside

/-! ### Counting line feeds -/

theorem length_lineStarts (offset : Nat) (cs : List Char) :
    (lineStarts offset cs).length = cs.count '\n' := by
  induction cs generalizing offset with
  | nil => rfl
  | cons c cs ih =>
    rw [lineStarts, List.count_cons]
    split
    · next h => simp [h, ih]
    · next h => simp [h, ih]

/-- The number of the line grows with each line feed. -/
theorem Position.line_advanceAll_count (p : Position) (cs : List Char) :
    (p.advanceAll cs).line = p.line + cs.count '\n' := by
  rw [LineIndex.line_advanceAll p 0, length_lineStarts]

theorem Gap.count_newline {gap : List Char} (h : Gap gap) : gap.count '\n' = 0 :=
  List.count_eq_zero_of_not_mem h.newline_not_mem

/-! ### Items that end a line -/

/-- Whether an item is a bad escape with a line feed after the backslash. -/
def Item.swallows (source : List Char) (item : Item) : Bool :=
  item.lexeme == .error .badEscape && item.textIn source == some ['\\', '\n']

/-- Whether the line ends with an item. -/
def Item.endsLine (source : List Char) (item : Item) : Bool :=
  item.isNewline || item.swallows source

/-- Of the tokens only line breaks end a line. -/
theorem Item.endsLine_of_token {item : Item} {t : Token} (h : item.lexeme = .token t)
    (source : List Char) : item.endsLine source = item.isNewline := by
  simp [endsLine, swallows, h]

/-- What begins no token is no line feed. -/
theorem ne_newline_of_unexpected {c d : Char} {cs : List Char} {s : Scan} (h : scan c cs = some s)
    (lexeme : s.lexeme = .error (.unexpected d)) : d ≠ '\n' := by
  obtain ⟨body, lead⟩ := faithful_of_scan h
  rw [lexeme] at body lead
  have body : s.body = [d] := body
  have lead : s.lead = [] := lead
  obtain ⟨after, split⟩ := scan_isPrefix h
  rw [Scan.consumed, lead, body] at split
  obtain ⟨rfl, -⟩ := List.cons.inj split
  rintro rfl
  simp [scan] at h
  simp [← h, Scan.token] at lexeme

/-- A scan covers at most one line feed: that of a line break, or one after a backslash. -/
theorem count_newline_of_scan {c : Char} {cs : List Char} {s : Scan} (h : scan c cs = some s) :
    s.body.count '\n' = if s.lexeme = .token .newline ∨
      s.lexeme = .error .badEscape ∧ s.body = ['\\', '\n'] then 1 else 0 := by
  have written := (faithful_of_scan h).body
  cases lexeme : s.lexeme with
  | token t =>
    by_cases newline : t = .newline
    · subst newline
      rw [lexeme] at written
      rcases written with body | body <;> simp [body]
    · have none := newline_not_mem_body h lexeme newline
      simp [newline, List.count_eq_zero_of_not_mem none]
  | error e =>
    rw [lexeme] at written
    cases e with
    | unexpected d =>
      have body : s.body = [d] := written
      simp [body, ne_newline_of_unexpected h lexeme]
    | missingQuote =>
      obtain ⟨written, value, body, stands⟩ := written
      simp [body, List.count_eq_zero_of_not_mem stands.newline_not_mem]
    | badEscape =>
      rcases written with body | ⟨d, body, -⟩
      · simp [body]
      · by_cases newline : d = '\n' <;> simp [body, newline]

theorem endsLine_itemOf (before after : List Char) (s : Scan) :
    (Rest.itemOf (Position.origin.advanceAll before) s).endsLine (before ++ (s.consumed ++ after)) =
      true ↔ s.lexeme = .token .newline ∨ s.lexeme = .error .badEscape ∧ s.body = ['\\', '\n'] := by
  rw [Item.endsLine, Item.swallows, textIn_itemOf]
  simp [Item.isNewline, Rest.itemOf]

/-- An item covers a line feed if and only if it ends the line. -/
theorem newline_mem_textIn {source text : List Char} {item : Item} (h : item ∈ items source)
    (covers : item.textIn source = some text) : '\n' ∈ text ↔ item.endsLine source = true := by
  obtain ⟨before, c, cs, s, after, rfl, -, scanned, rfl⟩ := (lexes_items source).scanned_mem h
  obtain rfl := Option.some.inj ((textIn_itemOf before after s).symm.trans covers)
  rw [endsLine_itemOf, ← List.count_pos_iff, count_newline_of_scan scanned]
  split <;> simp_all

/-- Before an item stand as many line feeds as items that end a line. -/
theorem exists_count_newline {source : List Char} {front back : List Item}
    (split : items source = front ++ back) : ∃ before after, source = before ++ after ∧
      before.count '\n' = front.countP (Item.endsLine source) ∧
      Lexes (Position.origin.advanceAll before) after back := by
  induction front using List.reverseRec generalizing back with
  | nil =>
    have lexes := lexes_items source
    rw [split] at lexes
    exact ⟨[], source, rfl, rfl, lexes⟩
  | append_singleton front item ih =>
    obtain ⟨before, after, rfl, count, rest⟩ := ih (split.trans (List.append_assoc ..))
    cases rest with
    | @item _ gap cs after c s _ blank scanned joined others =>
      have shape : before ++ (gap ++ c :: cs) = (before ++ gap) ++ (s.consumed ++ after) := by
        simp [joined]
      have ends := endsLine_itemOf (before ++ gap) after s
      rw [Position.advanceAll_append, ← shape] at ends
      have lead : s.lead.count '\n' = 0 :=
        List.count_eq_zero_of_not_mem (newline_not_mem_lead scanned)
      refine ⟨before ++ (gap ++ s.consumed), after, by simp [joined], ?_, ?_⟩
      · rw [List.countP_append, ← count, List.countP_singleton, List.count_append,
          List.count_append, blank.count_newline, Scan.consumed, List.count_append, lead,
          count_newline_of_scan scanned]
        simp only [ends, Nat.zero_add]
      · rw [Position.advanceAll_append]
        exact others

/-- The line of an item is counted by the items before it that end a line. -/
theorem line_eq_countP {source : List Char} {front back : List Item} {item : Item}
    (split : items source = front ++ item :: back) :
    item.position.line = 1 + front.countP (Item.endsLine source) := by
  obtain ⟨before, after, -, count, rest⟩ := exists_count_newline split
  cases rest with
  | @item _ gap cs after c s _ blank scanned joined others =>
    rw [Rest.itemOf, Position.line_advanceAll _ (newline_not_mem_lead scanned),
      Position.line_advanceAll _ blank.newline_not_mem, Position.line_advanceAll_count, count]
    rfl

/-- Past a line break the lines have greater numbers. -/
theorem line_lt_of_newline {source : List Char} {before after : List Item} {item nl later : Item}
    (split : items source = before ++ nl :: after) (newline : nl.isNewline = true)
    (hi : item ∈ before) (hl : later ∈ after) : item.position.line < later.position.line := by
  obtain ⟨front, between, rfl⟩ := List.append_of_mem hi
  obtain ⟨between', back, rfl⟩ := List.append_of_mem hl
  have first : items source = front ++ item :: (between ++ nl :: (between' ++ later :: back)) := by
    simp [split]
  have second : items source =
      (front ++ item :: between ++ nl :: between') ++ later :: back := by simp [split]
  have ends : nl.endsLine source = true := by simp [Item.endsLine, newline]
  rw [line_eq_countP first, line_eq_countP second, List.countP_append, List.countP_append,
    List.countP_cons_of_pos ends]
  omega

/-! ### Items that cover a line feed -/

/-- Whether the byte at an offset belongs to a span. -/
def Span.Covers (s : Span) (offset : Nat) : Prop := s.start ≤ offset ∧ offset < s.stop

/-- A character of two texts stands in the first or in the second one. -/
theorem append_eq_append_cons {xs ys before after : List Char} {c : Char}
    (h : xs ++ ys = before ++ c :: after) :
    (∃ back, xs = before ++ c :: back) ∨
      ∃ front, before = xs ++ front ∧ ys = front ++ c :: after := by
  rcases List.append_eq_append_iff.1 h with ⟨front, rfl, rfl⟩ | ⟨back, rfl, shape⟩
  · exact .inr ⟨front, rfl, rfl⟩
  · cases back with
    | nil => exact .inr ⟨[], by simp, shape.symm⟩
    | cons d back =>
      obtain ⟨rfl, -⟩ := List.cons.inj shape
      exact .inl ⟨back, rfl⟩

/-- A line feed stands in what some item covers. -/
theorem Lexes.exists_body {p : Position} {text : List Char} {its : List Item}
    (h : Lexes p text its) {before after : List Char} (split : text = before ++ '\n' :: after) :
    ∃ xs s ys zs tail, text = xs ++ (s.consumed ++ tail) ∧ Rest.itemOf (p.advanceAll xs) s ∈ its ∧
      before = xs ++ s.lead ++ ys ∧ s.body = ys ++ '\n' :: zs := by
  induction h generalizing before with
  | done blank => exact absurd (by simp [split]) blank.newline_not_mem
  | @item p gap cs tail c s its blank scanned joined others ih =>
    have shape : (gap ++ s.lead) ++ (s.body ++ tail) = before ++ '\n' :: after := by
      rw [← split, joined, Scan.consumed]
      simp only [List.append_assoc]
    rcases append_eq_append_cons shape with ⟨zs, none⟩ | ⟨ys, rfl, inner⟩
    · have mem : '\n' ∈ gap ++ s.lead := by simp [none]
      rcases List.mem_append.1 mem with mem | mem
      · exact absurd mem blank.newline_not_mem
      · exact absurd mem (newline_not_mem_lead scanned)
    rcases append_eq_append_cons inner with ⟨zs, body⟩ | ⟨front, rfl, past⟩
    · exact ⟨gap, s, ys, zs, tail, by rw [joined], List.mem_cons_self, rfl, body⟩
    · obtain ⟨xs, s', ys, zs, rest, text, mem, rfl, body⟩ := ih past
      refine ⟨gap ++ s.consumed ++ xs, s', ys, zs, rest, ?_, ?_, ?_, body⟩
      · rw [joined, text]
        simp only [List.append_assoc]
      · rw [Position.advanceAll_append]
        exact List.mem_cons_of_mem _ mem
      · simp only [Scan.consumed, List.append_assoc]

/-- No two items cover the same byte. -/
theorem eq_of_covers {source : List Char} {a b : Item} {offset : Nat} (ha : a ∈ items source)
    (hb : b ∈ items source) (ca : a.span.Covers offset) (cb : b.span.Covers offset) : a = b := by
  let Apart (i j : Item) : Prop := i.span.stop ≤ j.span.start ∨ j.span.stop ≤ i.span.start
  have : Std.Symm Apart := ⟨fun _ _ h => h.symm⟩
  have apart : (items source).Pairwise Apart :=
    (pairwise_of_isChain (lexes_items source).isChain).imp fun h => .inl h.2
  obtain ⟨startA, stopA⟩ := ca
  obtain ⟨startB, stopB⟩ := cb
  by_contra ne
  rcases apart.forall ha hb ne with h | h
  · omega
  · omega

/-! ### Sources -/

/-- That the line feeds of a source are told by those of its items that `ends` picks. -/
structure Lined (source : List Char) (ends : Item → Bool) : Prop where
  /-- Each line feed lies in one of them and in no other item. -/
  lineFeed : ∀ before after, source = before ++ '\n' :: after → ∃ item ∈ items source,
    ends item = true ∧ ∀ other ∈ items source, other.span.Covers (byteLength before) ↔ other = item
  /-- No other item covers a line feed. -/
  others : ∀ item ∈ items source, ends item = false →
    ∃ text, item.textIn source = some text ∧ '\n' ∉ text
  /-- The line of an item is counted by those before it. -/
  line : ∀ front item back, items source = front ++ item :: back →
    ((LineIndex.ofSource source).locate item.span.start).number = 1 + front.countP ends

/-- A line feed lies in one item only, and the line ends with that. -/
theorem exists_endsLine {source before after : List Char}
    (split : source = before ++ '\n' :: after) : ∃ item ∈ items source,
      item.endsLine source = true ∧
        ∀ other ∈ items source, other.span.Covers (byteLength before) ↔ other = item := by
  obtain ⟨xs, s, ys, zs, tail, text, mem, rfl, body⟩ := (lexes_items source).exists_body split
  have textIn := textIn_itemOf xs tail s
  rw [← text] at textIn
  have covers : (Rest.itemOf (Position.origin.advanceAll xs) s).span.Covers
      (byteLength (xs ++ s.lead ++ ys)) := by
    have size := ('\n').utf8Size_pos
    simp only [Span.Covers, Item.span, Rest.itemOf, Span.stop, Position.offset_advanceAll,
      Position.origin, body, byteLength_append, byteLength_cons]
    omega
  refine ⟨_, mem, (newline_mem_textIn mem textIn).1 (by simp [body]), fun other hother => ?_⟩
  refine ⟨fun h => eq_of_covers hother mem h covers, ?_⟩
  rintro rfl
  exact covers

/-- The lines of a source are told by the items that end one. -/
theorem lined_endsLine (source : List Char) : Lined source (Item.endsLine source) where
  lineFeed _ _ split := exists_endsLine split
  others item mem h := by
    obtain ⟨c, cs, s, scanned, -, text⟩ := textIn_of_mem_items mem
    refine ⟨s.body, text, fun newline => ?_⟩
    rw [(newline_mem_textIn mem text).1 newline] at h
    cases h
  line front item back split := by
    rw [LineIndex.locate_item (by simp [split]), line_eq_countP split]

/-- Items that agree with others on a source tell its lines as well. -/
theorem Lined.congr {source : List Char} {ends ends' : Item → Bool} (lined : Lined source ends)
    (same : ∀ item ∈ items source, ends item = ends' item) : Lined source ends' where
  lineFeed before after split := by
    obtain ⟨item, mem, h, unique⟩ := lined.lineFeed before after split
    exact ⟨item, mem, same item mem ▸ h, unique⟩
  others item mem h := lined.others item mem (same item mem ▸ h)
  line front item back split := by
    have count : front.countP ends = front.countP ends' :=
      List.countP_congr fun other mem => by rw [same other (by simp [split, mem])]
    rw [lined.line front item back split, count]

/-- The line breaks tell the lines of those sources where no escape takes a line feed. -/
theorem lined_isNewline_iff (source : List Char) :
    Lined source Item.isNewline ↔ ∀ item ∈ items source, item.swallows source = false := by
  refine ⟨fun lined item mem => ?_, fun free => (lined_endsLine source).congr fun item mem => ?_⟩
  · rw [← Bool.not_eq_true]
    intro swallows
    rw [Item.swallows, Bool.and_eq_true, beq_iff_eq, beq_iff_eq] at swallows
    -- The escape is no line break, but what it covers has a line feed.
    obtain ⟨text, covered, none⟩ := lined.others item mem (by simp [Item.isNewline, swallows.1])
    rw [swallows.2] at covered
    cases covered
    simp at none
  · rw [Item.endsLine, free item mem, Bool.or_false]

/-- **The lines of a source are told by the items that end one**: its line breaks, and the escapes
that take a line feed with them.  The line breaks alone tell them if and only if there are no such
escapes. -/
theorem lined_items (source : List Char) : Lined source (Item.endsLine source) ∧
    (Lined source Item.isNewline ↔ ∀ item ∈ items source, item.swallows source = false) :=
  ⟨lined_endsLine source, lined_isNewline_iff source⟩

/-- An escape at the end of a line takes the line feed: of this source the line breaks do not tell
the lines. -/
theorem not_lined_of_escape : ¬ Lined "\"\\\n".toList Item.isNewline := by
  rw [lined_isNewline_iff]
  decide +kernel

end Offside
