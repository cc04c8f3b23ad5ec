import Mathlib.Data.Nat.Count
import Mathlib.Order.Bounds.Defs
import Offside.Proofs.Rendering

/-!
# The line index and a plain scan

The line index is made once, of a text, and searched by bisection.  What it tells of an offset is
what one finds by going through the bytes before that offset (`LineIndex.scanned_locate`): the
number of the line counts the line feeds among them (`Lands.count_lineFeedAt`), and the line starts
past the last of these (`Lands.isGreatest_start`).

The offset may lie inside a character or past the end.  It is on the line of that character, or on
the last one, for the byte of a line feed is in no other character (`lineFeed_mem_utf8EncodeChar`).
Only its column is counted in bytes then (`LineIndex.column_of_not_isBoundary`).
-/

namespace Offside

/-! ### Bytes -/

/-- The bytes of a text, in UTF-8. -/
def bytes (cs : List Char) : List UInt8 := cs.flatMap String.utf8EncodeChar

/-- The byte that a line feed is written as. -/
def lineFeed : UInt8 := 10

@[simp] theorem bytes_cons (c : Char) (cs : List Char) :
    bytes (c :: cs) = String.utf8EncodeChar c ++ bytes cs := rfl

@[simp] theorem bytes_append (cs ds : List Char) : bytes (cs ++ ds) = bytes cs ++ bytes ds :=
  List.flatMap_append

/-- A string is stored as the bytes of its text. -/
theorem bytes_toList (s : String) : bytes s.toList = s.toByteArray.data.toList := by
  conv_rhs => rw [← String.ofList_toList (s := s), String.toByteArray_ofList]
  rw [List.utf8Encode, List.data_toByteArray, List.toList_toArray, bytes]

@[simp] theorem length_bytes (cs : List Char) : (bytes cs).length = byteLength cs := by
  induction cs with
  | nil => rfl
  | cons c cs ih =>
    rw [bytes_cons, List.length_append, String.length_utf8EncodeChar, ih, byteLength_cons]

theorem utf8EncodeChar_newline : String.utf8EncodeChar '\n' = [lineFeed] := rfl

/-- In a character of several bytes the highest bit of each is set. -/
theorem le_toNat_of_mem_utf8EncodeChar {c : Char} (wide : 127 < c.val.toNat) :
    ∀ byte ∈ String.utf8EncodeChar c, 128 ≤ byte.toNat := by
  have many := Nat.not_le_of_lt wide
  unfold String.utf8EncodeChar
  simp only [if_neg many]
  -- The character is one of two, of three or of four bytes.
  split_ifs
  all_goals
    simp only [List.mem_cons, List.not_mem_nil, or_false, forall_eq_or_imp, forall_eq,
      UInt8.toNat_ofNat']
    omega

/-- The byte of a line feed is in no other character. -/
theorem lineFeed_mem_utf8EncodeChar {c : Char} : lineFeed ∈ String.utf8EncodeChar c ↔ c = '\n' := by
  constructor
  · intro h
    have narrow : c.val.toNat ≤ 127 := by
      by_contra wide
      have high := le_toNat_of_mem_utf8EncodeChar (Nat.lt_of_not_le wide) _ h
      exact absurd high (by decide)
    have size : c.utf8Size = 1 := Char.utf8Size_eq_one_iff.2 (UInt32.le_iff_toNat_le.2 narrow)
    rw [String.utf8EncodeChar_eq_singleton size, List.mem_singleton] at h
    have code : lineFeed.toNat = c.val.toNat % 2 ^ 8 := by rw [h, UInt32.toNat_toUInt8]
    rw [Nat.mod_eq_of_lt (by omega)] at code
    exact Char.toNat_inj.1 code.symm
  · rintro rfl
    exact List.mem_singleton_self _

theorem lineFeed_mem_bytes {cs : List Char} : lineFeed ∈ bytes cs ↔ '\n' ∈ cs := by
  simp [bytes, lineFeed_mem_utf8EncodeChar]

/-- A text has as many bytes of line feeds as line feeds. -/
theorem count_bytes (cs : List Char) : (bytes cs).count lineFeed = cs.count '\n' := by
  induction cs with
  | nil => rfl
  | cons c cs ih =>
    rw [bytes_cons, List.count_append, ih, List.count_cons, Nat.add_comm]
    by_cases h : c = '\n'
    · simp [h, utf8EncodeChar_newline]
    · simp [h, List.count_eq_zero_of_not_mem (mt lineFeed_mem_utf8EncodeChar.1 h)]

/-- Less than the first character of a text has no line feed in it. -/
theorem lineFeed_not_mem_take {c : Char} {n : Nat} (h : n < c.utf8Size) (cs : List Char) :
    lineFeed ∉ (bytes (c :: cs)).take n := by
  have inside : n ≤ (String.utf8EncodeChar c).length := by
    rw [String.length_utf8EncodeChar]
    exact Nat.le_of_lt h
  rw [bytes_cons, List.take_append_of_le_length inside]
  intro mem
  -- A line feed is one byte, so nothing of it would be taken.
  obtain rfl : c = '\n' := lineFeed_mem_utf8EncodeChar.1 (List.mem_of_mem_take mem)
  obtain rfl : n = 0 := Nat.lt_one_iff.1 h
  cases mem

/-! ### Line feeds -/

/-- Whether the byte of a source at a place is a line feed. -/
def LineFeedAt (source : List Char) (place : Nat) : Prop := (bytes source)[place]? = some lineFeed

instance (source : List Char) : DecidablePred (LineFeedAt source) :=
  fun place => inferInstanceAs (Decidable ((bytes source)[place]? = some lineFeed))

/-- The places of line feeds before an offset are counted by the bytes before it. -/
theorem count_lineFeedAt_eq (source : List Char) (offset : Nat) :
    Nat.count (LineFeedAt source) offset = ((bytes source).take offset).count lineFeed := by
  induction offset with
  | zero => simp
  | succ offset ih =>
    rw [Nat.count_succ, ih, List.take_add_one, List.count_append]
    congr 1
    by_cases h : LineFeedAt source offset
    · rw [if_pos h, h, Option.toList_some, List.count_singleton_self]
    · have none : lineFeed ∉ (bytes source)[offset]?.toList := by
        rw [Option.mem_toList]
        exact h
      rw [if_neg h, List.count_eq_zero_of_not_mem none]

theorem lineFeedAt_append (before after : List Char) :
    LineFeedAt (before ++ '\n' :: after) (byteLength before) := by
  rw [LineFeedAt, bytes_append, bytes_cons, utf8EncodeChar_newline, ← length_bytes]
  simp

/-! ### Where an offset is -/

/-- No line starts before the end of the first character. -/
theorem add_utf8Size_le_of_mem_lineStarts {offset start : Nat} {c : Char} {cs : List Char}
    (h : start ∈ lineStarts offset (c :: cs)) : offset + c.utf8Size ≤ start := by
  rw [lineStarts] at h
  by_cases hc : c = '\n'
  · rw [if_pos hc] at h
    rcases List.mem_cons.1 h with rfl | h
    · exact Nat.le_refl _
    · exact Nat.le_of_lt (mem_lineStarts h).1
  · rw [if_neg hc] at h
    exact Nat.le_of_lt (mem_lineStarts h).1

/-- How an offset divides its source: `lines` are whole, and `front` is what the line that it is on
has before the character that it is at or in. -/
structure Lands (source : List Char) (offset : Nat) (lines front after : List Char) : Prop where
  /-- The parts make the source. -/
  text : source = lines ++ (front ++ after)
  /-- The line begins after a line feed or with the source. -/
  whole : ∀ c ∈ lines.getLast?, c = '\n'
  /-- It goes on up to the offset. -/
  line : '\n' ∉ front
  /-- The offset is not before the rest. -/
  le : byteLength (lines ++ front) ≤ offset
  /-- It is not past the first character of the rest. -/
  lt : ∀ c ∈ after.head?, offset < byteLength (lines ++ front) + c.utf8Size

/-- Up to an offset there are some whole characters, and less than one more or nothing. -/
theorem exists_whole_chars (source : List Char) (offset : Nat) :
    ∃ before after, source = before ++ after ∧ byteLength before ≤ offset ∧
      ∀ c ∈ after.head?, offset < byteLength before + c.utf8Size := by
  induction source generalizing offset with
  | nil => exact ⟨[], [], rfl, Nat.zero_le _, by simp⟩
  | cons c cs ih =>
    by_cases h : c.utf8Size ≤ offset
    · obtain ⟨before, after, rfl, le, lt⟩ := ih (offset - c.utf8Size)
      refine ⟨c :: before, after, rfl, ?_, fun d hd => ?_⟩
      · rw [byteLength_cons]
        omega
      · have := lt d hd
        rw [byteLength_cons]
        omega
    · refine ⟨[], c :: cs, rfl, Nat.zero_le _, fun d hd => ?_⟩
      obtain rfl : c = d := by simpa using hd
      simpa using h

/-- **Any offset divides its source.** -/
theorem exists_lands (source : List Char) (offset : Nat) :
    ∃ lines front after, Lands source offset lines front after := by
  obtain ⟨before, after, rfl, le, lt⟩ := exists_whole_chars source offset
  obtain ⟨lines, front, rfl, whole, line⟩ := exists_lines before
  exact ⟨lines, front, after, List.append_assoc .., whole, line, le, lt⟩

namespace Lands

variable {source lines front after : List Char} {offset : Nat}

/-- Before an offset are the bytes of whole lines, and others without a line feed. -/
theorem exists_take_bytes (h : Lands source offset lines front after) :
    ∃ others, (bytes source).take offset = bytes lines ++ others ∧ lineFeed ∉ others := by
  have reached : (bytes (lines ++ front)).length ≤ offset := by
    rw [length_bytes]
    exact h.le
  refine ⟨bytes front ++ (bytes after).take (offset - (bytes (lines ++ front)).length), ?_,
    List.not_mem_append (mt lineFeed_mem_bytes.1 h.line) ?_⟩
  · rw [h.text, ← List.append_assoc, bytes_append, List.take_append,
      List.take_of_length_le reached, bytes_append, List.append_assoc]
  · cases after with
    | nil => simp [bytes]
    | cons c cs =>
      refine lineFeed_not_mem_take ?_ cs
      have := h.lt c rfl
      rw [length_bytes] at reached ⊢
      omega

/-- The line feeds before an offset are those of the whole lines. -/
theorem count_lineFeedAt (h : Lands source offset lines front after) :
    Nat.count (LineFeedAt source) offset = lines.count '\n' := by
  obtain ⟨others, split, none⟩ := h.exists_take_bytes
  rw [count_lineFeedAt_eq, split, List.count_append, count_bytes,
    List.count_eq_zero_of_not_mem none, Nat.add_zero]

/-- A line feed before an offset is in one of the whole lines. -/
theorem lt_of_lineFeedAt (h : Lands source offset lines front after) {place : Nat}
    (lt : place < offset) (feed : LineFeedAt source place) : place < byteLength lines := by
  obtain ⟨others, split, none⟩ := h.exists_take_bytes
  by_contra past
  have later : (bytes lines).length ≤ place := by
    rw [length_bytes]
    exact Nat.le_of_not_lt past
  rw [LineFeedAt, ← List.getElem?_take_of_lt lt, split, List.getElem?_append_right later] at feed
  exact none (List.mem_of_getElem? feed)

/-- The whole lines end past the last line feed before the offset, or there are none. -/
theorem isGreatest_start (h : Lands source offset lines front after) :
    IsGreatest {start | start = 0 ∨ ∃ place < offset, LineFeedAt source place ∧ start = place + 1}
      (byteLength lines) := by
  constructor
  · cases lines using List.reverseRec with
    | nil => exact .inl rfl
    | append_singleton others c =>
      obtain rfl : c = '\n' := h.whole c (by simp)
      have le := h.le
      have feed := lineFeedAt_append others (front ++ after)
      rw [List.append_cons, ← h.text] at feed
      have length : byteLength (others ++ ['\n']) = byteLength others + 1 := byteLength_append ..
      refine .inr ⟨byteLength others, ?_, feed, length⟩
      rw [byteLength_append, length] at le
      omega
  · rintro start (rfl | ⟨place, lt, feed, rfl⟩)
    · exact Nat.zero_le _
    · exact h.lt_of_lineFeedAt lt feed

/-- The index finds the line after the whole ones. -/
theorem locate (h : Lands source offset lines front after) :
    (LineIndex.ofSource source).locate offset = ⟨1 + lines.count '\n', byteLength lines⟩ := by
  rw [h.text, ← List.append_assoc, LineIndex.locate_append, length_lineStarts,
    getLast_lineStarts h.whole h.line, List.count_append, List.count_eq_zero_of_not_mem h.line,
    Nat.add_zero]
  · intro start hs
    have := (mem_lineStarts hs).2
    have := h.le
    omega
  · intro start hs
    cases after with
    | nil => cases hs
    | cons c cs => exact Nat.lt_of_lt_of_le (h.lt c rfl) (add_utf8Size_le_of_mem_lineStarts hs)

end Lands

/-! ### Columns -/

namespace LineIndex

theorem column_of_isBoundary {source : List Char} {offset : Nat} (h : IsBoundary source offset) :
    ∃ lines front after, source = lines ++ (front ++ after) ∧
      ((ofSource source).locate offset).start = byteLength lines ∧
      offset = byteLength lines + byteLength front ∧
      (ofSource source).column source offset = front.length := by
  obtain ⟨lines, front, after, text, start, stop⟩ :=
    (isBoundary_locate source offset).exists_part h (locate_bounds source offset).2.2
  refine ⟨lines, front, after, text, start, stop, ?_⟩
  rw [column, start]
  nth_rewrite 1 [text]
  rw [stop, ← List.append_assoc, charsBetween_append]

theorem column_of_not_isBoundary {source : List Char} {offset : Nat}
    (h : ¬ IsBoundary source offset) : (ofSource source).column source offset =
      offset - ((ofSource source).locate offset).start := by
  rw [column, charsBetween]
  cases cut : slice? source ((ofSource source).locate offset).start offset with
  | none => rfl
  | some part =>
    obtain ⟨before, after, text, -, stop⟩ := eq_append_of_slice? cut
    exact absurd ⟨before ++ part, after, text, stop.trans (byteLength_append ..).symm⟩ h

end LineIndex

/-! ### The index and the scan -/

/-- That a line and a column are what a plain scan of a source finds for an offset. -/
structure Scanned (source : List Char) (offset : Nat) (line : Line) (column : Nat) : Prop where
  /-- The number of the line counts the line feeds before the offset. -/
  number : line.number = 1 + Nat.count (LineFeedAt source) offset
  /-- The line starts past the last of them, or with the source. -/
  start : IsGreatest
    {start | start = 0 ∨ ∃ place < offset, LineFeedAt source place ∧ start = place + 1} line.start
  /-- It starts between two characters, or at an end of the source. -/
  boundary : IsBoundary source line.start
  /-- It does not start past the offset. -/
  le : line.start ≤ offset
  /-- The column counts the characters from the start of the line on, if none is cut. -/
  column_of_isBoundary : IsBoundary source offset → ∃ lines front after,
    source = lines ++ (front ++ after) ∧ line.start = byteLength lines ∧
      offset = byteLength lines + byteLength front ∧ column = front.length
  /-- It counts the bytes, if one is or if the offset is past the end. -/
  column_of_not_isBoundary : ¬ IsBoundary source offset → column = offset - line.start

/-- **The line index agrees with a plain scan** at any offset, and no step of it is at fault. -/
theorem LineIndex.scanned_locate (source : List Char) (offset : Nat) :
    (ofSource source).checkedLocate offset = .ok ((ofSource source).locate offset) ∧
    (ofSource source).checkedColumn source offset = .ok ((ofSource source).column source offset) ∧
    Scanned source offset ((ofSource source).locate offset)
      ((ofSource source).column source offset) := by
  obtain ⟨lines, front, after, lands⟩ := exists_lands source offset
  refine ⟨checkedLocate_ofSource source offset, checkedColumn_ofSource source offset, ?_⟩
  exact {
    number := by rw [lands.locate, lands.count_lineFeedAt]
    start := by
      rw [lands.locate]
      exact lands.isGreatest_start
    boundary := isBoundary_locate source offset
    le := (locate_bounds source offset).2.2
    column_of_isBoundary := column_of_isBoundary
    column_of_not_isBoundary := column_of_not_isBoundary }

end Offside
