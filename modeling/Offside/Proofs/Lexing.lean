import Mathlib.Data.List.Chain
import Mathlib.Data.List.TakeWhile
import Offside.Token.Lexer

/-!
# How a text falls into items

`Lexes p text items` derives the items of a text that begins at the position `p`: blanks, a scan,
then the items of what the scan leaves.  Every source has such a derivation (`lexes_items`), so a
statement about its items is an induction over it.

* `Lexes.isChain`: an item ends before the next one begins, and a token other than a line break
  stands left of the item after it (`Item.Precedes`); so an item is known by where it begins
  (`eq_of_start_eq`).
* `Lexes.position_mem`: the position of an item counts the characters before it.

Both rest on where line feeds may be: a token other than a line break covers none
(`newline_not_mem_body`), and none is passed over (`newline_not_mem_lead`).
-/

namespace Offside

/-! ### Positions -/

namespace Position

theorem offset_advanceAll (p : Position) (cs : List Char) :
    (p.advanceAll cs).offset = p.offset + byteLength cs := by
  induction cs generalizing p with
  | nil => simp
  | cons c cs ih => rw [advanceAll_cons, ih, offset_advance, byteLength_cons, Nat.add_assoc]

theorem advance_of_ne_newline (p : Position) {c : Char} (h : c ≠ '\n') :
    p.advance c = ⟨p.offset + c.utf8Size, p.line, p.column + 1⟩ := by
  simp [advance, h]

/-- Along a line the column counts characters. -/
theorem column_advanceAll (p : Position) {cs : List Char} (h : '\n' ∉ cs) :
    (p.advanceAll cs).column = p.column + cs.length := by
  induction cs generalizing p with
  | nil => simp
  | cons c cs ih =>
    obtain ⟨hc, hcs⟩ := List.ne_and_not_mem_of_not_mem_cons h
    rw [advanceAll_cons, ih _ hcs, advance_of_ne_newline p hc.symm, List.length_cons]
    exact Nat.add_right_comm p.column 1 cs.length

/-- Along a line the number of the line stays. -/
theorem line_advanceAll (p : Position) {cs : List Char} (h : '\n' ∉ cs) :
    (p.advanceAll cs).line = p.line := by
  induction cs generalizing p with
  | nil => rfl
  | cons c cs ih =>
    obtain ⟨hc, hcs⟩ := List.ne_and_not_mem_of_not_mem_cons h
    rw [advanceAll_cons, ih _ hcs, advance_of_ne_newline p hc.symm]

end Position

/-! ### Where line feeds are -/

theorem newline_not_mem_operatorRun (cs : List Char) : '\n' ∉ operatorRun cs := by
  induction cs with
  | nil => simp [operatorRun]
  | cons c cs ih =>
    rw [operatorRun]
    split
    · next h =>
      have hc : c ≠ '\n' := by
        rintro rfl
        rw [show isOperatorChar '\n' = false by decide, Bool.false_and] at h
        cases h
      simp [ih, hc.symm]
    · simp

theorem newline_not_mem_takeWhile {p : Char → Bool} (h : p '\n' = false) (cs : List Char) :
    '\n' ∉ cs.takeWhile p := fun hm => by
  rw [List.mem_takeWhile_imp hm] at h
  cases h

theorem newline_not_mem_numberRun (cs : List Char) : '\n' ∉ numberRun cs := by
  have digits : ∀ ds : List Char, '\n' ∉ ds.takeWhile Char.isDigit :=
    newline_not_mem_takeWhile (by decide)
  rw [numberRun, List.mem_append, not_or]
  refine ⟨digits cs, ?_⟩
  split
  · next d ds _ =>
    split
    · rw [List.mem_cons, not_or]
      exact ⟨by decide, digits (d :: ds)⟩
    · simp
  · simp

theorem isNameStart_newline : Unicode.isNameStart '\n' = false := by decide +kernel

theorem isNameContinue_newline : Unicode.isNameContinue '\n' = false := by decide +kernel

theorem unescape_newline : unescape '\n' = none := by decide

/-- A text ends at a line feed at the latest. -/
theorem newline_not_mem_scanText (cs : List Char) : '\n' ∉ (scanText cs).read := by
  fun_induction scanText cs with
  | case1 => simp
  | case2 => simp
  | case3 => simp
  | case4 => simp
  | case5 c cs d hd ih =>
    have hc : c ≠ '\n' := by
      rintro rfl
      rw [unescape_newline] at hd
      cases hd
    simp [TextScan.cons, ih, hc.symm]
  | case6 => simp
  | case7 c cs h1 h2 h3 h4 ih =>
    have hc : c ≠ '\n' := fun h => h1 h
    simp [TextScan.cons, ih, hc.symm]

theorem lead_toScan (s : TextScan) :
    s.toScan.lead = [] ∨ s.toScan.lead = '"' :: s.read := by
  obtain ⟨value, read, ending⟩ := s
  cases ending <;> simp [TextScan.toScan, Scan.token, Scan.error]

theorem body_toScan {s : TextScan} {t : Token} (h : s.toScan.lexeme = .token t) :
    s.toScan.body = '"' :: s.read := by
  obtain ⟨value, read, ending⟩ := s
  cases ending with
  | closed => rfl
  | unclosed => cases h
  | badEscape => cases h

theorem newline_not_mem_scanGeneric {cs : List Char} {t : Token}
    (h : (scanGeneric cs).lexeme = .token t) : '\n' ∉ (scanGeneric cs).body := by
  unfold scanGeneric at h ⊢
  split at h
  · next c cs =>
    split at h
    · next hc =>
      have hn : c ≠ '\n' := by
        rintro rfl
        rw [isNameStart_newline] at hc
        cases hc
      simp [Scan.token, hc, hn.symm, newline_not_mem_takeWhile isNameContinue_newline]
    · cases h
  · cases h

theorem newline_not_mem_scanPlain {c : Char} {cs : List Char} {t : Token} (hc : c ≠ '\n')
    (h : (scanPlain c cs).lexeme = .token t) : '\n' ∉ (scanPlain c cs).body := by
  unfold scanPlain at h ⊢
  split
  · simp [Scan.token, hc.symm]
  split
  · simp [Scan.token, hc.symm]
  split
  · simp [Scan.token, hc.symm, newline_not_mem_numberRun]
  split
  · simp [Scan.token, hc.symm, newline_not_mem_operatorRun]
  split
  · simp [Scan.token, hc.symm, newline_not_mem_takeWhile isNameContinue_newline]
  · simp_all [Scan.error]

/-- **A token other than a line break covers no line feed.** -/
theorem newline_not_mem_body {c : Char} {cs : List Char} {s : Scan} {t : Token}
    (h : scan c cs = some s) (ht : s.lexeme = .token t) (hn : t ≠ .newline) : '\n' ∉ s.body := by
  unfold scan at h
  split at h
  · obtain rfl := Option.some.inj h
    exact absurd (Lexeme.token.inj ht).symm hn
  next hc =>
  split at h
  · obtain rfl := Option.some.inj h
    exact absurd (Lexeme.token.inj ht).symm hn
  split at h
  · cases h
  split at h
  · obtain rfl := Option.some.inj h
    rw [Scan.token, List.mem_cons, not_or]
    exact ⟨Ne.symm hc, newline_not_mem_takeWhile (by decide) cs⟩
  split at h
  · obtain rfl := Option.some.inj h
    rw [body_toScan ht, List.mem_cons, not_or]
    exact ⟨by decide, newline_not_mem_scanText cs⟩
  split at h
  · obtain rfl := Option.some.inj h
    exact newline_not_mem_scanGeneric ht
  · obtain rfl := Option.some.inj h
    exact newline_not_mem_scanPlain hc ht

/-- What is passed over before a lexeme is the front of a text, which holds no line feed. -/
theorem newline_not_mem_lead {c : Char} {cs : List Char} {s : Scan} (h : scan c cs = some s) :
    '\n' ∉ s.lead := by
  unfold scan at h
  split at h
  · obtain rfl := Option.some.inj h
    simp [Scan.token]
  split at h
  · obtain rfl := Option.some.inj h
    simp [Scan.token]
  split at h
  · cases h
  split at h
  · obtain rfl := Option.some.inj h
    simp [Scan.token]
  split at h
  · obtain rfl := Option.some.inj h
    rcases lead_toScan (scanText cs) with hl | hl
    · simp [hl]
    · simp [hl, newline_not_mem_scanText]
  split at h
  · obtain rfl := Option.some.inj h
    unfold scanGeneric
    repeat' split
    all_goals simp [Scan.token, Scan.error]
  · obtain rfl := Option.some.inj h
    unfold scanPlain
    repeat' split
    all_goals simp [Scan.token, Scan.error]

/-- Only a blank other than a line feed is passed over without a scan. -/
theorem blank_of_scan_eq_none {c : Char} {cs : List Char} (h : scan c cs = none) :
    Unicode.isBlank c = true ∧ c ≠ '\n' := by
  unfold scan at h
  split at h
  · cases h
  next hn =>
  split at h
  · cases h
  split at h
  · next hb => exact ⟨hb, hn⟩
  all_goals
    split at h
    · cases h
    split at h
    · cases h
    split at h <;> cases h

/-- What is scanned where a blank stands is a line break. -/
theorem newline_of_blank {c : Char} {cs : List Char} {s : Scan} (h : scan c cs = some s)
    (blank : Unicode.isBlank c = true) : s.lexeme = .token .newline := by
  unfold scan at h
  split at h
  · obtain rfl := Option.some.inj h
    rfl
  split at h
  · obtain rfl := Option.some.inj h
    rfl
  · cases h

/-! ### The derivation of the items -/

/-- Blanks between items. -/
def Gap (cs : List Char) : Prop := ∀ c ∈ cs, Unicode.isBlank c = true ∧ c ≠ '\n'

theorem Gap.newline_not_mem {cs : List Char} (h : Gap cs) : '\n' ∉ cs :=
  fun hm => (h _ hm).2 rfl

/-- `Lexes p text items`: the text that begins at `p` falls into these items. -/
inductive Lexes : Position → List Char → List Item → Prop
  /-- Only blanks are left. -/
  | done {p : Position} {gap : List Char} (blank : Gap gap) : Lexes p gap []
  /-- Past some blanks stands a lexeme. -/
  | item {p : Position} {gap cs after : List Char} {c : Char} {s : Scan} {items : List Item}
      (blank : Gap gap) (scanned : scan c cs = some s) (split : c :: cs = s.consumed ++ after)
      (others : Lexes (p.advanceAll (gap ++ s.consumed)) after items) :
      Lexes p (gap ++ c :: cs) (Rest.itemOf (p.advanceAll gap) s :: items)

theorem Rest.gap_of_nextFrom?_eq_none {p : Position} {text : List Char}
    (h : nextFrom? p text = none) : Gap text := by
  induction text generalizing p with
  | nil => exact List.forall_mem_nil _
  | cons c cs ih =>
    rw [nextFrom?] at h
    split at h
    · next hs => exact List.forall_mem_cons.2 ⟨blank_of_scan_eq_none hs, ih h⟩
    · cases h

theorem Rest.split_of_nextFrom?_eq_some {p : Position} {text : List Char} {item : Item}
    {next : Rest} (h : nextFrom? p text = some (item, next)) :
    ∃ gap c cs s, text = gap ++ c :: cs ∧ Gap gap ∧ scan c cs = some s ∧
      c :: cs = s.consumed ++ next.text ∧ item = itemOf (p.advanceAll gap) s ∧
      next.position = p.advanceAll (gap ++ s.consumed) := by
  induction text generalizing p with
  | nil => cases h
  | cons c cs ih =>
    rw [nextFrom?] at h
    split at h
    · next hs =>
      obtain ⟨gap, d, ds, s, rfl, hgap, hscan, hsplit, rfl, hpos⟩ := ih h
      exact ⟨c :: gap, d, ds, s, rfl, List.forall_mem_cons.2 ⟨blank_of_scan_eq_none hs, hgap⟩,
        hscan, hsplit, rfl, hpos⟩
    · next s hs =>
      obtain ⟨rfl, rfl⟩ := Prod.mk.inj (Option.some.inj h)
      refine ⟨[], c, cs, s, rfl, List.forall_mem_nil _, hs, ?_, rfl, rfl⟩
      obtain ⟨after, ha⟩ := scan_isPrefix hs
      rw [← ha, List.drop_left]

theorem lexes_rest (rest : Rest) : Lexes rest.position rest.text rest.items := by
  fun_induction Rest.items rest with
  | case1 rest h => exact .done (Rest.gap_of_nextFrom?_eq_none h)
  | case2 rest item next h ih =>
    obtain ⟨gap, c, cs, s, htext, hgap, hscan, hsplit, rfl, hpos⟩ :=
      Rest.split_of_nextFrom?_eq_some h
    rw [htext]
    exact .item hgap hscan hsplit (hpos ▸ ih)

/-- **The items of a source are derived from its text.** -/
theorem lexes_items (source : List Char) : Lexes .origin source (items source) :=
  lexes_rest (.ofSource source)

/-! ### Neighbours -/

theorem byteLength_pos {cs : List Char} (h : cs ≠ []) : 0 < byteLength cs := by
  cases cs with
  | nil => exact absurd rfl h
  | cons c cs => exact Nat.lt_of_lt_of_le c.utf8Size_pos (Nat.le_add_right ..)

/-- How two items stand to each other of which the second comes next. -/
structure Item.Precedes (a b : Item) : Prop where
  /-- The first begins before the second. -/
  start_lt : a.span.start < b.span.start
  /-- The first ends before the second begins. -/
  stop_le : a.span.stop ≤ b.span.start
  /-- A token leaves its line at a line break only. -/
  column_lt : ∀ t, a.lexeme = .token t → t ≠ .newline → a.column < b.column

theorem Rest.itemOf_precedes {p : Position} {gap : List Char} {c d : Char} {cs ds : List Char}
    {s t : Scan} (hs : scan c cs = some s) (hgap : Gap gap) (ht : scan d ds = some t) :
    (itemOf p s).Precedes (itemOf ((p.advanceAll s.consumed).advanceAll gap) t) := by
  -- Past the first lexeme come only the blanks of the gap and what the second passes over.
  have key : (itemOf ((p.advanceAll s.consumed).advanceAll gap) t).position =
      (itemOf p s).position.advanceAll (s.body ++ (gap ++ t.lead)) := by
    simp only [itemOf, Scan.consumed, Position.advanceAll_append]
  have start : (itemOf ((p.advanceAll s.consumed).advanceAll gap) t).span.start =
      (itemOf p s).span.start + byteLength s.body + byteLength (gap ++ t.lead) := by
    rw [Item.span, Item.span, key, Position.offset_advanceAll, byteLength_append]
    exact (Nat.add_assoc ..).symm
  refine ⟨?_, ?_, fun tok htok hn => ?_⟩
  · have pos := byteLength_pos (scan_body_ne_nil hs)
    omega
  · rw [start]
    exact Nat.le_add_right ..
  · have line : '\n' ∉ s.body ++ (gap ++ t.lead) := by
      simp only [List.mem_append, not_or]
      exact ⟨newline_not_mem_body hs htok hn, hgap.newline_not_mem, newline_not_mem_lead ht⟩
    have pos := List.length_pos_iff.2 (scan_body_ne_nil hs)
    rw [Item.column, Item.column, key, Position.column_advanceAll _ line, List.length_append]
    omega

/-- **Each item comes after the one before it.** -/
theorem Lexes.isChain {p : Position} {text : List Char} {items : List Item}
    (h : Lexes p text items) : items.IsChain Item.Precedes := by
  induction h with
  | done => exact .nil
  | item blank scanned split others ih =>
    cases others with
    | done => exact .singleton _
    | item blank' scanned' split' others' =>
      rw [Position.advanceAll_append] at ih ⊢
      exact .cons_cons (Rest.itemOf_precedes scanned blank' scanned') ih

/-- Items stand one after the other, not only neighbours. -/
theorem pairwise_of_isChain {all : List Item} (order : all.IsChain Item.Precedes) :
    all.Pairwise fun a b => a.span.start < b.span.start ∧ a.span.stop ≤ b.span.start := by
  let before (a b : Item) : Prop := a.span.start < b.span.start ∧ a.span.stop ≤ b.span.start
  have : Trans before before before :=
    ⟨fun h k => ⟨Nat.lt_trans h.1 k.1, Nat.le_trans h.2 (Nat.le_of_lt k.1)⟩⟩
  have chain : all.IsChain before := order.imp fun _ _ h => ⟨h.start_lt, h.stop_le⟩
  exact chain.pairwise

/-- An item is known by where it begins. -/
theorem eq_of_start_eq {a b : Item} {xs ys all : List Item} (order : all.IsChain Item.Precedes)
    (ha : a :: xs <:+ all) (hb : b :: ys <:+ all) (h : a.span.start = b.span.start) :
    a :: xs = b :: ys := by
  -- Of two different suffixes the longer one begins before the other.
  have longer : ∀ {c d : Item} {zs us : List Item}, c :: zs <:+ all → d :: us <:+ c :: zs →
      c.span.start = d.span.start → d :: us = c :: zs := by
    intro c d zs us hc hd hs
    let before (i j : Item) : Prop := i.span.start < j.span.start
    have increasing : (c :: zs).IsChain before := (order.suffix hc).imp fun _ _ h => h.start_lt
    have : Trans before before before := ⟨Nat.lt_trans⟩
    obtain hd | hd := List.suffix_cons_iff.1 hd
    · exact hd
    · have lt := (List.pairwise_cons.1 increasing.pairwise).1 d (hd.subset (by simp))
      exact absurd hs (Nat.ne_of_lt lt)
  obtain hs | hs := List.suffix_or_suffix_of_suffix ha hb
  · exact longer hb hs h.symm
  · exact (longer ha hs h).symm

/-! ### Where items lie -/

/-- Whether an offset stands between two characters of a source, or at one of its ends. -/
def IsBoundary (source : List Char) (offset : Nat) : Prop :=
  ∃ before after, source = before ++ after ∧ offset = byteLength before

/-- That a span lies in a source and cuts no character. -/
structure Span.LiesIn (source : List Char) (s : Span) : Prop where
  /-- It starts at a boundary. -/
  start : IsBoundary source s.start
  /-- It stops at a boundary. -/
  stop : IsBoundary source s.stop

theorem isBoundary_end (source : List Char) : IsBoundary source (byteLength source) :=
  ⟨source, [], (List.append_nil _).symm, rfl⟩

/-- An item covers some characters, and its position counts what stands before them. -/
theorem Lexes.covers_mem {p : Position} {text : List Char} {items : List Item}
    (h : Lexes p text items) {item : Item} (hi : item ∈ items) :
    ∃ before body after, text = before ++ (body ++ after) ∧ body ≠ [] ∧
      item.position = p.advanceAll before ∧ item.length = byteLength body := by
  induction h with
  | done => cases hi
  | @item p gap cs after c s items blank scanned split others ih =>
    rcases List.mem_cons.1 hi with rfl | hi
    · refine ⟨gap ++ s.lead, s.body, after, ?_, scan_body_ne_nil scanned, ?_, rfl⟩
      · rw [split, Scan.consumed]
        simp only [List.append_assoc]
      · rw [Rest.itemOf, Position.advanceAll_append]
    · obtain ⟨before, body, after', rfl, hne, hp, hl⟩ := ih hi
      refine ⟨gap ++ s.consumed ++ before, body, after', ?_, hne, ?_, hl⟩
      · rw [split]
        simp only [List.append_assoc]
      · rw [hp]
        simp only [Position.advanceAll_append]

/-- The position of an item counts what stands before it. -/
theorem Lexes.position_mem {p : Position} {text : List Char} {items : List Item}
    (h : Lexes p text items) {item : Item} (hi : item ∈ items) :
    ∃ before after, text = before ++ after ∧ item.position = p.advanceAll before := by
  obtain ⟨before, body, after, split, -, hp, -⟩ := h.covers_mem hi
  exact ⟨before, body ++ after, split, hp⟩

theorem span_of_mem_items {source : List Char} {item : Item} (h : item ∈ items source) :
    ∃ before body after, source = before ++ (body ++ after) ∧ body ≠ [] ∧
      item.span = ⟨byteLength before, byteLength body⟩ := by
  obtain ⟨before, body, after, split, hne, hp, hl⟩ := (lexes_items source).covers_mem h
  refine ⟨before, body, after, split, hne, ?_⟩
  rw [Item.span, hp, hl, Position.offset_advanceAll]
  simp [Position.origin]

/-- **Items are not empty.** -/
theorem length_pos_of_mem_items {source : List Char} {item : Item} (h : item ∈ items source) :
    0 < item.span.length := by
  obtain ⟨before, body, after, -, hne, hspan⟩ := span_of_mem_items h
  rw [hspan]
  exact byteLength_pos hne

/-- **Items lie in their source and cut no character.** -/
theorem liesIn_of_mem_items {source : List Char} {item : Item} (h : item ∈ items source) :
    item.span.LiesIn source := by
  obtain ⟨before, body, after, split, -, hspan⟩ := span_of_mem_items h
  rw [hspan]
  refine ⟨⟨before, body ++ after, split, rfl⟩, before ++ body, after, ?_, ?_⟩
  · rw [split, List.append_assoc]
  · rw [Span.stop_mk, byteLength_append]

end Offside
