import Offside.Parse.OnDemand
import Offside.Proofs.Cursor
import Offside.Proofs.Lines

/-!
# Steps of a session

`Session.Returns x s post` says that the step `x` ends in the state `s` without a fault, and that
`post` holds of what it returns and of the state after it.  The lemmas say this of each step that
the parser takes, in a session that stands at a place among the items of its source (`Stands`):
none moves but to where it should, and each item that is returned is the one that was read last.
-/

namespace Offside

namespace Session

/-! ### Returning -/

section Returns

variable {α β : Type}

/-- That a step ends without a fault, and what holds then. -/
def Returns (x : Parsing α) (s : Session) (post : α → Session → Prop) : Prop :=
  ∃ a s', x s = some (.ok (a, s')) ∧ post a s'

variable {x : Parsing α} {f : α → Parsing β} {s : Session} {mid : α → Session → Prop}
  {post : β → Session → Prop}

theorem Returns.pure {b : β} (h : post b s) : Returns (Pure.pure b) s post := ⟨b, s, rfl, h⟩

theorem Returns.bind (hx : Returns x s mid) (hf : ∀ a s', mid a s' → Returns (f a) s' post) :
    Returns (x >>= f) s post := by
  obtain ⟨a, s', hs, hm⟩ := hx
  obtain ⟨b, s'', hs', hp⟩ := hf a s' hm
  refine ⟨b, s'', ?_, hp⟩
  show (x s >>= fun p => f p.1 p.2) = some (.ok (b, s''))
  rw [hs]
  exact hs'

theorem Returns.mono {y : Parsing β} {post' : β → Session → Prop} (h : Returns y s post)
    (hp : ∀ b s', post b s' → post' b s') : Returns y s post' := by
  obtain ⟨b, s', hs, hb⟩ := h
  exact ⟨b, s', hs, hp b s' hb⟩

/-- A step whose outcome is known. -/
theorem Returns.of_eq {y : Parsing β} {b : β} {s' : Session} (h : y s = some (.ok (b, s')))
    (hp : post b s') : Returns y s post := ⟨b, s', h, hp⟩

/-- A step whose outcome is known comes first. -/
theorem Returns.step {a : α} {s' : Session} (hx : x s = some (.ok (a, s')))
    (h : Returns (f a) s' post) : Returns (x >>= f) s post := by
  have known : Returns x s fun b t => b = a ∧ t = s' := ⟨a, s', hx, rfl, rfl⟩
  refine known.bind ?_
  rintro b t ⟨rfl, rfl⟩
  exact h

theorem Returns.of_check {a : α} {e : Except Fault α} (he : e = .ok a)
    (h : Returns (f a) s post) : Returns (check e >>= f) s post :=
  .step (by rw [check, he]; rfl) h

end Returns

end Session

/-! ### The line index -/

namespace LineIndex

theorem checkedLocate_ofSource (source : List Char) (offset : Nat) :
    (ofSource source).checkedLocate offset = .ok ((ofSource source).locate offset) := by
  obtain ⟨number, entry, -⟩ := locate_bounds source offset
  have place : checkedSub ((ofSource source).locate offset).number 1 =
      .ok (((ofSource source).locate offset).number - 1) := if_pos number
  have start : checkedEntry (ofSource source).starts
      (((ofSource source).locate offset).number - 1) =
        .ok ((ofSource source).locate offset).start := by
    rw [checkedEntry, entry]
  show (checkedSub ((ofSource source).locate offset).number 1 >>= fun place =>
    checkedEntry (ofSource source).starts place >>= fun start =>
      pure (Line.mk ((ofSource source).locate offset).number start)) = _
  rw [place]
  show (checkedEntry (ofSource source).starts _ >>= fun start => _) = _
  rw [start]
  rfl

theorem checkedColumn_ofSource (source : List Char) (offset : Nat) :
    (ofSource source).checkedColumn source offset =
      .ok ((ofSource source).column source offset) := by
  obtain ⟨-, -, le⟩ := locate_bounds source offset
  have bytes : checkedSub offset ((ofSource source).locate offset).start =
      .ok (offset - ((ofSource source).locate offset).start) := if_pos le
  rw [checkedColumn, checkedLocate_ofSource]
  show (checkedSub offset ((ofSource source).locate offset).start >>= _) = _
  rw [bytes, column, charsBetween]
  cases slice? source ((ofSource source).locate offset).start offset <;> rfl

end LineIndex

namespace Session

/-! ### The reader -/

section Reader

variable {s : Session}

theorem itemAt_of_lt {index : Nat} (h : index < s.reader.buffered.size) :
    itemAt index s = some (.ok (s.reader.buffered[index], s)) := by
  rw [itemAt, checkedEntry, Array.getElem?_eq_getElem h]
  rfl

theorem fill_of_lt {index : Nat} (h : index < s.reader.buffered.size) :
    fill index s = some (.ok (true, s)) := by
  rw [fill, Reader.fill_of_lt h, decide_eq_true h]
  rfl

theorem fill_of_next?_eq_none {index : Nat} (h : s.reader.rest.next? = none)
    (le : s.reader.buffered.size ≤ index) : fill index s = some (.ok (false, s)) := by
  rw [fill, Reader.fill_of_next?_eq_none h, decide_eq_false (Nat.not_lt_of_le le)]
  rfl

/-- **Columns are found without a fault**, whatever the offset. -/
theorem column_eq (limit : Nat) (source : List Char) (offset : Nat) (s : Session) :
    column (.of limit source) offset s =
      some (.ok ((LineIndex.ofSource source).column source offset, s)) := by
  rw [column, Setup.of, LineIndex.checkedColumn_ofSource]
  rfl

/-- **The next item is read as the reader reads it.** -/
theorem returns_next (s : Session) :
    Returns next s fun r s' => r = s.reader.next.1 ∧ s' = s.withReader s.reader.next.2 := by
  unfold next
  refine .step rfl (.step rfl ?_)
  let filled := s.reader.fill s.reader.index
  split
  · next lt =>
    have lt : filled.index < filled.buffered.size := of_decide_eq_true lt
    have item : filled.buffered[filled.index]? = some filled.buffered[filled.index] :=
      Array.getElem?_eq_getElem lt
    refine .step (itemAt_of_lt lt) (.step rfl (.pure ?_))
    rw [Reader.next]
    simp only [filled] at item
    rw [item]
    exact ⟨rfl, rfl⟩
  · next ge =>
    have ge : filled.buffered.size ≤ filled.index :=
      Nat.le_of_not_lt fun lt => ge (decide_eq_true lt)
    have item : filled.buffered[filled.index]? = none := Array.getElem?_eq_none ge
    refine .step rfl (.pure ?_)
    rw [Reader.next]
    simp only [filled] at item
    rw [item]
    exact ⟨rfl, rfl⟩

/-- A look that is taken by the session is the one that the reader takes, with the column that the
line index has for it. -/
theorem returns_sightFrom (limit : Nat) (source : List Char) {buffered : Array Item}
    {origin index : Nat} {crossed : Bool} {rest : Rest} (hb : s.reader.buffered = buffered)
    (hr : s.reader.rest = rest) :
    Returns (sightFrom (.of limit source) origin index crossed) s fun sight s' =>
      sight.toLook = (Reader.lookFrom buffered origin index crossed rest).1 ∧
      sight.place = sight.item.map (fun item =>
        (LineIndex.ofSource source).column source item.span.start) ∧
      s' = s.withReader { s.reader with
        rest := (Reader.lookFrom buffered origin index crossed rest).2.1
        buffered := (Reader.lookFrom buffered origin index crossed rest).2.2 } := by
  fun_induction Reader.lookFrom buffered origin index crossed rest generalizing s with
  | case1 buffered index crossed rest item found trivia ih =>
    subst hb hr
    obtain ⟨lt, rfl⟩ := Array.getElem?_eq_some_iff.1 found
    rw [sightFrom]
    refine .step (fill_of_lt lt) (.step (itemAt_of_lt lt) ?_)
    rw [if_pos trivia]
    exact ih rfl rfl
  | case2 buffered index crossed rest item found solid =>
    subst hb hr
    obtain ⟨lt, rfl⟩ := Array.getElem?_eq_some_iff.1 found
    rw [sightFrom]
    refine .step (fill_of_lt lt) (.step (itemAt_of_lt lt) ?_)
    rw [if_neg solid]
    exact .step (column_eq ..) (.pure ⟨rfl, rfl, rfl⟩)
  | case3 buffered index crossed rest missing hn =>
    subst hb hr
    have le := Array.getElem?_eq_none_iff.1 missing
    rw [sightFrom]
    refine .step (fill_of_next?_eq_none hn le) (.pure ⟨rfl, rfl, rfl⟩)
  | case4 buffered index crossed rest missing item next hn ih =>
    subst hb hr
    have le := Array.getElem?_eq_none_iff.1 missing
    let grown : Session :=
      s.withReader { s.reader with rest := next, buffered := s.reader.buffered.push item }
    obtain ⟨sight, s', hs, post⟩ := ih (s := grown) rfl rfl
    have fills : fill index s = fill index grown := by
      rw [fill, fill, Reader.fill_of_next?_eq_some hn le]
      rfl
    refine .of_eq ?_ post
    rw [← hs, sightFrom]
    show (fill index s >>= fun p => _) = (fill index grown >>= fun p => _)
    rw [fills]

end Reader

/-! ### Standing among the items -/

/-- That a session stands before the item at `index` of its source, with this many open parens and
this many expressions being read. -/
structure Stands (source : List Char) (index openParens depth : Nat) (s : Session) : Prop where
  /-- The reader has the items of the source. -/
  holds : s.reader.Holds (items source)
  /-- It stands there. -/
  index_eq : s.reader.index = index
  /-- The open parens are counted. -/
  openParens_eq : s.openParens = openParens
  /-- The expressions are counted. -/
  depth_eq : s.depth = depth

/-- What a session sees from the item at `index` on, where it stands. -/
structure Sees (source : List Char) (index openParens depth : Nat) (sight : Sight) (s : Session) :
    Prop where
  /-- The session does not move. -/
  stands : Stands source index openParens depth s
  /-- It knows where it looked from. -/
  origin : sight.origin = index
  /-- It sees the next significant item. -/
  item : sight.item = (significant ((items source).drop index)).head?
  /-- It knows the column of that item. -/
  place : sight.place = (significant ((items source).drop index)).head?.map Item.column
  /-- It knows whether a line break lies between. -/
  crossedNewline : sight.crossedNewline = crossesLine ((items source).drop index)
  /-- It can move to that item. -/
  target : (items source).drop sight.target = significant ((items source).drop index)
  /-- The item stands ahead. -/
  le : index ≤ sight.target
  /-- The item is buffered. -/
  target_le : sight.target ≤ s.reader.buffered.size

theorem mem_items_of_drop {source : List Char} {index : Nat} {item : Item} {tail : List Item}
    (h : (items source).drop index = item :: tail) : item ∈ items source :=
  (List.drop_suffix index _).subset (h ▸ List.mem_cons_self)

theorem mem_items_of_significant {source : List Char} {index : Nat} {item : Item}
    (h : item ∈ (significant ((items source).drop index)).head?) : item ∈ items source :=
  (List.drop_suffix index _).subset ((significant_suffix _).subset (List.mem_of_mem_head? h))

theorem drop_succ {all tail : List Item} {item : Item} {i : Nat} (h : all.drop i = item :: tail) :
    all.drop (i + 1) = tail := by
  rw [← List.drop_drop, h]
  rfl

/-- Where fewer items are left, the session has moved on. -/
theorem lt_of_length_drop_lt (all : List Item) {i j : Nat}
    (h : (all.drop j).length < (all.drop i).length) : i < j := by
  rw [List.length_drop, List.length_drop] at h
  omega

/-- What stands past an item and the trivia after it is further on. -/
theorem lt_of_drop_eq_significant {all tail : List Item} {item : Item} {i j : Nat}
    (hi : all.drop i = item :: tail) (hj : all.drop j = significant tail) : i < j := by
  refine lt_of_length_drop_lt all ?_
  rw [hi, hj]
  exact Nat.lt_succ_of_le (length_significant_le tail)

namespace Stands

variable {source : List Char} {i o d : Nat} {s : Session}

theorem start (source : List Char) : Stands source 0 0 0 (ofSource source) :=
  ⟨Reader.holds_ofSource source, rfl, rfl, rfl⟩

theorem index_le (h : Stands source i o d s) : i ≤ (items source).length := by
  have le := h.holds.index_le
  rw [h.index_eq] at le
  rw [← h.holds.items, List.length_append, Array.length_toList]
  omega

/-- At the end nothing is read. -/
theorem next_nil (h : Stands source i o d s) (ends : (items source).drop i = []) :
    Returns next s fun r s' => r = none ∧ Stands source i o d s' := by
  have here : (items source)[s.reader.index]? = none := by
    rw [h.index_eq]
    exact List.getElem?_eq_none (List.drop_eq_nil_iff.1 ends)
  obtain ⟨read, holds, index⟩ := h.holds.next_of_none here
  refine (returns_next s).mono ?_
  rintro r s' ⟨rfl, rfl⟩
  exact ⟨read, holds, index.trans h.index_eq, h.openParens_eq, h.depth_eq⟩

/-- The next item is read, and can be returned. -/
theorem next_cons {item : Item} {tail : List Item} (h : Stands source i o d s)
    (here : (items source).drop i = item :: tail) :
    Returns next s fun r s' => r = some item ∧ Stands source (i + 1) o d s' ∧
      s'.reader.returnable = some i := by
  have there : (items source)[s.reader.index]? = some item := by
    rw [h.index_eq, ← List.head?_drop, here]
    rfl
  obtain ⟨read, holds, index, returnable⟩ := h.holds.next_of_some there
  refine (returns_next s).mono ?_
  rintro r s' ⟨rfl, rfl⟩
  rw [h.index_eq] at index returnable
  exact ⟨read, ⟨holds, index, h.openParens_eq, h.depth_eq⟩, returnable⟩

/-- The item that was read last is returned. -/
theorem unread (h : Stands source (i + 1) o d s) (last : s.reader.returnable = some i) :
    Returns unread s fun _ s' => Stands source i o d s' := by
  obtain ⟨reader, read, holds, index⟩ := h.holds.unread last
  refine ⟨(), s.withReader reader, ?_, holds, index, h.openParens_eq, h.depth_eq⟩
  rw [Session.unread, move, read]

/-- The session sees the next significant item. -/
theorem sight (limit : Nat) (h : Stands source i o d s) :
    Returns (sight (.of limit source)) s (Sees source i o d) := by
  obtain ⟨finds, holds, index, target⟩ := h.holds.lookAhead
  refine .step rfl ((returns_sightFrom limit source rfl rfl).mono ?_)
  rintro sight s' ⟨look, place, rfl⟩
  rw [h.index_eq] at finds
  have item : sight.item = (significant ((items source).drop i)).head? := by
    rw [look]
    exact finds.item
  refine ⟨⟨holds, index.trans h.index_eq, h.openParens_eq, h.depth_eq⟩, ?_, item, ?_, ?_, ?_, ?_,
    ?_⟩
  · rw [look]
    exact finds.origin
  · rw [place, item]
    refine Option.map_congr fun found hf => ?_
    exact LineIndex.column_item (mem_items_of_significant hf)
  · rw [look]
    exact finds.crossedNewline
  · rw [look]
    exact finds.target
  · rw [look]
    exact finds.le
  · rw [look]
    exact target

/-- One more paren is open. -/
theorem openParen (h : Stands source i o d s) :
    Returns openParen s fun _ s' => Stands source i (o + 1) d s' :=
  ⟨(), _, rfl, h.holds, h.index_eq, congrArg (· + 1) h.openParens_eq, h.depth_eq⟩

/-- The paren that was opened is closed. -/
theorem closeParen (h : Stands source i (o + 1) d s) :
    Returns closeParen s fun _ s' => Stands source i o d s' := by
  have sub : checkedSub s.openParens 1 = .ok o := by
    rw [h.openParens_eq, checkedSub, if_pos (Nat.le_add_left ..), Nat.add_sub_cancel]
  exact .step rfl (.of_check sub ⟨(), _, rfl, h.holds, h.index_eq, rfl, h.depth_eq⟩)

/-- One more expression is read. -/
theorem enter (h : Stands source i o d s) :
    Returns enter s fun _ s' => Stands source i o (d + 1) s' :=
  ⟨(), _, rfl, h.holds, h.index_eq, h.openParens_eq, congrArg (· + 1) h.depth_eq⟩

/-- The expression that was begun is read. -/
theorem leave (h : Stands source i o (d + 1) s) :
    Returns leave s fun _ s' => Stands source i o d s' := by
  have sub : checkedSub s.depth 1 = .ok d := by
    rw [h.depth_eq, checkedSub, if_pos (Nat.le_add_left ..), Nat.add_sub_cancel]
  exact .step rfl (.of_check sub ⟨(), _, rfl, h.holds, h.index_eq, h.openParens_eq, rfl⟩)

end Stands

/-- The session moves to what it sees. -/
theorem Sees.jump {source : List Char} {i o d : Nat} {sight : Sight} {s : Session}
    (h : Sees source i o d sight s) :
    Returns (jump sight.toLook) s fun _ s' => Stands source sight.target o d s' := by
  obtain ⟨reader, moved, holds, index⟩ :=
    h.stands.holds.jump (h.origin.trans h.stands.index_eq.symm) h.target_le
  refine ⟨(), s.withReader reader, ?_, holds, index, h.stands.openParens_eq, h.stands.depth_eq⟩
  rw [Session.jump, move, moved]

end Session

end Offside
