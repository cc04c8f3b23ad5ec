import Mathlib.Data.List.Forall2
import Offside.Proofs.Cursor
import Offside.Proofs.Lines

/-!
# Histories of a reader

A `Cursor` is the plain reading of a source: an index into all of its items, the index that can be
returned to, and the places where looks were taken.  Whatever is asked of a reader, in any order, it
answers as the cursor does (`Reader.answers_eq`), though it reads only as far as it has to.

A look that is kept stays good for as long as it may be jumped to.  The items do not change, so what
it found stands where it was found, and the place where it was taken tells whether the reader is
back there (`Kept`).
-/

namespace Offside

/-! ### Operations -/

/-- What can be asked of a reader. -/
inductive Operation where
  /-- To read the next item. -/
  | next
  /-- To return the item that was read last. -/
  | unread
  /-- To look ahead. -/
  | look
  /-- To jump to what a look found; looks are numbered from 0 in the order they were taken. -/
  | jump (number : Nat)

/-- What comes of an operation. -/
inductive Answer where
  /-- The item read, if there is one. -/
  | read (item : Option Item)
  /-- The item found, its column, and whether a line break lies before it. -/
  | seen (item : Option Item) (column : Option Nat) (crossedNewline : Bool)
  /-- The reader has moved. -/
  | moved
  /-- The reader refuses. -/
  | refused (step : Misuse)
  /-- There is no look of this number. -/
  | noLook

/-- The answers to operations one after the other, and the state in the end. -/
def Operation.run {σ : Type} (step : σ → Operation → Answer × σ) (s : σ) :
    List Operation → List Answer × σ
  | [] => ([], s)
  | op :: ops =>
    let (answer, s) := step s op
    let (answers, s) := run step s ops
    (answer :: answers, s)

/-- A reader with the looks that it took. -/
structure Observer where
  /-- The reader. -/
  reader : Reader
  /-- The looks, in the order they were taken. -/
  looks : List Look

namespace Observer

/-- A reader at the start of a source. -/
def ofSource (source : List Char) : Observer := ⟨.ofSource source, []⟩

/-- The answer of a reader that moves or refuses to. -/
def settle (o : Observer) : Except Misuse Reader → Answer × Observer
  | .ok reader => (.moved, { o with reader })
  | .error step => (.refused step, o)

/-- One operation of the reader. -/
def step (o : Observer) : Operation → Answer × Observer
  | .next =>
    let (item, reader) := o.reader.next
    (.read item, { o with reader })
  | .unread => o.settle o.reader.unread
  | .look =>
    let (look, reader) := o.reader.lookAhead
    (.seen look.item look.column look.crossedNewline, ⟨reader, o.looks ++ [look]⟩)
  | .jump number =>
    match o.looks[number]? with
    | some look => o.settle (o.reader.jump look)
    | none => (.noLook, o)

end Observer

/-! ### The plain cursor -/

/-- A place among the items of a source. -/
structure Cursor where
  /-- The index of the next item. -/
  index : Nat
  /-- The index that can be returned to. -/
  undo : Option Nat
  /-- The indices where looks were taken. -/
  looks : List Nat

namespace Cursor

/-- The first place. -/
def start : Cursor := ⟨0, none, []⟩

/-- The trivia from an index on. -/
def trivia (all : List Item) (index : Nat) : List Item := (all.drop index).takeWhile Item.isTrivia

/-- The index of the first item from `index` on that is no trivia, or the end. -/
def ahead (all : List Item) (index : Nat) : Nat := index + (trivia all index).length

/-- One operation of the cursor. -/
def step (source : List Char) (c : Cursor) : Operation → Answer × Cursor
  | .next =>
    match (items source)[c.index]? with
    | some item => (.read (some item), { c with index := c.index + 1, undo := some c.index })
    | none => (.read none, { c with undo := none })
  | .unread =>
    match c.undo with
    | some index => (.moved, { c with index, undo := none })
    | none => (.refused .nothingToReturn, c)
  | .look =>
    let found := (items source)[ahead (items source) c.index]?
    (.seen found
        (found.map fun item => (LineIndex.ofSource source).column source item.span.start)
        ((trivia (items source) c.index).any Item.isNewline),
      { c with looks := c.looks ++ [c.index] })
  | .jump number =>
    match c.looks[number]? with
    | some origin =>
      if c.index = origin then
        (.moved, { c with index := ahead (items source) c.index, undo := none })
      else (.refused .streamMoved, c)
    | none => (.noLook, c)

variable {all : List Item} {index : Nat}

/-- From there on all but the trivia is left. -/
theorem drop_ahead : all.drop (ahead all index) = significant (all.drop index) := by
  have split : trivia all index ++ significant (all.drop index) = all.drop index :=
    List.takeWhile_append_dropWhile
  rw [ahead, ← List.drop_drop]
  nth_rewrite 1 [← split]
  exact List.drop_left

theorem ahead_le (h : index ≤ all.length) : ahead all index ≤ all.length := by
  have le : (trivia all index).length ≤ (all.drop index).length :=
    (List.takeWhile_prefix _).length_le
  rw [List.length_drop] at le
  rw [ahead]
  omega

/-- A place with nothing but what is left from there on is that one. -/
theorem eq_ahead {place : Nat} (h : index ≤ all.length) (le : place ≤ all.length)
    (drop : all.drop place = significant (all.drop index)) : place = ahead all index := by
  have lengths := congrArg List.length (drop.trans drop_ahead.symm)
  have := ahead_le h
  simp only [List.length_drop] at lengths
  omega

theorem getElem?_ahead : all[ahead all index]? = (significant (all.drop index)).head? := by
  rw [← drop_ahead, List.head?_drop]

end Cursor

/-! ### Buffers only grow -/

namespace Reader

variable {all : List Item} {reader : Reader}

theorem Holds.size_le (h : reader.Holds all) : reader.buffered.size ≤ all.length := by
  rw [← h.items, List.length_append]
  exact Nat.le_add_right ..

theorem size_le_next (reader : Reader) :
    reader.buffered.size ≤ reader.next.2.buffered.size := by
  have fill := (fillFrom_spec reader.rest reader.buffered reader.index).2.1
  unfold next
  dsimp only
  split <;> exact fill

theorem returnable_next_of_none (h : reader.Holds all) (ends : all[reader.index]? = none) :
    reader.next.2.returnable = none := by
  have filled : (reader.fill reader.index).buffered[(reader.fill reader.index).index]? = none :=
    (h.fill reader.index).2.trans ends
  simp only [next, filled]

theorem size_le_lookAhead (reader : Reader) (h : reader.index ≤ reader.buffered.size) :
    reader.buffered.size ≤ reader.lookAhead.2.buffered.size :=
  (lookFrom_spec reader.buffered reader.index reader.index false reader.rest h).2.1

end Reader

/-! ### The reader and the cursor -/

/-- What a look that was taken at the index `place` is good for, with `size` items buffered. -/
structure Kept (all : List Item) (size : Nat) (look : Look) (place : Nat) : Prop where
  /-- It knows where it was taken. -/
  origin : look.origin = place
  /-- It stands at the next significant item, or at the end. -/
  target : look.target = Cursor.ahead all place
  /-- That is among the items that are buffered, or right after them. -/
  le : look.target ≤ size

theorem Kept.mono {all : List Item} {m n : Nat} {look : Look} {place : Nat}
    (h : Kept all m look place) (le : m ≤ n) : Kept all n look place :=
  ⟨h.origin, h.target, Nat.le_trans h.le le⟩

/-- That a reader and a cursor stand at the same place of a source, and took the same looks. -/
structure Tracks (source : List Char) (o : Observer) (c : Cursor) : Prop where
  /-- The reader reads the items of the source. -/
  holds : o.reader.Holds (items source)
  /-- They stand at the same index. -/
  index : o.reader.index = c.index
  /-- They can return to the same index. -/
  undo : o.reader.returnable = c.undo
  /-- They took looks at the same places. -/
  looks : List.Forall₂ (Kept (items source) o.reader.buffered.size) o.looks c.looks

namespace Tracks

variable {source : List Char} {o : Observer} {c : Cursor}

theorem start (source : List Char) : Tracks source (.ofSource source) .start :=
  ⟨Reader.holds_ofSource source, rfl, rfl, .nil⟩

/-- The looks stay good as the buffer grows. -/
theorem keep (h : Tracks source o c) {n : Nat} (le : o.reader.buffered.size ≤ n) :
    List.Forall₂ (Kept (items source) n) o.looks c.looks :=
  h.looks.imp fun _ _ kept => kept.mono le

/-- Both have a look of a number, or neither. -/
theorem look_cases (h : Tracks source o c) (number : Nat) :
    (o.looks[number]? = none ∧ c.looks[number]? = none) ∨
      ∃ look place, o.looks[number]? = some look ∧ c.looks[number]? = some place ∧
        Kept (items source) o.reader.buffered.size look place := by
  by_cases lt : number < o.looks.length
  · have lt' : number < c.looks.length := h.looks.length_eq ▸ lt
    exact .inr ⟨_, _, List.getElem?_eq_getElem lt, List.getElem?_eq_getElem lt',
      h.looks.get lt lt'⟩
  · have ge : c.looks.length ≤ number := h.looks.length_eq ▸ Nat.le_of_not_lt lt
    exact .inl ⟨List.getElem?_eq_none (Nat.le_of_not_lt lt), List.getElem?_eq_none ge⟩

/-- That both do the same in one operation, and are at the same place after it. -/
def Agree (source : List Char) (r : Answer × Observer) (r' : Answer × Cursor) : Prop :=
  r.1 = r'.1 ∧ Tracks source r.2 r'.2

theorem next (h : Tracks source o c) : Agree source (o.step .next) (c.step source .next) := by
  have size := o.reader.size_le_next
  rw [Observer.step, Cursor.step, ← h.index]
  cases here : (items source)[o.reader.index]? with
  | none =>
    obtain ⟨answer, holds, index⟩ := h.holds.next_of_none here
    exact ⟨congrArg Answer.read answer, holds, index,
      Reader.returnable_next_of_none h.holds here, h.keep size⟩
  | some item =>
    obtain ⟨answer, holds, index, undo⟩ := h.holds.next_of_some here
    exact ⟨congrArg Answer.read answer, holds, index, undo, h.keep size⟩

theorem unread (h : Tracks source o c) :
    Agree source (o.step .unread) (c.step source .unread) := by
  rw [Observer.step, Cursor.step, Reader.unread, h.undo]
  cases last : c.undo with
  | none => exact ⟨rfl, h⟩
  | some index =>
    have before := h.holds.returnable index (h.undo.trans last)
    have le := h.holds.index_le
    have holds : Reader.Holds (items source) { o.reader with index, returnable := none } :=
      ⟨h.holds.items, show index ≤ o.reader.buffered.size by omega, fun _ h => by cases h⟩
    exact ⟨rfl, holds, rfl, rfl, h.looks⟩

theorem look (h : Tracks source o c) : Agree source (o.step .look) (c.step source .look) := by
  obtain ⟨finds, holds, index, le⟩ := h.holds.lookAhead
  have place : o.reader.index ≤ (items source).length :=
    Nat.le_trans h.holds.index_le h.holds.size_le
  have target : o.reader.lookAhead.1.target = Cursor.ahead (items source) o.reader.index :=
    Cursor.eq_ahead place (Nat.le_trans le holds.size_le) finds.target
  have item : o.reader.lookAhead.1.item =
      (items source)[Cursor.ahead (items source) o.reader.index]? := by
    rw [Cursor.getElem?_ahead, finds.item]
  -- The column that an item carries is the one that the line index finds.
  have column : o.reader.lookAhead.1.column = o.reader.lookAhead.1.item.map fun item =>
      (LineIndex.ofSource source).column source item.span.start := by
    rw [Look.column, item]
    refine Option.map_congr fun found mem => ?_
    exact (LineIndex.column_item (List.mem_of_getElem? mem)).symm
  have crossed : o.reader.lookAhead.1.crossedNewline =
      (Cursor.trivia (items source) o.reader.index).any Item.isNewline :=
    finds.crossedNewline
  have size := o.reader.size_le_lookAhead h.holds.index_le
  rw [Observer.step, Cursor.step, ← h.index, ← item, ← crossed]
  refine ⟨by simp only [column], holds, index, h.undo, ?_⟩
  exact List.rel_append (h.keep size) (.cons ⟨finds.origin, target, le⟩ .nil)

theorem jump (h : Tracks source o c) (number : Nat) :
    Agree source (o.step (.jump number)) (c.step source (.jump number)) := by
  rw [Observer.step, Cursor.step]
  rcases h.look_cases number with ⟨ho, hc⟩ | ⟨look, place, ho, hc, kept⟩
  · rw [ho, hc]
    exact ⟨rfl, h⟩
  rw [ho, hc]
  dsimp only
  rw [Reader.jump, h.index, kept.origin]
  split
  · next back =>
    have holds : Reader.Holds (items source)
        { o.reader with index := look.target, returnable := none } :=
      ⟨h.holds.items, kept.le, fun _ h => by cases h⟩
    exact ⟨rfl, holds, kept.target.trans (by rw [back]), rfl, h.looks⟩
  · exact ⟨rfl, h⟩

/-- **One operation is answered alike.** -/
theorem step (h : Tracks source o c) (op : Operation) :
    Agree source (o.step op) (c.step source op) := by
  cases op with
  | next => exact h.next
  | unread => exact h.unread
  | look => exact h.look
  | jump number => exact h.jump number

/-- Operations one after the other are answered alike. -/
theorem run (h : Tracks source o c) (ops : List Operation) :
    (Operation.run Observer.step o ops).1 = (Operation.run (Cursor.step source) c ops).1 ∧
      Tracks source (Operation.run Observer.step o ops).2
        (Operation.run (Cursor.step source) c ops).2 := by
  induction ops generalizing o c with
  | nil => exact ⟨rfl, h⟩
  | cons op ops ih =>
    obtain ⟨answer, next⟩ := h.step op
    obtain ⟨answers, last⟩ := ih next
    exact ⟨List.cons_eq_cons.2 ⟨answer, answers⟩, last⟩

end Tracks

theorem Observer.settle_of_refused {o : Observer} {moved : Except Misuse Reader} {misuse : Misuse}
    (h : (o.settle moved).1 = .refused misuse) : (o.settle moved).2 = o := by
  cases moved with
  | ok reader => cases h
  | error step => rfl

/-- A reader that refuses an operation stays as it is. -/
theorem Observer.step_of_refused {o : Observer} {op : Operation} {misuse : Misuse}
    (h : (o.step op).1 = .refused misuse) : (o.step op).2 = o := by
  cases op with
  | next => cases h
  | unread => exact settle_of_refused h
  | look => cases h
  | jump number =>
    cases look : o.looks[number]? with
    | some look' =>
      simp only [step, look] at h ⊢
      exact settle_of_refused h
    | none => simp only [step, look]

/-- **A reader answers as the plain cursor does**, whatever is asked of it. -/
theorem Reader.answers_eq (source : List Char) (ops : List Operation) :
    ∃ answers o c, Operation.run Observer.step (.ofSource source) ops = (answers, o) ∧
      Operation.run (Cursor.step source) .start ops = (answers, c) ∧
      o.reader.index = c.index ∧ o.reader.returnable = c.undo ∧
      o.reader.index ≤ o.reader.buffered.size ∧
      (∀ index, o.reader.returnable = some index → index + 1 = o.reader.index) ∧
      ∀ op misuse, (o.step op).1 = .refused misuse → (o.step op).2 = o := by
  obtain ⟨answers, last⟩ := (Tracks.start source).run ops
  exact ⟨_, _, _, rfl, Prod.ext answers.symm rfl, last.index, last.undo, last.holds.index_le,
    last.holds.returnable, fun _ _ => Observer.step_of_refused⟩

end Offside
