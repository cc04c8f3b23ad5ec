import Offside.Proofs.Lexing
import Offside.Proofs.Nodes
import Offside.Proofs.Runs

/-!
# Where the parts of an expression stand

Parens leave no span behind, statements of an inner block move to the one around it, and a line may
go on with what stands before it.  Through all of this the nodes of an expression keep their places:
each covers a part of the source that is not empty, and its own parts stand inside it, in order and
apart (`wellPlaced_of_parse`).

* `Expr.Nested` says how the parts of one node stand to each other and to the node.
* `Laid` says what is used of the items: they lie in the source, one after the other.
* `Expr.Within` bounds an expression by the items that it is read from, so that what is read from
  earlier items ends before what is read from later ones begins (`Expr.Within.stop_le`).
* `Expr.ReadFrom` adds that the expression is well placed and ends with one of the items; it is
  closed under what the parser builds.
-/

namespace Offside

/-! ### Nodes -/

/-- How the parts of a node stand to each other and to the node. -/
def Expr.Nested : Expr → Prop
  | .binary span operator operatorSpan left right =>
    span.start = left.span.start ∧ span.stop = right.span.stop ∧
      left.span.stop ≤ operatorSpan.start ∧ operatorSpan.stop ≤ right.span.start ∧
      operator.binding = .ofSymbol operator.symbol
  | .apply span curried anchor function argument =>
    span.start = function.span.start ∧ span.stop = argument.span.stop ∧
      function.span.stop ≤ argument.span.start ∧ anchor = .emptyAt function.span.stop ∧
      curried = false
  | .declaration span _ _ nameSpan value =>
    span.start < nameSpan.start ∧ nameSpan.stop < value.span.start ∧
      span.stop = value.span.stop
  | .block span statements =>
    2 ≤ statements.length ∧ statements.Pairwise (fun a b => a.span.stop ≤ b.span.start) ∧
      (∀ first ∈ statements.head?, span.start = first.span.start) ∧
      ∀ last ∈ statements.getLast?, span.stop = last.span.stop ∧ last.isBlock = false
  | _ => True

/-- That a node covers a part of the source, and its own parts are nested in it. -/
structure Expr.WellPlaced (source : List Char) (e : Expr) : Prop where
  /-- It covers something. -/
  length_pos : 0 < e.span.length
  /-- It lies in the source and cuts no character. -/
  liesIn : e.span.LiesIn source
  /-- Its parts stand as they should. -/
  nested : e.Nested

theorem Span.start_lt_stop {s : Span} (h : 0 < s.length) : s.start < s.stop := by
  rw [Span.stop]
  omega

theorem Span.length_pos_of_lt {s : Span} (h : s.start < s.stop) : 0 < s.length := by
  rw [Span.stop] at h
  omega

theorem Span.stop_through_of_le {s t : Span} (h : s.start ≤ t.stop) :
    (s.through t).stop = t.stop := by
  rw [Span.stop_through]
  omega

theorem Span.LiesIn.through {source : List Char} {s t : Span} (hs : s.LiesIn source)
    (ht : t.LiesIn source) (h : s.start ≤ t.stop) : (s.through t).LiesIn source := by
  refine ⟨hs.start, ?_⟩
  rw [Span.stop_through_of_le h]
  exact ht.stop

/-! ### Items -/

/-- That items lie in the source, one after the other. -/
structure Laid (source : List Char) (items : List Item) : Prop where
  /-- They come in order. -/
  order : items.Pairwise fun a b => a.span.start < b.span.start ∧ a.span.stop ≤ b.span.start
  /-- They lie in the source and cut no character. -/
  liesIn : ∀ item ∈ items, item.span.LiesIn source
  /-- None is empty. -/
  length_pos : ∀ item ∈ items, 0 < item.span.length

theorem laid_items (source : List Char) : Laid source (items source) :=
  ⟨pairwise_of_isChain (lexes_items source).isChain, fun _ => liesIn_of_mem_items,
    fun _ => length_pos_of_mem_items⟩

theorem Laid.sublist {source : List Char} {xs ys : List Item} (h : Laid source ys)
    (hs : xs.Sublist ys) : Laid source xs :=
  ⟨h.order.sublist hs, fun i hi => h.liesIn i (hs.subset hi),
    fun i hi => h.length_pos i (hs.subset hi)⟩

theorem Laid.suffix {source : List Char} {xs ys : List Item} (h : Laid source ys)
    (hs : xs <:+ ys) : Laid source xs :=
  h.sublist hs.sublist

namespace Expr

/-- That an expression begins and ends among some items. -/
structure Within (used : List Item) (e : Expr) : Prop where
  /-- It begins with one of them or later. -/
  start : ∃ item ∈ used, item.span.start ≤ e.span.start
  /-- It ends with one of them or earlier. -/
  stop : ∃ item ∈ used, e.span.stop ≤ item.span.stop

namespace Within

variable {source : List Char} {xs ys : List Item} {e f : Expr} {item : Item}

theorem mono (h : e.Within xs) (hs : xs ⊆ ys) : e.Within ys := by
  obtain ⟨⟨i, hi, start⟩, j, hj, stop⟩ := h
  exact ⟨⟨i, hs hi, start⟩, j, hs hj, stop⟩

/-- An expression ends before the items that come later. -/
theorem stop_le_item (h : e.Within xs) (laid : Laid source (xs ++ ys)) (hi : item ∈ ys) :
    e.span.stop ≤ item.span.start := by
  obtain ⟨-, j, hj, stop⟩ := h
  have := ((List.pairwise_append.1 laid.order).2.2 j hj item hi).2
  omega

/-- An expression begins after the items that come earlier. -/
theorem item_stop_le (h : e.Within ys) (laid : Laid source (xs ++ ys)) (hi : item ∈ xs) :
    item.span.stop ≤ e.span.start := by
  obtain ⟨⟨j, hj, start⟩, -⟩ := h
  have := ((List.pairwise_append.1 laid.order).2.2 item hi j hj).2
  omega

/-- What is read from earlier items ends before what is read from later ones. -/
theorem stop_le (h : e.Within xs) (h' : f.Within ys) (laid : Laid source (xs ++ ys)) :
    e.span.stop ≤ f.span.start := by
  obtain ⟨⟨j, hj, start⟩, -⟩ := h'
  exact Nat.le_trans (h.stop_le_item laid hj) start

end Within

/-! ### What the parser builds -/

/-- That all nodes of an expression are well placed. -/
def Placed (source : List Char) (e : Expr) : Prop := ∀ node ∈ e.nodes, node.WellPlaced source

namespace Placed

variable {source : List Char} {left right e : Expr}

theorem self (h : e.Placed source) : e.WellPlaced source := h e e.mem_nodes_self

theorem start_lt_stop (h : e.Placed source) : e.span.start < e.span.stop :=
  Span.start_lt_stop h.self.length_pos

/-- An expression over several items: it is well placed if its parts are. -/
theorem wellPlaced {s t : Span} (hs : s.LiesIn source) (ht : t.LiesIn source)
    (h : s.start < t.stop) (span : e.span = s.through t) (nested : e.Nested) :
    e.WellPlaced source := by
  refine ⟨Span.length_pos_of_lt ?_, ?_, nested⟩
  · rw [span, Span.stop_through_of_le (Nat.le_of_lt h)]
    exact h
  · rw [span]
    exact hs.through ht (Nat.le_of_lt h)

/-- Two expressions of which the second comes later reach from one to the other. -/
theorem reach (hl : left.Placed source) (hr : right.Placed source)
    (h : left.span.stop ≤ right.span.start) : left.span.start < right.span.stop := by
  have := hl.start_lt_stop
  have := hr.start_lt_stop
  omega

theorem infixed (hl : left.Placed source) (hr : right.Placed source) {symbol : String}
    {span : Span} (before : left.span.stop ≤ span.start) (after : span.stop ≤ right.span.start) :
    (left.infixed (.ofSymbol symbol) span right).Placed source := by
  have reach := hl.reach hr (Nat.le_trans before (Nat.le_trans span.start_le_stop after))
  rw [Placed, nodes_infixed, List.forall_mem_cons, List.forall_mem_append]
  refine ⟨wellPlaced hl.self.liesIn hr.self.liesIn reach rfl ?_, hl, hr⟩
  exact ⟨rfl, Span.stop_through_of_le (Nat.le_of_lt reach), before, after, rfl⟩

theorem applied (hl : left.Placed source) (hr : right.Placed source)
    (h : left.span.stop ≤ right.span.start) : (left.applied right).Placed source := by
  have reach := hl.reach hr h
  rw [Placed, nodes_applied, List.forall_mem_cons, List.forall_mem_append]
  refine ⟨wellPlaced hl.self.liesIn hr.self.liesIn reach rfl ?_, hl, hr⟩
  exact ⟨rfl, Span.stop_through_of_le (Nat.le_of_lt reach), h, rfl, rfl⟩

theorem of_leaf {item : Item} (h : item.first = .leaf e) (length_pos : 0 < item.span.length)
    (liesIn : item.span.LiesIn source) : e.Placed source := by
  rw [← Item.span_of_leaf h] at length_pos liesIn
  obtain ⟨t, -, leaf⟩ := Item.fits_of_first h
  cases t <;> cases leaf <;> exact List.forall_mem_singleton.2 ⟨length_pos, liesIn, trivial⟩

end Placed

/-- That statements are well placed, in order and apart, and the last one is no block. -/
structure InSequence (source : List Char) (es : List Expr) : Prop where
  /-- All their nodes are well placed. -/
  placed : ∀ e ∈ es, e.Placed source
  /-- They come in order. -/
  order : es.Pairwise fun a b => a.span.stop ≤ b.span.start
  /-- The last one is no block. -/
  last : ∀ e ∈ es.getLast?, e.isBlock = false

namespace InSequence

variable {source : List Char} {e : Expr} {es fs : List Expr}

theorem nil : InSequence source [] := ⟨by simp, .nil, by simp⟩

/-- A statement of its own or the statements of a block. -/
theorem statements (h : e.Placed source) : InSequence source e.statements := by
  have placed : ∀ s ∈ e.statements, s.Placed source :=
    forall_mem_nodesAll.1 fun node hn => h node (mem_nodes_of_mem_statements hn)
  by_cases block : e.isBlock = true
  · cases e with
    | block span statements =>
      obtain ⟨-, order, -, last⟩ := h.self.nested
      exact ⟨placed, order, fun s hs => (last s hs).2⟩
    | _ => cases block
  · have single := statements_of_not_isBlock (Bool.eq_false_iff.2 block)
    refine ⟨placed, ?_, ?_⟩
    · rw [single]
      exact List.pairwise_singleton _ _
    · simpa [single] using block

theorem append (h : InSequence source es) (h' : InSequence source fs)
    (apart : ∀ e ∈ es, ∀ f ∈ fs, e.span.stop ≤ f.span.start) : InSequence source (es ++ fs) := by
  refine ⟨List.forall_mem_append.2 ⟨h.placed, h'.placed⟩,
    List.pairwise_append.2 ⟨h.order, h'.order, apart⟩, fun e he => ?_⟩
  cases fs using List.reverseRec with
  | nil => exact h.last e (by simpa using he)
  | append_singleton fs f => exact h'.last e (by simpa [← List.append_assoc] using he)

/-- No statement ends after the last one. -/
theorem stop_le_last (h : InSequence source es) {last : Expr} (hl : last ∈ es.getLast?)
    (he : e ∈ es) : e.span.stop ≤ last.span.stop := by
  cases es using List.reverseRec with
  | nil => cases he
  | append_singleton es f =>
    obtain rfl : f = last := by simpa using hl
    rcases List.mem_append.1 he with he | he
    · have apart := (List.pairwise_append.1 h.order).2.2 e he f (by simp)
      exact Nat.le_trans apart f.span.start_le_stop
    · obtain rfl := List.mem_singleton.1 he
      exact Nat.le_refl _

/-- No statement begins before the first one. -/
theorem first_le_start (h : InSequence source es) {first : Expr} (hf : first ∈ es.head?)
    (he : e ∈ es) : first.span.start ≤ e.span.start := by
  cases es with
  | nil => cases he
  | cons f es =>
    obtain rfl : f = first := by simpa using hf
    rcases List.mem_cons.1 he with rfl | he
    · exact Nat.le_refl _
    · have apart := (List.pairwise_cons.1 h.order).1 e he
      exact Nat.le_trans f.span.start_le_stop apart

/-- Statements in sequence make a well placed expression. -/
theorem sequence (h : InSequence source es) (he : e.Placed source)
    (apart : ∀ f ∈ es, e.span.stop ≤ f.span.start) : (e.sequence es).Placed source := by
  cases hl : es.getLast? with
  | none =>
    obtain rfl := List.getLast?_eq_none_iff.1 hl
    exact he
  | some last =>
    have mem : last ∈ es := List.mem_of_getLast? hl
    have placed := h.placed last mem
    have reach := he.reach placed (apart last mem)
    rw [sequence_of_getLast? hl, Placed, nodes_block, nodesAll_cons, List.forall_mem_cons,
      List.forall_mem_append, forall_mem_nodesAll]
    refine ⟨Placed.wellPlaced he.self.liesIn placed.self.liesIn reach rfl ?_, he, h.placed⟩
    refine ⟨?_, List.pairwise_cons.2 ⟨apart, h.order⟩, by simp, fun s hs => ?_⟩
    · have := List.length_pos_of_mem mem
      rw [List.length_cons]
      omega
    · rw [List.getLast?_cons, hl, Option.getD_some] at hs
      obtain rfl := Option.some.inj hs
      exact ⟨Span.stop_through_of_le (Nat.le_of_lt reach), h.last last hl⟩

end InSequence

/-- The statements of a block stand within it. -/
theorem Placed.bounds_of_mem_statements {source : List Char} {e s : Expr} (h : e.Placed source)
    (hs : s ∈ e.statements) : e.span.start ≤ s.span.start ∧ s.span.stop ≤ e.span.stop := by
  by_cases block : e.isBlock = true
  · cases e with
    | block span statements =>
      obtain ⟨-, -, first, last⟩ := h.self.nested
      have sequence := InSequence.statements h
      have hne : statements ≠ [] := List.ne_nil_of_mem hs
      have hhead := List.head?_eq_some_head hne
      have hlast := List.getLast?_eq_some_getLast hne
      rw [Expr.span, first _ hhead, (last _ hlast).1]
      exact ⟨sequence.first_le_start hhead hs, sequence.stop_le_last hlast hs⟩
    | _ => cases block
  · rw [statements_of_not_isBlock (Bool.eq_false_iff.2 block), List.mem_singleton] at hs
    rw [hs]
    exact ⟨Nat.le_refl _, Nat.le_refl _⟩

theorem Within.of_mem_statements {source : List Char} {used : List Item} {e s : Expr}
    (h : e.Within used) (placed : e.Placed source) (hs : s ∈ e.statements) : s.Within used := by
  obtain ⟨⟨i, hi, start⟩, j, hj, stop⟩ := h
  obtain ⟨start', stop'⟩ := placed.bounds_of_mem_statements hs
  exact ⟨⟨i, hi, Nat.le_trans start start'⟩, j, hj, Nat.le_trans stop' stop⟩

/-! ### What items are read as -/

/-- That an expression is read from some items. -/
structure ReadFrom (source : List Char) (used : List Item) (e : Expr) : Prop where
  /-- All its nodes are well placed. -/
  placed : e.Placed source
  /-- It begins with one of the items or later. -/
  start : ∃ item ∈ used, item.span.start ≤ e.span.start
  /-- It ends with one of the items. -/
  stop : ∃ item ∈ used, e.span.stop = item.span.stop

/-- That statements are read from some items. -/
structure ReadAllFrom (source : List Char) (used : List Item) (es : List Expr) : Prop where
  /-- They are well placed and come in order. -/
  sequence : InSequence source es
  /-- They stand among the items. -/
  within : ∀ e ∈ es, e.Within used
  /-- The last one ends with one of the items. -/
  stop : ∀ last ∈ es.getLast?, ∃ item ∈ used, last.span.stop = item.span.stop

namespace ReadFrom

variable {source : List Char} {xs ys : List Item} {left right e : Expr} {item : Item}

theorem within (h : e.ReadFrom source xs) : e.Within xs := by
  obtain ⟨item, hi, stop⟩ := h.stop
  exact ⟨h.start, item, hi, Nat.le_of_eq stop⟩

theorem mono (h : e.ReadFrom source xs) (hs : xs ⊆ ys) : e.ReadFrom source ys := by
  obtain ⟨placed, ⟨i, hi, start⟩, j, hj, stop⟩ := h
  exact ⟨placed, ⟨i, hs hi, start⟩, j, hs hj, stop⟩

/-- What joins two expressions is read from the items of both. -/
theorem join (hl : left.ReadFrom source xs) (hr : right.ReadFrom source ys)
    (span : e.span = left.span.through right.span)
    (apart : left.span.stop ≤ right.span.start) (placed : e.Placed source) :
    e.ReadFrom source (xs ++ ys) := by
  have reach := hl.placed.reach hr.placed apart
  obtain ⟨i, hi, start⟩ := hl.start
  obtain ⟨j, hj, stop⟩ := hr.stop
  refine ⟨placed, ⟨i, List.mem_append_left _ hi, ?_⟩, j, List.mem_append_right _ hj, ?_⟩
  · rw [span]
    exact start
  · rw [span, Span.stop_through_of_le (Nat.le_of_lt reach)]
    exact stop

theorem leaf (h : item.first = .leaf e) (laid : Laid source (item :: ys)) :
    e.ReadFrom source [item] := by
  have mem : item ∈ item :: ys := List.mem_cons_self
  have span := Item.span_of_leaf h
  exact ⟨.of_leaf h (laid.length_pos item mem) (laid.liesIn item mem),
    ⟨item, by simp [span]⟩, item, by simp [span]⟩

theorem unit {opener close : Item} (laid : Laid source (opener :: close :: ys)) :
    (Expr.unit (opener.span.through close.span)).ReadFrom source [opener, close] := by
  have ends : opener.span.start < close.span.stop := by
    have first := (List.pairwise_cons.1 laid.order).1 close (by simp)
    exact Nat.lt_of_lt_of_le first.1 close.span.start_le_stop
  refine ⟨List.forall_mem_singleton.2 (Placed.wellPlaced ?_ ?_ ends rfl trivial),
    ⟨opener, by simp [span]⟩, close, by simp, Span.stop_through_of_le (Nat.le_of_lt ends)⟩
  · exact laid.liesIn opener List.mem_cons_self
  · exact laid.liesIn close (List.mem_cons_of_mem _ List.mem_cons_self)

theorem infixed {symbol : String} (hl : left.ReadFrom source xs) (hr : right.ReadFrom source ys)
    (laid : Laid source (xs ++ item :: ys)) :
    (left.infixed (.ofSymbol symbol) item.span right).ReadFrom source (xs ++ item :: ys) := by
  have before : left.span.stop ≤ item.span.start :=
    hl.within.stop_le_item laid List.mem_cons_self
  have laid_right : Laid source ([item] ++ ys) := laid.suffix (List.suffix_append ..)
  have after : item.span.stop ≤ right.span.start := hr.within.item_stop_le laid_right (by simp)
  have apart := Nat.le_trans before (Nat.le_trans item.span.start_le_stop after)
  exact hl.join (hr.mono (List.subset_cons_self ..)) rfl apart
    (hl.placed.infixed hr.placed before after)

theorem applied (hl : left.ReadFrom source xs) (hr : right.ReadFrom source ys)
    (laid : Laid source (xs ++ ys)) : (left.applied right).ReadFrom source (xs ++ ys) := by
  have apart := hl.within.stop_le hr.within laid
  exact hl.join hr rfl apart (hl.placed.applied hr.placed apart)

theorem declaration {keyword bound sign : Item} {word : Keyword} {name : String}
    (h : e.ReadFrom source ys) (laid : Laid source (keyword :: bound :: sign :: ys)) :
    (Expr.declaration (keyword.span.through e.span) word name bound.span e).ReadFrom source
      (keyword :: bound :: sign :: ys) := by
  have first := ((List.pairwise_cons.1 laid.order).1 bound (by simp)).1
  have named := ((List.pairwise_cons.1 (List.pairwise_cons.1 laid.order).2).1 sign (by simp)).2
  have signed := Span.start_lt_stop (laid.length_pos sign (by simp))
  have before : Laid source ([keyword, bound, sign] ++ ys) := laid
  have assigned : sign.span.stop ≤ e.span.start := h.within.item_stop_le before (by simp)
  have := bound.span.start_le_stop
  have := h.placed.start_lt_stop
  have reach : keyword.span.start < e.span.stop := by omega
  have stop := Span.stop_through_of_le (Nat.le_of_lt reach)
  have placed : (Expr.declaration (keyword.span.through e.span) word name bound.span e).Placed
      source := by
    rw [Placed, nodes_declaration, List.forall_mem_cons]
    refine ⟨Placed.wellPlaced (laid.liesIn keyword (by simp)) h.placed.self.liesIn reach rfl ?_,
      h.placed⟩
    exact ⟨first, by omega, stop⟩
  obtain ⟨last, hlast, ends⟩ := h.stop
  exact ⟨placed, ⟨keyword, List.mem_cons_self, Nat.le_refl _⟩, last, by simp [hlast],
    stop.trans ends⟩

/-- A statement of its own or the statements of a block. -/
theorem statements (h : e.ReadFrom source xs) : ReadAllFrom source xs e.statements := by
  refine ⟨.statements h.placed, fun s hs => h.within.of_mem_statements h.placed hs,
    fun last hl => ?_⟩
  by_cases block : e.isBlock = true
  · cases e with
    | block span statements =>
      obtain ⟨-, -, -, ends⟩ := h.placed.self.nested
      rw [← (ends last hl).1]
      exact h.stop
    | _ => cases block
  · rw [statements_of_not_isBlock (Bool.eq_false_iff.2 block)] at hl
    obtain rfl : e = last := by simpa using hl
    exact h.stop

end ReadFrom

namespace ReadAllFrom

variable {source : List Char} {xs ys : List Item} {e : Expr} {es fs : List Expr}

theorem nil : ReadAllFrom source xs [] := ⟨.nil, by simp, by simp⟩

theorem mono (h : ReadAllFrom source xs es) (hs : xs ⊆ ys) : ReadAllFrom source ys es := by
  refine ⟨h.sequence, fun e he => (h.within e he).mono hs, fun last hl => ?_⟩
  obtain ⟨item, hi, stop⟩ := h.stop last hl
  exact ⟨item, hs hi, stop⟩

theorem append (h : ReadAllFrom source xs es) (h' : ReadAllFrom source ys fs)
    (laid : Laid source (xs ++ ys)) : ReadAllFrom source (xs ++ ys) (es ++ fs) := by
  have left := h.mono (List.subset_append_left xs ys)
  have right := h'.mono (List.subset_append_right xs ys)
  refine ⟨h.sequence.append h'.sequence fun e he f hf =>
    (h.within e he).stop_le (h'.within f hf) laid,
    List.forall_mem_append.2 ⟨left.within, right.within⟩, fun last hl => ?_⟩
  cases fs using List.reverseRec with
  | nil => exact left.stop last (by simpa using hl)
  | append_singleton fs f => exact right.stop last (by simpa [← List.append_assoc] using hl)

/-- A statement and others that come later. -/
theorem sequence_cons (h : ReadAllFrom source ys es) (he : e.ReadFrom source xs)
    (laid : Laid source (xs ++ ys)) : (e.sequence es).ReadFrom source (xs ++ ys) := by
  have apart : ∀ f ∈ es, e.span.stop ≤ f.span.start := fun f hf =>
    he.within.stop_le (h.within f hf) laid
  have placed := h.sequence.sequence he.placed apart
  cases hl : es.getLast? with
  | none =>
    obtain rfl := List.getLast?_eq_none_iff.1 hl
    exact he.mono (List.subset_append_left ..)
  | some last =>
    have mem : last ∈ es := List.mem_of_getLast? hl
    have hlast : last.ReadFrom source ys :=
      ⟨h.sequence.placed last mem, (h.within last mem).start, h.stop last hl⟩
    rw [sequence_of_getLast? hl] at placed ⊢
    exact he.join hlast rfl (apart last mem) placed

end ReadAllFrom

end Expr

/-! ### What is read -/

/-- That what is read is read from its items.  An expression that goes on was read from some
items that come earlier. -/
def Judgement.Placed (source : List Char) : Judgement → Prop
  | expression _ _ used _ e | block _ _ _ used _ e => e.ReadFrom source used
  | extension _ _ lhs used rest e => ∀ front, Laid source (front ++ (used ++ rest)) →
    lhs.ReadFrom source front → e.ReadFrom source (front ++ used)
  | statements _ _ _ used _ es => Expr.ReadAllFrom source used es

/-- An expression that goes on past items that it takes nothing of is placed as it goes on. -/
theorem Judgement.Placed.past {source : List Char} {room : Nat} {ctx : Context} {lhs e : Expr}
    {item : Item} {used rest : List Item}
    (h : (extension room ctx lhs used rest e).Placed source) :
    (extension room ctx lhs (item :: used) rest e).Placed source :=
  fun front laid read => (h front (laid.sublist (by simp)) read).mono (by simp)

/-- **Whatever is read is well placed.** -/
theorem placed_of_derivable {source : List Char} {j : Judgement} (h : Derivable j)
    (laid : Laid source j.items) : j.Placed source := by
  induction h with
  | stop => exact fun front _ read => by simpa using read
  | comment lexeme next ih => exact (ih (laid.suffix (List.suffix_cons ..))).past
  | continuation lexeme continues next ih => exact (ih (laid.suffix (List.suffix_cons ..))).past
  | @operator _ _ lhs rhs e item symbol used₁ used₂ rest lexeme accepted right next ihr ihn =>
    have hr := ihr (laid.suffix Judgement.suffix_operand)
    intro front laid' read
    have infixed : (lhs.infixed (.ofSymbol symbol) item.span rhs).ReadFrom source
        (front ++ item :: used₁) := read.infixed hr (laid'.sublist (by simp))
    have next := ihn (laid.suffix Judgement.suffix_next) _ (by simpa using laid') infixed
    rwa [List.append_assoc, List.cons_append] at next
  | @argument _ _ lhs rhs e item used₁ used₂ rest follow accepted right next ihr ihn =>
    have hr := ihr (laid.suffix Judgement.suffix_argument)
    intro front laid' read
    have applied := read.applied hr (laid'.sublist (by simp))
    have next := ihn (laid.suffix Judgement.suffix_next) _ (by simpa using laid') applied
    rwa [List.append_assoc, List.cons_append] at next
  | leadingComment lexeme next ih =>
    exact (ih (laid.suffix (List.suffix_cons ..))).mono (List.subset_cons_self ..)
  | leadingNewline lexeme stays next ih =>
    exact (ih (laid.suffix (List.suffix_cons ..))).mono (List.subset_cons_self ..)
  | @leaf _ _ lhs e item used rest first next ih =>
    exact ih (laid.suffix (List.suffix_cons ..)) [item] laid (.leaf first laid)
  | unit opens closes next ih =>
    exact ih (laid.suffix ((List.suffix_cons ..).trans (List.suffix_cons ..))) [_, _] laid
      (.unit laid)
  | @group _ _ inner e opener close body skipped used rest opens content trivia closes next ihc
      ihn =>
    have hc := ihc (laid.suffix Judgement.suffix_body)
    have shape : opener :: (body ++ (skipped ++ [close])) ++ used =
        opener :: (body ++ (skipped ++ close :: used)) := by simp
    have read : inner.ReadFrom source (opener :: (body ++ (skipped ++ [close]))) :=
      hc.mono fun i hi => by simp [hi]
    have next := ihn (laid.suffix Judgement.suffix_past_group) _
      (by rw [← List.append_assoc, shape]; exact laid) read
    rwa [shape] at next
  | @declaration _ _ value item bound sign first word name skipped used rest lexeme statement
      named assigned trivia solid indented content ih =>
    have hv := ih (laid.suffix Judgement.suffix_value)
    exact (hv.mono (List.subset_append_right skipped _)).declaration
      (laid.sublist (by simp [Judgement.items]))
  | finish => exact .nil
  | @statement _ _ _ e es first skipped used₁ used₂ rest trivia solid deep content others ihc iho =>
    have hc := ihc (laid.suffix Judgement.suffix_statement)
    have ho := iho (laid.suffix Judgement.suffix_others)
    exact (hc.statements.append ho (laid.sublist (by simp [Judgement.items]))).mono
      (List.subset_append_right ..)
  | @block _ _ _ e es used₁ used₂ rest first others ihf iho =>
    have hf := ihf (laid.suffix Judgement.suffix_block_first)
    have ho := iho (laid.suffix Judgement.suffix_block_others)
    exact ho.sequence_cons hf (laid.sublist (List.sublist_append_left ..))

/-! ### Whole sources -/

/-- **The nodes of what is read are nested in each other.**  Unless a source is read as the empty
block, every node of the result covers a part of the source and has its own parts inside it, in
order and apart; a block has two statements or more, of which the last is no block. -/
theorem wellPlaced_of_parse {limit : Nat} {source : String} {e : Expr}
    (h : parseWithin limit source = .ok e) (nonempty : ∀ span, e ≠ .block span []) :
    ∀ node ∈ e.nodes, node.WellPlaced source.toList := by
  rcases derivable_of_parse h with ⟨-, rfl⟩ | ⟨used, rest, hu, -, hd⟩
  · exact absurd rfl (nonempty _)
  · refine (placed_of_derivable hd ?_).placed
    rw [Judgement.items, ← hu]
    exact laid_items _

/-- `wellPlaced_of_parse` for a block in parens that joins the statements before it, and a line
that goes on with what stands before it. -/
theorem wellPlaced_of_parse_spliced : ∃ e,
    parseWithin 8 "let x = f ()\n(a + b\nc)\n  d" = .ok e ∧ (∀ span, e ≠ .block span []) ∧
      ∀ node ∈ e.nodes, node.WellPlaced "let x = f ()\n(a + b\nc)\n  d".toList := by
  obtain ⟨e, h, statements⟩ := exists_of_any
    (x := parseWithin 8 "let x = f ()\n(a + b\nc)\n  d")
    (p := fun e => e.statements.length == 2) (by decide +kernel)
  have nonempty : ∀ span, e ≠ .block span [] := by
    rintro span rfl
    cases statements
  exact ⟨e, h, nonempty, wellPlaced_of_parse h nonempty⟩

end Offside
