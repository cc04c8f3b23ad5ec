import Offside.Expr.Display
import Offside.Proofs.Nodes

/-!
# Expressions up to their spans

`Expr.mapSpans` changes every span of an expression.  What the parser builds goes along with the
maps that respect how it makes spans (`SpanMap`), such as these:

* `SpanMap.shift n` moves everything by `n` bytes, and with it `Expr.shift n`;
* `SpanMap.erase` forgets where anything stands, so that `Expr.bare` is the shape of an expression.

The text of an expression depends on its shape only (`Expr.toText_eq_of_mapSpans_eq`).
-/

namespace Offside

/-! ### Maps of spans -/

/-- The span moved by `n` bytes. -/
def Span.shift (n : Nat) (s : Span) : Span := ⟨s.start + n, s.length⟩

theorem Span.shift_through (n : Nat) (s t : Span) :
    (s.through t).shift n = (s.shift n).through (t.shift n) := by
  simp only [shift, through, between, stop, mk.injEq, true_and]
  omega

theorem Span.shift_emptyAt_stop (n : Nat) (s : Span) :
    (emptyAt s.stop).shift n = emptyAt (s.shift n).stop := by
  simp only [shift, emptyAt, stop, mk.injEq, and_true]
  omega

/-- A map of spans that goes along with the spans that are made of others. -/
structure SpanMap where
  /-- What becomes of a span. -/
  apply : Span → Span
  /-- It goes along with the span that covers two others. -/
  through : ∀ s t, apply (s.through t) = (apply s).through (apply t)
  /-- It goes along with the span where another one stops. -/
  emptyAt_stop : ∀ s, apply (.emptyAt s.stop) = .emptyAt (apply s).stop

namespace SpanMap

/-- Nothing is changed. -/
def id : SpanMap := ⟨fun s => s, fun _ _ => rfl, fun _ => rfl⟩

@[simp] theorem apply_id (s : Span) : id.apply s = s := rfl

/-- Everything is moved by `n` bytes. -/
def shift (n : Nat) : SpanMap := ⟨Span.shift n, Span.shift_through n, Span.shift_emptyAt_stop n⟩

/-- Nothing is left of where anything stands. -/
def erase : SpanMap := ⟨fun _ => .emptyAt 0, fun _ _ => rfl, fun _ => rfl⟩

end SpanMap

/-! ### Maps of expressions -/

namespace Expr

mutual

/-- The expression with every span changed. -/
def mapSpans (f : SpanMap) : Expr → Expr
  | .name span spelling => .name (f.apply span) spelling
  | .unit span => .unit (f.apply span)
  | .number span spelling => .number (f.apply span) spelling
  | .text span value => .text (f.apply span) value
  | .bool span value => .bool (f.apply span) value
  | .block span statements => .block (f.apply span) (mapSpansAll f statements)
  | .declaration span keyword bound boundSpan value =>
    .declaration (f.apply span) keyword bound (f.apply boundSpan) (value.mapSpans f)
  | .binary span operator operatorSpan left right =>
    .binary (f.apply span) operator (f.apply operatorSpan) (left.mapSpans f) (right.mapSpans f)
  | .apply span curried anchor function argument =>
    .apply (f.apply span) curried (f.apply anchor) (function.mapSpans f) (argument.mapSpans f)

/-- The expressions with every span changed. -/
def mapSpansAll (f : SpanMap) : List Expr → List Expr
  | [] => []
  | e :: es => e.mapSpans f :: mapSpansAll f es

end

/-- The expression moved by `n` bytes. -/
def shift (n : Nat) : Expr → Expr := mapSpans (.shift n)

/-- The shape of an expression: two of them have the same one if they differ only in where their
parts stand. -/
def bare : Expr → Expr := mapSpans .erase

variable {f g : SpanMap} {e : Expr}

theorem bare_binary (span operatorSpan : Span) (operator : Operator) (left right : Expr) :
    (binary span operator operatorSpan left right).bare =
      .binary (.emptyAt 0) operator (.emptyAt 0) left.bare right.bare := rfl

theorem bare_apply (span anchor : Span) (curried : Bool) (function argument : Expr) :
    (apply span curried anchor function argument).bare =
      .apply (.emptyAt 0) curried (.emptyAt 0) function.bare argument.bare := rfl

theorem mapSpansAll_eq_map (f : SpanMap) (es : List Expr) :
    mapSpansAll f es = es.map (mapSpans f) := by
  induction es with
  | nil => rfl
  | cons e es ih => rw [mapSpansAll, ih, List.map_cons]

theorem mapSpans_block (f : SpanMap) (span : Span) (es : List Expr) :
    (block span es).mapSpans f = .block (f.apply span) (es.map (mapSpans f)) := by
  rw [mapSpans, mapSpansAll_eq_map]

theorem bare_block (span : Span) (es : List Expr) :
    (block span es).bare = .block (.emptyAt 0) (es.map bare) := mapSpans_block .erase span es

@[simp] theorem span_mapSpans (f : SpanMap) (e : Expr) : (e.mapSpans f).span = f.apply e.span := by
  cases e <;> rfl

@[simp] theorem isBlock_mapSpans (f : SpanMap) (e : Expr) : (e.mapSpans f).isBlock = e.isBlock := by
  cases e <;> rfl

mutual

theorem mapSpans_id (e : Expr) : e.mapSpans .id = e := by
  cases e with
  | name | unit | number | text | bool => rfl
  | block span es => simp only [mapSpans, mapSpansAll_id es, SpanMap.apply_id]
  | declaration span keyword bound boundSpan value =>
    simp only [mapSpans, mapSpans_id value, SpanMap.apply_id]
  | binary span operator operatorSpan left right =>
    simp only [mapSpans, mapSpans_id left, mapSpans_id right, SpanMap.apply_id]
  | apply span curried anchor function argument =>
    simp only [mapSpans, mapSpans_id function, mapSpans_id argument, SpanMap.apply_id]

theorem mapSpansAll_id (es : List Expr) : mapSpansAll .id es = es := by
  cases es with
  | nil => rfl
  | cons e es => rw [mapSpansAll, mapSpans_id e, mapSpansAll_id es]

end

mutual

/-- The shape of an expression does not depend on its spans. -/
@[simp] theorem bare_mapSpans (f : SpanMap) (e : Expr) : (e.mapSpans f).bare = e.bare := by
  cases e with
  | name | unit | number | text | bool => rfl
  | block span es =>
    rw [mapSpans, mapSpansAll_eq_map, bare_block, bare_block, map_bare_mapSpans f es]
  | declaration span keyword bound boundSpan value =>
    have value_bare := bare_mapSpans f value
    simp only [bare, mapSpans] at value_bare ⊢
    rw [value_bare]
    rfl
  | binary span operator operatorSpan left right =>
    rw [mapSpans, bare_binary, bare_binary, bare_mapSpans f left, bare_mapSpans f right]
  | apply span curried anchor function argument =>
    rw [mapSpans, bare_apply, bare_apply, bare_mapSpans f function, bare_mapSpans f argument]

theorem map_bare_mapSpans (f : SpanMap) (es : List Expr) :
    (es.map (mapSpans f)).map bare = es.map bare := by
  cases es with
  | nil => rfl
  | cons e es =>
    rw [List.map_cons, List.map_cons, List.map_cons, bare_mapSpans f e, map_bare_mapSpans f es]

end

/-! ### What the parser builds -/

theorem mapSpans_infixed (left right : Expr) (operator : Operator) (span : Span) :
    (left.infixed operator span right).mapSpans f =
      (left.mapSpans f).infixed operator (f.apply span) (right.mapSpans f) := by
  simp only [infixed, mapSpans, f.through, span_mapSpans]

theorem mapSpans_applied (function argument : Expr) :
    (function.applied argument).mapSpans f =
      (function.mapSpans f).applied (argument.mapSpans f) := by
  simp only [applied, mapSpans, f.through, f.emptyAt_stop, span_mapSpans]

theorem mapSpans_sequence (e : Expr) (es : List Expr) :
    (e.sequence es).mapSpans f = (e.mapSpans f).sequence (es.map (mapSpans f)) := by
  cases es with
  | nil => rfl
  | cons e' es =>
    have last : ((e' :: es).map (mapSpans f)).getLast (by simp) =
        ((e' :: es).getLast (by simp)).mapSpans f := List.getLast_map _
    simp only [sequence, mapSpans_block, f.through, span_mapSpans, List.map_cons] at last ⊢
    rw [last, span_mapSpans]

theorem statements_mapSpans (e : Expr) :
    (e.mapSpans f).statements = e.statements.map (mapSpans f) := by
  cases e with
  | block span es => rw [mapSpans_block]; rfl
  | _ => rfl

/-! ### The text of an expression -/

mutual

theorem display_mapSpans (f : SpanMap) (e : Expr) : (e.mapSpans f).display = e.display := by
  cases e with
  | name | unit | number | text | bool => rfl
  | block span es => rw [mapSpans, display_block, display_block, displayAll_mapSpansAll f es]
  | declaration span keyword bound boundSpan value =>
    rw [mapSpans, display_declaration, display_declaration, display_mapSpans f value]
  | binary span operator operatorSpan left right =>
    rw [mapSpans, display_binary, display_binary, display_mapSpans f left,
      display_mapSpans f right]
  | apply span curried anchor function argument =>
    rw [mapSpans, display_apply, display_apply, display_mapSpans f function,
      display_mapSpans f argument]

theorem displayAll_mapSpansAll (f : SpanMap) (es : List Expr) :
    displayAll (mapSpansAll f es) = displayAll es := by
  cases es with
  | nil => rfl
  | cons e es =>
    rw [mapSpansAll, displayAll_cons, displayAll_cons, display_mapSpans f e,
      displayAll_mapSpansAll f es]

end

/-- **Expressions that differ in their spans only have one text.** -/
theorem toText_eq_of_mapSpans_eq {e e' : Expr} (h : e.mapSpans f = e'.mapSpans g) :
    e.toText = e'.toText := by
  rw [toText, toText, ← display_mapSpans f e, h, display_mapSpans]

end Expr

end Offside
