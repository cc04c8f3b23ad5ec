import Mathlib.Data.List.Forall2
import Offside.Parse.Source
import Offside.Proofs.Items
import Offside.Proofs.Spans

/-!
# Like items and like expressions

Items are alike if they say the same (`Item.Alike`), expressions if two maps of spans make them
equal (`Expr.Alike`), and outcomes if they are the same but for the spans of what was found
(`Outcome.Like`).
-/

namespace Offside

/-! ### Like items -/

/-- That items say the same, at spans that two maps make equal. -/
structure Item.Alike (f g : SpanMap) (a b : Item) : Prop where
  /-- They say the same. -/
  lexeme : a.lexeme = b.lexeme
  /-- They correspond in their spans. -/
  span : f.apply a.span = g.apply b.span

namespace Item.Alike

variable {f g : SpanMap} {a b : Item}

theorem isTrivia (h : Alike f g a b) : a.isTrivia = b.isTrivia := by
  simp only [Item.isTrivia, Item.isNewline, h.lexeme]

theorem isNewline (h : Alike f g a b) : a.isNewline = b.isNewline := by
  simp only [Item.isNewline, h.lexeme]

theorem isOperator (h : Alike f g a b) : a.isOperator = b.isOperator := by
  simp only [Item.isOperator, h.lexeme]

theorem isClose (h : Alike f g a b) : a.isClose = b.isClose := by
  simp only [Item.isClose, h.lexeme]

theorem follow (h : Alike f g a b) : a.follow = b.follow := by
  simp only [Item.follow, h.lexeme]

end Item.Alike

/-- Lists of like items. -/
abbrev AlikeItems (f g : SpanMap) : List Item → List Item → Prop := List.Forall₂ (Item.Alike f g)

namespace AlikeItems

variable {f g : SpanMap} {xs ys : List Item}

/-- As many trivia stand at the front of both. -/
theorem significant (h : AlikeItems f g xs ys) :
    ∃ n, significant xs = xs.drop n ∧ Offside.significant ys = ys.drop n := by
  induction h with
  | nil => exact ⟨0, rfl, rfl⟩
  | @cons x y xs ys hxy _ ih =>
    by_cases ht : x.isTrivia = true
    · obtain ⟨n, hx, hy⟩ := ih
      rw [significant_cons_of_trivia ht, significant_cons_of_trivia (hxy.isTrivia ▸ ht)]
      exact ⟨n + 1, hx, hy⟩
    · have hx : x.isTrivia = false := by simpa using ht
      exact ⟨0, significant_cons hx xs, significant_cons (hxy.isTrivia ▸ hx) ys⟩

theorem crossesLine (h : AlikeItems f g xs ys) : crossesLine xs = Offside.crossesLine ys := by
  induction h with
  | nil => rfl
  | @cons x y xs ys hxy _ ih =>
    simp only [Offside.crossesLine, List.takeWhile_cons, hxy.isTrivia] at ih ⊢
    split
    · rw [List.any_cons, List.any_cons, hxy.isNewline, ih]
    · rfl

/-- The next significant items of lists in the same columns stand in the same column. -/
theorem column_eq (h : AlikeItems f g xs ys) (columns : xs.map Item.column = ys.map Item.column)
    {x y : Item} {tx ty : List Item} (hx : Offside.significant xs = x :: tx)
    (hy : Offside.significant ys = y :: ty) : x.column = y.column := by
  obtain ⟨n, hxn, hyn⟩ := h.significant
  have same : (xs.drop n).map Item.column = (ys.drop n).map Item.column := by
    rw [List.map_drop, List.map_drop, columns]
  rw [← hxn, ← hyn, hx, hy] at same
  exact (List.cons.inj same).1

end AlikeItems

/-! ### Like expressions -/

/-- That two maps of spans make expressions equal. -/
def Expr.Alike (f g : SpanMap) (e e' : Expr) : Prop := e.mapSpans f = e'.mapSpans g

namespace Expr.Alike

variable {f g : SpanMap} {left left' right right' : Expr}

theorem infixed (hl : left.Alike f g left') (hr : right.Alike f g right') (op : Operator)
    {span span' : Span} (hs : f.apply span = g.apply span') :
    (left.infixed op span right).Alike f g (left'.infixed op span' right') := by
  rw [Alike] at hl hr ⊢
  rw [mapSpans_infixed, mapSpans_infixed, hl, hr, hs]

theorem applied (hl : left.Alike f g left') (hr : right.Alike f g right') :
    (left.applied right).Alike f g (left'.applied right') := by
  rw [Alike] at hl hr ⊢
  rw [mapSpans_applied, mapSpans_applied, hl, hr]

end Expr.Alike

/-- That two maps of spans make lists of expressions equal. -/
def Expr.AllAlike (f g : SpanMap) (es es' : List Expr) : Prop :=
  es.map (mapSpans f) = es'.map (mapSpans g)

/-- That items play the same part where an expression is to begin. -/
inductive First.Like (f g : SpanMap) : First → First → Prop
  | comment : Like f g .comment .comment
  | newline : Like f g .newline .newline
  | leaf {e e' : Expr} (like : e.Alike f g e') : Like f g (.leaf e) (.leaf e')
  | keyword (word : Keyword) : Like f g (.keyword word) (.keyword word)
  | opening : Like f g .opening .opening
  | closing : Like f g .closing .closing
  | misplaced (problem : Problem) : Like f g (.misplaced problem) (.misplaced problem)

theorem Item.Alike.first {f g : SpanMap} {a b : Item} (h : Item.Alike f g a b) :
    First.Like f g a.first b.first := by
  rw [Item.first, Item.first, ← h.lexeme]
  split
  all_goals first
    | exact .leaf (by simp only [Expr.Alike, Expr.mapSpans, h.span])
    | constructor

/-- That two outcomes are the same but for the spans of what was found. -/
inductive Outcome.Like (f g : SpanMap) : Outcome → Outcome → Prop
  /-- Both found an expression. -/
  | found {e e' : Expr} (like : e.Alike f g e') : Like f g (.found e) (.found e')
  /-- For both the source ended. -/
  | exhausted : Like f g .exhausted .exhausted
  /-- For both the construct around it ended. -/
  | closed : Like f g .closed .closed

end Offside
