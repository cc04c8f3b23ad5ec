import Offside.Proofs.Nodes
import Offside.Proofs.Runs

/-!
# Nesting on the right

`Expr.rightDepth` is how deep an expression nests on the right: an operand on the right of an
operator, an argument and the value of a declaration are one level further in, an operand on the
left and the statements of a block are not.  The limit counts something else.  It is spent by each
expression that is read inside another one, so a group spends some of it without leaving a node
behind, and the left operand grows while nothing is spent.  Still, what is read with some room nests
no deeper than that (`deepIn_of_derivable`), so **the limit bounds the nesting of what is read**
(`rightDepth_le_of_parse`).
-/

namespace Offside

mutual

/-- How deep an expression nests on the right. -/
def Expr.rightDepth : Expr → Nat
  | .name _ _ | .unit _ | .number _ _ | .text _ _ | .bool _ _ => 1
  | .block _ statements => rightDepthAll statements
  | .declaration _ _ _ _ value => value.rightDepth + 1
  | .binary _ _ _ left right => max left.rightDepth (right.rightDepth + 1)
  | .apply _ _ _ function argument => max function.rightDepth (argument.rightDepth + 1)

/-- How deep some expressions nest on the right. -/
def Expr.rightDepthAll : List Expr → Nat
  | [] => 0
  | e :: es => max e.rightDepth (rightDepthAll es)

end

namespace Expr

/-! ### What the parser builds -/

theorem rightDepth_declaration (span nameSpan : Span) (word : Keyword) (name : String)
    (value : Expr) :
    (declaration span word name nameSpan value).rightDepth = value.rightDepth + 1 := rfl

theorem rightDepth_infixed (left right : Expr) (op : Operator) (span : Span) :
    (left.infixed op span right).rightDepth = max left.rightDepth (right.rightDepth + 1) := rfl

theorem rightDepth_applied (function argument : Expr) :
    (function.applied argument).rightDepth =
      max function.rightDepth (argument.rightDepth + 1) := rfl

theorem rightDepthAll_append (es fs : List Expr) :
    rightDepthAll (es ++ fs) = max (rightDepthAll es) (rightDepthAll fs) := by
  induction es with
  | nil => exact (Nat.zero_max _).symm
  | cons e es ih => rw [List.cons_append, rightDepthAll, rightDepthAll, ih, Nat.max_assoc]

/-- The statements of an expression nest as deep as it does. -/
theorem rightDepthAll_statements (e : Expr) : rightDepthAll e.statements = e.rightDepth := by
  cases e with
  | block => rfl
  | _ => exact Nat.max_zero _

/-- A sequence nests as deep as its statements do. -/
theorem rightDepth_sequence (e : Expr) (es : List Expr) :
    (e.sequence es).rightDepth = max e.rightDepth (rightDepthAll es) := by
  cases es with
  | nil => exact (Nat.max_zero _).symm
  | cons f fs => rfl

theorem rightDepth_of_leaf {item : Item} {e : Expr} (h : item.first = .leaf e) :
    e.rightDepth = 1 := by
  obtain ⟨t, -, leaf⟩ := Item.fits_of_first h
  cases t <;> cases leaf <;> rfl

end Expr

/-! ### What is read -/

/-- That what is read with some room nests no deeper on the right.  An expression spends one level
of its room before what follows its first part is read, so an extension has one more than the
expressions inside it. -/
def Judgement.DeepIn : Judgement → Prop
  | expression room _ _ _ e | block room _ _ _ _ e => e.rightDepth ≤ room
  | extension room _ lhs _ _ e => lhs.rightDepth ≤ room + 1 → e.rightDepth ≤ room + 1
  | statements room _ _ _ _ es => Expr.rightDepthAll es ≤ room

/-- **What is read with some room nests no deeper than that.** -/
theorem deepIn_of_derivable {j : Judgement} (h : Derivable j) : j.DeepIn := by
  induction h with
  | stop => exact id
  | comment _ _ ih | continuation _ _ _ ih => exact ih
  | operator _ _ _ _ ihr ihn =>
    refine fun left => ihn ?_
    rw [Expr.rightDepth_infixed]
    exact Nat.max_le.2 ⟨left, Nat.succ_le_succ ihr⟩
  | argument _ _ _ _ ihr ihn =>
    refine fun left => ihn ?_
    rw [Expr.rightDepth_applied]
    exact Nat.max_le.2 ⟨left, Nat.succ_le_succ ihr⟩
  | leadingComment _ _ ih | leadingNewline _ _ _ ih => exact ih
  | leaf first _ ih =>
    refine ih ?_
    rw [Expr.rightDepth_of_leaf first]
    exact Nat.le_add_left ..
  | unit _ _ _ ih => exact ih (Nat.le_add_left ..)
  -- A group spends a level that its expression does not show.
  | group _ _ _ _ _ ihc ihn => exact ihn (Nat.le_succ_of_le ihc)
  | declaration _ _ _ _ _ _ _ _ ih =>
    rw [Judgement.DeepIn, Expr.rightDepth_declaration]
    exact Nat.succ_le_succ ih
  | finish => exact Nat.zero_le _
  | statement _ _ _ _ _ ihc iho =>
    rw [Judgement.DeepIn, Expr.rightDepthAll_append, Expr.rightDepthAll_statements]
    exact Nat.max_le.2 ⟨ihc, iho⟩
  | block _ _ ihf iho =>
    rw [Judgement.DeepIn, Expr.rightDepth_sequence]
    exact Nat.max_le.2 ⟨ihf, iho⟩

/-- **The limit bounds how deep what is read nests on the right.** -/
theorem rightDepth_le_of_parse {limit : Nat} {source : String} {e : Expr}
    (h : parseWithin limit source = .ok e) : e.rightDepth ≤ limit := by
  rcases derivable_of_parse h with ⟨-, rfl⟩ | ⟨used, rest, -, -, derived⟩
  · exact Nat.zero_le _
  · exact deepIn_of_derivable derived

/-- `rightDepth_le_of_parse` for a declaration that spends all of the limit. -/
theorem rightDepth_le_of_parse_declaration :
    ∃ e, parseWithin 3 "f a\nlet x = (a) ^ b" = .ok e ∧ e.rightDepth = 3 := by
  obtain ⟨e, h, deep⟩ := exists_of_any (x := parseWithin 3 "f a\nlet x = (a) ^ b")
    (p := fun e => decide (3 ≤ e.rightDepth)) (by decide +kernel)
  exact ⟨e, h, Nat.le_antisymm (rightDepth_le_of_parse h) (of_decide_eq_true deep)⟩

end Offside
