import Offside.Proofs.Continuation
import Offside.Proofs.Joining
import Offside.Proofs.Written

/-!
# A source in parens

Parens on lines of their own around a source do not change what it is read as: the same expression,
moved by the two bytes before it, and nested one deeper (`parseWithin_inParens`).

Where a part of the source meets its end, it meets a line break and the paren at the margin in the
parens.  It ends there as well, for the paren is no operator and stands no further right than any
level, and a block in parens ends at it even if that is its level (`grouped_of_derivable`).
-/

namespace Offside

/-! ### Before the paren that closes a group -/

/-- Items that go on, on a new line, with a closing paren at the margin. -/
structure Closer (added : List Item) : Prop extends Seam 0 added where
  /-- The first significant item closes a group. -/
  close : ∃ close tail, significant added = close :: tail ∧ close.isClose = true

/-- A block that ends before what is left ends there in parens. -/
theorem Closer.blockEnds_grouped {added rest : List Item} (closer : Closer added) {level : Nat}
    {isGrouped : Bool} (h : blockEnds level isGrouped rest = true) :
    blockEnds level true (rest ++ added) = true := by
  cases hr : significant rest with
  | nil =>
    obtain ⟨close, tail, hs, closes⟩ := closer.close
    simp [blockEnds, significant_append (significant_eq_nil_iff.1 hr), hs, closes]
  | cons item items =>
    simp only [blockEnds, hr, significant_append_of_cons hr, Bool.or_eq_true, Bool.and_eq_true,
      true_and] at h ⊢
    exact h.imp_right And.right

/-- The same context in parens. -/
def Context.grouped (ctx : Context) : Context := { ctx with isGrouped := true }

theorem Context.stops_grouped (ctx : Context) (items : List Item) :
    ctx.grouped.stops items = ctx.stops items := rfl

theorem Context.continues_grouped (ctx : Context) (items : List Item) :
    ctx.grouped.continues items = ctx.continues items := rfl

theorem Context.dedents_grouped (ctx : Context) (items : List Item) :
    ctx.grouped.dedents items = ctx.dedents items := rfl

/-- That a part is derived in parens, with `added` after the source. -/
def Judgement.Grouped (added : List Item) : Judgement → Prop
  | expression room ctx used rest e =>
    Derivable (.expression room ctx.grouped used (rest ++ added) e)
  | extension room ctx lhs used rest e =>
    Derivable (.extension room ctx.grouped lhs used (rest ++ added) e)
  | statements room level _ used rest es =>
    Derivable (.statements room level true used (rest ++ added) es)
  | block room level _ used rest e => Derivable (.block room level true used (rest ++ added) e)

/-- **What is read of a source is read alike in parens.** -/
theorem grouped_of_derivable {added : List Item} (closer : Closer added) {j : Judgement}
    (h : Derivable j) : j.Grouped added := by
  induction h with
  | @stop room ctx lhs rest stops =>
    refine .stop ?_
    rw [Context.stops_grouped]
    exact (outside_nil 0).stops_exchange closer.outside (fun _ _ => Nat.zero_le _)
      (by rwa [List.append_nil])
  | comment lexeme _ ih => exact .comment lexeme ih
  | continuation lexeme continues _ ih =>
    refine .continuation lexeme ?_ ih
    rw [Context.continues_grouped, ← List.append_assoc]
    rwa [← (outside_nil 0).continues_eq closer.outside fun _ _ => Nat.zero_le _, List.append_nil]
  | operator lexeme accepted _ _ ihr ihn =>
    rw [Judgement.Grouped, List.append_assoc] at ihr
    exact .operator lexeme accepted ihr ihn
  | argument follow accepted _ _ ihr ihn =>
    rw [Judgement.Grouped, List.append_assoc] at ihr
    exact .argument follow accepted ihr ihn
  | leadingComment lexeme _ ih => exact .leadingComment lexeme ih
  | leadingNewline lexeme stays next ih =>
    obtain ⟨first, tail, begins, -⟩ := begins_of_derivable next
    refine .leadingNewline lexeme ?_ ih
    rw [Context.dedents_grouped]
    simpa only [Context.dedents, significant_append_of_cons begins] using stays
  | leaf first _ ih => exact .leaf first ih
  | unit opens closes _ ih => exact .unit opens closes ih
  | @group room ctx inner e opener close body skipped used rest opens content trivia closes next ihc
      ihn =>
    have shape : skipped ++ close :: (used ++ rest) ++ added =
        skipped ++ close :: (used ++ (rest ++ added)) := by simp
    rw [Judgement.Grouped, shape] at ihc
    exact .group opens ihc trivia closes ihn
  | declaration lexeme statement named assigned trivia solid indented _ ih =>
    exact .declaration lexeme statement named assigned trivia solid indented ih
  | finish ends => exact .finish (closer.blockEnds_grouped ends)
  | statement trivia solid deep _ _ ihc iho =>
    rw [Judgement.Grouped, List.append_assoc] at ihc
    exact .statement trivia solid deep ihc iho
  | block _ _ ihf iho =>
    rw [Judgement.Grouped, List.append_assoc] at ihf
    exact .block ihf iho

/-! ### Sources -/

/-- What is read of the items of a source is one statement in parens, with one level more. -/
theorem derivable_inParens {limit : Nat} {used rest gts : List Item} {e : Expr}
    (parens : InParens .origin (used ++ rest) gts)
    (h : Derivable (.block limit 0 false used rest e)) (trivia : significant rest = []) :
    Derivable (.expression (limit + 1) (.statement 0 false) gts [] e) ∧ firstColumn gts = 0 := by
  obtain ⟨opener, first, last, close, rfl, start, opens, hf, hl, closes, margin⟩ := parens
  have next : significant [last, close] = [close] := by
    rw [significant_cons_newline hl,
      significant_cons (Item.not_isTrivia_of_lexeme closes (by simp) (by simp))]
  have closer : Closer [last, close] :=
    ⟨⟨⟨last, [close], rfl, hl⟩, close, [], next, margin, by simp [Item.isOperator, closes]⟩,
      close, [], next, Item.isClose_of_closing closes⟩
  have content : Derivable (.block limit 0 true (first :: used) (rest ++ [last, close]) e) :=
    derivable_newline_block hf (grouped_of_derivable closer h)
  have skipped : ∀ i ∈ rest ++ [last], i.isTrivia = true := by
    rw [List.forall_mem_append, List.forall_mem_singleton]
    exact ⟨significant_eq_nil_iff.1 trivia, Item.isTrivia_of_newline hl⟩
  have group : Derivable (.expression (limit + 1) (.statement 0 false)
      (opener :: (first :: used ++ (rest ++ [last] ++ close :: []))) [] e) :=
    .group opens (by simpa using content) skipped closes (.stop rfl)
  refine ⟨by simpa using group, ?_⟩
  rw [firstColumn_cons (Item.not_isTrivia_of_lexeme opens (by simp) (by simp)), Item.column, start]
  rfl

/-- What is read of the items of a source is read of them in parens, with one level more. -/
theorem parseItems_inParens {limit sourceEnd : Nat} {used rest gts : List Item} {e : Expr}
    (parens : InParens .origin (used ++ rest) gts)
    (h : Derivable (.block limit 0 false used rest e)) (trivia : significant rest = []) :
    parseItems (limit + 1) sourceEnd gts = .ok e := by
  obtain ⟨group, level⟩ := derivable_inParens parens h trivia
  have shape : gts = gts ++ [] ++ [] := by simp
  rw [shape] at level ⊢
  refine parseItems_of_derivable ?_ rfl
  rw [level]
  exact .block group (.finish rfl)

/-- The items of a text in parens are those of the text two bytes further on, in parens. -/
theorem items_inParens {text : List Char} (tokens : Clean (items text)) :
    ∃ its, InParens .origin its (items (inParens text)) ∧
      AlikeItems (.shift 2) .id (items text) its ∧
      (items text).map Item.column = its.map Item.column := by
  -- The text begins on the second line, past the paren and the line break.
  let q : Position := (Position.origin.advance '(').advance '\n'
  obtain ⟨alike, columns⟩ := alike_itemsFrom (q := q) rfl text
  have clean : Clean (itemsFrom q text) :=
    forall_itemsFrom (fun lexeme => ∃ t, lexeme = .token t) tokens q
  obtain ⟨last, newline, joined⟩ := itemsFrom_append_newline clean [')']
  rw [itemsFrom_close, itemsFrom_nil] at joined
  have margin := Position.column_advanceAll_newline q text
  refine ⟨itemsFrom q text, ?_, alike, columns⟩
  rw [inParens, items_eq_itemsFrom, itemsFrom_open, itemsFrom_newline]
  exact ⟨_, _, last, _, congrArg (fun its => _ :: _ :: its) joined, rfl, rfl, rfl, newline, rfl,
    margin⟩

/-- **Parens around a source do not change what it is.**  A source that begins in the first column
and is read is read in parens, on lines of their own, as the same expression, moved by the two bytes
before it, if expressions may nest one deeper. -/
theorem parseWithin_inParens {limit : Nat} {s : String} {t : Expr} {first : Item}
    (h : parseWithin limit s = .ok t) (begins : (significant (items s.toList)).head? = some first)
    (margin : first.column = 0) :
    parseWithin (limit + 1) ("(\n" ++ s ++ "\n)") = .ok (t.shift 2) := by
  obtain ⟨tail, begins⟩ := List.head?_eq_some_iff.1 begins
  obtain ⟨used, rest, split, trivia, derived, -⟩ := derivable_of_begins h begins
  obtain ⟨its, parens, alike, columns⟩ := items_inParens (clean_of_parse h)
  rw [margin] at derived
  rw [split] at alike columns
  obtain ⟨used', rest', rfl, trivia', moved⟩ := derivable_shift derived trivia alike columns
  have text : ("(\n" ++ s ++ "\n)").toList = inParens s.toList := by simp [inParens]
  rw [parseWithin, text]
  exact parseItems_inParens parens moved trivia'

/-- `parseWithin_inParens` for a block, a declaration in it and comments, nested as deep as is
allowed. -/
theorem parseWithin_inParens_block : ∃ t,
    parseWithin 4 "let x =\n  f (1) // c\ny + 2\n // d" = .ok t ∧
    parseWithin 5 ("(\n" ++ "let x =\n  f (1) // c\ny + 2\n // d" ++ "\n)") = .ok (t.shift 2) := by
  obtain ⟨t, h, -⟩ := exists_of_any (x := parseWithin 4 "let x =\n  f (1) // c\ny + 2\n // d")
    (p := fun _ => true) (by decide +kernel)
  have begins : (significant (items "let x =\n  f (1) // c\ny + 2\n // d".toList)).head? =
    some ⟨.token (.keyword .mutable), ⟨0, 1, 0⟩, 3⟩ := by decide +kernel
  exact ⟨t, h, parseWithin_inParens h begins rfl⟩

end Offside
