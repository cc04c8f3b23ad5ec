import Mathlib.Logic.Relation
import Offside.Proofs.Continuation
import Offside.Proofs.LineEnds
import Offside.Proofs.Moved

/-!
# Comments and blank lines

A source may be edited by a comment at the end of a line, or by one more line that is blank or has
just a comment (`Edited`).  A comment at the end of a line makes at most one more item, after those
of the line: none if the line ends with a comment already (`itemsFrom_comment`).  A line more makes
a line break more, and its comment.  So what the edited source says is the same but for its trivia
(`moved_of_edited`), and **a source that is read is read as an expression with the same text,
however often it is edited** (`toText_of_edits`).
-/

namespace Offside

variable {p q : Position} {c : Char} {cs text xs ys : List Char} {s : Scan}

/-! ### Texts of comments -/

/-- That a text has no character that ends a comment. -/
def OnLine (text : List Char) : Prop := ∀ c ∈ text, c ≠ '\r' ∧ c ≠ '\n'

instance (text : List Char) : Decidable (OnLine text) := List.decidableBAll _ text

/-- What of a text goes into a comment. -/
def upToLine (text : List Char) : List Char := text.takeWhile fun d => d ≠ '\r' ∧ d ≠ '\n'

theorem upToLine_eq_self_iff : upToLine text = text ↔ OnLine text := by
  simp [upToLine, OnLine, List.takeWhile_eq_self_iff]

/-- A comment does not look past its line. -/
theorem upToLine_append (h : ¬OnLine cs) (ys : List Char) : upToLine (cs ++ ys) = upToLine cs := by
  have stops : (upToLine cs).length ≠ cs.length := fun whole =>
    h (upToLine_eq_self_iff.1 ((List.takeWhile_prefix _).eq_of_length whole))
  rw [upToLine, List.takeWhile_append]
  exact if_neg stops

/-- Two slashes begin a comment. -/
theorem scan_slashes (cs : List Char) :
    scan '/' ('/' :: cs) = some (.token .comment ('/' :: '/' :: upToLine cs)) := by
  simp [scan, upToLine, show Unicode.isBlank '/' = false by decide]

/-- A comment is all that is left, or is scanned alike with more after the text. -/
theorem scan_append_of_comment (hs : scan c cs = some s) (lexeme : s.lexeme = .token .comment)
    (split : s.consumed ++ xs = c :: cs) (ys : List Char) :
    (∃ text, OnLine text ∧ c = '/' ∧ cs = '/' :: text ∧ xs = []) ∨
      scan c (cs ++ ys) = some s := by
  obtain ⟨text, rfl, rfl, rfl⟩ := comment_of_scan hs lexeme
  by_cases line : OnLine text
  · refine .inl ⟨text, line, rfl, rfl, ?_⟩
    have rest : upToLine text ++ xs = text := (List.cons.inj (List.cons.inj split).2).2
    rw [upToLine_eq_self_iff.2 line] at rest
    exact List.append_right_eq_self.1 rest
  · right
    rw [List.cons_append, scan_slashes, upToLine_append line]
    rfl

/-- A comment alone makes one item. -/
theorem itemsFrom_slashes (h : OnLine text) (p : Position) : itemsFrom p ('/' :: '/' :: text) =
    [Rest.itemOf p (.token .comment ('/' :: '/' :: text))] := by
  have scanned := scan_slashes text
  rw [upToLine_eq_self_iff.2 h] at scanned
  rw [itemsFrom_of_scan scanned (List.append_nil _).symm, itemsFrom_nil]

/-! ### Items with a comment after them -/

/-- What begins in the same column stays. -/
theorem stays_itemsFrom (columns : p.column = q.column) (text : List Char) :
    List.Forall₂ (Item.Stays .erase .erase) (itemsFrom p text) (itemsFrom q text) :=
  (forall₂_itemsFrom p q text).imp fun _ _ h => ⟨⟨h.lexeme, rfl⟩, h.column_eq columns⟩

/-- That items are comments. -/
def Comments (items : List Item) : Prop := ∀ item ∈ items, item.lexeme = .token .comment

/-- **A comment after a text makes an item more, or none** if a comment goes on with it. -/
theorem itemsFrom_comment (clean : Clean (itemsFrom p xs)) (h : OnLine text) : ∃ items comments,
    itemsFrom p (xs ++ ' ' :: '/' :: '/' :: text) = items ++ comments ∧
      List.Forall₂ (Item.Stays .erase .erase) (itemsFrom p xs) items ∧ Comments comments := by
  induction xs using scan_induction generalizing p with
  | nil =>
    refine ⟨[], _, itemsFrom_space.trans (itemsFrom_slashes h _), ?_, ?_⟩
    · rw [itemsFrom_nil]
      exact .nil
    · exact List.forall_mem_singleton.2 rfl
  | blank c cs hs ih =>
    rw [itemsFrom_of_blank hs] at clean ⊢
    rw [List.cons_append, itemsFrom_of_blank (scan_append_of_blank hs (by simp) _)]
    exact ih clean
  | item c cs s after hs split ih =>
    rw [itemsFrom_of_scan hs split.symm] at clean ⊢
    obtain ⟨⟨t, lexeme⟩, clean⟩ := clean_cons.1 clean
    have scanned : (∃ text, OnLine text ∧ c = '/' ∧ cs = '/' :: text ∧ after = []) ∨
        scan c (cs ++ ' ' :: '/' :: '/' :: text) = some s := by
      by_cases comment : t = .comment
      · exact scan_append_of_comment hs (lexeme.trans (congrArg _ comment)) split _
      · exact .inr (scan_append isSeparator_space hs lexeme (absurd · comment) _)
    rcases scanned with ⟨before, line, rfl, rfl, rfl⟩ | scanned
    · -- A comment at the end takes the other one with it.
      have whole : OnLine (before ++ ' ' :: '/' :: '/' :: text) := by
        simp only [OnLine, List.forall_mem_append, List.forall_mem_cons]
        exact ⟨line, by decide, by decide, by decide, h⟩
      obtain rfl := Option.some.inj ((scan_slashes before).symm.trans hs)
      refine ⟨_, [], (itemsFrom_slashes whole p).trans (List.append_nil _).symm, ?_,
        List.forall_mem_nil _⟩
      rw [itemsFrom_nil]
      exact .cons ⟨⟨rfl, rfl⟩, rfl⟩ .nil
    · have joined : c :: (cs ++ ' ' :: '/' :: '/' :: text) =
          s.consumed ++ (after ++ ' ' :: '/' :: '/' :: text) := by
        rw [← List.append_assoc, split, List.cons_append]
      obtain ⟨items, comments, all, stays, last⟩ := ih clean
      refine ⟨_ :: items, comments, ?_, .cons ⟨⟨rfl, rfl⟩, rfl⟩ stays, last⟩
      rw [List.cons_append, itemsFrom_of_scan scanned joined, all, List.cons_append]

theorem clean_of_stays {items others : List Item}
    (h : List.Forall₂ (Item.Stays .erase .erase) items others) (clean : Clean items) : Clean others := by
  induction h with
  | nil => exact clean
  | cons same _ ih =>
    obtain ⟨⟨t, lexeme⟩, rest⟩ := clean_cons.1 clean
    exact (ih rest).cons (same.lexeme ▸ lexeme)

/-! ### Comments among moved items -/

namespace Comments

variable {comments items others : List Item}

theorem isTrivia (h : Comments comments) : ∀ item ∈ comments, item.isTrivia = true :=
  fun item hi => Item.isTrivia_of_comment (h item hi)

theorem clean (h : Comments comments) : Clean comments := clean_of_trivia h.isTrivia

/-- Comments are no line breaks. -/
theorem crossesLine_append (h : Comments comments) (items : List Item) :
    crossesLine (comments ++ items) = crossesLine items := by
  induction comments with
  | nil => rfl
  | cons comment comments ih =>
    obtain ⟨first, others⟩ := List.forall_mem_cons.1 h
    rw [List.cons_append, crossesLine_cons_of_comment (Item.isTrivia_of_comment first)
      (Item.not_isNewline_of_comment first), ih others]

/-- Where trivia stand in front of two lists, comments may be put in front of the second one. -/
theorem spaced (h : Comments comments) (abuts : Offside.abuts items = false)
    (spaced : Spaced .failure items others) : Spaced .failure items (comments ++ others) where
  crosses := by rw [h.crossesLine_append, spaced.crosses]
  adjacent := by
    cases comments with
    | nil => exact spaced.adjacent
    | cons comment comments =>
      rw [abuts, List.cons_append, abuts_cons,
        Item.isTrivia_of_comment (h comment List.mem_cons_self), Bool.not_true]
  isEmpty asked := absurd rfl asked

end Comments

/-- What begins in the same column is read the same. -/
theorem moved_itemsFrom (columns : p.column = q.column) (text : List Char) (depth : Nat) :
    Moved .erase .erase .failure 0 depth (itemsFrom p text) (itemsFrom q text) :=
  (Moved.of_stays (stays_itemsFrom columns text) (by simp) depth).1

/-! ### Edited sources -/

/-- That a text is empty or a comment. -/
inductive IsNote : String → Prop
  /-- Nothing. -/
  | blank : IsNote ""
  /-- Two slashes and anything on the line. -/
  | comment (text : String) (line : OnLine text.toList) : IsNote ("//" ++ text)

/-- `Edited s s'`: the source `s` becomes `s'` by one comment or one line more. -/
inductive Edited : String → String → Prop
  /-- A comment is put before a line break or the end of the source. -/
  | comment (before text after : String) (line : OnLine text.toList)
    (ends : LineEnd after.toList) : Edited (before ++ after) (before ++ " //" ++ text ++ after)
  /-- A line with nothing but spaces and a comment is put where a line begins. -/
  | line (before after note : String) (width : Nat)
    (begins : before = "" ∨ ∃ front, before = front ++ "\n") (isNote : IsNote note) :
    Edited (before ++ after) (before ++ indented width note ++ "\n" ++ after)

/-- A comment at the end of a line changes trivia only. -/
theorem moved_comment {before after : List Char} (line : OnLine text) (ends : LineEnd after)
    (clean : Clean (itemsFrom p (before ++ after))) (depth : Nat) :
    Moved .erase .erase .failure 0 depth (itemsFrom p (before ++ after))
      (itemsFrom p ((before ++ ' ' :: '/' :: '/' :: text) ++ after)) := by
  have clean₀ := clean_of_append ends clean
  obtain ⟨items, comments, all, stays, last⟩ := itemsFrom_comment clean₀ line
  have clean₁ : Clean (itemsFrom p (before ++ ' ' :: '/' :: '/' :: text)) := by
    rw [all]
    exact (clean_of_stays stays clean₀).append last.clean
  have trivia := last.isTrivia
  rcases itemsFrom_lineEnd ends with rfl | ⟨ys, next⟩
  · have spaced : Spaced .failure [] comments := by simpa using last.spaced rfl .nil
    have joined := (Moved.append stays (by simp)
      (fun _ => ⟨.nil rfl (significant_eq_nil_iff.2 trivia), spaced⟩) depth).1
    rw [List.append_nil, ← all] at joined
    rwa [List.append_nil, List.append_nil]
  · obtain ⟨nl, q, newline, column, split⟩ := next p before clean₀
    obtain ⟨nl', q', newline', column', split'⟩ := next p _ clean₁
    have hn := Item.isNewline_of_newline newline
    have hn' := Item.isNewline_of_newline newline'
    rw [split, split', all, List.append_assoc]
    refine (Moved.append stays (by simp) (fun inside => ⟨?_, last.spaced ?_ (.newline hn hn')⟩)
      depth).1
    · have rest := (moved_itemsFrom (column.trans column'.symm) ys inside).cons_of_trivia
        (Item.isTrivia_of_isNewline hn) (Item.isTrivia_of_isNewline hn')
      exact rest.trivia rfl (significant_append trivia)
    · rw [abuts_cons, Item.isTrivia_of_isNewline hn, Bool.not_true]

/-- A line with nothing but spaces and a comment makes no more items than that. -/
theorem comments_itemsFrom_line {note : String} (h : IsNote note) (width : Nat) (p : Position) :
    Comments (itemsFrom p (indented width note).toList) := by
  have chars : (indented width note).toList = List.replicate width ' ' ++ note.toList := by
    simp [indented]
  rw [chars, itemsFrom_indent]
  cases h with
  | blank => simp [Comments]
  | comment text line =>
    have slashes : ("//" ++ text).toList = '/' :: '/' :: text.toList := by simp
    rw [slashes, itemsFrom_slashes line]
    exact List.forall_mem_singleton.2 rfl

/-- A line more before a text changes trivia only. -/
theorem moved_line {note : String} (h : IsNote note) (width : Nat) (hp : p.column = 0)
    (text : List Char) (depth : Nat) :
    Moved .erase .erase .failure 0 depth (itemsFrom p text)
      (itemsFrom q ((indented width note).toList ++ '\n' :: text)) := by
  have comments := comments_itemsFrom_line h width q
  obtain ⟨nl, newline, split⟩ := itemsFrom_append_newline comments.clean text
  rw [split]
  have column : (q.advanceAll ((indented width note).toList ++ ['\n'])).column = 0 := by
    rw [Position.advanceAll_append]
    rfl
  refine (moved_itemsFrom (hp.trans column.symm) text depth).trivia rfl ?_
  rw [significant_append comments.isTrivia, significant_cons_newline newline]

/-- A line more after a line feed changes trivia only. -/
theorem moved_line_after {note : String} (h : IsNote note) (width : Nat) {front after : List Char}
    (clean : Clean (itemsFrom p (front ++ '\n' :: after))) (depth : Nat) :
    Moved .erase .erase .failure 0 depth (itemsFrom p (front ++ '\n' :: after))
      (itemsFrom p (front ++ '\n' :: ((indented width note).toList ++ '\n' :: after))) := by
  have clean₀ := clean_of_append (.newline after) clean
  obtain ⟨nl, newline, split⟩ := itemsFrom_append_newline clean₀ after
  obtain ⟨nl', newline', split'⟩ :=
    itemsFrom_append_newline clean₀ ((indented width note).toList ++ '\n' :: after)
  have column : (p.advanceAll (front ++ ['\n'])).column = 0 := by
    rw [Position.advanceAll_append]
    rfl
  rw [split, split']
  refine (Moved.append (stays_itemsFrom rfl front) (by simp) (fun inside => ⟨?_, .newline
    (Item.isNewline_of_newline newline) (Item.isNewline_of_newline newline')⟩) depth).1
  exact (moved_line h width column after inside).cons_of_trivia
    (Item.isTrivia_of_newline newline) (Item.isTrivia_of_newline newline')

/-- **An edit changes trivia only.** -/
theorem moved_of_edited {s s' : String} (h : Edited s s') (clean : Clean (items s.toList)) :
    Moved .erase .erase .failure 0 0 (items s.toList) (items s'.toList) := by
  cases h with
  | comment before text after line ends =>
    have left : (before ++ after).toList = before.toList ++ after.toList := by simp
    have right : (before ++ " //" ++ text ++ after).toList =
        (before.toList ++ ' ' :: '/' :: '/' :: text.toList) ++ after.toList := by simp
    rw [left] at clean ⊢
    rw [right]
    exact moved_comment line ends clean 0
  | line before after note width begins isNote =>
    rcases begins with rfl | ⟨front, rfl⟩
    · have left : ("" ++ after).toList = after.toList := by simp
      have right : ("" ++ indented width note ++ "\n" ++ after).toList =
          (indented width note).toList ++ '\n' :: after.toList := by simp
      rw [left, right]
      exact moved_line isNote width rfl after.toList 0
    · have left : (front ++ "\n" ++ after).toList = front.toList ++ '\n' :: after.toList := by simp
      have right : (front ++ "\n" ++ indented width note ++ "\n" ++ after).toList =
          front.toList ++ '\n' :: ((indented width note).toList ++ '\n' :: after.toList) := by
        simp
      rw [left] at clean ⊢
      rw [right]
      exact moved_line_after isNote width clean 0

/-- What is read stays as it is after one edit. -/
theorem toText_of_edited {s s' : String} {limit : Nat} {e : Expr} (h : Edited s s')
    (read : parseWithin limit s = .ok e) :
    ∃ e', parseWithin limit s' = .ok e' ∧ e'.toText = e.toText := by
  have agrees : Parsed.Agrees .erase .erase .failure (parseWithin limit s) (parseWithin limit s') :=
    (moved_of_edited h (clean_of_parse read)).parseItems_agrees rfl fun texts => by cases texts
  generalize parseWithin limit s' = r' at agrees ⊢
  rw [read] at agrees
  cases agrees with
  | ok like => exact ⟨_, rfl, (Expr.toText_eq_of_mapSpans_eq like).symm⟩

/-- **Comments and blank lines change nothing.**  A source that is read is read after any edits, as
an expression with the same text. -/
theorem toText_of_edits {s s' : String} {limit : Nat} {e : Expr}
    (edits : Relation.ReflTransGen Edited s s') (read : parseWithin limit s = .ok e) :
    ∃ e', parseWithin limit s' = .ok e' ∧ e'.toText = e.toText := by
  induction edits with
  | refl => exact ⟨e, read, rfl⟩
  | tail _ edit ih =>
    obtain ⟨e', read', same⟩ := ih
    obtain ⟨e'', read'', same'⟩ := toText_of_edited edit read'
    exact ⟨e'', read'', same'.trans same⟩

/-- `toText_of_edits` for a comment where a body is to come, and a line more before the body. -/
theorem toText_of_edits_declaration : ∃ e e',
    parseWithin 8 "let x =\n  f 1\nx" = .ok e ∧
      parseWithin 8 "let x = // one\n   // two\n  f 1\nx" = .ok e' ∧ e'.toText = e.toText := by
  obtain ⟨e, read, -⟩ := exists_of_any (x := parseWithin 8 "let x =\n  f 1\nx")
    (p := fun _ => true) (by decide +kernel)
  have edits : Relation.ReflTransGen Edited "let x =\n  f 1\nx"
      "let x = // one\n   // two\n  f 1\nx" :=
    .tail (.single (.comment "let x =" " one" "\n  f 1\nx" (by decide) (.newline _)))
      (.line "let x = // one\n" "  f 1\nx" "// two" 3 (.inr ⟨"let x = // one", rfl⟩)
        (.comment " two" (by decide)))
  obtain ⟨e', read', same⟩ := toText_of_edits edits read
  exact ⟨e, e', read, read', same⟩

end Offside
