import Mathlib.Data.List.Chain
import Offside.Proofs.Accord
import Offside.Proofs.Concatenation
import Offside.Proofs.Grammar
import Offside.Proofs.Spelling

/-!
# Continuation lines

A line that goes on with the one before it acts on all of that as if it were in parens: the two
lines and the one line with the first one in parens are read alike, as expressions with the same
text or for errors of the same kinds (`summary_continuation`).

What the grammar derives from the first line is read up to the line break or the closing paren
(`run_of_continuation`, `run_of_group`), and from there on the two runs are in accord, for items on
one line stand right of all levels wherever the line begins (`Accord.oneLine`).
-/

namespace Offside

/-! ### Items on one line -/

/-- That like items stand on one line, right of the column `l` in the one list and of `m` in the
other. -/
structure OneLine (f g : SpanMap) (l m : Nat) (xs ys : List Item) : Prop where
  /-- They are alike. -/
  alike : AlikeItems f g xs ys
  /-- No line break is among them. -/
  line : ∀ x ∈ xs, x.isNewline = false
  /-- The columns of the first list do not go back. -/
  left : (l :: xs.map Item.column).IsChain (· ≤ ·)
  /-- Nor do those of the second list. -/
  right : (m :: ys.map Item.column).IsChain (· ≤ ·)

namespace OneLine

variable {f g : SpanMap} {l m : Nat} {x y : Item} {xs ys : List Item}

theorem tail (h : OneLine f g l m (x :: xs) (y :: ys)) : OneLine f g l m xs ys where
  alike := (List.forall₂_cons.1 h.alike).2
  line := (List.forall_mem_cons.1 h.line).2
  left := h.left.sublist (.cons_cons _ (List.sublist_cons_self ..))
  right := h.right.sublist (.cons_cons _ (List.sublist_cons_self ..))

theorem drop (h : OneLine f g l m xs ys) (n : Nat) : OneLine f g l m (xs.drop n) (ys.drop n) := by
  induction n generalizing xs ys with
  | zero => exact h
  | succ n ih =>
    cases h.alike with
    | nil => exact h
    | cons => exact ih h.tail

/-- It holds past the trivia in front. -/
theorem significant (h : OneLine f g l m xs ys) :
    OneLine f g l m (significant xs) (Offside.significant ys) := by
  obtain ⟨n, hx, hy⟩ := h.alike.significant
  rw [hx, hy]
  exact h.drop n

/-- It holds of all columns further left. -/
theorem further_left (h : OneLine f g l m xs ys) : OneLine f g 0 0 xs ys where
  alike := h.alike
  line := h.line
  left := List.isChain_cons.2 ⟨fun _ _ => Nat.zero_le _, h.left.tail⟩
  right := List.isChain_cons.2 ⟨fun _ _ => Nat.zero_le _, h.right.tail⟩

/-- It holds of the columns of the first items. -/
theorem first (h : OneLine f g l m (x :: xs) (y :: ys)) :
    OneLine f g x.column y.column (x :: xs) (y :: ys) where
  alike := h.alike
  line := h.line
  left := List.isChain_cons_cons.2 ⟨Nat.le_refl _, h.left.tail⟩
  right := List.isChain_cons_cons.2 ⟨Nat.le_refl _, h.right.tail⟩

theorem not_crossesLine (h : OneLine f g l m xs ys) : crossesLine xs = false := by
  rw [Bool.eq_false_iff]
  intro crosses
  obtain ⟨nl, hn, newline⟩ := List.any_eq_true.1 crosses
  rw [h.line nl (List.takeWhile_subset _ hn)] at newline
  cases newline

/-- Nothing on one line depends on where blocks stand. -/
theorem abreast (h : OneLine f g l m xs ys) (d : Detail) (p : Layer) : Abreast d p xs ys where
  crosses := h.alike.crossesLine
  adjacent := by
    cases h.alike with
    | nil => rfl
    | cons same => rw [abuts_cons, abuts_cons, same.isTrivia]
  isEmpty _ := by cases h.alike <;> rfl
  places crosses := by rw [h.not_crossesLine] at crosses; cases crosses

end OneLine

/-- The blocks past an item are those before it, but for a group. -/
theorem Layer.Past.mem {item : Item} {ps qs : List Layer} {p : Layer} (h : Past item ps qs)
    (hp : p ∈ qs) : p ∈ Layer.group :: ps := by
  cases h with
  | plain => exact List.mem_cons_of_mem _ hp
  | opening => exact hp
  | closing => exact List.mem_cons_of_mem _ (List.mem_cons_of_mem _ hp)

/-- **Items on one line are in accord**, wherever they stand right of all blocks. -/
def Accord.oneLine (f g : SpanMap) : Accord f g .kinds where
  rel ps xs ys := ∀ p ∈ Layer.group :: ps, OneLine f g p.left p.right (significant xs)
    (significant ys)
  trivia h hx hy := by rwa [hx, hy]
  fronts := by
    intro p ps xs ys h
    have here := h p (by simp)
    generalize significant xs = us at here
    generalize significant ys = vs at here
    cases here.alike with
    | nil => exact .nil
    | cons alike =>
      have left := (List.isChain_cons_cons.1 here.left).1
      have right := (List.isChain_cons_cons.1 here.right).1
      exact .cons alike (by omega) fun texts => by cases texts
  enter := by
    intro ps xs ys x y tx ty h hx hy
    have group := h .group List.mem_cons_self
    rw [hx, hy] at h group ⊢
    refine List.forall_mem_cons.2 ⟨group, List.forall_mem_cons.2 ⟨group.first, ?_⟩⟩
    exact (List.forall_mem_cons.1 h).2
  leave h p hp := h p (by simp only [List.mem_cons] at hp ⊢; tauto)
  step := by
    intro ps q qs xs ys x y tx ty t h hx hy _ past
    rw [hx, hy] at h
    have group := (h .group List.mem_cons_self).tail
    refine ⟨List.forall_mem_cons.2 ⟨group.significant, fun p hp => ?_⟩, group.abreast _ q⟩
    exact (h p (past.mem hp)).tail.significant

/-- Items on one line are in accord where they begin. -/
theorem OneLine.accord {f g : SpanMap} {l m : Nat} {xs ys : List Item}
    (h : OneLine f g l m xs ys) : (Accord.oneLine f g).At (.block l m) [] xs ys where
  rel := by
    refine List.forall_mem_cons.2 ⟨h.further_left.significant, ?_⟩
    exact List.forall_mem_singleton.2 h.significant
  abreast := h.abreast _ _

/-! ### One line at two places -/

/-- The items of a line and those of the same line elsewhere. -/
theorem oneLine_itemsFrom {p q : Position} {text : List Char} {l m : Nat} (line : '\n' ∉ text)
    (hp : l ≤ p.column) (hq : m ≤ q.column) :
    OneLine .erase .erase l m (itemsFrom p text) (itemsFrom q text) := by
  refine ⟨(forall₂_itemsFrom p q text).imp fun a b h => ⟨h.lexeme, rfl⟩,
    not_isNewline_of_line line, ?_, ?_⟩
  · obtain ⟨right, chain⟩ := List.isChain_cons.1 (isChain_column (p := p) line)
    exact List.isChain_cons.2 ⟨fun c hc => Nat.le_trans hp (right c hc), chain⟩
  · obtain ⟨right, chain⟩ := List.isChain_cons.1 (isChain_column (p := q) line)
    exact List.isChain_cons.2 ⟨fun c hc => Nat.le_trans hq (right c hc), chain⟩

/-- What holds of what a text says holds of it anywhere. -/
theorem forall_itemsFrom (P : Lexeme → Prop) {p : Position} {text : List Char}
    (h : ∀ item ∈ itemsFrom p text, P item.lexeme) (q : Position) :
    ∀ item ∈ itemsFrom q text, P item.lexeme := by
  rw [← List.forall_mem_map, map_lexeme_itemsFrom q p, List.forall_mem_map]
  exact h

/-- What holds of the first thing a text says holds of it anywhere. -/
theorem forall_head?_itemsFrom (P : Lexeme → Prop) {p : Position} {text : List Char}
    (h : ∀ item ∈ (itemsFrom p text).head?, P item.lexeme) (q : Position) :
    ∀ item ∈ (itemsFrom q text).head?, P item.lexeme := by
  intro item hi
  have heads := congrArg List.head? (map_lexeme_itemsFrom p q text)
  rw [List.head?_map, List.head?_map, Option.mem_def.1 hi] at heads
  obtain ⟨first, hf, said⟩ := Option.map_eq_some_iff.1 heads
  exact said ▸ h first hf

/-- No trivia stand on a line without comments. -/
theorem noTrivia_of_line {p : Position} {text : List Char} (line : '\n' ∉ text)
    (comments : ∀ item ∈ itemsFrom p text, item.lexeme ≠ .token .comment) :
    NoTrivia (itemsFrom p text) := by
  intro item hi
  rw [Item.isTrivia, not_isNewline_of_line line item hi, Bool.or_false, beq_eq_false_iff_ne]
  exact comments item hi

theorem firstColumn_cons {item : Item} (h : item.isTrivia = false) (items : List Item) :
    firstColumn (item :: items) = item.column := by
  rw [firstColumn, significant_cons h]

/-- What the grammar derives from a line it derives from the line elsewhere. -/
theorem Derives.exists_alike {xs ys : List Item} {e : Expr}
    (h : Derives (.statement e) xs) (line : OneLine .erase .erase 0 0 xs ys)
    (noTrivia : NoTrivia xs) (noTrivia' : NoTrivia ys) :
    ∃ e', e.Alike .erase .erase e' ∧ Derives (.statement e') ys := by
  obtain ⟨item, tail, rfl, -⟩ := Phrase.starts_of_derives h
  have alike : AlikeItems .erase .erase (item :: tail) ys := line.alike
  cases alike with
  | @cons _ y _ ys same others =>
  have level : OneLine .erase .erase (firstColumn (item :: tail)) (firstColumn (y :: ys))
      (item :: tail) (y :: ys) := by
    rw [firstColumn_cons (noTrivia item (by simp)), firstColumn_cons (noTrivia' y (by simp))]
    exact line.first
  -- The line is read, so the line elsewhere is read alike and derived, too.
  have like : Parsed.Agrees .erase .erase .kinds (parseItems (tail.length + 2) 0 (item :: tail))
    (parseItems (tail.length + 2) 0 (y :: ys)) :=
      Accord.parseItems_agrees rfl rfl rfl level.accord.rel
  rw [parseItems_of_derives h (by simp)] at like
  generalize read : parseItems _ 0 (y :: ys) = r at like
  cases like with
  | @ok _ e' like =>
    rcases derives_of_parseItems noTrivia' read with ⟨none, -⟩ | ⟨e'', derived⟩
    · cases none
    · have fits : (y :: ys).length < tail.length + 2 := by simp [others.length_eq]
      obtain rfl : e'' = e' :=
        Except.ok.inj ((parseItems_of_derives derived fits).symm.trans read)
      exact ⟨e'', like, derived⟩

/-! ### The first line -/

section Reading

variable {limit sourceEnd room level : Nat} {xs us : List Item}

/-- Each operand stops before a line break. -/
theorem ChainTree.stopsAt_newline {t : ChainTree} {ctx : Context} {nl : Item}
    (newline : nl.lexeme = .token .newline) : t.StopsAt (nl :: us) ctx := by
  have follow : nl.follow = .newline := by simp [Item.follow, newline]
  induction t generalizing ctx with
  | operand => trivial
  | node link left right _ ih =>
    exact ⟨by simp [Context.stops, follow, Context.continues, Context.operand], ih⟩

/-- A chain is read up to the line that goes on with it. -/
theorem run_of_continuation {t : ChainTree} {nl : Item} (bound : t.WellBound)
    (h : ChainOf (ReadAs limit sourceEnd) t.flatten.1 t.flatten.2 xs) (fits : xs.length ≤ room)
    (newline : nl.lexeme = .token .newline)
    (continues : (Context.statement level false).continues us = true) :
    (expression limit sourceEnd (room + 1)).run (.statement level false) (xs ++ nl :: us) =
      (extend (expression limit sourceEnd room) (.statement level false) t.expr us).found := by
  have accepted : ∀ p ∈ t.flatten.2,
      (Context.statement level false).accepts p.1.binding = true := fun p _ =>
    Binding.bindsAbove_iff.2 (.inl p.1.binding_precedence_pos)
  have follow : nl.follow = .newline := by simp [Item.follow, newline]
  rw [expression_succ, term_of_chainOf bound h fits accepted (ChainTree.stopsAt_newline newline),
    extend_newline follow, if_pos continues]

/-- A statement in parens is read up to what follows the parens. -/
theorem run_of_group {opener close : Item} {e : Expr} (h : ReadAsStatement limit sourceEnd e xs)
    (fits : xs.length < room) (opens : opener.lexeme = .token (.opening .round))
    (closes : close.lexeme = .token (.closing .round)) :
    (expression limit sourceEnd (room + 1)).run (.statement level false)
        (opener :: (xs ++ close :: us)) =
      (extend (expression limit sourceEnd room) (.statement level false) e us).found := by
  have first : opener.first = .opening := by simp [Item.first, opens]
  rw [expression_succ, term, first]
  dsimp only
  rw [group_of_readAsStatement h closes fits]

end Reading

/-- **A line break and parens are read alike**: what the grammar derives from `xs` on the one side
and from `ys` on the other side is alike, and so are the lines after it. -/
theorem parseItems_continuation {limit end₁ end₂ : Nat} {xs ys us vs : List Item}
    {nl opener close : Item} {e e' : Expr} (h : Derives (.statement e) xs)
    (h' : Derives (.statement e') ys) (same : e.Alike .erase .erase e')
    (chain : ∀ item ∈ xs.head?, ∀ word, item.lexeme ≠ .token (.keyword word))
    (fits : xs.length + 1 < limit) (fits' : ys.length + 1 < limit)
    (newline : nl.lexeme = .token .newline) (opens : opener.lexeme = .token (.opening .round))
    (closes : close.lexeme = .token (.closing .round))
    (line : OneLine .erase .erase (firstColumn xs) opener.column us vs)
    (continues : (Context.statement (firstColumn xs) false).continues us = true) :
    Parsed.Agrees .erase .erase .kinds (parseItems limit end₁ (xs ++ nl :: us))
      (parseItems limit end₂ (opener :: (ys ++ close :: vs))) := by
  obtain ⟨room, rfl⟩ : ∃ room, limit = room + 1 := ⟨limit - 1, by omega⟩
  have read' : ReadAsStatement (room + 1) end₂ e' ys := Phrase.runs_of_derives h'
  obtain ⟨item, tail, rfl, start⟩ := Phrase.starts_of_derives h
  have level : firstColumn (item :: tail ++ nl :: us) = firstColumn (item :: tail) := by
    rw [List.cons_append, firstColumn_cons start.not_isTrivia, firstColumn_cons start.not_isTrivia]
  have level' : firstColumn (opener :: (ys ++ close :: vs)) = opener.column :=
    firstColumn_cons (Item.not_isTrivia_of_lexeme opens (by simp) (by simp)) _
  have run : Reading.Agrees .kinds (Outcome.Like .erase .erase)
      ((Accord.oneLine .erase .erase).rel [.block (firstColumn (item :: tail)) opener.column])
      (FoundIf (Layer.block (firstColumn (item :: tail)) opener.column = .group))
      ((expression (room + 1) end₁ (room + 1)).run (.statement (firstColumn (item :: tail)) false)
        (item :: tail ++ nl :: us))
      ((expression (room + 1) end₂ (room + 1)).run (.statement opener.column false)
        (opener :: (ys ++ close :: vs))) := by
    cases h with
    | declaration lexeme => exact absurd lexeme (chain _ rfl _)
    | @expression t _ derived bound =>
      have read : ChainOf (ReadAs (room + 1) end₁) t.flatten.1 t.flatten.2 (item :: tail) :=
        Phrase.runs_of_derives derived
      rw [run_of_continuation bound read (by omega) newline continues,
        run_of_group read' (by omega) opens closes]
      exact (Accord.extend_agrees (Accord.run_agrees (room + 1) end₁ end₂ room)
        (.statement 0 false) same line.accord).found.mono (fun rest => rest.1)
        fun ends => ⟨ends.1.1, ends.2⟩
  have content := Accord.block_agrees_of_run
    (Accord.run_agrees (room + 1) end₁ end₂ (room + 1)) run
  rw [Layer.left, Layer.right, ← level, ← level'] at content
  exact Accord.parseItems_agrees_of_block rfl content

/-! ### The text of the lines -/

/-- A line after some spaces. -/
def indented (width : Nat) (line : String) : String :=
  String.ofList (List.replicate width ' ') ++ line

/-- What is said of a source that is read or not: the text of the expression, or the kinds of the
error and of its causes. -/
def summary : Except ParseError Expr → Except (List String) String
  | .ok e => .ok e.toText
  | .error e => .error (e.chain.map ParseError.kind)

theorem Parsed.Agrees.summary_eq {f g : SpanMap} {r r' : Except ParseError Expr}
    (h : Agrees f g .kinds r r') : summary r = summary r' := by
  cases h with
  | ok like => exact congrArg Except.ok (Expr.toText_eq_of_mapSpans_eq like)
  | error agrees => exact congrArg Except.error (agrees.kinds (by simp))

/-- The items of two lines, of which each is indented. -/
theorem items_indented {cs : List Char} (quiet : Quiet (items cs)) (c k : Nat) (ds : List Char) :
    ∃ nl p q, nl.lexeme = .token .newline ∧ p.column = c ∧ q.column = k ∧
      items (List.replicate c ' ' ++ cs ++ '\n' :: (List.replicate k ' ' ++ ds)) =
        itemsFrom p cs ++ nl :: itemsFrom q ds := by
  have tokens : ∀ item ∈ itemsFrom .origin (List.replicate c ' ' ++ cs),
      ∃ t, item.lexeme = .token t := by
    rw [itemsFrom_indent]
    exact forall_itemsFrom (fun lexeme => ∃ t, lexeme = .token t)
      (fun item hi => (quiet item hi).imp fun _ h => h.1) _
  obtain ⟨nl, newline, all⟩ := itemsFrom_append_newline tokens (List.replicate k ' ' ++ ds)
  rw [itemsFrom_indent, itemsFrom_indent] at all
  refine ⟨nl, _, _, newline, (column_indent _ c).trans (Nat.zero_add c), ?_, all⟩
  rw [column_indent, Position.advanceAll_append]
  exact Nat.zero_add k

theorem itemsFrom_open (p : Position) (cs : List Char) : itemsFrom p ('(' :: cs) =
    ⟨.token (.opening .round), p, 1⟩ :: itemsFrom (p.advance '(') cs :=
  itemsFrom_of_scan (show scan '(' cs = some (.token (.opening .round) ['(']) from rfl) rfl

theorem itemsFrom_close (p : Position) (cs : List Char) : itemsFrom p (')' :: cs) =
    ⟨.token (.closing .round), p, 1⟩ :: itemsFrom (p.advance ')') cs :=
  itemsFrom_of_scan (show scan ')' cs = some (.token (.closing .round) [')']) from rfl) rfl

/-- The items of a line in parens and one after it. -/
theorem items_parens {cs : List Char} (quiet : Quiet (items cs)) (ds : List Char) :
    ∃ opener close p q, opener.lexeme = .token (.opening .round) ∧ opener.column = 0 ∧
      close.lexeme = .token (.closing .round) ∧
      items ('(' :: (cs ++ ')' :: ' ' :: ds)) =
        opener :: (itemsFrom p cs ++ close :: itemsFrom q ds) := by
  have inside : Quiet (itemsFrom (Position.origin.advance '(') cs) :=
    forall_itemsFrom (fun lexeme => ∃ t, lexeme = .token t ∧ t ≠ .comment) quiet _
  rw [items_eq_itemsFrom, itemsFrom_open,
    itemsFrom_append_separator isSeparator_close (by decide) inside, itemsFrom_close,
    itemsFrom_space]
  exact ⟨_, _, _, _, rfl, rfl, rfl, rfl⟩

/-- A line that does not begin with a blank begins with its first item. -/
theorem exists_itemsFrom_eq_cons {c : Char} (flush : Unicode.isBlank c = false) (cs : List Char)
    (p : Position) : ∃ s tail, scan c cs = some s ∧
      itemsFrom p (c :: cs) = Rest.itemOf p s :: tail := by
  cases hs : scan c cs with
  | none =>
    rw [(blank_of_scan_eq_none hs).1] at flush
    cases flush
  | some s =>
    obtain ⟨after, split⟩ := scan_isPrefix hs
    exact ⟨s, _, rfl, itemsFrom_of_scan hs split.symm⟩

theorem firstColumn_itemsFrom {c : Char} {cs : List Char} {p : Position}
    (flush : Unicode.isBlank c = false) (noTrivia : NoTrivia (itemsFrom p (c :: cs)))
    (tokens : ∀ item ∈ itemsFrom p (c :: cs), ∃ t, item.lexeme = .token t) :
    firstColumn (itemsFrom p (c :: cs)) = p.column := by
  obtain ⟨s, tail, scanned, all⟩ := exists_itemsFrom_eq_cons flush cs p
  rw [all] at noTrivia tokens ⊢
  obtain ⟨t, lexeme⟩ := tokens _ List.mem_cons_self
  rw [firstColumn_cons (noTrivia _ List.mem_cons_self), Item.column, Rest.itemOf,
    lead_of_token scanned lexeme]
  rfl

/-- A line whose first significant item is placed for it goes on with a statement. -/
theorem continues_itemsFrom {c k : Nat} {text : List Char} {first : Item} {q : Position}
    (line : '\n' ∉ text) (next : (significant (items text)).head? = some first)
    (column : q.column = k) (place : c < k ∨ k = c ∧ first.isOperator = true) :
    (Context.statement c false).continues (itemsFrom q text) = true := by
  have both : OneLine .erase .erase 0 k (significant (items text))
      (significant (itemsFrom q text)) :=
    (oneLine_itemsFrom line (Nat.zero_le _) (Nat.le_of_eq column.symm)).significant
  obtain ⟨tail, first'⟩ := List.head?_eq_some_iff.1 next
  rw [first'] at both
  generalize hy : significant (itemsFrom q text) = ys at both
  cases both.alike with
  | @cons _ y _ ys same =>
    have right : k ≤ y.column := (List.isChain_cons_cons.1 both.right).1
    rw [Context.continues_iff hy, ← same.isOperator]
    refine ⟨rfl, ?_⟩
    rcases place with further | ⟨rfl, operator⟩
    · exact .inl (Nat.lt_of_lt_of_le further right)
    · exact (Nat.lt_or_eq_of_le right).imp_right fun level => ⟨level.symm, operator⟩

/-- A line without comments that is read is derived by the grammar. -/
theorem exists_derives_of_line {limit : Nat} {line : String} {e : Expr}
    (flush : ∃ d ∈ line.toList.head?, Unicode.isBlank d = false)
    (noTrivia : NoTrivia (items line.toList)) (read : parseWithin limit line = .ok e) :
    ∃ e, Derives (.statement e) (items line.toList) := by
  refine (derives_of_parse noTrivia read).resolve_left fun none => ?_
  obtain ⟨d, hd, flush⟩ := flush
  obtain ⟨ds, text⟩ := List.head?_eq_some_iff.1 hd
  obtain ⟨s, tail, -, all⟩ := exists_itemsFrom_eq_cons flush ds .origin
  rw [text, items_eq_itemsFrom, all] at none
  cases none.1

/-- **A continuation line acts on all before it as if that were in parens.**  A line without
comments that is read, and whose first token is no keyword, goes on with the next line if that is
indented further, or as far and begins with an operator.  Then the two lines are read as the first
one in parens with the second one after it: as an expression with the same text, or for an error
whose chain is of the same kinds. -/
theorem summary_continuation {limit limit₀ c k : Nat} {l₀ l₁ : String} {e₀ : Expr} {first₁ : Item}
    (line₀ : '\n' ∉ l₀.toList) (line₁ : '\n' ∉ l₁.toList)
    (comments : ∀ item ∈ items l₀.toList, item.lexeme ≠ .token .comment)
    (flush : ∃ d ∈ l₀.toList.head?, Unicode.isBlank d = false)
    (read : parseWithin limit₀ l₀ = .ok e₀)
    (chain : ∀ item ∈ (items l₀.toList).head?, ∀ word, item.lexeme ≠ .token (.keyword word))
    (next : (significant (items l₁.toList)).head? = some first₁)
    (place : c < k ∨ k = c ∧ first₁.isOperator = true)
    (deep : (items l₀.toList).length + 1 < limit) :
    summary (parseWithin limit (indented c l₀ ++ "\n" ++ indented k l₁)) =
      summary (parseWithin limit ("(" ++ l₀ ++ ") " ++ l₁)) := by
  have noTrivia : ∀ r, NoTrivia (itemsFrom r l₀.toList) := fun r =>
    noTrivia_of_line line₀ (forall_itemsFrom (· ≠ .token .comment) comments r)
  obtain ⟨e, derived⟩ := exists_derives_of_line flush (noTrivia .origin) read
  have quiet : Quiet (items l₀.toList) := fun item hi =>
    (derived.token item hi).imp fun t lexeme => ⟨lexeme, fun hc => comments item hi (hc ▸ lexeme)⟩
  obtain ⟨nl, p, q, newline, hp, hq, left⟩ := items_indented quiet c k l₁.toList
  obtain ⟨opener, close, p', q', opens, hopener, closes, right⟩ := items_parens quiet l₁.toList
  -- The first line is derived at both places.
  obtain ⟨e₁, -, derived₁⟩ := derived.exists_alike
    (oneLine_itemsFrom line₀ (Nat.zero_le _) (Nat.zero_le p.column)) (noTrivia _) (noTrivia p)
  obtain ⟨e₂, same, derived₂⟩ := derived₁.exists_alike
    (oneLine_itemsFrom line₀ (Nat.zero_le _) (Nat.zero_le p'.column)) (noTrivia _) (noTrivia p')
  have column : firstColumn (itemsFrom p l₀.toList) = c := by
    obtain ⟨d, hd, flush⟩ := flush
    obtain ⟨ds, text⟩ := List.head?_eq_some_iff.1 hd
    have tokens := derived₁.token
    have solid := noTrivia p
    rw [text] at tokens solid ⊢
    exact (firstColumn_itemsFrom flush solid tokens).trans hp
  have chain' : ∀ item ∈ (itemsFrom p l₀.toList).head?, ∀ word,
      item.lexeme ≠ .token (.keyword word) :=
    forall_head?_itemsFrom (fun lexeme => ∀ word, lexeme ≠ .token (.keyword word)) chain p
  have length : ∀ r, (itemsFrom r l₀.toList).length = (items l₀.toList).length := fun r =>
    (forall₂_itemsFrom r .origin l₀.toList).length_eq
  have text_left : (indented c l₀ ++ "\n" ++ indented k l₁).toList =
      List.replicate c ' ' ++ l₀.toList ++ '\n' :: (List.replicate k ' ' ++ l₁.toList) := by
    simp [indented]
  have text_right : ("(" ++ l₀ ++ ") " ++ l₁).toList =
      '(' :: (l₀.toList ++ ')' :: ' ' :: l₁.toList) := by simp
  have within : c ≤ q.column := by rcases place with h | ⟨h, -⟩ <;> omega
  rw [parseWithin, parseWithin, text_left, text_right, left, right]
  refine (parseItems_continuation derived₁ derived₂ same chain' ?_ ?_ newline opens closes ?_
    ?_).summary_eq
  · rw [length]
    exact deep
  · rw [length]
    exact deep
  · rw [column, hopener]
    exact oneLine_itemsFrom line₁ within (Nat.zero_le _)
  · rw [column]
    exact continues_itemsFrom line₁ next hq place

/-- `summary_continuation` for an operator at the level of the line before, which binds tighter than
the one there. -/
theorem summary_continuation_operator : ∃ e e',
    parseWithin 8 (indented 2 "f 1 + x" ++ "\n" ++ indented 2 "* y") = .ok e ∧
      parseWithin 8 ("(" ++ "f 1 + x" ++ ") " ++ "* y") = .ok e' ∧ e.toText = e'.toText := by
  obtain ⟨_, read, -⟩ := exists_of_any (x := parseWithin 8 "f 1 + x") (p := fun _ => true)
    (by decide +kernel)
  obtain ⟨e, h, -⟩ := exists_of_any (p := fun _ => true)
    (x := parseWithin 8 (indented 2 "f 1 + x" ++ "\n" ++ indented 2 "* y")) (by decide +kernel)
  obtain ⟨e', h', -⟩ := exists_of_any (p := fun _ => true)
    (x := parseWithin 8 ("(" ++ "f 1 + x" ++ ") " ++ "* y")) (by decide +kernel)
  have first : (items "f 1 + x".toList).head? =
    some ⟨.token (.name "f"), ⟨0, 1, 0⟩, 1⟩ := by decide +kernel
  have next : (significant (items "* y".toList)).head? =
    some ⟨.token (.operator "*"), ⟨0, 1, 0⟩, 1⟩ := by decide +kernel
  have same : summary (parseWithin 8 (indented 2 "f 1 + x" ++ "\n" ++ indented 2 "* y")) =
      summary (parseWithin 8 ("(" ++ "f 1 + x" ++ ") " ++ "* y")) :=
    summary_continuation (by decide) (by decide) (by decide +kernel) ⟨'f', rfl, by decide⟩ read
      (by rw [first]; rintro item ⟨⟩ word; simp) next (.inr ⟨rfl, rfl⟩) (by decide +kernel)
  rw [h, h'] at same
  exact ⟨e, e', h, h', Except.ok.inj same⟩

end Offside
