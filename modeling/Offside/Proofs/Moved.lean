import Offside.Proofs.Accord

/-!
# Items moved to the right

Items that are moved to the right, all by as many columns, are read as before, whatever becomes of
the trivia between them as long as it is `Spaced` alike (`Accord.moved`, `Moved.parseItems_agrees`).
The level of a group is 0 and does not move with them, so what lies in parens must not stand at
column 0 (`Sheltered`), but for the paren that closes the group and lexical errors.

Nothing is said of what follows a lexical error or a paren that closes nothing, for no run gets
there.
-/

namespace Offside

/-- That an item in `depth` open parens does not stand at their level, unless it ends their block
anyhow. -/
def Item.Sheltered (depth : Nat) (item : Item) : Prop :=
  0 < depth → item.column = 0 → item.isClose = true ∨ ∃ c, item.lexeme = .error c

/-- That an item stays in its column, and says the same at a span that two maps make equal. -/
structure Item.Stays (f g : SpanMap) (a b : Item) : Prop extends Item.Alike f g a b where
  /-- It stands in the same column. -/
  column : a.column = b.column

/-- That the significant items of two lists, which begin in `depth` open parens, are alike and those
of the second list are moved to the right by `k` columns. -/
inductive Moved (f g : SpanMap) (d : Detail) (k : Nat) : Nat → List Item → List Item → Prop
  /-- There are none. -/
  | nil {depth : Nat} {xs ys : List Item} (hx : significant xs = []) (hy : significant ys = []) :
    Moved f g d k depth xs ys
  /-- Both lists have one, and after a token there are more. -/
  | cons {depth : Nat} {xs ys tx ty : List Item} {x y : Item} (hx : significant xs = x :: tx)
    (hy : significant ys = y :: ty) (alike : Item.Alike f g x y)
    (column : y.column = x.column + k)
    (line : d = .texts → x.position.line = y.position.line)
    (sheltered : k = 0 ∨ x.Sheltered depth)
    (spaced : ∀ t after, x.lexeme = .token t → parens depth x = some after → Spaced d tx ty)
    (next : ∀ t after, x.lexeme = .token t → parens depth x = some after →
      Moved f g d k after tx ty) : Moved f g d k depth xs ys

namespace Moved

variable {f g : SpanMap} {d : Detail} {k depth : Nat} {xs ys xs' ys' : List Item} {x y : Item}

theorem trivia (h : Moved f g d k depth xs ys) (hx : significant xs' = significant xs)
    (hy : significant ys' = significant ys) : Moved f g d k depth xs' ys' := by
  cases h with
  | nil nx ny => exact .nil (hx.trans nx) (hy.trans ny)
  | cons cx cy alike column line sheltered spaced next =>
    exact .cons (hx.trans cx) (hy.trans cy) alike column line sheltered spaced next

/-- Items that begin with trivia are moved if those after it are. -/
theorem cons_of_trivia (h : Moved f g d k depth xs ys) (hx : x.isTrivia = true)
    (hy : y.isTrivia = true) : Moved f g d k depth (x :: xs) (y :: ys) :=
  h.trivia (significant_cons_of_trivia hx xs) (significant_cons_of_trivia hy ys)

/-- **Like items may be put in front of moved ones**, moved as well unless they are trivia. -/
theorem cons_cons (alike : Item.Alike f g x y)
    (column : x.isTrivia = false → y.column = x.column + k)
    (line : x.isTrivia = false → d = .texts → x.position.line = y.position.line)
    (sheltered : x.isTrivia = false → k = 0 ∨ x.Sheltered depth)
    (rest : ∀ t after, x.lexeme = .token t → parens depth x = some after →
      Moved f g d k after xs ys ∧ Spaced d xs ys) :
    Moved f g d k depth (x :: xs) (y :: ys) ∧ Spaced d (x :: xs) (y :: ys) := by
  obtain trivia | solid := Bool.eq_false_or_eq_true x.isTrivia
  · obtain ⟨t, lexeme⟩ := Item.token_of_trivia trivia
    have trivia' := alike.isTrivia ▸ trivia
    obtain ⟨moved, spaced⟩ := rest t depth lexeme (parens_of_isTrivia trivia depth)
    refine ⟨moved.cons_of_trivia trivia trivia', ?_⟩
    obtain newline | comment := Bool.eq_false_or_eq_true x.isNewline
    · exact .newline newline (alike.isNewline ▸ newline)
    · exact spaced.comment trivia trivia' comment (alike.isNewline ▸ comment)
  · have solid' := alike.isTrivia ▸ solid
    exact ⟨.cons (significant_cons solid xs) (significant_cons solid' ys) alike (column solid)
        (line solid) (sheltered solid) (fun t after lexeme past => (rest t after lexeme past).2)
        fun t after lexeme past => (rest t after lexeme past).1,
      .cons solid solid'⟩

/-- **Items that stay in their columns** may be put in front of others that do. -/
theorem append {items items' : List Item} (stays : List.Forall₂ (Item.Stays f g) items items')
    (hd : d ≠ .texts) (rest : ∀ depth, Moved f g d 0 depth xs ys ∧ Spaced d xs ys) (depth : Nat) :
    Moved f g d 0 depth (items ++ xs) (items' ++ ys) ∧ Spaced d (items ++ xs) (items' ++ ys) := by
  induction stays generalizing depth with
  | nil => exact rest depth
  | cons same _ ih =>
    exact cons_cons same.toAlike (fun _ => same.column.symm) (fun _ texts => absurd texts hd)
      (fun _ => .inl rfl) fun _ after _ _ => ih after

theorem of_stays {items items' : List Item} (stays : List.Forall₂ (Item.Stays f g) items items')
    (hd : d ≠ .texts) (depth : Nat) :
    Moved f g d 0 depth items items' ∧ Spaced d items items' := by
  have whole := append stays hd (fun _ => ⟨.nil rfl rfl, .nil⟩) depth
  rwa [List.append_nil, List.append_nil] at whole

theorem significant_eq_nil (h : Moved f g d k depth xs ys) (hx : significant xs = []) :
    significant ys = [] := by
  cases h with
  | nil _ hy => exact hy
  | cons cx => rw [hx] at cx; cases cx

/-- The first items are moved as far, if there are any. -/
theorem firstColumn (h : Moved f g d k depth xs ys) :
    Offside.firstColumn ys = Offside.firstColumn xs + k ∨
      significant xs = [] ∧ significant ys = [] := by
  cases h with
  | nil hx hy => exact .inr ⟨hx, hy⟩
  | cons hx hy _ column =>
    left
    rw [Offside.firstColumn, Offside.firstColumn, hx, hy]
    exact column

end Moved

/-! ### Blocks of moved items -/

namespace Layer

/-- How many of the blocks are groups. -/
def depth : List Layer → Nat
  | [] => 0
  | .block _ _ :: layers => depth layers
  | .group :: layers => depth layers + 1

/-- That a block is moved to the right by `k` columns, unless it is a group. -/
def MovedBy (k : Nat) : Layer → Prop
  | block left right => right = left + k
  | group => True

theorem Past.parens {item : Item} {ps qs : List Layer} (h : Past item ps qs) :
    parens (depth ps) item = some (depth qs) := by
  cases h with
  | plain h => exact parens_of_not_isParen h _
  | opening h => exact parens_of_isOpen h _
  | closing h => exact parens_succ_of_isClose h _

theorem Past.movedBy {item : Item} {ps qs : List Layer} {k : Nat} (h : Past item ps qs)
    (moved : ∀ p ∈ ps, p.MovedBy k) : ∀ p ∈ qs, p.MovedBy k := by
  cases h with
  | plain => exact moved
  | opening => exact List.forall_mem_cons.2 ⟨trivial, moved⟩
  | closing => exact (List.forall_mem_cons.1 moved).2

end Layer

variable {f g : SpanMap} {d : Detail} {k : Nat}

/-- Items that are moved stand alike to the innermost block. -/
theorem Layer.places_of_moved {p : Layer} {ps : List Layer} {x y : Item} (moved : p.MovedBy k)
    (column : y.column = x.column + k) (sheltered : k = 0 ∨ x.Sheltered (depth (p :: ps))) :
    p.Places x y := by
  cases p with
  | block l m =>
    have right : m = l + k := moved
    show l < x.column ↔ m < y.column
    omega
  | group =>
    by_cases flush : x.column = 0
    · rcases sheltered with rfl | sheltered
      · exact .inl (by omega)
      · exact .inr ((sheltered (Nat.succ_pos _) flush).imp_right fun error => ⟨flush, error⟩)
    · exact .inl (by omega)

theorem Moved.abreast {p : Layer} {ps : List Layer} {xs ys : List Item}
    (h : Moved f g d k (Layer.depth (p :: ps)) xs ys) (spaced : Spaced d xs ys)
    (moved : p.MovedBy k) : Abreast d p xs ys := by
  refine ⟨spaced, fun _ x y tx ty hx hy => ?_⟩
  cases h with
  | nil nx => rw [hx] at nx; cases nx
  | cons cx cy _ column _ sheltered =>
    obtain ⟨rfl, -⟩ := List.cons.inj (hx.symm.trans cx)
    obtain ⟨rfl, -⟩ := List.cons.inj (hy.symm.trans cy)
    exact Layer.places_of_moved moved column sheltered

/-- **Moved items are in accord**; where all texts of errors are to agree, they are not moved. -/
def Accord.moved (f g : SpanMap) (d : Detail) (k : Nat) (still : d = .texts → k = 0) :
    Accord f g d where
  rel ps xs ys := Moved f g d k (Layer.depth ps) xs ys ∧ ∀ p ∈ ps, p.MovedBy k
  trivia h hx hy := ⟨h.1.trivia hx hy, h.2⟩
  fronts := by
    rintro p ps xs ys ⟨h, moved⟩
    cases h with
    | nil hx hy => rw [hx, hy]; exact .nil
    | @cons _ _ _ tx ty x y hx hy alike column line =>
      rw [hx, hy]
      refine .cons alike ?_ fun texts _ => ⟨line texts, ?_⟩
      · have right := (List.forall_mem_cons.1 moved).1
        cases p with
        | block l m =>
          have right : m = l + k := right
          show x.column < l ↔ y.column < m
          omega
        | group => exact iff_of_false (Nat.not_lt_zero _) (Nat.not_lt_zero _)
      · have := still texts
        simp only [Item.column] at column
        omega
  enter := by
    rintro ps xs ys x y tx ty ⟨h, moved⟩ hx hy
    refine ⟨h, List.forall_mem_cons.2 ⟨?_, moved⟩⟩
    cases h with
    | nil nx => rw [hx] at nx; cases nx
    | cons cx cy alike column =>
      obtain ⟨rfl, rfl⟩ := List.cons.inj (hx.symm.trans cx)
      obtain ⟨rfl, rfl⟩ := List.cons.inj (hy.symm.trans cy)
      exact column
  leave h := ⟨h.1, (List.forall_mem_cons.1 h.2).2⟩
  step := by
    rintro ps q qs xs ys x y tx ty t ⟨h, moved⟩ hx hy lexeme past
    cases h with
    | nil nx => rw [hx] at nx; cases nx
    | cons cx cy alike column line sheltered spaced next =>
      obtain ⟨rfl, rfl⟩ := List.cons.inj (hx.symm.trans cx)
      obtain ⟨rfl, rfl⟩ := List.cons.inj (hy.symm.trans cy)
      have tail := next t _ lexeme past.parens
      have inside := past.movedBy moved
      exact ⟨⟨tail, inside⟩, tail.abreast (spaced t _ lexeme past.parens)
        (inside q List.mem_cons_self)⟩

/-- **Items that are moved to the right are read so that they agree.** -/
theorem Moved.parseItems_agrees {limit end₁ end₂ : Nat} {xs ys : List Item}
    (origin : f.apply (.emptyAt 0) = g.apply (.emptyAt 0)) (still : d = .texts → k = 0)
    (h : Moved f g d k 0 xs ys) :
    Parsed.Agrees f g d (parseItems limit end₁ xs) (parseItems limit end₂ ys) := by
  rcases h.firstColumn with column | ⟨hx, hy⟩
  · have related : (Accord.moved f g d k still).rel
        [.block (Offside.firstColumn xs) (Offside.firstColumn ys)] xs ys :=
      ⟨h, List.forall_mem_singleton.2 column⟩
    exact Accord.parseItems_agrees origin rfl rfl related
  · have related : (Accord.moved f g d k still).rel [.group] xs ys :=
      ⟨.nil hx hy, List.forall_mem_singleton.2 trivial⟩
    exact Accord.parseItems_agrees origin (by rw [Offside.firstColumn, hx]; rfl)
      (by rw [Offside.firstColumn, hy]; rfl) related

end Offside
