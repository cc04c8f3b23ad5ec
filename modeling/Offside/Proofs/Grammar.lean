import Offside.Proofs.Precedence
import Offside.Proofs.Runs

/-!
# The grammar of a line

On one line there is no layout, and what the parser reads is a language with a grammar: a
statement is a declaration or a chain of operands, an operand is a leaf, a unit literal or a
statement in parens (`Derives`).  The expression of a chain is that of its well-bound tree.

* `Phrase.runs_of_derives`: what the grammar derives is read, and the result is its expression.
* `Judgement.parsed_of_derivable`: the grammar derives whatever is read.
* `parse_iff_derives`: so a line is read if and only if the grammar derives it.
-/

namespace Offside

/-! ### The grammar -/

/-- What the grammar has rules for. -/
inductive Phrase where
  /-- An operand of a chain. -/
  | primary (e : Expr)
  /-- A first operand, and each link with the operand after it. -/
  | chain (first : Expr) (others : List (Link × Expr))
  /-- A statement. -/
  | statement (e : Expr)

/-- How a link is written: an operator is one item, and an application none. -/
inductive Link.WrittenAs : Link → List Item → Prop
  /-- An operator. -/
  | operator {item : Item} {symbol : String} (lexeme : item.lexeme = .token (.operator symbol)) :
    WrittenAs (.operator symbol item.span) [item]
  /-- An application. -/
  | application : WrittenAs .application []

/-- The rules of the grammar. -/
inductive Derives : Phrase → List Item → Prop
  /-- A name, a number, a text or a truth value. -/
  | leaf {item : Item} {t : Token} {e : Expr} (lexeme : item.lexeme = .token t)
    (leaf : t.leaf? item.span = some e) : Derives (.primary e) [item]
  /-- The unit literal. -/
  | unit {opener close : Item} (opens : opener.lexeme = .token (.opening .round))
    (closes : close.lexeme = .token (.closing .round)) :
    Derives (.primary (.unit (opener.span.through close.span))) [opener, close]
  /-- A statement in parens. -/
  | group {opener close : Item} {e : Expr} {items : List Item}
    (opens : opener.lexeme = .token (.opening .round)) (content : Derives (.statement e) items)
    (closes : close.lexeme = .token (.closing .round)) :
    Derives (.primary e) (opener :: (items ++ [close]))
  /-- A chain of one operand. -/
  | single {e : Expr} {items : List Item} (operand : Derives (.primary e) items) :
    Derives (.chain e []) items
  /-- An operand linked to a chain. -/
  | link {first next : Expr} {others : List (Link × Expr)} {link : Link} {xs ls ys : List Item}
    (operand : Derives (.primary first) xs) (written : link.WrittenAs ls)
    (tail : Derives (.chain next others) ys) :
    Derives (.chain first ((link, next) :: others)) (xs ++ (ls ++ ys))
  /-- A chain, which stands for its well-bound tree. -/
  | expression {t : ChainTree} {items : List Item}
    (chain : Derives (.chain t.flatten.1 t.flatten.2) items) (bound : t.WellBound) :
    Derives (.statement t.expr) items
  /-- A declaration. -/
  | declaration {keyword bound sign : Item} {word : Keyword} {name : String} {value : Expr}
    {items : List Item} (lexeme : keyword.lexeme = .token (.keyword word))
    (named : bound.lexeme = .token (.name name))
    (assigned : sign.lexeme = .token (.operator "=")) (content : Derives (.statement value) items) :
    Derives (.statement (.declaration (keyword.span.through value.span) word name bound.span value))
      (keyword :: bound :: sign :: items)

/-! ### How phrases begin -/

/-- Whether an item can begin a phrase, as far as its token shows. -/
def Item.IsStart (item : Item) : Prop :=
  ∃ t, item.lexeme = .token t ∧ t ≠ .closing .round ∧ t ≠ .comment ∧ t ≠ .newline

theorem Item.IsStart.not_isTrivia {item : Item} (h : item.IsStart) : item.isTrivia = false := by
  obtain ⟨t, ht, -, hc, hn⟩ := h
  exact not_isTrivia_of_lexeme ht hc hn

theorem Item.IsStart.not_isClose {item : Item} (h : item.IsStart) : item.isClose = false := by
  obtain ⟨t, ht, hc, -, -⟩ := h
  simp [isClose_of_lexeme ht, hc]

theorem Item.isStart_of_follow {item : Item} (h : item.follow = .argument) : item.IsStart := by
  obtain ⟨t, lexeme, rfl | ⟨e, leaf⟩⟩ := fits_of_follow h
  · exact ⟨_, lexeme, by simp, by simp, by simp⟩
  · cases t <;> cases leaf <;> exact ⟨_, lexeme, by simp, by simp, by simp⟩

theorem Item.follow_of_opening {item : Item} (h : item.lexeme = .token (.opening .round)) :
    item.follow = .argument := by
  simp [follow, h]

/-- Whether items begin like an operand. -/
def StartsOperand (items : List Item) : Prop :=
  ∃ item tail, items = item :: tail ∧ item.follow = .argument

theorem StartsOperand.append {xs : List Item} (h : StartsOperand xs) (ys : List Item) :
    StartsOperand (xs ++ ys) := by
  obtain ⟨item, tail, rfl, hf⟩ := h
  exact ⟨item, tail ++ ys, rfl, hf⟩

/-- How the items of a phrase begin. -/
def Phrase.Starts : Phrase → List Item → Prop
  | primary _, items | chain _ _, items => StartsOperand items
  | statement _, items => ∃ item tail, items = item :: tail ∧ item.IsStart

theorem Phrase.starts_of_derives {phrase : Phrase} {items : List Item} (h : Derives phrase items) :
    phrase.Starts items := by
  induction h with
  | leaf lexeme leaf => exact ⟨_, _, rfl, Item.follow_of_leaf lexeme leaf⟩
  | unit opens => exact ⟨_, _, rfl, Item.follow_of_opening opens⟩
  | group opens => exact ⟨_, _, rfl, Item.follow_of_opening opens⟩
  | single _ ih => exact ih
  | link _ _ _ ih => exact StartsOperand.append ih _
  | expression _ _ ih =>
    obtain ⟨item, tail, rfl, hf⟩ := ih
    exact ⟨item, tail, rfl, Item.isStart_of_follow hf⟩
  | declaration lexeme => exact ⟨_, _, rfl, _, lexeme, by simp, by simp, by simp⟩

/-! ### Where an expression stops -/

section Reading

variable {inner : ExprParser} {limit sourceEnd room : Nat} {ctx : Context}

theorem extend_of_stops {lhs : Expr} {rest : List Item} (h : ctx.stops rest = true) :
    extend inner ctx lhs rest = .ok (lhs, rest) := by
  cases rest with
  | nil => exact extend_nil
  | cons item rest =>
    simp only [Context.stops] at h
    split at h
    · next hf =>
      have breaks : ctx.continues rest = false := by simpa using h
      simp [extend_newline hf, breaks]
    · next op hf =>
      have refused : ctx.accepts op.binding = false := by simpa using h
      simp [extend_operator hf, refused]
    · next hf =>
      have refused : ctx.accepts .application = false := by simpa using h
      simp [extend_argument hf, refused]
    · next hf => exact extend_closing hf
    · cases h
    · cases h

/-- A link joins the expression to an operand that is read. -/
theorem extend_of_link {lhs rhs : Expr} {link : Link} {ls items rest : List Item}
    (written : link.WrittenAs ls) (starts : StartsOperand items)
    (accepted : ctx.accepts link.binding = true)
    (right : inner.run (ctx.operand link.binding) items = .ok (.found rhs, rest)) :
    extend inner ctx lhs (ls ++ items) = extend inner ctx (link.join lhs rhs) rest := by
  cases written with
  | @operator item symbol lexeme =>
    have follow : item.follow = .operator (.ofSymbol symbol) := by simp [Item.follow, lexeme]
    have accepted : ctx.accepts (Operator.ofSymbol symbol).binding = true := accepted
    have right : inner.run (ctx.operand (Operator.ofSymbol symbol).binding) items =
      .ok (.found rhs, rest) := right
    rw [List.singleton_append, extend_operator follow, if_pos accepted, right]
    rfl
  | application =>
    obtain ⟨item, tail, rfl, follow⟩ := starts
    have accepted : ctx.accepts .application = true := accepted
    have right : inner.run (ctx.operand .application) (item :: tail) =
      .ok (.found rhs, rest) := right
    rw [List.nil_append, extend_argument follow, if_pos accepted, right]
    rfl

/-- That each operand on the right edge of a tree stops before `rest`. -/
def ChainTree.StopsAt (rest : List Item) : Context → ChainTree → Prop
  | _, operand _ => True
  | ctx, node link _ right => (ctx.operand link.binding).stops rest = true ∧
    right.StopsAt rest (ctx.operand link.binding)

/-- An operand stops before a link that does not enter its own. -/
theorem stops_of_not_enters {link outer : Link} {ls items : List Item}
    (written : link.WrittenAs ls) (starts : StartsOperand items)
    (h : link.enters outer = false) : (ctx.operand outer.binding).stops (ls ++ items) = true := by
  cases written with
  | @operator item symbol lexeme =>
    have follow : item.follow = .operator (.ofSymbol symbol) := by simp [Item.follow, lexeme]
    rw [List.singleton_append, Context.stops, follow]
    show (!Link.enters (.operator symbol item.span) outer) = true
    rw [h]
    rfl
  | application =>
    obtain ⟨item, tail, rfl, follow⟩ := starts
    rw [List.nil_append, Context.stops, follow]
    show (!Link.enters .application outer) = true
    rw [h]
    rfl

theorem ChainTree.stopsAt_of_not_enters {t : ChainTree} {link : Link} {ls items : List Item}
    (written : link.WrittenAs ls) (starts : StartsOperand items)
    (h : ∀ p ∈ t.flatten.2, link.enters p.1 = false) : t.StopsAt (ls ++ items) ctx := by
  induction t generalizing ctx with
  | operand => trivial
  | node root left right _ ih =>
    rw [flatten, List.forall_mem_append, List.forall_mem_cons] at h
    obtain ⟨-, hroot, hright⟩ := h
    exact ⟨stops_of_not_enters written starts hroot, ih hright⟩

/-- Whether items are where a statement in parens, or one outside them, can end. -/
def StatementEnds (isGrouped : Bool) (rest : List Item) : Prop :=
  rest = [] ∨ isGrouped = true ∧ ∃ close tail, rest = close :: tail ∧
    close.lexeme = .token (.closing .round)

theorem StatementEnds.stops {isGrouped : Bool} {rest : List Item}
    (h : StatementEnds isGrouped rest) (ctx : Context) : ctx.stops rest = true := by
  rcases h with rfl | ⟨-, close, tail, rfl, hc⟩
  · rfl
  · simp [Context.stops, Item.follow, hc]

theorem StatementEnds.stopsAt {isGrouped : Bool} {rest : List Item}
    (h : StatementEnds isGrouped rest) (t : ChainTree) : t.StopsAt rest ctx := by
  induction t generalizing ctx with
  | operand => trivial
  | node root left right _ ih => exact ⟨h.stops _, ih⟩

/-! ### What the grammar derives is read -/

/-- That the items are read as the operand `e`, whatever follows. -/
structure ReadAs (limit sourceEnd : Nat) (e : Expr) (items : List Item) : Prop where
  /-- They begin like an operand. -/
  starts : StartsOperand items
  /-- They are read up to what follows. -/
  run : ∀ (room : Nat) (ctx : Context) (rest : List Item), items.length ≤ room →
    term (expression limit sourceEnd room) sourceEnd ctx (items ++ rest) =
      (extend (expression limit sourceEnd room) ctx e rest).found

/-- That the items are a chain whose operands are as `p` says. -/
def ChainOf (p : Expr → List Item → Prop) (first : Expr) :
    List (Link × Expr) → List Item → Prop
  | [], items => p first items
  | (link, next) :: others, items => ∃ xs ls ys, items = xs ++ (ls ++ ys) ∧ p first xs ∧
    link.WrittenAs ls ∧ ChainOf p next others ys

/-- A chain comes apart at each of its links. -/
theorem ChainOf.split {p : Expr → List Item → Prop} {first next : Expr} {link : Link}
    {before after : List (Link × Expr)} {items : List Item}
    (h : ChainOf p first (before ++ (link, next) :: after) items) :
    ∃ xs ls ys, items = xs ++ (ls ++ ys) ∧ ChainOf p first before xs ∧ link.WrittenAs ls ∧
      ChainOf p next after ys := by
  induction before generalizing first items with
  | nil => exact h
  | cons q before ih =>
    obtain ⟨us, ms, vs, rfl, hfirst, hwritten, htail⟩ := h
    obtain ⟨xs, ls, ys, rfl, hbefore, hlink, hafter⟩ := ih htail
    exact ⟨us ++ (ms ++ xs), ls, ys, by simp, ⟨us, ms, xs, rfl, hfirst, hwritten, hbefore⟩,
      hlink, hafter⟩

theorem ChainOf.starts {first : Expr} {others : List (Link × Expr)} {items : List Item}
    (h : ChainOf (ReadAs limit sourceEnd) first others items) : StartsOperand items := by
  cases others with
  | nil => exact ReadAs.starts h
  | cons p others =>
    obtain ⟨xs, ls, ys, rfl, hfirst, -, -⟩ := h
    exact hfirst.starts.append _

theorem StartsOperand.length_pos {items : List Item} (h : StartsOperand items) :
    0 < items.length := by
  obtain ⟨item, tail, rfl, -⟩ := h
  exact Nat.succ_pos _

/-- **A chain is read as its well-bound tree**, if all its links are accepted and the right edge of
the tree stops before what follows. -/
theorem term_of_chainOf {t : ChainTree} (bound : t.WellBound) {items rest : List Item}
    (h : ChainOf (ReadAs limit sourceEnd) t.flatten.1 t.flatten.2 items)
    (fits : items.length ≤ room)
    (accepted : ∀ p ∈ t.flatten.2, ctx.accepts p.1.binding = true)
    (stops : t.StopsAt rest ctx) :
    term (expression limit sourceEnd room) sourceEnd ctx (items ++ rest) =
      (extend (expression limit sourceEnd room) ctx t.expr rest).found := by
  induction t generalizing items rest room ctx with
  | operand e => exact h.run room ctx rest fits
  | node link left right ihl ihr =>
    obtain ⟨hl, hr, wl, wr⟩ := bound
    obtain ⟨xs, ls, ys, rfl, hleft, written, hright⟩ := h.split
    obtain ⟨right_stops, right_edge⟩ := stops
    rw [ChainTree.flatten, List.forall_mem_append, List.forall_mem_cons] at accepted
    obtain ⟨left_accepted, link_accepted, -⟩ := accepted
    have starts := hright.starts.append rest
    have shape : xs ++ (ls ++ ys) ++ rest = xs ++ (ls ++ (ys ++ rest)) := by simp
    rw [shape]
    simp only [List.length_append] at fits
    have shorter : ys.length < room := by
      have pos := hleft.starts.length_pos
      omega
    have right_accepted : ∀ p ∈ right.flatten.2,
        (ctx.operand link.binding).accepts p.1.binding = true := wr.enters hr
    -- The operand on the right is read one level deeper.
    have right_read : (expression limit sourceEnd room).run (ctx.operand link.binding)
        (ys ++ rest) = .ok (.found right.expr, rest) := by
      cases room with
      | zero => cases shorter
      | succ room =>
        rw [expression_succ, ihr wr hright (Nat.le_of_lt_succ shorter) right_accepted right_edge,
          extend_of_stops right_stops]
        rfl
    rw [ihl wl hleft (by omega) left_accepted
      (ChainTree.stopsAt_of_not_enters written starts (wl.not_enters hl)),
      extend_of_link written starts link_accepted right_read]
    rfl

/-- That the items are read as a statement, where one can end. -/
structure ReadAsStatement (limit sourceEnd : Nat) (e : Expr) (items : List Item) : Prop where
  /-- They begin like a phrase. -/
  starts : ∃ item tail, items = item :: tail ∧ item.IsStart
  /-- They are read up to the end of the statement. -/
  run : ∀ (room level : Nat) (isGrouped : Bool) (rest : List Item),
    items.length ≤ room → StatementEnds isGrouped rest →
    term (expression limit sourceEnd room) sourceEnd (.statement level isGrouped)
      (items ++ rest) = .ok (.found e, rest)

/-- No statement follows where one can end. -/
theorem statementsAfter_of_ends {level : Nat} {isGrouped : Bool} {rest : List Item}
    (ends : StatementEnds isGrouped rest) :
    statementsAfter (expression limit sourceEnd (room + 1)) level isGrouped rest =
      .ok ([], rest) := by
  rw [statementsAfter_eq]
  rcases ends with rfl | ⟨hg, close, tail, rfl, hc⟩
  · rfl
  · have solid : close.isTrivia = false := Item.not_isTrivia_of_lexeme hc (by simp) (by simp)
    have first : close.first = .closing := by simp [Item.first, hc]
    rw [significant_cons solid]
    dsimp only
    split
    · rfl
    · simp [expression_succ, term, first, Context.statement, hg]

/-- A block of one statement is that statement. -/
theorem block_of_readAsStatement {e : Expr} {items rest : List Item}
    (h : ReadAsStatement limit sourceEnd e items) (fits : items.length < room)
    {isGrouped : Bool} (ends : StatementEnds isGrouped rest) (level : Nat) :
    block (expression limit sourceEnd room) level isGrouped (items ++ rest) =
      .ok (.found e, rest) := by
  cases room with
  | zero => cases fits
  | succ room =>
    rw [block, expression_succ, h.run room level isGrouped rest (Nat.le_of_lt_succ fits) ends]
    dsimp only
    rw [statementsAfter_of_ends ends]
    rfl

/-- That a phrase is read for what it is. -/
def Phrase.Runs (limit sourceEnd : Nat) : Phrase → List Item → Prop
  | primary e, items => ReadAs limit sourceEnd e items
  | chain first others, items => ChainOf (ReadAs limit sourceEnd) first others items
  | statement e, items => ReadAsStatement limit sourceEnd e items

theorem readAs_leaf {item : Item} {t : Token} {e : Expr} (lexeme : item.lexeme = .token t)
    (leaf : t.leaf? item.span = some e) : ReadAs limit sourceEnd e [item] := by
  refine ⟨⟨item, [], rfl, Item.follow_of_leaf lexeme leaf⟩, fun room ctx rest _ => ?_⟩
  rw [List.singleton_append, term, Item.first_of_leaf lexeme leaf]

theorem readAs_unit {opener close : Item} (opens : opener.lexeme = .token (.opening .round))
    (closes : close.lexeme = .token (.closing .round)) :
    ReadAs limit sourceEnd (.unit (opener.span.through close.span)) [opener, close] := by
  refine ⟨⟨opener, [close], rfl, Item.follow_of_opening opens⟩, fun room ctx rest _ => ?_⟩
  have first : opener.first = .opening := by simp [Item.first, opens]
  simp [term, first, group, closes]

theorem group_of_readAsStatement {opener close : Item} {e : Expr} {items rest : List Item}
    (content : ReadAsStatement limit sourceEnd e items)
    (closes : close.lexeme = .token (.closing .round))
    (fits : items.length < room) :
    group (expression limit sourceEnd room) opener (items ++ close :: rest) = .ok (e, rest) := by
  have ends : StatementEnds true (close :: rest) := .inr ⟨rfl, close, rest, rfl, closes⟩
  have body := block_of_readAsStatement content fits ends 0
  have solid : close.isTrivia = false := Item.not_isTrivia_of_lexeme closes (by simp) (by simp)
  obtain ⟨item, tail, rfl, t, lexeme, opens, -, -⟩ := content.starts
  have entered : group (expression limit sourceEnd room) opener (item :: tail ++ close :: rest) =
      groupBody (expression limit sourceEnd room) opener (item :: tail ++ close :: rest) := by
    rw [List.cons_append, group, lexeme]
    split
    · next h => exact absurd (Lexeme.token.inj h) opens
    · rfl
    · next h => cases h
  rw [entered, groupBody, body]
  dsimp only
  rw [closeGroup, significant_cons solid]
  dsimp only
  rw [closes]

theorem readAs_group {opener close : Item} {e : Expr} {items : List Item}
    (opens : opener.lexeme = .token (.opening .round))
    (content : ReadAsStatement limit sourceEnd e items)
    (closes : close.lexeme = .token (.closing .round)) :
    ReadAs limit sourceEnd e (opener :: (items ++ [close])) := by
  refine ⟨⟨opener, _, rfl, Item.follow_of_opening opens⟩, fun room ctx rest fits => ?_⟩
  have first : opener.first = .opening := by simp [Item.first, opens]
  have shape : opener :: (items ++ [close]) ++ rest = opener :: (items ++ close :: rest) := by simp
  have shorter : items.length < room := by
    simp only [List.length_cons, List.length_append] at fits
    omega
  rw [shape, term, first]
  dsimp only
  rw [group_of_readAsStatement content closes shorter]

theorem readAsStatement_chain {t : ChainTree} {items : List Item}
    (h : ChainOf (ReadAs limit sourceEnd) t.flatten.1 t.flatten.2 items) (bound : t.WellBound) :
    ReadAsStatement limit sourceEnd t.expr items := by
  obtain ⟨item, tail, hs, follow⟩ := h.starts
  refine ⟨⟨item, tail, hs, Item.isStart_of_follow follow⟩,
    fun room level isGrouped rest fits ends => ?_⟩
  have accepted : ∀ p ∈ t.flatten.2,
      (Context.statement level isGrouped).accepts p.1.binding = true := fun p _ =>
    Binding.bindsAbove_iff.2 (.inl p.1.binding_precedence_pos)
  rw [term_of_chainOf bound h fits accepted (ends.stopsAt t), extend_of_stops (ends.stops _)]
  rfl

/-- The value of a declaration on one line is the statement that follows its sign. -/
theorem initializer_of_readAsStatement {value : Expr} {items rest : List Item}
    (content : ReadAsStatement limit sourceEnd value items)
    (fits : items.length < room) {isGrouped : Bool}
    (ends : StatementEnds isGrouped rest) (level : Nat) (assignment : Span) :
    initializer (expression limit sourceEnd room) level isGrouped assignment (items ++ rest) =
      .ok (value, rest) := by
  have body := block_of_readAsStatement content fits ends
  obtain ⟨item, tail, rfl, start⟩ := content.starts
  have line : crossesLine (item :: tail ++ rest) = false := by
    simp [crossesLine, start.not_isTrivia]
  rw [initializer, List.cons_append, significant_cons start.not_isTrivia]
  dsimp only
  rw [← List.cons_append, line, Bool.false_and, if_neg Bool.false_ne_true, body]
  rfl

theorem readAsStatement_declaration {keyword bound sign : Item} {word : Keyword} {name : String}
    {value : Expr} {items : List Item} (lexeme : keyword.lexeme = .token (.keyword word))
    (named : bound.lexeme = .token (.name name))
    (assigned : sign.lexeme = .token (.operator "="))
    (content : ReadAsStatement limit sourceEnd value items) :
    ReadAsStatement limit sourceEnd
      (.declaration (keyword.span.through value.span) word name bound.span value)
      (keyword :: bound :: sign :: items) := by
  refine ⟨⟨keyword, _, rfl, _, lexeme, by simp, by simp, by simp⟩,
    fun room level isGrouped rest fits ends => ?_⟩
  have first : keyword.first = .keyword word := by simp [Item.first, lexeme]
  have shorter : items.length < room := by
    simp only [List.length_cons] at fits
    omega
  have value_read := initializer_of_readAsStatement content shorter ends keyword.column sign.span
  simp only [List.cons_append]
  rw [term, first]
  simp [Context.statement, declaration, expect, named, declaredName?, assigned, assignment?,
    value_read, Reading.found, Except.map]

/-- **What the grammar derives is read.** -/
theorem Phrase.runs_of_derives {phrase : Phrase} {items : List Item} (h : Derives phrase items) :
    phrase.Runs limit sourceEnd items := by
  induction h with
  | leaf lexeme leaf => exact readAs_leaf lexeme leaf
  | unit opens closes => exact readAs_unit opens closes
  | group opens _ closes ih => exact readAs_group opens ih closes
  | single _ ih => exact ih
  | link _ written _ ihf iht => exact ⟨_, _, _, rfl, ihf, written, iht⟩
  | expression _ bound ih => exact readAsStatement_chain ih bound
  | declaration lexeme named assigned _ ih =>
    exact readAsStatement_declaration lexeme named assigned ih

end Reading

/-! ### What is read is derived by the grammar -/

theorem Derives.append {first next : Expr} {before after : List (Link × Expr)} {link : Link}
    {xs ls ys : List Item} (h : Derives (.chain first before) xs) (written : link.WrittenAs ls)
    (h' : Derives (.chain next after) ys) :
    Derives (.chain first (before ++ (link, next) :: after)) (xs ++ (ls ++ ys)) := by
  induction before generalizing first xs with
  | nil =>
    cases h with
    | single operand => exact .link operand written h'
  | cons p before ih =>
    cases h with
    | link operand written' tail =>
      simp only [List.append_assoc]
      exact .link operand written' (ih tail)

/-- Every chain is a statement, since it has a well-bound tree. -/
theorem Derives.statement_of_chain {first : Expr} {others : List (Link × Expr)}
    {items : List Item} (h : Derives (.chain first others) items) :
    ∃ e, Derives (.statement e) items := by
  obtain ⟨flatten, bound⟩ := ChainTree.build_spec first others
  refine ⟨(ChainTree.build first others).expr, .expression ?_ bound⟩
  rwa [flatten]

/-- That the grammar derives what is read, if no trivia are in the way. -/
def Judgement.Parsed : Judgement → Prop
  | expression _ ctx used _ _ => (∃ first others, Derives (.chain first others) used) ∨
    ctx.isStatement = true ∧ ∃ e, Derives (.statement e) used
  | extension _ _ _ used _ _ => ∀ (first : Expr) (others : List (Link × Expr)) (items : List Item),
    Derives (.chain first others) items →
      ∃ first' others', Derives (.chain first' others') (items ++ used)
  | statements _ _ _ used rest _ => AtBreak (used ++ rest) → used = []
  | block _ _ _ used _ _ => ∃ e, Derives (.statement e) used

/-- A statement is derived wherever an expression in its place is. -/
theorem Judgement.Parsed.statement {room level : Nat} {isGrouped : Bool} {used rest : List Item}
    {e : Expr} (h : (expression room (.statement level isGrouped) used rest e).Parsed) :
    ∃ e, Derives (.statement e) used := by
  rcases h with ⟨first, others, hd⟩ | ⟨-, hd⟩
  · exact hd.statement_of_chain
  · exact hd

/-- An operand is a chain. -/
theorem Judgement.Parsed.chain {room : Nat} {ctx : Context} {binding : Binding}
    {used rest : List Item} {e : Expr}
    (h : (expression room (ctx.operand binding) used rest e).Parsed) :
    ∃ first others, Derives (.chain first others) used := by
  rcases h with hd | ⟨hs, -⟩
  · exact hd
  · cases hs

/-- Whether there are no trivia among items. -/
def NoTrivia (items : List Item) : Prop := ∀ i ∈ items, i.isTrivia = false

instance (items : List Item) : Decidable (NoTrivia items) :=
  inferInstanceAs (Decidable (∀ i ∈ items, i.isTrivia = false))

theorem NoTrivia.suffix {xs ys : List Item} (h : NoTrivia ys) (hs : xs <:+ ys) : NoTrivia xs :=
  fun i hi => h i (hs.subset hi)

theorem NoTrivia.eq_nil {skipped : List Item} (h : NoTrivia skipped)
    (trivia : ∀ i ∈ skipped, i.isTrivia = true) : skipped = [] := by
  refine List.eq_nil_iff_forall_not_mem.2 fun i hi => ?_
  have solid := h i hi
  rw [trivia i hi] at solid
  cases solid

/-- **The grammar derives whatever is read without trivia.** -/
theorem Judgement.parsed_of_derivable {j : Judgement} (h : Derivable j)
    (noTrivia : NoTrivia j.items) : j.Parsed := by
  induction h with
  | stop =>
    intro first others items hd
    rw [List.append_nil]
    exact ⟨first, others, hd⟩
  | @comment _ _ _ _ item _ _ lexeme =>
    -- Here and in the other cases that pass trivia, there are some against `noTrivia`.
    have solid := noTrivia item (by simp [items])
    simp [Item.isTrivia, lexeme] at solid
  | @continuation _ _ _ _ item _ _ lexeme =>
    have solid := noTrivia item (by simp [items])
    simp [Item.isTrivia, Item.isNewline, lexeme] at solid
  | @operator _ ctx lhs rhs e item symbol used₁ used₂ rest lexeme accepted right next ihr ihn =>
    intro first others us hd
    -- The chain so far, the operator and the chain of its operand are one chain.
    obtain ⟨next_first, next_others, hr⟩ :=
      (ihr (noTrivia.suffix Judgement.suffix_operand)).chain
    obtain ⟨first', others', he⟩ := ihn (noTrivia.suffix Judgement.suffix_next) _ _ _
      (hd.append (.operator lexeme) hr)
    exact ⟨first', others', by simpa using he⟩
  | @argument _ ctx lhs rhs e item used₁ used₂ rest follow accepted right next ihr ihn =>
    intro first others us hd
    obtain ⟨next_first, next_others, hr⟩ := (ihr (noTrivia.suffix Judgement.suffix_argument)).chain
    obtain ⟨first', others', he⟩ := ihn (noTrivia.suffix Judgement.suffix_next) _ _ _
      (hd.append .application hr)
    exact ⟨first', others', by simpa using he⟩
  | @leadingComment _ _ _ item _ _ lexeme =>
    have solid := noTrivia item (by simp [items])
    simp [Item.isTrivia, lexeme] at solid
  | @leadingNewline _ _ _ item _ _ lexeme =>
    have solid := noTrivia item (by simp [items])
    simp [Item.isTrivia, Item.isNewline, lexeme] at solid
  | @leaf _ ctx lhs e item used rest first next ih =>
    obtain ⟨t, lexeme, leaf⟩ := Item.fits_of_first first
    exact .inl (ih (noTrivia.suffix ⟨[item], by simp [items]⟩) _ _ _
      (.single (.leaf lexeme leaf)))
  | @unit _ ctx e opener close used rest opens closes next ih =>
    exact .inl (ih (noTrivia.suffix ⟨[opener, close], by simp [items]⟩) _ _ _
      (.single (.unit opens closes)))
  | @group _ ctx inner e opener close body skipped used rest opens content trivia closes next ihc
      ihn =>
    obtain ⟨e', hc⟩ := ihc (noTrivia.suffix Judgement.suffix_body)
    have none : NoTrivia skipped := fun i hi => noTrivia i (by simp [items, hi])
    obtain rfl := none.eq_nil trivia
    obtain ⟨first', others', hd⟩ := ihn
      (noTrivia.suffix ⟨opener :: (body ++ [close]), by simp [items]⟩) _ _ _
      (.single (.group opens hc closes))
    exact .inl ⟨first', others', by simpa using hd⟩
  | @declaration _ ctx value item bound sign first word name skipped used rest lexeme statement
      named assigned trivia solid indented content ih =>
    obtain ⟨e', hc⟩ := ih (noTrivia.suffix Judgement.suffix_value)
    have none : NoTrivia skipped := fun i hi => noTrivia i (by simp [items, hi])
    obtain rfl := none.eq_nil trivia
    exact .inr ⟨statement, _, .declaration lexeme named assigned hc⟩
  | finish => exact fun _ => rfl
  | @statement _ level _ e es first skipped used₁ used₂ rest trivia solid deep content others ihc
      iho =>
    intro atBreak
    obtain ⟨e', hc⟩ := (ihc (noTrivia.suffix Judgement.suffix_statement)).statement
    have none : NoTrivia skipped := fun i hi => noTrivia i (by simp [items, hi])
    obtain rfl := none.eq_nil trivia
    obtain ⟨item, tail, hs, start⟩ := Phrase.starts_of_derives hc
    obtain ⟨rfl, rfl⟩ := List.cons.inj hs
    -- No statement begins with what another one breaks off at.
    rcases atBreak first rfl with hn | hclose
    · rw [Item.isTrivia, hn, Bool.or_true] at solid
      cases solid
    · rw [start.not_isClose] at hclose
      cases hclose
  | @block _ level _ e es used₁ used₂ rest first others ihf iho =>
    obtain ⟨e', hf⟩ := (ihf (noTrivia.suffix Judgement.suffix_block_first)).statement
    have atBreak : AtBreak (used₂ ++ rest) := breaks_of_derivable first rfl rfl
    obtain rfl := iho (noTrivia.suffix Judgement.suffix_block_others) atBreak
    exact ⟨e', by simpa using hf⟩

/-! ### Whole sources -/

theorem Derives.token {phrase : Phrase} {items : List Item} (h : Derives phrase items) :
    ∀ item ∈ items, ∃ t, item.lexeme = .token t := by
  induction h with
  | leaf lexeme => simp [lexeme]
  | unit opens closes => simp [opens, closes]
  | group opens _ closes ih => simpa [opens, closes, or_imp, forall_and] using ih
  | single _ ih => exact ih
  | link _ written _ ihf iht =>
    cases written with
    | operator lexeme => simpa [lexeme, or_imp, forall_and] using ⟨ihf, iht⟩
    | application => simpa [or_imp, forall_and] using ⟨ihf, iht⟩
  | expression _ _ ih => exact ih
  | declaration lexeme named assigned _ ih => simpa [lexeme, named, assigned] using ih

theorem parseItems_of_derives {limit sourceEnd : Nat} {items : List Item} {e : Expr}
    (h : Derives (.statement e) items) (deep : items.length < limit) :
    parseItems limit sourceEnd items = .ok e := by
  have content : ReadAsStatement limit sourceEnd e items := Phrase.runs_of_derives h
  have read := block_of_readAsStatement content deep (.inl rfl : StatementEnds false [])
    (firstColumn items)
  rw [List.append_nil] at read
  rw [parseItems, read]
  rfl

theorem parseItems_nil {limit sourceEnd : Nat} (h : 0 < limit) :
    parseItems limit sourceEnd [] = .ok (.block (.emptyAt 0) []) := by
  obtain ⟨room, rfl⟩ := Nat.exists_eq_succ_of_ne_zero (Nat.ne_of_gt h)
  rw [parseItems, block_of_trivia rfl]
  rfl

/-- What is read without trivia is derived by the grammar, unless there is nothing. -/
theorem derives_of_parseItems {limit sourceEnd : Nat} {items : List Item} {e : Expr}
    (noTrivia : NoTrivia items) (h : parseItems limit sourceEnd items = .ok e) :
    (items = [] ∧ e = .block (.emptyAt 0) []) ∨ ∃ e', Derives (.statement e') items := by
  rcases derivable_of_parseItems h with ⟨hs, rfl⟩ | ⟨used, rest, rfl, hrest, hd⟩
  · exact .inl ⟨noTrivia.eq_nil (significant_eq_nil_iff.1 hs), rfl⟩
  · have none : NoTrivia rest := noTrivia.suffix ⟨used, rfl⟩
    obtain rfl := none.eq_nil (significant_eq_nil_iff.1 hrest)
    rw [List.append_nil] at noTrivia ⊢
    exact .inr (Judgement.parsed_of_derivable hd (by rwa [Judgement.items, List.append_nil]))

/-- `derives_of_parseItems` for the text of a source. -/
theorem derives_of_parse {limit : Nat} {source : String} {e : Expr}
    (noTrivia : NoTrivia (items source.toList)) (h : parseWithin limit source = .ok e) :
    (items source.toList = [] ∧ e = .block (.emptyAt 0) []) ∨
      ∃ e', Derives (.statement e') (items source.toList) :=
  derives_of_parseItems noTrivia h

/-- **A line is read if and only if the grammar derives it**, and then the result is what it is
derived as: a source without trivia and with fewer items than expressions may nest is read as `e`
if it has no lexical error, and either it is empty and `e` is the empty block, or the grammar
derives it as the statement `e`.  A chain in it stands for the only tree that is well bound. -/
theorem parse_iff_derives {limit : Nat} {source : String}
    (noTrivia : NoTrivia (items source.toList)) (deep : (items source.toList).length < limit) :
    (∀ e, parseWithin limit source = .ok e ↔
      (∀ item ∈ items source.toList, ∃ t, item.lexeme = .token t) ∧
        (items source.toList = [] ∧ e = .block (.emptyAt 0) [] ∨
          Derives (.statement e) (items source.toList))) ∧
    ∀ first others, ∃! t : ChainTree, t.flatten = (first, others) ∧ t.WellBound := by
  refine ⟨fun e => ⟨fun h => ?_, ?_⟩, ChainTree.existsUnique_flatten_wellBound⟩
  · rcases derives_of_parse noTrivia h with ⟨empty, rfl⟩ | ⟨e', hd⟩
    · exact ⟨by simp [empty], .inl ⟨empty, rfl⟩⟩
    · -- What is derived is read as what it is derived as, so that is the result.
      obtain rfl : e' = e :=
        Except.ok.inj ((parseItems_of_derives hd deep).symm.trans h)
      exact ⟨hd.token, .inr hd⟩
  · rintro ⟨-, ⟨empty, rfl⟩ | hd⟩
    · show parseItems limit _ (items source.toList) = _
      rw [empty]
      exact parseItems_nil (Nat.zero_lt_of_lt deep)
    · exact parseItems_of_derives hd deep

/-- `parse_iff_derives` for a declaration whose value has operators, an argument and a group. -/
theorem parse_iff_derives_declaration : ∃ e, parseWithin 16 "let x = f 1 + 2 ^ (a)" = .ok e ∧
    Derives (.statement e) (items "let x = f 1 + 2 ^ (a)".toList) := by
  obtain ⟨e, h, -⟩ := exists_of_any (x := parseWithin 16 "let x = f 1 + 2 ^ (a)")
    (p := fun _ => true) (by decide +kernel)
  have noTrivia : NoTrivia (items "let x = f 1 + 2 ^ (a)".toList) := by decide +kernel
  have deep : (items "let x = f 1 + 2 ^ (a)".toList).length < 16 := by decide +kernel
  obtain ⟨-, ⟨empty, -⟩ | hd⟩ := ((parse_iff_derives noTrivia deep).1 e).1 h
  · exact absurd empty (by decide +kernel)
  · exact ⟨e, h, hd⟩

end Offside
