import Offside.Proofs.Extent
import Offside.Proofs.Nodes
import Offside.Proofs.Yield

/-!
# How far a declaration reaches

`Declares` says where a declaration stands among the items: its keyword, its name and its sign come
next to each other, and its value begins with the first significant item after them.  The value
begins to the right of the keyword, and `cut` says where it ends (`declaration_extent`).
-/

namespace Offside

/-! ### Declarations among items -/

/-- Where a declaration stands among the items: it begins with `keyword`, its name and its sign
come next, and `first` is the significant item after these, with `tail` behind it. -/
inductive Declares (items : List Item) : Expr → Item → Item → List Item → Prop
  /-- The parts of the declaration are what the items are. -/
  | intro {span nameSpan : Span} {word : Keyword} {name : String} {value : Expr}
      {keyword bound sign first : Item} {after tail : List Item}
      (suffix : keyword :: bound :: sign :: after <:+ items)
      (starts : keyword.span.start = span.start)
      (lexeme : keyword.lexeme = .token (.keyword word))
      (named : bound.lexeme = .token (.name name)) (place : bound.span = nameSpan)
      (assigned : sign.lexeme = .token (.operator "="))
      (next : significant after = first :: tail) :
      Declares items (.declaration span word name nameSpan value) keyword first tail

theorem Declares.of_suffix {xs ys : List Item} {e : Expr} {keyword first : Item}
    {tail : List Item} (h : Declares xs e keyword first tail) (hs : xs <:+ ys) :
    Declares ys e keyword first tail := by
  obtain ⟨suffix, starts, lexeme, named, place, assigned, next⟩ := h
  exact .intro (suffix.trans hs) starts lexeme named place assigned next

/-- A declaration stands in one place only. -/
theorem Declares.unique {items : List Item} {e : Expr} {keyword keyword' first first' : Item}
    {tail tail' : List Item} (h : Declares items e keyword first tail)
    (h' : Declares items e keyword' first' tail') (order : items.IsChain Item.Precedes) :
    keyword = keyword' ∧ first = first' ∧ tail = tail' := by
  obtain ⟨suffix, starts, -, -, -, -, next⟩ := h
  obtain ⟨suffix', starts', -, -, -, -, next'⟩ := h'
  have same := eq_of_start_eq order suffix suffix' (starts.trans starts'.symm)
  simp only [List.cons.injEq] at same
  obtain ⟨rfl, -, -, rfl⟩ := same
  rw [next] at next'
  obtain ⟨rfl, rfl⟩ := List.cons.inj next'
  exact ⟨rfl, rfl, rfl⟩

/-- The parts of a declaration that is read are where it stands. -/
theorem declares_of_parts {item bound sign first : Item} {word : Keyword} {name : String}
    {value : Expr} {skipped tail : List Item} (lexeme : item.lexeme = .token (.keyword word))
    (named : bound.lexeme = .token (.name name))
    (assigned : sign.lexeme = .token (.operator "="))
    (trivia : ∀ i ∈ skipped, i.isTrivia = true) (solid : first.isTrivia = false) :
    Declares (item :: bound :: sign :: (skipped ++ first :: tail))
      (.declaration (item.span.through value.span) word name bound.span value) item first tail := by
  refine .intro List.suffix_rfl rfl lexeme named rfl assigned ?_
  rw [significant_append trivia, significant_cons solid]

/-- The value of a declaration begins to the right of its keyword, and its tokens are the items
from there up to the one that `cut` ends at, without grouping parens. -/
def Expr.Indented (items : List Item) : Expr → Prop
  | .declaration span word spelling nameSpan value => ∃ keyword first tail,
    Declares items (.declaration span word spelling nameSpan value) keyword first tail ∧
      keyword.column < first.column ∧
      List.Forall₂ Mark.Describes value.yield
        (ungrouped (solid (cut first.column .outer (first :: tail)).1))
  | _ => True

theorem Expr.Indented.of_suffix {xs ys : List Item} {e : Expr} (h : e.Indented xs)
    (hs : xs <:+ ys) : e.Indented ys := by
  cases e with
  | declaration =>
    obtain ⟨keyword, first, tail, declares, others⟩ := h
    exact ⟨keyword, first, tail, declares.of_suffix hs, others⟩
  | _ => trivial

/-! ### The reach of each declaration -/

theorem Expr.Indented.of_leaf {item : Item} {e : Expr} (h : item.first = .leaf e)
    {items : List Item} : ∀ node ∈ e.nodes, node.Indented items := by
  obtain ⟨t, -, leaf⟩ := Item.fits_of_first h
  cases t <;> cases leaf <;> simp [Expr.nodes, Expr.Indented]

/-- That each declaration in what is read stands as it should; what an expression was before it
went on is taken as it was. -/
def Judgement.Indented : Judgement → Prop
  | expression _ _ used rest e | block _ _ _ used rest e =>
    ∀ node ∈ e.nodes, node.Indented (used ++ rest)
  | extension _ _ lhs used rest e =>
    ∀ node ∈ e.nodes, node ∈ lhs.nodes ∨ node.Indented (used ++ rest)
  | statements _ _ _ used rest es => ∀ node ∈ Expr.nodesAll es, node.Indented (used ++ rest)

/-- **Each declaration that is read reaches as far as columns say.** -/
theorem indented_of_derivable {j : Judgement} (h : Derivable j)
    (order : j.items.IsChain Item.Precedes) : j.Indented := by
  induction h with
  | stop => exact fun node hn => .inl hn
  | comment lexeme next ih =>
    intro node hn
    exact (ih order.tail node hn).imp_right fun h => h.of_suffix (List.suffix_cons ..)
  | continuation lexeme continues next ih =>
    intro node hn
    exact (ih order.tail node hn).imp_right fun h => h.of_suffix (List.suffix_cons ..)
  | @operator _ _ lhs rhs e item symbol used₁ used₂ rest lexeme accepted right next ihr ihn =>
    intro node hn
    rcases ihn (order.suffix Judgement.suffix_next) node hn with hl | hl
    · rw [Expr.nodes_infixed, List.mem_cons, List.mem_append] at hl
      rcases hl with rfl | hl | hl
      · exact .inr trivial
      · exact .inl hl
      · have indented := ihr (order.suffix Judgement.suffix_operand) node hl
        exact .inr (indented.of_suffix Judgement.suffix_operand)
    · exact .inr (hl.of_suffix Judgement.suffix_next)
  | @argument _ _ lhs rhs e item used₁ used₂ rest follow accepted right next ihr ihn =>
    intro node hn
    rcases ihn (order.suffix Judgement.suffix_next) node hn with hl | hl
    · rw [Expr.nodes_applied, List.mem_cons, List.mem_append] at hl
      rcases hl with rfl | hl | hl
      · exact .inr trivial
      · exact .inl hl
      · have indented := ihr (order.suffix Judgement.suffix_argument) node hl
        exact .inr (indented.of_suffix Judgement.suffix_argument)
    · exact .inr (hl.of_suffix Judgement.suffix_next)
  | leadingComment lexeme next ih =>
    exact fun node hn => (ih order.tail node hn).of_suffix (List.suffix_cons ..)
  | leadingNewline lexeme stays next ih =>
    exact fun node hn => (ih order.tail node hn).of_suffix (List.suffix_cons ..)
  | leaf first next ih =>
    intro node hn
    rcases ih order.tail node hn with hl | hl
    · exact .of_leaf first node hl
    · exact hl.of_suffix (List.suffix_cons ..)
  | @unit _ _ e opener close used rest opens closes next ih =>
    intro node hn
    rcases ih order.tail.tail node hn with hl | hl
    · obtain rfl := List.mem_singleton.1 hl
      trivial
    · exact hl.of_suffix ⟨[opener, close], rfl⟩
  | @group _ _ inner e opener close body skipped used rest opens content trivia closes next ihc
      ihn =>
    intro node hn
    rcases ihn (order.suffix Judgement.suffix_past_group) node hn with hl | hl
    · have indented := ihc (order.suffix Judgement.suffix_body) node hl
      exact indented.of_suffix Judgement.suffix_body
    · exact hl.of_suffix Judgement.suffix_past_group
  | @declaration _ _ value item bound sign first word name skipped used rest lexeme statement
      named assigned trivia solid' indented content ih =>
    have content_order := order.suffix Judgement.suffix_value
    intro node hn
    rw [Expr.nodes_declaration, List.mem_cons] at hn
    rcases hn with rfl | hn
    · obtain ⟨skipped', trivia', hrest, hcut⟩ := cut_of_block content content_order solid' rfl
      obtain ⟨-, hf⟩ := faithful_of_derivable content content_order
      have shape : item :: bound :: sign :: (skipped ++ first :: used) ++ rest =
          item :: bound :: sign :: (skipped ++ first :: (used ++ rest)) := by simp
      rw [Judgement.items, shape] at order
      rw [shape]
      refine ⟨item, first, used ++ rest, declares_of_parts lexeme named assigned trivia solid',
        keyword_column_lt order lexeme named assigned trivia indented, ?_⟩
      -- Up to trivia the cut is the block, whose items are what the value yields.
      rw [hcut, ← List.cons_append, solid_append, solid_eq_nil_iff.2 trivia', List.append_nil]
      exact hf.described
    · exact (ih content_order node hn).of_suffix Judgement.suffix_value
  | finish => exact fun node hn => by cases hn
  | @statement _ _ _ e es first skipped used₁ used₂ rest trivia _ deep content others ihc iho =>
    intro node hn
    rw [Expr.nodesAll_append, List.mem_append] at hn
    rcases hn with hn | hn
    · have indented := ihc (order.suffix Judgement.suffix_statement) node
        (Expr.mem_nodes_of_mem_statements hn)
      exact indented.of_suffix Judgement.suffix_statement
    · have indented := iho (order.suffix Judgement.suffix_others) node hn
      exact indented.of_suffix Judgement.suffix_others
  | @block _ _ _ e es used₁ used₂ rest first others ihf iho =>
    intro node hn
    rcases Expr.mem_nodes_sequence hn with ⟨span, rfl⟩ | hn | hn
    · trivial
    · have indented := ihf (order.suffix Judgement.suffix_block_first) node hn
      exact indented.of_suffix Judgement.suffix_block_first
    · have indented := iho (order.suffix Judgement.suffix_block_others) node hn
      exact indented.of_suffix Judgement.suffix_block_others

/-- **The reach of a declaration is decided by columns.**  A declaration of a source that is read
has its value begin to the right of its keyword, and the tokens of the value are the significant
items from there up to the first one outside all parens opened on the way that closes a paren or
begins a line further left. -/
theorem declaration_extent {limit : Nat} {source : String} {e : Expr} {span nameSpan : Span}
    {word : Keyword} {name : String} {value : Expr} (h : parseWithin limit source = .ok e)
    (hd : .declaration span word name nameSpan value ∈ e.nodes) :
    ∃ keyword first tail, Declares (items source.toList)
        (.declaration span word name nameSpan value) keyword first tail ∧
      keyword.column < first.column ∧
      List.Forall₂ Mark.Describes value.yield
        (ungrouped (solid (cut first.column .outer (first :: tail)).1)) := by
  rcases derivable_of_parse h with ⟨-, rfl⟩ | ⟨used, rest, hu, -, hb⟩
  · simp [Expr.nodes, Expr.nodesAll] at hd
  · have order : (used ++ rest).IsChain Item.Precedes := by
      rw [← hu]
      exact isChain_items _
    have indented := indented_of_derivable hb order _ hd
    rw [← hu] at indented
    exact indented

/-- `declaration_extent` for a value that goes on past a group over two lines. -/
theorem declaration_extent_group : ∃ e span word name nameSpan value,
    parseWithin 8 "let x =\n  f (a\n) b\nc" = .ok e ∧
      .declaration span word name nameSpan value ∈ e.nodes ∧
      ∃ keyword first tail, Declares (items "let x =\n  f (a\n) b\nc".toList)
          (.declaration span word name nameSpan value) keyword first tail ∧
        List.Forall₂ Mark.Describes value.yield
          (ungrouped (solid (cut first.column .outer (first :: tail)).1)) := by
  have declared : ((parseWithin 8 "let x =\n  f (a\n) b\nc").toOption.any fun e =>
      e.nodes.any Expr.isDeclaration) = true := by decide +kernel
  obtain ⟨e, h, hn⟩ := exists_of_any declared
  obtain ⟨node, hn, hd⟩ := List.any_eq_true.1 hn
  cases node with
  | declaration span word name nameSpan value =>
    obtain ⟨keyword, first, tail, declares, -, described⟩ := declaration_extent h hn
    exact ⟨e, span, word, name, nameSpan, value, h, hn, keyword, first, tail, declares, described⟩
  | _ => cases hd

end Offside
