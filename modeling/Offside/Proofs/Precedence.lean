import Mathlib.Logic.ExistsUnique
import Offside.Expr.Basic

/-!
# Chains of operands

A chain is a first operand and some links, each to one more operand.  A `ChainTree` says which
link joins what, and it is `WellBound` if each link has on its sides only operands and tighter
links, or such of its own precedence as group to that side.

A chain has just one tree that is well bound (`ChainTree.existsUnique_flatten_wellBound`).
`ChainTree.build` finds it: each link goes as deep into the right side of the tree as it binds
(`Link.enters`), and every well-bound tree is the one that is built from its own chain
(`ChainTree.build_flatten`).
-/

namespace Offside

/-! ### Links -/

/-- What stands between two operands of a chain. -/
inductive Link where
  /-- An operator, with the part of the source where it stands. -/
  | operator (symbol : String) (span : Span)
  /-- Nothing: the operand on the left is applied to the one on the right. -/
  | application

namespace Link

/-- How a link binds. -/
def binding : Link → Binding
  | operator symbol _ => .ofSymbol symbol
  | application => .application

/-- The expression of a link between two others. -/
def join : Link → Expr → Expr → Expr
  | operator symbol span, left, right => left.infixed (.ofSymbol symbol) span right
  | application, left, right => left.applied right

/-- Whether a link takes what is on the right of `outer` for its own left side. -/
def enters (link outer : Link) : Bool := link.binding.bindsAbove outer.binding.precedence

end Link

theorem Binding.ofSymbol_mem (symbol : String) :
    ofSymbol symbol ∈ application :: fallback :: table.map Prod.fst := by
  unfold ofSymbol lookup?
  cases h : table.find? fun entry => entry.2.contains symbol with
  | none => simp
  | some entry =>
    have hm : entry.1 ∈ table.map Prod.fst :=
      List.mem_map_of_mem (List.mem_of_find?_eq_some h)
    simp [hm]

namespace Link

theorem binding_mem (link : Link) :
    link.binding ∈ Binding.application :: Binding.fallback :: Binding.table.map Prod.fst := by
  cases link with
  | operator symbol => exact Binding.ofSymbol_mem symbol
  | application => exact List.mem_cons_self

/-- Links of one precedence group to one side. -/
theorem associativity_eq {k l : Link} (h : k.binding.precedence = l.binding.precedence) :
    k.binding.associativity = l.binding.associativity := by
  have uniform : ∀ a ∈ Binding.application :: Binding.fallback :: Binding.table.map Prod.fst,
      ∀ b ∈ Binding.application :: Binding.fallback :: Binding.table.map Prod.fst,
        a.precedence = b.precedence → a.associativity = b.associativity := by decide
  exact uniform _ k.binding_mem _ l.binding_mem h

theorem binding_precedence_pos (link : Link) : 0 < link.binding.precedence := by
  cases link with
  | operator symbol => exact Binding.ofSymbol_precedence_pos symbol
  | application => decide

theorem enters_iff {link outer : Link} : link.enters outer = true ↔
    outer.binding.precedence < link.binding.precedence ∨
      link.binding.precedence = outer.binding.precedence ∧ link.binding.associativity = .right :=
  Binding.bindsAbove_iff

/-- Of two links the one on the right enters the one on the left, or takes it for its left
side. -/
theorem not_enters_iff {link outer : Link} : link.enters outer = false ↔
    link.binding.precedence < outer.binding.precedence ∨
      outer.binding.precedence = link.binding.precedence ∧
        outer.binding.associativity = .left := by
  rw [← Bool.not_eq_true, enters_iff, not_or, Nat.not_lt]
  constructor
  · rintro ⟨hle, hr⟩
    rcases Nat.lt_or_eq_of_le hle with hlt | heq
    · exact .inl hlt
    · refine .inr ⟨heq.symm, ?_⟩
      rw [associativity_eq heq.symm]
      cases ha : link.binding.associativity with
      | left => rfl
      | right => exact absurd ⟨heq, ha⟩ hr
  · rintro (hlt | ⟨heq, ha⟩)
    · exact ⟨Nat.le_of_lt hlt, fun h => Nat.ne_of_lt hlt h.1⟩
    · refine ⟨Nat.le_of_eq heq.symm, fun h => ?_⟩
      rw [associativity_eq heq, h.2] at ha
      cases ha

end Link

/-! ### Trees of a chain -/

/-- Which links of a chain join what. -/
inductive ChainTree where
  /-- An operand by itself. -/
  | operand (e : Expr)
  /-- A link between what is on its left and on its right. -/
  | node (link : Link) (left right : ChainTree)

namespace ChainTree

/-- The expression that a tree stands for. -/
def expr : ChainTree → Expr
  | operand e => e
  | node link left right => link.join left.expr right.expr

/-- The chain of a tree: its first operand, and each link with the operand after it. -/
def flatten : ChainTree → Expr × List (Link × Expr)
  | operand e => (e, [])
  | node link left right =>
    (left.flatten.1, left.flatten.2 ++ (link, right.flatten.1) :: right.flatten.2)

/-- Whether a tree can stand on the left of a link: it is an operand, or its root binds tighter,
or as tight and groups to the left. -/
def FitsLeft (link : Link) : ChainTree → Prop
  | operand _ => True
  | node inner _ _ => link.binding.precedence < inner.binding.precedence ∨
    inner.binding.precedence = link.binding.precedence ∧ inner.binding.associativity = .left

/-- Whether a tree can stand on the right of a link: it is an operand, or its root binds tighter,
or as tight and groups to the right. -/
def FitsRight (link : Link) : ChainTree → Prop
  | operand _ => True
  | node inner _ _ => link.binding.precedence < inner.binding.precedence ∨
    inner.binding.precedence = link.binding.precedence ∧ inner.binding.associativity = .right

/-- Whether each link of a tree has on its sides what can stand there. -/
def WellBound : ChainTree → Prop
  | operand _ => True
  | node link left right =>
    left.FitsLeft link ∧ right.FitsRight link ∧ left.WellBound ∧ right.WellBound

theorem fitsLeft_node_iff {link inner : Link} {left right : ChainTree} :
    (node inner left right).FitsLeft link ↔ link.enters inner = false :=
  Link.not_enters_iff.symm

/-- Whether the root of a tree, if it has one, binds at least as tight as `floor`. -/
def RootFrom (floor : Nat) : ChainTree → Prop
  | operand _ => True
  | node link _ _ => floor ≤ link.binding.precedence

theorem FitsLeft.rootFrom {link : Link} {t : ChainTree} (h : t.FitsLeft link) :
    t.RootFrom link.binding.precedence := by
  cases t with
  | operand => trivial
  | node inner left right =>
    rcases h with hlt | ⟨heq, -⟩
    · exact Nat.le_of_lt hlt
    · exact Nat.le_of_eq heq.symm

theorem FitsRight.rootFrom {link : Link} {t : ChainTree} (h : t.FitsRight link) :
    t.RootFrom link.binding.precedence := by
  cases t with
  | operand => trivial
  | node inner left right =>
    rcases h with hlt | ⟨heq, -⟩
    · exact Nat.le_of_lt hlt
    · exact Nat.le_of_eq heq.symm

theorem RootFrom.mono {floor lower : Nat} {t : ChainTree} (h : t.RootFrom floor)
    (hle : lower ≤ floor) : t.RootFrom lower := by
  cases t with
  | operand => trivial
  | node => exact Nat.le_trans hle h

/-- The root of a well-bound tree binds loosest. -/
theorem WellBound.le_precedence {t : ChainTree} (h : t.WellBound) {floor : Nat}
    (root : t.RootFrom floor) : ∀ p ∈ t.flatten.2, floor ≤ p.1.binding.precedence := by
  induction t with
  | operand => exact List.forall_mem_nil _
  | node link left right ihl ihr =>
    obtain ⟨hl, hr, wl, wr⟩ := h
    refine List.forall_mem_append.2 ⟨ihl wl (hl.rootFrom.mono root), ?_⟩
    exact List.forall_mem_cons.2 ⟨root, ihr wr (hr.rootFrom.mono root)⟩

/-- All links of a tree that fits the right of a link enter it. -/
theorem WellBound.enters {t : ChainTree} (h : t.WellBound) {link : Link}
    (fits : t.FitsRight link) : ∀ p ∈ t.flatten.2, p.1.enters link = true := by
  cases t with
  | operand => exact List.forall_mem_nil _
  | node root left right =>
    intro p hp
    have hle := h.le_precedence (Nat.le_refl root.binding.precedence) p hp
    rw [Link.enters_iff]
    rcases fits with hlt | ⟨heq, hr⟩
    · exact .inl (Nat.lt_of_lt_of_le hlt hle)
    · rcases Nat.lt_or_eq_of_le hle with hlt | hpeq
      · exact .inl (heq ▸ hlt)
      · exact .inr ⟨hpeq.symm.trans heq, (Link.associativity_eq hpeq.symm).trans hr⟩

/-- A link enters none of those in a tree that fits its left. -/
theorem WellBound.not_enters {t : ChainTree} (h : t.WellBound) {link : Link}
    (fits : t.FitsLeft link) : ∀ p ∈ t.flatten.2, link.enters p.1 = false := by
  cases t with
  | operand => exact List.forall_mem_nil _
  | node root left right =>
    intro p hp
    have hle := h.le_precedence (Nat.le_refl root.binding.precedence) p hp
    rw [Link.not_enters_iff]
    rcases fits with hlt | ⟨heq, hl⟩
    · exact .inl (Nat.lt_of_lt_of_le hlt hle)
    · rcases Nat.lt_or_eq_of_le hle with hlt | hpeq
      · exact .inl (heq ▸ hlt)
      · exact .inr ⟨hpeq.symm.trans heq, (Link.associativity_eq hpeq.symm).trans hl⟩

/-! ### Building a tree -/

/-- The tree with one more link and operand on its right. -/
def insert (link : Link) (e : Expr) : ChainTree → ChainTree
  | operand x => node link (operand x) (operand e)
  | node inner left right =>
    if link.enters inner then node inner left (insert link e right)
    else node link (node inner left right) (operand e)

/-- The tree of a chain. -/
def build (first : Expr) (others : List (Link × Expr)) : ChainTree :=
  others.foldl (fun t p => t.insert p.1 p.2) (operand first)

theorem flatten_insert (t : ChainTree) (link : Link) (e : Expr) :
    (t.insert link e).flatten = (t.flatten.1, t.flatten.2 ++ [(link, e)]) := by
  induction t with
  | operand => rfl
  | node inner left right _ ih =>
    rw [insert]
    split
    · simp [flatten, ih]
    · simp [flatten]

theorem FitsRight.insert {t : ChainTree} {outer link : Link} (h : t.FitsRight outer)
    (enters : link.enters outer = true) (e : Expr) : (t.insert link e).FitsRight outer := by
  cases t with
  | operand => exact Link.enters_iff.1 enters
  | node inner left right =>
    rw [ChainTree.insert]
    split
    · exact h
    · exact Link.enters_iff.1 enters

theorem WellBound.insert {t : ChainTree} (h : t.WellBound) (link : Link) (e : Expr) :
    (t.insert link e).WellBound := by
  induction t with
  | operand => exact ⟨trivial, trivial, trivial, trivial⟩
  | node inner left right _ ih =>
    rw [ChainTree.insert]
    split
    · next enters =>
      obtain ⟨hl, hr, wl, wr⟩ := h
      exact ⟨hl, hr.insert enters e, wl, ih wr⟩
    · next stays =>
      exact ⟨fitsLeft_node_iff.2 (Bool.eq_false_iff.2 stays), trivial, h, trivial⟩

/-- What is built from a chain has that chain and is well bound. -/
theorem build_spec (first : Expr) (others : List (Link × Expr)) :
    (build first others).flatten = (first, others) ∧ (build first others).WellBound := by
  -- The tree that the links are put into changes along the way.
  have step : ∀ (ps : List (Link × Expr)) (t : ChainTree), t.WellBound →
      (ps.foldl (fun t p => t.insert p.1 p.2) t).flatten = (t.flatten.1, t.flatten.2 ++ ps) ∧
        (ps.foldl (fun t p => t.insert p.1 p.2) t).WellBound := by
    intro ps
    induction ps with
    | nil => exact fun t h => ⟨by simp, h⟩
    | cons p ps ih =>
      intro t h
      obtain ⟨hf, hw⟩ := ih (t.insert p.1 p.2) (h.insert p.1 p.2)
      refine ⟨?_, hw⟩
      rw [List.foldl_cons, hf, flatten_insert, List.append_assoc, List.singleton_append]
  exact step others (operand first) trivial

theorem insert_of_fitsLeft {t : ChainTree} {link : Link} (h : t.FitsLeft link) (e : Expr) :
    t.insert link e = node link t (operand e) := by
  cases t with
  | operand => rfl
  | node inner left right => simp [insert, fitsLeft_node_iff.1 h]

theorem foldl_insert_node {outer : Link} {left : ChainTree} {ps : List (Link × Expr)}
    (enters : ∀ p ∈ ps, p.1.enters outer = true) (t : ChainTree) :
    ps.foldl (fun t p => t.insert p.1 p.2) (node outer left t) =
      node outer left (ps.foldl (fun t p => t.insert p.1 p.2) t) := by
  induction ps generalizing t with
  | nil => rfl
  | cons p ps ih =>
    obtain ⟨hp, hps⟩ := List.forall_mem_cons.1 enters
    rw [List.foldl_cons, List.foldl_cons, insert, if_pos hp, ih hps]

/-- **A well-bound tree is the one built from its chain.** -/
theorem build_flatten {t : ChainTree} (h : t.WellBound) :
    build t.flatten.1 t.flatten.2 = t := by
  induction t with
  | operand => rfl
  | node link left right ihl ihr =>
    obtain ⟨hl, hr, wl, wr⟩ := h
    have ihl := ihl wl
    have ihr := ihr wr
    rw [build] at ihl ihr
    rw [flatten, build, List.foldl_append, ihl, List.foldl_cons, insert_of_fitsLeft hl,
      foldl_insert_node (wr.enters hr), ihr]

/-- **A chain has just one well-bound tree.** -/
theorem existsUnique_flatten_wellBound (first : Expr) (others : List (Link × Expr)) :
    ∃! t : ChainTree, t.flatten = (first, others) ∧ t.WellBound := by
  refine ⟨build first others, build_spec first others, ?_⟩
  rintro t ⟨hf, hw⟩
  have built := build_flatten hw
  rw [hf] at built
  exact built.symm

end ChainTree

end Offside
