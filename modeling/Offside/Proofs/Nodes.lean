import Offside.Expr.Basic

/-!
# The nodes of an expression

`Expr.nodes` lists an expression and all those inside it, each before its parts.  The lemmas say
what the nodes are of the expressions that the parser builds.
-/

namespace Offside

mutual

/-- The expression itself and all expressions inside it, each before its parts. -/
def Expr.nodes : Expr → List Expr
  | .name span spelling => [.name span spelling]
  | .unit span => [.unit span]
  | .number span spelling => [.number span spelling]
  | .text span value => [.text span value]
  | .bool span value => [.bool span value]
  | .block span statements => .block span statements :: nodesAll statements
  | .declaration span keyword bound boundSpan value =>
    .declaration span keyword bound boundSpan value :: value.nodes
  | .binary span operator operatorSpan left right =>
    .binary span operator operatorSpan left right :: (left.nodes ++ right.nodes)
  | .apply span curried anchor function argument =>
    .apply span curried anchor function argument :: (function.nodes ++ argument.nodes)

/-- The nodes of expressions, in order. -/
def Expr.nodesAll : List Expr → List Expr
  | [] => []
  | e :: es => e.nodes ++ nodesAll es

end

namespace Expr

/-- Whether an expression is a declaration. -/
def isDeclaration : Expr → Bool
  | declaration .. => true
  | _ => false

/-- Whether an expression is a block. -/
def isBlock : Expr → Bool
  | block .. => true
  | _ => false

theorem statements_of_not_isBlock {e : Expr} (h : e.isBlock = false) : e.statements = [e] := by
  cases e with
  | block => cases h
  | _ => rfl

theorem nodes_eq_cons (e : Expr) : e.nodes = e :: e.nodes.tail := by
  cases e <;> rfl

theorem mem_nodes_self (e : Expr) : e ∈ e.nodes := by
  rw [nodes_eq_cons]
  exact List.mem_cons_self

theorem nodes_block (span : Span) (statements : List Expr) :
    (block span statements).nodes = block span statements :: nodesAll statements := rfl

theorem nodes_declaration (span nameSpan : Span) (word : Keyword) (name : String)
    (value : Expr) : (declaration span word name nameSpan value).nodes =
      declaration span word name nameSpan value :: value.nodes := rfl

theorem nodesAll_cons (e : Expr) (es : List Expr) : nodesAll (e :: es) = e.nodes ++ nodesAll es :=
  rfl

theorem nodesAll_append (es fs : List Expr) : nodesAll (es ++ fs) = nodesAll es ++ nodesAll fs := by
  induction es with
  | nil => rfl
  | cons e es ih =>
    rw [List.cons_append, nodesAll_cons, nodesAll_cons, ih, List.append_assoc]

theorem forall_mem_nodesAll {es : List Expr} {p : Expr → Prop} :
    (∀ node ∈ nodesAll es, p node) ↔ ∀ e ∈ es, ∀ node ∈ e.nodes, p node := by
  induction es with
  | nil => exact iff_of_true (List.forall_mem_nil _) (List.forall_mem_nil _)
  | cons e es ih => rw [nodesAll_cons, List.forall_mem_append, ih, List.forall_mem_cons]

theorem nodes_infixed (left right : Expr) (op : Operator) (span : Span) :
    (left.infixed op span right).nodes =
      left.infixed op span right :: (left.nodes ++ right.nodes) := rfl

theorem nodes_applied (function argument : Expr) :
    (function.applied argument).nodes =
      function.applied argument :: (function.nodes ++ argument.nodes) := rfl

/-- A statement and others of which `last` is the last one make a block that ends with it. -/
theorem sequence_of_getLast? {e last : Expr} {es : List Expr} (h : es.getLast? = some last) :
    e.sequence es = .block (e.span.through last.span) (e :: es) := by
  cases es with
  | nil => cases h
  | cons f fs => simp only [sequence, List.getLast_of_getLast?_eq_some h]

/-- The nodes of a sequence are those of its statements, and the block of two or more. -/
theorem mem_nodes_sequence {e node : Expr} {es : List Expr} (h : node ∈ (e.sequence es).nodes) :
    (∃ span, node = .block span (e :: es)) ∨ node ∈ e.nodes ∨ node ∈ nodesAll es := by
  cases es with
  | nil => exact .inr (.inl h)
  | cons f fs =>
    rw [sequence, nodes_block, List.mem_cons, nodesAll_cons, List.mem_append] at h
    exact h.imp_left fun hn => ⟨_, hn⟩

theorem mem_nodes_of_mem_statements {e node : Expr} (h : node ∈ nodesAll e.statements) :
    node ∈ e.nodes := by
  cases e with
  | block span statements => exact List.mem_cons_of_mem _ h
  | _ => exact (List.mem_append.1 h).resolve_right (List.not_mem_nil)

end Expr

end Offside
