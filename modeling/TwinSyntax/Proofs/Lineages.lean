import Mathlib.Data.List.Chain
import TwinSyntax.Proofs.Preorder
import TwinSyntax.Proofs.Statements

/-!
# Walks and recursions

`Node.walk` and `Node.statements` keep the nodes that they still have to visit on a stack. Here the
two are compared with recursions over the tree, and with each other.

**Lineages** (`lineages`). The walk again, where every node comes with the nodes above it and not
only with their number (`map_length_lineages`). Every node is a child of the first one above it, and
so on up to the root (`isChain_of_mem_lineages`), so these are its proper ancestors.

**Statements** (`map_filter_lineages`). A node is a statement if it is neither a program nor a
sentinel and stands under nothing else. So the induction over the tree has two cases: under a node
that is neither, nothing is listed, whatever else is above it; and as long as there is none, the
recursion of `statements` goes on.

Main result: `walks_are_recursions`.
-/

namespace TwinSyntax.Node

/-! ## The walk -/

/-- In a tree one level further down, all nodes are. -/
theorem preorder_succ (depth : Nat) (n : Node) :
    n.preorder (depth + 1) = (n.preorder depth).map fun (depth, m) => (depth + 1, m) := by
  induction n using children_induction generalizing depth with
  | step n ih =>
    rw [preorder_eq, preorder_eq depth, List.map_cons, List.map_flatMap]
    exact congrArg _ (List.flatMap_congr fun child hchild => ih child hchild (depth + 1))

theorem walk_eq (n : Node) :
    n.walk = (0, n) ::
      n.children.flatMap fun child => child.walk.map fun (depth, m) => (depth + 1, m) := by
  simp only [walk_eq_preorder, ← preorder_succ]
  exact preorder_eq 0 n

/-! ## Lineages -/

theorem size_lt_of_mem_children {n child : Node} (h : child ∈ n.children) :
    child.size < n.size := by
  obtain ⟨front, back, hchildren⟩ := List.append_of_mem h
  rw [size_eq n, hchildren, totalSize_append, totalSize]
  omega

/-- The nodes of the tree, parents before children, each behind the list of the nodes above it, the
nearest one first. Above the root are the nodes `above`. -/
def lineages (above : List Node) (n : Node) : List (List Node × Node) :=
  (above, n) :: n.children.attach.flatMap fun child => child.1.lineages (n :: above)
termination_by n.size
decreasing_by exact size_lt_of_mem_children child.2

theorem lineages_eq (above : List Node) (n : Node) :
    n.lineages above = (above, n) :: n.children.flatMap (lineages (n :: above)) := by
  rw [lineages, List.flatMap_subtype fun _ _ => rfl, List.unattach_attach]

/-- The depth of a node is the number of its ancestors. -/
theorem map_length_lineages (above : List Node) (n : Node) :
    (n.lineages above).map (fun (above, m) => (above.length, m)) = n.preorder above.length := by
  induction n using children_induction generalizing above with
  | step n ih =>
    rw [lineages_eq, preorder_eq, List.map_cons, List.map_flatMap]
    exact congrArg _ (List.flatMap_congr fun child hchild => ih child hchild (n :: above))

/-- The one is a child of the other. -/
def Descends (child parent : Node) : Prop := child ∈ parent.children

/-- Going up from a node, every step leads from a child to its parent, and past the root. -/
theorem isChain_of_mem_lineages {above path : List Node} {n m : Node}
    (habove : (n :: above).IsChain Descends) (h : (path, m) ∈ n.lineages above) :
    (m :: path).IsChain Descends ∧ n :: above <:+ m :: path := by
  induction n using children_induction generalizing above with
  | step n ih =>
    rw [lineages_eq, List.mem_cons, List.mem_flatMap] at h
    rcases h with hroot | ⟨child, hchild, hm⟩
    · cases hroot
      exact ⟨habove, List.suffix_rfl⟩
    · obtain ⟨hchain, hsuffix⟩ := ih child hchild (.cons_cons hchild habove) hm
      exact ⟨hchain, (List.suffix_cons child _).trans hsuffix⟩

/-! ## Statements -/

instance (n : Node) : Decidable n.Joins := inferInstanceAs (Decidable (_ ∨ _))

/-- Whether a node is a statement, going by the nodes above it. -/
def Listed : List Node × Node → Prop
  | (above, m) => (∀ a ∈ above, a.Joins) ∧ ¬ m.Joins

instance : DecidablePred Listed := fun _ => inferInstanceAs (Decidable (_ ∧ _))

/-- **Under a node that joins nothing**, nothing is listed. -/
theorem filter_lineages_of_not_joins {above : List Node} {a : Node} (ha : a ∈ above)
    (hjoins : ¬ a.Joins) (n : Node) : (n.lineages above).filter Listed = [] := by
  induction n using children_induction generalizing above with
  | step n ih =>
    have hroot : ¬ Listed (above, n) := fun h => hjoins (h.1 a ha)
    rw [lineages_eq, List.filter_cons_of_neg (by simpa using hroot), List.filter_flatMap,
      List.flatMap_eq_nil_iff]
    exact fun child hchild => ih child hchild (List.mem_cons_of_mem n ha)

/-- **Under nodes that join statements**, the statements are listed. -/
theorem map_filter_lineages {above : List Node} (habove : ∀ a ∈ above, a.Joins) (n : Node) :
    ((n.lineages above).filter Listed).map (·.2) = n.statements := by
  induction n using children_induction generalizing above with
  | step n ih =>
    rw [lineages_eq]
    by_cases hn : n.Joins
    · have hroot : ¬ Listed (above, n) := fun h => h.2 hn
      have hbelow := List.forall_mem_cons.mpr ⟨hn, habove⟩
      rw [List.filter_cons_of_neg (by simpa using hroot), List.filter_flatMap, List.map_flatMap,
        statements_of_joins hn]
      exact List.flatMap_congr fun child hchild => ih child hchild hbelow
    · have hroot : Listed (above, n) := ⟨habove, hn⟩
      have hchildren : (n.children.flatMap (lineages (n :: above))).filter Listed = [] := by
        rw [List.filter_flatMap, List.flatMap_eq_nil_iff]
        exact fun child _ => filter_lineages_of_not_joins List.mem_cons_self hn child
      rw [List.filter_cons_of_pos (by simpa using hroot), hchildren, statements_of_not_joins hn]
      rfl

theorem not_joins_of_mem_statements {n m : Node} (h : m ∈ n.statements) : ¬ m.Joins := by
  rw [← map_filter_lineages (List.forall_mem_nil _) n] at h
  obtain ⟨⟨above, m⟩, hlineage, rfl⟩ := List.mem_map.mp h
  have hlisted : Listed (above, m) := by simpa using (List.mem_filter.mp hlineage).2
  exact hlisted.2

/-- **Both walks are recursions.** The walk of a tree is its root and then the walks of its
children, one level further down. The statements of a program or a sentinel are those of its
children, so those of a sequence are those of its two parts; any other node is a statement by
itself. If every node of the walk is taken along with its ancestors, the statements are those nodes,
in the order of the walk, that are neither programs nor sentinels and stand under nothing else. -/
theorem walks_are_recursions :
    (∀ n : Node, n.walk =
      (0, n) :: n.children.flatMap fun child => child.walk.map fun (depth, m) => (depth + 1, m)) ∧
    (∀ n : Node, n.statements = if n.Joins then n.children.flatMap statements else [n]) ∧
    (∀ first second : Node,
      (sequence first second).statements = first.statements ++ second.statements) ∧
    (∀ n : Node, ∀ m ∈ n.statements, ¬ m.Joins) ∧
    (∀ n : Node, n.walk = (n.lineages []).map fun (above, m) => (above.length, m)) ∧
    (∀ n m : Node, ∀ above, (above, m) ∈ n.lineages [] →
      (m :: above).IsChain Descends ∧ (m :: above).getLast? = some n) ∧
    (∀ n : Node, n.statements = ((n.lineages []).filter Listed).map (·.2)) := by
  refine ⟨walk_eq, fun n => ?_, statements_sequence, fun n m => not_joins_of_mem_statements,
    fun n => ?_, fun n m above hm => ?_, fun n => ?_⟩
  · split
    · next h => exact statements_of_joins h
    · next h => exact statements_of_not_joins h
  · rw [walk_eq_preorder, map_length_lineages]
    rfl
  · obtain ⟨hchain, below, hpath⟩ := isChain_of_mem_lineages (.singleton n) hm
    refine ⟨hchain, ?_⟩
    rw [← hpath, List.getLast?_concat]
  · exact (map_filter_lineages (List.forall_mem_nil _) n).symm

end TwinSyntax.Node
