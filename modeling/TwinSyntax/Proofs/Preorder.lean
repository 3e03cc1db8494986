import TwinSyntax.Tree.Walk

/-!
# Parents before children

`Node.walk` keeps the nodes that it still has to visit on a stack, each with its depth. What it
yields is what a recursion over the tree yields (`walk_eq_preorder`): a stack yields what its nodes
yield, one after another (`walkFrom_eq`).
-/

namespace TwinSyntax.Node

/-- The nodes of the tree with their depths, where the root is at `depth`: the root, and behind it
the trees below it, from left to right. -/
def preorder (depth : Nat) (n : Node) : List (Nat × Node) :=
  (depth, n) ::
    match n with
    | leaf _ _ | eos => []
    | sequence first second => first.preorder (depth + 1) ++ second.preorder (depth + 1)
    | program _ body => body.preorder (depth + 1)
    | assign _ target value => target.preorder (depth + 1) ++ value.preorder (depth + 1)
    | loop _ condition body => condition.preorder (depth + 1) ++ body.preorder (depth + 1)
    | conditional _ condition thenBranch elseBranch =>
      condition.preorder (depth + 1) ++
        (thenBranch.preorder (depth + 1) ++ elseBranch.preorder (depth + 1))
    | relation _ _ left right => left.preorder (depth + 1) ++ right.preorder (depth + 1)
    | arithmetic _ _ left right => left.preorder (depth + 1) ++ right.preorder (depth + 1)
    | negate _ argument => argument.preorder (depth + 1)

theorem preorder_eq (depth : Nat) (n : Node) :
    n.preorder depth = (depth, n) :: n.children.flatMap (preorder (depth + 1)) := by
  cases n <;> simp [preorder, children]

/-- **A stack yields what its nodes yield**, one after another. -/
theorem walkFrom_eq (stack : List (Nat × Node)) (visited : Array (Nat × Node)) :
    (walkFrom stack visited).toList =
      visited.toList ++ stack.flatMap fun top => top.2.preorder top.1 := by
  fun_induction walkFrom stack visited with
  | case1 visited => rw [List.flatMap_nil, List.append_nil]
  | case2 visited depth n rest ih =>
    rw [ih, Array.toList_push, List.flatMap_append, List.flatMap_map, List.flatMap_cons,
      preorder_eq, List.append_assoc, List.singleton_append, List.cons_append]

theorem walk_eq_preorder (n : Node) : n.walk = n.preorder 0 := by
  rw [walk, walkFrom_eq, List.flatMap_singleton]
  rfl

end TwinSyntax.Node
