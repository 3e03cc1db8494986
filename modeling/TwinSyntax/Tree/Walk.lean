import TwinSyntax.Tree.Node

/-!
# Walks over a tree

A chain of statements grows one level per statement, so a tree is as deep as its program is
long. Every walk therefore keeps the nodes it still has to visit on a stack of its own. The head
of the list is the top of the stack, and a node is replaced by its children, so nodes are visited
in source order.
-/

namespace TwinSyntax.Node

theorem totalSize_children_append (n : Node) (rest : List Node) :
    totalSize (n.children ++ rest) + 1 = totalSize (n :: rest) := by
  simp [totalSize, size_eq n]
  omega

/-- Visits the stack, each node with its depth, appending to `visited`. -/
def walkFrom (stack : List (Nat × Node)) (visited : Array (Nat × Node)) : Array (Nat × Node) :=
  match stack with
  | [] => visited
  | (depth, node) :: rest =>
    walkFrom (node.children.map (depth + 1, ·) ++ rest) (visited.push (depth, node))
termination_by totalSize (stack.map (·.2))
decreasing_by
  have h := totalSize_children_append node (rest.map (·.2))
  simp only [List.map_append, List.map_map, List.map_cons, Function.comp_def, List.map_id'] at h ⊢
  omega

/-- Every node of the tree with its depth below the root, parents before children. -/
def walk (n : Node) : List (Nat × Node) := (walkFrom [(0, n)] #[]).toList

/-- Looks through the sentinels and programs on the stack, appending all else to `found`. -/
def statementsFrom (stack : List Node) (found : Array Node) : Array Node :=
  match stack with
  | [] => found
  | node :: rest =>
    match node.kind with
    | .program | .eos => statementsFrom (node.children ++ rest) found
    | _ => statementsFrom rest (found.push node)
termination_by totalSize stack
decreasing_by
  · have h := totalSize_children_append node rest
    omega
  · have h := size_eq node
    simp [totalSize]
    omega

/-- The statements of a sequence in source order. Empty statements are left out, and bodies are
not entered. -/
def statements (n : Node) : List Node := (statementsFrom [n] #[]).toList

end TwinSyntax.Node
