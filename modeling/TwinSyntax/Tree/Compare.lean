import TwinSyntax.Tree.Walk

/-!
# Equality and copies of trees

Both run on a stack of their own, like every walk over a tree.

**Equality.** A list of pairs that still have to agree. Two nodes agree if their kinds, values
and locations do and they have equally many children; their children then have to agree too.

**Copies.** A node is put together from its parts once copies of all its children are there.
-/

namespace TwinSyntax.Node

/-- Whether two nodes agree in everything but their children, and in the number of those. -/
def agree (a b : Node) : Bool :=
  a.kind == b.kind && a.payload? == b.payload? && a.origin? == b.origin? &&
    a.children.length == b.children.length

theorem totalSize_map_zip_le (xs ys : List Node) :
    totalSize ((xs.zip ys).map (·.1)) ≤ totalSize xs := by
  induction xs generalizing ys with
  | nil => simp
  | cons x xs ih =>
    cases ys with
    | nil => simp [totalSize]
    | cons y ys => have := ih ys; simp [totalSize]; omega

/-- Whether the nodes of every pair are equal trees. -/
def equalPairs : List (Node × Node) → Bool
  | [] => true
  | (a, b) :: rest => agree a b && equalPairs (a.children.zip b.children ++ rest)
termination_by pairs => totalSize (pairs.map (·.1))
decreasing_by
  have h := size_eq a
  have hle := totalSize_map_zip_le a.children b.children
  simp [totalSize]
  omega

/-- Whether two trees are equal, locations included. -/
def equal (a b : Node) : Bool := equalPairs [(a, b)]

instance : BEq Node := ⟨equal⟩

/-- What is left to do while copying: reach a node, or put one together. -/
inductive Task where
  | visit (node : Node)
  | build (node : Node)

/-- The tree that a task still has to reach, if there is one. -/
def Task.tree? : Task → Option Node
  | visit node => some node
  | build _ => none

/-- Takes the top `count` trees off the stack, in front of `popped`. The deepest one comes first. -/
def pop? (count : Nat) (stack popped : List Node) : Option (List Node × List Node) :=
  match count, stack with
  | 0, stack => some (popped, stack)
  | count + 1, top :: stack => pop? count stack (top :: popped)
  | _ + 1, [] => none

/-- Works off the tasks. The trees that are already built lie on `built`, the latest on top. Fails
if a node that is to be put together does not find trees that fit it there. -/
def copyFrom? (tasks : List Task) (built : List Node) : Option (List Node) :=
  match tasks with
  | [] => some built
  | .visit node :: rest => copyFrom? (node.children.map .visit ++ .build node :: rest) built
  | .build node :: rest =>
    match pop? node.children.length built [] with
    | none => none
    | some (children, built) =>
      match ofParts? node.kind node.payload? node.origin? children with
      | none => none
      | some copy => copyFrom? rest (copy :: built)
termination_by (totalSize (tasks.filterMap Task.tree?), tasks.length)
decreasing_by
  · have h := size_eq node
    exact Prod.Lex.left _ _ (by
      simp [List.filterMap_cons, List.filterMap_map, Function.comp_def, Task.tree?, totalSize]
      omega)
  · exact Prod.Lex.right' _ (by simp [List.filterMap_cons, Task.tree?]) (by simp)

/-- The tree again, put together from the leaves up. -/
def copy (n : Node) : Node :=
  match copyFrom? [.visit n] [] with
  | some [copy] => copy
  | _ => eos

end TwinSyntax.Node
