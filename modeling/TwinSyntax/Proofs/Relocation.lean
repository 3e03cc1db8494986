import TwinSyntax.Tree.Walk

/-!
# Trees with other locations

`Node.relocate` changes the locations of a tree and nothing else. Trees that become equal when every
location is mapped by `place` are equal up to what `place` forgets (`relocate_eq_of_parts`).
-/

namespace TwinSyntax.Node

/-- The same tree with its locations mapped by `place`. -/
def relocate (place : Location → Location) : Node → Node
  | leaf value origin => leaf value (place origin)
  | eos => eos
  | sequence first second => sequence (first.relocate place) (second.relocate place)
  | program origin body => program (place origin) (body.relocate place)
  | assign origin target value =>
    assign (place origin) (target.relocate place) (value.relocate place)
  | loop origin condition body =>
    loop (place origin) (condition.relocate place) (body.relocate place)
  | conditional origin condition thenBranch elseBranch =>
    conditional (place origin) (condition.relocate place) (thenBranch.relocate place)
      (elseBranch.relocate place)
  | relation rel origin left right =>
    relation rel (place origin) (left.relocate place) (right.relocate place)
  | arithmetic op origin left right =>
    arithmetic op (place origin) (left.relocate place) (right.relocate place)
  | negate origin argument => negate (place origin) (argument.relocate place)

@[simp] theorem relocate_id (n : Node) : n.relocate id = n := by
  induction n <;> simp_all [relocate]

section Parts

variable (place : Location → Location) (n : Node)

@[simp] theorem kind_relocate : (n.relocate place).kind = n.kind := by
  cases n <;> rfl

@[simp] theorem payload?_relocate : (n.relocate place).payload? = n.payload? := by
  cases n <;> rfl

@[simp] theorem origin?_relocate : (n.relocate place).origin? = n.origin?.map place := by
  cases n <;> rfl

@[simp] theorem children_relocate :
    (n.relocate place).children = n.children.map (relocate place) := by
  cases n <;> rfl

end Parts

/-- Trees are equal up to what `place` forgets if their parts are. -/
theorem relocate_eq_of_parts {place : Location → Location} {a b : Node} (hkind : a.kind = b.kind)
    (hpayload : a.payload? = b.payload?) (horigin : a.origin?.map place = b.origin?.map place)
    (hchildren : a.children.map (relocate place) = b.children.map (relocate place)) :
    a.relocate place = b.relocate place :=
  eq_of_parts (by rw [kind_relocate, kind_relocate, hkind])
    (by rw [payload?_relocate, payload?_relocate, hpayload])
    (by rw [origin?_relocate, origin?_relocate, horigin])
    (by rw [children_relocate, children_relocate, hchildren])

end TwinSyntax.Node
