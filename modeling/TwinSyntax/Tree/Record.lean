import TwinSyntax.Tree.Node

/-!
# Nodes as they are stored

A node is stored as a record of four fields, and a record does not keep its fields from
contradicting each other: it can be a sum of one number, a leaf without a value or a condition from
nowhere. Whether a record makes sense is up to the functions here that fill one.

**Checked.** `operand` looks at the fields first, and says what is wrong with them.

**Unchecked.** Leaves, sentinels and roots are filled as they are. So are copies, field by field,
from a stack of records that are built already (`cloneFrom?`). That no more records are taken off
the stack than lie there is not checked either; the copy fails where it would happen.

A `Node` is the record whose fields go with each other (`Node.record`).
-/

namespace TwinSyntax

/-- The fields of a node, whether or not they go with each other. -/
structure Record where
  kind : Operand
  children : List Record
  payload? : Option Payload
  origin? : Option Location
  deriving Inhabited

namespace Record

/-! ## Filling a record -/

/-- The record of a kind that is no leaf, or what is wrong with the fields. -/
def operand (kind : Operand) (origin : Option Location) (children : List Record) :
    Except MalformedNode Record :=
  if kind.isLeaf then .error ⟨kind, .leafKind⟩
  else if !kind.acceptsArity children.length then .error ⟨kind, .wrongArity children.length⟩
  else
    match kind, origin with
    | .eos, some _ => .error ⟨kind, .locatedSentinel⟩
    | .eos, none | _, some _ => .ok ⟨kind, children, none, origin⟩
    | _, none => .error ⟨kind, .missingLocation⟩

/-- A leaf, of the kind that its value says. -/
def leaf (origin : Location) (value : Payload) : Record :=
  ⟨value.kind, [], some value, some origin⟩

def integer (origin : Location) (value : Int) : Record := leaf origin (.integer value)

def number (origin : Location) (value : Rat) : Record := leaf origin (.number value)

def identifier (origin : Location) (name : String) : Record := leaf origin (.identifier name)

/-- An empty statement. -/
def eos : Record := ⟨.eos, [], none, none⟩

/-- Two statements; `first` runs before `second`. -/
def sequence (first second : Record) : Record := ⟨.eos, [first, second], none, none⟩

/-- The root of a whole program. -/
def program (origin : Location) (body : Record) : Record := ⟨.program, [body], none, some origin⟩

/-- A child, by its number. -/
def child? (r : Record) (index : Nat) : Option Record := r.children[index]?

/-! ## Size -/

mutual

/-- The number of records in a tree. -/
def size : Record → Nat
  | ⟨_, children, _, _⟩ => 1 + totalSize children

/-- The number of records in a list of trees. -/
def totalSize : List Record → Nat
  | [] => 0
  | r :: rest => r.size + totalSize rest

end

theorem size_eq (r : Record) : r.size = 1 + totalSize r.children := by
  cases r
  rw [size]

@[simp] theorem totalSize_append (xs ys : List Record) :
    totalSize (xs ++ ys) = totalSize xs + totalSize ys := by
  induction xs with
  | nil => simp [totalSize]
  | cons x xs ih => simp [totalSize, ih]; omega

theorem size_le_totalSize {r : Record} {rs : List Record} (h : r ∈ rs) : r.size ≤ totalSize rs := by
  induction rs with
  | nil => cases h
  | cons x rs ih =>
    rw [totalSize]
    rcases List.mem_cons.mp h with rfl | h
    · omega
    · have := ih h
      omega

/-- Proof by going from the children to the record. -/
theorem children_induction {motive : Record → Prop}
    (step : ∀ r : Record, (∀ c ∈ r.children, motive c) → motive r) (r : Record) : motive r :=
  step r fun c _ => children_induction step c
termination_by r.size
decreasing_by
  have hle := size_le_totalSize ‹c ∈ r.children›
  have hsize := size_eq r
  omega

/-! ## Copies -/

/-- What is left to do while copying: reach a record, or put one together. -/
inductive Task where
  | visit (record : Record)
  | build (record : Record)

/-- The tree that a task still has to reach, if there is one. -/
def Task.tree? : Task → Option Record
  | visit record => some record
  | build _ => none

/-- Works off the tasks. The records that are already built lie on `built`, the latest on top. A
record that is to be put together takes as many of them as the original has children. -/
def cloneFrom? (tasks : List Task) (built : List Record) : Option (List Record) :=
  match tasks with
  | [] => some built
  | .visit r :: rest => cloneFrom? (r.children.map .visit ++ .build r :: rest) built
  | .build r :: rest =>
    let count := r.children.length
    if built.length < count then none
    else
      let copy := ⟨r.kind, (built.take count).reverse, r.payload?, r.origin?⟩
      cloneFrom? rest (copy :: built.drop count)
termination_by (totalSize (tasks.filterMap Task.tree?), tasks.length)
decreasing_by
  · have h := size_eq r
    exact Prod.Lex.left _ _ (by
      simp [List.filterMap_cons, List.filterMap_map, Function.comp_def, Task.tree?, totalSize]
      omega)
  · exact Prod.Lex.right' _ (by simp [List.filterMap_cons, Task.tree?]) (by simp)

/-- The tree again, put together from the leaves up; an empty statement if nothing was built. -/
def clone (r : Record) : Option Record :=
  (cloneFrom? [.visit r] []).map fun built => built.head?.getD eos

end Record

/-- The node as it is stored. -/
def Node.record : Node → Record
  | leaf value origin => .leaf origin value
  | eos => .eos
  | sequence first second => .sequence first.record second.record
  | program origin body => .program origin body.record
  | assign origin target value => ⟨.assign, [target.record, value.record], none, some origin⟩
  | loop origin condition body => ⟨.loop, [condition.record, body.record], none, some origin⟩
  | conditional origin condition thenBranch elseBranch =>
    ⟨.conditional, [condition.record, thenBranch.record, elseBranch.record], none, some origin⟩
  | relation rel origin left right =>
    ⟨.relation rel, [left.record, right.record], none, some origin⟩
  | arithmetic op origin left right =>
    ⟨.arithmetic op, [left.record, right.record], none, some origin⟩
  | negate origin argument => ⟨.negate, [argument.record], none, some origin⟩

/-- Nothing of a node is lost when it is stored. -/
theorem Node.record_eq (n : Node) :
    n.record = ⟨n.kind, n.children.map record, n.payload?, n.origin?⟩ := by
  cases n <;> rfl

end TwinSyntax
