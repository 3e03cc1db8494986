import TwinSyntax.Rational
import TwinSyntax.Text.Span
import TwinSyntax.Tree.Operand

/-!
# Trees

One type of tree for both surfaces. Every node but the sentinels that end and join statements
remembers the location of the token that it comes from.

**Shape.** Each constructor has the children that its kind takes, leaves alone have a value, and
sentinels alone have no location, so a tree of the wrong shape cannot be written down.

**Parts.** `kind`, `payload?`, `origin?` and `children` take a node apart. `ofParts?` puts one
together, and `ofParts?_parts` says that nothing is lost in between. `interior` is the same for
nodes that are no leaves, and says what is wrong when the parts do not fit.
-/

namespace TwinSyntax

/-- The value of a leaf. -/
inductive Payload where
  | integer (value : Int)
  | number (value : Rat)
  | identifier (name : String)
  deriving DecidableEq, Inhabited

namespace Payload

/-- The kind of the leaf that carries the value. -/
def kind : Payload → Operand
  | integer _ => .integer
  | number _ => .number
  | identifier _ => .identifier

/-- The value as text. -/
def render : Payload → String
  | integer value => toString value
  | number value => Rational.render value
  | identifier name => name

end Payload

/-- A tree, named by its root. A `sequence` runs `first` and then `second`; an `eos` is an empty
statement. -/
inductive Node where
  | leaf (value : Payload) (origin : Location)
  | eos
  | sequence (first second : Node)
  | program (origin : Location) (body : Node)
  | assign (origin : Location) (target value : Node)
  | loop (origin : Location) (condition body : Node)
  | conditional (origin : Location) (condition thenBranch elseBranch : Node)
  | relation (relation : Relation) (origin : Location) (left right : Node)
  | arithmetic (operation : Arithmetic) (origin : Location) (left right : Node)
  | negate (origin : Location) (argument : Node)
  deriving Inhabited

/-- What keeps a list of parts from being a node. -/
inductive Defect where
  | leafKind
  | wrongArity (found : Nat)
  | locatedSentinel
  | missingLocation
  deriving DecidableEq, Repr, Inhabited

/-- A refused attempt to build a node of the kind `kind`. -/
structure MalformedNode where
  kind : Operand
  defect : Defect
  deriving DecidableEq, Repr, Inhabited

namespace MalformedNode

/-- What is wrong, in words. -/
def reason (m : MalformedNode) : String :=
  match m.defect with
  | .leafKind => "leaf nodes are built from a payload"
  | .wrongArity found =>
    "expected " ++ m.kind.describeArity ++ " children, found " ++ toString found
  | .locatedSentinel => "end-of-statement sentinels carry no debug info"
  | .missingLocation => "missing debug info"

/-- The message of the refusal. -/
def message (m : MalformedNode) : String :=
  "malformed " ++ m.kind.name ++ " node: " ++ m.reason

end MalformedNode

namespace Node

/-! ## Taking a node apart -/

/-- What the node is. -/
def kind : Node → Operand
  | leaf value _ => value.kind
  | eos | sequence _ _ => .eos
  | program _ _ => .program
  | assign _ _ _ => .assign
  | loop _ _ _ => .loop
  | conditional _ _ _ _ => .conditional
  | relation rel _ _ _ => .relation rel
  | arithmetic op _ _ _ => .arithmetic op
  | negate _ _ => .negate

/-- The children, first to last. -/
def children : Node → List Node
  | leaf _ _ | eos => []
  | sequence first second => [first, second]
  | program _ body => [body]
  | assign _ target value => [target, value]
  | loop _ condition body => [condition, body]
  | conditional _ condition thenBranch elseBranch => [condition, thenBranch, elseBranch]
  | relation _ _ left right => [left, right]
  | arithmetic _ _ left right => [left, right]
  | negate _ argument => [argument]

/-- The value of a leaf. -/
def payload? : Node → Option Payload
  | leaf value _ => some value
  | _ => none

/-- Where the node comes from; sentinels come from nowhere. -/
def origin? : Node → Option Location
  | eos | sequence _ _ => none
  | leaf _ origin
  | program origin _
  | assign origin _ _
  | loop origin _ _
  | conditional origin _ _ _
  | relation _ origin _ _
  | arithmetic _ origin _ _
  | negate origin _ => some origin

/-- Whether the node ends or joins statements. -/
def isSentinel (n : Node) : Bool := n.kind == .eos

/-- The value of an integer leaf. -/
def integer? : Node → Option Int
  | leaf (.integer value) _ => some value
  | _ => none

/-- The value of a number leaf. -/
def number? : Node → Option Rat
  | leaf (.number value) _ => some value
  | _ => none

/-- The name of an identifier leaf. -/
def identifier? : Node → Option String
  | leaf (.identifier name) _ => some name
  | _ => none

/-! ## Putting a node together -/

/-- The node of a kind that is no leaf, if the parts fit it. -/
def interior? : Operand → Option Location → List Node → Option Node
  | .eos, none, [] => some eos
  | .eos, none, [first, second] => some (sequence first second)
  | .program, some origin, [body] => some (program origin body)
  | .assign, some origin, [target, value] => some (assign origin target value)
  | .loop, some origin, [condition, body] => some (loop origin condition body)
  | .conditional, some origin, [condition, thenBranch, elseBranch] =>
    some (conditional origin condition thenBranch elseBranch)
  | .relation rel, some origin, [left, right] => some (relation rel origin left right)
  | .arithmetic op, some origin, [left, right] => some (arithmetic op origin left right)
  | .negate, some origin, [argument] => some (negate origin argument)
  | _, _, _ => none

/-- The node with these parts, if they fit each other. -/
def ofParts? (kind : Operand) (payload : Option Payload) (origin : Option Location)
    (children : List Node) : Option Node :=
  match payload with
  | none => interior? kind origin children
  | some value =>
    match origin, children with
    | some origin, [] => if kind = value.kind then some (leaf value origin) else none
    | _, _ => none

/-- The first thing that is wrong with parts that do not fit: the kind, the number of children,
then the location. -/
def defect (kind : Operand) (children : List Node) : Defect :=
  if kind.isLeaf then .leafKind
  else if !kind.acceptsArity children.length then .wrongArity children.length
  else if kind = .eos then .locatedSentinel
  else .missingLocation

/-- The node of a kind that is no leaf, or what is wrong with the parts. -/
def interior (kind : Operand) (origin : Option Location) (children : List Node) :
    Except MalformedNode Node :=
  match interior? kind origin children with
  | some node => .ok node
  | none => .error ⟨kind, defect kind children⟩

theorem ofParts?_parts (n : Node) : ofParts? n.kind n.payload? n.origin? n.children = some n := by
  cases n <;> simp [ofParts?, interior?, kind, payload?, origin?, children]

/-- A node is determined by its parts. -/
theorem eq_of_parts {a b : Node} (hkind : a.kind = b.kind) (hpayload : a.payload? = b.payload?)
    (horigin : a.origin? = b.origin?) (hchildren : a.children = b.children) : a = b := by
  have h := ofParts?_parts a
  rw [hkind, hpayload, horigin, hchildren, ofParts?_parts b] at h
  exact (Option.some.inj h).symm

/-! ## Size -/

/-- The number of nodes in the tree. -/
def size : Node → Nat
  | leaf _ _ | eos => 1
  | sequence first second => 1 + first.size + second.size
  | program _ body => 1 + body.size
  | assign _ target value => 1 + target.size + value.size
  | loop _ condition body => 1 + condition.size + body.size
  | conditional _ condition thenBranch elseBranch =>
    1 + condition.size + thenBranch.size + elseBranch.size
  | relation _ _ left right => 1 + left.size + right.size
  | arithmetic _ _ left right => 1 + left.size + right.size
  | negate _ argument => 1 + argument.size

/-- The number of nodes in a list of trees. -/
def totalSize : List Node → Nat
  | [] => 0
  | n :: rest => n.size + totalSize rest

theorem size_eq (n : Node) : n.size = 1 + totalSize n.children := by
  cases n <;> simp [size, totalSize, children] <;> omega

@[simp] theorem totalSize_append (xs ys : List Node) :
    totalSize (xs ++ ys) = totalSize xs + totalSize ys := by
  induction xs with
  | nil => simp [totalSize]
  | cons x xs ih => simp [totalSize, ih]; omega

/-- Proof by going from the children to the node, whatever its kind. -/
theorem children_induction {motive : Node → Prop}
    (step : ∀ n : Node, (∀ c ∈ n.children, motive c) → motive n) (n : Node) : motive n := by
  induction n <;> exact step _ (by simp_all [children])

end Node

end TwinSyntax
