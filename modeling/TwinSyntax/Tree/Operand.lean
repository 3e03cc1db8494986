/-!
# Kinds of tree nodes

An `Operand` says what a node of a tree is: which operation it performs on its children, or which
kind of leaf it is. Relations and arithmetic operations are families of their own, because the
grammar treats each family alike.
-/

namespace TwinSyntax

/-- The comparisons of a condition. -/
inductive Relation where
  | less
  | greater
  | lessEqual
  | greaterEqual
  | notEqual
  | equal
  deriving DecidableEq, Repr, Inhabited

/-- The binary operations of an expression. -/
inductive Arithmetic where
  | add
  | sub
  | mul
  | div
  deriving DecidableEq, Repr, Inhabited

/-- How tight an operation binds its operands; more is tighter. -/
def Arithmetic.precedence : Arithmetic → Nat
  | add | sub => 1
  | mul | div => 2

/-- What a node is. -/
inductive Operand where
  | program
  | eos
  | assign
  | loop
  | conditional
  | relation (relation : Relation)
  | arithmetic (operation : Arithmetic)
  | negate
  | integer
  | number
  | identifier
  deriving DecidableEq, Repr, Inhabited

namespace Operand

/-- All kinds, in the order in which they are listed. -/
def all : List Operand :=
  [program, eos, assign, loop, conditional, relation .less, relation .greater,
    relation .lessEqual, relation .greaterEqual, relation .notEqual, relation .equal,
    arithmetic .add, arithmetic .sub, arithmetic .mul, arithmetic .div, negate, integer, number,
    identifier]

/-- The name that listings and messages use. -/
def name : Operand → String
  | program => "Program"
  | eos => "Eos"
  | assign => "Assign"
  | loop => "While"
  | conditional => "If"
  | relation .less => "Lt"
  | relation .greater => "Gt"
  | relation .lessEqual => "Le"
  | relation .greaterEqual => "Ge"
  | relation .notEqual => "Ne"
  | relation .equal => "Eq"
  | arithmetic .add => "Add"
  | arithmetic .sub => "Sub"
  | arithmetic .mul => "Mul"
  | arithmetic .div => "Div"
  | negate => "Uminus"
  | integer => "Integer"
  | number => "Number"
  | identifier => "Identifier"

/-- Leaves carry a value and have no children. -/
def isLeaf : Operand → Bool
  | integer | number | identifier => true
  | _ => false

/-- Whether a node of this kind compares its children. -/
def isRelation : Operand → Bool
  | relation _ => true
  | _ => false

/-- The numbers of children that a node of this kind may have. Only an `eos` has a choice: it is
an empty statement, or it joins two statements. -/
def arities : Operand → List Nat
  | eos => [0, 2]
  | program | negate => [1]
  | assign | loop | relation _ | arithmetic _ => [2]
  | conditional => [3]
  | integer | number | identifier => [0]

/-- Whether a node of this kind may have `count` children. -/
def acceptsArity (kind : Operand) (count : Nat) : Bool := kind.arities.contains count

/-- The accepted numbers of children, in words. -/
def describeArity (kind : Operand) : String :=
  String.intercalate " or " (kind.arities.map toString)

end Operand

end TwinSyntax
