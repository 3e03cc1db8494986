import TwinSyntax.Tree.Walk

/-!
# Trees as text

**Compact form** (`render`). `Add(Integer(2), Mul(Integer(3), Integer(4)))`: the name of the
kind, and in brackets the value of a leaf or the children.

**Outline** (`outline`). One line per node, parents before children, indented by depth: kind,
value, location.
-/

namespace TwinSyntax

/-- Output that is still to be written: a tree or plain text. -/
inductive Piece where
  | tree (node : Node)
  | text (text : String)

/-- The tree that a piece is, if it is one. -/
def Piece.tree? : Piece → Option Node
  | tree node => some node
  | text _ => none

namespace Node

/-- The pieces that stand between the brackets of a node with these children. -/
def separated : List Node → List Piece
  | [] => []
  | [last] => [.tree last]
  | child :: rest => .tree child :: .text ", " :: separated rest

@[simp] theorem trees_separated (children : List Node) :
    (separated children).filterMap Piece.tree? = children := by
  fun_induction separated children <;> simp_all [List.filterMap_cons, Piece.tree?]

/-- Writes the pieces behind `out`, first to last. -/
def renderPieces (pieces : List Piece) (out : String) : String :=
  match pieces with
  | [] => out
  | .text text :: rest => renderPieces rest (out ++ text)
  | .tree node :: rest =>
    match node.payload? with
    | some value => renderPieces rest (out ++ node.kind.name ++ "(" ++ value.render ++ ")")
    | none =>
      if node.children.isEmpty then renderPieces rest (out ++ node.kind.name)
      else
        renderPieces (separated node.children ++ .text ")" :: rest) (out ++ node.kind.name ++ "(")
termination_by (totalSize (pieces.filterMap Piece.tree?), pieces.length)
decreasing_by
  · exact Prod.Lex.right' _ (by simp [List.filterMap_cons, Piece.tree?]) (by simp)
  · have h := size_eq node
    exact Prod.Lex.left _ _ (by simp [Piece.tree?, totalSize]; omega)
  · have h := size_eq node
    exact Prod.Lex.left _ _ (by simp [Piece.tree?, totalSize]; omega)
  · have h := size_eq node
    exact Prod.Lex.left _ _ (by simp [List.filterMap_cons, Piece.tree?, totalSize]; omega)

/-- The tree in compact form. -/
def render (n : Node) : String := renderPieces [.tree n] ""

/-- The node on one line: kind, value, location. -/
def label (n : Node) : String :=
  let value := (n.payload?.map fun value => " " ++ value.render).getD ""
  let place := (n.origin?.map fun origin => "  [" ++ origin.span.render ++ "]").getD ""
  n.kind.name ++ value ++ place

/-- One line per node of the tree. -/
def outline (n : Node) : String :=
  n.walk.foldl (fun out (depth, node) => (out.pushn ' ' (2 * depth)) ++ node.label ++ "\n") ""

end Node

end TwinSyntax
