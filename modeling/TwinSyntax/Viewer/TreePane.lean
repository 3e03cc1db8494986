import TwinSyntax.Tree.Walk
import TwinSyntax.Viewer.SourcePane

/-!
# The tree pane

Shows one row per node of the tree, parents before children, indented by depth: kind, value and
place. One row is selected, and the pane scrolls no further than it must to show it.
-/

namespace TwinSyntax

/-- What the pane shows of a node. -/
structure TreeRow where
  depth : Nat
  kind : Operand
  payload? : Option String
  span? : Option Span
  deriving DecidableEq, Repr, Inhabited

namespace TreeRow

/-- The row of a node at this depth. -/
def ofNode (depth : Nat) (node : Node) : TreeRow :=
  ⟨depth, node.kind, node.payload?.map Payload.render, node.origin?.map Location.span⟩

/-- The rows of a tree. -/
def ofTree (tree : Node) : List TreeRow := tree.walk.map fun (depth, node) => ofNode depth node

/-- The style of the kind of a node. -/
def kindStyle : Operand → Style
  | .eos => { foreground? := some Theme.comment }
  | .integer | .number => { foreground? := some Theme.number }
  | .identifier => { foreground? := some Theme.identifier }
  | _ => { foreground? := some Theme.keyword, bold := true }

/-- The row as it is drawn. -/
def line (row : TreeRow) (selected : Bool) : Line :=
  let place (span : Span) : String :=
    "  " ++ toString span.line ++ ":" ++ toString span.colStart ++ "-" ++ toString span.colEnd
  let fragments : Line :=
    [⟨"".pushn ' ' (2 * row.depth), {}⟩, ⟨row.kind.name, kindStyle row.kind⟩] ++
      (row.payload?.map fun payload =>
        ⟨" " ++ payload, { foreground? := some Theme.text }⟩).toList ++
      (row.span?.map fun span => ⟨place span, { foreground? := some Theme.comment }⟩).toList
  if selected then
    fragments.map fun f =>
      { f with style := f.style.on { background? := some Theme.currentLine } }
  else fragments

end TreeRow

namespace TreePane

/-- The number of rows above a pane of `visible` rows that shows the row `selected`, as near to
`offset` as possible. -/
def scrollTo (offset selected visible : Nat) : Nat :=
  if selected < offset then selected
  else if offset + visible ≤ selected then selected + 1 - visible
  else offset

/-- What is shown in place of a tree that there is not. -/
def placeholder : Line := [⟨"no tree: compile failed", { foreground? := some Theme.error }⟩]

/-- The rows that are seen in a pane of `visible` rows with `offset` rows above it. -/
def visibleLines (rows : List TreeRow) (offset visible selected : Nat) : List Line :=
  (((rows.zipIdx).drop offset).take visible).map fun (row, i) => row.line (i == selected)

/-- Draws the pane into the area, scrolled to the selected row. -/
def draw (screen : Screen) (area : Area) (rows : List TreeRow) (selected : Nat) (name : String)
    (focused : Bool) (scroll : Nat) : Screen × Nat :=
  let screen := screen.drawBox area (" AST (" ++ name ++ ") ") (Theme.border focused)
  if rows.isEmpty then (screen.drawLines area.inner [placeholder], scroll)
  else
    let visible := visibleRows area.height
    let scroll := scrollTo scroll selected visible
    (screen.drawLines area.inner (visibleLines rows scroll visible selected), scroll)

example : scrollTo 0 3 10 = 0 ∧ scrollTo 0 12 10 = 3 ∧ scrollTo 5 2 10 = 2 := by decide

end TreePane

end TwinSyntax
