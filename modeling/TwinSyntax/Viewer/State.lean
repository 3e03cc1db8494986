import TwinSyntax.Session
import TwinSyntax.Viewer.StatusBar
import TwinSyntax.Viewer.TreePane

/-!
# The viewer

Shows a source text and its tree side by side. The state changes in two ways: a key is pressed
(`press`), or the screen is drawn (`draw`), which only settles how far the panes are scrolled.
-/

namespace TwinSyntax

/-- The panes that can have the focus. -/
inductive Pane where
  | source
  | tree
  deriving DecidableEq, Repr, Inhabited

/-- The other pane. -/
def Pane.other : Pane → Pane
  | source => tree
  | tree => source

/-- The keys that the viewer tells apart. -/
inductive Key where
  | up
  | down
  | home
  | end
  | tab
  | escape
  | character (c : Char)
  | other
  deriving DecidableEq, Repr, Inhabited

/-- The state of the viewer. -/
structure Viewer where
  source : String
  surface : Surface
  /-- The tree of the source, or what is wrong with the source. -/
  result : Except CompileError Node
  /-- The rows of the tree; none if there is no tree. -/
  rows : Array TreeRow
  /-- The selected row. -/
  selected : Nat
  focus : Pane
  sourceScroll : SourceScroll
  /-- How many rows are above the tree pane. -/
  treeScroll : Nat
  /-- Whether the user wants to leave. -/
  quitting : Bool
  /-- The message in the status bar. -/
  status : String

namespace Viewer

/-- The viewer of a source text, with the root of its tree selected. -/
def new (surface : Surface) (source : String) : Viewer :=
  let result := (compile surface source).map Prod.fst
  let rows := match result with
    | .ok tree => (TreeRow.ofTree tree).toArray
    | .error _ => #[]
  let status := match result with
    | .ok _ => "Compiled " ++ toString rows.size ++ " nodes"
    | .error e => e.message
  { source, surface, result, rows
    selected := 0
    focus := .tree
    sourceScroll := {}
    treeScroll := 0
    quitting := false
    status }

/-- The error, if the source does not compile. -/
def error? (v : Viewer) : Option CompileError :=
  match v.result with
  | .ok _ => none
  | .error e => some e

/-- The tree, if the source compiles. -/
def tree? (v : Viewer) : Option Node := v.result.toOption

/-- The span that the source pane marks: that of the error, or else that of the selected node. -/
def highlighted? (v : Viewer) : Option Span :=
  match v.result with
  | .error e => e.span?
  | .ok _ => v.rows[v.selected]?.bind TreeRow.span?

/-! ## Keys -/

/-- The message for a selected row. -/
def describe (row : TreeRow) : String :=
  match row.span? with
  | some span => row.kind.name ++ " at " ++ span.render
  | none => row.kind.name

/-- Selects the row `index`, or the last one if there are not that many. -/
def select (v : Viewer) (index : Nat) : Viewer :=
  let selected := min index (v.rows.size - 1)
  match v.rows[selected]? with
  | none => v
  | some row => { v with selected, status := describe row }

/-- Moves the marked line inside the source pane, if its row has been settled. -/
def moveMark (v : Viewer) (move : Nat → Nat) : Viewer :=
  { v with
    sourceScroll := { v.sourceScroll with targetRow? := v.sourceScroll.targetRow?.map move } }

/-- What a key does. Scrolling the source up moves the marked line down. -/
def press (v : Viewer) (key : Key) : Viewer :=
  match key, v.focus with
  | .escape, _ | .character 'q', _ | .character 'Q', _ => { v with quitting := true }
  | .tab, _ => { v with focus := v.focus.other }
  | .up, .tree => v.select (v.selected - 1)
  | .up, .source => v.moveMark (· + 1)
  | .down, .tree => v.select (v.selected + 1)
  | .down, .source => v.moveMark (· - 1)
  | .home, _ => v.select 0
  | .end, _ => v.select (v.rows.size - 1)
  | .character _, _ | .other, _ => v

/-! ## Drawing -/

/-- The areas of the source pane, the tree pane and the status bar on a screen of this size. -/
def layout (width height : Nat) : Area × Area × Area :=
  let (panes, bar) := Area.splitLastRow ⟨0, 0, width, height⟩
  let (source, tree) := panes.splitColumns 55
  (source, tree, bar)

/-- What the status bar shows. -/
def barContent (v : Viewer) : StatusBar.Content where
  message := v.status
  selected := v.selected
  total := v.rows.size
  name := v.surface.name
  isError := v.error?.isSome

/-- Draws everything on a blank screen of this size. -/
def draw (v : Viewer) (width height : Nat) : Screen × Viewer :=
  let (sourceArea, treeArea, barArea) := layout width height
  let screen := Screen.blank width height
  let (screen, sourceScroll) := SourcePane.draw screen sourceArea v.source v.highlighted?
    v.error?.isSome (v.focus == .source) v.sourceScroll
  let (screen, treeScroll) := TreePane.draw screen treeArea v.rows.toList v.selected
    v.surface.name (v.focus == .tree) v.treeScroll
  let screen := StatusBar.draw screen barArea v.barContent
  (screen, { v with sourceScroll, treeScroll })

end Viewer

end TwinSyntax
