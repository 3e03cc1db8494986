import TwinSyntax.Screen.Text
import TwinSyntax.Text.Upper
import TwinSyntax.Viewer.Theme

/-!
# The status bar

On the left the position of the selection and a message, on the right the keys and the name of the
surface. The right part is moved to the right edge; where it does not fit, it is cut there.
-/

namespace TwinSyntax.StatusBar

/-- What the bar shows. -/
structure Content where
  message : String
  selected : Nat
  total : Nat
  name : String
  isError : Bool

/-- The style of the bar where nothing is written. -/
def base : Style := { background? := some Theme.currentLine }

/-- The style of plain text. -/
def plain : Style := { base with foreground? := some Theme.text }

/-- The style of separators. -/
def separator : Style := { base with foreground? := some Theme.comment }

/-- The style of keys. -/
def key : Style := { foreground? := some .black, background? := some Theme.comment }

/-- The style of a badge in the colour `color`. -/
def badge (color : Color) : Style :=
  { foreground? := some .black, background? := some color, bold := true }

/-- Position and message. -/
def left (content : Content) : Line :=
  let position :=
    if content.isError then " ERROR "
    else " Node " ++ toString (content.selected + 1) ++ "/" ++ toString content.total ++ " "
  let message : Style :=
    if content.isError then { base with foreground? := some Theme.error } else plain
  [⟨position, badge (if content.isError then Theme.error else Theme.primary)⟩,
    ⟨" | ", separator⟩, ⟨" " ++ content.message ++ " ", message⟩]

/-- Keys and name. -/
def right (content : Content) : Line :=
  [⟨" ↑/↓ ", key⟩, ⟨" select ", plain⟩, ⟨"│", separator⟩, ⟨" ", plain⟩, ⟨" ⇥ ", key⟩,
    ⟨" focus ", plain⟩, ⟨"│", separator⟩, ⟨" ", plain⟩, ⟨"q", key⟩, ⟨" quit ", plain⟩,
    ⟨"│", separator⟩,
    ⟨" " ++ upper content.name ++ " ",
      badge (if content.isError then Theme.error else Theme.success)⟩]

/-- Draws the bar into the area. -/
def draw (screen : Screen) (area : Area) (content : Content) : Screen :=
  let (leftArea, rightArea) := area.splitColumns 60
  let screen := (screen.style leftArea base).drawLine leftArea (left content)
  (screen.style rightArea base).drawLineRight rightArea (right content)

end TwinSyntax.StatusBar
