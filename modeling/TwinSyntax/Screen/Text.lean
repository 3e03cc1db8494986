import TwinSyntax.Screen.Basic
import TwinSyntax.Text.Cluster
import TwinSyntax.Text.Lines
import TwinSyntax.Text.Measure

/-!
# Text on a screen

**Text.** A line is a list of fragments, each in one style.

**Glyphs.** What is drawn is not a character but a cluster of them, in the cell that it begins in. A
cluster never reaches from one fragment into the next.

**Covered cells.** A glyph that takes two cells or more covers the cell behind its own. A covered
cell is left blank, whatever is drawn into it.

**Fitting.** A line is cut where the first glyph does not fit any more. A glyph that is wider than
the whole area is passed over. A glyph that takes no cell at all is not drawn, except in a title,
where it is added to the symbol in front of it.
-/

namespace TwinSyntax

/-- A piece of text in one style. -/
structure Fragment where
  content : String
  style : Style := {}
  deriving DecidableEq, Repr, Inhabited

/-- A line of text. -/
abbrev Line := List Fragment

/-- The text of the line, without its styles. -/
def Line.content (line : Line) : String := String.join (line.map Fragment.content)

/-- A cluster of characters that is drawn as one, and the number of cells it takes. -/
structure Glyph where
  symbol : String
  width : Nat
  style : Style

namespace Glyph

/-- The glyphs of a fragment. A line feed is none. -/
def ofFragment (fragment : Fragment) : List Glyph :=
  ((clusters fragment.content).filter (· ≠ ['\n'])).map fun cluster =>
    let symbol := String.ofList cluster
    ⟨symbol, textWidth symbol, fragment.style⟩

/-- The glyphs of a line that can be seen. -/
def ofLine (line : Line) : List Glyph := (line.flatMap ofFragment).filter (·.width ≠ 0)

/-- The number of cells that glyphs take. -/
def totalWidth (glyphs : List Glyph) : Nat := glyphs.foldl (fun n g => n + g.width) 0

/-- The glyphs that fit into `width` cells of which `used` are taken already. -/
def fit (width used : Nat) : List Glyph → List Glyph
  | [] => []
  | g :: glyphs =>
    if width < g.width then fit width used glyphs
    else if width < used + g.width then []
    else g :: fit width (used + g.width) glyphs

end Glyph

namespace Screen

/-- Whether the cell in column `x` of a row is covered by the symbol in front of it. -/
def isCovered (row : Array Cell) (x : Nat) : Bool :=
  match x with
  | 0 => false
  | x + 1 => row[x]?.any fun cell => 1 < textWidth cell.symbol

/-- Blanks the cells of row `y` that are covered. -/
def blankCovered (s : Screen) (y : Nat) : Screen :=
  ⟨s.rows.modify y fun row => row.mapIdx fun x cell => if isCovered row x then {} else cell⟩

/-! ## Lines -/

/-- Draws glyphs into row `y`, from column `x` on, and blanks what they cover. -/
def drawGlyphs (s : Screen) (x y : Nat) : List Glyph → Screen
  | [] => s.blankCovered y
  | g :: glyphs =>
    (s.change x y (·.showing g.symbol g.style)).drawGlyphs (x + g.width) y glyphs

/-- Draws a line from the left edge of the first row of the area on. -/
def drawLine (s : Screen) (a : Area) (line : Line) : Screen :=
  if a.isEmpty then s else s.drawGlyphs a.x a.y (Glyph.fit a.width 0 (Glyph.ofLine line))

/-- Draws a line up to the right edge of the first row of the area. -/
def drawLineRight (s : Screen) (a : Area) (line : Line) : Screen :=
  if a.isEmpty then s
  else
    let glyphs := Glyph.fit a.width 0 (Glyph.ofLine line)
    s.drawGlyphs (a.x + (a.width - Glyph.totalWidth glyphs)) a.y glyphs

/-- Draws one line per row of the area, as many as there are rows. -/
def drawLines (s : Screen) (a : Area) (lines : List Line) : Screen :=
  ((lines.take a.height).zipIdx).foldl (fun s (line, i) => s.drawLine (a.row i) line) s

/-! ## Titles -/

/-- Draws glyphs of a title into row `y` from column `x` on, in front of column `right`. The piece
of the title that they belong to begins in column `left`; `first` says whether nothing of it is
drawn yet. -/
def drawTitleGlyphs (s : Screen) (y left right x : Nat) (first : Bool) : List Glyph → Screen
  | [] => s
  | g :: glyphs =>
    if right < x + g.width then s
    else
      let s :=
        if first then s.change x y (·.showing g.symbol g.style)
        else if x = left then s.change x y (·.adding g.symbol)
        else if g.width = 0 then s.change (x - 1) y (·.adding g.symbol)
        else s.change x y (·.showing g.symbol g.style)
      let s := s.changeRow (x + 1) y (g.width - 1) fun _ => {}
      s.drawTitleGlyphs y left right (x + g.width) false glyphs

/-- Draws the pieces of a title side by side into row `y`, from column `left` on, in front of column
`right`. -/
def drawTitlePieces (s : Screen) (y left right : Nat) : List String → Screen
  | [] => s.blankCovered y
  | piece :: pieces =>
    if right ≤ left then s.blankCovered y
    else
      let s := s.drawTitleGlyphs y left right left true (Glyph.ofFragment ⟨piece, {}⟩)
      s.drawTitlePieces y (left + textWidth piece) right pieces

/-- Draws a title from the left edge of the first row of the area on, in the style that is there.
Each of its lines is a piece, unless it takes no cell. The title gets the cells that its pieces take
as texts, which may be fewer than those of their glyphs. -/
def drawTitle (s : Screen) (a : Area) (title : String) : Screen :=
  if a.isEmpty then s
  else
    let pieces := (displayLines title).filter fun piece => textWidth piece ≠ 0
    let width := pieces.foldl (fun n piece => n + textWidth piece) 0
    s.drawTitlePieces a.y a.x (a.x + min width a.width) pieces

/-! ## Boxes -/

/-- Draws a box around the area with a title in its upper edge. Corners are drawn last, the upper
left one on top of all. -/
def drawBox (s : Screen) (a : Area) (title : String) (style : Style) : Screen :=
  if a.isEmpty then s
  else
    let right := a.x + a.width - 1
    let bottom := a.y + a.height - 1
    let edge (symbol : String) (c : Cell) : Cell := c.showing symbol style
    let s := s.changeColumn a.x a.y a.height (edge "│")
    let s := s.changeRow a.x a.y a.width (edge "─")
    let s := s.changeColumn right a.y a.height (edge "│")
    let s := s.changeRow a.x bottom a.width (edge "─")
    let s := s.change right bottom (edge "┘")
    let s := s.change right a.y (edge "┐")
    let s := s.change a.x bottom (edge "└")
    let s := s.change a.x a.y (edge "┌")
    s.drawTitle ⟨a.x + 1, a.y, a.width - 2, 1⟩ title

end Screen

end TwinSyntax
