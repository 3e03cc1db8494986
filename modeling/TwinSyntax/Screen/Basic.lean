/-!
# Character screens

A screen is a grid of cells. A cell shows a symbol, which is what a reader takes for one character,
in two colours.

**Styles.** A style says which colours it wants and whether it wants bold; what it does not want it
leaves alone. Styling a cell changes only that, and `Style.on` stacks one style on another.

**Areas.** Drawing happens inside rectangles. What lies outside the screen is dropped.
-/

namespace TwinSyntax

/-- The colours that are drawn with. `reset` is the colour that the terminal has anyway. -/
inductive Color where
  | reset
  | black
  | white
  | rgb (red green blue : Nat)
  deriving DecidableEq, Repr, Inhabited

/-- What a drawing operation wants a cell to look like. -/
structure Style where
  foreground? : Option Color := none
  background? : Option Color := none
  bold : Bool := false
  deriving DecidableEq, Repr, Inhabited

/-- `top` where it wants something, `base` elsewhere. -/
def Style.on (top base : Style) : Style where
  foreground? := top.foreground?.or base.foreground?
  background? := top.background?.or base.background?
  bold := base.bold || top.bold

/-- One cell of a screen. It starts out blank. -/
structure Cell where
  symbol : String := " "
  foreground : Color := .reset
  background : Color := .reset
  bold : Bool := false
  deriving DecidableEq, Repr, Inhabited

namespace Cell

/-- The cell in another style. -/
def styled (c : Cell) (style : Style) : Cell :=
  { c with
    foreground := style.foreground?.getD c.foreground
    background := style.background?.getD c.background
    bold := c.bold || style.bold }

/-- The cell with another symbol, in another style. -/
def showing (c : Cell) (symbol : String) (style : Style) : Cell :=
  { c with symbol := symbol }.styled style

/-- The cell with a symbol drawn onto the one it has. -/
def adding (c : Cell) (symbol : String) : Cell := { c with symbol := c.symbol ++ symbol }

end Cell

/-- A rectangle of cells. -/
structure Area where
  x : Nat
  y : Nat
  width : Nat
  height : Nat
  deriving DecidableEq, Repr, Inhabited

namespace Area

/-- Whether the area has no cells. -/
def isEmpty (a : Area) : Bool := a.width == 0 || a.height == 0

/-- The area without its outermost cells. -/
def inner (a : Area) : Area := ⟨a.x + 1, a.y + 1, a.width - 2, a.height - 2⟩

/-- The row `i` of the area. -/
def row (a : Area) (i : Nat) : Area := ⟨a.x, a.y + i, a.width, 1⟩

/-- The area without its last row, and that row. -/
def splitLastRow (a : Area) : Area × Area :=
  let above := a.height - 1
  (⟨a.x, a.y, a.width, above⟩, ⟨a.x, a.y + above, a.width, a.height - above⟩)

/-- The left part of the area and the rest. The left part has `percent` hundredths of the width,
rounded to the nearest number of cells, a half upwards. -/
def splitColumns (a : Area) (percent : Nat) : Area × Area :=
  let left := (2 * percent * a.width + 100) / 200
  (⟨a.x, a.y, left, a.height⟩, ⟨a.x + left, a.y, a.width - left, a.height⟩)

end Area

/-- A grid of cells, row by row. -/
structure Screen where
  rows : Array (Array Cell)
  deriving DecidableEq, Repr, Inhabited

namespace Screen

/-- A screen of blank cells. -/
def blank (width height : Nat) : Screen := ⟨Array.replicate height (Array.replicate width {})⟩

/-- Changes the cell in column `x` of row `y`, if there is one. -/
def change (s : Screen) (x y : Nat) (f : Cell → Cell) : Screen :=
  ⟨s.rows.modify y fun row => row.modify x f⟩

/-- Changes `count` cells of row `y`, from column `x` on. -/
def changeRow (s : Screen) (x y count : Nat) (f : Cell → Cell) : Screen :=
  count.fold (fun i _ s => s.change (x + i) y f) s

/-- Changes `count` cells of column `x`, from row `y` on. -/
def changeColumn (s : Screen) (x y count : Nat) (f : Cell → Cell) : Screen :=
  count.fold (fun i _ s => s.change x (y + i) f) s

/-- Styles every cell of the area. -/
def style (s : Screen) (a : Area) (style : Style) : Screen :=
  a.height.fold (fun i _ s => s.changeRow a.x (a.y + i) a.width (·.styled style)) s

end Screen

end TwinSyntax
