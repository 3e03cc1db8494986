import TwinSyntax.Screen.Basic

/-!
# The colours of the viewer
-/

namespace TwinSyntax.Theme

/-- Plain text. -/
def text : Color := .rgb 205 214 244

/-- Brackets, and the position of the selection. -/
def primary : Color := .rgb 137 180 250

/-- The number of the marked line. -/
def secondary : Color := .rgb 250 179 135

/-- What should not stand out. -/
def comment : Color := .rgb 108 112 134

/-- The name of the surface while all is well. -/
def success : Color := .rgb 166 227 161

/-- Whatever belongs to an error. -/
def error : Color := .rgb 243 139 168

/-- Keywords, and the kinds of interior nodes. -/
def keyword : Color := .rgb 137 180 250

/-- Numbers. -/
def number : Color := .rgb 250 179 135

/-- Identifiers in the tree. -/
def identifier : Color := .rgb 148 226 213

/-- The box of the pane that has the focus. -/
def focusedBorder : Color := .rgb 249 226 175

/-- The box of any other pane. -/
def plainBorder : Color := .rgb 108 112 134

/-- Behind the marked line and the selected row. -/
def currentLine : Color := .rgb 50 50 70

/-- Behind the columns of the selected node. -/
def selection : Color := .rgb 88 91 112

/-- The style of the box of a pane. -/
def border (focused : Bool) : Style :=
  if focused then { foreground? := some focusedBorder, bold := true }
  else { foreground? := some plainBorder }

end TwinSyntax.Theme
