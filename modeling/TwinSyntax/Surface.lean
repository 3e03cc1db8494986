import TwinSyntax.Token

/-!
# Surfaces

A surface is one of the concrete forms of the language. Both have the same tokens and build the
same trees, and differ in two points.

**Ends of statements.** In `myrmidon` a line break ends a statement. In `sml` a semicolon does,
and line breaks are blanks.

**Bodies.** What `while`, `if` and `else` govern is any one statement in `myrmidon` and a braced
block in `sml`, where `else` also takes another `if`.
-/

namespace TwinSyntax

/-- A concrete form of the language. -/
inductive Surface where
  | myrmidon
  | sml
  deriving DecidableEq, Repr, Inhabited

namespace Surface

/-- All surfaces, in the order in which they are listed to a user. -/
def all : List Surface := [myrmidon, sml]

/-- The name that selects the surface. -/
def name : Surface → String
  | myrmidon => "myrmidon"
  | sml => "sml"

/-- The surface with this name; the case of ASCII letters does not matter. -/
def ofName? (name : String) : Option Surface :=
  all.find? fun surface => surface.name == name.map Char.toLower

/-- The token that ends a simple statement. On its own it is an empty statement. -/
def terminator : Surface → TokenKind
  | myrmidon => .endOfLine
  | sml => .semicolon

/-- Whether a body has to be a braced block. -/
def bracedBodies : Surface → Bool
  | myrmidon => false
  | sml => true

/-- Whether the grammar of the surface never sees a token of this kind. -/
def skips (surface : Surface) (kind : TokenKind) : Bool :=
  kind == .endOfLine && surface.terminator != .endOfLine

end Surface

end TwinSyntax
