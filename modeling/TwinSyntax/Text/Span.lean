/-!
# Places in a source text

Lines and columns count from one, columns in characters. A `Span` is a run of columns of one
line; a `Location` is a span together with the text of its line, which is what a tree node
remembers of the source.
-/

namespace TwinSyntax

/-- A run of columns of one source line. The end column is the first one behind the run. -/
structure Span where
  line : Nat
  colStart : Nat
  colEnd : Nat
  deriving DecidableEq, Repr, Inhabited

/-- A span as diagnostics and listings write it: `line 3,5-6`. -/
def Span.render (s : Span) : String :=
  "line " ++ toString s.line ++ "," ++ toString s.colStart ++ "-" ++ toString s.colEnd

/-- A span and the text of the source line that it lies on. -/
structure Location where
  span : Span
  lineText : String
  deriving DecidableEq, Repr, Inhabited

end TwinSyntax
