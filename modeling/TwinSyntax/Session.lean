import TwinSyntax.Grammar.Program

/-!
# Sessions

A session compiles one text after another on one surface. It shows the tree and the lines of the
last text that compiled and the error of the last one if that did not: a failed compilation changes
nothing but the error.
-/

namespace TwinSyntax

/-- The tree of a source text and its lines, or the first thing that is wrong with it. -/
def compile (surface : Surface) (source : String) : Except CompileError (Node × Array String) :=
  (parse surface source).map fun tree => (tree, sourceLines source)

/-- Why a session cannot show what it is asked for. -/
inductive SessionError where
  | noResult
  | lineOutOfRange (line count : Nat)
  deriving DecidableEq, Repr, Inhabited

/-- The error as it is shown. -/
def SessionError.message : SessionError → String
  | noResult => "no successful compile has produced a result yet"
  | lineOutOfRange line count =>
    "line " ++ toString line ++ " is out of range, source has " ++ toString count ++ " lines"

/-- What a session remembers. -/
structure Session where
  surface : Surface
  /-- Tree and lines of the last text that compiled. -/
  result? : Option (Node × Array String)
  /-- The error of the last text, if it did not compile. -/
  lastError? : Option CompileError

namespace Session

/-- A session that has not compiled anything. -/
def new (surface : Surface) : Session := ⟨surface, none, none⟩

/-- A session for the surface with this name. -/
def ofName? (name : String) : Option Session := (Surface.ofName? name).map new

/-- Compiles `source`. -/
def compile (session : Session) (source : String) : Except CompileError Unit × Session :=
  match TwinSyntax.compile session.surface source with
  | .ok result => (.ok (), { session with result? := some result, lastError? := none })
  | .error e => (.error e, { session with lastError? := some e })

/-- The tree of the last text that compiled. -/
def tree (session : Session) : Except SessionError Node :=
  match session.result? with
  | some (tree, _) => .ok tree
  | none => .error .noResult

/-- The lines of the last text that compiled. -/
def lines (session : Session) : Except SessionError (Array String) :=
  match session.result? with
  | some (_, lines) => .ok lines
  | none => .error .noResult

/-- One of these lines, counting from one. -/
def line (session : Session) (number : Nat) : Except SessionError String := do
  let lines ← session.lines
  match lineNumbered? lines number with
  | some line => .ok line
  | none => .error (.lineOutOfRange number lines.size)

end Session

end TwinSyntax
