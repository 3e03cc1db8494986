import TwinSyntax.Grammar.Statement
import TwinSyntax.Token.Scan
import TwinSyntax.Tree.Walk

/-!
# Programs

**Levels** (`level`). The rules at one level of nesting are the rules of this grammar over those one
level deeper. Since at most `maxNesting` levels can be open, a tower of `maxNesting + 1` levels has
one for each of them, and the level below the tower is never reached.

**A run** (`Reader.program`). Reads a whole program. The outcome has a tree or diagnostics. The
reader that comes back stands behind what was read, with no diagnostics.
-/

namespace TwinSyntax

namespace Grammar

/-- The rules below every level of nesting that may be open. -/
def bottom : Deeper where
  unary := fail .nestingTooDeep
  expression := fail .nestingTooDeep
  clause := fail .nestingTooDeep
  statement := fail .nestingTooDeep
  conditional := fail .nestingTooDeep
  block := fail .nestingTooDeep
  statements _ := fail .nestingTooDeep

/-- The rules of the grammar, with `n` levels of nesting below them. -/
def level (g : Setting) : Nat → Deeper
  | 0 => bottom
  | n + 1 =>
    let deeper := level g n
    { unary := unary g deeper
      expression := expression g deeper
      clause := clause g deeper
      statement := statement g deeper
      conditional := conditional g deeper
      block := block g deeper
      statements := statements g deeper }

/-- All statements up to the end of the file, and the end of the file. -/
def wholeFile (g : Setting) : Read Node := do
  let body ← (level g (maxNesting + 1)).statements .endOfFile
  let _ ← expect g .endOfFile .endOfFile
  return body

end Grammar

/-- What reading a program comes to. -/
structure Outcome where
  /-- The tree, if there are no diagnostics. -/
  tree? : Option Node
  /-- All errors, in the order in which they were found. -/
  diagnostics : List CompileError

namespace Outcome

/-- The first error. -/
def firstError? (o : Outcome) : Option CompileError := o.diagnostics.head?

/-- The tree, or the first error. -/
def result (o : Outcome) : Except CompileError Node :=
  match o.tree?, o.diagnostics with
  | some tree, [] => .ok tree
  | _, e :: _ => .error e
  | none, [] => .error (.grammatical ⟨⟨1, 1, 1⟩, .noProgram⟩)

end Outcome

/-- A source of tokens that is being read as a program of some surface. -/
structure Reader where
  surface : Surface
  endSpan : Span
  locate : Span → Location
  state : Grammar.Reading

namespace Reader

/-- Starts to read, which fails if the first token the grammar would see is a lexical error. -/
def start (surface : Surface) (source : TokenSource) : Except CompileError Reader :=
  match Grammar.pull surface source.endSpan source.items with
  | (.ok first, rest) =>
    .ok ⟨surface, source.endSpan, source.locate, ⟨first, rest, 0, [], rest.length + 2⟩⟩
  | (.error e, _) => .error (.lexical e)

/-- The items that have not been pulled from the source. -/
def unread (r : Reader) : List TokenItem := r.state.unread

/-- The setting for a run over the source. -/
def setting (r : Reader) : Grammar.Setting := ⟨r.surface, r.endSpan, r.locate⟩

/-- Reads a whole program. -/
def program (r : Reader) : Outcome × Reader :=
  match Grammar.wholeFile r.setting r.state with
  | .ok body s =>
    let tree? :=
      if s.diagnostics.isEmpty then some (.program (r.locate ⟨1, 1, 1⟩) body) else none
    (⟨tree?, s.diagnostics⟩, { r with state := { s with diagnostics := [] } })
  | .error e s => (⟨none, s.diagnostics ++ [e]⟩, { r with state := { s with diagnostics := [] } })

end Reader

/-- The tree of a source text, or the first thing that is wrong with it. -/
def parse (surface : Surface) (source : String) : Except CompileError Node :=
  match Reader.start surface (lex source) with
  | .error e => .error e
  | .ok reader => reader.program.1.result

example : (parse .myrmidon "-a - b * 2 - c").toOption.map (·.walk.map (·.2.kind)) =
    some [.program, .arithmetic .sub, .arithmetic .sub, .negate, .identifier, .arithmetic .mul,
      .identifier, .integer, .identifier] := by decide +kernel

example : (match parse .sml "x = 1\ny = 2;" with
    | .ok _ => none
    | .error e => e.span?) = some ⟨2, 1, 2⟩ := by decide +kernel

end TwinSyntax
