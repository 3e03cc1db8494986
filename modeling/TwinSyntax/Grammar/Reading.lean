import TwinSyntax.Surface
import TwinSyntax.Token.Source

/-!
# Reading tokens

The grammar looks at one token at a time. This file has the state of a run and the few steps that
touch it; every rule of the grammar is put together from them.

**State** (`Reading`). The current token, the items behind it, how many levels of nesting are open,
and the diagnostics so far.

**Runs** (`Read`). A rule takes the state and ends with a value or an error; either way it says in
which state it stopped, because recovery goes on from there.

**Nesting** (`nested`). Parentheses, unary minus, blocks and bodies open a level each. At most
`maxNesting` may be open at once. A level that was opened is closed again whether its content
succeeds or not; an attempt to open one too many still counts, and whoever recovers resets the
count.
-/

namespace TwinSyntax.Grammar

/-- The levels of nesting that may be open at once. -/
def maxNesting : Nat := 256

/-- The diagnostics that are collected before reading is given up. -/
def maxDiagnostics : Nat := 25

/-- What stays fixed while a program is read. -/
structure Setting where
  surface : Surface
  endSpan : Span
  locate : Span → Location

/-- How far reading has come. Every round of a loop but the last takes a token, so `rounds` is
chosen from the number of items and never runs out. -/
structure Reading where
  current : Token
  unread : List TokenItem
  depth : Nat
  diagnostics : List CompileError
  rounds : Nat

/-- A run of a rule of the grammar. -/
abbrev Read := EStateM CompileError Reading

/-! ## Tokens -/

/-- The next token that the grammar sees, or the lexical error that comes first, and the items
behind it. -/
def pull (surface : Surface) (endSpan : Span) :
    List TokenItem → Except LexError Token × List TokenItem
  | [] => (.ok ⟨.endOfFile, endSpan⟩, [])
  | .error e :: rest => (.error e, rest)
  | .ok token :: rest =>
    if surface.skips token.kind then pull surface endSpan rest else (.ok token, rest)

/-- The kind of the current token. -/
def peek : Read TokenKind := fun s => .ok s.current.kind s

/-- Takes the current token and moves on to the next one. A lexical error is taken instead of a
token and leaves the current one where it is. -/
def advance (g : Setting) : Read Token := fun s =>
  match pull g.surface g.endSpan s.unread with
  | (.ok next, rest) => .ok s.current { s with current := next, unread := rest }
  | (.error e, rest) => .error (.lexical e) { s with unread := rest }

/-- Fails at the current token. -/
def fail {α : Type} (fault : SyntaxFault) : Read α := fun s =>
  .error (.grammatical ⟨s.current.span, fault⟩) s

/-- Fails because the current token is not what should stand here. -/
def unexpected {α : Type} (expecting : Expectation) : Read α := fun s =>
  fail (.unexpected s.current.kind expecting) s

/-- Takes a token of the kind `kind`, or fails. -/
def expect (g : Setting) (kind : TokenKind) (expecting : Expectation) : Read Token := do
  if (← peek) = kind then advance g else unexpected expecting

/-- Runs a loop, with as many rounds as it may need. -/
def looping {α : Type} (loop : Nat → Read α) : Read α := fun s => loop s.rounds s

/-! ## Nesting -/

/-- Opens a level of nesting, unless too many are open. -/
def enter : Read Unit := fun s =>
  let opened := { s with depth := s.depth + 1 }
  if opened.depth > maxNesting then fail .nestingTooDeep opened else .ok () opened

/-- Closes the innermost level of nesting. -/
def Reading.leave (s : Reading) : Reading := { s with depth := s.depth - 1 }

/-- Runs `content` one level deeper. -/
def nested {α : Type} (content : Read α) : Read α := fun s =>
  match enter s with
  | .error e s => .error e s
  | .ok () s =>
    match content s with
    | .ok a s => .ok a s.leave
    | .error e s => .error e s.leave

/-! ## Recovery -/

/-- Runs `statement` and hands over a syntax error instead of failing with it, with as many levels
of nesting open as there were before. Other errors stay errors. -/
def attempt {α : Type} (statement : Read α) : Read (Except SyntaxError α) := fun s =>
  match statement s with
  | .ok a s' => .ok (.ok a) s'
  | .error (.grammatical e) s' => .ok (.error e) { s' with depth := s.depth }
  | .error e s' => .error e s'

/-- Records `e`. The diagnostic that reaches the limit is recorded and then reading is given up; an
error beyond that only passes through on its way out. -/
def record (e : SyntaxError) : Read Unit := fun s =>
  if s.diagnostics.length ≥ maxDiagnostics then .error (.grammatical e) s
  else
    let s := { s with diagnostics := s.diagnostics ++ [.grammatical e] }
    if s.diagnostics.length ≥ maxDiagnostics then fail .tooManyErrors s else .ok () s

/-- Runs `statement` and goes on with `next`. A syntax error is recorded instead, and `resume` goes
on behind it. -/
def recovering {α β : Type} (statement : Read α) (next : α → Read β) (resume : Read β) :
    Read β := do
  match ← attempt statement with
  | .ok a => next a
  | .error e =>
    record e
    resume

/-- Discards tokens up to and including the next terminator, but neither `closer` nor the end of
the file. -/
def skipStatement (g : Setting) (closer : TokenKind) : Nat → Read Unit
  | 0 => pure ()
  | rounds + 1 => do
    let kind ← peek
    if kind = g.surface.terminator then
      let _ ← advance g
    else if kind = .endOfFile ∨ kind = closer then pure ()
    else
      let _ ← advance g
      skipStatement g closer rounds

end TwinSyntax.Grammar
