import TwinSyntax.Grammar.Expression

/-!
# Statements

```text
statement   ::= assignment | loop | conditional | block | expr terminator
assignment  ::= IDENTIFIER '=' expr terminator
loop        ::= 'while' condition body
conditional ::= 'if' condition body [ 'else' body ]
block       ::= '{' statements '}'
statements  ::= ( statement | TERMINATOR )*
```

**Terminators.** In `myrmidon` a statement may also end where the file, an `else` or a closing brace
follows, which stays where it is. In `sml` it always takes its semicolon. A terminator on its own is
an empty statement, in a list of statements only: a body is never empty.

**Lists.** Statements are joined to the left, so the tree of a list is a chain of sentinels. A
syntax error inside a statement is recorded, the rest of the statement is discarded, and the list
goes on behind it.
-/

namespace TwinSyntax.Grammar

variable (g : Setting) (deeper : Deeper)

/-- Ends a simple statement. -/
def endStatement : Read Unit := do
  let kind ← peek
  if kind = g.surface.terminator then
    let _ ← advance g
  else
    match g.surface with
    | .myrmidon =>
      if kind = .endOfFile ∨ kind = .elseWord ∨ kind = .closeBrace then pure ()
      else unexpected .endOfLine
    | .sml => unexpected .semicolon

/-- The statement that starts with the identifier `name`: an assignment if an equals sign follows,
and an expression otherwise. -/
def assignmentOrExpression (name : String) : Read Node := do
  let target ← leaf g (.identifier name)
  if (← peek) = .assign then
    let assign ← advance g
    let value ← expression g deeper
    endStatement g
    build g .assign assign [target, value]
  else
    let value ← looping (continueExpression g deeper target 0)
    endStatement g
    return value

/-- A list of statements in braces, which leave no node of their own. -/
def block : Read Node := do
  let _ ← expect g .openBrace .openBrace
  let body ← nested (deeper.statements .closeBrace)
  let _ ← expect g .closeBrace .closeBrace
  return body

/-- What a loop or a branch of a conditional governs. -/
def body : Read Node :=
  nested do
    let kind ← peek
    if g.surface.bracedBodies then
      if kind = .openBrace then deeper.block else unexpected .openBrace
    else if kind = g.surface.terminator then unexpected .statement
    else deeper.statement

/-- A loop, at its keyword. -/
def loop : Read Node := do
  let keyword ← advance g
  let condition ← condition g deeper
  let body ← body g deeper
  build g .loop keyword [condition, body]

/-- What follows the first branch of a conditional. Where bodies are braced, another conditional may
stand behind `else` without braces. A branch that is left out is an empty statement. -/
def alternative : Read Node := do
  if (← peek) = .elseWord then
    let _ ← advance g
    let chained := g.surface.bracedBodies && (← peek) == .ifWord
    if chained then nested deeper.conditional else body g deeper
  else return .eos

/-- A conditional, at its keyword. -/
def conditional : Read Node := do
  let keyword ← advance g
  let condition ← condition g deeper
  let thenBranch ← body g deeper
  let elseBranch ← alternative g deeper
  build g .conditional keyword [condition, thenBranch, elseBranch]

/-- A statement. -/
def statement : Read Node := do
  match ← peek with
  | .whileWord => loop g deeper
  | .ifWord => conditional g deeper
  | .openBrace => block g deeper
  | .identifier name => assignmentOrExpression g deeper name
  | _ =>
    let value ← expression g deeper
    endStatement g
    return value

/-- A member of a list of statements, which may be empty. -/
def listed : Read Node := do
  if (← peek) = g.surface.terminator then
    let _ ← advance g
    return .eos
  else statement g deeper

/-- The list `list` with another statement behind it. -/
def joined (list : Option Node) (statement : Node) : Node :=
  match list with
  | none => statement
  | some list => .sequence list statement

/-- Goes on with the list `list` up to `closer` or the end of the file. -/
def continueStatements (closer : TokenKind) (list : Option Node) : Nat → Read Node
  | 0 => pure (list.getD .eos)
  | rounds + 1 => do
    let kind ← peek
    if kind = closer ∨ kind = .endOfFile then return list.getD .eos
    else
      recovering (listed g deeper)
        (fun statement => continueStatements closer (some (joined list statement)) rounds)
        (do
          looping (skipStatement g closer)
          continueStatements closer list rounds)

/-- The statements up to `closer` or the end of the file. -/
def statements (closer : TokenKind) : Read Node :=
  looping (continueStatements g deeper closer none)

end TwinSyntax.Grammar
