import TwinSyntax.Text.Escape
import TwinSyntax.Token
import TwinSyntax.Tree.Node

/-!
# Diagnostics

What can be wrong with a source text, as causes. The wording is in one function per type.

**Form.** An error that comes from the input is shown as `line L,S-E: text`. A malformed node is a
defect of whoever builds the tree, so it has no place in the source and says so.
-/

namespace TwinSyntax

/-- Why the scanner cannot read what it has in front of it. `other` is for sources of tokens that
find faults of their own. -/
inductive LexFault where
  | strayBang
  | strayCharacter (c : Char)
  | badInteger (text : String)
  | badNumber (text : String)
  | other (reason : String)
  deriving DecidableEq, Repr, Inhabited

/-- The wording of a fault. -/
def LexFault.text : LexFault → String
  | strayBang => "unexpected character '!', expecting '!='"
  | strayCharacter c => "unexpected character '" ++ escapeChar c ++ "'"
  | badInteger text => "invalid integer literal '" ++ text ++ "'"
  | badNumber text => "invalid number literal '" ++ text ++ "'"
  | other reason => reason

/-- A stretch of the source that is no token. -/
structure LexError where
  span : Span
  fault : LexFault
  deriving DecidableEq, Repr, Inhabited

/-- The error as it is shown. -/
def LexError.message (e : LexError) : String := e.span.render ++ ": " ++ e.fault.text

/-- What the grammar was looking for. -/
inductive Expectation where
  | expression
  | relation
  | statement
  | endOfLine
  | semicolon
  | closeParen
  | openBrace
  | closeBrace
  | endOfFile
  deriving DecidableEq, Repr, Inhabited

/-- The wording of an expectation. -/
def Expectation.text : Expectation → String
  | expression => "expression"
  | relation => "relational operator"
  | statement => "statement"
  | endOfLine => "end of line"
  | semicolon => "';'"
  | closeParen => "')'"
  | openBrace => "'\x7b'"
  | closeBrace => "'\x7d'"
  | endOfFile => "end of file"

/-- Why the grammar does not go on. `noProgram` is for an outcome that has neither a tree nor a
diagnostic. -/
inductive SyntaxFault where
  | unexpected (found : TokenKind) (expecting : Expectation)
  | nestingTooDeep
  | tooManyErrors
  | noProgram
  deriving DecidableEq, Inhabited

/-- The wording of a fault. -/
def SyntaxFault.text : SyntaxFault → String
  | unexpected found expecting =>
    "syntax error: unexpected " ++ found.describe ++ ", expecting " ++ expecting.text
  | nestingTooDeep => "syntax error: nesting too deep"
  | tooManyErrors => "too many syntax errors, giving up"
  | noProgram => "syntax error: no program produced"

/-- A token that the grammar cannot take. -/
structure SyntaxError where
  span : Span
  fault : SyntaxFault
  deriving DecidableEq, Inhabited

/-- The error as it is shown. -/
def SyntaxError.message (e : SyntaxError) : String := e.span.render ++ ": " ++ e.fault.text

/-- Everything that a compilation can fail with. -/
inductive CompileError where
  | lexical (error : LexError)
  | grammatical (error : SyntaxError)
  | malformed (error : MalformedNode)
  deriving DecidableEq, Inhabited

namespace CompileError

/-- The place in the source, if the error comes from there. -/
def span? : CompileError → Option Span
  | lexical e => some e.span
  | grammatical e => some e.span
  | malformed _ => none

/-- The error as it is shown. -/
def message : CompileError → String
  | lexical e => e.message
  | grammatical e => e.message
  | malformed e => "internal error: " ++ e.message

end CompileError

end TwinSyntax
