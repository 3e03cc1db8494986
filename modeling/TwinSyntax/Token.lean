import TwinSyntax.Rational
import TwinSyntax.Text.Span

/-!
# Tokens

The tokens that both surfaces share. A line break is a token of its own, because one surface
ends statements with it. Literals carry their value and identifiers their name; every other kind
is determined by its spelling.
-/

namespace TwinSyntax

/-- What a token is, with its value where it has one. -/
inductive TokenKind where
  | integer (value : Int)
  | number (value : Rat)
  | identifier (name : String)
  | varWord
  | constWord
  | whileWord
  | ifWord
  | elseWord
  | endOfLine
  | semicolon
  | assign
  | less
  | greater
  | lessEqual
  | greaterEqual
  | equal
  | notEqual
  | plus
  | minus
  | star
  | slash
  | openParen
  | closeParen
  | openBrace
  | closeBrace
  | endOfFile
  deriving DecidableEq, Inhabited

namespace TokenKind

/-- The spelling of a keyword or of punctuation. -/
def spelling? : TokenKind → Option String
  | varWord => some "var"
  | constWord => some "const"
  | whileWord => some "while"
  | ifWord => some "if"
  | elseWord => some "else"
  | semicolon => some ";"
  | assign => some "="
  | less => some "<"
  | greater => some ">"
  | lessEqual => some "<="
  | greaterEqual => some ">="
  | equal => some "=="
  | notEqual => some "!="
  | plus => some "+"
  | minus => some "-"
  | star => some "*"
  | slash => some "/"
  | openParen => some "("
  | closeParen => some ")"
  | openBrace => some "\x7b"
  | closeBrace => some "\x7d"
  | integer _ | number _ | identifier _ | endOfLine | endOfFile => none

/-- The words that are not identifiers. -/
def keywords : List TokenKind := [varWord, constWord, whileWord, ifWord, elseWord]

/-- The keyword or identifier that a word is. -/
def ofWord (word : String) : TokenKind :=
  (keywords.find? (·.spelling? == some word)).getD (identifier word)

/-- How a message names a token of this kind. -/
def describe : TokenKind → String
  | integer value => "integer " ++ toString value
  | number value => "number " ++ Rational.render value
  | identifier name => "identifier '" ++ name ++ "'"
  | endOfLine => "end of line"
  | endOfFile => "end of file"
  | kind => "'" ++ kind.spelling?.getD "" ++ "'"

end TokenKind

/-- A token and the columns that it was read from. -/
structure Token where
  kind : TokenKind
  span : Span
  deriving DecidableEq, Inhabited

end TwinSyntax
