import TwinSyntax.Decimal
import TwinSyntax.Text.Lines
import TwinSyntax.Token.Source

/-!
# Scanning a text

**One lexeme** (`scan`). The character in front decides which kind of lexeme follows, and the
lexeme is as long as its kind allows. What is read is a token or a fault; either way the lexeme is
used up, so scanning can go on behind it.

**A whole text** (`lex`). Blanks between lexemes are skipped. A lexeme never crosses a line
break, so its columns are those of the line that it starts on.

**Numbers.** Digits and points accumulate greedily, so that `1.2.3` is one bad literal. An exponent
mark belongs to the literal only if a digit follows it, with or without a sign between: `2else` is
an integer and a keyword. A literal of digits alone is an integer and has to fit a signed 64-bit
word; any other is decimal notation.
-/

namespace TwinSyntax

/-- A lexeme at the front of a text: what it reads as, how many characters it has, and the text
behind it. -/
structure Lexeme where
  reading : Except LexFault TokenKind
  width : Nat
  rest : List Char

namespace Lexeme

/-! ## Classes of characters -/

/-- Spaces, tabs and carriage returns separate lexemes. A line break is a token. -/
def isBlank (c : Char) : Bool := c == ' ' || c == '\t' || c == '\r'

/-- Whether a word can start with `c`. -/
def startsWord (c : Char) : Bool := c.isAlpha || c == '_'

/-- Whether a word can go on with `c`. -/
def continuesWord (c : Char) : Bool := c.isAlphanum || c == '_'

/-- Whether a number can start with `c`. -/
def startsNumber (c : Char) : Bool := c.isDigit || c == '.'

/-- The token that `c` is, whatever follows. -/
def single? : Char → Option TokenKind
  | '\n' => some .endOfLine
  | '+' => some .plus
  | '-' => some .minus
  | '*' => some .star
  | '/' => some .slash
  | '(' => some .openParen
  | ')' => some .closeParen
  | '\x7b' => some .openBrace
  | '\x7d' => some .closeBrace
  | ';' => some .semicolon
  | _ => none

/-- What `c` reads as on its own and what it reads as with an equals sign behind it, if `c` can
have one. -/
def paired? : Char → Option (Except LexFault TokenKind × TokenKind)
  | '=' => some (.ok .assign, .equal)
  | '<' => some (.ok .less, .lessEqual)
  | '>' => some (.ok .greater, .greaterEqual)
  | '!' => some (.error .strayBang, .notEqual)
  | _ => none

/-! ## Kinds of lexemes -/

/-- The characters of a number that go on in `text`, appended to `taken`, which is in reverse
order, and the text behind them. -/
def takeNumber (taken : List Char) (text : List Char) : List Char × List Char :=
  match text with
  | [] => (taken.reverse, [])
  | c :: text =>
    if startsNumber c then takeNumber (c :: taken) text
    else if Decimal.isExponentMark c then
      match text with
      | [] => (taken.reverse, [c])
      | [d] => if d.isDigit then ((d :: c :: taken).reverse, []) else (taken.reverse, [c, d])
      | d :: d' :: text =>
        if d.isDigit then takeNumber (d :: c :: taken) (d' :: text)
        else if (d == '+' || d == '-') && d'.isDigit then takeNumber (d' :: d :: c :: taken) text
        else (taken.reverse, c :: d :: d' :: text)
    else (taken.reverse, c :: text)

/-- What the text of a number reads as. -/
def readNumber (text : List Char) : Except LexFault TokenKind :=
  if text.all Char.isDigit then
    let value := Decimal.natOfDigits text
    if value < Decimal.wordLimit then .ok (.integer value)
    else .error (.badInteger (String.ofList text))
  else
    match Decimal.parse? text with
    | some value => .ok (.number value)
    | none => .error (.badNumber (String.ofList text))

/-- The number that starts with `c`. -/
def number (c : Char) (text : List Char) : Lexeme :=
  let (taken, rest) := takeNumber [c] text
  ⟨readNumber taken, taken.length, rest⟩

/-- The keyword or identifier that starts with `c`. -/
def word (c : Char) (text : List Char) : Lexeme :=
  let taken := c :: text.takeWhile continuesWord
  ⟨.ok (.ofWord (String.ofList taken)), taken.length, text.dropWhile continuesWord⟩

/-- The operator that starts with `c`, or the fault that `c` is. -/
def operator (c : Char) (text : List Char) : Lexeme :=
  match single? c, paired? c, text with
  | some kind, _, _ => ⟨.ok kind, 1, text⟩
  | none, some (_, pair), '=' :: rest => ⟨.ok pair, 2, rest⟩
  | none, some (alone, _), _ => ⟨alone, 1, text⟩
  | none, none, _ => ⟨.error (.strayCharacter c), 1, text⟩

/-- The lexeme at the front of `c :: text`. -/
def scan (c : Char) (text : List Char) : Lexeme :=
  if startsNumber c then number c text
  else if startsWord c then word c text
  else operator c text

theorem length_takeNumber_le (taken text : List Char) :
    (takeNumber taken text).2.length ≤ text.length := by
  fun_induction takeNumber taken text <;> grind

theorem length_rest_scan_le (c : Char) (text : List Char) :
    (scan c text).rest.length ≤ text.length := by
  unfold scan
  split
  · exact length_takeNumber_le [c] text
  split
  · exact (List.dropWhile_suffix _).length_le
  · unfold operator
    split <;> simp

/-- The lexeme as an item that starts at this place. -/
def item (lexeme : Lexeme) (line column : Nat) : TokenItem :=
  let span : Span := ⟨line, column, column + lexeme.width⟩
  match lexeme.reading with
  | .ok kind => .ok ⟨kind, span⟩
  | .error fault => .error ⟨span, fault⟩

end Lexeme

/-- Scans `text`, whose first character stands at this place, appending to `items`. Returns all
items and where the text ends. -/
def lexFrom (line column : Nat) (text : List Char) (items : Array TokenItem) :
    Array TokenItem × Span :=
  match text with
  | [] => (items, ⟨line, column, column⟩)
  | c :: text =>
    if Lexeme.isBlank c then lexFrom line (column + 1) text items
    else
      let lexeme := Lexeme.scan c text
      let items := items.push (lexeme.item line column)
      if c = '\n' then lexFrom (line + 1) 1 lexeme.rest items
      else lexFrom line (column + lexeme.width) lexeme.rest items
termination_by text.length
decreasing_by
  · simp
  · have h := Lexeme.length_rest_scan_le c text
    simp
    omega
  · have h := Lexeme.length_rest_scan_le c text
    simp
    omega

/-- The tokens and lexical errors of a text, and where the text ends. -/
def lexText (text : List Char) : List TokenItem × Span :=
  let (items, endSpan) := lexFrom 1 1 text #[]
  (items.toList, endSpan)

/-- The token source that reads a source text. -/
def lex (source : String) : TokenSource :=
  let (items, endSpan) := lexText source.toList
  ⟨items, endSpan, locate (sourceLines source)⟩

example : (lexText "2else".toList).1 =
    [.ok ⟨.integer 2, ⟨1, 1, 2⟩⟩, .ok ⟨.elseWord, ⟨1, 2, 6⟩⟩] := by cbv

example : (lexText "1.2.3\n!".toList).1 =
    [.error ⟨⟨1, 1, 6⟩, .badNumber "1.2.3"⟩, .ok ⟨.endOfLine, ⟨1, 6, 7⟩⟩,
      .error ⟨⟨2, 1, 2⟩, .strayBang⟩] := by cbv

end TwinSyntax
