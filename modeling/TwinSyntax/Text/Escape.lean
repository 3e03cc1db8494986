import TwinSyntax.Text.Combining
import TwinSyntax.Text.Printable

/-!
# Characters inside a message

A message that quotes a character shows it as it is if that can be read, and by an escape
otherwise: two characters for the common controls, quotes and the backslash, and the code point
in hexadecimal for what is invisible or would attach itself to its neighbour.
-/

namespace TwinSyntax

/-- The letter that stands behind a backslash for `c`, if `c` has such an escape. -/
def shortEscape? : Char → Option Char
  | '\x00' => some '0'
  | '\t' => some 't'
  | '\n' => some 'n'
  | '\r' => some 'r'
  | '\x22' => some '\x22'
  | '\x27' => some '\x27'
  | '\\' => some '\\'
  | _ => none

/-- The code point of `c` in hexadecimal, without leading zeros. -/
def codePointEscape (c : Char) : String :=
  "\\u\x7b" ++ String.ofList (Nat.toDigits 16 c.toNat) ++ "\x7d"

/-- `c` as a message quotes it. -/
def escapeChar (c : Char) : String :=
  match shortEscape? c with
  | some letter => String.ofList ['\\', letter]
  | none => if isCombining c || !isPrintable c then codePointEscape c else String.singleton c

example : escapeChar '\x27' = "\\'" ∧ escapeChar '\t' = "\\t" ∧ escapeChar '@' = "@" := by
  decide +kernel

example : codePointEscape '\u0301' = "\\u\x7b301\x7d" := by decide +kernel

end TwinSyntax
