import TwinSyntax.Text.Span

/-!
# Lines of a text

There are two ways to count lines, and both are needed.

**Source lines** (`sourceLines`). Every line break ends one line and begins the next, so a text
with `k` line breaks has `k + 1` lines and the end of the text lies on the last of them.
Spans count these lines.

**Display lines** (`displayLines`). A line break only ends a line, so nothing follows the last
one, and an empty text has no line. A viewer numbers these.

Both drop a carriage return in front of a line break. A carriage return at the very end of the
text is dropped by the first and kept by the second.
-/

namespace TwinSyntax

/-- The stretches of `cs` between line breaks, in order; there is always at least one. -/
def breakLines (cs : List Char) : List (List Char) :=
  cs.foldr (fun c lines => if c = '\n' then [] :: lines else lines.modifyHead (c :: ·)) [[]]

@[simp] theorem breakLines_nil : breakLines [] = [[]] := rfl

@[simp] theorem breakLines_cons (c : Char) (cs : List Char) :
    breakLines (c :: cs) =
      if c = '\n' then [] :: breakLines cs else (breakLines cs).modifyHead (c :: ·) := rfl

theorem breakLines_ne_nil (cs : List Char) : breakLines cs ≠ [] := by
  induction cs with
  | nil => simp
  | cons c cs ih =>
    rw [breakLines_cons]
    split
    · simp
    · cases h : breakLines cs with
      | nil => exact absurd h ih
      | cons => simp

/-- `line` without a carriage return at its end. -/
def dropCarriageReturn (line : List Char) : List Char :=
  if line.getLast? = some '\r' then line.dropLast else line

/-- The lines that spans refer to. -/
def sourceLines (source : String) : Array String :=
  ((breakLines source.toList).map fun line => String.ofList (dropCarriageReturn line)).toArray

/-- The lines that a viewer numbers. -/
def displayLines (source : String) : List String :=
  let lines := breakLines source.toList
  let terminated := lines.dropLast.map dropCarriageReturn
  let unterminated := lines.getLast?.toList.filter (· ≠ [])
  (terminated ++ unterminated).map String.ofList

/-- The line numbered `number`, counting from one. -/
def lineNumbered? (lines : Array String) (number : Nat) : Option String :=
  if number = 0 then none else lines[number - 1]?

/-- The location of a span in a text with these lines. A line that does not exist has no text. -/
def locate (lines : Array String) (span : Span) : Location :=
  ⟨span, (lineNumbered? lines span.line).getD ""⟩

example : sourceLines "a\r\nb\n" = #["a", "b", ""] := by decide +kernel

example : displayLines "a\r\nb\n" = ["a", "b"] := by decide +kernel

example : sourceLines "a\r" = #["a"] ∧ displayLines "a\r" = ["a\r"] := by decide +kernel

end TwinSyntax
