import TwinSyntax.Decimal
import TwinSyntax.Screen.Text
import TwinSyntax.Text.Lines
import TwinSyntax.Token
import TwinSyntax.Viewer.Theme

/-!
# The source pane

Shows the source text with line numbers, keywords and numbers in colours of their own, and marks one
span of it: that of the selected node, or that of an error.

**Scrolling** (`SourceScroll.follow`). The marked line is kept at the same row of the pane, in the
middle at first. It leaves that row only where the text would otherwise end above the pane's last
row or begin below its first.

**Lines** (`sourceLine`). The fragments of a drawn line are the line number, a space and the text of
the line, with nothing lost; a mark that covers no text adds one blank.
-/

namespace TwinSyntax

/-- How the source pane is scrolled: how many lines are above it, and in which of its rows the
marked line should be, once one has been settled. -/
structure SourceScroll where
  offset : Nat := 0
  targetRow? : Option Nat := none
  deriving DecidableEq, Repr, Inhabited

/-- The number of rows inside the box of a pane; a pane that has none still counts as one. -/
def visibleRows (paneHeight : Nat) : Nat := max (paneHeight - 2) 1

/-- The box takes two of the rows. -/
theorem visibleRows_eq (paneHeight : Nat) : visibleRows paneHeight = max 1 (paneHeight - 2) :=
  Nat.max_comm _ _

namespace SourceScroll

/-- The row for the marked line in a pane of `visible` rows. -/
def target (scroll : SourceScroll) (visible : Nat) : Nat :=
  min (scroll.targetRow?.getD (visible / 2)) (visible - 1)

/-- Scrolls so that the line `marked` of `total` lines is seen. Where there is no such line, only
the row is settled. -/
def follow (scroll : SourceScroll) (total : Nat) (marked : Option Nat) (visible : Nat) :
    SourceScroll :=
  let row := scroll.target visible
  let offset :=
    match marked with
    | none => scroll.offset
    | some line =>
      if line = 0 ∨ total < line then scroll.offset
      else min (line - 1 - row) (total - visible)
  ⟨offset, some row⟩

end SourceScroll

namespace SourcePane

/-! ## Colours of the text -/

/-- The words that are shown as keywords. -/
def isKeyword (word : String) : Bool := TokenKind.keywords.any (·.spelling? == some word)

/-- Whether the word starts with a digit. The word is in reverse order. -/
def isNumber (word : List Char) : Bool := (word.getLast?.map Char.isDigit).getD false

/-- The fragment for a word, which is in reverse order. -/
def wordFragment (word : List Char) : Fragment :=
  let text := String.ofList word.reverse
  let style : Style :=
    if isKeyword text then { foreground? := some Theme.keyword, bold := true }
    else if isNumber word then { foreground? := some Theme.number }
    else { foreground? := some Theme.text }
  ⟨text, style⟩

/-- Whether `c` belongs to the word in front of it, which is in reverse order. A point belongs to a
word that starts with a digit. -/
def continues (word : List Char) (c : Char) : Bool :=
  c.isAlphanum || c == '_' || (c == '.' && isNumber word)

/-- The fragment for a character that belongs to no word. -/
def symbolFragment (c : Char) : Fragment :=
  let bracket := c == '\x7b' || c == '\x7d' || c == '(' || c == ')'
  ⟨String.singleton c, { foreground? := some (if bracket then Theme.primary else Theme.text) }⟩

/-- Appends the fragment for a word, unless the word is empty. -/
def flush (word : List Char) (done : Array Fragment) : Array Fragment :=
  if word.isEmpty then done else done.push (wordFragment word)

/-- Reads on in a text. `word` is the word that is being read, in reverse order, and `done` are the
fragments before it. -/
def highlightFrom (word : List Char) (done : Array Fragment) : List Char → Array Fragment
  | [] => flush word done
  | c :: text =>
    if continues word c then highlightFrom (c :: word) done text
    else highlightFrom [] ((flush word done).push (symbolFragment c)) text

/-- The text as fragments: words, and single characters between them. -/
def highlight (text : List Char) : List Fragment := (highlightFrom [] #[] text).toList

/-! ## Lines -/

/-- The text in front of the columns from `colStart` up to and without `colEnd`, the text in them,
and the text behind. Columns count from one; a column outside the line is taken to its nearest end,
and nothing lies in columns that are the wrong way round. -/
def splitColumns (line : List Char) (colStart colEnd : Nat) :
    List Char × List Char × List Char :=
  let (before, rest) := line.splitAt (colStart - 1)
  let (inside, behind) := rest.splitAt (colEnd - 1 - (colStart - 1))
  (before, inside, behind)

/-- The style of the marked columns. -/
def markStyle (isError : Bool) : Style :=
  if isError then
    { foreground? := some .white, background? := some Theme.error, bold := true }
  else { background? := some Theme.selection, bold := true }

/-- The number `n` in at least four columns, to the right, and a space. -/
def lineNumber (n : Nat) : String :=
  let digits := toString n
  "".pushn ' ' (4 - digits.length) ++ digits ++ " "

/-- The text of a line whose columns in `span` are marked. -/
def markedText (text : List Char) (span : Span) (isError : Bool) : List Fragment :=
  let (before, inside, behind) := splitColumns text span.colStart span.colEnd
  let mark := if inside.isEmpty then " " else String.ofList inside
  highlight before ++ ⟨mark, markStyle isError⟩ :: highlight behind

/-- The line numbered `number`, with its mark if it has one. -/
def sourceLine (number : Nat) (text : List Char) (mark : Option Span) (isError : Bool) : Line :=
  match mark.filter (·.line = number) with
  | none => ⟨lineNumber number, { foreground? := some Theme.comment }⟩ :: highlight text
  | some span =>
    let color := if isError then Theme.error else Theme.secondary
    let behindText : Style := { background? := some Theme.currentLine }
    ⟨lineNumber number, { foreground? := some color, bold := true }⟩ ::
      (markedText text span isError).map fun f => { f with style := f.style.on behindText }

/-- The lines that are seen in a pane of `visible` rows with `offset` lines above it. -/
def visibleLines (lines : List String) (offset visible : Nat) (mark : Option Span)
    (isError : Bool) : List Line :=
  (((lines.zipIdx 1).drop offset).take visible).map fun (line, number) =>
    sourceLine number line.toList mark isError

/-- Draws the pane into the area, scrolled to the mark. -/
def draw (screen : Screen) (area : Area) (source : String) (mark : Option Span)
    (isError focused : Bool) (scroll : SourceScroll) : Screen × SourceScroll :=
  let lines := displayLines source
  let visible := visibleRows area.height
  let scroll := scroll.follow lines.length (mark.map Span.line) visible
  let screen := screen.drawBox area " Source " (Theme.border focused)
  let shown := visibleLines lines scroll.offset visible mark isError
  (screen.drawLines area.inner shown, scroll)

example : splitColumns "x = 1+2".toList 5 6 = ("x = ".toList, ['1'], "+2".toList) := by
  decide +kernel

example : splitColumns "x = 1".toList 9 2 = ("x = 1".toList, [], []) := by decide +kernel

example : (highlight "x1<2.5".toList).map Fragment.content = ["x1", "<", "2.5"] := by decide +kernel

end SourcePane

end TwinSyntax
