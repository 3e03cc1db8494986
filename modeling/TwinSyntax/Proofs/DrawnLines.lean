import Mathlib.Data.List.InsertIdx
import TwinSyntax.Proofs.Legible
import TwinSyntax.Viewer.SourcePane

/-!
# Lines as they are drawn

The source pane takes a line apart twice before it draws it. The columns of the mark are cut out of
it, and what stands beside them is read as words and the characters between words. What is drawn in
the end is the line again, in as many colours.

**Words** (`toList_content_highlightFrom`). Reading keeps the invariant that the fragments that are
done, the word that is being read and the text that is left make up the whole text. Which characters
a word takes, points among them, plays no part in it.

**Columns** (`columnMarkings_eq`). Cutting by lengths and asking of each column by itself whether it
is in the mark come to the same, also for columns that the line does not have and for columns that
are the wrong way round. So the middle part is what is in the mark (`inside_eq_textIn`).

**Colours** (`markings_sourceLine`). Nothing but the mark is drawn in the colour behind marks:
numbers, words and the characters between them have no colour behind them, or that of the marked
line.

Main result: `drawn_lines_keep_text`.
-/

namespace TwinSyntax

theorem Line.toList_content (line : Line) :
    line.content.toList = line.flatMap (·.content.toList) := by
  rw [Line.content, String.toList_join, List.flatMap_map]

namespace SourcePane

/-! ## Words -/

theorem toList_content_flush (word : List Char) (done : Array Fragment) :
    (Line.content (flush word done).toList).toList =
      (Line.content done.toList).toList ++ word.reverse := by
  cases word with
  | nil => exact (List.append_nil _).symm
  | cons c word => simp [Line.toList_content, flush, wordFragment]

/-- **Reading on loses nothing**, whatever word is being read. -/
theorem toList_content_highlightFrom (word : List Char) (done : Array Fragment) (text : List Char) :
    (Line.content (highlightFrom word done text).toList).toList =
      (Line.content done.toList).toList ++ (word.reverse ++ text) := by
  induction text generalizing word done with
  | nil => rw [highlightFrom, toList_content_flush, List.append_nil]
  | cons c text ih =>
    rw [highlightFrom]
    split
    · rw [ih, List.reverse_cons, List.append_assoc, List.singleton_append]
    · calc
        (Line.content
          (highlightFrom [] ((flush word done).push (symbolFragment c)) text).toList).toList
        _ = (Line.content (flush word done).toList).toList ++ c :: text := by
          rw [ih]
          simp [Line.toList_content, symbolFragment]
        _ = (Line.content done.toList).toList ++ (word.reverse ++ c :: text) := by
          rw [toList_content_flush, List.append_assoc]

theorem toList_content_highlight (text : List Char) :
    (Line.content (highlight text)).toList = text :=
  toList_content_highlightFrom [] #[] text

/-- What holds of the fragments for words and of those for single characters holds of all. -/
theorem forall_mem_highlight {P : Fragment → Prop} (hword : ∀ word ≠ [], P (wordFragment word))
    (hsymbol : ∀ c, P (symbolFragment c)) (text : List Char) : ∀ f ∈ highlight text, P f := by
  have hflush (word : List Char) {done : Array Fragment} (hdone : ∀ f ∈ done.toList, P f) :
      ∀ f ∈ (flush word done).toList, P f := by
    cases word with
    | nil => exact hdone
    | cons c word =>
      rw [flush, List.isEmpty_cons, if_neg Bool.false_ne_true, Array.toList_push,
        List.forall_mem_append, List.forall_mem_singleton]
      exact ⟨hdone, hword _ (List.cons_ne_nil c word)⟩
  have hread (word : List Char) {done : Array Fragment} (hdone : ∀ f ∈ done.toList, P f) :
      ∀ f ∈ (highlightFrom word done text).toList, P f := by
    induction text generalizing word done with
    | nil => exact hflush word hdone
    | cons c text ih =>
      rw [highlightFrom]
      split
      · exact ih _ hdone
      · refine ih _ ?_
        rw [Array.toList_push, List.forall_mem_append, List.forall_mem_singleton]
        exact ⟨hflush word hdone, hsymbol c⟩
  exact hread [] nofun

theorem content_ne_empty_of_mem_highlight {text : List Char} :
    ∀ f ∈ highlight text, f.content ≠ "" := by
  refine forall_mem_highlight (fun word hword hempty => hword ?_) (fun c => ?_) text
  · exact List.reverse_eq_nil_iff.mp (String.ofList_eq_empty_iff.mp hempty)
  · exact String.singleton_ne_empty

theorem background?_of_mem_highlight {text : List Char} :
    ∀ f ∈ highlight text, f.style.background? = none := by
  refine forall_mem_highlight (fun word _ => ?_) (fun c => rfl) text
  rw [wordFragment]
  split_ifs <;> rfl

/-! ## Columns -/

/-- Whether a column is one of those from `colStart` up to and without `colEnd`. There is no column
zero; the first one stands for it. -/
def InColumns (colStart colEnd column : Nat) : Prop :=
  max colStart 1 ≤ column ∧ column < max colEnd 1

instance (colStart colEnd column : Nat) : Decidable (InColumns colStart colEnd column) :=
  inferInstanceAs (Decidable (_ ∧ _))

/-- The characters of a line in these columns. -/
def textIn (line : List Char) (colStart colEnd : Nat) : List Char :=
  ((line.zipIdx 1).filter fun p => InColumns colStart colEnd p.2).map Prod.fst

/-- The characters of a line, each with whether it is in these columns. -/
def columnMarkings (line : List Char) (colStart colEnd : Nat) : List (Char × Bool) :=
  (line.zipIdx 1).map fun p => (p.1, decide (InColumns colStart colEnd p.2))

theorem textIn_eq (line : List Char) (colStart colEnd : Nat) :
    textIn line colStart colEnd =
      ((columnMarkings line colStart colEnd).filter Prod.snd).map Prod.fst := by
  rw [columnMarkings, List.filter_map, List.map_map]
  rfl

theorem map_fst_columnMarkings (line : List Char) (colStart colEnd : Nat) :
    (columnMarkings line colStart colEnd).map Prod.fst = line := by
  rw [columnMarkings, List.map_map]
  exact List.zipIdx_map_fst 1 line

theorem splitColumns_eq (line : List Char) (colStart colEnd : Nat) :
    splitColumns line colStart colEnd =
      (line.take (colStart - 1), (line.drop (colStart - 1)).take (colEnd - 1 - (colStart - 1)),
        (line.drop (colStart - 1)).drop (colEnd - 1 - (colStart - 1))) := by
  rw [splitColumns, List.splitAt_eq]
  simp only [List.splitAt_eq]

variable {line before inside behind : List Char} {colStart colEnd : Nat}

theorem append_of_splitColumns (h : splitColumns line colStart colEnd = (before, inside, behind)) :
    before ++ inside ++ behind = line := by
  rw [splitColumns_eq, Prod.mk.injEq, Prod.mk.injEq] at h
  obtain ⟨rfl, rfl, rfl⟩ := h
  rw [List.append_assoc, List.take_append_drop, List.take_append_drop]

theorem lengths_of_splitColumns (h : splitColumns line colStart colEnd = (before, inside, behind)) :
    before.length = min (colStart - 1) line.length ∧
      inside.length = min (colEnd - 1 - (colStart - 1)) (line.length - (colStart - 1)) ∧
      behind.length = line.length - (colStart - 1) - (colEnd - 1 - (colStart - 1)) := by
  rw [splitColumns_eq, Prod.mk.injEq, Prod.mk.injEq] at h
  obtain ⟨rfl, rfl, rfl⟩ := h
  simp only [List.length_take, List.length_drop, and_self]

/-- A part of a line that is in the columns as a whole, or beside them as a whole. -/
theorem markings_of_forall {part : List Char} {first : Nat} {marked : Bool}
    (h : ∀ column, first ≤ column → column < part.length + first →
      decide (InColumns colStart colEnd column) = marked) :
    ((part.zipIdx first).map fun p => (p.1, decide (InColumns colStart colEnd p.2))) =
      part.map (·, marked) := by
  calc (part.zipIdx first).map (fun p => (p.1, decide (InColumns colStart colEnd p.2)))
    _ = ((part.zipIdx first).map Prod.fst).map (·, marked) := by
      rw [List.map_map]
      refine List.map_congr_left fun p hp => ?_
      exact congrArg (p.1, ·) (h p.2 (List.le_snd_of_mem_zipIdx hp) (List.snd_lt_of_mem_zipIdx hp))
    _ = part.map (·, marked) := by rw [List.zipIdx_map_fst]

/-- **A cut at two columns parts what is in them from what is not.** -/
theorem columnMarkings_eq (h : splitColumns line colStart colEnd = (before, inside, behind)) :
    columnMarkings line colStart colEnd =
      before.map (·, false) ++ inside.map (·, true) ++ behind.map (·, false) := by
  obtain ⟨hbefore, hinside, hbehind⟩ := lengths_of_splitColumns h
  -- a part that holds something begins where it should, because the line reaches beyond the parts
  -- before it
  have hfront : ∀ column, 1 ≤ column → column < before.length + 1 →
      decide (InColumns colStart colEnd column) = false := fun column hfirst hlast =>
    decide_eq_false fun ⟨hstart, _⟩ => by omega
  have hmark : ∀ column, 1 + before.length ≤ column → column < inside.length + (1 + before.length) →
      decide (InColumns colStart colEnd column) = true := fun column hfirst hlast =>
    decide_eq_true ⟨by omega, by omega⟩
  have hback : ∀ column, 1 + (before ++ inside).length ≤ column →
      column < behind.length + (1 + (before ++ inside).length) →
      decide (InColumns colStart colEnd column) = false := fun column hfirst hlast =>
    decide_eq_false fun ⟨_, hend⟩ => by rw [List.length_append] at hfirst hlast; omega
  rw [columnMarkings, ← append_of_splitColumns h, List.zipIdx_append, List.zipIdx_append,
    List.map_append, List.map_append, markings_of_forall hfront, markings_of_forall hmark,
    markings_of_forall hback]

theorem inside_eq_textIn (h : splitColumns line colStart colEnd = (before, inside, behind)) :
    inside = textIn line colStart colEnd := by
  rw [textIn_eq, columnMarkings_eq h]
  simp [List.filter_map, Function.comp_def]

theorem before_eq_textIn (h : splitColumns line colStart colEnd = (before, inside, behind)) :
    before = textIn line 1 colStart := by
  have hfront : splitColumns line 1 colStart =
      ([], line.take (colStart - 1), line.drop (colStart - 1)) := splitColumns_eq line 1 colStart
  rw [splitColumns_eq, Prod.mk.injEq] at h
  rw [← h.1]
  exact inside_eq_textIn hfront

/-! ## Marks -/

/-- The line with the mark that is on it. A mark that covers no text is a blank in front of the
column that it begins in, or at the end of the line. -/
def withBlank (line : List Char) : Option Span → List Char
  | none => line
  | some span =>
    if textIn line span.colStart span.colEnd = [] then
      line.insertIdx (min (span.colStart - 1) line.length) ' '
    else line

/-- The characters of the line with the mark that is on it, each with whether it is marked. -/
def withMark (line : List Char) : Option Span → List (Char × Bool)
  | none => line.map (·, false)
  | some span =>
    let columns := columnMarkings line span.colStart span.colEnd
    if textIn line span.colStart span.colEnd = [] then
      columns.insertIdx (min (span.colStart - 1) line.length) (' ', true)
    else columns

theorem map_fst_withMark (line : List Char) (mark : Option Span) :
    (withMark line mark).map Prod.fst = withBlank line mark := by
  cases mark with
  | none => simp [withMark, withBlank, Function.comp_def]
  | some span =>
    rw [withMark, withBlank]
    split
    · rw [List.map_insertIdx, map_fst_columnMarkings]
    · exact map_fst_columnMarkings _ _ _

theorem insertIdx_length_append {α : Type} (front back : List α) (a : α) :
    (front ++ back).insertIdx front.length a = front ++ a :: back :=
  List.modifyTailIdx_add (List.cons a) 0 front back

/-- The mark stands between the text in front of it and the text behind it. -/
theorem withMark_eq {span : Span}
    (h : splitColumns line span.colStart span.colEnd = (before, inside, behind)) :
    withMark line (some span) = before.map (·, false) ++
      ((if inside = [] then [(' ', true)] else inside.map (·, true)) ++ behind.map (·, false)) := by
  have hposition : min (span.colStart - 1) line.length = (before.map (·, false)).length := by
    rw [List.length_map, (lengths_of_splitColumns h).1]
  rw [withMark, ← inside_eq_textIn h, columnMarkings_eq h, hposition]
  split
  · next hempty => rw [hempty, List.map_nil, List.append_nil, insertIdx_length_append]; rfl
  · exact List.append_assoc _ _ _

/-! ## Colours -/

/-- The characters of a line that is drawn, each with whether it has the colour of marks behind
it. -/
def markings (isError : Bool) (line : Line) : List (Char × Bool) :=
  line.flatMap fun f =>
    f.content.toList.map (·, f.style.background? == (markStyle isError).background?)

theorem map_fst_markings (isError : Bool) (line : Line) :
    (markings isError line).map Prod.fst = line.content.toList := by
  simp [markings, Line.toList_content, List.map_flatMap, Function.comp_def]

theorem markings_append (isError : Bool) (front back : Line) :
    markings isError (front ++ back) = markings isError front ++ markings isError back :=
  List.flatMap_append

theorem markings_cons (isError : Bool) (f : Fragment) (line : Line) :
    markings isError (f :: line) = f.content.toList.map
      (·, f.style.background? == (markStyle isError).background?) ++ markings isError line :=
  List.flatMap_cons

theorem markings_of_unmarked {isError : Bool} {line : Line}
    (h : ∀ f ∈ line, f.style.background? ≠ (markStyle isError).background?) :
    markings isError line = line.content.toList.map (·, false) := by
  rw [markings, Line.toList_content, List.map_flatMap]
  refine List.flatMap_congr fun f hf => ?_
  rw [beq_false_of_ne (h f hf)]

/-- There is a colour behind marks, and it is not that of the marked line. -/
theorem background?_markStyle (isError : Bool) :
    ∃ color, (markStyle isError).background? = some color ∧ color ≠ Theme.currentLine := by
  cases isError with
  | false => exact ⟨Theme.selection, rfl, by decide⟩
  | true => exact ⟨Theme.error, rfl, by decide⟩

/-- A fragment of the marked line, whose colour is behind it where it has none of its own. -/
def onMarkedLine (f : Fragment) : Fragment :=
  { f with style := f.style.on { background? := some Theme.currentLine } }

theorem content_map_onMarkedLine (line : Line) :
    Line.content (line.map onMarkedLine) = line.content := by
  rw [Line.content, Line.content, List.map_map]
  rfl

theorem markings_highlight (text : List Char) (isError : Bool) :
    markings isError (highlight text) = text.map (·, false) := by
  obtain ⟨color, hcolor, -⟩ := background?_markStyle isError
  rw [markings_of_unmarked, toList_content_highlight]
  intro f hf
  rw [background?_of_mem_highlight f hf, hcolor]
  exact (Option.some_ne_none color).symm

theorem markings_highlight_onMarkedLine (text : List Char) (isError : Bool) :
    markings isError ((highlight text).map onMarkedLine) = text.map (·, false) := by
  obtain ⟨color, hcolor, hne⟩ := background?_markStyle isError
  rw [markings_of_unmarked, content_map_onMarkedLine, toList_content_highlight]
  refine List.forall_mem_map.mpr fun f hf => ?_
  rw [hcolor, onMarkedLine, Style.on, background?_of_mem_highlight f hf, Option.none_or]
  exact fun h => hne (Option.some.inj h).symm

theorem markings_markedText (text : List Char) (span : Span) (isError : Bool) :
    markings isError ((markedText text span isError).map onMarkedLine) =
      withMark text (some span) := by
  obtain ⟨color, hcolor, -⟩ := background?_markStyle isError
  rcases hcut : splitColumns text span.colStart span.colEnd with ⟨before, inside, behind⟩
  rw [withMark_eq hcut, markedText, hcut]
  simp only [List.map_append, List.map_cons, markings_append, markings_cons,
    markings_highlight_onMarkedLine, onMarkedLine, Style.on, hcolor, Option.some_or,
    beq_self_eq_true]
  cases inside with
  | nil => rfl
  | cons c inside =>
    rw [List.isEmpty_cons, if_neg Bool.false_ne_true, if_neg (List.cons_ne_nil c inside),
      String.toList_ofList]

/-! ## Lines -/

theorem toList_lineNumber (number : Nat) :
    (lineNumber number).toList = (Nat.toDigits 10 number).leftpad 4 ' ' ++ [' '] := by
  simp only [lineNumber, String.toList_append, toList_pushn, toList_natural, ← String.length_toList]
  rfl

theorem markings_sourceLine (number : Nat) (text : List Char) (mark : Option Span)
    (isError : Bool) : markings isError (sourceLine number text mark isError) =
      ((Nat.toDigits 10 number).leftpad 4 ' ' ++ [' ']).map (·, false) ++
        withMark text (mark.filter (·.line = number)) := by
  obtain ⟨color, hcolor, -⟩ := background?_markStyle isError
  have hnumber : (none == (markStyle isError).background?) = false := by rw [hcolor]; rfl
  rw [sourceLine]
  cases mark.filter (·.line = number) with
  | none =>
    simp only [markings_cons, markings_highlight, toList_lineNumber, hnumber]
    rfl
  | some span =>
    have htext := markings_markedText text span isError
    simp only [markings_cons, toList_lineNumber, hnumber]
    exact congrArg _ htext

/-- What is drawn of the line numbered `number` that reads `text`. -/
structure DrawnAs (number : Nat) (text : List Char) (mark : Option Span) (isError : Bool)
    (line : Line) : Prop where
  /-- The number is written in at least four columns, then come a space and the text. A mark on this
  line that covers no text adds a blank. -/
  content : line.content.toList =
    (Nat.toDigits 10 number).leftpad 4 ' ' ++ ' ' :: withBlank text (mark.filter (·.line = number))
  /-- The columns of the mark have the colour of marks behind them, and nothing else has. -/
  marked : markings isError line =
    ((Nat.toDigits 10 number).leftpad 4 ' ' ++ [' ']).map (·, false) ++
      withMark text (mark.filter (·.line = number))

theorem drawnAs_sourceLine (number : Nat) (text : List Char) (mark : Option Span) (isError : Bool) :
    DrawnAs number text mark isError (sourceLine number text mark isError) where
  content := by
    have h := congrArg (List.map Prod.fst) (markings_sourceLine number text mark isError)
    rw [map_fst_markings, List.map_append, map_fst_withMark, List.map_map] at h
    simpa [Function.comp_def] using h
  marked := markings_sourceLine number text mark isError

example : (sourceLine 7 "é = 12".toList (some ⟨7, 3, 2⟩) false).content = "   7 é  = 12" := by
  decide +kernel

/-- **A line that is drawn has all of its text, and the mark where it should be.** A line that is
cut at two columns is in its parts, and the middle one is what the columns hold. A text that is read
for its colours is in its fragments, none of which is empty. And each line that the pane shows is
drawn as its number and its text. -/
theorem drawn_lines_keep_text :
    (∀ (line : List Char) (colStart colEnd : Nat),
      let (before, inside, behind) := splitColumns line colStart colEnd
      before ++ inside ++ behind = line ∧ inside = textIn line colStart colEnd ∧
        before = textIn line 1 colStart) ∧
    (∀ text : List Char, (∀ f ∈ highlight text, f.content ≠ "") ∧
      (Line.content (highlight text)).toList = text) ∧
    ∀ (screen : Screen) (area : Area) (source : String) (mark : Option Span)
      (isError focused : Bool) (scroll : SourceScroll),
      let (drawn, after) := draw screen area source mark isError focused scroll
      let visible := max 1 (area.height - 2)
      let lines := visibleLines (displayLines source) after.offset visible mark isError
      drawn = (screen.drawBox area " Source " (Theme.border focused)).drawLines area.inner lines ∧
        List.Forall₂ (fun (text, number) line => DrawnAs number text.toList mark isError line)
          ((((displayLines source).zipIdx 1).drop after.offset).take visible) lines := by
  refine ⟨fun line colStart colEnd => ?cut, fun text => ?read,
    fun screen area source mark isError _ _ => ?drawn⟩
  case cut =>
    rcases hcut : splitColumns line colStart colEnd with ⟨before, inside, behind⟩
    exact ⟨append_of_splitColumns hcut, inside_eq_textIn hcut, before_eq_textIn hcut⟩
  case read => exact ⟨content_ne_empty_of_mem_highlight, toList_content_highlight text⟩
  case drawn =>
    refine ⟨by rw [← visibleRows_eq], ?_⟩
    rw [visibleLines, List.forall₂_map_right_iff, List.forall₂_same]
    exact fun (text, number) _ => drawnAs_sourceLine number text.toList mark isError

end SourcePane

end TwinSyntax
