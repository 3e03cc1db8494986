import TwinSyntax.Proofs.Origins
import TwinSyntax.Proofs.Wordwise

/-!
# Texts above one another

Scanning a text that stands above another one gives the items of the one, and below them those of
the other. No lexeme goes over a line break, and none looks at what is behind it.

**One lexeme** (`scan_break`). What a lexeme takes of a line, it takes whatever the lines below
hold.

**A whole text** (`lexFrom_break`, `lexFrom_lower`). Behind a line break scanning starts anew, on
another line. Main result: `lexText_break`.

**Whole lines** (`WholeLines`). A text that ends with a line break can stand above any other. In the
two together, a span of the upper text has the line that it had (`WholeLines.locate_upper`), and a
span of the lower text has its line further down (`WholeLines.locate_lower`).
-/

namespace TwinSyntax

/-! ## One lexeme -/

namespace Lexeme

/-- The same lexeme above other lines. -/
def above (lexeme : Lexeme) (below : List Char) : Lexeme :=
  { lexeme with rest := lexeme.rest ++ '\n' :: below }

/-- **No lexeme sees what is below its line.** -/
theorem scan_break (c : Char) (text below : List Char) :
    scan c (text ++ '\n' :: below) = (scan c text).above below :=
  scan_append (.cons not_solid_break) c text

end Lexeme

/-! ## Places further down -/

/-- The same columns `lines` lines further down. -/
def Span.lower (lines : Nat) (span : Span) : Span := { span with line := span.line + lines }

/-- The same text `lines` lines further down. -/
def Location.lower (lines : Nat) (location : Location) : Location :=
  { location with span := location.span.lower lines }

/-- The same token `lines` lines further down. -/
def Token.lower (lines : Nat) (token : Token) : Token :=
  { token with span := token.span.lower lines }

/-- The same item `lines` lines further down. -/
def TokenItem.lower (lines : Nat) : TokenItem → TokenItem
  | .ok token => .ok (token.lower lines)
  | .error e => .error { e with span := e.span.lower lines }

theorem TokenItem.item_lower (lexeme : Lexeme) (line column lines : Nat) :
    (lexeme.item line column).lower lines = lexeme.item (line + lines) column := by
  rw [Lexeme.item, Lexeme.item]
  cases lexeme.reading <;> rfl

/-! ## A whole text -/

/-- The line break where a text ends. -/
def breakAt (ending : Span) : Token :=
  ⟨.endOfLine, ⟨ending.line, ending.colStart, ending.colStart + 1⟩⟩

/-- **Scanning goes on behind a line break** as it began. -/
theorem lexFrom_break (line column : Nat) (text below : List Char) (items : Array TokenItem) :
    lexFrom line column (text ++ '\n' :: below) items =
      lexFrom ((lexFrom line column text items).2.line + 1) 1 below
        ((lexFrom line column text items).1.push
          (.ok (breakAt (lexFrom line column text items).2))) := by
  fun_induction lexFrom line column text items with
  | case1 line column items =>
    rw [List.nil_append, lexFrom]
    rfl
  | case2 line column items c text hblank ih =>
    rw [List.cons_append, lexFrom, if_pos hblank]
    exact ih
  | case3 line column items text hblank lexeme more ih =>
    rw [List.cons_append, lexFrom, if_neg hblank, Lexeme.scan_break]
    dsimp only
    rw [if_pos rfl]
    exact ih
  | case4 line column items c text hblank lexeme more hc ih =>
    rw [List.cons_append, lexFrom, if_neg hblank, Lexeme.scan_break]
    dsimp only
    rw [if_neg hc]
    exact ih

/-- Scanning further down gives the same items further down. -/
theorem lexFrom_lower (lines line column : Nat) (text : List Char)
    (yielded items : Array TokenItem) :
    lexFrom (line + lines) column text (yielded ++ items.map (TokenItem.lower lines)) =
      (yielded ++ (lexFrom line column text items).1.map (TokenItem.lower lines),
        (lexFrom line column text items).2.lower lines) := by
  have hpush (items : Array TokenItem) (lexeme : Lexeme) (line column : Nat) :
      (yielded ++ items.map (TokenItem.lower lines)).push (lexeme.item (line + lines) column) =
        yielded ++ (items.push (lexeme.item line column)).map (TokenItem.lower lines) := by
    rw [Array.map_push, TokenItem.item_lower, Array.append_push]
  fun_induction lexFrom line column text items with
  | case1 line column items =>
    rw [lexFrom]
    rfl
  | case2 line column items c text hblank ih =>
    rw [lexFrom, if_pos hblank]
    exact ih
  | case3 line column items text hblank lexeme more ih =>
    rw [lexFrom, if_neg hblank]
    dsimp only
    rw [if_pos rfl, hpush, Nat.add_right_comm]
    exact ih
  | case4 line column items c text hblank lexeme more hc ih =>
    rw [lexFrom, if_neg hblank]
    dsimp only
    rw [if_neg hc, hpush]
    exact ih

theorem endSpan_lexText (text : List Char) : (lexText text).2 = spanAfter text [] := by
  obtain ⟨items, -, hrun⟩ := lexFrom_lexed 1 1 text #[] [] rfl rfl
  rw [lexText, hrun]
  rfl

/-- **One text above another.** -/
theorem lexText_break (text below : List Char) :
    lexText (text ++ '\n' :: below) =
      ((lexText text).1 ++ .ok (breakAt (spanAfter text [])) ::
        (lexText below).1.map (TokenItem.lower (text.count '\n' + 1)),
        (lexText below).2.lower (text.count '\n' + 1)) := by
  have hend : (lexFrom 1 1 text #[]).2 = spanAfter text [] := endSpan_lexText text
  have hlower := lexFrom_lower (text.count '\n' + 1) 1 1 below
    ((lexFrom 1 1 text #[]).1.push (.ok (breakAt (spanAfter text [])))) #[]
  rw [Array.map_empty, Array.append_empty, Nat.add_comm 1] at hlower
  have hline : (spanAfter text []).line = text.count '\n' + 1 := rfl
  rw [lexText, lexFrom_break, hend, hline, hlower]
  simp [lexText]

theorem breakLines_break (text below : List Char) :
    breakLines (text ++ '\n' :: below) = breakLines text ++ breakLines below := by
  induction text with
  | nil => rfl
  | cons c text ih =>
    rw [List.cons_append, breakLines_cons, breakLines_cons, ih]
    split
    · rfl
    · obtain ⟨line, lines, hlines⟩ := List.exists_cons_of_ne_nil (breakLines_ne_nil text)
      rw [hlines]
      rfl

/-! ## Whole lines -/

/-- `text` is made of whole lines: no line goes on behind it. -/
def WholeLines (text : String) : Prop := text = "" ∨ text.toList.getLast? = some '\n'

/-- The line breaks of a text. -/
def breaks (text : String) : Nat := text.toList.count '\n'

variable {first : String}

theorem WholeLines.cases (h : WholeLines first) :
    first = "" ∨ ∃ text, first.toList = text ++ ['\n'] := by
  refine h.imp id fun hlast => ?_
  obtain ⟨text, htext⟩ := List.getLast?_eq_some_iff.mp hlast
  exact ⟨text, htext⟩

/-- The last item of a text that ends with a line break is that line break. -/
theorem items_of_break {text : List Char} (htext : first.toList = text ++ ['\n']) :
    (lex first).items = (lexText text).1 ++ [.ok (breakAt (spanAfter text []))] := by
  have hfirst := lexText_break text []
  have hnone : (lexText []).1 = [] := by
    rw [lexText, lexFrom]
  rw [hnone, ← htext] at hfirst
  exact congrArg Prod.fst hfirst

/-- The items of a text below whole lines. -/
theorem WholeLines.lex_append (h : WholeLines first) (second : String) :
    (lex (first ++ second)).items =
        (lex first).items ++ (lex second).items.map (TokenItem.lower (breaks first)) ∧
      (lex (first ++ second)).endSpan = (lex second).endSpan.lower (breaks first) := by
  rcases h.cases with rfl | ⟨text, htext⟩
  · have hlower : TokenItem.lower (breaks "") = id := by
      funext item
      cases item <;> rfl
    have hnone : (lex "").items = [] := by decide +kernel
    rw [String.empty_append, hlower, List.map_id, hnone]
    exact ⟨rfl, rfl⟩
  · have hbreaks : breaks first = text.count '\n' + 1 := by
      rw [breaks, htext, List.count_append, List.count_singleton_self]
    have htexts : (first ++ second).toList = text ++ '\n' :: second.toList := by
      rw [String.toList_append, htext, List.append_assoc]
      rfl
    have hboth := lexText_break text second.toList
    rw [← htexts] at hboth
    rw [items_of_break htext, hbreaks, List.append_assoc]
    exact ⟨congrArg Prod.fst hboth, congrArg Prod.snd hboth⟩

/-- The last line of whole lines is empty. -/
theorem WholeLines.breakLines_eq (h : WholeLines first) :
    ∃ lines, breakLines first.toList = lines ++ [[]] ∧ ∀ below,
      breakLines (first.toList ++ below) = lines ++ breakLines below := by
  rcases h.cases with rfl | ⟨text, htext⟩
  · exact ⟨[], rfl, fun below => rfl⟩
  · refine ⟨breakLines text, ?_, fun below => ?_⟩
    · rw [htext, breakLines_break]
      rfl
    · rw [htext, List.append_assoc]
      exact breakLines_break text below

/-- The lines of a text below whole lines. -/
theorem WholeLines.sourceLines_append (h : WholeLines first) (second : String) :
    (sourceLines first).back? = some "" ∧
      sourceLines (first ++ second) = (sourceLines first).pop ++ sourceLines second := by
  obtain ⟨lines, hfirst, hboth⟩ := h.breakLines_eq
  constructor
  · rw [sourceLines, hfirst]
    simp [dropCarriageReturn]
  · rw [sourceLines, String.toList_append, hboth, sourceLines, hfirst]
    simp [sourceLines]

theorem length_breakLines (text : List Char) : (breakLines text).length = text.count '\n' + 1 := by
  induction text with
  | nil => rfl
  | cons c text ih =>
    rw [breakLines_cons, List.count_cons]
    split <;> simp_all

theorem size_pop_sourceLines (source : String) : (sourceLines source).pop.size = breaks source := by
  simp [sourceLines, length_breakLines, breaks]

theorem size_sourceLines (source : String) : (sourceLines source).size = breaks source + 1 := by
  simp [sourceLines, length_breakLines, breaks]

theorem wholeLines_of_lastLine {text : String} (h : lastLine text.toList = []) : WholeLines text :=
  (getLast?_of_lastLine h).imp_left String.toList_eq_nil_iff.mp

/-- Items are on the lines of their text. -/
theorem line_of_mem_lex {source : String} {item : TokenItem} (hitem : item ∈ (lex source).items) :
    1 ≤ item.span.line := by
  obtain ⟨gap, taken, after, -, hcovers⟩ := (lex_lexed source).1.covers hitem
  rw [hcovers.span]
  exact Nat.succ_pos _

theorem line_le_of_mem_lex {source : String} {item : TokenItem}
    (hitem : item ∈ (lex source).items) : item.span.line ≤ breaks source + 1 := by
  obtain ⟨gap, taken, after, hsplit, hcovers⟩ := (lex_lexed source).1.covers hitem
  have hline : item.span.line = gap.count '\n' + 1 := by
    rw [hcovers.span]
    rfl
  rw [hline, breaks, hsplit, List.count_append]
  exact Nat.succ_le_succ (Nat.le_add_right _ _)

/-- On a last line that is empty there is no item. -/
theorem WholeLines.line_le (h : WholeLines first) {item : TokenItem}
    (hitem : item ∈ (lex first).items) : item.span.line ≤ breaks first := by
  obtain ⟨gap, taken, after, hsplit, hcovers⟩ := (lex_lexed first).1.covers hitem
  have hline : item.span.line = gap.count '\n' + 1 := by
    rw [hcovers.span]
    rfl
  have hne : taken ++ after ≠ [] := List.append_ne_nil_of_left_ne_nil hcovers.filled after
  have hmem : '\n' ∈ taken ++ after := by
    rcases h with rfl | hlast
    · exact absurd hsplit.symm (List.append_ne_nil_of_right_ne_nil gap hne)
    · rw [hsplit, List.getLast?_append, List.getLast?_eq_some_getLast hne, Option.some_or] at hlast
      exact Option.some.inj hlast ▸ List.getLast_mem hne
  have hpos := List.count_pos_iff.mpr hmem
  rw [hline, breaks, hsplit, List.count_append]
  omega

/-- A span in the upper text stays where it is. -/
theorem WholeLines.locate_upper (h : WholeLines first) (second : String) {span : Span}
    (hspan : span.line ≤ breaks first) :
    locate (sourceLines (first ++ second)) span = locate (sourceLines first) span := by
  have hsize := size_pop_sourceLines first
  rw [locate, locate, (h.sourceLines_append second).2]
  unfold lineNumbered?
  split
  · rfl
  · next hzero =>
    have hlt : span.line - 1 < (sourceLines first).pop.size := by omega
    rw [Array.getElem?_append_left hlt, Array.getElem?_pop, if_pos (by simpa using hlt)]

/-- A span in the lower text has its line further down. -/
theorem WholeLines.locate_lower (h : WholeLines first) (second : String) {span : Span}
    (hspan : 1 ≤ span.line) :
    locate (sourceLines (first ++ second)) (span.lower (breaks first)) =
      (locate (sourceLines second) span).lower (breaks first) := by
  have hsize := size_pop_sourceLines first
  have hlower : lineNumbered? ((sourceLines first).pop ++ sourceLines second)
      (span.line + breaks first) = lineNumbered? (sourceLines second) span.line := by
    rw [lineNumbered?, if_neg (by omega), lineNumbered?, if_neg (by omega),
      Array.getElem?_append_right (by omega), hsize]
    congr 1
    omega
  rw [locate, (h.sourceLines_append second).2, Span.lower, hlower]
  rfl

end TwinSyntax
