import TwinSyntax.Proofs.LineBreaks
import TwinSyntax.Proofs.Lockstep
import TwinSyntax.Proofs.Viewing

/-!
# What is marked, and what is seen of it

The source pane scrolls to the line of the mark, so the mark is on screen if its line is one of the
lines of the pane. Spans count the lines of `sourceLines`, and the pane shows those of
`displayLines`. The two differ in one line: behind the last line break there is a line even if it
holds nothing.

**Places** (`Markable`). What is marked is an item of the source, the beginning or the end: an error
is found at a token, at a lexical error or at the end, and a node comes from a token, except for the
root (`markable_of_error`, `markable_of_within`). No item stands on a line that holds nothing, and
the beginning is on one only if it is the end as well (`Markable.listed`).

**Scrolling** (`follow_reveals`). A line of the pane is scrolled to, whatever the height and the row
where the mark was before.

Main result: `mark_is_shown_iff`. Only the end of a text is ever missed, and only on a line of its
own.
-/

namespace TwinSyntax

open Grammar

variable {source : String} {span : Span}

/-! ## Lines of the pane -/

theorem getLast?_breakLines (text : List Char) :
    (breakLines text).getLast? = some (lastLine text) := by
  have hline := getElem?_breakLines text []
  rw [List.append_nil, List.takeWhile_nil, List.append_nil] at hline
  rw [List.getLast?_eq_getElem?, length_breakLines]
  exact hline

/-- The pane has all lines but a last one that holds nothing. -/
theorem length_displayLines (source : String) : (displayLines source).length =
    if lastLine source.toList = [] then breaks source else breaks source + 1 := by
  rw [displayLines]
  simp only [getLast?_breakLines, List.length_map, List.length_append, List.length_dropLast,
    length_breakLines, breaks]
  split <;> simp_all

/-! ## Places that are marked -/

/-- The places in a source text that may be marked. -/
inductive Markable (source : String) : Span → Prop
  | item {item : TokenItem} : item ∈ (lex source).items → Markable source item.span
  | beginning : Markable source ⟨1, 1, 1⟩
  | ending : Markable source (spanAfter source.toList [])

/-- The end of a text, on a line that holds nothing. -/
def AtBlankEnd (source : String) (span : Span) : Prop :=
  lastLine source.toList = [] ∧ span = spanAfter source.toList []

instance (source : String) (span : Span) : Decidable (AtBlankEnd source span) :=
  inferInstanceAs (Decidable (_ ∧ _))

/-- What may be marked lies on a line of the text. -/
theorem Markable.line_pos (h : Markable source span) : 1 ≤ span.line := by
  cases h with
  | item hitem => exact line_of_mem_lex hitem
  | beginning => exact Nat.le_refl 1
  | ending => exact Nat.succ_pos _

theorem Markable.line_le (h : Markable source span) : span.line ≤ breaks source + 1 := by
  cases h with
  | item hitem => exact line_le_of_mem_lex hitem
  | beginning => exact Nat.succ_pos _
  | ending => exact Nat.le_refl _

theorem AtBlankEnd.not_listed (h : AtBlankEnd source span) :
    (displayLines source).length < span.line := by
  rw [length_displayLines, if_pos h.1, h.2]
  exact Nat.lt_succ_self _

/-- A place that may be marked lies on a line of the pane, unless it is the end on a line that holds
nothing. -/
theorem Markable.listed (h : Markable source span) (hend : ¬ AtBlankEnd source span) :
    span.line ≤ (displayLines source).length := by
  rw [length_displayLines]
  by_cases hlast : lastLine source.toList = []
  · rw [if_pos hlast]
    have hwhole := wholeLines_of_lastLine hlast
    cases h with
    | item hitem => exact hwhole.line_le hitem
    | beginning =>
      -- a text without a line break holds nothing at all, so its beginning is its end
      refine Nat.pos_of_ne_zero fun hbreaks => hend ⟨hlast, ?_⟩
      have hbreaks : source.toList.count '\n' = 0 := hbreaks
      rw [spanAfter, lineAfter, columnAfter, hlast, hbreaks]
      rfl
    | ending => exact absurd ⟨hlast, rfl⟩ hend
  · rw [if_neg hlast]
    exact h.line_le

/-! ## Errors -/

/-- Tokens at places with the property `place` correspond to themselves. -/
def Grammar.Likeness.within (g : Setting) (place : Span → Prop) : Likeness g g where
  token t t' := t = t' ∧ place t.span
  place := id
  kind h := by rw [h.1]
  placed h _ := by rw [h.1]

theorem place_of_error {g : Setting} {place : Span → Prop} {e e' : CompileError}
    (h : (Likeness.within g place).Error (fun e _ => place e.span) e e')
    (hspan : e.span? = some span) : place span := by
  cases h with
  | lexical hplace =>
    cases hspan
    exact hplace
  | grammatical hplace =>
    cases hspan
    exact hplace.2

/-- An error that reading a source comes to is at one of its items or at its end. -/
theorem markable_of_error {surface : Surface} {e : CompileError}
    (h : parse surface source = .error e) (hspan : e.span? = some span) : Markable source span := by
  let like := Likeness.within ((lex source).setting surface) (Markable source)
  have hitems :
      like.Items (fun e _ => Markable source e.span) (lex source).items (lex source).items := by
    refine List.forall₂_same.mpr fun item hitem => ?_
    have hmark := Markable.item (List.mem_of_mem_filter hitem)
    cases item with
    | ok token => exact .token ⟨rfl, hmark⟩
    | error e => exact .error hmark
  have hending : (lex source).endSpan = spanAfter source.toList [] := endSpan_lexText source.toList
  have hend : like.token (lex source).endToken (lex source).endToken :=
    ⟨rfl, by rw [TokenSource.endToken, hending]; exact .ending⟩
  have houtcome := Likeness.Items.outcome hend rfl hitems
  rw [parse_eq_result] at h
  generalize (lex source).outcome surface = outcome at h houtcome
  cases houtcome with
  | read => cases h
  | refused hne herrors =>
    cases herrors with
    | nil => exact absurd rfl hne
    | cons herror _ =>
      cases h
      exact place_of_error herror hspan

/-! ## Nodes -/

theorem Node.within_of_mem_preorder {tree n : Node} {depth depth' : Nat}
    (h : (depth', n) ∈ tree.preorder depth) : n.Within tree := by
  induction tree using Node.children_induction generalizing depth with
  | step tree ih =>
    rw [preorder_eq, List.mem_cons, List.mem_flatMap] at h
    rcases h with hroot | ⟨child, hchild, hn⟩
    · cases hroot
      exact .root
    · exact .deeper hchild (ih child hchild hn)

/-- A node of a tree is at an item of the source, or is the root, which is at the beginning. -/
theorem markable_of_within {surface : Surface} {tree n : Node} {lines : Array String}
    {origin : Location} (h : compile surface source = .ok (tree, lines)) (hn : n.Within tree)
    (horigin : n.origin? = some origin) : Markable source origin.span := by
  obtain ⟨-, reader, hstart, htree⟩ := compile_eq_ok h
  obtain ⟨-, body, hbody, rfl⟩ := program_of_tree? hstart htree
  cases hn with
  | root =>
    cases horigin
    exact .beginning
  | deeper hchild hn =>
    obtain rfl := List.mem_singleton.mp hchild
    have hsentinel : n.kind ≠ .eos := fun heos => by
      rw [n.origin?_eq_none.mpr heos] at horigin
      cases horigin
    obtain ⟨token, hmem, -, -, htoken⟩ := exists_token_of_within hbody hn hsentinel
    rw [htoken] at horigin
    cases horigin
    exact .item hmem

/-! ## Scrolling -/

theorem SourceScroll.offset_follow (scroll : SourceScroll) {total line : Nat} (visible : Nat)
    (hpos : 1 ≤ line) (hline : line ≤ total) :
    (scroll.follow total (some line) visible).offset =
      min (line - 1 - scroll.target visible) (total - visible) := by
  rw [follow]
  exact if_neg (by omega)

/-- **The line that is followed is seen**, wherever the pane was scrolled to before. -/
theorem SourceScroll.follow_reveals (scroll : SourceScroll) {total line visible : Nat}
    (hvisible : 0 < visible) (hpos : 1 ≤ line) (hline : line ≤ total) :
    (scroll.follow total (some line) visible).offset ≤ line - 1 ∧
      line - 1 < (scroll.follow total (some line) visible).offset + visible := by
  have htarget : scroll.target visible ≤ visible - 1 := Nat.min_le_right _ _
  rw [scroll.offset_follow visible hpos hline]
  omega

/-- The line numbered `number` is drawn in its row, if that is one of the rows. -/
theorem SourcePane.getElem?_visibleLines {lines : List String} {number offset visible : Nat}
    {text : String} (mark : Option Span) (isError : Bool) (hline : lines[number - 1]? = some text)
    (hpos : 1 ≤ number) (habove : offset ≤ number - 1) (hbelow : number - 1 < offset + visible) :
    (visibleLines lines offset visible mark isError)[number - 1 - offset]? =
      some (sourceLine number text.toList mark isError) := by
  have hindex : offset + (number - 1 - offset) = number - 1 := by omega
  have hrow : number - 1 - offset < visible := by omega
  have hnumber : 1 + (number - 1) = number := by omega
  rw [visibleLines, List.getElem?_map, List.getElem?_take_of_lt hrow, List.getElem?_drop, hindex,
    List.getElem?_zipIdx, hline]
  simp [hnumber]

/-! ## The viewer -/

namespace Viewer

variable {surface : Surface} {v : Viewer}

/-- What a viewer marks is a place in its source that may be marked. -/
theorem Steady.markable (h : v.Steady surface source) (hspan : v.highlighted? = some span) :
    Markable source span := by
  have hresult := h.resultKept
  cases hcompile : compile surface source with
  | error e =>
    rw [hcompile] at hresult
    rw [highlighted?_of_error hresult] at hspan
    exact markable_of_error (parse_of_compile_error hcompile) hspan
  | ok compiled =>
    obtain ⟨tree, lines⟩ := compiled
    rw [hcompile] at hresult
    obtain ⟨row, hrow⟩ := h.selected_row hresult
    rw [highlighted?_of_ok hresult hrow] at hspan
    have hmem : row ∈ v.rows.toList := Array.mem_toList_iff.mpr (Array.mem_of_getElem? hrow)
    rw [h.toList_rows hresult] at hmem
    obtain ⟨⟨depth, n⟩, hn, rfl⟩ := List.mem_map.mp hmem
    obtain ⟨origin, horigin, rfl⟩ := Option.map_eq_some_iff.mp hspan
    exact markable_of_within hcompile (Node.within_of_mem_preorder hn) horigin

/-- After a draw on a screen of this size, the source pane shows the mark `span`. -/
structure ShowsMark (v : Viewer) (width height : Nat) (span : Span) : Prop where
  /-- The line is one of the lines of the pane. -/
  listed : 1 ≤ span.line ∧ span.line ≤ (displayLines v.source).length
  /-- The line is one of those that the pane is scrolled to. -/
  window : (v.draw width height).2.sourceScroll.offset ≤ span.line - 1 ∧
    span.line - 1 < (v.draw width height).2.sourceScroll.offset +
      max 1 ((sourceArea width height).height - 2)
  /-- The line is drawn with the mark, in the row that this gives. -/
  drawn : ∃ text, (displayLines v.source)[span.line - 1]? = some text ∧
    (SourcePane.visibleLines (displayLines v.source) (v.draw width height).2.sourceScroll.offset
      (max 1 ((sourceArea width height).height - 2)) v.highlighted? v.error?.isSome)[
        span.line - 1 - (v.draw width height).2.sourceScroll.offset]? =
      some (SourcePane.sourceLine span.line text.toList (some span) v.error?.isSome)

/-- A mark on a line of the pane is shown. -/
theorem showsMark_of_listed (hspan : v.highlighted? = some span) (hpos : 1 ≤ span.line)
    (hline : span.line ≤ (displayLines v.source).length) (width height : Nat) :
    v.ShowsMark width height span := by
  have hwindow := v.sourceScroll.follow_reveals (rows_pos (sourceArea width height).height)
    hpos hline
  have hscroll : (v.draw width height).2.sourceScroll = v.sourceScroll.follow
      (displayLines v.source).length (some span.line)
      (max 1 ((sourceArea width height).height - 2)) := by
    rw [draw_eq, hspan]
    rfl
  rw [← hscroll] at hwindow
  have hindex : span.line - 1 < (displayLines v.source).length := by omega
  have htext := List.getElem?_eq_getElem hindex
  refine ⟨⟨hpos, hline⟩, hwindow, _, htext, ?_⟩
  rw [hspan]
  exact SourcePane.getElem?_visibleLines _ _ htext hpos hwindow.1 hwindow.2

/-- **The source pane shows what is marked**, after any keys and draws and on a screen of any size,
unless that is the end of the text on a line that holds nothing. Such a line is counted, but it is
not one of the pane's. -/
theorem mark_is_shown_iff (surface : Surface) (source : String) (events : List Event)
    (width height : Nat) {span : Span}
    (h : ((new surface source).after events).highlighted? = some span) :
    1 ≤ span.line ∧ span.line ≤ (sourceLines source).size ∧
      (((new surface source).after events).ShowsMark width height span ↔
        ¬ AtBlankEnd source span) := by
  have hsteady := (steady_new surface source).after events
  have hmark := hsteady.markable h
  refine ⟨hmark.line_pos, size_sourceLines source ▸ hmark.line_le, fun hshows hend => ?_,
    fun hend => ?_⟩
  · have hline := hshows.listed.2
    rw [hsteady.sourceKept] at hline
    exact Nat.not_lt.mpr hline hend.not_listed
  · refine showsMark_of_listed h hmark.line_pos ?_ width height
    rw [hsteady.sourceKept]
    exact hmark.listed hend

/-- The semicolon is missed at the end of a text that ends with a letter, and keys have moved the
mark. -/
theorem mark_is_shown_iff_of_missing_semicolon :
    let events : List Event := [.drawn 40 8, .key .tab, .key .up, .key .up]
    let v := (new .sml "a = 1;\nx = b").after events
    v.highlighted? = some ⟨2, 6, 6⟩ ∧ ∀ width height, v.ShowsMark width height ⟨2, 6, 6⟩ := by
  intro events v
  have hmark : v.highlighted? = some ⟨2, 6, 6⟩ := by decide +kernel
  refine ⟨hmark, fun width height => ?_⟩
  exact (mark_is_shown_iff .sml "a = 1;\nx = b" events width height hmark).2.2.mpr
    (by decide +kernel)

/-- Behind the last line break, where the semicolon of `x = 1` is missed, the mark is not shown. -/
theorem mark_behind_last_break_not_shown :
    let v := (new .sml "x = 1\n").after [.drawn 40 8]
    v.highlighted? = some ⟨2, 1, 1⟩ ∧ ∀ width height, ¬ v.ShowsMark width height ⟨2, 1, 1⟩ := by
  refine ⟨by decide +kernel, fun width height hshows => ?_⟩
  exact absurd hshows.listed.2 (by decide +kernel)

/-- The root of an empty program is such a mark too. -/
example : (new .myrmidon "").highlighted? = some ⟨1, 1, 1⟩ ∧ AtBlankEnd "" ⟨1, 1, 1⟩ := by
  decide +kernel

end Viewer

end TwinSyntax
