import TwinSyntax.Proofs.Visibility

/-!
# A steady mark

A draw of the source pane settles a row for the marked line and scrolls the text so that the line is
there. Both have bounds: the row is one of those that the pane has, and the text does not end above
the last one.

**The row** (`target_lt`, `target_follow`). Whatever row was wanted before, the one that is settled
is in the pane, and the next draw of a pane of this height settles it again.

**The text** (`offset_follow`, `offset_follow_of_unlisted`). The offset depends on the line and the
settled row alone, and not on the offset before, unless the text does not have the line; then it is
the one before. So a second draw changes nothing (`follow_follow`).

Main result: `draw_holds_mark`.
-/

namespace TwinSyntax

namespace SourceScroll

variable {total : Nat} {marked : Option Nat}

/-- A row of the pane is settled. -/
theorem target_lt (scroll : SourceScroll) {visible : Nat} (hvisible : 0 < visible) :
    scroll.target visible < visible :=
  Nat.lt_of_le_pred hvisible (Nat.min_le_right _ _)

/-- A row that is settled is settled again. -/
theorem target_follow (scroll : SourceScroll) (total visible : Nat) (marked : Option Nat) :
    (scroll.follow total marked visible).target visible = scroll.target visible :=
  Nat.min_eq_left (Nat.min_le_right _ _)

/-- No line is followed that the text does not have. -/
theorem offset_follow_of_unlisted (scroll : SourceScroll) (visible : Nat)
    (h : ∀ line, marked = some line → ¬ (1 ≤ line ∧ line ≤ total)) :
    (scroll.follow total marked visible).offset = scroll.offset := by
  cases marked with
  | none => rfl
  | some line =>
    have hline := h line rfl
    rw [follow]
    exact if_pos (by omega)

/-- **A second draw changes nothing.** -/
theorem follow_follow (scroll : SourceScroll) (total visible : Nat) (marked : Option Nat) :
    (scroll.follow total marked visible).follow total marked visible =
      scroll.follow total marked visible := by
  have hrow := scroll.target_follow total visible marked
  have hoffset : ((scroll.follow total marked visible).follow total marked visible).offset =
      (scroll.follow total marked visible).offset := by
    by_cases h : ∃ line, marked = some line ∧ 1 ≤ line ∧ line ≤ total
    · obtain ⟨line, rfl, hpos, hline⟩ := h
      rw [offset_follow _ visible hpos hline, offset_follow _ visible hpos hline, hrow]
    · exact offset_follow_of_unlisted _ visible fun line hmarked hlisted =>
        h ⟨line, hmarked, hlisted⟩
  exact congrArg₂ SourceScroll.mk hoffset (congrArg some hrow)

end SourceScroll

namespace SourcePane

/-- The span is on one of the lines of the pane. -/
def OnPane (source : String) (span : Span) : Prop :=
  1 ≤ span.line ∧ span.line ≤ (displayLines source).length

/-- What a draw of `source` in a pane of `visible` rows makes of the mark, where the pane was
scrolled like `before` and is scrolled like `after` then. The row `row` is settled. -/
structure HoldsMark (source : String) (mark : Option Span) (isError : Bool) (visible : Nat)
    (before after : SourceScroll) (row : Nat) : Prop where
  /-- The settled row is in the pane. -/
  settled : after.targetRow? = some row ∧ row < visible
  /-- If no line of the pane is marked, the text stays where it is. -/
  rests : (∀ span, mark = some span → ¬ OnPane source span) → after.offset = before.offset
  /-- A marked line is seen. -/
  seen {span : Span} : mark = some span → OnPane source span →
    after.offset ≤ span.line - 1 ∧ span.line - 1 < after.offset + visible
  /-- The text is not scrolled beyond its end for it. -/
  bounded {span : Span} : mark = some span → OnPane source span →
    after.offset ≤ (displayLines source).length - visible
  /-- The marked line is drawn in the settled row, if there is enough text above and below. -/
  steady {span : Span} : mark = some span → OnPane source span →
    visible < (displayLines source).length →
    row ≤ span.line - 1 → span.line - 1 ≤ (displayLines source).length - visible + row →
    span.line - 1 - after.offset = row ∧
      ∃ text, (displayLines source)[span.line - 1]? = some text ∧
        (visibleLines (displayLines source) after.offset visible mark isError)[row]? =
          some (sourceLine span.line text.toList mark isError)

theorem follow_holds_mark (source : String) (mark : Option Span) (isError : Bool) {visible : Nat}
    (hvisible : 0 < visible) (before : SourceScroll) :
    HoldsMark source mark isError visible before
      (before.follow (displayLines source).length (mark.map Span.line) visible)
        (before.target visible) := by
  have hrow := before.target_lt hvisible
  constructor
  case settled => exact ⟨rfl, hrow⟩
  case rests =>
    intro h
    refine before.offset_follow_of_unlisted visible fun line hline => ?_
    obtain ⟨span, hspan, rfl⟩ := Option.map_eq_some_iff.mp hline
    exact h span hspan
  case seen =>
    rintro span rfl ⟨hpos, hline⟩
    exact before.follow_reveals hvisible hpos hline
  case bounded =>
    rintro span rfl ⟨hpos, hline⟩
    rw [Option.map_some, before.offset_follow visible hpos hline]
    exact Nat.min_le_right _ _
  case steady =>
    rintro span rfl ⟨hpos, hline⟩ htall habove hbelow
    have hseen := before.follow_reveals hvisible hpos hline
    have hsettled : span.line - 1 -
        (before.follow (displayLines source).length (some span.line) visible).offset =
          before.target visible := by
      rw [before.offset_follow visible hpos hline]
      omega
    have hindex : span.line - 1 < (displayLines source).length := by omega
    have htext := List.getElem?_eq_getElem hindex
    refine ⟨hsettled, _, htext, ?_⟩
    rw [← hsettled]
    exact getElem?_visibleLines (some span) isError htext hpos hseen.1 hseen.2

/-- **The source pane holds the mark steady.** However the pane was scrolled before and whatever its
height is, a draw settles a row of the pane and scrolls the text so that the marked line is there,
or as near as the text allows; and drawing the same again changes nothing. -/
theorem draw_holds_mark (screen : Screen) (area : Area) (source : String) (mark : Option Span)
    (isError focused : Bool) (before : SourceScroll) :
    let after := (draw screen area source mark isError focused before).2
    (∃ row, HoldsMark source mark isError (max 1 (area.height - 2)) before after row) ∧
      ∀ screen', (draw screen' area source mark isError focused after).2 = after := by
  dsimp only
  simp only [draw_snd]
  exact ⟨⟨_, follow_holds_mark source mark isError (rows_pos area.height) before⟩,
    fun _ => before.follow_follow _ _ _⟩

end SourcePane

end TwinSyntax
