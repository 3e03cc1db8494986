import Mathlib.Data.Nat.Dist
import TwinSyntax.Proofs.Preorder
import TwinSyntax.Viewer.State

/-!
# The viewer over a whole run

Keys and draws of any size follow each other in any order. A draw settles only how far the panes are
scrolled, and a key changes only what is selected, what has the focus, and whether the user wants to
leave.

**The invariant** (`Viewer.Steady`). The source, the result and the rows are those at the start, the
selection is one of the rows if there are any, the message is that at the start or that of the
selected row, and the tree pane is not scrolled beyond the rows. A new selection comes with its
message, so the two never part; and a draw scrolls to the selection, which is one of the rows.

**Theorem (`viewer_stays_consistent`).** After any run from a new viewer, what is shown belongs to
the source, and the next draw shows the selected row with as little scrolling as possible.
-/

namespace TwinSyntax

/-! ## Scrolling -/

/-- A pane of any height has a row. -/
theorem rows_pos (paneHeight : Nat) : 0 < max 1 (paneHeight - 2) :=
  Nat.lt_of_lt_of_le Nat.zero_lt_one (Nat.le_max_left _ _)

namespace TreePane

/-- `offset` rows above a pane of `visible` rows show the row `selected`. -/
def Reveals (offset selected visible : Nat) : Prop :=
  offset ≤ selected ∧ selected < offset + visible

variable {offset selected visible : Nat}

/-- The three cases of scrolling: up to the row, down to the row, or not at all. -/
theorem scrollTo_cases (offset selected visible : Nat) :
    selected < offset ∧ scrollTo offset selected visible = selected ∨
      offset + visible ≤ selected ∧ scrollTo offset selected visible = selected + 1 - visible ∨
        Reveals offset selected visible ∧ scrollTo offset selected visible = offset := by
  unfold scrollTo
  by_cases habove : selected < offset
  · exact .inl ⟨habove, if_pos habove⟩
  · rw [if_neg habove]
    by_cases hbelow : offset + visible ≤ selected
    · exact .inr (.inl ⟨hbelow, if_pos hbelow⟩)
    · exact .inr (.inr ⟨⟨Nat.not_lt.mp habove, Nat.not_le.mp hbelow⟩, if_neg hbelow⟩)

theorem reveals_scrollTo (offset selected : Nat) (hvisible : 0 < visible) :
    Reveals (scrollTo offset selected visible) selected visible := by
  rcases scrollTo_cases offset selected visible with ⟨h, heq⟩ | ⟨h, heq⟩ | ⟨h, heq⟩ <;> rw [heq]
  · exact ⟨Nat.le_refl _, Nat.lt_add_of_pos_right hvisible⟩
  · constructor <;> omega
  · exact h

/-- Every other offset that shows the row is further away. -/
theorem scrollTo_nearest {other : Nat} (hother : Reveals other selected visible)
    (hne : other ≠ scrollTo offset selected visible) :
    Nat.dist offset (scrollTo offset selected visible) < Nat.dist offset other := by
  obtain ⟨habove, hbelow⟩ := hother
  unfold Nat.dist
  rcases scrollTo_cases offset selected visible with ⟨h, heq⟩ | ⟨h, heq⟩ | ⟨-, heq⟩ <;>
    rw [heq] at hne ⊢ <;> omega

theorem draw_snd (screen : Screen) (area : Area) (rows : List TreeRow) (selected : Nat)
    (name : String) (focused : Bool) (scroll : Nat) :
    (draw screen area rows selected name focused scroll).2 =
      if rows.isEmpty then scroll else scrollTo scroll selected (max 1 (area.height - 2)) := by
  rw [← visibleRows_eq]
  unfold draw
  dsimp only
  split <;> rfl

end TreePane

theorem SourcePane.draw_snd (screen : Screen) (area : Area) (source : String) (mark : Option Span)
    (isError focused : Bool) (scroll : SourceScroll) :
    (draw screen area source mark isError focused scroll).2 =
      scroll.follow (displayLines source).length (mark.map Span.line)
        (max 1 (area.height - 2)) := by
  rw [← visibleRows_eq]
  rfl

namespace Viewer

/-! ## Events -/

/-- What happens to a viewer: a key is pressed, or the viewer is drawn on a screen. -/
inductive Event where
  | key (key : Key)
  | drawn (width height : Nat)

/-- The viewer behind an event. -/
def handle (v : Viewer) : Event → Viewer
  | .key key => v.press key
  | .drawn width height => (v.draw width height).2

/-- The viewer behind a run. -/
def after (v : Viewer) (events : List Event) : Viewer := events.foldl handle v

/-- The area of the source pane on a screen of this size. -/
def sourceArea (width height : Nat) : Area := (layout width height).1

/-- The area of the tree pane on a screen of this size. -/
def treeArea (width height : Nat) : Area := (layout width height).2.1

/-- A selection is one of the rows and comes with its message. -/
theorem select_cases (v : Viewer) (index : Nat) :
    v.rows = #[] ∧ v.select index = v ∨
      ∃ selected row, v.rows[selected]? = some row ∧
        v.select index = { v with selected, status := describe row } := by
  unfold select
  cases hrow : v.rows[min index (v.rows.size - 1)]? with
  | some row => exact .inr ⟨_, row, hrow, by simp only [hrow]⟩
  | none =>
    have hsize := Array.getElem?_eq_none_iff.mp hrow
    have hempty : v.rows.size = 0 := by omega
    exact .inl ⟨Array.eq_empty_of_size_eq_zero hempty, by simp only [hrow]⟩

/-- What a key may do. -/
inductive Pressed (v : Viewer) : Viewer → Prop
  | quits : Pressed v { v with quitting := true }
  | refocuses : Pressed v { v with focus := v.focus.other }
  | selects (index : Nat) : Pressed v (v.select index)
  | scrolls (move : Nat → Nat) : Pressed v (v.moveMark move)
  | nothing : Pressed v v

theorem pressed (v : Viewer) (key : Key) : Pressed v (v.press key) := by
  unfold press
  split
  · exact .quits
  · exact .quits
  · exact .quits
  · exact .refocuses
  · exact .selects _
  · exact .scrolls _
  · exact .selects _
  · exact .scrolls _
  · exact .selects _
  · exact .selects _
  · exact .nothing
  · exact .nothing

/-- A draw settles how far the panes are scrolled. -/
theorem draw_eq (v : Viewer) (width height : Nat) :
    (v.draw width height).2 = { v with
      sourceScroll :=
        v.sourceScroll.follow (displayLines v.source).length (v.highlighted?.map Span.line)
          (max 1 ((sourceArea width height).height - 2))
      treeScroll :=
        if v.rows.toList.isEmpty then v.treeScroll
        else TreePane.scrollTo v.treeScroll v.selected
          (max 1 ((treeArea width height).height - 2)) } := by
  simp only [draw, SourcePane.draw_snd, TreePane.draw_snd]
  rfl

/-! ## The invariant -/

/-- The state of a viewer of `source` after any run. -/
structure Steady (surface : Surface) (source : String) (v : Viewer) : Prop where
  sourceKept : v.source = source
  surfaceKept : v.surface = surface
  resultKept : v.result = (compile surface source).map Prod.fst
  rowsKept : v.rows = (new surface source).rows
  /-- One of the rows is selected, if there are any. -/
  selected : v.selected < v.rows.size ∨ v.rows = #[] ∧ v.selected = 0
  /-- The message is the first one, or that of the selected row. -/
  status : v.status = (new surface source).status ∧ v.selected = 0 ∨
    ∃ row, v.rows[v.selected]? = some row ∧ v.status = describe row
  /-- Some row is seen in the tree pane, if there are any. -/
  treeScroll : v.treeScroll = 0 ∨ v.treeScroll < v.rows.size

theorem steady_new (surface : Surface) (source : String) :
    (new surface source).Steady surface source where
  sourceKept := rfl
  surfaceKept := rfl
  resultKept := rfl
  rowsKept := rfl
  selected := by
    rcases Nat.eq_zero_or_pos (new surface source).rows.size with hsize | hsize
    · exact .inr ⟨Array.eq_empty_of_size_eq_zero hsize, rfl⟩
    · exact .inl hsize
  status := .inl ⟨rfl, rfl⟩
  treeScroll := .inl rfl

namespace Steady

variable {surface : Surface} {source : String} {v w : Viewer} (h : v.Steady surface source)
include h

theorem select (index : Nat) : (v.select index).Steady surface source := by
  rcases v.select_cases index with ⟨-, heq⟩ | ⟨selected, row, hrow, heq⟩
  · rw [heq]
    exact h
  · rw [heq]
    exact {
      sourceKept := h.sourceKept
      surfaceKept := h.surfaceKept
      resultKept := h.resultKept
      rowsKept := h.rowsKept
      selected := .inl (Array.getElem?_eq_some_iff.mp hrow).1
      status := .inr ⟨row, hrow, rfl⟩
      treeScroll := h.treeScroll }

theorem pressed (hpressed : Pressed v w) : w.Steady surface source := by
  cases hpressed with
  | quits | refocuses | scrolls move =>
    exact ⟨h.sourceKept, h.surfaceKept, h.resultKept, h.rowsKept, h.selected, h.status,
      h.treeScroll⟩
  | selects index => exact h.select index
  | nothing => exact h

theorem draw (width height : Nat) : (v.draw width height).2.Steady surface source := by
  rw [draw_eq]
  refine ⟨h.sourceKept, h.surfaceKept, h.resultKept, h.rowsKept, h.selected, h.status, ?_⟩
  dsimp only
  split
  · exact h.treeScroll
  · next hrows =>
    -- no more rows are above the pane than above the selection, which is one of the rows
    have hreveals := TreePane.reveals_scrollTo v.treeScroll v.selected
      (rows_pos (treeArea width height).height)
    rcases h.selected with hlt | ⟨hempty, -⟩
    · exact .inr (Nat.lt_of_le_of_lt hreveals.1 hlt)
    · rw [hempty] at hrows
      exact absurd rfl hrows

theorem handle (event : Event) : (v.handle event).Steady surface source := by
  cases event with
  | key key => exact h.pressed (v.pressed key)
  | drawn width height => exact h.draw width height

theorem after (events : List Event) : (v.after events).Steady surface source := by
  induction events generalizing v with
  | nil => exact h
  | cons event events ih => exact ih (h.handle event)

end Steady

/-! ## What follows -/

theorem Pressed.quitting {v w : Viewer} (hpressed : Pressed v w) (h : v.quitting = true) :
    w.quitting = true := by
  cases hpressed with
  | quits => rfl
  | refocuses | scrolls move | nothing => exact h
  | selects index =>
    rcases v.select_cases index with ⟨-, heq⟩ | ⟨selected, row, -, heq⟩ <;> rw [heq] <;> exact h

theorem quitting_handle {v : Viewer} (h : v.quitting = true) (event : Event) :
    (v.handle event).quitting = true := by
  cases event with
  | key key => exact (v.pressed key).quitting h
  | drawn width height => exact h

/-- Whoever wants to leave does not change their mind. -/
theorem quitting_after {v : Viewer} (h : v.quitting = true) (events : List Event) :
    (v.after events).quitting = true := by
  induction events generalizing v with
  | nil => exact h
  | cons event events ih => exact ih (quitting_handle h event)

namespace Steady

variable {surface : Surface} {source : String} {v : Viewer} {tree : Node} {e : CompileError}
  (h : v.Steady surface source)
include h

theorem rows_of_ok (hresult : v.result = .ok tree) : v.rows = (TreeRow.ofTree tree).toArray := by
  rw [h.resultKept] at hresult
  rw [h.rowsKept]
  simp only [new, hresult]

theorem rows_of_error (hresult : v.result = .error e) : v.rows = #[] := by
  rw [h.resultKept] at hresult
  rw [h.rowsKept]
  simp only [new, hresult]

theorem toList_rows (hresult : v.result = .ok tree) :
    v.rows.toList = (tree.preorder 0).map fun place => TreeRow.ofNode place.1 place.2 := by
  rw [h.rows_of_ok hresult, List.toList_toArray, TreeRow.ofTree, Node.walk_eq_preorder]

/-- A tree has a root. -/
theorem rows_ne_empty (hresult : v.result = .ok tree) : v.rows ≠ #[] := by
  intro hempty
  have hrows := h.toList_rows hresult
  rw [hempty, Node.preorder_eq, List.map_cons] at hrows
  cases hrows

theorem rows_eq_empty_iff : v.rows = #[] ↔ ∃ e, v.result = .error e := by
  constructor
  · intro hempty
    cases hresult : v.result with
    | ok tree => exact absurd hempty (h.rows_ne_empty hresult)
    | error e => exact ⟨e, rfl⟩
  · rintro ⟨e, hresult⟩
    exact h.rows_of_error hresult

theorem selected_row (hresult : v.result = .ok tree) : ∃ row, v.rows[v.selected]? = some row := by
  rcases h.selected with hlt | ⟨hempty, -⟩
  · exact ⟨v.rows[v.selected], Array.getElem?_eq_getElem hlt⟩
  · exact absurd hempty (h.rows_ne_empty hresult)

end Steady

theorem highlighted?_of_error {v : Viewer} {e : CompileError} (h : v.result = .error e) :
    v.highlighted? = e.span? := by
  rw [highlighted?, h]

theorem highlighted?_of_ok {v : Viewer} {tree : Node} {row : TreeRow} (h : v.result = .ok tree)
    (hrow : v.rows[v.selected]? = some row) : v.highlighted? = row.span? := by
  rw [highlighted?, h, hrow]
  rfl

theorem selected_press_of_source {v : Viewer} (h : v.focus = .source) :
    (v.press .up).selected = v.selected ∧ (v.press .down).selected = v.selected := by
  unfold press
  rw [h]
  exact ⟨rfl, rfl⟩

/-- A draw on a screen of this size shows the selected row, and scrolls the tree pane no further
than that takes: every other offset that shows the row is further away. -/
structure Settles (v : Viewer) (width height : Nat) : Prop where
  selected : (v.draw width height).2.selected = v.selected
  reveals : TreePane.Reveals (v.draw width height).2.treeScroll v.selected
    (max 1 ((treeArea width height).height - 2))
  nearest {other : Nat} :
    TreePane.Reveals other v.selected (max 1 ((treeArea width height).height - 2)) →
    other ≠ (v.draw width height).2.treeScroll →
    Nat.dist v.treeScroll (v.draw width height).2.treeScroll < Nat.dist v.treeScroll other

theorem settles {v : Viewer} (hrows : v.rows ≠ #[]) (width height : Nat) :
    v.Settles width height := by
  have hscroll : (v.draw width height).2.treeScroll =
      TreePane.scrollTo v.treeScroll v.selected (max 1 ((treeArea width height).height - 2)) := by
    rw [draw_eq]
    exact if_neg (by simpa using hrows)
  constructor
  · rw [draw_eq]
  · rw [hscroll]
    exact TreePane.reveals_scrollTo _ _ (rows_pos _)
  · rw [hscroll]
    exact TreePane.scrollTo_nearest

/-- A viewer of `source` after any run. -/
structure Consistent (surface : Surface) (source : String) (v : Viewer) : Prop
    extends Steady surface source v where
  /-- The rows are those of the tree, parents before children. -/
  preorder {tree : Node} : v.result = .ok tree →
    v.rows.toList = (tree.preorder 0).map fun place => TreeRow.ofNode place.1 place.2
  /-- There are rows, unless the source does not compile. -/
  emptyIff : v.rows = #[] ↔ ∃ e, v.result = .error e
  /-- If the source does not compile, the error is marked. -/
  marksError {e : CompileError} : v.result = .error e → v.highlighted? = e.span?
  /-- If it does, the selected node is. -/
  marksSelected {tree : Node} : v.result = .ok tree →
    ∃ row, v.rows[v.selected]? = some row ∧ v.highlighted? = row.span?
  /-- Whoever wants to leave does not change their mind. -/
  leaves (events : List Event) : v.quitting = true → (v.after events).quitting = true
  /-- In the source pane, up and down select nothing. -/
  selects : v.focus = .source →
    (v.press .up).selected = v.selected ∧ (v.press .down).selected = v.selected
  /-- No pane of any height reaches further beyond the rows than its own height. -/
  reaches (paneHeight : Nat) : v.treeScroll + max 1 (paneHeight - 2) ≤ v.rows.size + paneHeight + 1
  /-- The next draw shows the selected row, whatever the size of the screen. -/
  settles (width height : Nat) : v.rows ≠ #[] → v.Settles width height

/-- **The viewer stays consistent.** -/
theorem viewer_stays_consistent (surface : Surface) (source : String) (events : List Event) :
    ((new surface source).after events).Consistent surface source := by
  have h := (steady_new surface source).after events
  exact {
    h with
    preorder := fun hresult => h.toList_rows hresult
    emptyIff := h.rows_eq_empty_iff
    marksError := highlighted?_of_error
    marksSelected := fun hresult => by
      obtain ⟨row, hrow⟩ := h.selected_row hresult
      exact ⟨row, hrow, highlighted?_of_ok hresult hrow⟩
    leaves := fun more hquitting => quitting_after hquitting more
    selects := selected_press_of_source
    reaches := fun paneHeight => by
      have hscroll := h.treeScroll
      omega
    settles := fun width height hrows => settles hrows width height }

end Viewer

end TwinSyntax
