import TwinSyntax.Text.Lines

/-!
# Places in a text

A character of a text can be named by its position, which counts all characters in front of it, or
by its place, a line and a column. This file goes from one to the other.

**From a position to a place** (`lineAfter`, `columnAfter`). Behind the characters `before`, the
line is one more than the line breaks among them, and the column is one more than the characters
behind the last of these.

**From a place to a position** (`Span.start`, `Span.stop`). Line `n` begins behind the line break
with the number `n - 1`, and columns count from there. Main result: `start_spanAfter`.

**Lines** (`getElem?_breakLines`). The line on which the text behind `before` goes on.
-/

namespace TwinSyntax

/-! ## From a position to a place -/

/-- The characters of `text` behind its last line break. -/
def lastLine : (text : List Char) → List Char
  | [] => []
  | c :: text => if '\n' ∈ c :: text then lastLine text else c :: text

/-- The line on which a text goes on behind `before`. -/
def lineAfter (before : List Char) : Nat := before.count '\n' + 1

/-- The column in which a text goes on behind `before`. -/
def columnAfter (before : List Char) : Nat := (lastLine before).length + 1

/-- The span of the characters `taken` behind `before`. -/
def spanAfter (before taken : List Char) : Span :=
  ⟨lineAfter before, columnAfter before, columnAfter before + taken.length⟩

variable {before taken after : List Char} {c : Char}

theorem lastLine_of_not_mem {text : List Char} (h : '\n' ∉ text) : lastLine text = text := by
  cases text with
  | nil => rfl
  | cons c text => rw [lastLine, if_neg h]

theorem lastLine_break (before after : List Char) :
    lastLine (before ++ '\n' :: after) = lastLine after := by
  induction before with
  | nil => exact if_pos List.mem_cons_self
  | cons c before ih => rw [List.cons_append, lastLine, if_pos (by simp), ih]

theorem lastLine_append (before : List Char) (h : '\n' ∉ taken) :
    lastLine (before ++ taken) = lastLine before ++ taken := by
  induction before with
  | nil => exact lastLine_of_not_mem h
  | cons c before ih =>
    rw [List.cons_append, lastLine, lastLine, ih]
    by_cases hmem : '\n' ∈ c :: before
    · have hmem' : '\n' ∈ c :: (before ++ taken) := List.mem_append_left taken hmem
      rw [if_pos hmem, if_pos hmem']
    · have hmem' : '\n' ∉ c :: (before ++ taken) := List.not_mem_append hmem h
      rw [if_neg hmem, if_neg hmem', List.cons_append]

/-- If nothing stands behind the last line break, the text ends with one. -/
theorem getLast?_of_lastLine {text : List Char} (h : lastLine text = []) :
    text = [] ∨ text.getLast? = some '\n' := by
  induction text with
  | nil => exact .inl rfl
  | cons c text ih =>
    rw [lastLine] at h
    split at h
    · next hmem =>
      rcases ih h with rfl | hlast
      · obtain rfl := List.mem_singleton.mp hmem
        exact .inr rfl
      · exact .inr (by rw [List.getLast?_cons, hlast]; rfl)
    · cases h

theorem lineAfter_break (before : List Char) :
    lineAfter (before ++ ['\n']) = lineAfter before + 1 := by
  simp [lineAfter]

theorem columnAfter_break (before : List Char) : columnAfter (before ++ ['\n']) = 1 := by
  rw [columnAfter, lastLine_break]
  rfl

theorem lineAfter_append (before : List Char) (h : '\n' ∉ taken) :
    lineAfter (before ++ taken) = lineAfter before := by
  rw [lineAfter, List.count_append, List.count_eq_zero.mpr h, Nat.add_zero, lineAfter]

theorem columnAfter_append (before : List Char) (h : '\n' ∉ taken) :
    columnAfter (before ++ taken) = columnAfter before + taken.length := by
  rw [columnAfter, lastLine_append before h, List.length_append, columnAfter]
  omega

/-! ## From a place to a position -/

/-- The number of characters up to the line break with the number `count`, and with it. -/
def behindBreaks : (text : List Char) → (count : Nat) → Nat
  | _, 0 => 0
  | [], _ + 1 => 0
  | c :: text, count + 1 =>
    if c = '\n' then behindBreaks text count + 1 else behindBreaks text (count + 1) + 1

namespace Span

/-- The position at which a span starts. -/
def start (text : List Char) (span : Span) : Nat :=
  behindBreaks text (span.line - 1) + (span.colStart - 1)

/-- The position at which a span stops. -/
def stop (text : List Char) (span : Span) : Nat :=
  behindBreaks text (span.line - 1) + (span.colEnd - 1)

/-- The characters under a span. -/
def under (text : List Char) (span : Span) : List Char :=
  (text.drop (span.start text)).take (span.stop text - span.start text)

end Span

/-- A first character is on the last line if there is no line break in it and none behind. -/
theorem lastLine_cons_cases {c : Char} (hc : c ≠ '\n') (before : List Char) :
    (before.count '\n' = 0 ∧ lastLine before = before ∧ lastLine (c :: before) = c :: before) ∨
      (∃ count, before.count '\n' = count + 1) ∧ lastLine (c :: before) = lastLine before := by
  cases hcount : before.count '\n' with
  | zero =>
    have hmem := List.count_eq_zero.mp hcount
    have hmem' := List.not_mem_cons_of_ne_of_not_mem (Ne.symm hc) hmem
    exact .inl ⟨rfl, lastLine_of_not_mem hmem, lastLine_of_not_mem hmem'⟩
  | succ count =>
    have hmem : '\n' ∈ before := List.count_pos_iff.mp (hcount ▸ Nat.succ_pos count)
    exact .inr ⟨⟨count, rfl⟩, if_pos (List.mem_cons_of_mem c hmem)⟩

/-- A line begins where the characters behind the last line break begin. -/
theorem behindBreaks_count (before after : List Char) :
    behindBreaks (before ++ after) (before.count '\n') + (lastLine before).length =
      before.length := by
  induction before with
  | nil => simp [behindBreaks, lastLine]
  | cons c before ih =>
    by_cases hc : c = '\n'
    · subst hc
      rw [lastLine, if_pos List.mem_cons_self, List.count_cons_self, List.cons_append, behindBreaks,
        if_pos rfl, List.length_cons]
      omega
    · rw [List.count_cons_of_ne hc, List.length_cons, List.cons_append]
      rcases lastLine_cons_cases hc before with ⟨hcount, -, hline⟩ | ⟨⟨count, hcount⟩, hline⟩
      · rw [hcount, hline, behindBreaks, Nat.zero_add, List.length_cons]
      · rw [hcount] at ih ⊢
        rw [hline, behindBreaks, if_neg hc]
        omega

/-- **The span of characters covers them.** -/
theorem start_spanAfter (before taken after : List Char) :
    (spanAfter before taken).start (before ++ (taken ++ after)) = before.length := by
  have h := behindBreaks_count before (taken ++ after)
  simp only [Span.start, spanAfter, lineAfter, columnAfter, Nat.add_sub_cancel]
  exact h

theorem stop_spanAfter (before taken after : List Char) :
    (spanAfter before taken).stop (before ++ (taken ++ after)) = before.length + taken.length := by
  have h := start_spanAfter before taken after
  simp only [Span.start, Span.stop, spanAfter, columnAfter, Nat.add_sub_cancel] at h ⊢
  omega

theorem under_spanAfter (before taken after : List Char) :
    (spanAfter before taken).under (before ++ (taken ++ after)) = taken := by
  rw [Span.under, start_spanAfter, stop_spanAfter, Nat.add_sub_cancel_left, List.drop_left,
    List.take_left]

/-! ## Lines -/

theorem getElem?_breakLines_zero (text : List Char) :
    (breakLines text)[0]? = some (text.takeWhile (· ≠ '\n')) := by
  induction text with
  | nil => rfl
  | cons c text ih =>
    rw [breakLines_cons, List.takeWhile_cons]
    by_cases h : c = '\n'
    · simp [h]
    · cases hlines : breakLines text with
      | nil => exact absurd hlines (breakLines_ne_nil text)
      | cons line lines =>
        rw [hlines] at ih
        simp_all

/-- **The line on which a text goes on** has what stands behind the last line break in front, and
what stands in front of the next one behind. -/
theorem getElem?_breakLines (before after : List Char) :
    (breakLines (before ++ after))[before.count '\n']? =
      some (lastLine before ++ after.takeWhile (· ≠ '\n')) := by
  induction before with
  | nil => exact getElem?_breakLines_zero after
  | cons c before ih =>
    rw [List.cons_append, breakLines_cons]
    by_cases hc : c = '\n'
    · subst hc
      rw [if_pos rfl, lastLine, if_pos List.mem_cons_self, List.count_cons_self,
        List.getElem?_cons_succ, ih]
    · rw [if_neg hc, List.count_cons_of_ne hc, List.getElem?_modifyHead, ih]
      rcases lastLine_cons_cases hc before with ⟨hcount, hline, hline'⟩ | ⟨⟨count, hcount⟩, hline⟩
      · rw [hcount, hline, hline']
        rfl
      · rw [hcount, hline]
        rfl

end TwinSyntax
