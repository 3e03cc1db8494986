import TwinSyntax.Proofs.LineBreaks

/-!
# Line by line

Scanning a text gives the items of its lines, each line scanned alone, with the line breaks between
them. What is scanned on a line does not depend on any other line, whatever is wrong there.

**Two texts** (`lex_break`). Behind a line break scanning goes on as it began, further down.

**One line** (`itemsOnLine_eq`). The items on a line are those of the line alone, and its line break
if it has one. The induction is on the number of the line. A text that has a second line is its
first line above a text with one line less, and only one of these two has items on a given line.

Main result: `lex_linewise`.
-/

namespace TwinSyntax

/-! ## Two texts -/

/-- What a source yields, up to the end of the file and with it. -/
def TokenSource.yielded (source : TokenSource) : List TokenItem :=
  source.items ++ [.ok source.endToken]

theorem lex_break (above below : String) :
    (lex (above ++ "\n" ++ below)).items =
        (lex above).items ++ .ok (breakAt (lex above).endSpan) ::
          (lex below).items.map (TokenItem.lower (breaks above + 1)) ∧
      (lex (above ++ "\n" ++ below)).endSpan = (lex below).endSpan.lower (breaks above + 1) := by
  have htext : (above ++ "\n" ++ below).toList = above.toList ++ '\n' :: below.toList := by
    simp [String.toList_append]
  have hbreak := lexText_break above.toList below.toList
  rw [← htext, ← endSpan_lexText] at hbreak
  exact ⟨congrArg Prod.fst hbreak, congrArg Prod.snd hbreak⟩

theorem yielded_break (above below : String) :
    (lex (above ++ "\n" ++ below)).yielded =
      (lex above).items ++ .ok (breakAt (lex above).endSpan) ::
        (lex below).yielded.map (TokenItem.lower (breaks above + 1)) := by
  obtain ⟨hitems, hending⟩ := lex_break above below
  rw [TokenSource.yielded, TokenSource.endToken, hitems, hending, TokenSource.yielded,
    List.map_append, List.append_assoc, List.cons_append]
  rfl

theorem line_endSpan (source : String) : (lex source).endSpan.line = breaks source + 1 := by
  rw [(lex_lexed source).2]
  rfl

/-! ## One line -/

variable {text first line : List Char} {item : TokenItem} {number : Nat}

theorem TokenItem.lower_zero : TokenItem.lower 0 = id := by
  funext item
  cases item <;> rfl

theorem TokenItem.line_lower (lines : Nat) (item : TokenItem) :
    (item.lower lines).span.line = item.span.line + lines := by
  cases item <;> rfl

theorem TokenItem.lower_comp_lower (lines more : Nat) :
    TokenItem.lower more ∘ TokenItem.lower lines = TokenItem.lower (lines + more) := by
  funext item
  cases item <;> simp [TokenItem.lower, Token.lower, Span.lower, Nat.add_assoc]

theorem items_lex_ofList (text : List Char) :
    (lex (String.ofList text)).items = (lexText text).1 := by
  simp [lex, String.toList_ofList]

/-- A text of one line has its items on that line. -/
theorem line_of_mem_lexText (h : '\n' ∉ text) (hitem : item ∈ (lexText text).1) :
    item.span.line = 1 := by
  rw [← items_lex_ofList] at hitem
  have hle := line_le_of_mem_lex hitem
  rw [breaks, String.toList_ofList, List.count_eq_zero.mpr h] at hle
  exact Nat.le_antisymm hle (line_of_mem_lex hitem)

theorem breakLines_of_not_mem (h : '\n' ∉ text) : breakLines text = [text] := by
  induction text with
  | nil => rfl
  | cons c text ih =>
    obtain ⟨hc, htext⟩ := List.ne_and_not_mem_of_not_mem_cons h
    rw [breakLines_cons, if_neg (Ne.symm hc), ih htext]
    rfl

/-- A text is one line, or its first line above a text that has the others. -/
theorem breakLines_cases (text : List Char) :
    '\n' ∉ text ∧ breakLines text = [text] ∨
      ∃ first below, text = first ++ '\n' :: below ∧ '\n' ∉ first ∧
        breakLines text = first :: breakLines below := by
  by_cases h : '\n' ∈ text
  · obtain ⟨first, below, rfl, hfirst⟩ := List.eq_append_cons_of_mem h
    refine .inr ⟨first, below, rfl, hfirst, ?_⟩
    rw [breakLines_break, breakLines_of_not_mem hfirst]
    rfl
  · exact .inl ⟨h, breakLines_of_not_mem h⟩

/-- The items of a text that are on the line with this number, counting from one. -/
def itemsOnLine (text : List Char) (number : Nat) : List TokenItem :=
  (lexText text).1.filter (·.span.line = number)

theorem itemsOnLine_self (h : '\n' ∉ text) : itemsOnLine text 1 = (lexText text).1 :=
  List.filter_eq_self.mpr fun _ hitem => decide_eq_true (line_of_mem_lexText h hitem)

/-- The line break behind the line `line`, which has this number. -/
def breakBehind (number : Nat) (line : List Char) : TokenItem :=
  .ok ⟨.endOfLine, ⟨number, line.length + 1, line.length + 2⟩⟩

/-- The items of a text that is a line above another text. -/
theorem lexText_below (h : '\n' ∉ first) (below : List Char) :
    (lexText (first ++ '\n' :: below)).1 =
      (lexText first).1 ++ breakBehind 1 first :: (lexText below).1.map (TokenItem.lower 1) := by
  rw [lexText_break, spanAfter, lineAfter, columnAfter, lastLine_of_not_mem h,
    List.count_eq_zero.mpr h]
  rfl

/-- On the first line there is nothing of what is below. -/
theorem itemsOnLine_first (h : '\n' ∉ first) (below : List Char) :
    itemsOnLine (first ++ '\n' :: below) 1 = (lexText first).1 ++ [breakBehind 1 first] := by
  have hfirst : (lexText first).1.filter (·.span.line = 1) = (lexText first).1 := itemsOnLine_self h
  have hbelow : ((lexText below).1.map (TokenItem.lower 1)).filter (·.span.line = 1) = [] := by
    refine List.filter_eq_nil_iff.mpr (List.forall_mem_map.mpr fun item hitem => ?_)
    rw [← items_lex_ofList] at hitem
    have hpos := line_of_mem_lex hitem
    rw [decide_eq_true_iff, TokenItem.line_lower]
    omega
  rw [itemsOnLine, lexText_below h, List.filter_append, hfirst, List.filter_cons, hbelow]
  rfl

/-- On the other lines there is nothing of the first one. -/
theorem itemsOnLine_below (h : '\n' ∉ first) (below : List Char) (number : Nat) :
    itemsOnLine (first ++ '\n' :: below) (number + 2) =
      (itemsOnLine below (number + 1)).map (TokenItem.lower 1) := by
  have hfirst : (lexText first).1.filter (·.span.line = number + 2) = [] := by
    refine List.filter_eq_nil_iff.mpr fun item hitem => ?_
    rw [line_of_mem_lexText h hitem]
    simp
  have hbreak : ¬ (breakBehind 1 first).span.line = number + 2 := by
    simp [breakBehind, TokenItem.span]
  have hbelow : (fun item : TokenItem => decide (item.span.line = number + 2)) ∘ TokenItem.lower 1 =
      fun item => decide (item.span.line = number + 1) := by
    funext item
    simp [TokenItem.line_lower]
  rw [itemsOnLine, lexText_below h, List.filter_append, hfirst,
    List.filter_cons_of_neg (by simpa using hbreak), List.filter_map, hbelow]
  rfl

/-- **The items on a line** are those of the line alone, and its line break. -/
theorem itemsOnLine_eq (h : (breakLines text)[number]? = some line) :
    itemsOnLine text (number + 1) =
      (lexText line).1.map (TokenItem.lower number) ++
        if number < text.count '\n' then [breakBehind (number + 1) line] else [] := by
  induction number generalizing text with
  | zero =>
    rcases breakLines_cases text with ⟨htext, hlines⟩ | ⟨first, below, rfl, hfirst, hlines⟩
    · rw [hlines] at h
      obtain rfl := Option.some.inj h
      rw [itemsOnLine_self htext, TokenItem.lower_zero, List.map_id, List.count_eq_zero.mpr htext,
        if_neg (Nat.lt_irrefl 0), List.append_nil]
    · rw [hlines] at h
      obtain rfl := Option.some.inj h
      have hpos : 0 < (first ++ '\n' :: below).count '\n' := List.count_pos_iff.mpr (by simp)
      rw [itemsOnLine_first hfirst, TokenItem.lower_zero, List.map_id, if_pos hpos]
  | succ number ih =>
    rcases breakLines_cases text with ⟨-, hlines⟩ | ⟨first, below, rfl, hfirst, hlines⟩
    · rw [hlines] at h
      cases h
    · rw [hlines, List.getElem?_cons_succ] at h
      have hcount : (first ++ '\n' :: below).count '\n' = below.count '\n' + 1 := by
        rw [List.count_append, List.count_cons_self, List.count_eq_zero.mpr hfirst, Nat.zero_add]
      rw [itemsOnLine_below hfirst, ih h, List.map_append, List.map_map, TokenItem.lower_comp_lower,
        apply_ite (List.map (TokenItem.lower 1)), hcount]
      simp only [Nat.add_lt_add_iff_right]
      rfl

/-- **A source is scanned line by line.** A line break between two texts ends the items of the one
where that text ends, and behind it come the items of the other, to the end of the file, as many
lines further down as there are line breaks in front of them. No item goes over a line break: under
its span is one line break or none. And what is on a line of a source, counting from one, is what
the line alone has, and the line break behind it, if it is not the last line. -/
theorem lex_linewise :
    (∀ above below : String, (lex (above ++ "\n" ++ below)).yielded =
      (lex above).items ++
        .ok ⟨.endOfLine,
            ⟨breaks above + 1, (lex above).endSpan.colStart, (lex above).endSpan.colStart + 1⟩⟩ ::
          (lex below).yielded.map (TokenItem.lower (breaks above + 1))) ∧
    (∀ source : String, ∀ item ∈ (lex source).items,
      item.span.under source.toList = ['\n'] ∨ '\n' ∉ item.span.under source.toList) ∧
    (∀ (source : String) (number : Nat) (line : List Char),
      (breakLines source.toList)[number]? = some line →
        (lex source).items.filter (·.span.line = number + 1) =
          (lex (String.ofList line)).items.map (TokenItem.lower number) ++
            if number < breaks source then [breakBehind (number + 1) line] else []) := by
  refine ⟨fun above below => ?_, fun source item hitem => ?_, fun source number line h => ?_⟩
  · rw [yielded_break, breakAt, line_endSpan]
  · exact ((lex_lexed source).1.lossless.placed item hitem).2.2
  · rw [items_lex_ofList]
    exact itemsOnLine_eq h

end TwinSyntax
