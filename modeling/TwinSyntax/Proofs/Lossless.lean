import TwinSyntax.Proofs.Lexemes
import TwinSyntax.Proofs.Places
import TwinSyntax.Proofs.Spelling

/-!
# Nothing is lost between a text and its tokens

**One item** (`Covers`). A token or an error stands for a stretch of the text: its span is that of
the stretch, which spells the token, or no token at all if it is an error.

**A whole text** (`Lexed`). Blanks and stretches with items take turns. The invariant of the run is
the characters behind the cursor: the line and the column that scanning counts are always those that
the text before the cursor ends in.

**Theorem (`lex_lossless`).** From the spans alone one gets back the position of every item. The
items tile the text up to blanks, in order, and behind the last of them the source yields the end of
the file for ever.
-/

namespace TwinSyntax

/-! ## Calls -/

/-- The columns of a token or of an error. -/
def TokenItem.span : TokenItem → Span
  | .ok token => token.span
  | .error e => e.span

namespace TokenSource

/-- What a source yields next, and the source from then on. -/
def next (source : TokenSource) : TokenItem × TokenSource :=
  match source.items with
  | [] => (.ok source.endToken, source)
  | item :: rest => (item, { source with items := rest })

/-- What a source yields at the call with the number `n`, counting from zero. -/
def call (source : TokenSource) : (n : Nat) → TokenItem
  | 0 => source.next.1
  | n + 1 => source.next.2.call n

theorem call_eq (source : TokenSource) (n : Nat) :
    source.call n = source.items[n]?.getD (.ok source.endToken) := by
  obtain ⟨items, endSpan, locate⟩ := source
  induction items generalizing n with
  | nil =>
    induction n with
    | zero => rfl
    | succ n ih => exact ih
  | cons item rest ih =>
    cases n with
    | zero => rfl
    | succ n => exact ih n

theorem call_of_length_le (source : TokenSource) {n : Nat} (h : source.items.length ≤ n) :
    source.call n = .ok source.endToken := by
  rw [call_eq, List.getElem?_eq_none h, Option.getD_none]

theorem call_of_lt_length (source : TokenSource) {n : Nat} (h : n < source.items.length) :
    source.call n = source.items[n] := by
  rw [call_eq, List.getElem?_eq_getElem h, Option.getD_some]

theorem map_call (source : TokenSource) :
    (List.range source.items.length).map source.call = source.items :=
  List.ext_getElem (by simp) fun n hn _ => by
    rw [List.getElem_map, List.getElem_range, source.call_of_lt_length (by simpa using hn)]

end TokenSource

/-! ## One item -/

/-- `item` stands for the characters `taken` behind `before`. -/
structure Covers (item : TokenItem) (before taken : List Char) : Prop where
  span : item.span = spanAfter before taken
  filled : taken ≠ []
  solid : ∀ c ∈ taken, ¬ Lexeme.Blank c
  oneLine : taken = ['\n'] ∨ '\n' ∉ taken
  spells : ∀ token, item = .ok token → Spells taken token.kind
  refused : ∀ e, item = .error e → ∀ kind, ¬ Spells taken kind

variable {before taken text : List Char} {item : TokenItem} {items : List TokenItem} {c : Char}

theorem Lexeme.Takes.covers {lexeme : Lexeme} (h : lexeme.Takes (c :: taken) text)
    (before : List Char) :
    Covers (lexeme.item (lineAfter before) (columnAfter before)) before (c :: taken) := by
  have hitem : (lexeme.item (lineAfter before) (columnAfter before)).span =
      spanAfter before (c :: taken) := by
    rw [spanAfter, ← h.width, item]
    cases lexeme.reading <;> rfl
  refine ⟨hitem, List.cons_ne_nil c taken, h.solid, h.oneLine, ?_, ?_⟩
  · intro token htoken
    rw [item] at htoken
    cases hreading : lexeme.reading with
    | ok kind =>
      rw [hreading] at htoken
      cases htoken
      exact h.spells hreading
    | error fault =>
      rw [hreading] at htoken
      cases htoken
  · intro e he
    rw [item] at he
    cases hreading : lexeme.reading with
    | ok kind =>
      rw [hreading] at he
      cases he
    | error fault => exact h.refused hreading

/-! ## A whole text -/

/-- `text` behind `before` has the items `items`, with blanks between them. -/
inductive Lexed : (before text : List Char) → (items : List TokenItem) → Prop
  | done {before : List Char} : Lexed before [] []
  | blank {before text : List Char} {items : List TokenItem} {c : Char} :
      Lexeme.Blank c → Lexed (before ++ [c]) text items → Lexed before (c :: text) items
  | item {before taken rest : List Char} {item : TokenItem} {items : List TokenItem} :
      Covers item before taken → Lexed (before ++ taken) rest items →
      Lexed before (taken ++ rest) (item :: items)

/-- A lexeme in front, and the items of the text behind it. -/
theorem Lexed.lexeme {lexeme : Lexeme} {tail : List Char} (htakes : lexeme.Takes (c :: tail) text)
    (h : Lexed (before ++ c :: tail) lexeme.rest items) :
    Lexed before text (lexeme.item (lineAfter before) (columnAfter before) :: items) := by
  have hlexed := Lexed.item (htakes.covers before) h
  rw [htakes.split] at hlexed
  exact hlexed

/-- Scanning goes over the whole text, and ends where the text does. -/
theorem lexFrom_lexed (line column : Nat) (text : List Char) (yielded : Array TokenItem)
    (before : List Char) (hline : line = lineAfter before) (hcolumn : column = columnAfter before) :
    ∃ items, Lexed before text items ∧ lexFrom line column text yielded =
      (yielded ++ items.toArray, spanAfter (before ++ text) []) := by
  fun_induction lexFrom line column text yielded generalizing before with
  | case1 line column yielded =>
    refine ⟨[], .done, ?_⟩
    simp [spanAfter, hline, hcolumn]
  | case2 line column yielded c text hblank ih =>
    have hbreak : '\n' ∉ [c] := by
      intro hmem
      obtain rfl := List.mem_singleton.mp hmem
      cases hblank
    obtain ⟨items, hlexed, hrun⟩ :=
      ih (before ++ [c]) (by rw [lineAfter_append before hbreak, hline])
      (by rw [columnAfter_append before hbreak, hcolumn, List.length_singleton])
    refine ⟨items, .blank (Lexeme.isBlank_iff.mp hblank) hlexed, ?_⟩
    rw [hrun, List.append_assoc, List.singleton_append]
  | case3 line column yielded text hblank lexeme more ih =>
    obtain ⟨tail, htakes⟩ := Lexeme.takes_scan (mt Lexeme.isBlank_iff.mpr hblank) text
    -- a line break is a lexeme of its own
    obtain rfl : tail = [] := by
      rcases htakes.oneLine with h | h
      · exact (List.cons.inj h).2
      · exact absurd List.mem_cons_self h
    obtain ⟨items, hlexed, hrun⟩ := ih (before ++ ['\n']) (by rw [lineAfter_break, hline])
      (columnAfter_break before).symm
    refine ⟨_, hlexed.lexeme htakes, ?_⟩
    rw [hrun, List.append_assoc, htakes.split, ← hline, ← hcolumn]
    simp [lexeme, more]
  | case4 line column yielded c text hblank lexeme more hc ih =>
    obtain ⟨tail, htakes⟩ := Lexeme.takes_scan (mt Lexeme.isBlank_iff.mpr hblank) text
    have hbreak : '\n' ∉ c :: tail := by
      rcases htakes.oneLine with h | h
      · exact absurd (List.cons.inj h).1 hc
      · exact h
    obtain ⟨items, hlexed, hrun⟩ := ih (before ++ c :: tail)
      (by rw [lineAfter_append before hbreak, hline])
      (by rw [columnAfter_append before hbreak, hcolumn, ← htakes.width])
    refine ⟨_, hlexed.lexeme htakes, ?_⟩
    rw [hrun, List.append_assoc, htakes.split, ← hline, ← hcolumn]
    simp [lexeme, more]

/-- The items of a source text, and where it ends. -/
theorem lex_lexed (source : String) :
    Lexed [] source.toList (lex source).items ∧
      (lex source).endSpan = spanAfter source.toList [] := by
  obtain ⟨items, hlexed, hrun⟩ := lexFrom_lexed 1 1 source.toList #[] [] rfl rfl
  have hlex : lexText source.toList = (items, spanAfter source.toList []) := by
    rw [lexText, hrun]
    simp
  refine ⟨?_, congrArg Prod.snd hlex⟩
  rw [show (lex source).items = items from congrArg Prod.fst hlex]
  exact hlexed

/-! ## Positions -/

/-- Every item stands for a stretch of the text. -/
theorem Lexed.covers (h : Lexed before text items) (hitem : item ∈ items) :
    ∃ gap taken after, text = gap ++ (taken ++ after) ∧ Covers item (before ++ gap) taken := by
  induction h with
  | done => cases hitem
  | @blank before text items c _ _ ih =>
    obtain ⟨gap, taken, after, rfl, hcovers⟩ := ih hitem
    refine ⟨c :: gap, taken, after, rfl, ?_⟩
    rw [List.append_assoc] at hcovers
    exact hcovers
  | @item before taken rest _ _ hfirst _ ih =>
    rcases List.mem_cons.mp hitem with rfl | hitem
    · refine ⟨[], taken, rest, rfl, ?_⟩
      rw [List.append_nil]
      exact hfirst
    · obtain ⟨gap, taken', after, rfl, hcovers⟩ := ih hitem
      refine ⟨taken ++ gap, taken', after, (List.append_assoc taken gap _).symm, ?_⟩
      rw [List.append_assoc] at hcovers
      exact hcovers

section Covers

variable {after : List Char} (h : Covers item before taken)
include h

theorem Covers.start (after : List Char) :
    item.span.start (before ++ (taken ++ after)) = before.length := by
  rw [h.span, start_spanAfter]

theorem Covers.stop (after : List Char) :
    item.span.stop (before ++ (taken ++ after)) = before.length + taken.length := by
  rw [h.span, stop_spanAfter]

theorem Covers.under (after : List Char) :
    item.span.under (before ++ (taken ++ after)) = taken := by
  rw [h.span, under_spanAfter]

end Covers

/-- Items come in the order of their positions. -/
theorem Lexed.ordered (h : Lexed before text items) :
    items.Pairwise fun first second =>
      first.span.stop (before ++ text) ≤ second.span.start (before ++ text) := by
  induction h with
  | done => exact .nil
  | @blank before text _ c _ _ ih =>
    rw [List.append_assoc, List.singleton_append] at ih
    exact ih
  | @item before taken rest first items hfirst hrest ih =>
    rw [List.append_assoc] at ih
    refine .cons ?_ ih
    intro second hsecond
    obtain ⟨gap, taken', after, rfl, hcovers⟩ := hrest.covers hsecond
    have hstart := hcovers.start after
    simp only [List.append_assoc] at hstart
    rw [hfirst.stop, hstart]
    simp

/-- What no item stands for is blank. -/
theorem Lexed.blank_outside (h : Lexed before text items) {index : Nat} (hc : text[index]? = some c)
    (houtside : ∀ item ∈ items, ¬ (item.span.start (before ++ text) ≤ before.length + index ∧
      before.length + index < item.span.stop (before ++ text))) : Lexeme.Blank c := by
  induction h generalizing index with
  | done => cases hc
  | @blank before text items d hblank _ ih =>
    cases index with
    | zero =>
      cases hc
      exact hblank
    | succ index =>
      refine ih hc ?_
      simpa [Nat.add_assoc, Nat.add_comm 1] using houtside
  | @item before taken rest first items hfirst _ ih =>
    by_cases hindex : index < taken.length
    · have hfirst' := houtside first List.mem_cons_self
      rw [hfirst.start, hfirst.stop] at hfirst'
      omega
    · have hle := Nat.not_lt.mp hindex
      rw [List.getElem?_append_right hle] at hc
      refine ih hc ?_
      intro item hitem
      have h := houtside item (List.mem_cons_of_mem first hitem)
      rw [List.length_append, List.append_assoc, Nat.add_assoc, Nat.add_sub_of_le hle]
      exact h

/-! ## Nothing is lost -/

/-- The spans of `items` tile `text` up to blanks, tokens are spelled by what is under their spans
and errors by nothing, and `endSpan` is where the text ends. -/
structure Lossless (text : List Char) (items : List TokenItem) (endSpan : Span) : Prop where
  /-- No span is empty, and all are in the text. -/
  filled : ∀ item ∈ items,
    item.span.start text < item.span.stop text ∧ item.span.stop text ≤ text.length
  /-- A span ends before the next one starts. -/
  ordered : items.Pairwise fun first second => first.span.stop text ≤ second.span.start text
  /-- Lines and columns are those of the positions, and no span goes over the end of its line. -/
  placed : ∀ item ∈ items,
    item.span.line = lineAfter (text.take (item.span.start text)) ∧
    item.span.colStart = columnAfter (text.take (item.span.start text)) ∧
    (item.span.under text = ['\n'] ∨ '\n' ∉ item.span.under text)
  /-- What is outside of all spans is blank. -/
  blank : ∀ position c, text[position]? = some c →
    (∀ item ∈ items, ¬ (item.span.start text ≤ position ∧ position < item.span.stop text)) →
    Lexeme.Blank c
  /-- What is under the span of a token spells it. -/
  spelled : ∀ token, .ok token ∈ items → Spells (token.span.under text) token.kind
  /-- What is under the span of an error spells no token. -/
  refused : ∀ e, .error e ∈ items → ∀ kind, ¬ Spells (e.span.under text) kind
  /-- The end of the file is the empty span where the text ends. -/
  ending : endSpan = ⟨lineAfter text, columnAfter text, columnAfter text⟩ ∧
    endSpan.start text = text.length ∧ endSpan.stop text = text.length

theorem Lexed.lossless (h : Lexed [] text items) : Lossless text items (spanAfter text []) := by
  refine ⟨?_, h.ordered, ?_, ?_, ?_, ?_, rfl, ?_, ?_⟩
  · intro item hitem
    obtain ⟨gap, taken, after, rfl, hcovers⟩ := h.covers hitem
    have hpos := List.length_pos_iff.mpr hcovers.filled
    rw [List.nil_append] at hcovers
    rw [hcovers.start, hcovers.stop]
    simp only [List.length_append]
    omega
  · intro item hitem
    obtain ⟨gap, taken, after, rfl, hcovers⟩ := h.covers hitem
    rw [List.nil_append] at hcovers
    rw [hcovers.start, hcovers.under, List.take_left, hcovers.span]
    exact ⟨rfl, rfl, hcovers.oneLine⟩
  · intro position c hc houtside
    refine h.blank_outside hc ?_
    simpa using houtside
  · intro token htoken
    obtain ⟨gap, taken, after, rfl, hcovers⟩ := h.covers htoken
    rw [List.nil_append] at hcovers
    have hunder : token.span.under (gap ++ (taken ++ after)) = taken := hcovers.under after
    rw [hunder]
    exact hcovers.spells token rfl
  · intro e he
    obtain ⟨gap, taken, after, rfl, hcovers⟩ := h.covers he
    rw [List.nil_append] at hcovers
    have hunder : e.span.under (gap ++ (taken ++ after)) = taken := hcovers.under after
    rw [hunder]
    exact hcovers.refused e rfl
  · simpa using start_spanAfter text [] []
  · simpa using stop_spanAfter text [] []

/-- **A text can be read back from its tokens.** Behind finitely many calls a source yields the end
of the file for ever. What it yields before tiles the text up to blanks, errors included. Every
token is spelled by the characters under its span, and those under the span of an error spell no
token. -/
theorem lex_lossless (source : String) :
    ∃ count,
      (∀ n, n < count → ∀ token, (lex source).call n = .ok token → token.kind ≠ .endOfFile) ∧
      (∀ n, count ≤ n → (lex source).call n = .ok ⟨.endOfFile, (lex source).endSpan⟩) ∧
      Lossless source.toList ((List.range count).map (lex source).call) (lex source).endSpan := by
  obtain ⟨hlexed, hend⟩ := lex_lexed source
  refine ⟨(lex source).items.length, ?_, ?_, ?_⟩
  · intro n hn token htoken
    rw [TokenSource.call_of_lt_length _ hn] at htoken
    exact kind_ne_endOfFile_of_mem_lex source token (htoken ▸ List.getElem_mem hn)
  · intro n hn
    exact TokenSource.call_of_length_le _ hn
  · rw [TokenSource.map_call, hend]
    exact hlexed.lossless

example : (List.range 3).map (lex "a\t!").call =
    [.ok ⟨.identifier "a", ⟨1, 1, 2⟩⟩, .error ⟨⟨1, 3, 4⟩, .strayBang⟩,
      .ok ⟨.endOfFile, ⟨1, 4, 4⟩⟩] := by cbv

end TwinSyntax
