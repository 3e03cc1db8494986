import TwinSyntax.Proofs.LineBreaks
import TwinSyntax.Proofs.Lockstep
import TwinSyntax.Proofs.Wordwise

/-!
# Line breaks with a carriage return

A text may have a carriage return in front of each of its line breaks. It is a blank, so the lexemes
are the same, and it is dropped from the lines, so the locations are. Only the line breaks
themselves stand one column further to the right.

**Texts** (`withReturns`). The same text with a carriage return in front of every line break.

**Tokens** (`lexFrom_withReturns`). All items are the same, but for the columns of line breaks.

**Theorem (`compile_withReturns`).** Both texts compile to the same, locations and lines included,
or both have the same diagnostics, but for the columns of those that were found at a line break. A
tree has no location of a line break, so it does not show in the tree.
-/

namespace TwinSyntax

open Grammar

/-! ## Texts -/

/-- `text` with a carriage return in front of every line break. -/
def insertReturns : List Char → List Char
  | [] => []
  | c :: text => if c = '\n' then '\r' :: '\n' :: insertReturns text else c :: insertReturns text

/-- The source text with a carriage return in front of every line break. -/
def withReturns (source : String) : String := String.ofList (insertReturns source.toList)

variable {c : Char} {text : List Char} {source : String}

theorem insertReturns_break (text : List Char) :
    insertReturns ('\n' :: text) = '\r' :: '\n' :: insertReturns text := if_pos rfl

theorem insertReturns_cons (hc : c ≠ '\n') (text : List Char) :
    insertReturns (c :: text) = c :: insertReturns text := if_neg hc

theorem wordwise_insertReturns : Lexeme.Wordwise fun text text' => text' = insertReturns text := by
  rintro text _ rfl
  cases text with
  | nil => exact .stop .nil .nil
  | cons c text =>
    by_cases hbreak : c = '\n'
    · rw [hbreak, insertReturns_break]
      exact .stop (.cons Lexeme.not_solid_break) (.cons (Lexeme.not_solid_of_blank (by decide)))
    · rw [insertReturns_cons hbreak]
      by_cases hc : Lexeme.Solid c
      · exact .solid hc rfl
      · exact .stop (.cons hc) (.cons hc)

/-- **No lexeme sees a carriage return.** -/
theorem Lexeme.scan_insertReturns (c : Char) (text : List Char) :
    scan c (insertReturns text) =
      { scan c text with rest := insertReturns (scan c text).rest } := by
  obtain ⟨hreading, hwidth, hrest⟩ := wordwise_insertReturns.scan c (rfl : insertReturns text = _)
  generalize scan c (insertReturns text) = lexeme at *
  obtain ⟨reading, width, rest⟩ := lexeme
  cases hreading
  cases hwidth
  cases hrest
  rfl

/-! ## Lines -/

theorem dropCarriageReturn_cons (hc : c ≠ '\r') (line : List Char) :
    dropCarriageReturn (c :: line) = c :: dropCarriageReturn line := by
  cases line with
  | nil => simp [dropCarriageReturn, hc]
  | cons d line =>
    rw [dropCarriageReturn, dropCarriageReturn, List.getLast?_cons_cons, List.dropLast_cons_cons]
    split <;> rfl

theorem map_dropCarriageReturn_insertReturns (h : '\r' ∉ text) :
    (breakLines (insertReturns text)).map dropCarriageReturn =
      (breakLines text).map dropCarriageReturn := by
  induction text with
  | nil => rfl
  | cons c text ih =>
    rw [List.mem_cons, not_or] at h
    by_cases hbreak : c = '\n'
    · rw [hbreak, insertReturns_break, breakLines_cons, breakLines_cons, breakLines_cons]
      exact congrArg ([] :: ·) (ih h.2)
    · obtain ⟨line, lines, hlines⟩ := List.exists_cons_of_ne_nil (breakLines_ne_nil text)
      obtain ⟨line', lines', hlines'⟩ :=
        List.exists_cons_of_ne_nil (breakLines_ne_nil (insertReturns text))
      have hsame := ih h.2
      rw [hlines, hlines', List.map_cons, List.map_cons, List.cons.injEq] at hsame
      rw [insertReturns_cons hbreak, breakLines_cons, breakLines_cons, if_neg hbreak, if_neg hbreak,
        hlines, hlines', List.modifyHead_cons, List.modifyHead_cons, List.map_cons, List.map_cons,
        dropCarriageReturn_cons (Ne.symm h.1), dropCarriageReturn_cons (Ne.symm h.1), hsame.1,
        hsame.2]

/-- Both texts have the same lines. -/
theorem sourceLines_withReturns (h : '\r' ∉ source.toList) :
    sourceLines (withReturns source) = sourceLines source := by
  have hlines (text : List Char) :
      (breakLines text).map (fun line => String.ofList (dropCarriageReturn line)) =
        ((breakLines text).map dropCarriageReturn).map String.ofList := by
    rw [List.map_map]
    rfl
  rw [sourceLines, sourceLines, withReturns, String.toList_ofList, hlines, hlines,
    map_dropCarriageReturn_insertReturns h]

/-! ## Tokens -/

/-- One column further to the right. -/
def Span.right (span : Span) : Span := ⟨span.line, span.colStart + 1, span.colEnd + 1⟩

/-- The token with a carriage return in front of it if it is a line break. -/
def Token.returned (token : Token) : Token :=
  if token.kind = .endOfLine then { token with span := token.span.right } else token

def TokenItem.returned : TokenItem → TokenItem
  | .ok token => .ok token.returned
  | .error e => .error e

/-- Only a line break reads as one. -/
theorem Lexeme.scan_ne_endOfLine (hblank : ¬ isBlank c = true) (hc : c ≠ '\n') (text : List Char) :
    (scan c text).reading ≠ .ok .endOfLine := by
  intro hreading
  obtain ⟨tail, htakes⟩ := takes_scan (mt isBlank_iff.mpr hblank) text
  have hspells : c :: tail = ['\n'] := htakes.spells hreading
  exact hc (List.cons.inj hspells).1

theorem Lexeme.returned_item {lexeme : Lexeme} (h : lexeme.reading ≠ .ok .endOfLine)
    (line column : Nat) : (lexeme.item line column).returned = lexeme.item line column := by
  rw [item]
  cases hreading : lexeme.reading with
  | error fault => rfl
  | ok kind =>
    have hkind : kind ≠ .endOfLine := fun hkind => h (hkind ▸ hreading)
    exact congrArg Except.ok (if_neg hkind)

/-- **Scanning over carriage returns** gives the same items, but for the columns of line breaks. -/
theorem lexFrom_insertReturns (line column : Nat) (text : List Char) (items : Array TokenItem) :
    lexFrom line column (insertReturns text) (items.map TokenItem.returned) =
      ((lexFrom line column text items).1.map TokenItem.returned,
        (lexFrom line column text items).2) := by
  fun_induction lexFrom line column text items with
  | case1 line column items =>
    rw [insertReturns, lexFrom]
  | case2 line column items c text hblank ih =>
    have hc : c ≠ '\n' := by
      rintro rfl
      cases hblank
    rw [insertReturns_cons hc, lexFrom, if_pos hblank]
    exact ih
  | case3 line column items text hblank lexeme more ih =>
    have hreturn : Lexeme.isBlank '\r' = true := rfl
    have hscan (text : List Char) : Lexeme.scan '\n' text = ⟨.ok .endOfLine, 1, text⟩ := rfl
    rw [insertReturns_break, lexFrom, if_pos hreturn, lexFrom, if_neg hblank, hscan]
    dsimp only
    rw [if_pos rfl]
    rw [Array.map_push] at ih
    exact ih
  | case4 line column items c text hblank lexeme more hc ih =>
    have hitem := Lexeme.returned_item (Lexeme.scan_ne_endOfLine hblank hc text) line column
    rw [insertReturns_cons hc, lexFrom, if_neg hblank, Lexeme.scan_insertReturns]
    dsimp only
    rw [if_neg hc]
    rw [Array.map_push, hitem] at ih
    exact ih

/-- The source text with carriage returns has the same items and ends at the same place. -/
theorem lex_withReturns (source : String) :
    (lex (withReturns source)).items = (lex source).items.map TokenItem.returned ∧
      (lex (withReturns source)).endSpan = (lex source).endSpan := by
  have hrun := lexFrom_insertReturns 1 1 source.toList #[]
  rw [Array.map_empty] at hrun
  have htext : lexText (withReturns source).toList =
      ((lexText source.toList).1.map TokenItem.returned, (lexText source.toList).2) := by
    rw [withReturns, String.toList_ofList, lexText, lexText, hrun]
    simp
  have hend : (lexText (withReturns source).toList).2 = (lexText source.toList).2 := by rw [htext]
  exact ⟨congrArg Prod.fst htext, hend⟩

/-! ## Outcomes -/

/-- `e'` is `e`, one column further to the right if `e` was found at a line break. -/
structure CompileError.Returned (source : TokenSource) (e e' : CompileError) : Prop where
  atBreak (span : Span) : e.span? = some span → .ok ⟨.endOfLine, span⟩ ∈ source.items →
    e' = e.moveTo span.right
  elsewhere : (∀ span, e.span? = some span → .ok ⟨.endOfLine, span⟩ ∉ source.items) → e' = e

/-- A token of the source and the same token with carriage returns in the text. -/
def returnedToken (surface : Surface) (source : TokenSource) (t t' : Token) : Prop :=
  t' = t.returned ∧ (t = source.endToken ∨ .ok t ∈ source.items ∧ ¬ surface.Ignores t.kind)

theorem Token.returned_of_ne {token : Token} (h : token.kind ≠ .endOfLine) :
    token.returned = token :=
  if_neg h

theorem Token.kind_returned (token : Token) : token.returned.kind = token.kind := by
  rw [returned]
  split <;> rfl

/-- A line break that the grammar sees is where statements end. -/
theorem ne_endOfLine_of_inner {surface : Surface} {kind : TokenKind} (h : Inner surface kind)
    (hseen : ¬ surface.Ignores kind) : kind ≠ .endOfLine := by
  rintro rfl
  cases surface with
  | myrmidon => exact h.1 rfl
  | sml => exact hseen ⟨rfl, rfl⟩

/-- Every token corresponds to the same token, and locations are compared as they are. -/
def returnedLikeness (surface : Surface) {source : String} (h : '\r' ∉ source.toList) :
    Likeness ((lex source).setting surface) ((lex (withReturns source)).setting surface) where
  token := returnedToken surface (lex source)
  place := id
  kind {t t'} htoken := by rw [htoken.1, t.kind_returned]
  placed {t t'} htoken hinner := by
    have hkind : t.kind ≠ .endOfLine := by
      rcases htoken.2 with rfl | ⟨-, hseen⟩
      · exact nofun
      · exact ne_endOfLine_of_inner hinner hseen
    have hlines : (lex (withReturns source)).locate = (lex source).locate :=
      congrArg locate (sourceLines_withReturns h)
    rw [htoken.1, Token.returned_of_ne hkind]
    exact congrFun hlines.symm t.span

variable {surface : Surface}

theorem items_withReturns (h : '\r' ∉ source.toList) :
    (returnedLikeness surface h).Items (fun e e' => e' = e ∧ .error e ∈ (lex source).items)
      (lex source).items (lex (withReturns source)).items := by
  have hsees : sees surface ∘ TokenItem.returned = sees surface := by
    funext item
    cases item with
    | ok token => simp [sees, TokenItem.returned, token.kind_returned]
    | error e => rfl
  show List.Forall₂ _ ((lex source).items.filter (sees surface))
    ((lex (withReturns source)).items.filter (sees surface))
  rw [(lex_withReturns source).1, List.filter_map, hsees, List.forall₂_map_right_iff,
    List.forall₂_same]
  intro item hitem
  obtain ⟨hmem, hseen⟩ := List.mem_filter.mp hitem
  cases item with
  | ok token =>
    exact .token ⟨rfl, .inr ⟨hmem, by simpa [sees] using hseen⟩⟩
  | error e => exact .error ⟨rfl, hmem⟩

section Spans

variable {span : Span} (hbreak : .ok ⟨.endOfLine, span⟩ ∈ (lex source).items)
include hbreak

/-- What stands under the span of a line break. -/
theorem under_of_break : span.under source.toList = ['\n'] :=
  (lex_lexed source).1.lossless.spelled _ hbreak

/-- A token with the span of a line break is one. -/
theorem kind_of_break {token : Token} (htoken : .ok token ∈ (lex source).items)
    (hspan : token.span = span) : token.kind = .endOfLine := by
  have hspells := (lex_lexed source).1.lossless.spelled _ htoken
  rw [hspan, under_of_break hbreak] at hspells
  exact endOfLine_of_spells_break hspells

/-- No error has the span of a line break. -/
theorem error_ne_break {e : LexError} (he : .error e ∈ (lex source).items) : e.span ≠ span := by
  intro hspan
  refine (lex_lexed source).1.lossless.refused e he .endOfLine ?_
  rw [hspan, under_of_break hbreak]
  rfl

/-- The end of the file does not have the span of a line break, which is not empty. -/
theorem endSpan_ne_break : (lex source).endSpan ≠ span := by
  intro hspan
  have hlossless := (lex_lexed source).1.lossless
  obtain ⟨hlt, -⟩ := hlossless.filled _ hbreak
  have hempty :
      (lex source).endSpan.start source.toList = (lex source).endSpan.stop source.toList := by
    rw [(lex_lexed source).2, hlossless.ending.2.1, hlossless.ending.2.2]
  rw [hspan] at hempty
  exact absurd hempty (Nat.ne_of_lt hlt)

end Spans

/-- **Corresponding errors** are equal but for the columns of those that were found at a line
break. -/
theorem returned_of_error (h : '\r' ∉ source.toList) {e e' : CompileError}
    (herror : (returnedLikeness surface h).Error
      (fun e e' => e' = e ∧ .error e ∈ (lex source).items) e e') :
    e.Returned (lex source) e' := by
  cases herror with
  | @lexical e e' hsame =>
    obtain ⟨rfl, hmem⟩ := hsame
    exact ⟨fun span hspan hbreak => absurd (Option.some.inj hspan) (error_ne_break hbreak hmem),
      fun _ => rfl⟩
  | @grammatical t t' fault htoken =>
    obtain ⟨rfl, hfound⟩ := htoken
    by_cases hkind : t.kind = .endOfLine
    · have hmem : .ok ⟨.endOfLine, t.span⟩ ∈ (lex source).items := by
        rcases hfound with rfl | ⟨hmem, -⟩
        · cases hkind
        · exact hkind ▸ hmem
      refine ⟨fun span hspan _ => ?_, fun hnone => absurd hmem (hnone _ rfl)⟩
      obtain rfl : t.span = span := Option.some.inj hspan
      rw [Token.returned, if_pos hkind]
      rfl
    · rw [Token.returned_of_ne hkind]
      refine ⟨fun span hspan hbreak => ?_, fun _ => rfl⟩
      obtain rfl : t.span = span := Option.some.inj hspan
      rcases hfound with rfl | ⟨hmem, -⟩
      · exact absurd rfl (endSpan_ne_break hbreak)
      · exact absurd (kind_of_break hbreak hmem rfl) hkind

/-- **Carriage returns in front of line breaks change nothing**, but for the columns of diagnostics
that are found at a line break. -/
theorem compile_withReturns (surface : Surface) (h : '\r' ∉ source.toList) :
    (∀ result,
      compile surface (withReturns source) = .ok result ↔ compile surface source = .ok result) ∧
    List.Forall₂ (CompileError.Returned (lex source)) ((lex source).outcome surface).diagnostics
      ((lex (withReturns source)).outcome surface).diagnostics := by
  have hend : (returnedLikeness surface h).token (lex source).endToken
      (lex (withReturns source)).endToken :=
    ⟨congrArg (Token.mk .endOfFile) (lex_withReturns source).2, .inl rfl⟩
  have hroot : (lex source).locate ⟨1, 1, 1⟩ = (lex (withReturns source)).locate ⟨1, 1, 1⟩ := by
    show locate _ _ = locate _ _
    rw [sourceLines_withReturns h]
  have houtcome : Correspond id (CompileError.Returned (lex source)) ((lex source).outcome surface)
      ((lex (withReturns source)).outcome surface) :=
    ((items_withReturns h).outcome hend hroot).mono fun _ _ => returned_of_error h
  refine ⟨fun result => ?_, ?_⟩
  · rw [compile, compile, parse_eq_result, parse_eq_result, sourceLines_withReturns h]
    rcases houtcome.result_cases with hsame | ⟨e, e', he, he'⟩
    · rw [hsame]
    · rw [he, he']
      constructor <;> intro hresult <;> cases hresult
  · generalize (lex source).outcome surface = outcome at houtcome ⊢
    generalize (lex (withReturns source)).outcome surface = outcome' at houtcome ⊢
    cases houtcome with
    | read _ => exact .nil
    | refused _ herrors => exact herrors

/-- A line that ends too early, and a line in front of it that compiles. -/
theorem compile_withReturns_of_two_lines :
    let source := "x = 1\ny =\n"
    '\r' ∉ source.toList ∧ withReturns source = "x = 1\r\ny =\r\n" ∧
      (∀ result, compile .myrmidon (withReturns source) = .ok result ↔
        compile .myrmidon source = .ok result) ∧
      List.Forall₂ (CompileError.Returned (lex source)) ((lex source).outcome .myrmidon).diagnostics
        ((lex (withReturns source)).outcome .myrmidon).diagnostics ∧
      ((lex source).outcome .myrmidon).diagnostics.map CompileError.span? = [some ⟨2, 4, 5⟩] ∧
      ((lex (withReturns source)).outcome .myrmidon).diagnostics.map CompileError.span? =
        [some ⟨2, 5, 6⟩] := by
  intro source
  have hplain : '\r' ∉ source.toList := by decide +kernel
  obtain ⟨hresult, hdiagnostics⟩ := compile_withReturns .myrmidon hplain
  exact ⟨hplain, by decide +kernel, hresult, hdiagnostics, by decide +kernel, by decide +kernel⟩

end TwinSyntax
