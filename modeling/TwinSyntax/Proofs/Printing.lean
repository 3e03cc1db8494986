import Mathlib.Data.List.TakeWhile
import TwinSyntax.Proofs.Layout
import TwinSyntax.Proofs.Legible
import TwinSyntax.Proofs.Lossless
import TwinSyntax.Proofs.Numerals

/-!
# Scanning undoes printing

Tokens are printed one behind another, each spelled in any way that it can be, with blanks wherever
neither of two neighbours is a line break. Scanning gives the tokens back.

**A spelling on its own** (`scan_of_spells`). The whole of it is one lexeme, which reads as the
token. For a number this is a fact about decimal notation (`scan_of_writes`): digits and points, and
at the end an exponent, which always has its digit where a number looks for one.

**A spelling in a text** (`lexFrom_printed`). A line break is a lexeme whatever comes next. Behind
any other spelling a blank, a line break or nothing comes next, so it is scanned as it is on its own
(`Lexeme.scan_append`). That it could have gone on, as `2` does in `2e3`, plays no part.

**A whole text** (`lexFrom_printout`). By induction along the tokens. What stands behind the first
one is printed in the same way, and no lexeme goes on into it unless the first one is a line break
(`stops_printout`).

Main result: `lex_printout`.
-/

namespace TwinSyntax

/-! ## A spelling on its own -/

namespace Lexeme

variable {c : Char} {tail text : List Char} {kind : TokenKind}

theorem startsNumber_of_digits {digits : List Char} (hdigits : Decimal.Digits digits) :
    ∀ c ∈ digits, startsNumber c = true := by
  intro c hc
  simp [startsNumber, hdigits c hc]

/-- A number goes on over digits and points, whatever follows. -/
theorem takeNumber_plain {plain : List Char} (hplain : ∀ c ∈ plain, startsNumber c = true)
    (taken rest : List Char) :
    takeNumber taken (plain ++ rest) = takeNumber (plain.reverse ++ taken) rest := by
  induction plain generalizing taken with
  | nil => rfl
  | cons c plain ih =>
    obtain ⟨hc, hplain⟩ := List.forall_mem_cons.mp hplain
    have hstep :
        takeNumber taken (c :: (plain ++ rest)) = takeNumber (c :: taken) (plain ++ rest) := by
      rw [takeNumber.eq_def]
      simp [hc]
    simp [hstep, ih hplain]

theorem takeNumber_digits {digits : List Char} (hdigits : Decimal.Digits digits)
    (taken : List Char) : takeNumber taken digits = (taken.reverse ++ digits, []) := by
  rw [← List.append_nil digits, takeNumber_plain (startsNumber_of_digits hdigits),
    takeNumber_of_stops _ .nil]
  simp

/-- An exponent is taken with the digits that it has to have. -/
theorem takeNumber_ending {ending : List Char} {exponent : Int} (h : Decimal.Ending ending exponent)
    (taken : List Char) : takeNumber taken ending = (taken.reverse ++ ending, []) := by
  cases h with
  | none => rw [takeNumber_of_stops taken .nil, List.append_nil]
  | @exponent mark digits _ hmark hsigned =>
    have hplain : startsNumber mark = false := by rcases hmark with rfl | rfl <;> rfl
    have hmark := Decimal.isExponentMark_iff.mpr hmark
    have hsign {sign : Char} {digits : List Char} (hsign : sign = '+' ∨ sign = '-')
        (hne : digits ≠ []) (hdigits : Decimal.Digits digits) :
        takeNumber taken (mark :: sign :: digits) =
          (taken.reverse ++ mark :: sign :: digits, []) := by
      obtain ⟨d, digits, rfl⟩ := List.exists_cons_of_ne_nil hne
      obtain ⟨hd, hdigits⟩ := List.forall_mem_cons.mp hdigits
      have hdigit : ¬ sign.isDigit = true := by rcases hsign with rfl | rfl <;> decide
      rw [takeNumber_signed taken hplain hmark digits hdigit (by simpa [hd] using hsign),
        takeNumber_digits hdigits]
      simp
    cases hsigned with
    | plain hne hdigits =>
      obtain ⟨d, digits, rfl⟩ := List.exists_cons_of_ne_nil hne
      obtain ⟨hd, hdigits⟩ := List.forall_mem_cons.mp hdigits
      rw [takeNumber_digit taken hplain hmark digits hd, takeNumber_digits hdigits]
      simp
    | plus hne hdigits => exact hsign (.inl rfl) hne hdigits
    | minus hne hdigits => exact hsign (.inr rfl) hne hdigits

theorem startsNumber_of_mantissa {whole fraction : List Char}
    (h : Decimal.Mantissa text whole fraction) : text ≠ [] ∧ ∀ c ∈ text, startsNumber c = true := by
  cases h with
  | plain hne hwhole => exact ⟨hne, startsNumber_of_digits hwhole⟩
  | point _ hwhole hfraction =>
    refine ⟨by simp, List.forall_mem_append.mpr ⟨startsNumber_of_digits hwhole, ?_⟩⟩
    exact List.forall_mem_cons.mpr ⟨rfl, startsNumber_of_digits hfraction⟩

/-- **Decimal notation is one lexeme.** -/
theorem scan_of_writes {n : Decimal.Numeral} (h : n.Writes (c :: tail)) :
    scan c tail = ⟨readNumber (c :: tail), tail.length + 1, []⟩ := by
  obtain ⟨mantissa, ending, htext, hmantissa, hending⟩ := h
  obtain ⟨hne, hplain⟩ := startsNumber_of_mantissa hmantissa
  obtain ⟨d, mantissa, rfl⟩ := List.exists_cons_of_ne_nil hne
  rw [List.cons_append, List.cons.injEq] at htext
  obtain ⟨rfl, rfl⟩ := htext
  obtain ⟨hc, hplain⟩ := List.forall_mem_cons.mp hplain
  have htaken : takeNumber [c] (mantissa ++ ending) = (c :: (mantissa ++ ending), []) := by
    rw [takeNumber_plain hplain, takeNumber_ending hending]
    simp
  rw [scan, if_pos hc, number, htaken]
  rfl

/-- A name is one lexeme. -/
theorem scan_of_isName (h : IsName (c :: tail)) :
    scan c tail = ⟨.ok (.ofWord (String.ofList (c :: tail))), tail.length + 1, []⟩ := by
  obtain ⟨_, _, htext, hc, htail⟩ := h
  cases htext
  have hnumber : ¬ startsNumber c = true := fun hnumber =>
    Bool.false_ne_true ((startsWord_of_startsNumber hnumber).symm.trans hc)
  have htake : tail.takeWhile continuesWord = tail := List.takeWhile_eq_self_iff.mpr htail
  have hdrop : tail.dropWhile continuesWord = [] := List.dropWhile_eq_nil_iff.mpr htail
  rw [scan, if_neg hnumber, if_pos hc, word, htake, hdrop]
  rfl

theorem ofWord_of_not_keyword {name : String}
    (h : ∀ kind ∈ TokenKind.keywords, kind.spelling? ≠ some name) :
    TokenKind.ofWord name = .identifier name := by
  have hnone : TokenKind.keywords.find? (·.spelling? == some name) = none := by
    simpa using h
  simp [TokenKind.ofWord, hnone]

/-- **A spelling is scanned whole**, as the token that it spells. -/
theorem scan_of_spells (h : Spells (c :: tail) kind) :
    scan c tail = ⟨.ok kind, tail.length + 1, []⟩ := by
  cases kind with
  | integer value =>
    have hwrites : (⟨c :: tail, [], 0⟩ : Decimal.Numeral).Writes (c :: tail) :=
      ⟨c :: tail, [], (List.append_nil _).symm, .plain h.1 h.2.1, .none⟩
    rw [scan_of_writes hwrites, readNumber_of_integer h]
  | number value =>
    obtain ⟨n, hwrites, -⟩ := Decimal.parse?_eq_some.mp h.2
    rw [scan_of_writes hwrites, readNumber_of_number h]
  | identifier name =>
    obtain ⟨htext, hname, hkeyword⟩ := h
    rw [scan_of_isName hname, htext, String.ofList_toList, ofWord_of_not_keyword hkeyword]
  | endOfLine =>
    cases h
    rfl
  | endOfFile => cases h
  | _ =>
    cases cons_of_spelling h
    rfl

theorem cons_of_spells (h : Spells text kind) : ∃ c tail, text = c :: tail := by
  refine List.exists_cons_of_ne_nil ?_
  rintro rfl
  cases kind with
  | integer value => exact h.1 rfl
  | number value =>
    obtain ⟨⟨c, hc, -⟩, -⟩ := h
    cases hc
  | identifier name =>
    obtain ⟨-, ⟨c, rest, hname, -⟩, -⟩ := h
    cases hname
  | endOfLine | endOfFile => cases h
  | _ => exact absurd h (by simp [Spells, TokenKind.spelling?, String.ext_iff])

/-- A blank on its own is a stray character, so no spelling starts with one. -/
theorem not_blank_of_spells (h : Spells (c :: tail) kind) : ¬ Blank c := by
  intro hblank
  have hscan := scan_of_spells h
  rcases hblank with rfl | rfl | rfl <;> cases hscan

end Lexeme

/-! ## Printed tokens -/

/-- A token as it is printed: blanks, and behind them a spelling of the token. -/
structure Printed where
  blanks : List Char
  spelling : List Char
  kind : TokenKind
  blank : ∀ c ∈ blanks, Lexeme.Blank c
  spells : Spells spelling kind

namespace Printed

def text (print : Printed) : List Char := print.blanks ++ print.spelling

/-- There are blanks between the two, unless one of them is a line break. -/
def Apart (print next : Printed) : Prop :=
  print.kind = .endOfLine ∨ next.kind = .endOfLine ∨ next.blanks ≠ []

end Printed

/-- The tokens one behind another, and what stands behind the last one. -/
def printout (prints : List Printed) (ending : List Char) : List Char :=
  prints.flatMap Printed.text ++ ending

variable {prints : List Printed} {print : Printed} {blanks ending rest : List Char}

theorem printout_cons :
    printout (print :: prints) ending = print.text ++ printout prints ending := by
  simp [printout]

/-! ## One token in a text -/

theorem stops_blanks (hblank : ∀ c ∈ blanks, Lexeme.Blank c)
    (hrest : blanks ≠ [] ∨ Lexeme.Stops rest) : Lexeme.Stops (blanks ++ rest) := by
  apply Lexeme.stops_append _ hrest
  intro c hc
  exact Lexeme.not_solid_of_blank (hblank c hc)

/-- Behind a token that is no line break, no lexeme goes on. -/
theorem stops_printout (hapart : (print :: prints).IsChain Printed.Apart)
    (hending : ∀ c ∈ ending, Lexeme.Blank c) :
    print.kind = .endOfLine ∨ Lexeme.Stops (printout prints ending) := by
  cases prints with
  | nil =>
    have hstops := stops_blanks hending (.inr .nil)
    rw [List.append_nil] at hstops
    exact .inr hstops
  | cons next prints =>
    rw [printout_cons, Printed.text, List.append_assoc]
    refine (List.isChain_cons_cons.mp hapart).1.imp_right fun hnext => stops_blanks next.blank ?_
    rcases hnext with hbreak | hblanks
    · have hspells : Spells next.spelling .endOfLine := hbreak ▸ next.spells
      rw [show next.spelling = ['\n'] from hspells]
      exact .inr (.cons Lexeme.not_solid_break)
    · exact .inl hblanks

theorem lexFrom_blanks (hblank : ∀ c ∈ blanks, Lexeme.Blank c) (line column : Nat)
    (rest : List Char) (items : Array TokenItem) :
    lexFrom line column (blanks ++ rest) items =
      lexFrom line (column + blanks.length) rest items := by
  induction blanks generalizing column with
  | nil => rfl
  | cons c blanks ih =>
    obtain ⟨hc, hblank⟩ := List.forall_mem_cons.mp hblank
    rw [List.cons_append, lexFrom, if_pos (Lexeme.isBlank_iff.mpr hc), ih hblank]
    simp [Nat.add_assoc, Nat.add_comm 1]

/-- **A printed token is scanned as one item**, which is that token. -/
theorem lexFrom_printed (hrest : print.kind = .endOfLine ∨ Lexeme.Stops rest) (line column : Nat)
    (items : Array TokenItem) : ∃ line' column' item, item.reading = .ok print.kind ∧
      lexFrom line column (print.text ++ rest) items =
        lexFrom line' column' rest (items.push item) := by
  obtain ⟨blanks, spelling, kind, hblank, hspells⟩ := print
  obtain ⟨c, tail, rfl⟩ := Lexeme.cons_of_spells hspells
  have hscan : Lexeme.scan c (tail ++ rest) = ⟨.ok kind, tail.length + 1, rest⟩ := by
    rcases hrest with hbreak | hstops
    · cases hbreak
      cases hspells
      rfl
    · rw [Lexeme.scan_append hstops, Lexeme.scan_of_spells hspells]
      rfl
  rw [Printed.text, List.append_assoc, lexFrom_blanks hblank, List.cons_append, lexFrom,
    if_neg (mt Lexeme.isBlank_iff.mp (Lexeme.not_blank_of_spells hspells)), hscan]
  dsimp only
  split <;> exact ⟨_, _, _, Lexeme.reading_item _ _ _, rfl⟩

/-! ## A whole text -/

/-- **Scanning printed tokens** appends these tokens. -/
theorem lexFrom_printout (hapart : prints.IsChain Printed.Apart)
    (hending : ∀ c ∈ ending, Lexeme.Blank c) (line column : Nat) (items : Array TokenItem) :
    (lexFrom line column (printout prints ending) items).1.toList.map TokenItem.reading =
      items.toList.map TokenItem.reading ++ prints.map (.ok ·.kind) := by
  induction prints generalizing line column items with
  | nil =>
    have hblanks := lexFrom_blanks hending line column [] items
    rw [List.append_nil] at hblanks
    rw [printout, List.flatMap_nil, List.nil_append, hblanks, lexFrom]
    simp
  | cons print prints ih =>
    obtain ⟨line', column', item, hitem, hrun⟩ :=
      lexFrom_printed (stops_printout hapart hending) line column items
    rw [printout_cons, hrun, ih hapart.of_cons]
    simp [hitem]

theorem TokenSource.reading_call (source : TokenSource) (n : Nat) :
    (source.call n).reading = ((source.items.map TokenItem.reading)[n]?).getD (.ok .endOfFile) := by
  rw [source.call_eq, List.getElem?_map]
  cases source.items[n]? <;> rfl

/-- The usual digits of an integer spell it. -/
theorem spells_integer {value : Int} (hnonneg : 0 ≤ value) (hlimit : value < Decimal.wordLimit) :
    Spells (toString value).toList (.integer value) := by
  obtain ⟨n, rfl⟩ := Int.eq_ofNat_of_zero_le hnonneg
  have hvalue : Decimal.natOfDigits (toString n).toList = n := by
    rw [toList_natural]
    exact Nat.ofDigitChars_ten_toDigits
  have hne : (toString n).toList ≠ [] := by
    rw [toList_natural]
    exact Nat.toDigits_ne_nil
  have hword : Decimal.natOfDigits (toString n).toList < Decimal.wordLimit := by
    rw [hvalue]
    exact Int.ofNat_lt.mp hlimit
  exact ⟨hne, isDigit_of_mem_natural, hword, congrArg Nat.cast hvalue.symm⟩

/-- **Scanning undoes printing.** Print tokens one behind another, each with any of its spellings,
and blanks wherever neither of two neighbours is a line break; further blanks may stand anywhere. A
source of that text yields exactly these tokens, and then the end of the file for ever. The usual
digits of an integer that fits a word are one of its spellings. -/
theorem lex_printout (prints : List Printed) (ending : List Char)
    (hapart : prints.IsChain Printed.Apart) (hending : ∀ c ∈ ending, Lexeme.Blank c) :
    (∀ n, ((lex (String.ofList (printout prints ending))).call n).reading =
      .ok ((prints.map Printed.kind)[n]?.getD .endOfFile)) ∧
    ∀ value : Int, 0 ≤ value → value < 2 ^ 63 →
      Spells (toString value).toList (.integer value) := by
  refine ⟨fun n => ?_, fun value hnonneg hlimit => spells_integer hnonneg hlimit⟩
  have hitems : (lex (String.ofList (printout prints ending))).items.map TokenItem.reading =
      prints.map (.ok ·.kind) := by
    have hrun := lexFrom_printout hapart hending 1 1 #[]
    rw [← String.toList_ofList (l := printout prints ending)] at hrun
    exact hrun
  rw [TokenSource.reading_call, hitems, List.getElem?_map, List.getElem?_map]
  cases prints[n]? <;> rfl

/-- An integer with a leading zero in front of a name that could be its exponent, and two operators
that could be read as other two. There are blanks of all kinds, and none around the line break. -/
def closeTokens : List Printed :=
  [⟨[' '], "02".toList, .integer 2, List.forall_mem_singleton.mpr (.inl rfl),
      by decide, List.all_eq_true.mp rfl, by decide, by decide⟩,
    ⟨['\t'], "e3".toList, .identifier "e3", List.forall_mem_singleton.mpr (.inr (.inl rfl)), rfl,
      ⟨'e', ['3'], rfl, rfl, List.all_eq_true.mp rfl⟩, by decide⟩,
    ⟨[], "\n".toList, .endOfLine, nofun, rfl⟩,
    ⟨[], "1.5E-1".toList, .number (3 / 20), nofun, ⟨'.', by decide⟩, by decide +kernel⟩,
    ⟨['\r', ' '], "=".toList, .assign,
      List.forall_mem_cons.mpr ⟨.inr (.inr rfl), List.forall_mem_singleton.mpr (.inl rfl)⟩, rfl⟩,
    ⟨[' '], "==".toList, .equal, List.forall_mem_singleton.mpr (.inl rfl), rfl⟩]

theorem lex_printout_of_closeTokens :
    String.ofList (printout closeTokens ['\t']) = " 02\te3\n1.5E-1\r = ==\t" ∧
      ∀ n, ((lex " 02\te3\n1.5E-1\r = ==\t").call n).reading =
        .ok ([.integer 2, .identifier "e3", .endOfLine, .number (3 / 20), .assign, .equal][n]?.getD
          .endOfFile) := by
  have htext : String.ofList (printout closeTokens ['\t']) = " 02\te3\n1.5E-1\r = ==\t" := by
    decide +kernel
  have hapart : closeTokens.IsChain Printed.Apart := by simp [closeTokens, Printed.Apart]
  have hrun := (lex_printout closeTokens ['\t'] hapart (by simp [Lexeme.Blank])).1
  rw [htext] at hrun
  exact ⟨htext, hrun⟩

end TwinSyntax
