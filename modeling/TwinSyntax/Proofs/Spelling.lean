import TwinSyntax.Token.Scan

/-!
# How tokens are spelled

**Spelling** (`Spells`). The characters that a token may be written with, said without scanning: a
keyword or punctuation has one spelling, a line break is one, an identifier is its name, and the
value of a literal is that of its digits.

**Theorem (`takes_scan`).** A lexeme takes characters from the front of the text, at least one and
no blanks, and stays on its line. It spells the token that it reads as; if it reads as a fault, it
spells no token at all.
-/

namespace TwinSyntax

/-- A name: a letter or an underscore, and letters, digits and underscores behind it. -/
def IsName (text : List Char) : Prop :=
  ∃ c rest, text = c :: rest ∧ Lexeme.startsWord c = true ∧
    ∀ d ∈ rest, Lexeme.continuesWord d = true

/-- `text` spells a token of the kind `kind`. The end of the file has no spelling. -/
def Spells (text : List Char) : TokenKind → Prop
  | .integer value =>
    text ≠ [] ∧ (∀ c ∈ text, c.isDigit = true) ∧ Decimal.natOfDigits text < Decimal.wordLimit ∧
      value = Decimal.natOfDigits text
  | .number value =>
    (∃ c ∈ text, c = '.' ∨ Decimal.isExponentMark c = true) ∧ Decimal.parse? text = some value
  | .identifier name =>
    text = name.toList ∧ IsName text ∧ ∀ kind ∈ TokenKind.keywords, kind.spelling? ≠ some name
  | .endOfLine => text = ['\n']
  | kind => kind.spelling? = some (String.ofList text)

namespace Lexeme

/-- The characters that spell nothing and only keep lexemes apart. -/
def Blank (c : Char) : Prop := c = ' ' ∨ c = '\t' ∨ c = '\r'

instance (c : Char) : Decidable (Blank c) := inferInstanceAs (Decidable (_ ∨ _))

theorem isBlank_iff {c : Char} : isBlank c = true ↔ Blank c := by
  simp [isBlank, Blank, or_assoc]

/-- `lexeme` takes the characters `taken` from the front of `text`. -/
structure Takes (lexeme : Lexeme) (taken text : List Char) : Prop where
  split : taken ++ lexeme.rest = text
  width : lexeme.width = taken.length
  solid : ∀ c ∈ taken, ¬ Blank c
  oneLine : taken = ['\n'] ∨ '\n' ∉ taken
  spells {kind : TokenKind} : lexeme.reading = .ok kind → Spells taken kind
  refused {fault : LexFault} :
    lexeme.reading = .error fault → ∀ kind, ¬ Spells taken kind

/-! ## Characters -/

/-- A character that is no blank and breaks no line. -/
def Solid (c : Char) : Prop := ¬ Blank c ∧ c ≠ '\n'

/-- A class of characters without blanks and line breaks. -/
theorem solid_of_class {p : Char → Bool} {c : Char} (hspace : p ' ' = false) (htab : p '\t' = false)
    (hreturn : p '\r' = false) (hbreak : p '\n' = false) (h : p c = true) : Solid c := by
  have hne : ∀ d, p d = false → c ≠ d := by
    rintro d hd rfl
    exact Bool.false_ne_true (hd.symm.trans h)
  refine ⟨?_, hne '\n' hbreak⟩
  rintro (hblank | hblank | hblank)
  · exact hne ' ' hspace hblank
  · exact hne '\t' htab hblank
  · exact hne '\r' hreturn hblank

theorem solid_of_startsNumber {c : Char} (h : startsNumber c = true) : Solid c :=
  solid_of_class rfl rfl rfl rfl h

theorem solid_of_isExponentMark {c : Char} (h : Decimal.isExponentMark c = true) : Solid c :=
  solid_of_class rfl rfl rfl rfl h

theorem solid_of_isDigit {c : Char} (h : c.isDigit = true) : Solid c :=
  solid_of_class rfl rfl rfl rfl h

theorem solid_of_continuesWord {c : Char} (h : continuesWord c = true) : Solid c :=
  solid_of_class rfl rfl rfl rfl h

theorem solid_of_startsWord {c : Char} (h : startsWord c = true) : Solid c :=
  solid_of_class rfl rfl rfl rfl h

theorem not_mem_of_solid {taken : List Char} (h : ∀ c ∈ taken, Solid c) : '\n' ∉ taken :=
  fun hmem => (h '\n' hmem).2 rfl

/-! ## First characters -/

theorem cons_of_spelling {spelling : String} {c : Char} {rest : List Char}
    (h : some spelling = some (String.ofList (c :: rest))) : spelling.toList = c :: rest := by
  rw [Option.some.inj h, String.toList_ofList]

/-- What a text may start with that spells a token of the kind `kind`. -/
inductive Opens (c : Char) : TokenKind → Prop
  | integer {value : Int} : c.isDigit = true → Opens c (.integer value)
  | number {value : Rat} : Opens c (.number value)
  | word {kind : TokenKind} : startsWord c = true → Opens c kind
  | single {kind kind' : TokenKind} : single? c = some kind' → Opens c kind
  | paired {kind pair : TokenKind} {alone : Except LexFault TokenKind} :
      paired? c = some (alone, pair) → Opens c kind

theorem opens_of_spells {c : Char} {rest : List Char} {kind : TokenKind}
    (h : Spells (c :: rest) kind) : Opens c kind := by
  cases kind with
  | integer value => exact .integer (h.2.1 c List.mem_cons_self)
  | number value => exact .number
  | identifier name =>
    obtain ⟨-, ⟨d, rest', hname, hd, -⟩, -⟩ := h
    cases hname
    exact .word hd
  | endOfLine =>
    cases h
    exact .single rfl
  | endOfFile => cases h
  | varWord | constWord | whileWord | ifWord | elseWord =>
    cases cons_of_spelling h
    exact .word rfl
  | assign | less | greater | lessEqual | greaterEqual | equal | notEqual =>
    cases cons_of_spelling h
    exact .paired rfl
  | _ =>
    cases cons_of_spelling h
    exact .single rfl

/-- A number of one character is a point, or the mark of an exponent. Neither is a number in fact,
but that plays no part here. -/
theorem mark_of_spells {c : Char} {value : Rat} (h : Spells [c] (.number value)) :
    c = '.' ∨ Decimal.isExponentMark c = true := by
  obtain ⟨⟨d, hd, hmark⟩, -⟩ := h
  obtain rfl := List.mem_singleton.mp hd
  exact hmark

/-! ## Numbers -/

/-- What may stand behind the first character of a number: digits, points and exponents. -/
inductive NumberTail : List Char → Prop
  | nil : NumberTail []
  | plain {c : Char} {tail : List Char} :
      startsNumber c = true → NumberTail tail → NumberTail (c :: tail)
  | exponent {mark digit : Char} {tail : List Char} :
      Decimal.isExponentMark mark = true → digit.isDigit = true → NumberTail tail →
      NumberTail (mark :: digit :: tail)
  | signedExponent {mark sign digit : Char} {tail : List Char} :
      Decimal.isExponentMark mark = true → sign = '+' ∨ sign = '-' → digit.isDigit = true →
      NumberTail tail → NumberTail (mark :: sign :: digit :: tail)

/-- What is taken of a number goes on from what was taken before. -/
theorem takeNumber_split (taken text : List Char) :
    ∃ tail, NumberTail tail ∧ (takeNumber taken text).1 = taken.reverse ++ tail ∧
      tail ++ (takeNumber taken text).2 = text := by
  have hstop : ∀ {taken text : List Char}, ∃ tail, NumberTail tail ∧
      taken.reverse = taken.reverse ++ tail ∧ tail ++ text = text :=
    ⟨[], .nil, (List.append_nil _).symm, rfl⟩
  fun_induction takeNumber taken text with
  | case1 => exact hstop
  | case2 taken c text hplain ih =>
    obtain ⟨tail, htail, htaken, htext⟩ := ih
    refine ⟨c :: tail, .plain hplain htail, ?_, congrArg (c :: ·) htext⟩
    rw [htaken, List.reverse_cons, List.append_assoc, List.singleton_append]
  | case3 => exact hstop
  | case4 taken c _ hmark d hdigit =>
    refine ⟨[c, d], .exponent hmark hdigit .nil, ?_, rfl⟩
    simp
  | case5 => exact hstop
  | case6 taken c _ hmark d d' text hdigit ih =>
    obtain ⟨tail, htail, htaken, htext⟩ := ih
    refine ⟨c :: d :: tail, .exponent hmark hdigit htail, ?_, congrArg (c :: d :: ·) htext⟩
    simp [htaken]
  | case7 taken c _ hmark d d' text _ hsign ih =>
    obtain ⟨tail, htail, htaken, htext⟩ := ih
    simp only [Bool.and_eq_true, Bool.or_eq_true, beq_iff_eq] at hsign
    refine ⟨c :: d :: d' :: tail, .signedExponent hmark hsign.1 hsign.2 htail, ?_,
      congrArg (c :: d :: d' :: ·) htext⟩
    simp [htaken]
  | case8 => exact hstop
  | case9 => exact hstop

theorem NumberTail.solid {tail : List Char} (h : NumberTail tail) : ∀ c ∈ tail, Solid c := by
  induction h with
  | nil => exact List.forall_mem_nil _
  | plain hplain _ ih => exact List.forall_mem_cons.mpr ⟨solid_of_startsNumber hplain, ih⟩
  | exponent hmark hdigit _ ih =>
    exact List.forall_mem_cons.mpr ⟨solid_of_isExponentMark hmark,
      List.forall_mem_cons.mpr ⟨solid_of_isDigit hdigit, ih⟩⟩
  | @signedExponent _ sign _ _ hmark hsign hdigit _ ih =>
    have hsolid : Solid sign := by rcases hsign with rfl | rfl <;> exact ⟨by decide, by decide⟩
    exact List.forall_mem_cons.mpr ⟨solid_of_isExponentMark hmark,
      List.forall_mem_cons.mpr ⟨hsolid, List.forall_mem_cons.mpr ⟨solid_of_isDigit hdigit, ih⟩⟩⟩

/-- A number that is not made of digits has a point or an exponent. -/
theorem NumberTail.marked {tail : List Char} (h : NumberTail tail)
    (hdigits : tail.all Char.isDigit = false) :
    ∃ c ∈ tail, c = '.' ∨ Decimal.isExponentMark c = true := by
  induction h with
  | nil => cases hdigits
  | @plain c tail hplain _ ih =>
    rcases Bool.or_eq_true_iff.mp hplain with hdigit | hpoint
    · rw [List.all_cons, hdigit, Bool.true_and] at hdigits
      obtain ⟨d, hmem, hd⟩ := ih hdigits
      exact ⟨d, List.mem_cons_of_mem c hmem, hd⟩
    · exact ⟨c, List.mem_cons_self, .inl (beq_iff_eq.mp hpoint)⟩
  | exponent hmark => exact ⟨_, List.mem_cons_self, .inr hmark⟩
  | signedExponent hmark => exact ⟨_, List.mem_cons_self, .inr hmark⟩

/-- What reads as a number spells it. -/
theorem spells_of_readNumber {text : List Char} {kind : TokenKind} (hne : text ≠ [])
    (htext : NumberTail text) (h : readNumber text = .ok kind) : Spells text kind := by
  unfold readNumber at h
  split at h
  · next hdigits =>
    dsimp only at h
    split at h
    · next hlimit =>
      cases h
      exact ⟨hne, List.all_eq_true.mp hdigits, hlimit, rfl⟩
    · cases h
  · next hdigits =>
    split at h
    · next value hvalue =>
      cases h
      exact ⟨htext.marked (Bool.eq_false_iff.mpr hdigits), hvalue⟩
    · cases h

theorem readNumber_of_integer {text : List Char} {value : Int} (h : Spells text (.integer value)) :
    readNumber text = .ok (.integer value) := by
  obtain ⟨-, hdigits, hlimit, rfl⟩ := h
  rw [readNumber, if_pos (List.all_eq_true.mpr hdigits)]
  exact if_pos hlimit

theorem readNumber_of_number {text : List Char} {value : Rat} (h : Spells text (.number value)) :
    readNumber text = .ok (.number value) := by
  obtain ⟨⟨c, hc, hmark⟩, hvalue⟩ := h
  have hdigits : ¬ text.all Char.isDigit = true := by
    intro hall
    have hdigit := List.all_eq_true.mp hall c hc
    rcases hmark with rfl | hmark
    · cases hdigit
    · rcases Bool.or_eq_true_iff.mp hmark with h | h <;>
        (rw [beq_iff_eq.mp h] at hdigit; cases hdigit)
  rw [readNumber, if_neg hdigits, hvalue]

/-- No word starts as a number does. -/
theorem startsWord_of_startsNumber {c : Char} (h : startsNumber c = true) :
    startsWord c = false := by
  rcases Bool.or_eq_true_iff.mp h with hdigit | hpoint
  · have hhigh : c.val.toNat ≤ 57 := (Char.isDigit_iff_toNat.mp hdigit).2
    refine Bool.eq_false_iff.mpr fun hword => ?_
    rcases Bool.or_eq_true_iff.mp hword with halpha | hline
    · rcases Bool.or_eq_true_iff.mp halpha with hupper | hlower
      · have hlow : 65 ≤ c.val.toNat := (of_decide_eq_true hupper).1
        omega
      · have hlow : 97 ≤ c.val.toNat := of_decide_eq_true (Bool.and_eq_true_iff.mp hlower).1
        omega
    · rw [beq_iff_eq.mp hline] at hdigit
      cases hdigit
  · rw [beq_iff_eq.mp hpoint]
    decide

/-- No operator starts as a number does. -/
theorem operator_of_startsNumber {c : Char} (h : startsNumber c = true) :
    single? c = none ∧ paired? c = none := by
  unfold single? paired?
  constructor <;> split <;> first | rfl | cases h

/-- A text that starts as a number does and reads as none spells nothing. -/
theorem not_spells_of_readNumber {c : Char} {tail : List Char} {fault : LexFault}
    (hc : startsNumber c = true) (h : readNumber (c :: tail) = .error fault) (kind : TokenKind) :
    ¬ Spells (c :: tail) kind := by
  intro hspells
  cases opens_of_spells hspells with
  | integer =>
    rw [readNumber_of_integer hspells] at h
    cases h
  | number =>
    rw [readNumber_of_number hspells] at h
    cases h
  | word hword =>
    rw [startsWord_of_startsNumber hc] at hword
    cases hword
  | single hsingle =>
    rw [(operator_of_startsNumber hc).1] at hsingle
    cases hsingle
  | paired hpaired =>
    rw [(operator_of_startsNumber hc).2] at hpaired
    cases hpaired

theorem takes_number {c : Char} (hc : startsNumber c = true) (text : List Char) :
    ∃ tail, (number c text).Takes (c :: tail) (c :: text) := by
  obtain ⟨tail, htail, htaken, htext⟩ := takeNumber_split [c] text
  have htaken : (takeNumber [c] text).1 = c :: tail := htaken
  have hnumber : NumberTail (c :: tail) := .plain hc htail
  exact ⟨tail, {
    split := congrArg (c :: ·) htext
    width := congrArg List.length htaken
    solid := fun d hd => (hnumber.solid d hd).1
    oneLine := .inr (not_mem_of_solid hnumber.solid)
    spells := fun h => spells_of_readNumber (List.cons_ne_nil c tail) hnumber
      ((congrArg readNumber htaken).symm.trans h)
    refused := fun h =>
      not_spells_of_readNumber hc ((congrArg readNumber htaken).symm.trans h) }⟩

/-! ## Words -/

/-- A token that has a spelling is spelled so. -/
theorem spells_of_spelling {text : List Char} {kind : TokenKind}
    (h : kind.spelling? = some (String.ofList text)) : Spells text kind := by
  cases kind with
  | integer | number | identifier | endOfLine => cases h
  | _ => exact h

/-- What reads as a word spells it. -/
theorem spells_ofWord {text : List Char} (h : IsName text) :
    Spells text (.ofWord (String.ofList text)) := by
  rw [TokenKind.ofWord]
  cases hfind : TokenKind.keywords.find? (·.spelling? == some (String.ofList text)) with
  | some kind =>
    have hspelling := List.find?_some hfind
    exact spells_of_spelling (beq_iff_eq.mp hspelling)
  | none =>
    refine ⟨String.toList_ofList.symm, h, fun kind hkind hspelling => ?_⟩
    exact List.find?_eq_none.mp hfind kind hkind (beq_iff_eq.mpr hspelling)

theorem takes_word {c : Char} (hc : startsWord c = true) (text : List Char) :
    ∃ tail, (word c text).Takes (c :: tail) (c :: text) := by
  have hname : ∀ d ∈ text.takeWhile continuesWord, continuesWord d = true := fun d hd =>
    List.all_eq_true.mp List.all_takeWhile d hd
  have hsolid : ∀ d ∈ c :: text.takeWhile continuesWord, Solid d :=
    List.forall_mem_cons.mpr ⟨solid_of_startsWord hc, fun d hd =>
      solid_of_continuesWord (hname d hd)⟩
  exact ⟨text.takeWhile continuesWord, {
    split := congrArg (c :: ·) List.takeWhile_append_dropWhile
    width := rfl
    solid := fun d hd => (hsolid d hd).1
    oneLine := .inr (not_mem_of_solid hsolid)
    spells := fun h => Except.ok.inj h ▸ spells_ofWord ⟨c, _, rfl, hc, hname⟩
    refused := nofun }⟩

/-! ## Operators -/

theorem spells_of_single {c : Char} {kind : TokenKind} (h : single? c = some kind) :
    Spells [c] kind := by
  unfold single? at h
  split at h <;> cases h <;> rfl

theorem not_spells_bang (kind : TokenKind) : ¬ Spells ['!'] kind := by
  intro h
  cases kind with
  | integer => exact absurd (h.2.1 '!' List.mem_cons_self) (by decide)
  | number => exact absurd (mark_of_spells h) (by decide)
  | identifier =>
    obtain ⟨-, ⟨c, rest, hname, hc, -⟩, -⟩ := h
    cases hname
    exact absurd hc (by decide)
  | _ => exact absurd h (by simp [Spells, TokenKind.spelling?, String.ext_iff])

/-- A character that starts no lexeme spells nothing. -/
theorem not_spells_stray {c : Char} (hnumber : ¬ startsNumber c = true)
    (hword : ¬ startsWord c = true) (hsingle : single? c = none) (hpaired : paired? c = none)
    (kind : TokenKind) : ¬ Spells [c] kind := by
  intro h
  cases opens_of_spells h with
  | integer hdigit => exact hnumber (Bool.or_eq_true_iff.mpr (.inl hdigit))
  | number =>
    rcases mark_of_spells h with rfl | hmark
    · exact hnumber rfl
    · rcases Bool.or_eq_true_iff.mp hmark with h | h <;>
        exact hword (beq_iff_eq.mp h ▸ rfl)
  | word h => exact hword h
  | single h =>
    rw [hsingle] at h
    cases h
  | paired h =>
    rw [hpaired] at h
    cases h

/-- What a character is that may have an equals sign behind it, without one and with one. -/
theorem spells_of_paired {c : Char} {alone : Except LexFault TokenKind} {pair : TokenKind}
    (h : paired? c = some (alone, pair)) :
    (∀ kind, alone = .ok kind → Spells [c] kind) ∧
      (∀ fault, alone = .error fault → ∀ kind, ¬ Spells [c] kind) ∧
      Spells [c, '='] pair ∧ c ≠ '\n' := by
  unfold paired? at h
  split at h <;> cases h
  case h_4 => exact ⟨nofun, fun _ _ => not_spells_bang, rfl, by decide⟩
  all_goals
    refine ⟨fun kind hkind => ?_, nofun, rfl, by decide⟩
    cases hkind
    rfl

/-- A lexeme of one character. -/
theorem takes_one {c : Char} (hc : ¬ Blank c) {reading : Except LexFault TokenKind}
    (hspells : ∀ kind, reading = .ok kind → Spells [c] kind)
    (hrefused : ∀ fault, reading = .error fault → ∀ kind, ¬ Spells [c] kind) (text : List Char) :
    ∃ tail, (Lexeme.mk reading 1 text).Takes (c :: tail) (c :: text) := by
  refine ⟨[], {
    split := rfl
    width := rfl
    solid := List.forall_mem_singleton.mpr hc
    oneLine := ?_
    spells := fun {kind} h => hspells kind h
    refused := fun {fault} h => hrefused fault h }⟩
  by_cases hbreak : c = '\n'
  · exact .inl (congrArg (fun c => [c]) hbreak)
  · exact .inr (mt List.mem_singleton.mp (Ne.symm hbreak))

theorem takes_operator {c : Char} (hc : ¬ Blank c) (hnumber : ¬ startsNumber c = true)
    (hword : ¬ startsWord c = true) (text : List Char) :
    ∃ tail, (operator c text).Takes (c :: tail) (c :: text) := by
  unfold operator
  split
  · next kind hkind =>
    refine takes_one hc (fun kind' h => ?_) (fun fault h => ?_) _ <;> cases h
    exact spells_of_single hkind
  · next pair rest _ hpair =>
    obtain ⟨-, -, hspells, hbreak⟩ := spells_of_paired hpair
    exact ⟨['='], {
      split := rfl
      width := rfl
      solid := List.forall_mem_cons.mpr ⟨hc, List.forall_mem_singleton.mpr (by decide)⟩
      oneLine := .inr (List.not_mem_cons_of_ne_of_not_mem (Ne.symm hbreak) (by decide))
      spells := fun h => Except.ok.inj h ▸ hspells
      refused := nofun }⟩
  · next hpair _ =>
    obtain ⟨hspells, hrefused, -, -⟩ := spells_of_paired hpair
    exact takes_one hc hspells hrefused _
  · next hsingle hpaired =>
    refine takes_one hc (fun kind h => ?_) (fun fault _ => ?_) _
    · cases h
    · exact not_spells_stray hnumber hword hsingle hpaired

/-- **A lexeme spells the token that it reads as**, and has the character in front. -/
theorem takes_scan {c : Char} (hc : ¬ Blank c) (text : List Char) :
    ∃ tail, (scan c text).Takes (c :: tail) (c :: text) := by
  unfold scan
  split
  · next hnumber => exact takes_number hnumber text
  · next hnumber =>
    split
    · next hword => exact takes_word hword text
    · next hword => exact takes_operator hc hnumber hword text

end Lexeme

end TwinSyntax
