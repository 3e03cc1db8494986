import TwinSyntax.Proofs.Spelling

/-!
# Texts with the same lexemes

A lexeme ends in front of a blank or a line break, and no look ahead goes over one. Texts that
differ only in what stands between lexemes are therefore scanned alike. This file says so for any
relation between texts that goes on as the texts do.

**Relations** (`Wordwise`). As long as neither text is at an end or at a separator, the same
character follows in both, and the texts behind it are related again (`GoesOn`).

**One lexeme** (`Wordwise.scan`). In related texts the same lexeme follows, and the texts behind it
are related. In particular, what stands behind a separator plays no part (`scan_append`).
-/

namespace TwinSyntax.Lexeme

/-- No lexeme goes on into the text: a blank, a line break or nothing comes next. -/
inductive Stops : List Char → Prop
  | nil : Stops []
  | cons {c : Char} {text : List Char} : ¬ Solid c → Stops (c :: text)

/-- Both texts stop, or the same character follows in both and the texts behind it are in the
relation `behind`. -/
inductive GoesOn (behind : List Char → List Char → Prop) : List Char → List Char → Prop
  | stop {text text' : List Char} : Stops text → Stops text' → GoesOn behind text text'
  | solid {c : Char} {text text' : List Char} :
      Solid c → behind text text' → GoesOn behind (c :: text) (c :: text')

/-- Related texts go on alike. -/
def Wordwise (related : List Char → List Char → Prop) : Prop :=
  ∀ ⦃text text'⦄, related text text' → GoesOn related text text'

/-- The same reading of as many characters, in front of related texts. -/
structure Same (related : List Char → List Char → Prop) (first second : Lexeme) : Prop where
  reading : second.reading = first.reading
  width : second.width = first.width
  rest : related first.rest second.rest

variable {related : List Char → List Char → Prop} {text text' : List Char} {c d : Char}

/-! ## Separators -/

theorem not_solid_break : ¬ Solid '\n' := fun h => h.2 rfl

theorem not_solid_of_blank (h : Blank c) : ¬ Solid c := fun hc => hc.1 h

theorem solid_of_isSign (h : (c == '+' || c == '-') = true) : Solid c :=
  solid_of_class (p := fun c => c == '+' || c == '-') rfl rfl rfl rfl h

theorem solid_equals : Solid '=' := ⟨by decide, by decide⟩

theorem stops_append {gap rest : List Char} (hgap : ∀ c ∈ gap, ¬ Solid c)
    (hrest : gap ≠ [] ∨ Stops rest) : Stops (gap ++ rest) := by
  cases gap with
  | nil => exact hrest.resolve_left (absurd rfl)
  | cons c gap => exact .cons (hgap c List.mem_cons_self)

/-- A separator is in no class of solid characters. -/
theorem eq_false_of_not_solid {among : Char → Bool} (hsolid : ∀ {c}, among c = true → Solid c)
    (hc : ¬ Solid c) : among c = false :=
  Bool.eq_false_iff.mpr (mt hsolid hc)

theorem Wordwise.solid (h : Wordwise related) (hc : Solid c)
    (htext : related (c :: text) text') : ∃ rest, text' = c :: rest ∧ related text rest := by
  cases h htext with
  | stop hstops _ =>
    cases hstops with
    | cons hsep => exact absurd hc hsep
  | solid _ hrest => exact ⟨_, rfl, hrest⟩

theorem Wordwise.stops (h : Wordwise related) (hstops : Stops text) (htext : related text text') :
    Stops text' := by
  cases h htext with
  | stop _ hstops' => exact hstops'
  | solid hsolid _ =>
    cases hstops with
    | cons hsep => exact absurd hsolid hsep

/-! ## Numbers -/

theorem takeNumber_of_stops (taken : List Char) (h : Stops text) :
    takeNumber taken text = (taken.reverse, text) := by
  cases h with
  | nil => rfl
  | cons hc =>
    rw [takeNumber.eq_def]
    simp [eq_false_of_not_solid solid_of_startsNumber hc,
      eq_false_of_not_solid solid_of_isExponentMark hc]

/-- Whether a digit follows, with or without a sign in front of it. -/
def startsExponent : List Char → Bool
  | [] => false
  | d :: text =>
    d.isDigit || (d == '+' || d == '-') && (text.head?.map Char.isDigit).getD false

section Mark

variable (taken : List Char) (hplain : startsNumber c = false)
    (hmark : Decimal.isExponentMark c = true)
include hplain hmark

theorem takeNumber_mark (h : startsExponent text = false) :
    takeNumber taken (c :: text) = (taken.reverse, c :: text) := by
  rw [takeNumber.eq_def]
  rcases text with _ | ⟨d, _ | ⟨d', text⟩⟩
  · simp [hplain, hmark]
  · have hdigit : d.isDigit = false := by simpa [startsExponent] using h
    simp [hplain, hmark, hdigit]
  · obtain ⟨hdigit, hsigned⟩ : d.isDigit = false ∧ (d = '+' ∨ d = '-' → d'.isDigit = false) := by
      simpa [startsExponent] using h
    simp_all

theorem takeNumber_digit (text : List Char) (hdigit : d.isDigit = true) :
    takeNumber taken (c :: d :: text) = takeNumber (d :: c :: taken) text := by
  rw [takeNumber.eq_def]
  cases text <;> simp [hplain, hmark, hdigit, takeNumber_of_stops _ .nil]

theorem takeNumber_signed {d' : Char} (text : List Char) (hdigit : ¬ d.isDigit = true)
    (hsigned : ((d == '+' || d == '-') && d'.isDigit) = true) :
    takeNumber taken (c :: d :: d' :: text) = takeNumber (d' :: d :: c :: taken) text := by
  rw [takeNumber.eq_def]
  simp only [hplain, hmark, hdigit, hsigned, if_true, Bool.false_eq_true, if_false]

end Mark

/-- A digit stands at the front of both texts, or of neither. -/
theorem Wordwise.head_isDigit (h : Wordwise related) (htext : related text text') :
    (text'.head?.map Char.isDigit).getD false = (text.head?.map Char.isDigit).getD false := by
  cases h htext with
  | stop hstops hstops' =>
    have hnone {text : List Char} (h : Stops text) :
        (text.head?.map Char.isDigit).getD false = false := by
      cases h with
      | nil => rfl
      | cons hc => exact eq_false_of_not_solid solid_of_isDigit hc
    rw [hnone hstops, hnone hstops']
  | solid _ _ => rfl

/-- An exponent is seen in both texts, or in neither. -/
theorem Wordwise.startsExponent (h : Wordwise related) (htext : related text text') :
    startsExponent text' = startsExponent text := by
  cases h htext with
  | stop hstops hstops' =>
    have hnone {text : List Char} (h : Stops text) : Lexeme.startsExponent text = false := by
      cases h with
      | nil => rfl
      | cons hc =>
        have hdigit := eq_false_of_not_solid solid_of_isDigit hc
        have hsign := eq_false_of_not_solid solid_of_isSign hc
        rw [Lexeme.startsExponent, hdigit, hsign]
        rfl
    rw [hnone hstops, hnone hstops']
  | solid _ hrest => rw [Lexeme.startsExponent, Lexeme.startsExponent, h.head_isDigit hrest]

/-- **A number** ends in both texts at the same place. -/
theorem Wordwise.takeNumber (h : Wordwise related) (taken : List Char)
    (htext : related text text') : (takeNumber taken text').1 = (takeNumber taken text).1 ∧
      related (takeNumber taken text).2 (takeNumber taken text').2 := by
  have hnone {c : Char} {text text' : List Char} (taken : List Char)
      (hplain : ¬ startsNumber c = true)
      (hmark : Decimal.isExponentMark c = true) (hnot : Lexeme.startsExponent text = false)
      (htext : related (c :: text) text') : (Lexeme.takeNumber taken text').1 = taken.reverse ∧
        related (c :: text) (Lexeme.takeNumber taken text').2 := by
    obtain ⟨rest, rfl, hrest⟩ := h.solid (solid_of_isExponentMark hmark) htext
    rw [takeNumber_mark taken (by simpa using hplain) hmark ((h.startsExponent hrest).trans hnot)]
    exact ⟨rfl, htext⟩
  fun_induction Lexeme.takeNumber taken text generalizing text' with
  | case1 taken =>
    rw [takeNumber_of_stops taken (h.stops .nil htext)]
    exact ⟨rfl, htext⟩
  | case2 taken c text hplain ih =>
    obtain ⟨rest, rfl, hrest⟩ := h.solid (solid_of_startsNumber hplain) htext
    rw [takeNumber.eq_def]
    simpa [hplain] using ih hrest
  | case3 taken c hplain hmark => exact hnone taken hplain hmark rfl htext
  | case4 taken c hplain hmark d hdigit =>
    obtain ⟨rest, rfl, hmarked⟩ := h.solid (solid_of_isExponentMark hmark) htext
    obtain ⟨rest, rfl, hrest⟩ := h.solid (solid_of_isDigit hdigit) hmarked
    rw [takeNumber_digit taken (by simpa using hplain) hmark rest hdigit,
      takeNumber_of_stops _ (h.stops .nil hrest)]
    exact ⟨rfl, hrest⟩
  | case5 taken c hplain hmark d hdigit =>
    exact hnone taken hplain hmark (by simp [Lexeme.startsExponent, hdigit]) htext
  | case6 taken c hplain hmark d d' text hdigit ih =>
    obtain ⟨rest, rfl, hmarked⟩ := h.solid (solid_of_isExponentMark hmark) htext
    obtain ⟨rest, rfl, hrest⟩ := h.solid (solid_of_isDigit hdigit) hmarked
    rw [takeNumber_digit taken (by simpa using hplain) hmark rest hdigit]
    exact ih hrest
  | case7 taken c hplain hmark d d' text hdigit hsigned ih =>
    obtain ⟨hsign, hdigit'⟩ := Bool.and_eq_true_iff.mp hsigned
    obtain ⟨rest, rfl, hmarked⟩ := h.solid (solid_of_isExponentMark hmark) htext
    obtain ⟨rest, rfl, hsigned'⟩ := h.solid (solid_of_isSign hsign) hmarked
    obtain ⟨rest, rfl, hrest⟩ := h.solid (solid_of_isDigit hdigit') hsigned'
    rw [takeNumber_signed taken (by simpa using hplain) hmark rest hdigit hsigned]
    exact ih hrest
  | case8 taken c hplain hmark d d' text hdigit hsigned =>
    exact hnone taken hplain hmark (by simpa [Lexeme.startsExponent, hdigit] using hsigned) htext
  | case9 taken c text hplain hmark =>
    cases h htext with
    | stop hstops hstops' =>
      rw [takeNumber_of_stops taken hstops']
      exact ⟨rfl, htext⟩
    | solid _ _ =>
      rw [takeNumber.eq_def]
      simpa [hplain, hmark] using htext

/-! ## Other lexemes -/

/-- **A word** ends in both texts at the same place. -/
theorem Wordwise.takeWord (h : Wordwise related) (htext : related text text') :
    text'.takeWhile continuesWord = text.takeWhile continuesWord ∧
      related (text.dropWhile continuesWord) (text'.dropWhile continuesWord) := by
  have hnone {text : List Char} (h : Stops text) :
      text.takeWhile continuesWord = [] ∧ text.dropWhile continuesWord = text := by
    cases h with
    | nil => exact ⟨rfl, rfl⟩
    | cons hc => simp [eq_false_of_not_solid solid_of_continuesWord hc]
  induction text generalizing text' with
  | nil =>
    rw [(hnone (h.stops .nil htext)).1, (hnone (h.stops .nil htext)).2]
    exact ⟨rfl, htext⟩
  | cons c text ih =>
    cases h htext with
    | stop hstops hstops' =>
      rw [(hnone hstops).1, (hnone hstops').1, (hnone hstops).2, (hnone hstops').2]
      exact ⟨rfl, htext⟩
    | solid _ hrest =>
      obtain ⟨htake, hdrop⟩ := ih hrest
      rw [List.takeWhile_cons, List.takeWhile_cons, List.dropWhile_cons, List.dropWhile_cons, htake]
      split
      · exact ⟨rfl, hdrop⟩
      · exact ⟨rfl, htext⟩

theorem operator_alone {alone : Except LexFault TokenKind} {pair : TokenKind}
    (hsingle : single? c = none) (hpaired : paired? c = some (alone, pair))
    (h : ∀ rest, text ≠ '=' :: rest) : operator c text = ⟨alone, 1, text⟩ := by
  unfold operator
  rw [hsingle, hpaired]
  split
  · next hnone => cases hnone
  · next hsome _ => exact absurd rfl (h _)
  · next hsome _ => cases hsome; rfl
  · next hsome => cases hsome

/-- **An operator** takes an equals sign in both texts, or in neither. -/
theorem Wordwise.operator (h : Wordwise related) (c : Char) (htext : related text text') :
    Same related (operator c text) (operator c text') := by
  have hstop {text : List Char} (hstops : Stops text) (rest : List Char) : text ≠ '=' :: rest := by
    rintro rfl
    cases hstops with
    | cons hc => exact hc solid_equals
  cases hsingle : single? c with
  | some kind =>
    unfold Lexeme.operator
    rw [hsingle]
    exact ⟨rfl, rfl, htext⟩
  | none =>
    cases hpaired : paired? c with
    | none =>
      unfold Lexeme.operator
      rw [hsingle, hpaired]
      exact ⟨rfl, rfl, htext⟩
    | some pair =>
      have halone (hleft : ∀ rest, text ≠ '=' :: rest) (hright : ∀ rest, text' ≠ '=' :: rest) :
          Same related (Lexeme.operator c text) (Lexeme.operator c text') := by
        rw [operator_alone hsingle hpaired hleft, operator_alone hsingle hpaired hright]
        exact ⟨rfl, rfl, htext⟩
      cases h htext with
      | stop hstops hstops' => exact halone (hstop hstops) (hstop hstops')
      | @solid d text text' _ hrest =>
        by_cases hd : d = '='
        · subst hd
          unfold Lexeme.operator
          rw [hsingle, hpaired]
          exact ⟨rfl, rfl, hrest⟩
        · exact halone (by simp [hd]) (by simp [hd])

/-- **In related texts the same lexeme follows.** -/
theorem Wordwise.scan (h : Wordwise related) (c : Char) (htext : related text text') :
    Same related (scan c text) (scan c text') := by
  unfold Lexeme.scan
  split
  · obtain ⟨htaken, hrest⟩ := h.takeNumber [c] htext
    exact ⟨congrArg readNumber htaken, congrArg List.length htaken, hrest⟩
  split
  · obtain ⟨htaken, hrest⟩ := h.takeWord htext
    rw [word, word, htaken]
    exact ⟨rfl, rfl, hrest⟩
  · exact h.operator c htext

/-! ## In front of a separator -/

theorem wordwise_append {behind : List Char} (hbehind : Stops behind) :
    Wordwise fun text text' => text' = text ++ behind := by
  rintro text _ rfl
  cases text with
  | nil => exact .stop .nil hbehind
  | cons c text =>
    by_cases hc : Solid c
    · exact .solid hc rfl
    · exact .stop (.cons hc) (.cons hc)

/-- **No lexeme sees what is behind a separator.** -/
theorem scan_append {behind : List Char} (hbehind : Stops behind) (c : Char) (text : List Char) :
    scan c (text ++ behind) =
      ⟨(scan c text).reading, (scan c text).width, (scan c text).rest ++ behind⟩ := by
  obtain ⟨hreading, hwidth, hrest⟩ := (wordwise_append hbehind).scan c (Eq.refl (text ++ behind))
  rw [← hreading, ← hwidth, ← hrest]

end TwinSyntax.Lexeme
