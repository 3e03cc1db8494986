import Mathlib.Algebra.Field.Rat
import Mathlib.Data.List.Induction
import Mathlib.Data.Nat.Digits.Defs
import TwinSyntax.Decimal

/-!
# Decimal notation is read exactly

Reading accepts decimal notation and nothing else, and the value is the one that the digits denote.

**Notation** (`Numeral.Writes`). Said without the two cuts that reading makes: a run of digits in
which a point may stand (`Mantissa`), and an exponent that may be left out (`Ending`). Reading cuts
at the first exponent mark and then at the first point. Neither can stand among digits, so the cuts
fall where the notation has them (`ofText?_eq_some`).

**Value** (`Numeral.value_eq`). The digits as one number, times a power of ten. The two branches, a
product and a quotient, are one power with an integer exponent.

**Words.** The exponent and the number of digits behind the point are kept in words, and so is their
difference, the scale. The limit on the scale is far inside a word, so a difference that is no word
is refused like any other that is too large (`fitsWord_of_le_maxScale`).

Main result: `decimal_notation_exact`.
-/

namespace TwinSyntax.Decimal

/-! ## Notation -/

/-- A run of digits, which may be empty. -/
def Digits (text : List Char) : Prop := ∀ c ∈ text, c.isDigit = true

/-- The natural number that `digits` are the decimal notation of, the lowest digit last. -/
def denotes (digits : List Char) : Nat :=
  Nat.ofDigits 10 (digits.reverse.map fun c => c.toNat - '0'.toNat)

/-- Digits in which a point may stand. -/
inductive Mantissa : (text whole fraction : List Char) → Prop
  | plain {whole : List Char} : whole ≠ [] → Digits whole → Mantissa whole whole []
  | point {whole fraction : List Char} : whole ≠ [] ∨ fraction ≠ [] → Digits whole →
      Digits fraction → Mantissa (whole ++ '.' :: fraction) whole fraction

/-- One or more digits that may have a sign in front. -/
inductive Signed : (text : List Char) → (value : Int) → Prop
  | plain {digits : List Char} : digits ≠ [] → Digits digits → Signed digits (denotes digits)
  | plus {digits : List Char} : digits ≠ [] → Digits digits →
      Signed ('+' :: digits) (denotes digits)
  | minus {digits : List Char} : digits ≠ [] → Digits digits →
      Signed ('-' :: digits) (-denotes digits)

/-- What stands behind the digits. -/
inductive Ending : (text : List Char) → (exponent : Int) → Prop
  | none : Ending [] 0
  | exponent {mark : Char} {digits : List Char} {value : Int} : mark = 'e' ∨ mark = 'E' →
      Signed digits value → Ending (mark :: digits) value

/-- The text is a notation of the numeral. -/
def Numeral.Writes (n : Numeral) (text : List Char) : Prop :=
  ∃ mantissa ending, text = mantissa ++ ending ∧ Mantissa mantissa n.whole n.fraction ∧
    Ending ending n.exponent

variable {text whole fraction : List Char} {stop : Char → Bool} {n : Numeral}

/-! ## Digits -/

theorem digits_iff_all : Digits text ↔ text.all Char.isDigit = true := List.all_eq_true.symm

theorem natOfDigits_eq_denotes (digits : List Char) : natOfDigits digits = denotes digits := by
  induction digits using List.reverseRecOn with
  | nil => rfl
  | append_singleton digits d ih =>
    have hlast : natOfDigits (digits ++ [d]) = 10 * natOfDigits digits + (d.toNat - '0'.toNat) := by
      rw [natOfDigits, List.foldl_append]
      rfl
    rw [hlast, ih, denotes, denotes, List.reverse_append, List.map_append]
    exact Nat.add_comm _ _

theorem natural?_eq_some {value : Nat} :
    natural? text = some value ↔ text ≠ [] ∧ Digits text ∧ value = denotes text := by
  rw [natural?, digits_iff_all, ← natOfDigits_eq_denotes]
  grind

theorem natural?_map_eq_some {f : Nat → Int} {value : Int} :
    (natural? text).map f = some value ↔ text ≠ [] ∧ Digits text ∧ f (denotes text) = value := by
  simp only [Option.map_eq_some_iff, natural?_eq_some, and_assoc]
  grind

/-- No sign is a digit, so digits on their own are read as they are. -/
theorem integer?_of_digits (h : Digits text) : integer? text = (natural? text).map Int.ofNat := by
  unfold integer?
  split
  · exact absurd (h '+' List.mem_cons_self) (by decide)
  · exact absurd (h '-' List.mem_cons_self) (by decide)
  · rfl

theorem integer?_eq_some {value : Int} : integer? text = some value ↔ Signed text value := by
  constructor
  · intro h
    unfold integer? at h
    split at h <;> obtain ⟨hne, hdigits, rfl⟩ := natural?_map_eq_some.mp h
    · exact .plus hne hdigits
    · exact .minus hne hdigits
    · exact .plain hne hdigits
  · intro h
    cases h with
    | plain hne hdigits =>
      rw [integer?_of_digits hdigits]
      exact natural?_map_eq_some.mpr ⟨hne, hdigits, rfl⟩
    | plus hne hdigits => exact natural?_map_eq_some.mpr ⟨hne, hdigits, rfl⟩
    | minus hne hdigits => exact natural?_map_eq_some.mpr ⟨hne, hdigits, rfl⟩

/-! ## Cuts -/

/-- A text is cut at a character in the class, or not at all. -/
theorem cutAt_cases (stop : Char → Bool) (text : List Char) :
    cutAt stop text = (text, none) ∨ ∃ front c behind, text = front ++ c :: behind ∧ stop c = true ∧
      cutAt stop text = (front, some behind) := by
  cases hdrop : text.dropWhile fun c => !stop c with
  | nil => exact .inl (by rw [cutAt, hdrop])
  | cons c behind =>
    have hsplit := List.takeWhile_append_dropWhile (p := fun c => !stop c) (l := text)
    have hstop := List.head?_dropWhile_not (fun c => !stop c) text
    rw [hdrop] at hsplit hstop
    refine .inr ⟨_, c, behind, hsplit.symm, ?_, by rw [cutAt, hdrop]⟩
    simpa using hstop

theorem cutAt_of_forall (h : ∀ c ∈ text, stop c = false) : cutAt stop text = (text, none) := by
  rcases cutAt_cases stop text with hcut | ⟨front, c, behind, rfl, hc, -⟩
  · exact hcut
  · exact absurd hc (by rw [h c (by simp)]; exact Bool.false_ne_true)

theorem cutAt_append {front behind : List Char} {c : Char} (h : ∀ d ∈ front, stop d = false)
    (hc : stop c = true) : cutAt stop (front ++ c :: behind) = (front, some behind) := by
  have hfront : ∀ d ∈ front, (!stop d) = true := fun d hd => by rw [h d hd]; rfl
  rw [cutAt, List.dropWhile_append_of_pos hfront, List.takeWhile_append_of_pos hfront]
  simp [hc]

/-! ## Taking notation apart -/

theorem isExponentMark_iff {c : Char} : isExponentMark c = true ↔ c = 'e' ∨ c = 'E' := by
  simp [isExponentMark]

theorem point_ne_of_isDigit {c : Char} (h : c.isDigit = true) : (c == '.') = false := by
  rw [beq_eq_false_iff_ne]
  rintro rfl
  cases h

theorem not_mark_of_isDigit {c : Char} (h : c.isDigit = true) : isExponentMark c = false := by
  rw [Bool.eq_false_iff, ne_eq, isExponentMark_iff]
  rintro (rfl | rfl) <;> cases h

/-- There is no exponent mark among digits and points. -/
theorem Mantissa.not_mark (h : Mantissa text whole fraction) :
    ∀ c ∈ text, isExponentMark c = false := by
  cases h with
  | plain _ hwhole => exact fun c hc => not_mark_of_isDigit (hwhole c hc)
  | point _ hwhole hfraction =>
    refine List.forall_mem_append.mpr ⟨fun c hc => not_mark_of_isDigit (hwhole c hc), ?_⟩
    exact List.forall_mem_cons.mpr ⟨rfl, fun c hc => not_mark_of_isDigit (hfraction c hc)⟩

/-- The cut at the point finds the digits in front of it and those behind it. -/
theorem mantissa_iff {whole' : List Char} {behind : Option (List Char)}
    (hcut : cutAt (· == '.') text = (whole', behind)) :
    Mantissa text whole fraction ↔ whole' = whole ∧ behind.getD [] = fraction ∧
      (whole ≠ [] ∨ fraction ≠ []) ∧ Digits whole ∧ Digits fraction := by
  constructor
  · intro h
    cases h with
    | plain hne hwhole =>
      rw [cutAt_of_forall fun c hc => point_ne_of_isDigit (hwhole c hc)] at hcut
      cases hcut
      exact ⟨rfl, rfl, .inl hne, hwhole, List.forall_mem_nil _⟩
    | point hne hwhole hfraction =>
      rw [cutAt_append (fun c hc => point_ne_of_isDigit (hwhole c hc)) rfl] at hcut
      cases hcut
      exact ⟨rfl, rfl, hne, hwhole, hfraction⟩
  · rintro ⟨rfl, rfl, hne, hwhole, hfraction⟩
    rcases cutAt_cases (· == '.') text with hnone | ⟨front, c, rest, rfl, hc, hsome⟩
    · rw [hnone] at hcut
      cases hcut
      exact .plain (by simpa using hne) hwhole
    · rw [hsome] at hcut
      cases hcut
      rw [beq_iff_eq] at hc
      subst hc
      exact .point hne hwhole hfraction

/-- The cut at the exponent mark finds the digits in front of it and the exponent behind it. -/
theorem Numeral.writes_iff {mantissa : List Char} {behind : Option (List Char)}
    (hcut : cutAt isExponentMark text = (mantissa, behind)) :
    n.Writes text ↔ Mantissa mantissa n.whole n.fraction ∧
      (behind = none ∧ n.exponent = 0 ∨ ∃ ending, behind = some ending ∧
        Signed ending n.exponent) := by
  constructor
  · rintro ⟨mantissa', ending, rfl, hmantissa, hending⟩
    generalize n.exponent = exponent at hending ⊢
    cases hending with
    | none =>
      rw [List.append_nil, cutAt_of_forall hmantissa.not_mark] at hcut
      cases hcut
      exact ⟨hmantissa, .inl ⟨rfl, rfl⟩⟩
    | exponent hmark hsigned =>
      rw [cutAt_append hmantissa.not_mark (isExponentMark_iff.mpr hmark)] at hcut
      cases hcut
      exact ⟨hmantissa, .inr ⟨_, rfl, hsigned⟩⟩
  · rintro ⟨hmantissa, hexponent⟩
    rcases cutAt_cases isExponentMark text with hnone | ⟨front, mark, rest, rfl, hmark, hsome⟩
    · rw [hnone] at hcut
      cases hcut
      obtain ⟨-, hzero⟩ | ⟨_, h, -⟩ := hexponent
      · exact ⟨text, [], (List.append_nil _).symm, hmantissa, hzero ▸ .none⟩
      · cases h
    · rw [hsome] at hcut
      cases hcut
      obtain ⟨h, -⟩ | ⟨_, h, hsigned⟩ := hexponent
      · cases h
      · cases h
        exact ⟨_, mark :: rest, rfl, hmantissa, .exponent (isExponentMark_iff.mp hmark) hsigned⟩

/-- **Reading takes apart exactly what is notation of a numeral.** -/
theorem Numeral.ofText?_eq_some : Numeral.ofText? text = some n ↔ n.Writes text := by
  obtain ⟨whole', fraction', exponent⟩ := n
  cases hcut : cutAt isExponentMark text with
  | mk mantissa behind =>
  cases hpoint : cutAt (· == '.') mantissa with
  | mk whole tail =>
  rw [writes_iff hcut, mantissa_iff hpoint, ofText?, hcut]
  dsimp only
  rw [hpoint]
  dsimp only
  rw [digits_iff_all, digits_iff_all]
  by_cases hform : (whole ≠ [] ∨ tail.getD [] ≠ []) ∧ whole.all Char.isDigit = true ∧
      (tail.getD []).all Char.isDigit = true
  · rw [if_pos hform]
    cases behind with
    | none => grind
    | some ending =>
      simp only [Option.map_eq_some_iff, integer?_eq_some]
      grind
  · rw [if_neg hform]
    constructor
    · nofun
    · rintro ⟨⟨rfl, rfl, hwritten⟩, -⟩
      exact absurd hwritten hform

/-! ## The value -/

/-- **The value is exact.** -/
theorem Numeral.value_eq (n : Numeral) :
    n.value = denotes (n.whole ++ n.fraction) * (10 : Rat) ^ n.scale := by
  rw [Numeral.value]
  simp only [natOfDigits_eq_denotes]
  by_cases hscale : 0 ≤ n.scale
  · have hpower : (10 : Rat) ^ n.scale = 10 ^ n.scale.natAbs := by
      rw [← zpow_natCast, Int.natAbs_of_nonneg hscale]
    rw [if_pos hscale, hpower, Rat.mkRat_eq_div]
    simp
  · have hpower : (10 : Rat) ^ n.scale = ((10 : Rat) ^ n.scale.natAbs)⁻¹ := by
      rw [← zpow_natCast, ← zpow_neg, Int.ofNat_natAbs_of_nonpos (by omega), neg_neg]
    rw [if_neg hscale, hpower, Rat.mkRat_eq_div, div_eq_mul_inv]
    simp

/-! ## Limits -/

/-- What is held in words on the way to the value of a numeral fits, and what is divided by is not
zero. -/
structure Numeral.InWords (n : Numeral) : Prop where
  exponent : FitsWord n.exponent
  length : FitsWord n.fraction.length
  scale : FitsWord n.scale
  power : Nat.pow 10 n.scale.natAbs ≠ 0

/-- The limit on the scale lies inside a word. -/
theorem fitsWord_of_le_maxScale {scale : Int} (h : scale.natAbs ≤ maxScale) : FitsWord scale := by
  unfold maxScale at h
  unfold FitsWord wordLimit
  omega

theorem Numeral.InRange.inWords (h : n.InRange) : n.InWords where
  exponent := h.1
  length := h.2.1
  scale := fitsWord_of_le_maxScale h.2.2
  power := Nat.pos_iff_ne_zero.mp (Nat.pow_pos (by decide))

theorem parse?_eq_some {value : Rat} :
    parse? text = some value ↔ ∃ n : Numeral, n.Writes text ∧ n.InRange ∧ value = n.value := by
  simp only [parse?, Option.bind_eq_some_iff, Numeral.ofText?_eq_some,
    Option.ite_none_right_eq_some, Option.some.injEq, eq_comm (a := value)]

/-- A text writes one numeral, and is refused unless that one is in range. -/
theorem Numeral.Writes.inRange_or (h : n.Writes text) : n.InRange ∨ parse? text = none := by
  rw [parse?, Numeral.ofText?_eq_some.mpr h, Option.bind_some]
  by_cases hrange : n.InRange
  · exact .inl hrange
  · exact .inr (if_neg hrange)

/-- **Decimal notation is read exactly.** A text has a value if and only if it is notation of a
numeral whose exponent and number of digits behind the point fit a word and whose scale keeps to the
limit. The value is that of all digits times ten to the scale, in lowest terms. Whatever the text,
no number leaves its word and no quotient has a zero denominator on the way to a value: a numeral of
which that cannot be said is refused. -/
theorem decimal_notation_exact (text : List Char) :
    (∀ value, parse? text = some value ↔ ∃ n : Numeral, n.Writes text ∧ FitsWord n.exponent ∧
      FitsWord n.fraction.length ∧ (n.exponent - n.fraction.length).natAbs ≤ 4096 ∧
      value = denotes (n.whole ++ n.fraction) * (10 : Rat) ^ (n.exponent - n.fraction.length)) ∧
    (∀ value, parse? text = some value → value.num.natAbs.Coprime value.den) ∧
    ∀ n : Numeral, n.Writes text → n.InWords ∨ parse? text = none := by
  refine ⟨fun value => ?_, fun value _ => value.reduced, fun n hn => ?_⟩
  · simp only [parse?_eq_some, Numeral.value_eq, Numeral.InRange, maxScale, Numeral.scale,
      and_assoc]
  · exact hn.inRange_or.imp_left Numeral.InRange.inWords

/-- The scale at its limit, and a scale that is no word although the exponent is one. -/
theorem decimal_notation_exact_at_limits :
    parse? ".5e4097".toList = some (5 * 10 ^ 4096) ∧
      parse? "0.1e-9223372036854775808".toList = none := by
  have hlimit : (⟨[], ['5'], 4097⟩ : Numeral).Writes ".5e4097".toList :=
    Numeral.ofText?_eq_some.mp (by decide)
  have hleast : (⟨['0'], ['1'], -9223372036854775808⟩ : Numeral).Writes
      "0.1e-9223372036854775808".toList := Numeral.ofText?_eq_some.mp (by decide)
  refine ⟨((decimal_notation_exact _).1 _).mpr ⟨_, hlimit, by decide, by decide, by decide, ?_⟩, ?_⟩
  · have hdigits : denotes ([] ++ ['5']) = 5 := by decide
    have hscale : (4097 : Int) - ['5'].length = (4096 : Nat) := by decide
    rw [hdigits, hscale, zpow_natCast, Nat.cast_ofNat]
  · refine ((decimal_notation_exact _).2.2 _ hleast).resolve_left fun h => ?_
    exact absurd h.scale (by decide)

end TwinSyntax.Decimal
