import Mathlib.Data.List.Nodup
import TwinSyntax.Proofs.Shapes

/-!
# What trees are written with

The compact form of a tree and its outline write kinds, values and places behind one another. All of
these can be read back, because each is a run of characters of one class and something outside of
that class stands behind it.

**Runs** (`run_inj`). If two texts start with runs of one class and both runs stop, then equal texts
have equal runs and the same text behind them. Every step of reading back is a case of this.

**Numbers** (`integer_inj`, `Rational.render_inj`), **values** (`Payload.render_inj`), **kinds**
(`Operand.name_inj`) and **places** (`Span.render_inj`) are determined by their texts. A value is
determined up to its kind only: `7` may be written for an integer and for a number.

**Names** (`PlainNames`). Names may hold anything if they do not come from a source text. What is
read back from between separators are trees whose names hold none.
-/

namespace TwinSyntax

/-! ## Runs -/

/-- No character of the class `among` comes next. -/
def Stopped (among : Char → Bool) (rest : List Char) : Prop := ∀ c ∈ rest.head?, among c = false

section Runs

variable {among : Char → Bool} {run run' rest rest' : List Char}

@[simp] theorem stopped_nil : Stopped among [] := nofun

@[simp] theorem stopped_cons {c : Char} : Stopped among (c :: rest) ↔ among c = false := by
  simp [Stopped]

theorem takeWhile_of_stopped (h : Stopped among rest) : rest.takeWhile among = [] := by
  cases rest with
  | nil => rfl
  | cons c rest => rw [List.takeWhile_cons, stopped_cons.mp h, if_neg Bool.false_ne_true]

/-- **Runs that stop can be told apart from what is behind them.** -/
theorem run_inj (hrun : ∀ c ∈ run, among c = true) (hrun' : ∀ c ∈ run', among c = true)
    (hrest : Stopped among rest) (hrest' : Stopped among rest') (h : run ++ rest = run' ++ rest') :
    run = run' ∧ rest = rest' := by
  have htaken := congrArg (List.takeWhile among) h
  rw [List.takeWhile_append_of_pos hrun, List.takeWhile_append_of_pos hrun',
    takeWhile_of_stopped hrest, takeWhile_of_stopped hrest', List.append_nil,
    List.append_nil] at htaken
  subst htaken
  exact ⟨rfl, List.append_cancel_left h⟩

end Runs

theorem toList_pushn (text : String) (c : Char) (count : Nat) :
    (text.pushn c count).toList = text.toList ++ List.replicate count c := by
  rw [String.pushn_eq_repeat_push]
  induction count with
  | zero => simp [Nat.repeat]
  | succ count ih =>
    rw [Nat.repeat, String.toList_push, ih, List.replicate_succ', List.append_assoc]

/-! ## Numbers -/

theorem toList_natural (n : Nat) : (toString n).toList = Nat.toDigits 10 n := by
  rw [Nat.toString_eq_ofList_toDigits, String.toList_ofList]

theorem isDigit_of_mem_natural {n : Nat} : ∀ c ∈ (toString n).toList, c.isDigit = true := by
  intro c hc
  rw [toList_natural] at hc
  exact Nat.isDigit_of_mem_toDigits (by decide) (by decide) hc

theorem natural_inj {m n : Nat} (h : (toString m).toList = (toString n).toList) : m = n := by
  rw [toList_natural, toList_natural] at h
  calc
    m = Nat.ofDigitChars 10 (Nat.toDigits 10 m) 0 := Nat.ofDigitChars_ten_toDigits.symm
    _ = n := by rw [h, Nat.ofDigitChars_ten_toDigits]

/-- Whether `c` may occur in an integer. -/
def isNumeral (c : Char) : Bool := c.isDigit || c == '-'

/-- An integer is written as its absolute value, and with a sign in front if it lies below zero. -/
theorem toList_integer (i : Int) : (toString i).toList =
    if 0 ≤ i then (toString i.toNat).toList else '-' :: (toString (-i).toNat).toList := by
  have htext : toString i = i.repr := rfl
  rw [htext, Int.repr_eq_if]
  split
  · rfl
  · rw [String.toList_append]
    rfl

theorem isNumeral_of_mem_integer {i : Int} : ∀ c ∈ (toString i).toList, isNumeral c = true := by
  have hdigits (n : Nat) : ∀ c ∈ (toString n).toList, isNumeral c = true := fun c hc => by
    rw [isNumeral, isDigit_of_mem_natural c hc, Bool.true_or]
  rw [toList_integer]
  split
  · exact hdigits _
  · exact List.forall_mem_cons.mpr ⟨rfl, hdigits _⟩

theorem natural_ne_minus {n : Nat} {rest : List Char} : (toString n).toList ≠ '-' :: rest := by
  intro h
  have hdigit := isDigit_of_mem_natural (n := n) '-' (h ▸ List.mem_cons_self)
  cases hdigit

theorem integer_inj {i j : Int} (h : (toString i).toList = (toString j).toList) : i = j := by
  rw [toList_integer, toList_integer] at h
  split at h <;> split at h
  · have := natural_inj h
    omega
  · exact absurd h natural_ne_minus
  · exact absurd h.symm natural_ne_minus
  · have := natural_inj (List.cons.inj h).2
    omega

/-- What stands behind the numerator of a number. -/
def Rational.tail (r : Rat) : List Char := if r.den = 1 then [] else '/' :: (toString r.den).toList

theorem Rational.toList_render (r : Rat) :
    (Rational.render r).toList = (toString r.num).toList ++ Rational.tail r := by
  rw [Rational.render, Rational.tail]
  split
  · rw [List.append_nil]
  · rw [String.toList_append, String.toList_append, List.append_assoc]
    rfl

theorem Rational.stopped_tail (r : Rat) : Stopped isNumeral (Rational.tail r) := by
  rw [Rational.tail]
  split
  · exact stopped_nil
  · exact stopped_cons.mpr rfl

theorem Rational.tail_inj {r s : Rat} (h : Rational.tail r = Rational.tail s) : r.den = s.den := by
  rw [Rational.tail, Rational.tail] at h
  split at h <;> split at h
  · next hr hs => rw [hr, hs]
  · cases h
  · cases h
  · exact natural_inj (List.cons.inj h).2

theorem Rational.render_inj {r s : Rat} (h : Rational.render r = Rational.render s) : r = s := by
  have htexts := congrArg String.toList h
  rw [Rational.toList_render, Rational.toList_render] at htexts
  obtain ⟨hnum, htail⟩ := run_inj isNumeral_of_mem_integer isNumeral_of_mem_integer
    (Rational.stopped_tail r) (Rational.stopped_tail s) htexts
  exact Rat.ext (integer_inj hnum) (Rational.tail_inj htail)

/-! ## Values -/

namespace Payload

/-- A name is made of letters, digits and underscores. -/
def Plain : Payload → Prop
  | identifier name => ∀ c ∈ name.toList, Lexeme.continuesWord c = true
  | integer _ | number _ => True

/-- Whether `c` may occur in a value. -/
def isPlain (c : Char) : Bool := Lexeme.continuesWord c || c == '-' || c == '/'

theorem isPlain_of_isDigit {c : Char} (h : c.isDigit = true) : isPlain c = true := by
  simp [isPlain, Lexeme.continuesWord, Char.isAlphanum, h]

theorem isPlain_of_isNumeral {c : Char} (h : isNumeral c = true) : isPlain c = true := by
  rcases Bool.or_eq_true_iff.mp h with hdigit | hsign
  · exact isPlain_of_isDigit hdigit
  · simp [isPlain, hsign]

theorem isPlain_of_mem_render {value : Payload} (h : value.Plain) :
    ∀ c ∈ value.render.toList, isPlain c = true := by
  cases value with
  | integer i => exact fun c hc => isPlain_of_isNumeral (isNumeral_of_mem_integer c hc)
  | number r =>
    rw [render, Rational.toList_render, Rational.tail]
    refine List.forall_mem_append.mpr
      ⟨fun c hc => isPlain_of_isNumeral (isNumeral_of_mem_integer c hc), ?_⟩
    split
    · exact List.forall_mem_nil _
    · exact List.forall_mem_cons.mpr
        ⟨rfl, fun c hc => isPlain_of_isDigit (isDigit_of_mem_natural c hc)⟩
  | identifier name =>
    intro c hc
    rw [isPlain, h c hc]
    rfl

/-- **Values of one kind** are determined by their texts. -/
theorem render_inj {value value' : Payload} (hkind : value.kind = value'.kind)
    (h : value.render = value'.render) : value = value' := by
  cases value with
  | integer i =>
    cases value' with
    | integer j => exact congrArg integer (integer_inj (congrArg String.toList h))
    | number | identifier => cases hkind
  | number r =>
    cases value' with
    | number s => exact congrArg number (Rational.render_inj h)
    | integer | identifier => cases hkind
  | identifier name =>
    cases value' with
    | identifier name' => exact congrArg identifier h
    | integer | number => cases hkind

end Payload

/-! ## Kinds -/

namespace Operand

theorem mem_all (kind : Operand) : kind ∈ all := by
  cases kind with
  | relation rel => cases rel <;> decide
  | arithmetic op => cases op <;> decide
  | _ => decide

theorem isAlpha_of_mem_name {kind : Operand} : ∀ c ∈ kind.name.toList, c.isAlpha = true := by
  have hall : ∀ kind ∈ all, kind.name.toList.all Char.isAlpha = true := by decide +kernel
  exact List.all_eq_true.mp (hall kind (mem_all kind))

/-- **Kinds have different names.** -/
theorem name_inj {kind kind' : Operand} (h : kind.name = kind'.name) : kind = kind' := by
  have hnodup : (all.map name).Nodup := by decide +kernel
  exact List.inj_on_of_nodup_map hnodup (mem_all kind) (mem_all kind') h

end Operand

/-! ## Places -/

/-- **A span is determined by its text.** -/
theorem Span.render_inj {span span' : Span} (h : span.render = span'.render) : span = span' := by
  obtain ⟨line, first, last⟩ := span
  obtain ⟨line', first', last'⟩ := span'
  have hwritten (line first last : Nat) : (Span.render ⟨line, first, last⟩).toList =
      "line ".toList ++ ((toString line).toList ++ ',' :: ((toString first).toList ++
        '-' :: (toString last).toList)) := by
    simp [Span.render]
  have htexts := congrArg String.toList h
  rw [hwritten, hwritten] at htexts
  obtain ⟨hline, hcolumns⟩ := run_inj isDigit_of_mem_natural isDigit_of_mem_natural
    (stopped_cons.mpr rfl) (stopped_cons.mpr rfl) (List.append_cancel_left htexts)
  obtain ⟨hfirst, hlast⟩ := run_inj isDigit_of_mem_natural isDigit_of_mem_natural
    (stopped_cons.mpr rfl) (stopped_cons.mpr rfl) (List.cons.inj hcolumns).2
  rw [natural_inj hline, natural_inj hfirst, natural_inj (List.cons.inj hlast).2]

/-! ## Names -/

namespace Node

/-- Every name in the tree is made of letters, digits and underscores, as the names in a source text
are. -/
def PlainNames (tree : Node) : Prop :=
  ∀ n : Node, n.Within tree → ∀ value : Payload, n.payload? = some value → value.Plain

variable {n : Node}

theorem PlainNames.child (h : n.PlainNames) {child : Node} (hchild : child ∈ n.children) :
    child.PlainNames :=
  fun _ hwithin => h _ (.deeper hchild hwithin)

theorem PlainNames.payload (h : n.PlainNames) {value : Payload} (hvalue : n.payload? = some value) :
    value.Plain := h n .root value hvalue

theorem plainNames_of_parts (hvalue : ∀ value : Payload, n.payload? = some value → value.Plain)
    (hchildren : ∀ child ∈ n.children, child.PlainNames) : n.PlainNames := by
  intro m hwithin
  cases hwithin with
  | root => exact hvalue
  | deeper hchild hwithin => exact hchildren _ hchild m hwithin

theorem plainNames_leaf {value : Payload} {origin : Location} :
    (leaf value origin).PlainNames ↔ value.Plain :=
  ⟨fun h => h.payload rfl, fun h => plainNames_of_parts (by rintro _ ⟨⟩; exact h) nofun⟩

end Node

end TwinSyntax
