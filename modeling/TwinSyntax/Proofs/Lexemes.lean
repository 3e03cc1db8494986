import TwinSyntax.Token.Scan

/-!
# What scanning yields

A property of the items of a text need only be checked for one lexeme (`forall_mem_lexFrom`). No
lexeme is the end of the file (`kind_ne_endOfFile_of_mem_lex`), which a source yields only where its
text ends.
-/

namespace TwinSyntax

theorem forall_mem_push {P : TokenItem → Prop} {items : Array TokenItem} {item : TokenItem}
    (hitems : ∀ item ∈ items, P item) (hitem : P item) : ∀ item' ∈ items.push item, P item' := by
  intro item' hmem
  rcases Array.mem_push.mp hmem with hmem | rfl
  · exact hitems item' hmem
  · exact hitem

/-- What holds of every lexeme holds of every item of a text. -/
theorem forall_mem_lexFrom {P : TokenItem → Prop}
    (hitem : ∀ c text line column, P ((Lexeme.scan c text).item line column)) (line column : Nat)
    (text : List Char) (items : Array TokenItem) (hitems : ∀ item ∈ items, P item) :
    ∀ item ∈ (lexFrom line column text items).1, P item := by
  fun_induction lexFrom line column text items with
  | case1 => exact hitems
  | case2 _ _ _ _ _ _ ih => exact ih hitems
  | case3 line column items text _ _ _ ih => exact ih (forall_mem_push hitems (hitem _ _ _ _))
  | case4 line column items c text _ _ _ _ ih => exact ih (forall_mem_push hitems (hitem _ _ _ _))

namespace Lexeme

theorem number_ne_endOfFile (c : Char) (text : List Char) :
    (number c text).reading ≠ .ok .endOfFile := by
  show readNumber _ ≠ _
  unfold readNumber
  split
  · dsimp only
    split <;> simp
  · split <;> simp

theorem word_ne_endOfFile (c : Char) (text : List Char) :
    (word c text).reading ≠ .ok .endOfFile := by
  show Except.ok (TokenKind.ofWord _) ≠ _
  rw [TokenKind.ofWord, TokenKind.keywords]
  intro h
  have h := Except.ok.inj h
  cases hfind : List.find? _ _ with
  | none =>
    rw [hfind] at h
    cases h
  | some kind =>
    rw [hfind] at h
    obtain rfl : kind = .endOfFile := h
    have hmem := List.mem_of_find?_eq_some hfind
    simp at hmem

theorem operator_ne_endOfFile (c : Char) (text : List Char) :
    (operator c text).reading ≠ .ok .endOfFile := by
  have hsingle : single? c ≠ some .endOfFile := by
    unfold single?
    split <;> simp
  have hpaired : ∀ alone pair, paired? c = some (alone, pair) →
      alone ≠ .ok .endOfFile ∧ pair ≠ .endOfFile := by
    unfold paired?
    split <;> simp +contextual [eq_comm]
  unfold operator
  split
  · next kind hkind =>
    intro h
    exact hsingle (hkind.trans (congrArg some (Except.ok.inj h)))
  · next hpair =>
    intro h
    exact (hpaired _ _ hpair).2 (Except.ok.inj h)
  · next hpair _ => exact (hpaired _ _ hpair).1
  · simp

theorem scan_ne_endOfFile (c : Char) (text : List Char) :
    (scan c text).reading ≠ .ok .endOfFile := by
  unfold scan
  split
  · exact number_ne_endOfFile c text
  · split
    · exact word_ne_endOfFile c text
    · exact operator_ne_endOfFile c text

end Lexeme

/-- **The end of the file is not in the text.** -/
theorem kind_ne_endOfFile_of_mem_lex (text : String) (token : Token)
    (h : .ok token ∈ (lex text).items) : token.kind ≠ .endOfFile := by
  have hall :=
    forall_mem_lexFrom (P := fun item => ∀ token, item = .ok token → token.kind ≠ .endOfFile)
    (fun c text line column token hitem => ?_) 1 1 text.toList #[] (by simp)
  · exact hall (.ok token) (Array.mem_toList_iff.mp h) token rfl
  · rw [Lexeme.item] at hitem
    split at hitem
    · next kind hkind =>
      cases hitem
      rintro rfl
      exact Lexeme.scan_ne_endOfFile c text hkind
    · cases hitem

end TwinSyntax
