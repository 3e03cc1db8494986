import TwinSyntax.Proofs.Joining
import TwinSyntax.Proofs.LeftmostError
import TwinSyntax.Proofs.LineBreaks

/-!
# Compiling one text behind another

**Theorem (`compile_append`).** If two texts compile, and the first one is made of whole lines, then
both together compile. The statements are those of the one and then those of the other, further
down.

The tokens of the whole are those of the one and then those of the other (`seen_append`), so the
programs that they are can be joined (`Program.append`).
-/

namespace TwinSyntax

open Grammar Phrases

variable {surface : Surface} {first second source : String} {tree : Node} {lines : Array String}

/-! ## What compiles is a program -/

/-- What compiles has no lexical errors, and its tokens are a program. -/
theorem program_of_compile (h : compile surface source = .ok (tree, lines)) :
    lines = sourceLines source ∧ (∀ e, .error e ∉ (lex source).items) ∧
      ∃ body, Program ((lex source).setting surface) maxNesting
          (seen surface (lex source).items) body ∧
        tree = .program (locate (sourceLines source) ⟨1, 1, 1⟩) body := by
  obtain ⟨hlines, reader, hstart, htree⟩ := compile_eq_ok h
  obtain ⟨hfault, hprogram⟩ := program_of_tree? hstart htree
  have hendless : Endless (lex source).items := kind_ne_endOfFile_of_mem_lex source
  exact ⟨hlines, hendless.clean hfault, hprogram⟩

/-- A program without lexical errors compiles. -/
theorem compile_of_program {body : Node} (hclean : ∀ e, .error e ∉ (lex source).items)
    (h : Program ((lex source).setting surface) maxNesting (seen surface (lex source).items) body) :
    compile surface source =
      .ok (.program (locate (sourceLines source) ⟨1, 1, 1⟩) body, sourceLines source) := by
  obtain ⟨reader, hstart, hprogram⟩ := tree_of_program hclean h
  rw [compile, parse, hstart]
  dsimp only
  rw [hprogram]
  rfl

/-! ## Tokens -/

/-- What is seen of items behind others, if none of these hides them. -/
theorem seen_append {items items' : List TokenItem} (hclean : ∀ e, .error e ∉ items)
    (hendless : Endless items) :
    seen surface (items ++ items') = seen surface items ++ seen surface items' := by
  induction items with
  | nil => rfl
  | cons item items ih =>
    cases item with
    | error e => exact absurd List.mem_cons_self (hclean e)
    | ok token =>
      have ih := ih (fun e he => hclean e (List.mem_cons_of_mem _ he))
        (hendless.suffix (List.suffix_cons _ items))
      rw [List.cons_append, seen, seen, if_neg (hendless _ List.mem_cons_self),
        if_neg (hendless _ List.mem_cons_self), ih]
      split <;> rfl

theorem seen_lower (count : Nat) (items : List TokenItem) :
    seen surface (items.map (TokenItem.lower count)) =
      (seen surface items).map (Token.lower count) := by
  induction items with
  | nil => rfl
  | cons item items ih =>
    cases item with
    | error e => rfl
    | ok token =>
      rw [List.map_cons, TokenItem.lower, seen, seen, ih]
      have hkind : (token.lower count).kind = token.kind := rfl
      rw [hkind]
      split
      · rfl
      · split <;> rfl

/-- Where line breaks end statements, whole lines end them. -/
theorem WholeLines.ended (h : WholeLines first) (hclean : ∀ e, .error e ∉ (lex first).items) :
    Ended surface (seen surface (lex first).items) := by
  intro token hsurface hlast
  subst hsurface
  rcases h.cases with rfl | ⟨text, htext⟩
  · have hnone : seen .myrmidon (lex "").items = [] := by decide +kernel
    rw [hnone] at hlast
    cases hlast
  · have hendless : Endless (lex first).items := kind_ne_endOfFile_of_mem_lex first
    have hitems := items_of_break htext
    rw [hitems] at hclean hendless hlast
    have hclean' : ∀ e, .error e ∉ (lexText text).1 :=
      fun e he => hclean e (List.mem_append_left _ he)
    have hendless' : Endless (lexText text).1 := fun token htoken =>
      hendless token (List.mem_append_left _ htoken)
    have hbreak : seen .myrmidon [.ok (breakAt (spanAfter text []))] =
        [breakAt (spanAfter text [])] := rfl
    rw [seen_append hclean' hendless', hbreak, List.getLast?_concat] at hlast
    exact congrArg Token.kind (Option.some.inj hlast).symm

/-! ## Both texts -/

section Both

variable (hfirst : WholeLines first)
include hfirst

/-- The program of the upper text, where it is in the whole. -/
theorem WholeLines.program_upper (second : String) {body : Node}
    (h : Program ((lex first).setting surface) maxNesting (seen surface (lex first).items) body) :
    Program ((lex (first ++ second)).setting surface) maxNesting (seen surface (lex first).items)
      body := by
  have hkind : ∀ token : Token, (id token).kind = token.kind := fun _ => rfl
  have hmoves : ∀ token ∈ seen surface (lex first).items, Moves ((lex first).setting surface)
      ((lex (first ++ second)).setting surface) id id token := by
    intro token htoken
    exact hfirst.locate_upper second (hfirst.line_le (mem_of_mem_seen htoken))
  have hmoved := h.relocate hkind hmoves rfl
  rw [List.map_id, Node.relocate_id] at hmoved
  exact hmoved

/-- The program of the lower text, where it is in the whole. -/
theorem WholeLines.program_lower {body : Node}
    (h : Program ((lex second).setting surface) maxNesting (seen surface (lex second).items) body) :
    Program ((lex (first ++ second)).setting surface) maxNesting
      ((seen surface (lex second).items).map (Token.lower (breaks first)))
      (body.relocate (Location.lower (breaks first))) := by
  have hkind : ∀ token : Token, (token.lower (breaks first)).kind = token.kind := fun _ => rfl
  refine h.relocate hkind ?_ rfl
  intro token htoken
  exact hfirst.locate_lower second (line_of_mem_lex (mem_of_mem_seen htoken))

end Both

/-- **Compilation is compositional.** If two texts compile and the first one is made of whole lines,
then both together compile. The statements are those of the first text and, as many lines further
down as that has, those of the second. The last line of the first text, which is empty, is not a
line of the whole, where the lines of the second take its place. -/
theorem compile_append {tree₁ tree₂ : Node} {lines₁ lines₂ : Array String}
    (hfirst : WholeLines first) (h₁ : compile surface first = .ok (tree₁, lines₁))
    (h₂ : compile surface second = .ok (tree₂, lines₂)) :
    lines₁.back? = some "" ∧
    ∃ tree, compile surface (first ++ second) = .ok (tree, lines₁.pop ++ lines₂) ∧
      tree.statements = tree₁.statements ++
        tree₂.statements.map (Node.relocate (Location.lower (breaks first))) := by
  obtain ⟨rfl, hclean₁, body₁, hprogram₁, rfl⟩ := program_of_compile h₁
  obtain ⟨rfl, hclean₂, body₂, hprogram₂, rfl⟩ := program_of_compile h₂
  obtain ⟨hitems, -⟩ := hfirst.lex_append second
  obtain ⟨hlast, hlines⟩ := hfirst.sourceLines_append second
  have hseen : seen surface (lex (first ++ second)).items = seen surface (lex first).items ++
      (seen surface (lex second).items).map (Token.lower (breaks first)) := by
    rw [hitems, seen_append hclean₁ (kind_ne_endOfFile_of_mem_lex first), seen_lower]
  have hclean : ∀ e, .error e ∉ (lex (first ++ second)).items := by
    intro e he
    rw [hitems] at he
    rcases List.mem_append.mp he with he | he
    · exact hclean₁ e he
    · obtain ⟨item, hitem, hlower⟩ := List.mem_map.mp he
      cases item with
      | ok token => cases hlower
      | error e' => exact hclean₂ e' hitem
  obtain ⟨joined, hjoined, hstatements⟩ := (hfirst.program_upper second hprogram₁).append
    (hfirst.ended hclean₁) (hfirst.program_lower hprogram₂)
  rw [← hseen] at hjoined
  refine ⟨hlast, .program (locate (sourceLines (first ++ second)) ⟨1, 1, 1⟩) joined, ?_, ?_⟩
  · rw [compile_of_program hclean hjoined, hlines]
  · rw [Node.statements_program, Node.statements_program, Node.statements_program, hstatements,
      Node.statements_relocate]

/-- A conditional in front of a minus sign, where the first text could have gone on. -/
theorem compile_append_of_conditional :
    let upper := "if a < 1 b\n"
    let lower := "\n-c"
    ∃ tree₁ lines₁ tree₂ lines₂ tree, compile .myrmidon upper = .ok (tree₁, lines₁) ∧
      compile .myrmidon lower = .ok (tree₂, lines₂) ∧
      compile .myrmidon (upper ++ lower) = .ok (tree, lines₁.pop ++ lines₂) ∧
      tree.statements =
        tree₁.statements ++ tree₂.statements.map (Node.relocate (Location.lower 1)) := by
  intro upper lower
  have hrun₁ : (compile .myrmidon upper).toOption.isSome := by decide +kernel
  have hrun₂ : (compile .myrmidon lower).toOption.isSome := by decide +kernel
  have hbreaks : breaks upper = 1 := by decide +kernel
  cases h₁ : compile .myrmidon upper with
  | error e =>
    rw [h₁] at hrun₁
    cases hrun₁
  | ok result₁ =>
    cases h₂ : compile .myrmidon lower with
    | error e =>
      rw [h₂] at hrun₂
      cases hrun₂
    | ok result₂ =>
      obtain ⟨-, tree, htree, hstatements⟩ := compile_append (.inr (by decide +kernel)) h₁ h₂
      rw [hbreaks] at hstatements
      exact ⟨_, _, _, _, tree, rfl, rfl, htree, hstatements⟩

end TwinSyntax
