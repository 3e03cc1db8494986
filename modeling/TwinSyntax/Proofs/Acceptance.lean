import TwinSyntax.Proofs.Run

/-!
# Acceptance

**Theorem (`accepts_exactly_programs`).** Reading a source of tokens gives a tree and no diagnostics
if and only if the tokens that the grammar sees are a program that opens at most `maxNesting` levels
at once. The tree is then the one that the derivation builds, locations included.

Both directions look at the run without room for diagnostics. A source may hold anything behind its
first end of the file but a lexical error, which the last step of a run would meet.
-/

namespace TwinSyntax

open Grammar Phrases

variable {surface : Surface} {source : TokenSource} {tree : Node}

/-- What a reader starts in front of is what is seen of the source. -/
theorem strict_ahead {reader : Reader}
    (hpull : pull surface source.endSpan source.items =
      (.ok reader.state.current, reader.state.unread)) :
    reader.strict.ahead (source.setting surface) = seen surface source.items := by
  rw [seen_of_pull hpull]
  rfl

theorem strict_fault? {reader : Reader}
    (hpull : pull surface source.endSpan source.items =
      (.ok reader.state.current, reader.state.unread)) :
    reader.strict.fault? = fault? source.items := by
  rw [fault?_of_pull hpull]
  rfl

/-- **Only programs have trees**, whatever stands behind the first end of the file. -/
theorem program_of_tree? {reader : Reader} (hstart : Reader.start surface source = .ok reader)
    (htree : reader.program.1.tree? = some tree) :
    fault? source.items = none ∧
      ∃ body, Program (source.setting surface) maxNesting (seen surface source.items) body ∧
        tree = .program (source.locate ⟨1, 1, 1⟩) body := by
  rcases Reader.start_cases surface source with
      ⟨reader', hstart', hsetting, hdiagnostics, hpoised, hpull⟩ | ⟨e, rest, hstart', -⟩
  · rw [hstart] at hstart'
    cases hstart'
    rcases reader.program_cases hdiagnostics with
        ⟨body, t, hrun, hprogram⟩ | ⟨e, t, more, -, hprogram⟩
    · rw [hprogram] at htree
      rw [hsetting] at hrun
      have hverdict := @verdict_wholeFile (source.setting surface) _ hpoised.toReady
      rw [hrun] at hverdict
      cases hverdict with
      | accepted hbody hfault =>
        rw [strict_ahead hpull] at hbody
        rw [strict_fault? hpull] at hfault
        have hlocate : reader.locate = source.locate := congrArg Setting.locate hsetting
        rw [← hlocate]
        exact ⟨hfault, body, hbody, (Option.some.inj htree).symm⟩
    · rw [hprogram] at htree
      cases htree
  · rw [hstart] at hstart'
    cases hstart'

/-- A source without lexical errors is read to its end, if what is seen of it is a program. -/
theorem wholeFile_of_program {levels : Nat} {body : Node} {reader : Reader}
    (hclean : ∀ e, .error e ∉ source.items) (hpoised : Poised maxNesting reader.strict)
    (hpull : pull surface source.endSpan source.items =
      (.ok reader.state.current, reader.state.unread))
    (h : Program (source.setting surface) levels (seen surface source.items) body) :
    ∃ t, Leads (maxNesting < levels) (wholeFile (source.setting surface) reader.strict)
      (.ok body t) := by
  have hsuffix := pull_suffix surface source.endSpan source.items
  rw [hpull] at hsuffix
  rw [← strict_ahead hpull] at h
  exact leads_program h hpoised .nil fun e he => hclean e (hsuffix.subset he)

/-- **Programs have trees**, in a source without lexical errors. -/
theorem tree_of_program {body : Node} (hclean : ∀ e, .error e ∉ source.items)
    (h : Program (source.setting surface) maxNesting (seen surface source.items) body) :
    ∃ reader, Reader.start surface source = .ok reader ∧
      reader.program.1 = ⟨some (.program (source.locate ⟨1, 1, 1⟩) body), []⟩ := by
  rcases Reader.start_cases surface source with
      ⟨reader, hstart, hsetting, hdiagnostics, hpoised, hpull⟩ | ⟨e, rest, -, hpull⟩
  · refine ⟨reader, hstart, ?_⟩
    rcases wholeFile_of_program hclean hpoised hpull h with ⟨t, hrun | ⟨hdeep, -⟩⟩
    · rw [← hsetting] at hrun
      have hlocate : reader.locate = source.locate := congrArg Setting.locate hsetting
      rcases reader.program_cases hdiagnostics with
          ⟨body', t', hrun', hprogram⟩ | ⟨e, t', more, hrun', -⟩
      · rw [hrun] at hrun'
        cases hrun'
        rw [hprogram, hlocate]
      · rw [hrun] at hrun'
        cases hrun'
    · exact absurd hdeep (Nat.lt_irrefl _)
  · exact absurd (mem_of_pull_error hpull) (hclean e)

theorem seen_map {tokens ends : List Token} (htokens : ∀ token ∈ tokens, token.kind ≠ .endOfFile)
    (hends : ∀ token ∈ ends, token.kind = .endOfFile) :
    seen surface ((tokens ++ ends).map .ok) =
      tokens.filter fun token => ¬ surface.Ignores token.kind := by
  induction tokens with
  | nil =>
    cases ends with
    | nil => rfl
    | cons ending ends => exact if_pos (hends ending List.mem_cons_self)
  | cons token tokens ih =>
    rw [List.forall_mem_cons] at htokens
    rw [List.cons_append, List.map_cons, seen, if_neg htokens.1, ih htokens.2, List.filter_cons]
    by_cases hskip : surface.Ignores token.kind <;> simp [hskip]

/-- **The parser accepts exactly its grammar.** The tokens in front of the end of the file, without
those that stand for nothing, are a program, or there is no tree. -/
theorem accepts_exactly_programs (surface : Surface) (source : TokenSource)
    (tokens ends : List Token) (hitems : source.items = (tokens ++ ends).map .ok)
    (htokens : ∀ token ∈ tokens, token.kind ≠ .endOfFile)
    (hends : ∀ token ∈ ends, token.kind = .endOfFile) (tree : Node) :
    (∃ reader, Reader.start surface source = .ok reader ∧ reader.program.1 = ⟨some tree, []⟩) ↔
      ∃ body, Program (source.setting surface) maxNesting
          (tokens.filter fun token => ¬ surface.Ignores token.kind) body ∧
        tree = .program (source.locate ⟨1, 1, 1⟩) body := by
  have hclean : ∀ e, .error e ∉ source.items := hitems ▸ error_not_mem_map _
  rw [← @seen_map surface _ _ htokens hends, ← hitems]
  constructor
  · rintro ⟨reader, hstart, hprogram⟩
    exact (program_of_tree? hstart (by rw [hprogram])).2
  · rintro ⟨body, hbody, rfl⟩
    exact tree_of_program hclean hbody

/-- Reading `- a - b * c ;` with a line break in the middle. The product is the right operand of the
difference, the negation the left one, and the end is given as a token. -/
theorem accepts_product_in_difference :
    let negation : Token := ⟨.minus, ⟨1, 1, 2⟩⟩
    let a : Token := ⟨.identifier "a", ⟨1, 3, 4⟩⟩
    let minus : Token := ⟨.minus, ⟨1, 5, 6⟩⟩
    let lineBreak : Token := ⟨.endOfLine, ⟨1, 6, 7⟩⟩
    let b : Token := ⟨.identifier "b", ⟨2, 1, 2⟩⟩
    let star : Token := ⟨.star, ⟨2, 3, 4⟩⟩
    let c : Token := ⟨.identifier "c", ⟨2, 5, 6⟩⟩
    let semicolon : Token := ⟨.semicolon, ⟨2, 7, 8⟩⟩
    let ending : Token := ⟨.endOfFile, ⟨2, 8, 8⟩⟩
    let locate : Span → Location := fun span => ⟨span, if span.line = 1 then "- a -" else "b * c ;"⟩
    let leaf : String → Token → Node := fun name token =>
      .leaf (.identifier name) (locate token.span)
    let source : TokenSource :=
      ⟨[negation, a, minus, lineBreak, b, star, c, semicolon, ending].map .ok, ⟨2, 8, 8⟩, locate⟩
    ∃ reader, Reader.start .sml source = .ok reader ∧ reader.program.1 = ⟨some (.program
      (locate ⟨1, 1, 1⟩) (.arithmetic .sub (locate minus.span)
        (.negate (locate negation.span) (leaf "a" a))
        (.arithmetic .mul (locate star.span) (leaf "b" b) (leaf "c" c)))), []⟩ := by
  intro negation a minus lineBreak b star c semicolon ending locate leaf source
  refine (accepts_exactly_programs .sml source
    [negation, a, minus, lineBreak, b, star, c, semicolon] [ending] rfl (by decide)
    (by decide) _).mpr ⟨_, ?_, rfl⟩
  have hname {least levels : Nat} {name : String} {token : Token}
      (h : token.kind = .identifier name) :
      Expression (source.setting .sml) least levels [token] (leaf name token) := .leaf h
  have hproduct : Expression (source.setting .sml) 2 maxNesting ([b] ++ star :: [c])
      (.arithmetic .mul (locate star.span) (leaf "b" b) (leaf "c" c)) :=
    .binary (hname rfl) rfl (by decide) (hname rfl)
  have hvalue : Expression (source.setting .sml) 0 maxNesting
      ([negation, a] ++ minus :: ([b] ++ star :: [c])) (.arithmetic .sub (locate minus.span) _ _) :=
    .binary (.negate rfl (hname rfl)) rfl (by decide) hproduct
  exact .some (.first (.ofStatement (.expression hvalue (.taken rfl))))

end TwinSyntax
