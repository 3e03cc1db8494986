import TwinSyntax.Proofs.Acceptance
import TwinSyntax.Proofs.Frame
import TwinSyntax.Proofs.Lexemes
import TwinSyntax.Session

/-!
# The reported error is the leftmost one

**Theorem (`compile_error_leftmost`).** If a text does not compile, and not because of its nesting,
the error that is reported is the first thing that is wrong with it. The tokens before the blamed
one can be completed to a program, and with it they cannot.

That the tokens before it are viable is part of soundness. That those with the blamed one are not
is completeness, in another source (`refused_not_viable`): if a program went on from the blamed
token, the same run over that program would have to read it. But a run that stops at a token has not
seen what is behind, so it fails there as well.
-/

namespace TwinSyntax

open Grammar Phrases

namespace Phrases

variable {g : Setting} {word : List Token}

/-- `word` can be extended to a program, with any number of levels. -/
def ViableProgram (g : Setting) (word : List Token) : Prop :=
  ∃ rest levels body, Program g levels (word ++ rest) body

theorem Viable.program (h : Viable g .statements word) : ViableProgram g word := by
  obtain ⟨rest, levels, body, h⟩ := h
  exact ⟨rest, levels, body, h .endOfFile (by simp)⟩

theorem ViableProgram.ne_endOfFile (h : ViableProgram g word) :
    ∀ token ∈ word, token.kind ≠ .endOfFile := by
  obtain ⟨rest, levels, body, h⟩ := h
  intro token htoken
  exact (Derives.ordinary h token (List.mem_append_left rest htoken)).1

end Phrases

namespace Grammar

variable {g : Setting} {s s' t : Reading} {word : List Token}

/-! ## The same run over another source -/

theorem Path.moved (h : Path g s word t) (hs : s.Roomy) {taken rest : List TokenItem} {n : Nat}
    (htaken : s.unread = taken ++ t.unread) (hend : ¬ t.Ended)
    (hroom : (s.moved (taken ++ rest) n).Roomy) :
    Path g (s.moved (taken ++ rest) n) word (t.moved rest n) := by
  induction h generalizing taken with
  | nil =>
    obtain rfl := append_right_eq_self htaken
    exact .nil
  | @cons s t₁ t word hadv hrest ih =>
    have hlater := Composed.advance.later_of_ok hadv
    obtain ⟨taken₁, taken₂, rfl, htaken₁, htaken₂⟩ := hlater.split_unread hrest.later htaken
    rw [List.append_assoc] at hroom ⊢
    have hmoved := @framed_advance g s taken₁ (taken₂ ++ rest) n hs hroom
      (by rw [hadv]; exact fun hended => hend (hrest.later.ended hended))
      (by rw [hadv]; exact htaken₁)
    rw [hadv] at hmoved
    refine @Path.cons g (s.moved _ n) (t₁.moved _ n) _ _ hmoved ?_
    exact ih (hlater.roomy hs) htaken₂ hend ((Composed.advance.later_of_ok hmoved).roomy hroom)

/-- **No program goes on from a token that is refused**, if its nesting is not the reason. -/
theorem refused_not_viable (hs : Poised maxNesting s) (hpath : Path g s word t)
    (hend : t.current.kind ≠ .endOfFile) {fault : SyntaxFault} {depth : Nat}
    (hrun : wholeFile g s = .error (.grammatical ⟨t.current.span, fault⟩) { t with depth })
    (hfault : fault ≠ .nestingTooDeep) : ¬ ViableProgram g (word ++ [t.current]) := by
  rintro ⟨rest, levels, body, hprogram⟩
  rw [List.append_assoc, List.singleton_append] at hprogram
  obtain ⟨taken, htaken⟩ := hpath.later.unread
  -- The source in which the program goes on, and room for a run over it.
  let items : List TokenItem := rest.map .ok
  let n := (taken ++ items).length + 2
  let s₂ := s.moved (taken ++ items) n
  let t₂ := t.moved items n
  have hroom : s₂.Roomy := Nat.lt_succ_of_le s₂.remaining_le
  have hs₂ : Poised maxNesting s₂ := ⟨⟨hs.strict, hroom⟩, hs.depth⟩
  have hpath₂ : Path g s₂ word t₂ :=
    hpath.moved hs.roomy htaken.symm (fun hended => hend hended.1) hroom
  have hordinary := Derives.ordinary hprogram
  rw [List.forall_mem_append, List.forall_mem_cons] at hordinary
  have hahead : t₂.ahead g = t.current :: rest := by
    have ht₂ : t₂.current.kind ≠ .endOfFile := hend
    rw [Reading.ahead_of_ne ht₂]
    exact congrArg _ (seen_ordinary hordinary.2.2)
  -- The run over the program has to read it.
  have hread : ∃ u, Leads (maxNesting < levels) (wholeFile g s₂) (.ok body u) := by
    rw [← hahead] at hprogram
    exact leads_program hprogram hs₂ hpath₂ (error_not_mem_map rest)
  -- But it stops where the run over the other source does.
  have hmoved := @Composed.framed g _ _ (planWholeFile g).composed s taken items n hs.roomy hroom
    (by rw [hrun]; exact fun hended => hend hended.1) (by rw [hrun]; exact htaken.symm)
  rw [hrun] at hmoved
  rcases hread with ⟨u, hok | ⟨-, span, v, hdeep⟩⟩
  · rw [hok] at hmoved
    cases hmoved
  · rw [hdeep] at hmoved
    cases hmoved
    exact hfault rfl

/-! ## The end of the file -/

/-- A source in which the end of the file is no token. -/
def Endless (items : List TokenItem) : Prop :=
  ∀ token, .ok token ∈ items → token.kind ≠ .endOfFile

theorem Endless.suffix {items items' : List TokenItem} (h : Endless items)
    (hle : items' <:+ items) : Endless items' := fun token htoken => h token (hle.subset htoken)

/-- The end of the file is pulled where such a source ends. -/
theorem Endless.pull_end {surface : Surface} {endSpan : Span} {items rest : List TokenItem}
    {next : Token} (h : Endless items) (hpull : pull surface endSpan items = (.ok next, rest))
    (hend : next.kind = .endOfFile) : next.span = endSpan ∧ rest = [] := by
  induction items with
  | nil =>
    cases hpull
    exact ⟨rfl, rfl⟩
  | cons item items ih =>
    cases item with
    | error e => cases hpull
    | ok token =>
      rw [pull] at hpull
      split at hpull
      · exact ih (h.suffix (List.suffix_cons _ items)) hpull
      · cases hpull
        exact absurd hend (h _ List.mem_cons_self)

/-- Without a fault in front of the end of the file, there is no fault. -/
theorem Endless.clean {items : List TokenItem} (h : Endless items) (hfault : fault? items = none) :
    ∀ e, .error e ∉ items := by
  induction items with
  | nil => simp
  | cons item items ih =>
    cases item with
    | error e => cases hfault
    | ok token =>
      rw [fault?, if_neg (h _ List.mem_cons_self)] at hfault
      intro e he
      rcases List.mem_cons.mp he with he | he
      · cases he
      · exact ih (h.suffix (List.suffix_cons _ items)) hfault e he

/-- Where the current token is the end of the file, it has the span of the end, and nothing is
left. -/
def Reading.AtEnd (g : Setting) (s : Reading) : Prop :=
  s.current.kind = .endOfFile → s.current.span = g.endSpan ∧ s.unread = []

theorem Path.atEnd (h : Path g s word t) (hs : s.AtEnd g) (hitems : Endless s.unread) :
    t.AtEnd g := by
  induction h with
  | nil => exact hs
  | cons hadv _ ih =>
    obtain ⟨next, rest, hpull, -, rfl⟩ := advance_eq_ok hadv
    have hlater := Composed.advance.later_of_ok hadv
    exact ih (hitems.pull_end hpull) (hitems.suffix hlater.unread)

end Grammar

/-! ## The first error -/

variable {surface : Surface} {source : TokenSource}

/-- What is first wrong with a source, where `e` is the error that is reported: a token with which
those before it cannot become a program, the end of tokens that are no program, or a lexical error
behind tokens that could become one. -/
inductive Leftmost (surface : Surface) (source : TokenSource) : CompileError → Prop
  | token {k : Nat} {token : Token} {fault : SyntaxFault} :
      (seen surface source.items)[k]? = some token →
      ViableProgram (source.setting surface) ((seen surface source.items).take k) →
      ¬ ViableProgram (source.setting surface) ((seen surface source.items).take (k + 1)) →
      Leftmost surface source (.grammatical ⟨token.span, fault⟩)
  | ending {fault : SyntaxFault} :
      fault? source.items = none →
      ViableProgram (source.setting surface) (seen surface source.items) →
      (∀ levels body, ¬ Program (source.setting surface) levels (seen surface source.items) body) →
      Leftmost surface source (.grammatical ⟨source.endSpan, fault⟩)
  | lexical {error : LexError} :
      fault? source.items = some error →
      ViableProgram (source.setting surface) (seen surface source.items) →
      Leftmost surface source (.lexical error)

/-- **The first error of a run is the leftmost one.** -/
theorem leftmost_of_error {reader : Reader} {e : CompileError} {t : Reading}
    (hitems : Endless source.items) (hpoised : Poised maxNesting reader.strict)
    (hpull : pull surface source.endSpan source.items =
      (.ok reader.state.current, reader.state.unread))
    (hrun : wholeFile (source.setting surface) reader.strict = .error e t)
    (hnesting : ∀ span, e ≠ .grammatical ⟨span, .nestingTooDeep⟩) : Leftmost surface source e := by
  have htokens := strict_ahead hpull
  have hfaults := strict_fault? hpull
  have hsuffix := pull_suffix surface source.endSpan source.items
  rw [hpull] at hsuffix
  have hunread : Endless reader.strict.unread := hitems.suffix hsuffix
  have hstart : reader.strict.AtEnd (source.setting surface) := hitems.pull_end hpull
  have hverdict := @verdict_wholeFile (source.setting surface) _ hpoised.toReady
  rw [hrun] at hverdict
  cases hverdict with
  | @refused word t fault depth hpath h =>
    have hfault : fault ≠ .nestingTooDeep := by
      rintro rfl
      exact hnesting _ rfl
    have hviable := (h.resolve_left hfault).program
    obtain ⟨hahead, hfault?⟩ := hpath.ahead_eq hviable.ne_endOfFile
    rw [htokens] at hahead
    by_cases hend : t.current.kind = .endOfFile
    · have hspan := (hpath.atEnd hstart hunread hend).1
      have hnone : fault? source.items = none := by
        rw [← hfaults, hfault?, Reading.fault?, if_pos hend]
      rw [Reading.ahead_of_end hend, List.append_nil] at hahead
      rw [hspan]
      refine .ending hnone (hahead ▸ hviable) fun levels body hprogram => ?_
      rcases wholeFile_of_program (hitems.clean hnone) hpoised hpull hprogram with
          ⟨u, hok | ⟨-, span, v, hdeep⟩⟩
      · rw [hrun] at hok
        cases hok
      · rw [hrun] at hdeep
        cases hdeep
        exact hfault rfl
    · rw [Reading.ahead_of_ne hend] at hahead
      refine @Leftmost.token _ _ word.length _ _ ?_ ?_ ?_
      · rw [hahead, List.getElem?_append_right (Nat.le_refl _), Nat.sub_self]
        rfl
      · rw [hahead, List.take_left]
        exact hviable
      · have htake : (seen surface source.items).take (word.length + 1) = word ++ [t.current] := by
          rw [hahead, List.take_length_add_append]
          rfl
        rw [htake]
        exact refused_not_viable hpoised hpath hend hrun hfault
  | @unreadable word t e rest depth hpath herror h =>
    have hend : t.current.kind ≠ .endOfFile := by
      intro hend
      rw [(hpath.atEnd hstart hunread hend).2] at herror
      cases herror
    have hviable := (h.resolve_right hend).program
    have hword := (List.forall_mem_append.mp hviable.ne_endOfFile).1
    obtain ⟨hahead, hfault?⟩ := hpath.ahead_eq hword
    obtain ⟨hseen, hfault⟩ := seen_of_pull_error herror
    rw [htokens, Reading.ahead_of_ne hend, hseen] at hahead
    rw [hfaults, Reading.fault?_of_ne hend, hfault] at hfault?
    exact .lexical hfault? (hahead ▸ hviable)

/-- **The reported error is the leftmost one**, unless it is about nesting. -/
theorem compile_error_leftmost (surface : Surface) (text : String) (e : CompileError)
    (hfails : compile surface text = .error e)
    (hnesting : ∀ span, e ≠ .grammatical ⟨span, .nestingTooDeep⟩) :
    Leftmost surface (lex text) e := by
  have hparse : parse surface text = .error e := by
    rw [compile] at hfails
    cases hparse : parse surface text with
    | ok tree =>
      rw [hparse] at hfails
      cases hfails
    | error e' =>
      rw [hparse] at hfails
      cases hfails
      rfl
  have hitems : Endless (lex text).items := kind_ne_endOfFile_of_mem_lex text
  rw [parse] at hparse
  rcases Reader.start_cases surface (lex text) with
      ⟨reader, hstart, hsetting, hdiagnostics, hpoised, hpull⟩ | ⟨e', rest, hstart, hpull⟩
  · rw [hstart] at hparse
    rcases reader.program_cases hdiagnostics with
        ⟨body, t, -, hprogram⟩ | ⟨e', t, more, hrun, hprogram⟩
    · simp only [hprogram, Outcome.result] at hparse
      cases hparse
    · simp only [hprogram, Outcome.result] at hparse
      cases hparse
      rw [hsetting] at hrun
      exact leftmost_of_error hitems hpoised hpull hrun hnesting
  · rw [hstart] at hparse
    cases hparse
    obtain ⟨hseen, hfault⟩ := seen_of_pull_error hpull
    refine .lexical hfault ?_
    rw [hseen]
    exact viable_statements_nil.program

/-- Compiling a text with a syntax error in front of a lexical one. -/
theorem compile_error_leftmost_of_both :
    ∃ e, compile .sml "a = ; !" = .error e ∧ e.span? = some ⟨1, 5, 6⟩ ∧
      Leftmost .sml (lex "a = ; !") e := by
  have hrun : ((Session.new .sml).compile "a = ; !").2.lastError? =
      some (.grammatical ⟨⟨1, 5, 6⟩, .unexpected .semicolon .expression⟩) := by decide +kernel
  simp only [Session.compile, Session.new] at hrun
  cases hfails : compile .sml "a = ; !" with
  | ok result =>
    rw [hfails] at hrun
    cases hrun
  | error e =>
    rw [hfails] at hrun
    cases hrun
    exact ⟨_, rfl, rfl, compile_error_leftmost .sml "a = ; !" _ hfails (by simp)⟩

end TwinSyntax
