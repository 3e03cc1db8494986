import TwinSyntax.Proofs.Discipline
import TwinSyntax.Proofs.Embedding
import TwinSyntax.Proofs.Lossless

/-!
# The diagnostics of a program

**Places** (`TokenSource.StandsAt`). Which token of its source a state stands at. The way onward
leads to later places.

**Theorem (`diagnostics_disciplined`).** A program has a tree or diagnostics. There are at most
`maxDiagnostics` syntax errors, found at tokens one behind the other, and at most one diagnostic
behind them: a lexical error, or the note that reading was given up because there were so many.
-/

namespace TwinSyntax

open Grammar

/-! ## Places in a source -/

/-- In the state `s`, the token at the place `place` of the source is the current one. -/
def TokenSource.StandsAt (source : TokenSource) (place : Nat) (s : Reading) : Prop :=
  source.call place = .ok s.current ∧ s.unread = source.items.drop (place + 1)

/-- The errors were found at tokens of the source, each further on than the one before, unless both
were found at the same end of the file. -/
def TokenSource.InOrder (source : TokenSource) (failures : List Failure) : Prop :=
  ∃ raised : List (Nat × Failure), raised.map Prod.snd = failures ∧
    (∀ r ∈ raised, source.StandsAt r.1 r.2.2) ∧
    raised.Pairwise fun r r' => r.1 < r'.1 ∨ r.1 = r'.1 ∧ r.2.2.current.kind = .endOfFile

section Places

variable {surface : Surface} {source : TokenSource} {s t : Reading} {place : Nat}

/-- What is pulled comes from a place further on. -/
theorem place_of_pull {next : Token} {items rest : List TokenItem}
    (hitems : source.items.drop place = items)
    (h : pull surface source.endSpan items = (.ok next, rest)) :
    ∃ place', place ≤ place' ∧ source.call place' = .ok next ∧
      rest = source.items.drop (place' + 1) := by
  induction items generalizing place with
  | nil =>
    have hle : source.items.length ≤ place := List.drop_eq_nil_iff.mp hitems
    cases h
    refine ⟨place, Nat.le_refl _, source.call_of_length_le hle, ?_⟩
    exact (List.drop_eq_nil_of_le (Nat.le_succ_of_le hle)).symm
  | cons item items ih =>
    have htail : source.items.drop (place + 1) = items := by
      rw [← List.tail_drop, hitems]
      rfl
    have hcall : source.call place = item := by
      rw [source.call_eq, ← List.head?_drop, hitems]
      rfl
    cases item with
    | error e => cases h
    | ok token =>
      rw [pull] at h
      split at h
      · obtain ⟨place', hplace, hplace'⟩ := ih htail h
        exact ⟨place', Nat.le_of_succ_le hplace, hplace'⟩
      · cases h
        exact ⟨place, Nat.le_refl _, hcall, htail.symm⟩

/-- The way onward goes to places further on. -/
theorem TokenSource.StandsAt.onward (hs : source.StandsAt place s)
    (h : Onward (source.setting surface) s t) :
    ∃ place', source.StandsAt place' t ∧
      (place < place' ∨ place = place' ∧ t.current = s.current ∧ t.unread = s.unread) := by
  induction h with
  | here hcurrent hunread =>
    refine ⟨place, ⟨?_, ?_⟩, .inr ⟨rfl, hcurrent, hunread⟩⟩
    · rw [hcurrent]
      exact hs.1
    · rw [hunread]
      exact hs.2
  | @next t u _ _ hpull ih =>
    obtain ⟨middle, ht, hmiddle⟩ := ih
    obtain ⟨place', hlt, hcall, hrest⟩ := place_of_pull ht.2.symm hpull
    refine ⟨place', ⟨hcall, hrest⟩, .inl ?_⟩
    omega

/-- An error that was found behind another one stands at a later place, or at the same end of the
file. -/
theorem exists_places {failures : List Failure} (hs : source.StandsAt place s)
    (h : ∀ f ∈ failures, Onward (source.setting surface) s f.2)
    (hpassed : failures.Pairwise fun f f' => Passed (source.setting surface) f.2 f'.2) :
    ∃ raised : List (Nat × Failure), raised.map Prod.snd = failures ∧
      (∀ r ∈ raised, source.StandsAt r.1 r.2.2 ∧ (place < r.1 ∨ place = r.1 ∧
        r.2.2.current = s.current ∧ r.2.2.unread = s.unread)) ∧
      raised.Pairwise fun r r' => r.1 < r'.1 ∨ r.1 = r'.1 ∧ r.2.2.current.kind = .endOfFile := by
  induction failures generalizing s place with
  | nil => exact ⟨[], rfl, List.forall_mem_nil _, .nil⟩
  | cons f failures ih =>
    rw [List.forall_mem_cons] at h
    rw [List.pairwise_cons] at hpassed
    obtain ⟨place', hf, hplace⟩ := hs.onward h.1
    obtain ⟨raised, hraised, hplaces, hpairs⟩ :=
      ih hf (fun f' hf' => (hpassed.1 f' hf').1) hpassed.2
    refine ⟨(place', f) :: raised, by rw [List.map_cons, hraised], ?_, ?_⟩
    · rw [List.forall_mem_cons]
      refine ⟨⟨hf, hplace⟩, fun r hr => ⟨(hplaces r hr).1, ?_⟩⟩
      rcases hplace with hlt | ⟨rfl, hcurrent, hunread⟩
      · rcases (hplaces r hr).2 with hlt' | ⟨rfl, -⟩
        · exact .inl (Nat.lt_trans hlt hlt')
        · exact .inl hlt
      · rcases (hplaces r hr).2 with hlt' | ⟨rfl, hcurrent', hunread'⟩
        · exact .inl hlt'
        · exact .inr ⟨rfl, hcurrent'.trans hcurrent, hunread'.trans hunread⟩
    · rw [List.pairwise_cons]
      refine ⟨fun r hr => ?_, hpairs⟩
      refine (hplaces r hr).2.imp_right fun ⟨hsame, hcurrent, hunread⟩ => ⟨hsame, ?_⟩
      -- at the same place, nothing was taken, so it is the end of the file that was passed
      have hmem : r.2 ∈ failures := by
        rw [← hraised]
        exact List.mem_map_of_mem hr
      rcases (hpassed.1 r.2 hmem).2 with hlt | hend
      · exact absurd hlt (by rw [remaining_of_same hcurrent hunread]; exact Nat.lt_irrefl _)
      · rw [← hcurrent]
        exact hend

end Places

/-! ## The diagnostics of a program -/

namespace Reader

/-- The errors that the reader records while it reads a program, in order. -/
def failures (r : Reader) : List Failure := r.moments.filterMap Moment.failure?

/-- The same errors without the states in which they were recorded. -/
def errors (r : Reader) : List SyntaxError := r.failures.map Prod.fst

/-- The diagnostics of a program are the errors that were recorded, and at most one other behind
them. -/
inductive Reports (r : Reader) : Prop
  | complete (tree? : Option Node) :
      r.errors.length < maxDiagnostics → (tree?.isSome = true ↔ r.errors = []) →
      r.program.1 = ⟨tree?, r.errors.map .grammatical⟩ → Reports r
  | unreadable (e : LexError) :
      r.errors.length < maxDiagnostics →
      r.program.1 = ⟨none, r.errors.map .grammatical ++ [.lexical e]⟩ → Reports r
  | gaveUp (e : SyntaxError) :
      r.errors.length = maxDiagnostics → e.fault = .tooManyErrors →
      r.program.1 = ⟨none, r.errors.map .grammatical ++ [.grammatical e]⟩ → Reports r

theorem reports {r : Reader} (hdiagnostics : r.state.diagnostics = []) (hs : r.state.Roomy) :
    Orderly r.setting r.state r.failures ∧ Reports r := by
  have hopen : r.state.Open := by
    rw [Reading.Open, hdiagnostics]
    decide
  obtain ⟨horderly, hends⟩ := disciplined_wholeFile (g := r.setting) hs hopen
  refine ⟨horderly, ?_⟩
  have hall := (planWholeFile r.setting).diagnostics r.state
  rw [hdiagnostics, List.nil_append] at hall
  have hall : (stop (wholeFile r.setting r.state)).diagnostics = r.errors.map .grammatical := by
    rw [hall, errors, List.map_map]
    rfl
  have hlength := congrArg List.length hall
  rw [List.length_map] at hlength
  cases hrun : wholeFile r.setting r.state with
  | ok body t =>
    rw [hrun] at hends hall hlength
    cases hends with
    | done hopen' =>
      have hprogram := program_of_ok hrun
      rw [show t.diagnostics = _ from hall] at hprogram
      refine .complete _ (hlength ▸ hopen') ?_ hprogram
      cases r.errors <;> simp
  | error e t =>
    rw [hrun] at hends hall hlength
    have hprogram := program_of_error hrun
    rw [show t.diagnostics = _ from hall] at hprogram
    cases hends with
    | unreadable hopen' => exact .unreadable _ (hlength ▸ hopen') hprogram
    | gaveUp hfull hfault => exact .gaveUp _ (hlength.symm.trans hfull) hfault hprogram

end Reader

/-- The syntax error that was found at a token; giving up is not found at one. -/
def CompileError.found? : CompileError → Option SyntaxError
  | grammatical e => if e.fault = .tooManyErrors then none else some e
  | lexical _ | malformed _ => none

/-- What can be said of the diagnostics of a program that a reader of `source` reads. -/
structure Reader.Diagnosed (source : TokenSource) (r : Reader) : Prop where
  /-- There is a tree if there is nothing to report. -/
  tree : r.program.1.tree?.isSome = true ↔ r.program.1.diagnostics = []
  /-- There are not many diagnostics. -/
  limit : r.program.1.diagnostics.length ≤ maxDiagnostics + 1
  /-- Nothing is reported behind a lexical error. -/
  lexicalLast {front back : List CompileError} {e : LexError} :
    r.program.1.diagnostics = front ++ .lexical e :: back → back = []
  /-- All places are taken when reading was given up, and only then. -/
  gaveUp : r.program.1.diagnostics.length = maxDiagnostics + 1 ↔
    ∃ e, r.program.1.diagnostics.getLast? = some (.grammatical e) ∧ e.fault = .tooManyErrors
  /-- Otherwise there are syntax errors, and perhaps a lexical error behind them. -/
  fewer : r.program.1.diagnostics.length ≠ maxDiagnostics + 1 →
    ∃ (errors : List SyntaxError) (final : List LexError),
      r.program.1.diagnostics = errors.map .grammatical ++ final.map .lexical ∧
        errors.length ≤ maxDiagnostics - 1 ∧ final.length ≤ 1
  /-- What is reported was recorded, in this order. -/
  reported : r.program.1.diagnostics.filterMap CompileError.found? = r.errors
  /-- An error is recorded where it was found, at the current token. -/
  found : ∀ f ∈ r.failures, f.1.At f.2.current
  /-- Each of these tokens stands behind the one before, or is the same end of the file. -/
  further : source.InOrder r.failures

section Reports

variable {source : TokenSource} {errors : List SyntaxError}

theorem ne_tooManyErrors {kind : TokenKind} {fault : SyntaxFault} (h : FoundAt kind fault) :
    fault ≠ .tooManyErrors := by
  rcases h with rfl | ⟨expecting, rfl⟩ <;> exact nofun

theorem lexical_last {front back : List CompileError} {e : LexError} (tail : List CompileError)
    (htail : tail.length ≤ 1)
    (h : errors.map .grammatical ++ tail = front ++ .lexical e :: back) : back = [] := by
  induction errors generalizing front with
  | nil =>
    have hlength := congrArg List.length h
    rw [List.map_nil, List.nil_append, List.length_append, List.length_cons] at hlength
    exact List.eq_nil_of_length_eq_zero (by omega)
  | cons error errors ih =>
    cases front with
    | nil => cases h
    | cons _ front => exact ih (List.tail_eq_of_cons_eq h)

theorem found?_map (h : ∀ e ∈ errors, e.fault ≠ .tooManyErrors) :
    (errors.map CompileError.grammatical).filterMap CompileError.found? = errors := by
  induction errors with
  | nil => rfl
  | cons e errors ih =>
    rw [List.forall_mem_cons] at h
    have hsome : CompileError.found? (.grammatical e) = some e := if_neg h.1
    rw [List.map_cons, List.filterMap_cons, hsome, ih h.2]

/-- Errors that were found at a token do not end with the one that reading is given up with. -/
theorem getLast?_ne (h : ∀ e ∈ errors, e.fault ≠ .tooManyErrors) {e : SyntaxError}
    (hlast : (errors.map CompileError.grammatical).getLast? = some (.grammatical e)) :
    e.fault ≠ .tooManyErrors := by
  obtain ⟨e', he', heq⟩ := List.mem_map.mp (List.mem_of_getLast? hlast)
  cases heq
  exact h e he'

/-- The first diagnostics and the last one say everything about their number. -/
theorem Reader.Reports.diagnosed {r : Reader} (h : r.Reports)
    (hfound : ∀ f ∈ r.failures, f.1.At f.2.current)
    (hfurther : source.InOrder r.failures) : r.Diagnosed source := by
  have hfaults : ∀ e ∈ r.errors, e.fault ≠ .tooManyErrors := by
    intro e he
    obtain ⟨f, hf, rfl⟩ := List.mem_map.mp he
    exact ne_tooManyErrors (hfound f hf).2
  have hreported := found?_map hfaults
  cases h with
  | complete tree? hlt htree hprogram =>
    have hcount : r.program.1.diagnostics.length = r.errors.length := by
      rw [hprogram, List.length_map]
    refine ⟨?_, by omega, ?_, ?_, fun _ => ⟨r.errors, [], ?_, by omega, by simp⟩, ?_, hfound,
      hfurther⟩
    · rw [hprogram, List.map_eq_nil_iff]
      exact htree
    · intro front back e hsplit
      rw [hprogram] at hsplit
      exact lexical_last [] (by simp) ((List.append_nil _).trans hsplit)
    · refine ⟨fun hfull => by omega, fun ⟨e, hlast, hfault⟩ => ?_⟩
      rw [hprogram] at hlast
      exact absurd hfault (getLast?_ne hfaults hlast)
    · rw [hprogram, List.map_nil, List.append_nil]
    · rw [hprogram, hreported]
  | unreadable e hlt hprogram =>
    have hcount : r.program.1.diagnostics.length = r.errors.length + 1 := by
      rw [hprogram, List.length_append, List.length_map]
      rfl
    refine ⟨?_, by omega, ?_, ?_, fun _ => ⟨r.errors, [e], ?_, by omega, by simp⟩, ?_, hfound,
      hfurther⟩
    · rw [hprogram]
      simp
    · intro front back e hsplit
      rw [hprogram] at hsplit
      exact lexical_last [_] (Nat.le_refl 1) hsplit
    · refine ⟨fun hfull => by omega, fun ⟨e', hlast, _⟩ => ?_⟩
      rw [hprogram, List.getLast?_concat] at hlast
      cases hlast
    · rw [hprogram]
      rfl
    · rw [hprogram, List.filterMap_append, hreported]
      exact List.append_nil _
  | gaveUp e hfull hfault hprogram =>
    have hcount : r.program.1.diagnostics.length = r.errors.length + 1 := by
      rw [hprogram, List.length_append, List.length_map]
      rfl
    refine ⟨?_, by omega, ?_, ?_, fun hnot => by omega, ?_, hfound, hfurther⟩
    · rw [hprogram]
      simp
    · intro front back e hsplit
      rw [hprogram] at hsplit
      exact lexical_last [_] (Nat.le_refl 1) hsplit
    · refine ⟨fun _ => ⟨e, ?_, hfault⟩, fun _ => by omega⟩
      rw [hprogram, List.getLast?_concat]
    · have hnone : CompileError.found? (.grammatical e) = none := if_pos hfault
      rw [hprogram, List.filterMap_append, hreported, List.filterMap_cons, hnone]
      exact List.append_nil _

end Reports

/-- **Diagnostics are disciplined**, whatever the source. -/
theorem diagnostics_disciplined {surface : Surface} {source : TokenSource} {reader : Reader}
    (hstart : Reader.start surface source = .ok reader) : reader.Diagnosed source := by
  rcases Reader.start_cases surface source with
      ⟨reader', hstart', hsetting, hdiagnostics, hpoised, hpull⟩ | ⟨e, rest, hstart', -⟩
  · rw [hstart] at hstart'
    cases hstart'
    obtain ⟨horderly, hreports⟩ := Reader.reports hdiagnostics hpoised.roomy
    have hdrop : source.items.drop 0 = source.items := List.drop_zero
    obtain ⟨place, -, hcall, hrest⟩ := place_of_pull hdrop hpull
    have hstands : source.StandsAt place reader.state := ⟨hcall, hrest⟩
    rw [hsetting] at horderly
    obtain ⟨raised, hraised, hplaces, hpairs⟩ :=
      exists_places hstands horderly.onward horderly.passed
    have hfurther : source.InOrder reader.failures :=
      ⟨raised, hraised, fun f hf => (hplaces f hf).1, hpairs⟩
    exact hreports.diagnosed horderly.found hfurther
  · rw [hstart] at hstart'
    cases hstart'

/-- Four errors: two in a block, one behind it, and one at the end of the file, where a block is
open. -/
theorem diagnostics_disciplined_of_four :
    let source := lex "\x7b a = ; b 1; \x7d c +; \x7b"
    ∃ reader, Reader.start .sml source = .ok reader ∧ reader.program.1.diagnostics.length = 4 ∧
      reader.Diagnosed source := by
  intro source
  have hrun : ((Reader.start .sml source).toOption.map fun reader =>
      reader.program.1.diagnostics.length) = some 4 := by decide +kernel
  cases hstart : Reader.start .sml source with
  | error e =>
    rw [hstart] at hrun
    cases hrun
  | ok reader =>
    rw [hstart] at hrun
    exact ⟨reader, rfl, Option.some.inj hrun, diagnostics_disciplined hstart⟩

end TwinSyntax