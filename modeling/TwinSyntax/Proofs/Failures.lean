import TwinSyntax.Proofs.Likeness
import TwinSyntax.Proofs.Path

/-!
# Errors that are recorded

**Onward** (`Onward`, `Passed`). Tokens are taken one after another, and the end of the file is not
taken before all is over. A state has passed another one if a token was taken in between, or if it
is at the end of the file.

**Failures** (`Plan.failures`). The errors that a run records on its way, each with the state in
which it is. They are among the moments of the run, and nothing else becomes a diagnostic
(`Plan.diagnostics`).
-/

namespace TwinSyntax

namespace Grammar

variable {g : Setting} {s t u : Reading}

/-! ## Onward -/

/-- Taking tokens, none of which is the end of the file, leads from the place of `s` to that of
`t`. -/
inductive Onward (g : Setting) (s : Reading) : Reading → Prop
  | here {t : Reading} : t.current = s.current → t.unread = s.unread → Onward g s t
  | next {t u : Reading} : Onward g s t → t.current.kind ≠ .endOfFile →
      pull g.surface g.endSpan t.unread = (.ok u.current, u.unread) → Onward g s u

/-- Further on than `s`, or at the end of the file. -/
def Passed (g : Setting) (s t : Reading) : Prop :=
  Onward g s t ∧ (t.remaining < s.remaining ∨ t.current.kind = .endOfFile)

theorem Onward.refl (g : Setting) (s : Reading) : Onward g s s := .here rfl rfl

/-- Only the place of a state counts. -/
theorem Onward.of_same (h : Onward g s t) (hcurrent : u.current = t.current)
    (hunread : u.unread = t.unread) : Onward g s u := by
  cases h with
  | here hc hu => exact .here (hcurrent.trans hc) (hunread.trans hu)
  | next h hne hpull => exact .next h hne (by rw [hpull, hcurrent, hunread])

theorem Onward.trans (h : Onward g s t) (h' : Onward g t u) : Onward g s u := by
  induction h' with
  | here hcurrent hunread => exact h.of_same hcurrent hunread
  | next _ hne hpull ih => exact .next ih hne hpull

theorem remaining_of_same (hcurrent : t.current = s.current) (hunread : t.unread = s.unread) :
    t.remaining = s.remaining := by
  rw [Reading.remaining, Reading.remaining, hcurrent, hunread]

theorem advance_of_pull (h : pull g.surface g.endSpan s.unread = (.ok t.current, t.unread)) :
    ∃ s', advance g s = .ok s.current s' ∧ s'.current = t.current ∧ s'.unread = t.unread :=
  ⟨_, advance_of_ok h, rfl, rfl⟩

theorem Onward.remaining_le (h : Onward g s t) : t.remaining ≤ s.remaining := by
  induction h with
  | here hcurrent hunread => exact Nat.le_of_eq (remaining_of_same hcurrent hunread)
  | next _ hne hpull ih =>
    obtain ⟨s', hadv, hcurrent, hunread⟩ := advance_of_pull hpull
    have hlt := eager_advance hne _ _ hadv
    rw [remaining_of_same hcurrent hunread] at hlt
    omega

/-- From the end of the file there is no way on. -/
theorem Onward.of_end (h : Onward g s t) (hend : s.current.kind = .endOfFile) :
    t.current = s.current ∧ t.unread = s.unread := by
  induction h with
  | here hcurrent hunread => exact ⟨hcurrent, hunread⟩
  | next _ hne _ ih => exact absurd (ih.1 ▸ hend) hne

theorem Onward.advance {token : Token} (hne : s.current.kind ≠ .endOfFile)
    (h : advance g s = .ok token t) : Passed g s t := by
  have hlt := eager_advance hne _ _ h
  obtain ⟨next, rest, hpull, -, rfl⟩ := advance_eq_ok h
  exact ⟨.next (.refl g s) hne hpull, .inl hlt⟩

theorem Passed.trans (h : Passed g s t) (h' : Onward g t u) : Passed g s u := by
  refine ⟨h.1.trans h', ?_⟩
  rcases h.2 with hlt | hend
  · exact .inl (Nat.lt_of_le_of_lt h'.remaining_le hlt)
  · exact .inr (by rw [(h'.of_end hend).1]; exact hend)

theorem Onward.trans_passed (h : Onward g s t) (h' : Passed g t u) : Passed g s u :=
  ⟨h.trans h'.1, h'.2.imp_left fun hlt => Nat.lt_of_lt_of_le hlt h.remaining_le⟩

end Grammar

/-! ## Errors that are recorded -/

/-- The error was found at this token. -/
def SyntaxError.At (token : Token) (e : SyntaxError) : Prop :=
  e.span = token.span ∧ Grammar.FoundAt token.kind e.fault

namespace Grammar

/-- An error that is recorded, and the state in which it is. -/
abbrev Failure := SyntaxError × Reading

def Moment.failure? (m : Moment) : Option Failure :=
  match m.step with
  | .record e => some (e, m.state)
  | .take | .enter | .leave | .restore _ => none

/-- The errors that a run records, in order. -/
def Plan.failures {g : Setting} {α : Type} {p : Read α} (plan : Plan g p) (s : Reading) :
    List Failure :=
  (plan.moments s).filterMap Moment.failure?

variable {g : Setting} {α β : Type} {p : Read α} {f : α → Read β} {s t u : Reading}
  {plan : Plan g p} {next : (a : α) → Plan g (f a)}

/-- Nothing but the errors that are recorded becomes a diagnostic. -/
theorem Trail.diagnostics {moments : List Moment} (h : Trail g s moments t) :
    t.diagnostics =
      s.diagnostics ++ (moments.filterMap Moment.failure?).map fun f => .grammatical f.1 := by
  induction h with
  | nil => exact (List.append_nil _).symm
  | @cons m rest s' _ ih =>
    obtain ⟨step, s⟩ := m
    rw [ih]
    cases step with
    | take =>
      have hsame : (Moment.after g ⟨.take, s⟩).diagnostics = s.diagnostics := by
        rcases advance_cases g s with ⟨next, rest, -, hrun⟩ | ⟨e, rest, -, hrun⟩ <;>
          simp [Moment.after, hrun, stop]
      rw [hsame]
      rfl
    | record e => simp [Moment.after, Moment.failure?]
    | enter | leave | restore depth => rfl

theorem Plan.diagnostics (plan : Plan g p) (s : Reading) :
    (stop (p s)).diagnostics =
      s.diagnostics ++ (plan.failures s).map fun f => .grammatical f.1 :=
  (plan.trail s).diagnostics

section Failures

theorem Plan.failures_bind_of_ok {a : α} (h : p s = .ok a t) :
    (Plan.bind plan next).failures s = plan.failures s ++ (next a).failures t := by
  rw [failures, moments_bind_of_ok h, List.filterMap_append]
  rfl

theorem Plan.failures_bind_of_error {e : CompileError} (h : p s = .error e t) :
    (Plan.bind plan next).failures s = plan.failures s := by
  rw [failures, moments_bind_of_error h]
  rfl

theorem Plan.failures_bind_eq_self (hnext : ∀ a t, (next a).failures t = []) :
    (Plan.bind plan next).failures s = plan.failures s := by
  cases hrun : p s with
  | ok a t => rw [failures_bind_of_ok hrun, hnext, List.append_nil]
  | error e t => rw [failures_bind_of_error hrun]

theorem Plan.failures_peek {f : TokenKind → Read β} {next : (kind : TokenKind) → Plan g (f kind)} :
    (Plan.bind .peek next).failures s = (next s.current.kind).failures s := by
  rw [failures, moments_peek]
  rfl

theorem Plan.failures_nested (h : s.depth < maxNesting) :
    (Plan.nested plan).failures s = plan.failures { s with depth := s.depth + 1 } := by
  rw [failures, moments_nested h, List.filterMap_cons, List.filterMap_append]
  exact List.append_nil _

theorem Plan.failures_nested_too_deep (h : maxNesting ≤ s.depth) :
    (Plan.nested plan).failures s = [] := by
  rw [failures, moments_nested_too_deep h]
  rfl

theorem Plan.failures_either_yes {c : Prop} [Decidable c] {q : Read α} {yes : c → Plan g p}
    {no : ¬ c → Plan g q} (hc : c) : (Plan.either yes no).failures s = (yes hc).failures s :=
  congrArg _ (moments_either_yes hc)

theorem Plan.failures_either_no {c : Prop} [Decidable c] {q : Read α} {yes : c → Plan g p}
    {no : ¬ c → Plan g q} (hc : ¬ c) : (Plan.either yes no).failures s = (no hc).failures s :=
  congrArg _ (moments_either_no hc)

/-- An error that is raised is not recorded yet. -/
theorem Plan.failures_expect (kind : TokenKind) (expecting : Expectation) (s : Reading) :
    (Plan.expect kind expecting : Plan g _).failures s = [] := by
  refine failures_peek.trans ?_
  by_cases h : s.current.kind = kind
  · exact failures_either_yes h
  · exact failures_either_no h

theorem failures_last (kind : TokenKind) (expecting : Expectation) (a : α) (s : Reading) :
    (Plan.bind (.expect kind expecting) fun _ => .pure a : Plan g _).failures s = [] :=
  (Plan.failures_bind_eq_self fun _ _ => rfl).trans (Plan.failures_expect kind expecting s)

section Recovering

variable {next : α → Read β} {resume : Read β} {planNext : (a : α) → Plan g (next a)}
  {planResume : Plan g resume}

theorem Plan.failures_recovering_of_ok {a : α} (h : p s = .ok a t) :
    (Plan.recovering plan planNext planResume).failures s =
      plan.failures s ++ (planNext a).failures t := by
  rw [failures, moments_recovering_of_ok h, List.filterMap_append]
  rfl

theorem Plan.failures_recovering_of_lexical {e : LexError} (h : p s = .error (.lexical e) t) :
    (Plan.recovering plan planNext planResume).failures s = plan.failures s := by
  rw [failures, moments, h, List.append_nil]
  rfl

/-- An error that reading was given up with is not recorded again. -/
theorem Plan.failures_recovering_of_strict {e : SyntaxError} (h : p s = .error (.grammatical e) t)
    (ht : t.Strict) : (Plan.recovering plan planNext planResume).failures s = plan.failures s := by
  have hstrict : ({ t with depth := s.depth } : Reading).Strict := ht
  have hnone : recordMoments e { t with depth := s.depth } = [] := if_pos ht
  rw [failures, moments, h]
  dsimp only
  rw [hnone, record_of_strict hstrict, List.filterMap_append]
  exact List.append_nil _

theorem Plan.failures_recovering_of_open {e : SyntaxError} (h : p s = .error (.grammatical e) t)
    (ht : t.Open) :
    (Plan.recovering plan planNext planResume).failures s =
      plan.failures s ++ (e, { t with depth := s.depth }) ::
        match record e { t with depth := s.depth } with
        | .ok _ u => planResume.failures u
        | .error _ _ => [] := by
  have hone :
      recordMoments e { t with depth := s.depth } = [⟨.record e, { t with depth := s.depth }⟩] :=
    if_neg (Nat.not_le.mpr ht)
  rw [failures, moments, h]
  dsimp only
  rw [hone, List.filterMap_append]
  cases record e { t with depth := s.depth } <;> rfl

end Recovering

end Failures

end Grammar

end TwinSyntax
