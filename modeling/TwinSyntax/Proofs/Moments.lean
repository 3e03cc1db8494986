import TwinSyntax.Proofs.Plans

/-!
# The moments of a run

A result says where a run ends. This file says what happens on the way.

**Moments** (`Plan.moments`). Five steps change the state of a run: it takes a token, opens a level
of nesting or closes one, and a recovery restores the levels that were open and records an error. A
moment is such a step and the state in which it is made. The moments of a run are read off its plan.

**Nothing else happens** (`Plan.trail`). The moments of a run, one behind the other, lead from the
state in which it starts to the state in which it stops.
-/

namespace TwinSyntax.Grammar

variable {g : Setting}

/-! ## Moments -/

/-- What changes the state of a run. -/
inductive Step where
  | take
  | enter
  | leave
  | restore (depth : Nat)
  | record (error : SyntaxError)

/-- A step, and the state in which it is made. -/
structure Moment where
  step : Step
  state : Reading

/-- The state behind a moment. -/
def Moment.after (g : Setting) (m : Moment) : Reading :=
  match m.step with
  | .take => stop (advance g m.state)
  | .enter => { m.state with depth := m.state.depth + 1 }
  | .leave => m.state.leave
  | .restore depth => { m.state with depth }
  | .record error => { m.state with diagnostics := m.state.diagnostics ++ [.grammatical error] }

/-- One moment behind the other leads from `s` to `s'`. -/
inductive Trail (g : Setting) : (s : Reading) → (moments : List Moment) → (s' : Reading) → Prop
  | nil {s : Reading} : Trail g s [] s
  | cons {m : Moment} {rest : List Moment} {s' : Reading} :
      Trail g (m.after g) rest s' → Trail g m.state (m :: rest) s'

/-- An error is recorded while there is room for it. -/
def recordMoments (e : SyntaxError) (s : Reading) : List Moment :=
  if s.diagnostics.length ≥ maxDiagnostics then [] else [⟨.record e, s⟩]

/-- What happens in a run from `s`, in order. -/
def Plan.moments {α : Type} {p : Read α} (plan : Plan g p) (s : Reading) : List Moment :=
  match plan with
  | .pure _ | .peek | .fail _ _ => []
  | .advance => [⟨.take, s⟩]
  | @Plan.bind _ _ _ p _ plan next =>
    plan.moments s ++
      match p s with
      | .ok a t => (next a).moments t
      | .error _ _ => []
  | @Plan.nested _ _ p plan =>
    ⟨.enter, s⟩ ::
      if s.depth < maxNesting then
        let opened := { s with depth := s.depth + 1 }
        plan.moments opened ++ [⟨.leave, stop (p opened)⟩]
      else []
  | @Plan.recovering _ _ _ p _ _ plan next resume =>
    plan.moments s ++
      match p s with
      | .ok a t => (next a).moments t
      | .error (.grammatical e) t =>
        let restored := { t with depth := s.depth }
        ⟨.restore s.depth, t⟩ :: (recordMoments e restored ++
          match record e restored with
          | .ok _ u => resume.moments u
          | .error _ _ => [])
      | .error _ _ => []
  | .looping plan _ => (plan s.rounds).moments s

section Moments

variable {α β : Type} {p : Read α} {f : α → Read β} {s t u : Reading} {plan : Plan g p}
  {next : (a : α) → Plan g (f a)}

theorem Plan.moments_bind_of_ok {a : α} (h : p s = .ok a t) :
    (Plan.bind plan next).moments s = plan.moments s ++ (next a).moments t := by
  rw [moments, h]

theorem Plan.moments_bind_of_error {e : CompileError} (h : p s = .error e t) :
    (Plan.bind plan next).moments s = plan.moments s := by
  rw [moments, h, List.append_nil]

theorem Plan.moments_nested (h : s.depth < maxNesting) :
    (Plan.nested plan).moments s =
      ⟨.enter, s⟩ :: (plan.moments { s with depth := s.depth + 1 } ++
        [⟨.leave, stop (p { s with depth := s.depth + 1 })⟩]) := by
  rw [moments, if_pos h]

theorem Plan.moments_nested_too_deep (h : maxNesting ≤ s.depth) :
    (Plan.nested plan).moments s = [⟨.enter, s⟩] := by
  rw [moments, if_neg (Nat.not_lt.mpr h)]

theorem Plan.moments_peek {f : TokenKind → Read β} {next : (kind : TokenKind) → Plan g (f kind)} :
    (Plan.bind .peek next).moments s = (next s.current.kind).moments s := by
  have hpeek : Grammar.peek s = .ok s.current.kind s := rfl
  rw [moments_bind_of_ok hpeek]
  rfl

theorem Plan.moments_either_yes {c : Prop} [inst : Decidable c] {q : Read α} {yes : c → Plan g p}
    {no : ¬ c → Plan g q} (hc : c) : (Plan.either yes no).moments s = (yes hc).moments s := by
  cases inst with
  | isTrue _ => rfl
  | isFalse hn => exact absurd hc hn

theorem Plan.moments_either_no {c : Prop} [inst : Decidable c] {q : Read α} {yes : c → Plan g p}
    {no : ¬ c → Plan g q} (hc : ¬ c) : (Plan.either yes no).moments s = (no hc).moments s := by
  cases inst with
  | isTrue h => exact absurd h hc
  | isFalse _ => rfl

theorem Plan.moments_expect {kind : TokenKind} {expecting : Expectation}
    (h : s.current.kind = kind) :
    (Plan.expect kind expecting : Plan g _).moments s = [⟨.take, s⟩] := by
  exact moments_peek.trans (moments_either_yes h)

theorem Plan.moments_recovering_of_ok {next : α → Read β} {resume : Read β}
    {planNext : (a : α) → Plan g (next a)} {planResume : Plan g resume} {a : α}
    (h : p s = .ok a t) : (Plan.recovering plan planNext planResume).moments s =
      plan.moments s ++ (planNext a).moments t := by
  rw [moments, h]

/-! ## Nothing else happens -/

theorem Trail.append {first second : List Moment} (h : Trail g s first t)
    (h' : Trail g t second u) : Trail g s (first ++ second) u := by
  induction h with
  | nil => exact h'
  | cons _ ih => exact .cons (ih h')

theorem trail_record (e : SyntaxError) (s : Reading) :
    Trail g s (recordMoments e s) (stop (record e s)) := by
  unfold recordMoments record
  split
  · exact .nil
  · refine .cons (m := ⟨.record e, s⟩) ?_
    dsimp only
    split <;> exact .nil

theorem trail_nested (ih : ∀ s, Trail g s (plan.moments s) (stop (p s))) (s : Reading) :
    Trail g s ((Plan.nested plan).moments s) (stop (nested p s)) := by
  rcases Nat.lt_or_ge s.depth maxNesting with hlt | hge
  · have hstop : stop (nested p s) = (stop (p { s with depth := s.depth + 1 })).leave := by
      cases hrun : p { s with depth := s.depth + 1 } with
      | ok a t => rw [nested_of_ok hlt hrun]; rfl
      | error e t => rw [nested_of_error hlt hrun]; rfl
    rw [Plan.moments_nested hlt, hstop]
    exact .cons (m := ⟨.enter, s⟩) ((ih _).append (.cons (m := ⟨.leave, _⟩) .nil))
  · rw [Plan.moments_nested_too_deep hge, nested_too_deep hge]
    exact .cons (m := ⟨.enter, s⟩) .nil

end Moments

/-- **The moments of a run are all that happens to its state.** -/
theorem Plan.trail {α : Type} {p : Read α} (plan : Plan g p) (s : Reading) :
    Trail g s (plan.moments s) (stop (p s)) := by
  induction plan generalizing s with
  | pure a => exact .nil
  | peek => exact .nil
  | advance => exact .cons (m := ⟨.take, s⟩) .nil
  | fail fault _ => exact .nil
  | @bind _ _ p f plan next ih ihnext =>
    have hfirst := ih s
    cases hrun : p s with
    | ok a t =>
      rw [hrun] at hfirst
      rw [moments_bind_of_ok hrun, bind_of_ok hrun]
      exact hfirst.append (ihnext a t)
    | error e t =>
      rw [hrun] at hfirst
      rw [moments_bind_of_error hrun, bind_of_error hrun]
      exact hfirst
  | nested _ ih => exact trail_nested ih s
  | @recovering _ _ p _ _ plan _ resume ih ihnext ihresume =>
    have hfirst := ih s
    rw [moments]
    cases hrun : p s with
    | ok a t =>
      rw [hrun] at hfirst
      rw [recovering_of_ok hrun]
      exact hfirst.append (ihnext a t)
    | error e t =>
      rw [hrun] at hfirst
      refine hfirst.append ?_
      cases e with
      | lexical e | malformed e =>
        rw [recovering_of_error hrun (by simp)]
        exact .nil
      | grammatical e =>
        have hrecord := @trail_record g e { t with depth := s.depth }
        rw [recovering_of_grammatical hrun]
        refine .cons (m := ⟨.restore s.depth, t⟩) ?_
        show Trail g { t with depth := s.depth } _ _
        cases hrec : record e { t with depth := s.depth } with
        | ok a u =>
          rw [hrec] at hrecord
          rw [bind_of_ok hrec]
          exact hrecord.append (ihresume u)
        | error e' u =>
          rw [hrec] at hrecord
          rw [bind_of_error hrec]
          simp only [List.append_nil]
          exact hrecord
  | looping _ _ ih => exact ih s.rounds s

end TwinSyntax.Grammar
