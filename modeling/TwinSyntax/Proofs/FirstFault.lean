import TwinSyntax.Proofs.Loops

/-!
# The first thing that goes wrong

Recovery makes a run hard to follow: behind an error it goes on somewhere else. But recovery gives
up at once when there is no room for another diagnostic. A run that starts with the diagnostics
full is therefore the same run up to its first error, and ends there.

**Theorem (`Composed.agrees`).** Run a rule with room for diagnostics and without. If the run
without room succeeds, the other one ends in the same way and adds no diagnostic. If it fails with
an error, that error is the first one of the other run, whether it is recorded or raised.
-/

namespace TwinSyntax.Grammar

variable {g : Setting}

/-- The same place with other diagnostics. -/
def Reading.withDiagnostics (s : Reading) (diagnostics : List CompileError) : Reading :=
  { s with diagnostics }

@[simp] theorem Reading.withDiagnostics_twice (s : Reading) (D D' : List CompileError) :
    (s.withDiagnostics D).withDiagnostics D' = s.withDiagnostics D' := rfl

theorem Reading.withDiagnostics_self {s : Reading} {D : List CompileError} (h : s.diagnostics = D) :
    s.withDiagnostics D = s := by
  subst h
  rfl

/-- There is no room for another diagnostic, so the first error ends the run. -/
def Reading.Strict (s : Reading) : Prop := maxDiagnostics ≤ s.diagnostics.length

theorem record_of_strict {s : Reading} (hs : s.Strict) (e : SyntaxError) :
    record e s = .error (.grammatical e) s := by
  unfold record
  exact if_pos hs

/-- There is room for another diagnostic. -/
def Reading.Open (s : Reading) : Prop := s.diagnostics.length < maxDiagnostics

/-- The same place with another diagnostic. -/
def Reading.recorded (s : Reading) (e : SyntaxError) : Reading :=
  s.withDiagnostics (s.diagnostics ++ [.grammatical e])

/-- What is recorded where there is room leaves room, or was the last that there was room for. -/
theorem record_of_open {s : Reading} (hs : s.Open) (e : SyntaxError) :
    ((s.recorded e).Open ∧ record e s = .ok () (s.recorded e)) ∨
    ((s.recorded e).diagnostics.length = maxDiagnostics ∧
      record e s = .error (.grammatical ⟨s.current.span, .tooManyErrors⟩) (s.recorded e)) := by
  have hlength : (s.recorded e).diagnostics.length = s.diagnostics.length + 1 :=
    List.length_append
  have hrecord : record e s =
      if (s.recorded e).diagnostics.length ≥ maxDiagnostics then fail .tooManyErrors (s.recorded e)
      else .ok () (s.recorded e) := by
    unfold record
    exact if_neg (Nat.not_le.mpr hs)
  rw [hrecord]
  split
  · next hfull =>
    have hlt : s.diagnostics.length < maxDiagnostics := hs
    exact .inr ⟨by omega, rfl⟩
  · next hroom => exact .inl ⟨Nat.lt_of_not_le hroom, rfl⟩

/-- A run that recovers has nowhere to record an error. -/
theorem recovering_of_strict {α β : Type} {p : Read α} {next : α → Read β} {resume : Read β}
    {s s' : Reading} {e : SyntaxError} (h : p s = .error (.grammatical e) s') (hs : s'.Strict) :
    recovering p next resume s = .error (.grammatical e) { s' with depth := s.depth } := by
  have hstrict : ({ s' with depth := s.depth } : Reading).Strict := hs
  rw [recovering_of_grammatical h, bind_of_error (record_of_strict hstrict e)]

/-- The first error of a run from a state with the diagnostics `D` is `e`. -/
def FaultsFirst {α : Type} (D : List CompileError) (e : CompileError) :
    EStateM.Result CompileError Reading α → Prop
  | .ok _ s => D ++ [e] <+: s.diagnostics
  | .error e' s => (e' = e ∧ s.diagnostics = D) ∨ D ++ [e] <+: s.diagnostics

theorem faultsFirst_of_prefix {α : Type} {D : List CompileError} {e : CompileError}
    {r : EStateM.Result CompileError Reading α} (h : D ++ [e] <+: (stop r).diagnostics) :
    FaultsFirst D e r := by
  cases r with
  | ok a s => exact h
  | error e' s => exact .inr h

section Faults

variable {α β : Type} {p : Read α} {s : Reading} {D : List CompileError} {e : CompileError}

theorem FaultsFirst.bind {f : α → Read β} (h : FaultsFirst D e (p s)) (hf : ∀ a, Composed g (f a)) :
    FaultsFirst D e ((p >>= f) s) := by
  cases hp : p s with
  | ok a t =>
    rw [hp] at h
    rw [bind_of_ok hp]
    exact faultsFirst_of_prefix (h.trans ((hf a).later t).diagnostics)
  | error e' t =>
    rw [hp] at h
    rw [bind_of_error hp]
    exact h

theorem FaultsFirst.nested (hdepth : s.depth < maxNesting)
    (h : FaultsFirst D e (p { s with depth := s.depth + 1 })) : FaultsFirst D e (nested p s) := by
  cases hp : p { s with depth := s.depth + 1 } with
  | ok a t =>
    rw [hp] at h
    rw [nested_of_ok hdepth hp]
    exact h
  | error e' t =>
    rw [hp] at h
    rw [nested_of_error hdepth hp]
    exact h

variable {next : α → Read β} {resume : Read β}

theorem prefix_record (e : SyntaxError) {s : Reading} (h : s.diagnostics.length < maxDiagnostics) :
    s.diagnostics ++ [.grammatical e] <+: (stop (record e s)).diagnostics := by
  unfold record
  rw [if_neg (Nat.not_le.mpr h)]
  dsimp only
  split <;> exact List.prefix_rfl

/-- What was recorded when a statement ended stays recorded. -/
theorem prefix_recovering (hnext : ∀ a, Composed g (next a)) (hresume : Composed g resume) :
    (stop (p s)).diagnostics <+: (stop (recovering p next resume s)).diagnostics := by
  cases hp : p s with
  | ok a t =>
    rw [recovering_of_ok hp]
    exact ((hnext a).later t).diagnostics
  | error e' t =>
    cases e' with
    | grammatical e' =>
      rw [recovering_of_grammatical hp]
      exact (later_bind (later_record e' { t with depth := s.depth })
        fun _ u _ => hresume.later u).diagnostics
    | lexical e' | malformed e' =>
      rw [recovering_of_error hp (by simp)]
      exact List.prefix_rfl

/-- Recovery keeps the first error, and records it if it may. -/
theorem FaultsFirst.recovering (hD : D.length < maxDiagnostics) (h : FaultsFirst D e (p s))
    (hnext : ∀ a, Composed g (next a)) (hresume : Composed g resume) :
    FaultsFirst D e (recovering p next resume s) := by
  have hkeep : D ++ [e] <+: (stop (p s)).diagnostics →
      FaultsFirst D e (Grammar.recovering p next resume s) := fun hrecorded =>
    faultsFirst_of_prefix (hrecorded.trans (prefix_recovering hnext hresume))
  cases hp : p s with
  | ok a t => exact hkeep (by rw [hp] at h ⊢; exact h)
  | error e' t =>
    rw [hp] at h
    rcases h with ⟨rfl, rfl⟩ | hrecorded
    · cases e' with
      | grammatical e' =>
        rw [recovering_of_grammatical hp]
        have hrecord := prefix_record e' (s := { t with depth := s.depth }) hD
        have hlater : ∀ u, Later u (stop (resume u)) := hresume.later
        refine faultsFirst_of_prefix (hrecord.trans ?_)
        cases hr : record e' { t with depth := s.depth } with
        | ok u v =>
          rw [bind_of_ok hr]
          exact (hlater v).diagnostics
        | error e'' v =>
          rw [bind_of_error hr]
          exact List.prefix_rfl
      | lexical e' | malformed e' =>
        rw [recovering_of_error hp (by simp)]
        exact .inl ⟨rfl, rfl⟩
    · exact hkeep (by rw [hp]; exact hrecorded)

end Faults

/-- `r'` is what the run without room `r` shows of the run with the diagnostics `D`. -/
def Agrees {α : Type} (D full : List CompileError) :
    EStateM.Result CompileError Reading α → EStateM.Result CompileError Reading α → Prop
  | .ok a t, r' => t.diagnostics = full ∧ r' = .ok a (t.withDiagnostics D)
  | .error e t, r' => t.diagnostics = full ∧ FaultsFirst D e r'

theorem agrees_advance (D full : List CompileError) {s : Reading} (hs : s.diagnostics = D) :
    Agrees D full (advance g (s.withDiagnostics full)) (advance g s) := by
  rcases advance_cases g s with ⟨next, rest, hpull, hrun⟩ | ⟨e, rest, hpull, hrun⟩
  · rw [hrun, advance_of_ok (s := s.withDiagnostics full) hpull]
    refine ⟨rfl, ?_⟩
    subst hs
    rfl
  · rw [hrun, advance_of_error (s := s.withDiagnostics full) hpull]
    exact ⟨rfl, .inl ⟨rfl, hs⟩⟩

/-- **A run without room for diagnostics shows the first error.** -/
theorem Composed.agrees {α : Type} {p : Read α} (hp : Composed g p) {D full : List CompileError}
    (hfull : maxDiagnostics ≤ full.length) (hD : D.length < maxDiagnostics) {s : Reading}
    (hs : s.diagnostics = D) : Agrees D full (p (s.withDiagnostics full)) (p s) := by
  induction hp generalizing s with
  | pure a =>
    exact ⟨rfl, by rw [Reading.withDiagnostics_twice, Reading.withDiagnostics_self hs]; rfl⟩
  | peek => exact ⟨rfl, by rw [Reading.withDiagnostics_twice, Reading.withDiagnostics_self hs]; rfl⟩
  | advance => exact agrees_advance D full hs
  | fail fault => exact ⟨rfl, .inl ⟨rfl, hs⟩⟩
  | @bind _ _ p f _ hf ihp ihf =>
    have h := ihp hs
    cases hrun : p (s.withDiagnostics full) with
    | ok a t =>
      rw [hrun] at h
      have ht := ihf a (s := t.withDiagnostics D) rfl
      rw [Reading.withDiagnostics_twice, Reading.withDiagnostics_self h.1] at ht
      rw [bind_of_ok hrun, bind_of_ok h.2]
      exact ht
    | error e t =>
      rw [hrun] at h
      rw [bind_of_error hrun]
      exact ⟨h.1, h.2.bind hf⟩
  | @nested _ p _ ih =>
    rcases Nat.lt_or_ge s.depth maxNesting with hlt | hge
    · have h := ih (s := { s with depth := s.depth + 1 }) hs
      cases hrun : p (({ s with depth := s.depth + 1 } : Reading).withDiagnostics full) with
      | ok a t =>
        rw [hrun] at h
        rw [nested_of_ok (s := s.withDiagnostics full) hlt hrun, nested_of_ok hlt h.2]
        exact ⟨h.1, rfl⟩
      | error e t =>
        rw [hrun] at h
        rw [nested_of_error (s := s.withDiagnostics full) hlt hrun]
        exact ⟨h.1, h.2.nested hlt⟩
    · rw [nested_too_deep (s := s.withDiagnostics full) hge, nested_too_deep hge]
      exact ⟨rfl, .inl ⟨rfl, hs⟩⟩
  | @recovering _ _ p next resume _ hnext hresume ihp ihnext _ =>
    have h := ihp hs
    cases hrun : p (s.withDiagnostics full) with
    | ok a t =>
      rw [hrun] at h
      have ht := ihnext a (s := t.withDiagnostics D) rfl
      rw [Reading.withDiagnostics_twice, Reading.withDiagnostics_self h.1] at ht
      rw [recovering_of_ok hrun, recovering_of_ok h.2]
      exact ht
    | error e t =>
      rw [hrun] at h
      have hfirst := h.2.recovering hD hnext hresume
      cases e with
      | grammatical e =>
        have hstrict : t.Strict := by
          rw [Reading.Strict, h.1]
          exact hfull
        rw [recovering_of_strict hrun hstrict]
        exact ⟨h.1, hfirst⟩
      | lexical e | malformed e =>
        rw [recovering_of_error hrun (by simp)]
        exact ⟨h.1, hfirst⟩
  | looping _ _ ih => exact ih s.rounds hs

end TwinSyntax.Grammar
