import TwinSyntax.Proofs.Failures

/-!
# The end of the file is taken last

A rule takes a token only if it has looked at it, or if it is the first one of a statement. None of
the tokens that the rules look for is the end of the file, and giving up a statement stops in front
of it. So the end of the file is taken by the last step of a run over a file, and by no other.

**Runs** (`Spares`). All moments of a run at which a token is taken are in front of another token
than the end of the file. The proof goes through the cases of `Alike`.

Main results: `spares_statement`, `spares_listed`, `wholeFile_takes_endOfFile_last`.
-/

namespace TwinSyntax.Grammar

variable {g : Setting} {α β : Type} {p : Read α} {f : α → Read β} {s t u : Reading}
  {plan : Plan g p} {next : (a : α) → Plan g (f a)}

/-- What is taken, if anything is, is not the end of the file. -/
def Moment.Sparing (m : Moment) : Prop := m.step = .take → m.state.current.kind ≠ .endOfFile

theorem Moment.sparing_of_ne {m : Moment} (h : m.step ≠ .take) : m.Sparing :=
  fun htake => absurd htake h

/-- A run from `s` takes no end of the file, and ends well with such values only. -/
structure Spares (plan : Plan g p) (value : α → Prop) (s : Reading) : Prop where
  sparing : ∀ m ∈ plan.moments s, m.Sparing
  value {a : α} {t : Reading} : p s = .ok a t → value a

namespace Spares

variable {value : α → Prop}

theorem anyhow (h : Spares plan value s) : Spares plan (fun _ => True) s :=
  ⟨h.sparing, fun _ => trivial⟩

theorem pure {a : α} (ha : value a) : Spares (.pure a : Plan g _) value s :=
  ⟨List.forall_mem_nil _, fun hrun => by cases hrun; exact ha⟩

theorem fail {fault : SyntaxFault} {h : fault ≠ .noProgram} :
    Spares (.fail fault h : Plan g (@fail α fault)) value s :=
  ⟨List.forall_mem_nil _, fun hrun => by cases hrun⟩

theorem advance {value : Token → Prop} (hne : s.current.kind ≠ .endOfFile)
    (hvalue : value s.current) : Spares (.advance : Plan g _) value s := by
  refine ⟨List.forall_mem_singleton.mpr fun _ => hne, fun hrun => ?_⟩
  obtain ⟨next, rest, -, rfl, -⟩ := advance_eq_ok hrun
  exact hvalue

theorem take (hne : s.current.kind ≠ .endOfFile) : Spares (.advance : Plan g _) (fun _ => True) s :=
  .advance hne trivial

theorem bind {between : α → Prop} {value : β → Prop} (h : Spares plan between s)
    (hnext : ∀ a t, p s = .ok a t → between a → Spares (next a) value t) :
    Spares (.bind plan next) value s := by
  cases hrun : p s with
  | ok a t =>
    have hthen := hnext a t hrun (h.value hrun)
    refine ⟨?_, fun hresult => hthen.value ((bind_of_ok hrun).symm.trans hresult)⟩
    rw [Plan.moments_bind_of_ok hrun, List.forall_mem_append]
    exact ⟨h.sparing, hthen.sparing⟩
  | error e t =>
    refine ⟨?_, fun hresult => ?_⟩
    · rw [Plan.moments_bind_of_error hrun]
      exact h.sparing
    · rw [bind_of_error hrun] at hresult
      cases hresult

theorem peek {f : TokenKind → Read α} {next : (kind : TokenKind) → Plan g (f kind)}
    (h : Spares (next s.current.kind) value s) : Spares (.bind .peek next) value s :=
  ⟨Plan.moments_peek ▸ h.sparing, h.value⟩

theorem either {c : Prop} [inst : Decidable c] {q : Read α} {yes : c → Plan g p}
    {no : ¬ c → Plan g q} (hyes : ∀ h, Spares (yes h) value s) (hno : ∀ h, Spares (no h) value s) :
    Spares (.either yes no) value s := by
  cases inst with
  | isTrue h => exact hyes h
  | isFalse h => exact hno h

theorem expect (kind : TokenKind) {expecting : Expectation} (hkind : kind ≠ .endOfFile) :
    Spares (.expect kind expecting : Plan g _) (fun _ => True) s :=
  .peek (.either (fun h => .advance (h ▸ hkind) trivial) fun _ => .peek .fail)

theorem nested (h : Spares plan value { s with depth := s.depth + 1 }) :
    Spares (.nested plan) value s := by
  rcases Nat.lt_or_ge s.depth maxNesting with hlt | hge
  · refine ⟨?_, fun {a t} hrun => ?_⟩
    · rw [Plan.moments_nested hlt, List.forall_mem_cons, List.forall_mem_append,
        List.forall_mem_singleton]
      exact ⟨Moment.sparing_of_ne (by simp), h.sparing, Moment.sparing_of_ne (by simp)⟩
    · cases hcontent : p { s with depth := s.depth + 1 } with
      | ok b u =>
        rw [nested_of_ok hlt hcontent] at hrun
        cases hrun
        exact h.value hcontent
      | error e u =>
        rw [nested_of_error hlt hcontent] at hrun
        cases hrun
  · refine ⟨?_, fun hrun => ?_⟩
    · rw [Plan.moments_nested_too_deep hge, List.forall_mem_singleton]
      exact Moment.sparing_of_ne (by simp)
    · rw [nested_too_deep hge] at hrun
      cases hrun

theorem recovering {next : α → Read β} {resume : Read β} {planNext : (a : α) → Plan g (next a)}
    {planResume : Plan g resume} (h : Spares plan value s)
    (hnext : ∀ a t, Spares (planNext a) (fun _ => True) t)
    (hresume : ∀ t, Spares planResume (fun _ => True) t) :
    Spares (.recovering plan planNext planResume) (fun _ => True) s := by
  refine ⟨?_, fun _ => trivial⟩
  rw [Plan.moments, List.forall_mem_append]
  refine ⟨h.sparing, ?_⟩
  cases hrun : p s with
  | ok a t => exact (hnext a t).sparing
  | error e t =>
    cases e with
    | lexical e | malformed e => exact List.forall_mem_nil _
    | grammatical e =>
      rw [List.forall_mem_cons, List.forall_mem_append]
      refine ⟨Moment.sparing_of_ne (by simp), ?_, ?_⟩
      · unfold recordMoments
        split
        · exact List.forall_mem_nil _
        · exact List.forall_mem_singleton.mpr (Moment.sparing_of_ne (by simp))
      · cases hrecord : record e { t with depth := s.depth } with
        | ok _ u => exact (hresume u).sparing
        | error _ u => exact List.forall_mem_nil _

theorem looping {loop : Nat → Read α} {plan : (n : Nat) → Plan g (loop n)} {settled : Settled loop}
    (h : ∀ n, Spares (plan n) value s) : Spares (.looping plan settled) value s :=
  ⟨(h s.rounds).sparing, (h s.rounds).value⟩

end Spares

/-! ## Lists -/

section Lists

variable {deeper : Deeper} {plans : Plans g deeper} {closer : TokenKind}

/-- Giving up a statement stops in front of the end of the file. -/
theorem spares_skipStatement (closer : TokenKind) (n : Nat) (s : Reading) :
    Spares (planSkipStatement closer n : Plan g _) (fun _ => True) s := by
  induction n generalizing s with
  | zero => exact .pure trivial
  | succ n ih =>
    refine .peek (.either (fun hterminator => ?_) fun _ =>
      .either (fun _ => .pure trivial) fun hstop => ?_)
    · have hne : s.current.kind ≠ .endOfFile := hterminator ▸ terminator_ne_endOfFile g.surface
      exact (Spares.take hne).bind fun _ _ _ _ => .pure trivial
    · have hne : s.current.kind ≠ .endOfFile := fun hend => hstop (.inl hend)
      exact (Spares.take hne).bind fun _ t _ _ => ih t

theorem spares_continueStatements {value : Node → Prop}
    (hlisted : ∀ s, Spares (planListed plans) value s) (list : Option Node) (n : Nat)
    (s : Reading) : Spares (planContinueStatements plans closer list n) (fun _ => True) s := by
  induction n generalizing list s with
  | zero => exact .pure trivial
  | succ n ih =>
    refine .peek (.either (fun _ => .pure trivial) fun _ => ?_)
    refine (hlisted s).recovering (fun _ t => ih _ t) fun t => ?_
    exact .bind (.looping fun n => spares_skipStatement closer n t) fun _ u _ _ => ih list u

theorem spares_statements {value : Node → Prop} (hlisted : ∀ s, Spares (planListed plans) value s)
    (closer : TokenKind) (s : Reading) : Spares (planStatements plans closer) (fun _ => True) s :=
  .looping fun n => spares_continueStatements hlisted none n s

end Lists

/-! ## All rules -/

/-- **No rule takes the end of the file.** -/
theorem Alike.spares {α : Type} {p p' : Read α} {ends : Bool} {kind kind' : TokenKind}
    {value : α → α → Prop} {plan : Plan g p} {plan' : Plan g p'}
    (h : Alike (.same g) ends kind kind' value plan plan') (hkind : s.current.kind = kind) :
    Spares plan (fun a => ∃ a', value a a') s := by
  induction h generalizing s with
  | pure ha => exact .pure ⟨_, ha⟩
  | fail _ => exact .fail
  | peek _ ih =>
    subst hkind
    exact .peek (ih rfl)
  | take hinner => exact .advance (hkind ▸ hinner.2) ⟨_, rfl, hkind⟩
  | finish hterminator =>
    refine .advance ?_ ⟨_, rfl, hkind⟩
    rw [hkind, hterminator]
    exact terminator_ne_endOfFile g.surface
  | bind _ _ ih ihnext =>
    exact (ih hkind).bind fun a t _ ⟨a', ha⟩ => ihnext t.current.kind a a' ha rfl
  | bindEnd _ _ ih ihnext =>
    exact (ih hkind).bind fun a t _ ⟨a', ha⟩ =>
      ihnext t.current.kind t.current.kind a a' (.inl rfl) ha rfl
  | nested _ ih => exact .nested (ih hkind)
  | looping _ ih => exact .looping fun n => ih n hkind
  | block _ ih =>
    -- neither brace is the end of the file, and the statements between them do not take it either
    have hlist := spares_statements (fun s => ih s.current.kind rfl) .closeBrace
    refine (Spares.expect .openBrace nofun).bind fun _ t _ _ => ?_
    refine (Spares.nested (hlist _)).bind fun body u _ _ => ?_
    exact (Spares.expect .closeBrace nofun).bind fun _ _ _ _ => .pure ⟨body, rfl⟩

/-- At the end of a run, the token that is expected is taken if it is there. -/
theorem moments_last {kind : TokenKind} {expecting : Expectation} (a : α) (s : Reading) :
    (Plan.bind (.expect kind expecting) fun _ => .pure a : Plan g _).moments s =
      if s.current.kind = kind then [⟨.take, s⟩] else [] := by
  have hexpect : (Plan.bind (.expect kind expecting) fun _ => .pure a : Plan g _).moments s =
      (Plan.expect kind expecting : Plan g _).moments s := by
    cases hrun : expect g kind expecting s with
    | ok token t => exact (Plan.moments_bind_of_ok hrun).trans (List.append_nil _)
    | error e t => exact Plan.moments_bind_of_error hrun
  rw [hexpect]
  split
  · next hkind => exact Plan.moments_expect hkind
  · next hkind =>
    exact Plan.moments_peek.trans (Plan.moments_either_no hkind)

section Level

variable (g) (n : Nat) (s : Reading)

theorem alikeRules_same : AlikeRules (.same g) (plansLevel g n) (plansLevel g n) := alike_level n

theorem spares_unary : Spares (planUnary (plansLevel g n)) (fun _ => True) s :=
  have halike : Alike (.same g) true _ _ _ _ _ := alike_unary (alikeRules_same g n) s.current.kind
  (halike.spares rfl).anyhow

theorem spares_climb (left : Node) (least : Nat) :
    Spares (planClimb (plansLevel g n) left least) (fun _ => True) s :=
  have hleft : (Likeness.same g).node left left := rfl
  have halike : Alike (.same g) true _ _ _ _ _ :=
    alike_climb (alikeRules_same g n) hleft least s.current.kind
  (halike.spares rfl).anyhow

theorem spares_statement : Spares (planStatement (plansLevel g n)) (fun _ => True) s :=
  ((alike_statement (alikeRules_same g n) _).spares rfl).anyhow

theorem spares_listed : Spares (planListed (plansLevel g n)) (fun _ => True) s :=
  ((alike_listed (alikeRules_same g n) _).spares rfl).anyhow

/-- The statements of a file, without the end of the file behind them. -/
def planFileBody (g : Setting) : Plan g ((level g (maxNesting + 1)).statements .endOfFile) :=
  (plansLevel g (maxNesting + 1)).statements .endOfFile

/-- **The end of the file is taken behind the statements**, by the last step of a run over a file,
or not at all. -/
theorem wholeFile_takes_endOfFile_last :
    (∀ m ∈ (planFileBody g).moments s, m.Sparing) ∧
      ∃ last, (planWholeFile g).moments s = (planFileBody g).moments s ++ last ∧
        (last = [] ∨ ∃ t, last = [⟨.take, t⟩] ∧ t.current.kind = .endOfFile) := by
  have hbody : Spares (planFileBody g) (fun _ => True) s :=
    spares_statements (spares_listed g maxNesting) _ s
  refine ⟨hbody.sparing, ?_⟩
  cases hrun : (level g (maxNesting + 1)).statements .endOfFile s with
  | error e t =>
    exact ⟨[], (Plan.moments_bind_of_error hrun).trans (List.append_nil _).symm, .inl rfl⟩
  | ok body t =>
    refine ⟨_, Plan.moments_bind_of_ok hrun, ?_⟩
    rw [moments_last]
    by_cases hend : t.current.kind = .endOfFile
    · exact .inr ⟨t, if_pos hend, hend⟩
    · exact .inl (if_neg hend)

end Level

end TwinSyntax.Grammar
