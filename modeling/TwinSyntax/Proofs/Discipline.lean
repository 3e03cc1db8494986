import TwinSyntax.Proofs.Failures

/-!
# The discipline of runs

Errors unwind through many levels of lists, each of which may record the error, give up the
statement and go on. Yet no error is recorded twice: between two errors that are recorded, a token
is taken, or else the first of them was found at the end of the file.

**Runs** (`Disciplined`). What the errors that a run has recorded have to do with the place where it
stops. A run that ends well, or fails with an error of its own, has passed all of them
(`Beyond`), so the next error is found further on. The proof goes through the cases of `Alike`.

**Lists** (`ListDisciplined`). A list may stop right in front of its closer without having passed
its last error, because giving up a statement does not take the closer. Whoever opened the list then
takes the closer, or finds the next error at the end of the file (`disciplined_closed`).

Main results: `Alike.disciplined`, `disciplined_wholeFile`.
-/

namespace TwinSyntax.Grammar

variable {g : Setting} {α β : Type} {p : Read α} {f : α → Read β} {s t u : Reading}
  {plan : Plan g p} {next : (a : α) → Plan g (f a)}

/-! ## Runs -/

/-- The errors of a run from `s` were found at the tokens where they were raised, each further on
than the one before. -/
structure Orderly (g : Setting) (s : Reading) (failures : List Failure) : Prop where
  onward : ∀ f ∈ failures, Onward g s f.2
  found : ∀ f ∈ failures, f.1.At f.2.current
  passed : failures.Pairwise fun f f' => Passed g f.2 f'.2

/-- A run from `s` goes on at `t`, beyond its errors. -/
structure Beyond (g : Setting) (s : Reading) (failures : List Failure) (t : Reading) : Prop where
  onward : Onward g s t
  passed : ∀ f ∈ failures, Passed g f.2 t
  isOpen : t.Open

/-- How a run from `s` with these errors may end. -/
inductive Ends (g : Setting) (s : Reading) (failures : List Failure) (value : α → Prop) :
    EStateM.Result CompileError Reading α → Prop
  | done {a : α} {t : Reading} : Beyond g s failures t → value a → Ends g s failures value (.ok a t)
  | failed {e : SyntaxError} {t : Reading} :
      Beyond g s failures t → e.At t.current → Ends g s failures value (.error (.grammatical e) t)
  | unreadable {e : LexError} {t : Reading} :
      t.Open → Ends g s failures value (.error (.lexical e) t)
  | gaveUp {e : SyntaxError} {t : Reading} :
      t.diagnostics.length = maxDiagnostics → e.fault = .tooManyErrors →
      Ends g s failures value (.error (.grammatical e) t)

/-- A run from `s` is orderly and ends accordingly. -/
structure Disciplined (plan : Plan g p) (value : α → Prop) (s : Reading) : Prop where
  orderly : Orderly g s (plan.failures s)
  ends : Ends g s (plan.failures s) value (p s)

theorem Orderly.nil (g : Setting) (s : Reading) : Orderly g s [] := ⟨by simp, by simp, .nil⟩

/-- The errors of the run behind `t` come after those in front of it. -/
theorem Orderly.join {first second : List Failure} (h : Orderly g s first) (hst : Onward g s t)
    (h' : Orderly g t second) (hcross : ∀ f ∈ first, ∀ f' ∈ second, Passed g f.2 f'.2) :
    Orderly g s (first ++ second) := by
  refine ⟨?_, ?_, List.pairwise_append.mpr ⟨h.passed, h'.passed, hcross⟩⟩
  · rw [List.forall_mem_append]
    exact ⟨h.onward, fun f hf => hst.trans (h'.onward f hf)⟩
  · rw [List.forall_mem_append]
    exact ⟨h.found, h'.found⟩

theorem Orderly.append {first second : List Failure} (h : Orderly g s first)
    (hbeyond : Beyond g s first t) (h' : Orderly g t second) : Orderly g s (first ++ second) :=
  h.join hbeyond.onward h' fun f hf f' hf' => (hbeyond.passed f hf).trans (h'.onward f' hf')

theorem Beyond.append {first second : List Failure} (h : Beyond g s first t)
    (h' : Beyond g t second u) : Beyond g s (first ++ second) u := by
  refine ⟨h.onward.trans h'.onward, ?_, h'.isOpen⟩
  rw [List.forall_mem_append]
  exact ⟨fun f hf => (h.passed f hf).trans h'.onward, h'.passed⟩

theorem Ends.append {first second : List Failure} {value : α → Prop}
    {r : EStateM.Result CompileError Reading α} (h : Beyond g s first t)
    (h' : Ends g t second value r) : Ends g s (first ++ second) value r := by
  cases h' with
  | done hbeyond hvalue => exact .done (h.append hbeyond) hvalue
  | failed hbeyond hat => exact .failed (h.append hbeyond) hat
  | unreadable hopen => exact .unreadable hopen
  | gaveUp hfull hfault => exact .gaveUp hfull hfault

/-- An end does not depend on the depth. -/
theorem Beyond.atDepth {failures : List Failure} {d d' : Nat}
    (h : Beyond g { s with depth := d } failures t) : Beyond g s failures { t with depth := d' } :=
  ⟨(Onward.here rfl rfl : Onward g s { s with depth := d }).trans (h.onward.of_same rfl rfl),
    fun f hf => (h.passed f hf).trans (.here rfl rfl), h.isOpen⟩

theorem Orderly.atDepth {failures : List Failure} {d : Nat}
    (h : Orderly g { s with depth := d } failures) : Orderly g s failures :=
  ⟨fun f hf => (Onward.here rfl rfl : Onward g s { s with depth := d }).trans (h.onward f hf),
    h.found, h.passed⟩

namespace Disciplined

variable {value : α → Prop}

/-- A run that takes and records nothing. -/
theorem of_still {r : EStateM.Result CompileError Reading α} (hfailures : plan.failures s = [])
    (hrun : p s = r) (h : Beyond g s [] s → Ends g s [] value r) (hs : s.Open) :
    Disciplined plan value s := by
  refine ⟨hfailures ▸ .nil g s, ?_⟩
  rw [hfailures, hrun]
  exact h ⟨.refl g s, by simp, hs⟩

theorem advance {value : Token → Prop} (hs : s.Open) (hne : s.current.kind ≠ .endOfFile)
    (hvalue : value s.current) : Disciplined (.advance : Plan g _) value s := by
  refine ⟨.nil g s, ?_⟩
  rcases advance_cases g s with ⟨next, rest, -, hrun⟩ | ⟨e, rest, -, hrun⟩
  · have hpassed := Onward.advance hne hrun
    rw [hrun]
    exact .done ⟨hpassed.1, by simp [Plan.failures, Plan.moments, Moment.failure?], hs⟩ hvalue
  · rw [hrun]
    exact .unreadable hs

theorem bind {between : α → Prop} {value : β → Prop} (h : Disciplined plan between s)
    (hnext : ∀ a t, p s = .ok a t → between a → t.Open → Disciplined (next a) value t) :
    Disciplined (.bind plan next) value s := by
  obtain ⟨horderly, hends⟩ := h
  cases hrun : p s with
  | ok a t =>
    rw [hrun] at hends
    cases hends with
    | done hbeyond hvalue =>
      obtain ⟨horderly', hends'⟩ := hnext a t hrun hvalue hbeyond.isOpen
      refine ⟨?_, ?_⟩
      · rw [Plan.failures_bind_of_ok hrun]
        exact horderly.append hbeyond horderly'
      · rw [Plan.failures_bind_of_ok hrun, bind_of_ok hrun]
        exact hends'.append hbeyond
  | error e t =>
    rw [hrun] at hends
    refine ⟨?_, ?_⟩
    · rw [Plan.failures_bind_of_error hrun]
      exact horderly
    · rw [Plan.failures_bind_of_error hrun, bind_of_error hrun]
      cases hends with
      | failed hbeyond hat => exact .failed hbeyond hat
      | unreadable hopen => exact .unreadable hopen
      | gaveUp hfull hfault => exact .gaveUp hfull hfault

theorem pure {a : α} (hs : s.Open) (ha : value a) : Disciplined (.pure a : Plan g _) value s :=
  of_still rfl rfl (fun hbeyond => .done hbeyond ha) hs

theorem fail {fault : SyntaxFault} {h : fault ≠ .noProgram} (hs : s.Open)
    (hfound : FoundAt s.current.kind fault) :
    Disciplined (.fail fault h : Plan g (fail fault)) value s :=
  of_still rfl rfl (fun hbeyond => .failed hbeyond ⟨rfl, hfound⟩) hs

theorem peek {f : TokenKind → Read α} {next : (kind : TokenKind) → Plan g (f kind)}
    (h : Disciplined (next s.current.kind) value s) : Disciplined (.bind .peek next) value s := by
  refine ⟨?_, ?_⟩
  · rw [Plan.failures_peek]
    exact h.orderly
  · rw [Plan.failures_peek]
    exact h.ends

theorem either {c : Prop} [inst : Decidable c] {q : Read α} {yes : c → Plan g p}
    {no : ¬ c → Plan g q} (hyes : ∀ h, Disciplined (yes h) value s)
    (hno : ∀ h, Disciplined (no h) value s) : Disciplined (.either yes no) value s := by
  cases inst with
  | isTrue h => exact hyes h
  | isFalse h => exact hno h

theorem expect {kind : TokenKind} {expecting : Expectation} (hs : s.Open)
    (hkind : kind ≠ .endOfFile) :
    Disciplined (.expect kind expecting : Plan g _) (fun _ => True) s := by
  refine .peek (.either (fun h => ?_) fun _ => ?_)
  · exact .advance hs (h ▸ hkind) trivial
  · exact .peek (.fail hs (.inr ⟨expecting, rfl⟩))

theorem nested (hs : s.Open)
    (h : Disciplined plan value { s with depth := s.depth + 1 }) :
    Disciplined (.nested plan) value s := by
  rcases Nat.lt_or_ge s.depth maxNesting with hlt | hge
  · obtain ⟨horderly, hends⟩ := h
    refine ⟨?_, ?_⟩
    · rw [Plan.failures_nested hlt]
      exact horderly.atDepth
    · rw [Plan.failures_nested hlt]
      cases hrun : p { s with depth := s.depth + 1 } with
      | ok a t =>
        rw [hrun] at hends
        rw [nested_of_ok hlt hrun]
        cases hends with
        | done hbeyond hvalue => exact .done hbeyond.atDepth hvalue
      | error e t =>
        rw [hrun] at hends
        rw [nested_of_error hlt hrun]
        cases hends with
        | failed hbeyond hat => exact .failed hbeyond.atDepth hat
        | unreadable hopen => exact .unreadable hopen
        | gaveUp hfull hfault => exact .gaveUp hfull hfault
  · refine .of_still (Plan.failures_nested_too_deep hge) (nested_too_deep hge)
      (fun hbeyond => ?_) hs
    exact .failed hbeyond.atDepth ⟨rfl, .inl rfl⟩

end Disciplined

/-! ## Lists -/

/-- How a list that was started at `s` may end. It stops in front of its closer or the end of the
file, but not always beyond its errors. -/
inductive ListEnds (g : Setting) (s : Reading) (closer : TokenKind) (failures : List Failure) :
    EStateM.Result CompileError Reading α → Prop
  | done {a : α} {t : Reading} :
      Onward g s t → (∀ f ∈ failures, Onward g f.2 t) → t.Open →
      t.current.kind = closer ∨ t.current.kind = .endOfFile → ListEnds g s closer failures (.ok a t)
  | unreadable {e : LexError} {t : Reading} :
      t.Open → ListEnds g s closer failures (.error (.lexical e) t)
  | gaveUp {e : SyntaxError} {t : Reading} :
      t.diagnostics.length = maxDiagnostics → e.fault = .tooManyErrors →
      ListEnds g s closer failures (.error (.grammatical e) t)

structure ListDisciplined (plan : Plan g p) (closer : TokenKind) (s : Reading) : Prop where
  orderly : Orderly g s (plan.failures s)
  ends : ListEnds g s closer (plan.failures s) (p s)

section Lists

variable {closer : TokenKind}

theorem ListEnds.append {first second : List Failure} {r : EStateM.Result CompileError Reading α}
    (hst : Onward g s t) (hfirst : ∀ f ∈ first, Onward g f.2 t)
    (h : ListEnds g t closer second r) : ListEnds g s closer (first ++ second) r := by
  cases h with
  | done htu hsecond hopen hstop =>
    refine .done (hst.trans htu) ?_ hopen hstop
    rw [List.forall_mem_append]
    exact ⟨fun f hf => (hfirst f hf).trans htu, hsecond⟩
  | unreadable hopen => exact .unreadable hopen
  | gaveUp hfull hfault => exact .gaveUp hfull hfault

/-- An error joins those that the run which raised it has passed. -/
theorem Orderly.concat {failures : List Failure} {e : SyntaxError} (h : Orderly g s failures)
    (hbeyond : Beyond g s failures t) (he : e.At t.current) (d : Nat) :
    Orderly g s (failures ++ [(e, { t with depth := d })]) ∧
      ∀ f ∈ failures ++ [(e, { t with depth := d })], Onward g f.2 t := by
  refine ⟨h.append hbeyond ⟨?_, ?_, List.pairwise_singleton _ _⟩, ?_⟩
  · rw [List.forall_mem_singleton]
    exact .here rfl rfl
  · rw [List.forall_mem_singleton]
    exact he
  · rw [List.forall_mem_append, List.forall_mem_singleton]
    exact ⟨fun f hf => (hbeyond.passed f hf).1, .here rfl rfl⟩

/-- Giving up a statement records nothing. -/
theorem failures_skipStatement (n : Nat) (s : Reading) :
    (planSkipStatement closer n : Plan g _).failures s = [] := by
  induction n generalizing s with
  | zero => rfl
  | succ n ih =>
    refine Plan.failures_peek.trans ?_
    by_cases hterminator : s.current.kind = g.surface.terminator
    · refine (Plan.failures_either_yes hterminator).trans ?_
      exact Plan.failures_bind_eq_self fun _ _ => rfl
    · refine (Plan.failures_either_no hterminator).trans ?_
      by_cases hstop : s.current.kind = .endOfFile ∨ s.current.kind = closer
      · exact Plan.failures_either_yes hstop
      · refine (Plan.failures_either_no hstop).trans ?_
        exact Plan.failures_bind_eq_self fun _ t => ih t

/-- Giving up a statement leads on, or meets a lexical error. -/
theorem skipStatement_cases (g : Setting) (closer : TokenKind) (n : Nat) (s : Reading) :
    (∃ t, skipStatement g closer n s = .ok () t ∧ Onward g s t ∧ t.diagnostics = s.diagnostics) ∨
    ∃ e t, skipStatement g closer n s = .error (.lexical e) t ∧ t.diagnostics = s.diagnostics := by
  induction n generalizing s with
  | zero => exact .inl ⟨s, rfl, .refl g s, rfl⟩
  | succ n ih =>
    rw [skipStatement, peek_bind]
    have hadvance {f : Token → Read Unit} (hne : s.current.kind ≠ .endOfFile)
        (hf : ∀ token t,
          (∃ u, f token t = .ok () u ∧ Onward g t u ∧ u.diagnostics = t.diagnostics) ∨
          ∃ e u, f token t = .error (.lexical e) u ∧ u.diagnostics = t.diagnostics) :
        (∃ t, (advance g >>= f) s = .ok () t ∧ Onward g s t ∧ t.diagnostics = s.diagnostics) ∨
        ∃ e t, (advance g >>= f) s = .error (.lexical e) t ∧ t.diagnostics = s.diagnostics := by
      rcases advance_cases g s with ⟨next, rest, -, hrun⟩ | ⟨e, rest, -, hrun⟩
      · have hst := (Onward.advance hne hrun).1
        rw [bind_of_ok hrun]
        rcases hf s.current _ with ⟨u, hu, htu, hsame⟩ | ⟨e, u, hu, hsame⟩
        · exact .inl ⟨u, hu, hst.trans htu, hsame⟩
        · exact .inr ⟨e, u, hu, hsame⟩
      · rw [bind_of_error hrun]
        exact .inr ⟨e, _, rfl, rfl⟩
    split
    · next hterminator =>
      refine hadvance (hterminator ▸ terminator_ne_endOfFile g.surface) fun _ t => ?_
      exact .inl ⟨t, rfl, .refl g t, rfl⟩
    · split
      · exact .inl ⟨s, rfl, .refl g s, rfl⟩
      · next hstop => exact hadvance (fun h => hstop (.inl h)) fun _ t => ih t

section Recovering

variable {value : α → Prop} {next : α → Read β} {resume : Read β}
  {planNext : (a : α) → Plan g (next a)} {planResume : Plan g resume}

/-- What becomes of a statement that failed, as long as there was room for its error: the list goes
on further on, or reading is given up. -/
theorem listDisciplined_failed {e : SyntaxError} (horderly : Orderly g s (plan.failures s))
    (hrun : p s = .error (.grammatical e) t) (hbeyond : Beyond g s (plan.failures s) t)
    (hat : e.At t.current)
    (hresume : ∀ u, u.current = t.current → u.unread = t.unread → u.rounds = t.rounds → u.Open →
      ListDisciplined planResume closer u ∧ ∀ f ∈ planResume.failures u, Passed g u f.2) :
    ListDisciplined (.recovering plan planNext planResume) closer s := by
  obtain ⟨hconcat, honward⟩ := horderly.concat hbeyond hat s.depth
  have hfailures :=
    @Plan.failures_recovering_of_open _ _ _ _ _ _ plan _ _ planNext planResume _ hrun hbeyond.isOpen
  have hgrammatical : recovering p next resume s =
      (record e >>= fun _ => resume) { t with depth := s.depth } := recovering_of_grammatical hrun
  generalize hr : ({ t with depth := s.depth } : Reading) = r at *
  have hopen : r.Open := hr ▸ hbeyond.isOpen
  rcases record_of_open hopen e with ⟨hopen', hrecord⟩ | ⟨hfull, hrecord⟩
  · have hplace : Onward g t (r.recorded e) := by
      rw [← hr]
      exact .here rfl rfl
    obtain ⟨hlist, hpassed⟩ := hresume (r.recorded e) (by rw [← hr]; rfl) (by rw [← hr]; rfl)
      (by rw [← hr]; rfl) hopen'
    rw [hrecord, List.append_cons] at hfailures
    rw [bind_of_ok hrecord] at hgrammatical
    have hbefore : ∀ f ∈ plan.failures s ++ [(e, r)], Onward g f.2 (r.recorded e) :=
      fun f hf => (honward f hf).trans hplace
    refine ⟨?_, ?_⟩
    · rw [hfailures]
      exact hconcat.join (hbeyond.onward.trans hplace) hlist.orderly fun f hf f' hf' =>
        (hbefore f hf).trans_passed (hpassed f' hf')
    · rw [hfailures, hgrammatical]
      exact hlist.ends.append (hbeyond.onward.trans hplace) hbefore
  · rw [hrecord] at hfailures
    rw [bind_of_error hrecord] at hgrammatical
    refine ⟨?_, ?_⟩
    · rw [hfailures]
      exact hconcat
    · rw [hfailures, hgrammatical]
      exact .gaveUp hfull rfl

/-- **A recovery** records an error behind those that were passed, and passes it before it goes
on. -/
theorem listDisciplined_recovering (h : Disciplined plan value s)
    (hnext : ∀ a t, p s = .ok a t → t.Open → ListDisciplined (planNext a) closer t)
    (hresume : ∀ e t u, p s = .error (.grammatical e) t → u.current = t.current →
      u.unread = t.unread → u.rounds = t.rounds → u.Open →
      ListDisciplined planResume closer u ∧ ∀ f ∈ planResume.failures u, Passed g u f.2) :
    ListDisciplined (.recovering plan planNext planResume) closer s := by
  obtain ⟨horderly, hends⟩ := h
  cases hrun : p s with
  | ok a t =>
    rw [hrun] at hends
    cases hends with
    | done hbeyond _ =>
      have h := hnext a t hrun hbeyond.isOpen
      refine ⟨?_, ?_⟩
      · rw [Plan.failures_recovering_of_ok hrun]
        exact horderly.append hbeyond h.orderly
      · rw [Plan.failures_recovering_of_ok hrun, recovering_of_ok hrun]
        exact h.ends.append hbeyond.onward fun f hf => (hbeyond.passed f hf).1
  | error e t =>
    rw [hrun] at hends
    cases hends with
    | failed hbeyond hat =>
      exact listDisciplined_failed horderly hrun hbeyond hat fun u => hresume _ t u hrun
    | unreadable hopen =>
      refine ⟨?_, ?_⟩
      · rw [Plan.failures_recovering_of_lexical hrun]
        exact horderly
      · rw [recovering_of_error hrun (by simp)]
        exact .unreadable hopen
    | gaveUp hfull hfault =>
      have hstrict : t.Strict := Nat.le_of_eq hfull.symm
      refine ⟨?_, ?_⟩
      · rw [Plan.failures_recovering_of_strict hrun hstrict]
        exact horderly
      · rw [recovering_of_strict hrun hstrict]
        exact .gaveUp hfull hfault

end Recovering

variable {deeper : Deeper} {plans : Plans g deeper} {list : Option Node} {n : Nat}

theorem ListDisciplined.peek {f : TokenKind → Read α} {next : (kind : TokenKind) → Plan g (f kind)}
    (h : ListDisciplined (next s.current.kind) closer s) :
    ListDisciplined (.bind .peek next) closer s := by
  refine ⟨?_, ?_⟩
  · rw [Plan.failures_peek]
    exact h.orderly
  · rw [Plan.failures_peek]
    exact h.ends

theorem ListDisciplined.either_no {c : Prop} [inst : Decidable c] {q : Read α} {yes : c → Plan g p}
    {no : ¬ c → Plan g q} (hc : ¬ c) (h : ListDisciplined (no hc) closer s) :
    ListDisciplined (.either yes no) closer s := by
  cases inst with
  | isTrue hp => exact absurd hp hc
  | isFalse _ => exact h

theorem listDisciplined_stop (hopen : s.Open)
    (hstop : s.current.kind = closer ∨ s.current.kind = .endOfFile) :
    (planContinueStatements plans closer list (n + 1)).failures s = [] ∧
      ListDisciplined (planContinueStatements plans closer list (n + 1)) closer s := by
  have hfailures : (planContinueStatements plans closer list (n + 1)).failures s = [] := by
    exact Plan.failures_peek.trans (Plan.failures_either_yes hstop)
  refine ⟨hfailures, ?_, ?_⟩
  · rw [hfailures]
    exact .nil g s
  · rw [hfailures, continueStatements_succ, if_pos hstop]
    exact .done (.refl g s) (by simp) hopen hstop

/-- Behind an error, a list goes on at a token further on, or not at all. -/
theorem listDisciplined_resume
    (ih : ∀ s : Reading, s.Roomy → s.Open → s.remaining < n →
      ListDisciplined (planContinueStatements plans closer list n) closer s)
    (hs : s.Roomy) (hopen : s.Open) (hn : s.remaining ≤ n) (hpos : 0 < n)
    {resume : Plan g (do
      looping (skipStatement g closer); continueStatements g deeper closer list n)}
    (hplan : resume =
      .bind (.looping (planSkipStatement closer) (settled_skipStatement closer)) fun _ =>
        planContinueStatements plans closer list n) :
    ListDisciplined resume closer s ∧ ∀ f ∈ resume.failures s, Passed g s f.2 := by
  subst hplan
  have hnone : (Plan.looping (planSkipStatement closer) (settled_skipStatement closer) :
      Plan g _).failures s = [] := failures_skipStatement s.rounds s
  rcases skipStatement_cases g closer s.rounds s with
      ⟨t, hskip, hst, hsame⟩ | ⟨e, t, hskip, hsame⟩
  · have hlooping : looping (skipStatement g closer) s = .ok () t := hskip
    have hopen' : t.Open := by
      rw [Reading.Open, hsame]
      exact hopen
    have hroomy := ((composed_skipStatement closer).later_of_ok hlooping).roomy hs
    have hlist (h : ListDisciplined (planContinueStatements plans closer list n) closer t) :
        ListDisciplined (.bind (.looping (planSkipStatement closer) (settled_skipStatement closer))
          fun _ => planContinueStatements plans closer list n) closer s := by
      refine ⟨?_, ?_⟩
      · rw [Plan.failures_bind_of_ok hlooping, hnone]
        exact (Orderly.nil g s).join hst h.orderly (List.forall_mem_nil _)
      · rw [Plan.failures_bind_of_ok hlooping, hnone, bind_of_ok hlooping]
        exact ListEnds.append hst (List.forall_mem_nil _) h.ends
    rw [Plan.failures_bind_of_ok hlooping, hnone, List.nil_append]
    rcases skipStatement_progress hs hskip with hlt | ⟨rfl, hstop⟩
    · have h := ih t hroomy hopen' (by omega)
      exact ⟨hlist h, fun f hf => Passed.trans ⟨hst, .inl hlt⟩ (h.orderly.onward f hf)⟩
    · obtain ⟨n, rfl⟩ := Nat.exists_eq_add_one_of_ne_zero (Nat.ne_of_gt hpos)
      obtain ⟨hempty, h⟩ : (planContinueStatements plans closer list (n + 1)).failures t = [] ∧
          ListDisciplined (planContinueStatements plans closer list (n + 1)) closer t :=
        listDisciplined_stop hopen' hstop
      refine ⟨hlist h, ?_⟩
      rw [hempty]
      exact List.forall_mem_nil _
  · have hlooping : looping (skipStatement g closer) s = .error (.lexical e) t := hskip
    rw [Plan.failures_bind_of_error hlooping, hnone]
    refine ⟨⟨?_, ?_⟩, List.forall_mem_nil _⟩
    · rw [Plan.failures_bind_of_error hlooping, hnone]
      exact .nil g s
    · rw [bind_of_error hlooping]
      refine .unreadable ?_
      rw [Reading.Open, hsame]
      exact hopen

/-- **Lists are disciplined**, if their members are. -/
theorem listDisciplined_continue {value : Node → Prop}
    (hlisted : ∀ s : Reading, s.Roomy → s.Open → Disciplined (planListed plans) value s)
    (list : Option Node) (hs : s.Roomy) (hopen : s.Open) (hn : s.remaining < n) :
    ListDisciplined (planContinueStatements plans closer list n) closer s := by
  induction n generalizing list s with
  | zero => omega
  | succ n ih =>
    by_cases hstop : s.current.kind = closer ∨ s.current.kind = .endOfFile
    · exact (listDisciplined_stop hopen hstop).2
    · have hpos := remaining_pos fun h => hstop (.inr h)
      have hround : ListDisciplined (.recovering (planListed plans)
          (fun statement => planContinueStatements plans closer (some (joined list statement)) n)
          (.bind (.looping (planSkipStatement closer) (settled_skipStatement closer)) fun _ =>
            planContinueStatements plans closer list n)) closer s := by
        refine listDisciplined_recovering (hlisted s hs hopen) (fun tree t hrun hopen' => ?_) ?_
        · have hlt := eager_listed plans s _ _ hrun
          have hroomy := ((planListed plans).composed.later_of_ok hrun).roomy hs
          exact ih _ hroomy hopen' (by omega)
        · intro e t u hrun hcurrent hunread hrounds hopen'
          have hlater := (planListed plans).composed.later_of_error hrun
          have hsame := remaining_of_same hcurrent hunread
          have hroomy : u.Roomy := by
            rw [Reading.Roomy, hsame, hrounds]
            exact hlater.roomy hs
          have hle := hlater.remaining
          exact listDisciplined_resume (fun s => ih list) hroomy hopen' (by omega) (by omega) rfl
      exact .peek (.either_no hstop hround)

theorem listDisciplined_statements {value : Node → Prop}
    (hlisted : ∀ s : Reading, s.Roomy → s.Open → Disciplined (planListed plans) value s)
    (hs : s.Roomy) (hopen : s.Open) : ListDisciplined (planStatements plans closer) closer s := by
  have h : ListDisciplined (planContinueStatements plans closer none s.rounds) closer s :=
    listDisciplined_continue hlisted none hs hopen hs
  exact ⟨h.orderly, h.ends⟩

end Lists

/-! ## Blocks -/

/-- A list that is closed has passed its errors: the closer is taken behind them, or the end of the
file is where the next error is found. -/
theorem disciplined_closed {list : Plan g p} {value : α → Prop} (hvalue : ∀ a, value a)
    (hopen : s.Open) (hlist : ListDisciplined list .closeBrace { s with depth := s.depth + 1 }) :
    Disciplined (.bind (.nested list) fun body =>
      .bind (.expect .closeBrace .closeBrace) fun _ => .pure body) value s := by
  rcases Nat.lt_or_ge s.depth maxNesting with hlt | hge
  · obtain ⟨horderly, hends⟩ := hlist
    have horderly := horderly.atDepth
    rw [← Plan.failures_nested hlt] at horderly hends
    cases hrun : p { s with depth := s.depth + 1 } with
    | error e t =>
      rw [hrun] at hends
      have hnested := nested_of_error hlt hrun
      refine ⟨?_, ?_⟩
      · rw [Plan.failures_bind_of_error hnested]
        exact horderly
      · rw [Plan.failures_bind_of_error hnested, bind_of_error hnested]
        cases hends with
        | unreadable hopen' => exact .unreadable hopen'
        | gaveUp hfull hfault => exact .gaveUp hfull hfault
    | ok body t =>
      rw [hrun] at hends
      have hnested := nested_of_ok hlt hrun
      cases hends with
      | done honward hbefore hopen' hstop =>
        have hopened : Onward g s { s with depth := s.depth + 1 } := .here rfl rfl
        have hst : Onward g s t.leave := hopened.trans (honward.of_same rfl rfl)
        have hbefore' : ∀ f ∈ (Plan.nested list).failures s, Onward g f.2 t.leave :=
          fun f hf => (hbefore f hf).of_same rfl rfl
        have hrest := failures_last (g := g) .closeBrace .closeBrace body t.leave
        refine ⟨?_, ?_⟩
        · rw [Plan.failures_bind_of_ok hnested, hrest, List.append_nil]
          exact horderly
        · rw [Plan.failures_bind_of_ok hnested, hrest, List.append_nil, bind_of_ok hnested]
          by_cases hclose : t.leave.current.kind = .closeBrace
          · rcases advance_cases g t.leave with ⟨next, rest, -, hadv⟩ | ⟨e, rest, -, hadv⟩
            · have hpassed := Onward.advance (hclose ▸ nofun) hadv
              rw [bind_of_ok ((expect_of_eq hclose).trans hadv)]
              exact .done ⟨hst.trans hpassed.1, fun f hf => (hbefore' f hf).trans_passed hpassed,
                hopen'⟩ (hvalue body)
            · rw [bind_of_error ((expect_of_eq hclose).trans hadv)]
              exact .unreadable hopen'
          · have hend : t.leave.current.kind = .endOfFile := hstop.resolve_left hclose
            rw [bind_of_error (expect_of_ne hclose)]
            exact .failed ⟨hst, fun f hf => ⟨hbefore' f hf, .inr hend⟩, hopen'⟩ ⟨rfl, .inr ⟨_, rfl⟩⟩
  · have hdeep : Disciplined (.nested list) value s :=
      .of_still (Plan.failures_nested_too_deep hge) (nested_too_deep hge)
        (fun hbeyond => .failed hbeyond.atDepth ⟨rfl, .inl rfl⟩) hopen
    refine hdeep.bind fun a t hrun => ?_
    rw [nested_too_deep hge] at hrun
    cases hrun

/-! ## All rules -/

/-- **Statements are disciplined.** -/
theorem Alike.disciplined {α : Type} {p p' : Read α} {ends : Bool} {kind kind' : TokenKind}
    {value : α → α → Prop} {plan : Plan g p} {plan' : Plan g p'}
    (h : Alike (.same g) ends kind kind' value plan plan') (hs : s.Roomy) (hopen : s.Open)
    (hkind : s.current.kind = kind) : Disciplined plan (fun a => ∃ a', value a a') s := by
  induction h generalizing s with
  | pure ha => exact .pure hopen ⟨_, ha⟩
  | fail hfound => exact .fail hopen (hkind ▸ hfound)
  | peek _ ih =>
    subst hkind
    exact .peek (ih hs hopen rfl)
  | take hinner => exact .advance hopen (hkind ▸ hinner.2) ⟨_, rfl, hkind⟩
  | finish hterminator =>
    refine .advance hopen ?_ ⟨_, rfl, hkind⟩
    rw [hkind, hterminator]
    exact terminator_ne_endOfFile g.surface
  | @bind _ _ _ _ _ _ _ _ _ _ plan _ _ _ _ _ ih ihnext =>
    refine (ih hs hopen hkind).bind fun a t hrun ⟨a', ha⟩ hopen' => ?_
    exact ihnext t.current.kind a a' ha ((plan.composed.later_of_ok hrun).roomy hs) hopen' rfl
  | @bindEnd _ _ _ _ _ _ _ _ _ _ plan _ _ _ _ _ ih ihnext =>
    refine (ih hs hopen hkind).bind fun a t hrun ⟨a', ha⟩ hopen' => ?_
    have hroomy := (plan.composed.later_of_ok hrun).roomy hs
    exact ihnext t.current.kind t.current.kind a a' (.inl rfl) ha hroomy hopen' rfl
  | nested _ ih => exact .nested hopen (ih hs hopen hkind)
  | looping _ ih =>
    have h := ih s.rounds hs hopen hkind
    exact ⟨h.orderly, h.ends⟩
  | block _ ih =>
    have hne : TokenKind.openBrace ≠ .endOfFile := nofun
    refine (Disciplined.expect hopen hne).bind fun _ t hrun _ hopen' => ?_
    have hroomy := ((Composed.expect _ _).later_of_ok hrun).roomy hs
    exact disciplined_closed (fun body => ⟨body, rfl⟩) hopen'
      (listDisciplined_statements (fun s hs hopen => ih s.current.kind hs hopen rfl) hroomy hopen')

theorem listDisciplined_level (n : Nat) (closer : TokenKind) (hs : s.Roomy) (hopen : s.Open) :
    ListDisciplined ((plansLevel g (n + 1)).statements closer) closer s := by
  have hrules : AlikeRules (.same g) (plansLevel g n) (plansLevel g n) := alike_level n
  exact listDisciplined_statements (fun s hs hopen =>
    (alike_listed hrules s.current.kind).disciplined hs hopen rfl) hs hopen

/-! ## Files -/

/-- How a run over a file may end. -/
inductive FileEnds : EStateM.Result CompileError Reading α → Prop
  | done {a : α} {t : Reading} : t.Open → FileEnds (.ok a t)
  | unreadable {e : LexError} {t : Reading} : t.Open → FileEnds (.error (.lexical e) t)
  | gaveUp {e : SyntaxError} {t : Reading} :
      t.diagnostics.length = maxDiagnostics → e.fault = .tooManyErrors →
      FileEnds (.error (.grammatical e) t)

/-- **Files are disciplined.** The list stops at the end of the file only, so nothing is wrong with
the token behind it. -/
theorem disciplined_wholeFile (hs : s.Roomy) (hopen : s.Open) :
    Orderly g s ((planWholeFile g).failures s) ∧ FileEnds (wholeFile g s) := by
  obtain ⟨horderly, hends⟩ := listDisciplined_level (g := g) maxNesting .endOfFile hs hopen
  have hfailures : (planWholeFile g).failures s = _ :=
    Plan.failures_bind_eq_self fun body t => failures_last .endOfFile .endOfFile body t
  refine ⟨hfailures ▸ horderly, ?_⟩
  cases hrun : (level g (maxNesting + 1)).statements .endOfFile s with
  | error e t =>
    rw [hrun] at hends
    rw [wholeFile, bind_of_error hrun]
    cases hends with
    | unreadable hopen' => exact .unreadable hopen'
    | gaveUp hfull hfault => exact .gaveUp hfull hfault
  | ok body t =>
    rw [hrun] at hends
    rw [wholeFile, bind_of_ok hrun]
    cases hends with
    | done _ _ hopen' hstop =>
      have hend : t.current.kind = .endOfFile := hstop.elim id id
      rcases advance_cases g t with ⟨next, rest, -, hadv⟩ | ⟨e, rest, -, hadv⟩
      · rw [bind_of_ok ((expect_of_eq hend).trans hadv)]
        exact .done hopen'
      · rw [bind_of_error ((expect_of_eq hend).trans hadv)]
        exact .unreadable hopen'

end TwinSyntax.Grammar
