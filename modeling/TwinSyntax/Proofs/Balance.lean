import TwinSyntax.Proofs.Embedding
import TwinSyntax.Proofs.Lockstep
import TwinSyntax.Proofs.Shapes

/-!
# Levels are counted exactly

A level of nesting that was opened is closed again, whether its content succeeds or not. An attempt
to open one too many counts all the same, and nobody takes it back on the way out: the list of
statements that recovers from the error restores the count.

**Ends** (`Closes`). A run leaves as many levels open as there were before, unless it ends with the
error that nesting is too deep, which may leave one more. Every routine of the grammar keeps this,
whatever is wrong inside (`Routine.balanced`).

**On the way** (`Moment.Counted`). No more than one level beyond the limit is counted, and only a
level that is open is closed. Whatever a level encloses starts with one level more and comes back to
it, so the bound for the content is the bound for the whole.

**Lists** (`Restores`). A list of statements leaves the count as it was even if it fails, because
every error on its way out goes through a recovery. The whole file is such a list, so a reader that
has read a program, or failed to, stands like one that has just been started (`levels_are_counted`).
-/

namespace TwinSyntax

namespace Grammar

variable {g : Setting} {deeper : Deeper} {α β : Type} {p : Read α}

/-! ## Ends of runs -/

/-- The levels behind a run that started with `depth` of them. -/
inductive Closes (depth : Nat) : EStateM.Result CompileError Reading α → Prop
  | done {a : α} {t : Reading} : t.depth = depth → Closes depth (.ok a t)
  | failed {e : CompileError} {t : Reading} : t.depth = depth → Closes depth (.error e t)
  | tooDeep {e : SyntaxError} {t : Reading} :
      e.fault = .nestingTooDeep → t.depth = depth + 1 → Closes depth (.error (.grammatical e) t)

/-- The run closes what it opens, from whatever state it starts. -/
def Balanced (p : Read α) : Prop := ∀ s : Reading, Closes s.depth (p s)

theorem Closes.depth_stop {depth : Nat} {r : EStateM.Result CompileError Reading α}
    (h : Closes depth r) : (stop r).depth = depth ∨ (stop r).depth = depth + 1 := by
  cases h with
  | done ht => exact .inl ht
  | failed ht => exact .inl ht
  | tooDeep _ ht => exact .inr ht

namespace Balanced

theorem pure (a : α) : Balanced (Pure.pure a) := fun _ => .done rfl

theorem peek : Balanced Grammar.peek := fun _ => .done rfl

theorem fail (fault : SyntaxFault) : Balanced (@Grammar.fail α fault) := fun _ => .failed rfl

theorem advance : Balanced (advance g) := by
  intro s
  rcases advance_cases g s with ⟨next, rest, -, hrun⟩ | ⟨e, rest, -, hrun⟩ <;> rw [hrun]
  · exact .done rfl
  · exact .failed rfl

theorem record (e : SyntaxError) : Balanced (record e) := by
  intro s
  rcases record_cases e s with ⟨s', hrun, rfl⟩ | ⟨e', s', hrun, rfl | rfl⟩ <;> rw [hrun]
  · exact .done rfl
  · exact .failed rfl
  · exact .failed rfl

theorem bind {f : α → Read β} (h : Balanced p) (hnext : ∀ a, Balanced (f a)) :
    Balanced (p >>= f) := by
  intro s
  have hp := h s
  generalize hrun : p s = r at hp
  cases hp with
  | @done a t ht =>
    rw [bind_of_ok hrun, ← ht]
    exact hnext a t
  | failed ht =>
    rw [bind_of_error hrun]
    exact .failed ht
  | tooDeep hfault ht =>
    rw [bind_of_error hrun]
    exact .tooDeep hfault ht

/-- A level is closed again. If a level inside could not be opened, the count stays one too high. -/
theorem nested (h : Balanced p) : Balanced (nested p) := by
  intro s
  by_cases hdepth : s.depth < maxNesting
  · have hinner := h { s with depth := s.depth + 1 }
    generalize hrun : p { s with depth := s.depth + 1 } = r at hinner
    cases hinner with
    | done ht =>
      rw [nested_of_ok hdepth hrun]
      exact .done (by simp [Reading.leave, ht])
    | failed ht =>
      rw [nested_of_error hdepth hrun]
      exact .failed (by simp [Reading.leave, ht])
    | tooDeep hfault ht =>
      rw [nested_of_error hdepth hrun]
      exact .tooDeep hfault (by simp [Reading.leave, ht])
  · rw [nested_too_deep (Nat.le_of_not_lt hdepth)]
    exact .tooDeep rfl rfl

theorem recovering {next : α → Read β} {resume : Read β} (h : Balanced p)
    (hnext : ∀ a, Balanced (next a)) (hresume : Balanced resume) :
    Balanced (recovering p next resume) := by
  intro s
  have hp := h s
  cases hrun : p s with
  | ok a t =>
    rw [hrun] at hp
    rw [recovering_of_ok hrun]
    cases hp with
    | done ht =>
      rw [← ht]
      exact hnext a t
  | error e t =>
    rw [hrun] at hp
    cases e with
    | grammatical e =>
      rw [recovering_of_grammatical hrun]
      exact (record e).bind (fun _ => hresume) { t with depth := s.depth }
    | lexical e | malformed e =>
      rw [recovering_of_error hrun (by simp)]
      cases hp with
      | failed ht => exact .failed ht

end Balanced

/-- **Whatever is put together from the steps closes what it opens.** -/
theorem Composed.balanced (h : Composed g p) : Balanced p := by
  induction h with
  | pure a => exact .pure a
  | peek => exact .peek
  | advance => exact .advance
  | fail fault => exact .fail fault
  | bind _ _ ih ihnext => exact ih.bind ihnext
  | nested _ ih => exact ih.nested
  | recovering _ _ _ ih ihnext ihresume => exact ih.recovering ihnext ihresume
  | looping _ _ ih => exact fun s => ih s.rounds s

/-! ## The routines of the grammar -/

/-- The routines of the grammar at one level of nesting. -/
inductive Routine (g : Setting) (deeper : Deeper) : {α : Type} → Read α → Prop
  | advance : Routine g deeper (advance g)
  | expect (kind : TokenKind) (expecting : Expectation) : Routine g deeper (expect g kind expecting)
  | leaf (value : Payload) : Routine g deeper (leaf g value)
  | build (kind : Operand) (token : Token) (children : List Node) :
      Routine g deeper (build g kind token children)
  | primary : Routine g deeper (primary g deeper)
  | unary : Routine g deeper (unary g deeper)
  | climb (left : Node) (least : Nat) : Routine g deeper (climb g deeper left least)
  | expression : Routine g deeper (expression g deeper)
  | finishClause (left : Node) : Routine g deeper (finishClause g deeper left)
  | clause : Routine g deeper (clause g deeper)
  | condition : Routine g deeper (condition g deeper)
  | endStatement : Routine g deeper (endStatement g)
  | assignmentOrExpression (name : String) : Routine g deeper (assignmentOrExpression g deeper name)
  | block : Routine g deeper (block g deeper)
  | body : Routine g deeper (body g deeper)
  | loop : Routine g deeper (loop g deeper)
  | alternative : Routine g deeper (alternative g deeper)
  | conditional : Routine g deeper (conditional g deeper)
  | statement : Routine g deeper (statement g deeper)
  | listed : Routine g deeper (listed g deeper)
  | statements (closer : TokenKind) : Routine g deeper (statements g deeper closer)
  | recovery (e : SyntaxError) (closer : TokenKind) :
      Routine g deeper (do
        record e
        looping (skipStatement g closer))

theorem balanced_build (kind : Operand) (token : Token) (children : List Node) :
    Balanced (build g kind token children) := by
  intro s
  unfold build
  cases Node.interior kind (some (g.locate token.span)) children with
  | ok node => exact .done rfl
  | error defect => exact .failed rfl

/-- **Every routine closes what it opens.** -/
theorem Routine.balanced (plans : Plans g deeper) (h : Routine g deeper p) : Balanced p := by
  cases h with
  | advance => exact .advance
  | expect kind expecting => exact (Composed.expect kind expecting).balanced
  | leaf value => exact (planLeaf value).composed.balanced
  | build kind token children => exact balanced_build kind token children
  | primary => exact (planPrimary plans).composed.balanced
  | unary => exact (planUnary plans).composed.balanced
  | climb left least => exact (planClimb plans left least).composed.balanced
  | expression => exact (planExpression plans).composed.balanced
  | finishClause left => exact (planFinishClause plans left).composed.balanced
  | clause => exact (planClause plans).composed.balanced
  | condition => exact (planCondition plans).composed.balanced
  | endStatement => exact planEndStatement.composed.balanced
  | assignmentOrExpression name => exact (planAssignmentOrExpression plans name).composed.balanced
  | block => exact (planBlock plans).composed.balanced
  | body => exact (planBody plans).composed.balanced
  | loop => exact (planLoop plans).composed.balanced
  | alternative => exact (planAlternative plans).composed.balanced
  | conditional => exact (planConditional plans).composed.balanced
  | statement => exact (planStatement plans).composed.balanced
  | listed => exact (planListed plans).composed.balanced
  | statements closer => exact (planStatements plans closer).composed.balanced
  | recovery e closer =>
    exact (Balanced.record e).bind fun _ => (composed_skipStatement closer).balanced

/-! ## On the way -/

/-- What is counted at a moment of a run that started with `depth` levels open. -/
structure Moment.Counted (g : Setting) (depth : Nat) (m : Moment) : Prop where
  least : depth ≤ m.state.depth
  most : m.state.depth ≤ max depth maxNesting + 1
  mostAfter : (m.after g).depth ≤ max depth maxNesting + 1
  /-- What is closed was opened on the way. -/
  leaves : m.step = .leave → depth < m.state.depth

section Moments

variable {s t : Reading} {depth : Nat}

theorem depth_stop_advance (s : Reading) : (stop (advance g s)).depth = s.depth := by
  rcases advance_cases g s with ⟨next, rest, -, hrun⟩ | ⟨e, rest, -, hrun⟩ <;> rw [hrun] <;> rfl

/-- What is counted inside a level is counted outside. -/
theorem Moment.Counted.outer {m : Moment} (h : m.Counted g (depth + 1))
    (hdepth : depth < maxNesting) : m.Counted g depth := by
  have hmax : max (depth + 1) maxNesting = max depth maxNesting := by omega
  refine ⟨Nat.le_of_succ_le h.least, hmax ▸ h.most, hmax ▸ h.mostAfter, fun hleave => ?_⟩
  exact Nat.lt_of_succ_lt (h.leaves hleave)

theorem counted_record (e : SyntaxError) (s : Reading) :
    ∀ m ∈ recordMoments e s, m.Counted g s.depth := by
  have hle : s.depth ≤ max s.depth maxNesting + 1 := by omega
  unfold recordMoments
  split
  · exact List.forall_mem_nil _
  · exact List.forall_mem_singleton.mpr ⟨Nat.le_refl _, hle, hle, nofun⟩

theorem counted_nested {plan : Plan g p}
    (ih : ∀ s, ∀ m ∈ plan.moments s, m.Counted g s.depth) (s : Reading) :
    ∀ m ∈ (Plan.nested plan).moments s, m.Counted g s.depth := by
  have henter : (⟨.enter, s⟩ : Moment).Counted g s.depth :=
    ⟨Nat.le_refl _, by dsimp only; omega, by dsimp only [Moment.after]; omega, nofun⟩
  by_cases hdepth : s.depth < maxNesting
  · rw [Plan.moments_nested hdepth]
    refine List.forall_mem_cons.mpr ⟨henter, List.forall_mem_append.mpr ⟨fun m hm => ?_, ?_⟩⟩
    · exact (ih _ m hm).outer hdepth
    · -- the level that was opened is still open, and at most one more was counted
      have hinner := (plan.composed.balanced { s with depth := s.depth + 1 }).depth_stop
      refine List.forall_mem_singleton.mpr ⟨?_, ?_, ?_, fun _ => ?_⟩ <;>
        dsimp only [Moment.after, Reading.leave] at hinner ⊢ <;> omega
  · rw [Plan.moments_nested_too_deep (Nat.le_of_not_lt hdepth)]
    exact List.forall_mem_singleton.mpr henter

/-- The levels that were open when it started are restored before anything else happens. -/
theorem counted_recovering {plan : Plan g p} {next : α → Read β}
    {nextPlan : (a : α) → Plan g (next a)} {resume : Read β} {resumePlan : Plan g resume}
    (ih : ∀ s, ∀ m ∈ plan.moments s, m.Counted g s.depth)
    (ihnext : ∀ a s, ∀ m ∈ (nextPlan a).moments s, m.Counted g s.depth)
    (ihresume : ∀ s, ∀ m ∈ resumePlan.moments s, m.Counted g s.depth) (s : Reading) :
    ∀ m ∈ (Plan.recovering plan nextPlan resumePlan).moments s, m.Counted g s.depth := by
  have hclose := plan.composed.balanced s
  rw [Plan.moments]
  refine List.forall_mem_append.mpr ⟨ih s, ?_⟩
  cases hrun : p s with
  | ok a t =>
    rw [hrun] at hclose
    cases hclose with
    | done ht => exact ht ▸ ihnext a t
  | error e t =>
    rw [hrun] at hclose
    cases e with
    | lexical e | malformed e => exact List.forall_mem_nil _
    | grammatical e =>
      have hdepth := hclose.depth_stop
      have hrestore : (⟨.restore s.depth, t⟩ : Moment).Counted g s.depth := by
        refine ⟨?_, ?_, ?_, by simp⟩ <;> dsimp only [stop, Moment.after] at hdepth ⊢ <;> omega
      refine List.forall_mem_cons.mpr ⟨hrestore, List.forall_mem_append.mpr ⟨?_, ?_⟩⟩
      · exact counted_record e { t with depth := s.depth }
      · have hrecord := Balanced.record e { t with depth := s.depth }
        cases hrun' : record e { t with depth := s.depth } with
        | ok _ u =>
          rw [hrun'] at hrecord
          cases hrecord with
          | done hu =>
            have hu : u.depth = s.depth := hu
            exact hu ▸ ihresume u
        | error e' u => exact List.forall_mem_nil _

/-- **No more than one level beyond the limit is counted**, and only open levels are closed. -/
theorem Plan.counted (plan : Plan g p) (s : Reading) :
    ∀ m ∈ plan.moments s, m.Counted g s.depth := by
  induction plan generalizing s with
  | pure a => exact List.forall_mem_nil _
  | peek => exact List.forall_mem_nil _
  | fail fault _ => exact List.forall_mem_nil _
  | advance =>
    have hle : s.depth ≤ max s.depth maxNesting + 1 := by omega
    have hafter : (stop (Grammar.advance g s)).depth ≤ max s.depth maxNesting + 1 :=
      le_of_eq_of_le (depth_stop_advance s) hle
    exact List.forall_mem_singleton.mpr ⟨Nat.le_refl _, hle, hafter, by simp⟩
  | @bind _ _ p f plan next ih ihnext =>
    have hclose := plan.composed.balanced s
    cases hrun : p s with
    | ok a t =>
      rw [hrun] at hclose
      rw [moments_bind_of_ok hrun]
      cases hclose with
      | done ht => exact List.forall_mem_append.mpr ⟨ih s, ht ▸ ihnext a t⟩
    | error e t =>
      rw [moments_bind_of_error hrun]
      exact ih s
  | nested _ ih => exact counted_nested ih s
  | recovering _ _ _ ih ihnext ihresume => exact counted_recovering ih ihnext ihresume s
  | looping _ _ ih => exact ih s.rounds s

end Moments

/-! ## Lists restore the count -/

/-- The run leaves the count as it was, even if it fails. -/
def Restores (p : Read α) : Prop := ∀ s : Reading, (stop (p s)).depth = s.depth

namespace Restores

theorem bind {f : α → Read β} (h : Restores p) (hnext : ∀ a, Restores (f a)) :
    Restores (p >>= f) := by
  intro s
  have hp := h s
  cases hrun : p s with
  | ok a t =>
    rw [hrun] at hp
    rw [bind_of_ok hrun]
    exact (hnext a t).trans hp
  | error e t =>
    rw [hrun] at hp
    rw [bind_of_error hrun]
    exact hp

theorem advance : Restores (advance g) := depth_stop_advance

theorem expect (kind : TokenKind) (expecting : Expectation) :
    Restores (expect g kind expecting) := by
  intro s
  by_cases h : s.current.kind = kind
  · rw [expect_of_eq h]
    exact advance s
  · rw [expect_of_ne h]
    rfl

theorem skipStatement (closer : TokenKind) (n : Nat) : Restores (skipStatement g closer n) := by
  induction n with
  | zero => exact fun _ => rfl
  | succ n ih =>
    intro s
    rw [Grammar.skipStatement, peek_bind]
    split
    · exact advance.bind (fun _ _ => rfl) s
    · split
      · rfl
      · exact advance.bind (fun _ => ih) s

theorem record (e : SyntaxError) : Restores (record e) := by
  intro s
  rcases record_cases e s with ⟨s', hrun, rfl⟩ | ⟨e', s', hrun, rfl | rfl⟩ <;> rw [hrun] <;> rfl

/-- Only a syntax error can leave the count too high, and that is what recovery restores. -/
theorem recovering {next : α → Read β} {resume : Read β} (h : Balanced p)
    (hnext : ∀ a, Restores (next a)) (hresume : Restores resume) :
    Restores (recovering p next resume) := by
  intro s
  have hp := h s
  cases hrun : p s with
  | ok a t =>
    rw [hrun] at hp
    rw [recovering_of_ok hrun]
    cases hp with
    | done ht => exact (hnext a t).trans ht
  | error e t =>
    rw [hrun] at hp
    cases e with
    | grammatical e =>
      rw [recovering_of_grammatical hrun]
      exact (record e).bind (fun _ => hresume) { t with depth := s.depth }
    | lexical e | malformed e =>
      rw [recovering_of_error hrun (by simp)]
      cases hp with
      | failed ht => exact ht

theorem continueStatements (plans : Plans g deeper) (closer : TokenKind) (list : Option Node)
    (n : Nat) : Restores (continueStatements g deeper closer list n) := by
  induction n generalizing list with
  | zero => exact fun _ => rfl
  | succ n ih =>
    intro s
    rw [continueStatements_succ]
    split
    · rfl
    · have hresume := bind (fun s => skipStatement (g := g) closer s.rounds s) fun _ => ih list
      exact recovering (planListed plans).composed.balanced (fun _ => ih _) hresume s

theorem wholeFile : Restores (wholeFile g) := by
  have hlist : Restores ((level g (maxNesting + 1)).statements .endOfFile) := fun s =>
    continueStatements (plansLevel g maxNesting) .endOfFile none s.rounds s
  exact hlist.bind fun _ => (expect _ _).bind fun _ _ => rfl

end Restores

/-! ## Running again -/

section Again

variable {surface : Surface} {endSpan : Span} {locate : Span → Location} {s s' : Reading}

theorem not_ignores_of_pull {items rest : List TokenItem} {next : Token}
    (h : pull surface endSpan items = (.ok next, rest)) : ¬ surface.Ignores next.kind := by
  induction items with
  | nil =>
    cases h
    exact fun hskip => nomatch hskip.2
  | cons item items ih =>
    cases item with
    | error e => cases h
    | ok token =>
      rw [pull_ok] at h
      by_cases hskip : surface.Ignores token.kind
      · rw [if_pos hskip] at h
        exact ih h
      · rw [if_neg hskip] at h
        cases h
        exact hskip

/-- The current token of a run stays one that the grammar sees. -/
theorem Trail.seen {moments : List Moment} (h : Trail g s moments s')
    (hs : ¬ g.surface.Ignores s.current.kind) : ¬ g.surface.Ignores s'.current.kind := by
  induction h with
  | nil => exact hs
  | @cons m _ _ _ ih =>
    refine ih ?_
    obtain ⟨step, s⟩ := m
    cases step with
    | take =>
      rw [Moment.after]
      rcases advance_cases g s with ⟨next, rest, hpull, hrun⟩ | ⟨e, rest, -, hrun⟩ <;> rw [hrun]
      · exact not_ignores_of_pull hpull
      · exact hs
    | enter | leave | restore depth | record e => exact hs

/-- Two states with the same token in front of the same items, the same levels open and the same
diagnostics. Only the number of rounds may differ. -/
theorem Twin.of_same (hcurrent : s.current = s'.current) (hunread : s.unread = s'.unread)
    (hdepth : s.depth = s'.depth) (hdiagnostics : s.diagnostics = [])
    (hdiagnostics' : s'.diagnostics = []) (hs : s.Roomy) (hs' : s'.Roomy) :
    Twin (.same g) (· = ·) s s' where
  current := hcurrent
  unread := by
    rw [Likeness.Items, hunread]
    refine List.forall₂_same.mpr fun item _ => ?_
    cases item with
    | ok token => exact .token rfl
    | error e => exact .error rfl
  depth := hdepth
  diagnostics := by
    rw [hdiagnostics, hdiagnostics']
    exact .nil
  roomy := hs
  roomy' := hs'

theorem eq_of_error_same {e e' : CompileError} (h : (Likeness.same g).Error (· = ·) e e') :
    e = e' := by
  cases h with
  | lexical h => rw [h]
  | grammatical h =>
    have h : _ = _ := h
    rw [h]

/-- Both runs have the same diagnostics. -/
theorem Twin.diagnostics_eq (h : Twin (.same g) (· = ·) s s') : s.diagnostics = s'.diagnostics := by
  have hsame := h.diagnostics.imp fun _ _ => eq_of_error_same
  rwa [List.forall₂_eq_eq_eq] at hsame

end Again

end Grammar

open Grammar

namespace Reader

variable {surface : Surface} {source : TokenSource} {r r' : Reader}

/-- What the reader stands in front of, as a source of its own. -/
def remainder (r : Reader) : TokenSource :=
  ⟨.ok r.state.current :: r.state.unread, r.endSpan, r.locate⟩

theorem depth_program (r : Reader) : r.program.2.state.depth = r.state.depth := by
  have h := Restores.wholeFile (g := r.setting) r.state
  rw [program]
  cases hrun : wholeFile r.setting r.state <;> rw [hrun] at h <;> exact h

theorem setting_program (r : Reader) : r.program.2.setting = r.setting := by
  rw [program]
  cases wholeFile r.setting r.state <;> rfl

theorem current_program (r : Reader) :
    r.program.2.state.current = (stop (wholeFile r.setting r.state)).current := by
  rw [program]
  cases wholeFile r.setting r.state <;> rfl

/-- Between two programs a reader counts no levels, and stands in front of a token that the grammar
sees. -/
theorem Reached.level_zero (h : Reached surface source r) :
    r.state.depth = 0 ∧ ¬ r.surface.Ignores r.state.current.kind := by
  induction h with
  | @start reader hstart =>
    rcases start_cases surface source with
        ⟨reader', hstart', hsetting, -, hpoised, hpull⟩ | ⟨e, rest, hstart', -⟩
    · cases hstart.symm.trans hstart'
      have hsurface : reader.surface = surface := congrArg Setting.surface hsetting
      exact ⟨Nat.add_eq_right.mp hpoised.depth, hsurface ▸ not_ignores_of_pull hpull⟩
    · cases hstart.symm.trans hstart'
  | @again reader _ ih =>
    have hseen := reader.trail_moments.seen ih.2
    have hsurface : reader.program.2.surface = reader.surface :=
      congrArg Setting.surface reader.setting_program
    rw [depth_program, current_program, hsurface]
    exact ⟨ih.1, hseen⟩

/-- Two readers at the same place read the same. -/
theorem program_eq_of_twin (hsetting : r'.setting = r.setting)
    (h : Twin (.same r.setting) (· = ·) r.state r'.state) : r.program.1 = r'.program.1 := by
  obtain ⟨surface, endSpan, locate, s⟩ := r
  obtain ⟨surface', endSpan', locate', s'⟩ := r'
  cases hsetting
  have hrun := h.wholeFile rfl
  simp only [program, setting] at hrun ⊢
  generalize wholeFile _ s = result at hrun ⊢
  generalize wholeFile _ s' = result' at hrun ⊢
  cases hrun with
  | @ok body body' t t' htwin hbody =>
    have hsame : body.relocate id = body'.relocate id := hbody
    rw [Node.relocate_id, Node.relocate_id] at hsame
    dsimp only
    rw [hsame, htwin.diagnostics_eq]
  | error htwin herror =>
    dsimp only
    rw [eq_of_error_same herror, htwin.diagnostics_eq]

/-- A reader that starts in front of what is left reads what the reader goes on to read. -/
theorem exists_fresh (hdepth : r.state.depth = 0) (hdiagnostics : r.state.diagnostics = [])
    (hroomy : r.state.Roomy) (hseen : ¬ r.surface.Ignores r.state.current.kind) :
    ∃ fresh, Reader.start r.surface r.remainder = .ok fresh ∧
      fresh.state.current = r.state.current ∧ fresh.state.unread = r.state.unread ∧
      fresh.state.depth = 0 ∧ fresh.state.diagnostics = [] ∧ r.program.1 = fresh.program.1 := by
  refine ⟨⟨r.surface, r.endSpan, r.locate,
    ⟨r.state.current, r.state.unread, 0, [], r.state.unread.length + 2⟩⟩, ?_,
    rfl, rfl, rfl, rfl, ?_⟩
  · simp [start, remainder, pull_ok, hseen]
  · refine program_eq_of_twin rfl (.of_same rfl rfl hdepth hdiagnostics rfl hroomy ?_)
    exact Nat.lt_succ_of_le (Reading.remaining_le _)

/-- What can be said of the levels that a reader counts. -/
structure CountsLevels (r : Reader) : Prop where
  /-- Before and behind a program none is open, and no diagnostic is kept. -/
  closed : r.state.depth = 0 ∧ r.program.2.state.depth = 0
  kept : r.state.diagnostics = [] ∧ r.program.2.state.diagnostics = []
  /-- No more than one level beyond the limit is ever counted. -/
  limit : ∀ m ∈ r.moments,
    m.state.depth ≤ maxNesting + 1 ∧ (m.after r.setting).depth ≤ maxNesting + 1
  /-- A level is closed only while one is open. -/
  leaves : ∀ m ∈ r.moments, m.step = .leave → 0 < m.state.depth
  /-- Every routine that succeeds, or fails for a reason that nobody recovers from, leaves as many
  levels open as it found. -/
  routines {α : Type} {p : Read α} {n : Nat} : Routine r.setting (level r.setting n) p → Balanced p
  /-- What is read next does not depend on what was read before: a reader that starts in front of
  the same token and the same items, with no level open and nothing to report, reads the same. -/
  again : ∃ fresh, Reader.start r.surface r.program.2.remainder = .ok fresh ∧
    fresh.state.current = r.program.2.state.current ∧ fresh.state.unread =
    r.program.2.state.unread ∧
    fresh.state.depth = 0 ∧ fresh.state.diagnostics = [] ∧ r.program.2.program.1 = fresh.program.1

end Reader

/-- **Levels are counted exactly**, whatever a source yields and however often it is read from. -/
theorem levels_are_counted {surface : Surface} {source : TokenSource} {reader : Reader}
    (h : reader.Reached surface source) : reader.CountsLevels := by
  obtain ⟨hdepth, -⟩ := h.level_zero
  obtain ⟨hdepth', hseen'⟩ := h.again.level_zero
  obtain ⟨hdiagnostics, -⟩ := h.idle
  obtain ⟨hdiagnostics', hroomy'⟩ := h.again.idle
  have hcounted := (planWholeFile reader.setting).counted reader.state
  rw [hdepth] at hcounted
  have hsurface : reader.program.2.surface = reader.surface :=
    congrArg Setting.surface reader.setting_program
  exact {
    closed := ⟨hdepth, hdepth'⟩
    kept := ⟨hdiagnostics, hdiagnostics'⟩
    limit := fun m hm => ⟨(hcounted m hm).most, (hcounted m hm).mostAfter⟩
    leaves := fun m hm => (hcounted m hm).leaves
    routines := fun hroutine => hroutine.balanced (plansLevel _ _)
    again := hsurface ▸ Reader.exists_fresh hdepth' hdiagnostics' hroomy' hseen' }

/-- Reading one minus sign too many, and then a lexical error inside parentheses behind the first
end of the file. -/
theorem levels_are_counted_beyond_limit :
    let token (kind : TokenKind) : TokenItem := .ok ⟨kind, ⟨1, 1, 2⟩⟩
    let items := List.replicate (maxNesting + 1) (token .minus) ++
      [token .endOfFile, token .openParen, .error ⟨⟨2, 1, 2⟩, .strayBang⟩]
    let source : TokenSource := ⟨items, ⟨3, 1, 1⟩, fun span => ⟨span, ""⟩⟩
    ∃ reader, Reader.start .sml source = .ok reader ∧
      reader.program.1.diagnostics = [.grammatical ⟨⟨1, 1, 2⟩, .nestingTooDeep⟩] ∧
      reader.program.2.program.1.diagnostics = [.lexical ⟨⟨2, 1, 2⟩, .strayBang⟩] ∧
      reader.CountsLevels ∧ reader.program.2.CountsLevels := by
  intro token items source
  have hrun : ((Reader.start .sml source).toOption.map fun reader =>
      (reader.program.1.diagnostics, reader.program.2.program.1.diagnostics)) =
        some ([.grammatical ⟨⟨1, 1, 2⟩, .nestingTooDeep⟩], [.lexical ⟨⟨2, 1, 2⟩, .strayBang⟩]) := by
    decide +kernel
  cases hstart : Reader.start .sml source with
  | error e =>
    rw [hstart] at hrun
    cases hrun
  | ok reader =>
    rw [hstart] at hrun
    obtain ⟨hfirst, hsecond⟩ := Prod.mk.inj (Option.some.inj hrun)
    exact ⟨reader, rfl, hfirst, hsecond, levels_are_counted (.start hstart),
      levels_are_counted (.again (.start hstart))⟩

end TwinSyntax
