import TwinSyntax.Proofs.EndOfFile

/-!
# Loops, round after round

The loops of the grammar are written with a number of rounds, and `Settled` says that the number
plays no part. This file says what they are without it: a round is run, and then another one, as
long as there is something to go on with (`Repeats`). Every round but the last takes a token, so
there is always a last one.

**Progress** (`Plan.Takes`). A run takes a token that is not the end of the file. Then fewer tokens
are left (`Trail.remaining_lt`), and if none is taken, the run stays where it is (`Trail.still`).

**Loops** (`repeats_of_unfold`). A loop that is one round and then itself repeats the round. The
three loops are of this form: over the statements of a list (`repeats_listFrom`), over the tokens of
a statement that is given up (`repeats_skipStatement`), and over binary operators (`repeats_climb`).
-/

namespace TwinSyntax.Grammar

variable {g : Setting} {α σ : Type} {p : Read α} {s t : Reading} {plan : Plan g p}

/-! ## Progress -/

/-- A step takes a token that is not the end of the file. -/
def Moment.Takes (m : Moment) : Prop := m.step = .take ∧ m.state.current.kind ≠ .endOfFile

/-- A run from `s` takes a token that is not the end of the file. -/
def Plan.Takes (plan : Plan g p) (s : Reading) : Prop := ∃ m ∈ plan.moments s, m.Takes

theorem Moment.still (m : Moment) (h : m.step ≠ .take) :
    (m.after g).current = m.state.current ∧ (m.after g).unread = m.state.unread := by
  obtain ⟨step, s⟩ := m
  cases step with
  | take => exact absurd rfl h
  | enter | leave | restore depth | record e => exact ⟨rfl, rfl⟩

theorem Moment.remaining_le (m : Moment) : (m.after g).remaining ≤ m.state.remaining := by
  by_cases h : m.step = .take
  · obtain ⟨step, s⟩ := m
    cases h
    exact (later_advance g s).remaining
  · obtain ⟨hcurrent, hunread⟩ := m.still h
    exact Nat.le_of_eq (remaining_of_same hcurrent hunread)

theorem Moment.Takes.remaining_lt {m : Moment} (h : m.Takes) :
    (m.after g).remaining < m.state.remaining := by
  obtain ⟨step, s⟩ := m
  obtain ⟨hstep, hne⟩ := h
  cases hstep
  have hremaining : s.remaining = s.unread.length + 1 := remaining_of_ne hne
  show (stop (advance g s)).remaining < s.remaining
  rw [hremaining]
  rcases advance_cases g s with ⟨next, rest, -, hrun⟩ | ⟨e, rest, hpull, hrun⟩
  · rw [hrun]
    exact Nat.lt_succ_of_le (remaining_advance hrun)
  · have hshorter := pull_cases g.surface g.endSpan s.unread
    rw [hpull] at hshorter
    have hrest : ({ s with unread := rest } : Reading).remaining = rest.length + 1 :=
      remaining_of_ne hne
    rw [hrun]
    show ({ s with unread := rest } : Reading).remaining < s.unread.length + 1
    rw [hrest]
    exact Nat.succ_lt_succ (hshorter.resolve_left (by simp))

section Trail

variable {moments : List Moment} (h : Trail g s moments t)
include h

/-- Where nothing is taken, a run stays where it is. -/
theorem Trail.still (hnone : ∀ m ∈ moments, m.step ≠ .take) :
    t.current = s.current ∧ t.unread = s.unread := by
  induction h with
  | nil => exact ⟨rfl, rfl⟩
  | @cons m _ _ _ ih =>
    rw [List.forall_mem_cons] at hnone
    obtain ⟨hcurrent, hunread⟩ := ih hnone.2
    obtain ⟨hcurrent', hunread'⟩ := m.still (g := g) hnone.1
    exact ⟨hcurrent.trans hcurrent', hunread.trans hunread'⟩

theorem Trail.remaining_le : t.remaining ≤ s.remaining := by
  induction h with
  | nil => exact Nat.le_refl _
  | @cons m _ _ _ ih => exact Nat.le_trans ih m.remaining_le

/-- Where a token is taken, fewer are left. -/
theorem Trail.remaining_lt (htakes : ∃ m ∈ moments, m.Takes) : t.remaining < s.remaining := by
  induction h with
  | nil =>
    obtain ⟨m, hm, -⟩ := htakes
    cases hm
  | @cons m rest _ hrest ih =>
    obtain ⟨m', hm', htakes'⟩ := htakes
    rcases List.mem_cons.mp hm' with rfl | hm'
    · exact Nat.lt_of_le_of_lt hrest.remaining_le htakes'.remaining_lt
    · exact Nat.lt_of_lt_of_le (ih ⟨m', hm', htakes'⟩) m.remaining_le

end Trail

/-- A run that does not take the end of the file takes a token, or stays where it is. -/
theorem Spares.takes_or_still {value : α → Prop} (h : Spares plan value s) :
    plan.Takes s ∨ (stop (p s)).current = s.current ∧ (stop (p s)).unread = s.unread := by
  by_cases hnone : ∀ m ∈ plan.moments s, m.step ≠ .take
  · exact .inr ((plan.trail s).still hnone)
  · obtain ⟨m, hm, htake⟩ : ∃ m ∈ plan.moments s, m.step = .take := by simpa using hnone
    exact .inl ⟨m, hm, htake, h.sparing m hm htake⟩

/-- If fewer tokens are left, one was taken. -/
theorem Spares.takes_of_lt {value : α → Prop} (h : Spares plan value s) {a : α}
    (hrun : p s = .ok a t) (hlt : t.remaining < s.remaining) : plan.Takes s := by
  refine h.takes_or_still.resolve_right fun ⟨hcurrent, hunread⟩ => ?_
  rw [hrun] at hcurrent hunread
  exact absurd (remaining_of_same hcurrent hunread) (Nat.ne_of_lt hlt)

/-! ## Repetition -/

/-- Round after round from `x`, until one ends with a value or fails. A round that is not the last
takes a token. -/
inductive Repeats {round : σ → Read (α ⊕ σ)} (plan : (x : σ) → Plan g (round x)) :
    σ → Reading → EStateM.Result CompileError Reading α → Prop
  | done {x : σ} {s t : Reading} {a : α} :
      round x s = .ok (.inl a) t → Repeats plan x s (.ok a t)
  | failed {x : σ} {s t : Reading} {e : CompileError} :
      round x s = .error e t → Repeats plan x s (.error e t)
  | again {x y : σ} {s t : Reading} {r : EStateM.Result CompileError Reading α} :
      round x s = .ok (.inr y) t → (plan x).Takes s → Repeats plan y t r → Repeats plan x s r

/-- A loop is its rounds, if it is one round and then itself. -/
theorem repeats_of_unfold {round : σ → Read (α ⊕ σ)} {plan : (x : σ) → Plan g (round x)}
    (loop : σ → Read α)
    (hunfold : ∀ x s, s.Roomy → loop x s = (round x >>= Sum.elim pure loop) s)
    (htakes : ∀ x y s t, s.Roomy → round x s = .ok (.inr y) t → (plan x).Takes s)
    (x : σ) (hs : s.Roomy) : Repeats plan x s (loop x s) := by
  -- by induction on the tokens that are left: a round that is not the last one takes one of them
  induction hn : s.remaining using Nat.strongRecOn generalizing s x with
  | ind n ih =>
    rw [hunfold x s hs]
    cases hrun : round x s with
    | error e t =>
      rw [bind_of_error hrun]
      exact .failed hrun
    | ok outcome t =>
      rw [bind_of_ok hrun]
      cases outcome with
      | inl a => exact .done hrun
      | inr y =>
        have htake := htakes x y s t hs hrun
        have htrail := (plan x).trail s
        rw [hrun] at htrail
        have hroomy := ((plan x).composed.later_of_ok hrun).roomy hs
        exact .again hrun htake (ih t.remaining (hn ▸ htrail.remaining_lt htake) y hroomy rfl)

theorem bind_of_run {β : Type} {p p' : Read α} (h : p s = p' s) (f : α → Read β) :
    (p >>= f) s = (p' >>= f) s :=
  bind_congr_run h fun _ _ _ => rfl

/-! ## Giving up a statement -/

variable {deeper : Deeper} {closer : TokenKind}

/-- One round of giving up a statement: a token is discarded. -/
def skipRound (g : Setting) (closer : TokenKind) (_ : Unit) : Read (Unit ⊕ Unit) := do
  let kind ← peek
  if kind = g.surface.terminator then
    let _ ← advance g
    return .inl ()
  else if kind = .endOfFile ∨ kind = closer then return .inl ()
  else
    let _ ← advance g
    return .inr ()

def planSkipRound (closer : TokenKind) (x : Unit) : Plan g (skipRound g closer x) :=
  .bind .peek fun _ => .either (fun _ => .bind .advance fun _ => .pure _) fun _ =>
    .either (fun _ => .pure _) fun _ => .bind .advance fun _ => .pure _

/-- The three things that a round may do. -/
theorem skipRound_cases (g : Setting) (closer : TokenKind) (s : Reading) :
    (s.current.kind = g.surface.terminator ∧
      skipRound g closer () s = (advance g >>= fun _ => pure (.inl ())) s) ∨
    (s.current.kind ≠ g.surface.terminator ∧
      (s.current.kind = .endOfFile ∨ s.current.kind = closer) ∧
      skipRound g closer () s = .ok (.inl ()) s) ∨
    (s.current.kind ≠ g.surface.terminator ∧
      ¬ (s.current.kind = .endOfFile ∨ s.current.kind = closer) ∧
      skipRound g closer () s = (advance g >>= fun _ => pure (.inr ())) s) := by
  rw [skipRound, peek_bind]
  by_cases hterminator : s.current.kind = g.surface.terminator
  · rw [if_pos hterminator]
    exact .inl ⟨hterminator, rfl⟩
  · rw [if_neg hterminator]
    by_cases hstop : s.current.kind = .endOfFile ∨ s.current.kind = closer
    · rw [if_pos hstop]
      exact .inr (.inl ⟨hterminator, hstop, rfl⟩)
    · rw [if_neg hstop]
      exact .inr (.inr ⟨hterminator, hstop, rfl⟩)

theorem skipStatement_unfold (hs : s.Roomy) :
    looping (skipStatement g closer) s =
      (skipRound g closer () >>= Sum.elim pure fun _ => looping (skipStatement g closer)) s := by
  obtain ⟨n, hn⟩ := hs.rounds_pos
  have hroom : s.remaining < n + 1 := hn ▸ hs
  rw [looping, hn, skipStatement, peek_bind]
  rcases skipRound_cases g closer s with
    ⟨hterminator, hround⟩ | ⟨hterminator, hstop, hround⟩ | ⟨hterminator, hstop, hround⟩
  · rw [if_pos hterminator, bind_of_run hround, bind_assoc]
    rfl
  · rw [if_neg hterminator, if_pos hstop, bind_of_ok hround]
    rfl
  · rw [if_neg hterminator, if_neg hstop, bind_of_run hround, bind_assoc]
    refine bind_congr_run rfl fun token t hadv => ?_
    have hlt := eager_advance (fun hend => hstop (.inl hend)) _ _ hadv
    have hroomy := (Composed.advance.later_of_ok hadv).roomy hs
    exact ((settled_skipStatement closer).looping_eq hroomy (by omega)).symm

theorem spares_skipRound (closer : TokenKind) (s : Reading) :
    Spares (planSkipRound closer () : Plan g _) (fun _ => True) s := by
  have htake (hne : s.current.kind ≠ .endOfFile) (outcome : Unit ⊕ Unit) :
      Spares (.bind .advance fun _ => .pure outcome : Plan g _) (fun _ => True) s :=
    (Spares.take hne).bind fun _ _ _ _ => .pure trivial
  refine .peek (.either (fun hterminator => ?_) fun _ =>
    .either (fun _ => .pure trivial) fun hstop => ?_)
  · exact htake (hterminator ▸ terminator_ne_endOfFile g.surface) _
  · exact htake (fun hend => hstop (.inl hend)) _

/-- **Giving up a statement** discards token after token. -/
theorem repeats_skipStatement (closer : TokenKind) (hs : s.Roomy) :
    Repeats (planSkipRound closer : (x : Unit) → Plan g _) () s
      (looping (skipStatement g closer) s) := by
  refine repeats_of_unfold (fun _ => looping (skipStatement g closer))
    (fun _ s hs => skipStatement_unfold hs) (fun _ _ s t hs hrun => ?_) () hs
  refine (spares_skipRound closer s).takes_of_lt hrun ?_
  rcases skipRound_cases g closer s with ⟨-, hround⟩ | ⟨-, -, hround⟩ | ⟨-, hstop, hround⟩
  · obtain ⟨token, u, -, hpure⟩ := bind_eq_ok (hround.symm.trans hrun)
    cases hpure
  · cases hround.symm.trans hrun
  · obtain ⟨token, u, hadv, hpure⟩ := bind_eq_ok (hround.symm.trans hrun)
    cases hpure
    exact eager_advance (fun hend => hstop (.inl hend)) _ _ hadv

/-! ## Lists of statements -/

/-- One round of a list of statements: a statement is read, or given up. -/
def listRound (g : Setting) (deeper : Deeper) (closer : TokenKind) (list : Option Node) :
    Read (Node ⊕ Option Node) := do
  let kind ← peek
  if kind = closer ∨ kind = .endOfFile then return .inl (list.getD .eos)
  else
    recovering (listed g deeper)
      (fun statement => return .inr (some (joined list statement)))
      (do
        looping (skipStatement g closer)
        return .inr list)

def planListRound (plans : Plans g deeper) (closer : TokenKind) (list : Option Node) :
    Plan g (listRound g deeper closer list) :=
  .bind .peek fun _ => .either (fun _ => .pure _) fun _ =>
    .recovering (planListed plans) (fun _ => .pure _)
      (.bind (.looping (planSkipStatement closer) (settled_skipStatement closer)) fun _ => .pure _)

theorem listRound_of_stop {list : Option Node}
    (h : s.current.kind = closer ∨ s.current.kind = .endOfFile) :
    listRound g deeper closer list s = .ok (.inl (list.getD .eos)) s := by
  rw [listRound, peek_bind, if_pos h]
  rfl

theorem listRound_of_open {list : Option Node}
    (h : ¬ (s.current.kind = closer ∨ s.current.kind = .endOfFile)) :
    listRound g deeper closer list s = recovering (listed g deeper)
      (fun statement => pure (.inr (some (joined list statement))))
      (do looping (skipStatement g closer); return .inr list) s := by
  rw [listRound, peek_bind, if_neg h]

theorem listFrom_unfold (plans : Plans g deeper) (list : Option Node) (hs : s.Roomy) :
    listFrom g deeper closer list s =
      (listRound g deeper closer list >>= Sum.elim pure (listFrom g deeper closer)) s := by
  by_cases hstop : s.current.kind = closer ∨ s.current.kind = .endOfFile
  · rw [listFrom_done hs hstop, bind_of_ok (listRound_of_stop hstop)]
    rfl
  · have hround : listRound g deeper closer list s = _ := listRound_of_open hstop
    cases hlisted : listed g deeper s with
    | ok tree t =>
      rw [recovering_of_ok hlisted] at hround
      rw [listFrom_ok plans hs hstop hlisted, bind_of_ok hround]
      rfl
    | error e t =>
      obtain ⟨n, hn⟩ := hs.rounds_pos
      have hloop : listFrom g deeper closer list s = recovering (listed g deeper)
          (fun statement => continueStatements g deeper closer (some (joined list statement)) n)
          (do looping (skipStatement g closer); continueStatements g deeper closer list n) s := by
        rw [listFrom, looping, hn, continueStatements_succ, if_neg hstop]
      cases e with
      | lexical e | malformed e =>
        rw [recovering_of_error hlisted (by simp)] at hround
        rw [hloop, recovering_of_error hlisted (by simp), bind_of_error hround]
      | grammatical e =>
        rw [recovering_of_grammatical hlisted] at hround
        cases hrecord : record e { t with depth := s.depth } with
        | error e' u =>
          rw [bind_of_error hrecord] at hround
          rw [listFrom_gaveUp hs hstop hlisted hrecord, bind_of_error hround]
        | ok _ u =>
          rw [bind_of_ok hrecord] at hround
          cases hskip : looping (skipStatement g closer) u with
          | ok _ v =>
            rw [bind_of_ok hskip] at hround
            rw [listFrom_failed plans hs hstop hlisted hrecord hskip, bind_of_ok hround]
            rfl
          | error e' v =>
            rw [bind_of_error hskip] at hround
            rw [hloop, recovering_of_grammatical hlisted, bind_of_ok hrecord, bind_of_error hskip,
              bind_of_error hround]

/-- A round that is not the last one does not stay where it is. -/
theorem listRound_progress (plans : Plans g deeper) {list list' : Option Node} (hs : s.Roomy)
    (hrun : listRound g deeper closer list s = .ok (.inr list') t) :
    t.remaining < s.remaining ∨ t.current ≠ s.current := by
  by_cases hstop : s.current.kind = closer ∨ s.current.kind = .endOfFile
  · cases (listRound_of_stop hstop).symm.trans hrun
  · have hround := (listRound_of_open hstop).symm.trans hrun
    cases hlisted : listed g deeper s with
    | ok tree u =>
      rw [recovering_of_ok hlisted] at hround
      cases hround
      exact .inl (eager_listed plans s _ _ hlisted)
    | error e u =>
      cases e with
      | lexical e | malformed e =>
        rw [recovering_of_error hlisted (by simp)] at hround
        cases hround
      | grammatical e =>
        rw [recovering_of_grammatical hlisted] at hround
        obtain ⟨_, v, hrecord, hresume⟩ := bind_eq_ok hround
        obtain ⟨_, w, hskip, hpure⟩ := bind_eq_ok hresume
        cases hpure
        have hlater := later_record e { u with depth := s.depth }
        rw [hrecord] at hlater
        have hsv :=
          (((planListed plans).composed.later_of_error hlisted).depth s.depth s.depth).trans hlater
        rcases skipStatement_progress (hsv.roomy hs) hskip with hlt | ⟨rfl, hclosed⟩
        · exact .inl (Nat.lt_of_lt_of_le hlt hsv.remaining)
        · exact .inr fun hsame => hstop (hsame ▸ hclosed)

theorem spares_listRound {plans : Plans g deeper}
    (hlisted : ∀ s, Spares (planListed plans) (fun _ => True) s) (closer : TokenKind)
    (list : Option Node) (s : Reading) :
    Spares (planListRound plans closer list) (fun _ => True) s := by
  refine .peek (.either (fun _ => .pure trivial) fun _ => ?_)
  refine (hlisted s).recovering (fun _ _ => .pure trivial) fun t => ?_
  exact .bind (.looping fun n => spares_skipStatement closer n t) fun _ _ _ _ => .pure trivial

/-- **A list of statements** reads or gives up statement after statement. -/
theorem repeats_listFrom (plans : Plans g deeper)
    (hlisted : ∀ s, Spares (planListed plans) (fun _ => True) s) (closer : TokenKind)
    (list : Option Node) (hs : s.Roomy) :
    Repeats (planListRound plans closer) list s (listFrom g deeper closer list s) := by
  refine repeats_of_unfold _ (fun list s hs => listFrom_unfold plans list hs)
    (fun list list' s t hs hrun => ?_) list hs
  refine (spares_listRound hlisted closer list s).takes_or_still.resolve_right fun hstill => ?_
  rw [hrun] at hstill
  rcases listRound_progress plans hs hrun with hlt | hmoved
  · exact absurd (remaining_of_same hstill.1 hstill.2) (Nat.ne_of_lt hlt)
  · exact hmoved hstill.1

/-! ## Binary operators -/

/-- One round of the loop over operators: an operator and its right operand are taken. -/
def climbRound (g : Setting) (deeper : Deeper) (least : Nat) (left : Node) :
    Read (Node ⊕ Node) := do
  match arithmetic? (← peek) with
  | none => return .inl left
  | some op =>
    if op.precedence < least then return .inl left
    else
      let operator ← advance g
      let operand ← unary g deeper
      let right ← climb g deeper operand (op.precedence + 1)
      return .inr (.arithmetic op (g.locate operator.span) left right)

def planClimbRound (plans : Plans g deeper) (least : Nat) (left : Node) :
    Plan g (climbRound g deeper least left) :=
  .bind .peek fun kind =>
    match arithmetic? kind with
    | none => .pure _
    | some op => .either (fun _ => .pure _) fun _ =>
      .bind .advance fun _ => .bind (planUnary plans) fun operand =>
        .bind (planClimb plans operand (op.precedence + 1)) fun _ => .pure _

theorem climbRound_of_stop {least : Nat} {left : Node}
    (h : ∀ op, arithmetic? s.current.kind = some op → op.precedence < least) :
    climbRound g deeper least left s = .ok (.inl left) s := by
  rw [climbRound, peek_bind]
  cases hop : arithmetic? s.current.kind with
  | none => rfl
  | some op =>
    dsimp only
    rw [if_pos (h op hop)]
    rfl

theorem climbRound_of_operator {least : Nat} {left : Node} {op : Arithmetic}
    (hop : arithmetic? s.current.kind = some op) (hle : least ≤ op.precedence) :
    climbRound g deeper least left s =
      (do
        let operator ← advance g
        let operand ← unary g deeper
        let right ← climb g deeper operand (op.precedence + 1)
        return Sum.inr (Node.arithmetic op (g.locate operator.span) left right)) s := by
  rw [climbRound, peek_bind, hop]
  dsimp only
  rw [if_neg (Nat.not_lt.mpr hle)]

theorem climb_unfold (plans : Plans g deeper) (least : Nat) (left : Node) (hs : s.Roomy) :
    climb g deeper left least s =
      (climbRound g deeper least left >>= Sum.elim pure fun left => climb g deeper left least)
        s := by
  rcases continues_cases s.current.kind least with ⟨op, hop, hle⟩ | hdone
  · rw [climb_step plans hs hop hle, bind_of_run (climbRound_of_operator hop hle)]
    simp only [bind_assoc, pure_bind, Sum.elim_inr]
  · rw [climb_done hs hdone, bind_of_ok (climbRound_of_stop hdone)]
    rfl

theorem spares_climbRound (n least : Nat) (left : Node) (s : Reading) :
    Spares (planClimbRound (plansLevel g n) least left) (fun _ => True) s := by
  refine .peek ?_
  cases hop : arithmetic? s.current.kind with
  | none => exact .pure trivial
  | some op =>
    refine .either (fun _ => .pure trivial) fun _ => ?_
    refine (Spares.take (arithmetic?_endOfFile hop)).bind fun _ t _ _ => ?_
    refine (spares_unary g n t).bind fun operand u _ _ => ?_
    exact (spares_climb g n u operand (op.precedence + 1)).bind fun _ _ _ _ => .pure trivial

/-- **The loop over operators** takes operator after operator. -/
theorem repeats_climb (n least : Nat) (left : Node) (hs : s.Roomy) :
    Repeats (planClimbRound (plansLevel g n) least) left s (climb g (level g n) left least s) := by
  let plans := plansLevel g n
  refine repeats_of_unfold _ (fun left s hs => climb_unfold plans least left hs)
    (fun left left' s t hs hrun => ?_) left hs
  refine (spares_climbRound n least left s).takes_of_lt hrun ?_
  rcases continues_cases s.current.kind least with ⟨op, hop, hle⟩ | hdone
  · obtain ⟨operator, u, hadv, hrest⟩ :=
      bind_eq_ok ((climbRound_of_operator hop hle).symm.trans hrun)
    obtain ⟨operand, v, hunary, hclimb⟩ := bind_eq_ok hrest
    obtain ⟨right, w, hright, hpure⟩ := bind_eq_ok hclimb
    cases hpure
    have hlt := (later_operand plans hop hadv hunary).2
    exact Nat.lt_of_le_of_lt ((planClimb plans _ _).composed.later_of_ok hright).remaining hlt
  · cases (climbRound_of_stop hdone).symm.trans hrun

end TwinSyntax.Grammar
