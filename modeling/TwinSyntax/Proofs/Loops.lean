import TwinSyntax.Proofs.Plans

/-!
# The loops of the grammar

A loop that has more rounds left than tokens does not depend on their number. So it may be read
without its rounds: it does what its body says, and then goes on as it started. Each loop is
unfolded once here, in each of the ways in which a round can come out.

Main results: `climb_step`, `listFrom_ok`, `listFrom_failed`.
-/

namespace TwinSyntax.Grammar

variable {g : Setting} {deeper : Deeper}

/-! ## The loops without their rounds -/

/-- A loop that has room may be given any number of rounds that is large enough. -/
theorem Settled.looping_eq {α : Type} {loop : Nat → Read α} (h : Settled loop) {s : Reading}
    (hs : s.Roomy) {n : Nat} (hn : s.remaining < n) : looping loop s = loop n s :=
  h s s.rounds n hs hs hn

theorem Reading.Roomy.rounds_pos {s : Reading} (hs : s.Roomy) : ∃ n, s.rounds = n + 1 :=
  ⟨s.rounds - 1, by unfold Reading.Roomy at hs; omega⟩

section Unrolled

variable {s : Reading} {left : Node} {least : Nat}

theorem climb_done (hs : s.Roomy)
    (h : ∀ op, arithmetic? s.current.kind = some op → op.precedence < least) :
    climb g deeper left least s = .ok left s := by
  obtain ⟨n, hn⟩ := hs.rounds_pos
  rw [climb, looping, hn, continueExpression_done h]

/-- **The loop over operators**, unfolded once. -/
theorem climb_step (plans : Plans g deeper) (hs : s.Roomy) {op : Arithmetic}
    (hop : arithmetic? s.current.kind = some op) (hle : least ≤ op.precedence) :
    climb g deeper left least s =
      (do
        let operator ← advance g
        let operand ← unary g deeper
        let right ← climb g deeper operand (op.precedence + 1)
        climb g deeper (.arithmetic op (g.locate operator.span) left right) least) s := by
  obtain ⟨n, hn⟩ := hs.rounds_pos
  have hroom : s.remaining < n + 1 := hn ▸ hs
  rw [climb, looping, hn, continueExpression_step hop hle]
  refine bind_congr_run rfl fun operator s₁ hadv => ?_
  refine bind_congr_run rfl fun operand s₂ hunary => ?_
  obtain ⟨h₂, hlt⟩ := later_operand plans hop hadv hunary
  refine bind_congr_run ((settled_continueExpression plans _ _).looping_eq (h₂.roomy hs)
    (by omega)).symm fun right s₃ hright => ?_
  have h₃ := (planContinueExpression plans _ _ _).composed.later_of_ok hright
  have hle₃ := h₃.remaining
  exact ((settled_continueExpression plans _ _).looping_eq (h₃.roomy (h₂.roomy hs)) (by omega)).symm

variable {closer : TokenKind} {list : Option Node}

theorem listFrom_done (hs : s.Roomy) (h : s.current.kind = closer ∨ s.current.kind = .endOfFile) :
    listFrom g deeper closer list s = .ok (list.getD .eos) s := by
  obtain ⟨n, hn⟩ := hs.rounds_pos
  rw [listFrom, looping, hn, continueStatements_succ, if_pos h]

/-- A list goes on behind a statement that was read. -/
theorem listFrom_ok (plans : Plans g deeper) (hs : s.Roomy)
    (h : ¬ (s.current.kind = closer ∨ s.current.kind = .endOfFile)) {tree : Node} {s₁ : Reading}
    (hlisted : listed g deeper s = .ok tree s₁) :
    listFrom g deeper closer list s = listFrom g deeper closer (some (joined list tree)) s₁ := by
  obtain ⟨n, hn⟩ := hs.rounds_pos
  have hroom : s.remaining < n + 1 := hn ▸ hs
  have h₁ := eager_listed plans s _ _ hlisted
  rw [listFrom, looping, hn, continueStatements_succ, if_neg h, recovering_of_ok hlisted]
  exact ((settled_continueStatements plans closer _).looping_eq
    (((planListed plans).composed.later_of_ok hlisted).roomy hs) (by omega)).symm

/-- A list gives up a statement that failed, and goes on behind it. -/
theorem listFrom_failed (plans : Plans g deeper) (hs : s.Roomy)
    (h : ¬ (s.current.kind = closer ∨ s.current.kind = .endOfFile)) {e : SyntaxError}
    {t u v : Reading} (hlisted : listed g deeper s = .error (.grammatical e) t)
    (hrecord : record e { t with depth := s.depth } = .ok () u)
    (hskip : looping (skipStatement g closer) u = .ok () v) :
    listFrom g deeper closer list s = listFrom g deeper closer list v := by
  obtain ⟨n, hn⟩ := hs.rounds_pos
  have hpos := remaining_pos fun hend => h (.inr hend)
  have hroom : s.remaining < n + 1 := hn ▸ hs
  have hsu : Later s u := by
    have hlater := later_record e { t with depth := s.depth }
    rw [hrecord] at hlater
    exact (((planListed plans).composed.later_of_error hlisted).depth s.depth s.depth).trans hlater
  have hu := hsu.remaining
  have hv := ((composed_skipStatement closer).later_of_ok hskip).roomy (hsu.roomy hs)
  rw [listFrom, looping, hn, continueStatements_succ, if_neg h, recovering_of_grammatical hlisted,
    bind_of_ok hrecord, bind_of_ok hskip]
  rcases skipStatement_progress (hsu.roomy hs) hskip with hlt | ⟨rfl, hstop⟩
  · exact ((settled_continueStatements plans closer list).looping_eq hv (by omega)).symm
  · obtain ⟨n, rfl⟩ := Nat.exists_eq_add_one_of_ne_zero (show n ≠ 0 by omega)
    rw [continueStatements_succ, if_pos hstop]
    exact (listFrom_done hv hstop).symm

/-- A list ends where reading is given up. -/
theorem listFrom_gaveUp (hs : s.Roomy)
    (h : ¬ (s.current.kind = closer ∨ s.current.kind = .endOfFile)) {e : SyntaxError}
    {e' : CompileError} {t u : Reading} (hlisted : listed g deeper s = .error (.grammatical e) t)
    (hrecord : record e { t with depth := s.depth } = .error e' u) :
    listFrom g deeper closer list s = .error e' u := by
  obtain ⟨n, hn⟩ := hs.rounds_pos
  rw [listFrom, looping, hn, continueStatements_succ, if_neg h, recovering_of_grammatical hlisted,
    bind_of_error hrecord]

end Unrolled

end TwinSyntax.Grammar
