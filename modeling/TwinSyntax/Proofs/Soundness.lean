import TwinSyntax.Proofs.Verdict
import TwinSyntax.Proofs.Viable

/-!
# Soundness

Without room for diagnostics, every rule keeps both promises of a `Verdict`: what it reads is the
phrase it is named after, and what it refuses comes behind tokens that can be completed to one.

**One level.** The rules at one level are sound if those one level deeper are (`SoundRules`). The
levels of a phrase are counted from the bottom: a rule with `n` levels below it reads phrases that
open at most `n`.

**Loops.** The loop over operators carries the invariant that the operand so far may stand to the
left of the operator in front of it. The loop over statements carries the list so far. Both are
inductions on the tokens left.

Main result: `sound_level`.
-/

namespace TwinSyntax.Grammar

open Phrases

variable {g : Setting} {deeper : Deeper} {n : Nat}

/-! ## Promises -/

/-- What a clause has read: an expression, or a condition. -/
def IsClause (g : Setting) (n : Nat) (word : List Token) (next : TokenKind) : Clause → Prop
  | .expression tree => Expression g 0 n word tree
  | .condition tree => Condition g n word next tree

/-- The rules of `deeper` are sound, for phrases that open less than `n` levels. -/
structure SoundRules (g : Setting) (n : Nat) (deeper : Deeper) : Prop where
  planned : Nonempty (Plans g deeper)
  unary : Sound g deeper.unary (fun w _ tree => ∃ m, n = m + 1 ∧ Expression g tightest m w tree)
    (ViableExpression g tightest)
  expression : Sound g deeper.expression (fun w _ tree => ∃ m, n = m + 1 ∧ Expression g 0 m w tree)
    (ViableExpression g 0)
  clause : Sound g deeper.clause (fun w k clause => ∃ m, n = m + 1 ∧ IsClause g m w k clause)
    (ViableCondition g)
  statement : Sound g deeper.statement
    (fun w k tree => ∃ m, n = m + 1 ∧ Derives g .statement m w k tree) (Viable g .statement)
  conditional {s : Reading} : Ready s → s.current.kind = .ifWord →
    Verdict g s (fun w k tree => ∃ m, n = m + 1 ∧ Derives g .conditional m w k tree)
      (Viable g .conditional) (deeper.conditional s)
  block : Sound g deeper.block (fun w k tree => ∃ m, n = m + 1 ∧ Derives g .block m w k tree)
    (Viable g .block)
  statements (closer : TokenKind) : Sound g (deeper.statements closer)
    (fun w k tree => ∃ m, n = m + 1 ∧ Derives g .statements m w k tree) (Viable g .statements)

/-! ## Expressions -/

theorem verdict_leaf {s : Reading} (hs : Ready s) (value : Payload) :
    Verdict g s (fun w _ tree => w = [s.current] ∧ tree = .leaf value (g.locate s.current.span))
      (fun w => w = [s.current]) (leaf g value s) := by
  refine .take hs rfl fun t _ _ => .pure ⟨rfl, rfl⟩

theorem sound_primary (hd : SoundRules g n deeper) :
    Sound g (primary g deeper) (fun w _ tree => Expression g tightest n w tree)
      (ViableExpression g tightest) := by
  intro s hs
  rw [primary, peek_bind]
  cases hvalue : payload? s.current.kind with
  | some value =>
    have hkind := payload?_eq_some.mp hvalue
    refine (verdict_leaf hs value).mono ?_ ?_
    · rintro w k tree - ⟨rfl, rfl⟩
      exact .leaf hkind
    · rintro w - rfl
      exact (@Expression.leaf g _ n _ _ hkind).viable
  | none =>
    dsimp only
    split
    · next hopen =>
      refine .take hs ((viableExpression_nil 0).parens hopen) fun t _ ht => ?_
      refine .bind ht (.nested (hd.expression _ (ht.atDepth _))) (fun w _ hw => hw.parens hopen) ?_
      rintro w tree t₁ - ht₁ ⟨m, rfl, hw⟩
      refine .expect ht₁ ?_ ?_ ?_
      · rw [List.append_nil]
        exact hw.viable.parens hopen
      · intro hclose
        exact (Expression.parens hopen hw hclose).viable
      · intro hclose t₂ _ _
        exact .pure (.parens hopen hw hclose)
    · exact .unexpected (viableExpression_nil tightest)

theorem sound_unary (hd : SoundRules g n deeper) :
    Sound g (unary g deeper) (fun w _ tree => Expression g tightest n w tree)
      (ViableExpression g tightest) := by
  intro s hs
  rw [unary, peek_bind]
  split
  · next hminus =>
    refine .take hs ((viableExpression_nil tightest).negate hminus) fun t _ ht => ?_
    refine .bind ht (.nested (hd.unary _ (ht.atDepth _))) (fun w _ hw => hw.negate hminus) ?_
    rintro w tree t₁ - - ⟨m, rfl, hw⟩
    refine .pure ?_
    rw [List.append_nil]
    exact .negate hminus hw
  · exact sound_primary hd s hs

/-- **The loop over operators.** The operand `left` may stand to the left of the operator in front
of it, if that operator is tight enough to be taken. -/
theorem verdict_climb (hd : SoundRules g n deeper) {s : Reading} (hs : Ready s) {left : Node}
    {least : Nat} {u : List Token} (hleft : Expression g least n u left)
    (hnext : ∀ op : Arithmetic, s.current.kind = op.token → least ≤ op.rank →
      Expression g op.rank n u left) :
    Verdict g s
      (fun v k tree => Expression g least n (u ++ v) tree ∧
        ∀ op : Arithmetic, k = op.token → op.rank < least)
      (fun v => ViableExpression g least (u ++ v)) (climb g deeper left least s) := by
  induction hr : s.remaining using Nat.strongRecOn generalizing s left least u with
  | ind r ih =>
    rcases continues_cases s.current.kind least with ⟨op, hop, hle⟩ | hdone
    · obtain ⟨plans⟩ := hd.planned
      rw [climb_step plans hs.roomy hop hle, op.precedence_eq_rank]
      rw [op.precedence_eq_rank] at hle
      have hkind := arithmetic?_eq_some.mp hop
      have hu := hnext op hkind hle
      have hright : ∀ {v}, ViableExpression g (op.rank + 1) v →
          ViableExpression g least (u ++ s.current :: v) := fun hv => .binary hu hkind hle hv
      refine .take hs (hright (viableExpression_nil _)) fun t₁ hpath₁ ht₁ => ?_
      have h₁ := hpath₁.remaining_lt (arithmetic?_endOfFile hop)
      refine .bind ht₁ (sound_unary hd t₁ ht₁) (fun w _ hw => hright hw.of_tightest) ?_
      intro v operand t₂ hpath₂ ht₂ hv
      have h₂ := hpath₂.later.remaining
      -- The right operand takes the operators that are tighter than this one.
      refine .bind ht₂ (ih _ (by omega) ht₂ hv.of_tightest (fun _ _ _ => hv.of_tightest) rfl)
        (fun w _ hw => hright hw) ?_
      rintro v' right t₃ hpath₃ ht₃ ⟨hv', hstop⟩
      have h₃ := hpath₃.later.remaining
      have hbinary : Expression g least n _ _ := .binary hu hkind hle hv'
      have hrest := ih _ (by omega) ht₃ hbinary
        (fun op' hop' _ => .binary hu hkind (Nat.le_of_lt_succ (hstop op' hop')) hv') rfl
      simpa only [List.append_assoc, List.cons_append] using hrest
    · rw [climb_done hs.roomy hdone]
      refine .pure ⟨?_, fun op hop => ?_⟩
      · rw [List.append_nil]
        exact hleft
      · rw [← op.precedence_eq_rank]
        exact hdone op (arithmetic?_eq_some.mpr hop)

theorem sound_expression (hd : SoundRules g n deeper) :
    Sound g (expression g deeper)
      (fun w k tree => Expression g 0 n w tree ∧ ∀ op : Arithmetic, k ≠ op.token)
      (ViableExpression g 0) := by
  intro s hs
  refine .bind hs (sound_unary hd s hs) (fun w _ hw => hw.of_tightest) ?_
  intro w tree t _ ht hw
  refine (verdict_climb hd ht hw.of_tightest (fun _ _ _ => hw.of_tightest)).mono ?_ ?_
  · rintro v k tree' - ⟨hv, hstop⟩
    exact ⟨hv, fun op hop => absurd (hstop op hop) (Nat.not_lt_zero _)⟩
  · exact fun _ _ hv => hv

/-! ## Conditions -/

/-- A comparison may follow the expression `left`. -/
theorem verdict_finishClause (hd : SoundRules g n deeper) {s : Reading} (hs : Ready s) {left : Node}
    {u : List Token} (hleft : Expression g 0 n u left) :
    Verdict g s (fun v => IsClause g n (u ++ v)) (fun v => ViableCondition g (u ++ v))
      (finishClause g deeper left s) := by
  rw [finishClause, peek_bind]
  cases hrel : relation? s.current.kind with
  | none =>
    refine .pure ?_
    rw [List.append_nil]
    exact hleft
  | some rel =>
    have hkind := relation?_eq_some.mp hrel
    refine .take hs (.compare hleft hkind (viableExpression_nil 0)) fun t _ ht => ?_
    refine .bind ht (sound_expression hd t ht) (fun w _ hw => .compare hleft hkind hw) ?_
    rintro w right t₁ - - ⟨hright, hnext⟩
    refine .pure ?_
    rw [List.append_nil]
    exact .compare hleft hkind hright hnext

theorem sound_clause (hd : SoundRules g n deeper) :
    Sound g (clause g deeper) (IsClause g n) (ViableCondition g) := by
  intro s hs
  rw [clause, peek_bind]
  split
  · next hopen =>
    refine .take hs (.parens hopen (viableExpression_nil 0).condition) fun t _ ht => ?_
    refine .bind ht (.nested (hd.clause _ (ht.atDepth _))) (fun w _ hw => .parens hopen hw) ?_
    -- Only the content says whether the parentheses enclose a condition or an expression.
    rintro w (tree | tree) t₁ - ht₁ ⟨m, rfl, hw⟩
    · refine .expect ht₁ ?_ ?_ ?_
      · rw [List.append_nil]
        exact .parens hopen hw.viable
      · intro hclose
        have hparens : Condition g (m + 1) _ .endOfFile tree := .parens hopen (hclose ▸ hw) hclose
        exact hparens.viable
      · intro hclose t₂ _ _
        exact .pure (.parens hopen (hclose ▸ hw) hclose)
    · refine .expect ht₁ ?_ ?_ ?_
      · rw [List.append_nil]
        exact (hw.viable.parens hopen).condition
      · intro hclose
        exact (Expression.parens hopen hw hclose).viable.condition
      · intro hclose t₂ _ ht₂
        have hparens : ∀ least, Expression g least (m + 1) _ tree := fun least =>
          .parens hopen hw hclose
        have hclimb := verdict_climb hd ht₂ (hparens 0) fun op _ _ => hparens op.rank
        refine .bind ht₂ (hclimb.mono (fun _ _ _ _ h => h) fun _ _ h => h) (fun v _ hv => ?_) ?_
        · simpa only [List.append_assoc, List.cons_append, List.nil_append] using hv.condition
        · rintro v left t₃ - ht₃ ⟨hleft, -⟩
          have hfinish := verdict_finishClause hd ht₃ hleft
          simpa only [List.append_assoc, List.cons_append, List.nil_append] using hfinish
  · refine .bind hs (sound_expression hd s hs) (fun w _ hw => hw.condition) ?_
    rintro w left t - ht ⟨hleft, -⟩
    exact verdict_finishClause hd ht hleft

theorem sound_condition (hd : SoundRules g n deeper) :
    Sound g (condition g deeper) (Condition g n) (ViableCondition g) := by
  intro s hs
  refine .bind hs (sound_clause hd s hs) (fun _ _ hw => hw) ?_
  rintro w (tree | tree) t - ht hw
  · refine .pure ?_
    rw [List.append_nil]
    exact hw
  · refine .unexpected ?_
    rw [List.append_nil]
    exact hw.viable.condition

/-! ## Simple statements -/

theorem verdict_endStatement {s : Reading} (hs : Ready s) :
    Verdict g s (fun v k _ => Terminator g.surface v k)
      (fun v => ∃ rest next, Terminator g.surface (v ++ rest) next) (endStatement g s) := by
  have hnil : ∃ rest next, Terminator g.surface ([] ++ rest) next :=
    ⟨[plain g.surface.terminator], .endOfFile, .taken rfl⟩
  rw [endStatement, peek_bind]
  split
  · next hkind => exact .take hs ⟨[], .endOfFile, .taken hkind⟩ fun t _ _ => .pure (.taken hkind)
  · cases hsurface : g.surface with
    | myrmidon =>
      rw [hsurface] at hnil
      dsimp only
      split
      · next hnext => exact .pure (.ahead rfl hnext)
      · exact .unexpected hnil
    | sml =>
      rw [hsurface] at hnil
      exact .unexpected hnil

/-- The end of a statement that only lacks its terminator. -/
theorem verdict_ending {s : Reading} (hs : Ready s) {u : List Token} {tree : Node}
    (h : ∀ ending next, Terminator g.surface ending next →
      Derives g .statement n (u ++ ending) next tree) :
    Verdict g s (fun v k tree => Derives g .statement n (u ++ v) k tree)
      (fun v => Viable g .statement (u ++ v)) ((do endStatement g; return tree) s) := by
  refine .bind hs (verdict_endStatement hs) ?_ ?_
  · rintro v - ⟨rest, next, hend⟩
    have hderives := h _ _ hend
    rw [← List.append_assoc] at hderives
    exact hderives.viable.of_append
  · intro v _ t _ _ hend
    refine .pure ?_
    rw [List.append_nil]
    exact h _ _ hend

theorem verdict_assignmentOrExpression (hd : SoundRules g n deeper) {s : Reading} (hs : Ready s)
    {name : String} (hname : s.current.kind = .identifier name) :
    Verdict g s (Derives g .statement n) (Viable g .statement)
      (assignmentOrExpression g deeper name s) := by
  have htarget : ∀ least, Expression g least n [s.current] _ := fun least =>
    .leaf (show s.current.kind = (Payload.identifier name).token from hname)
  refine .bind hs (verdict_leaf hs _) ?_ ?_
  · rintro w - rfl
    exact viable_expression (htarget 0).viable
  rintro w target t - ht ⟨rfl, rfl⟩
  rw [peek_bind]
  split
  · next hassign =>
    refine .take ht ?_ fun t₁ _ ht₁ => ?_
    · exact viable_assignment hname hassign (viableExpression_nil 0)
    refine .bind ht₁ (sound_expression hd t₁ ht₁) (fun w _ hw => ?_) ?_
    · exact viable_assignment hname hassign hw
    rintro w value t₂ - ht₂ ⟨hvalue, -⟩
    exact @verdict_ending g n t₂ ht₂ (s.current :: t.current :: w) _
      fun ending next hend => .assignment hname hassign hvalue hend
  · have hclimb := verdict_climb hd ht (htarget 0) fun op _ _ => htarget op.rank
    refine .bind ht (hclimb.mono (fun _ _ _ _ h => h) fun _ _ h => h) (fun v _ hv => ?_) ?_
    · exact viable_expression hv
    rintro v value t₁ - ht₁ ⟨hvalue, -⟩
    exact verdict_ending ht₁ fun ending next hend => .expression hvalue hend

/-! ## Bodies and branches -/

theorem sound_block (hd : SoundRules g n deeper) :
    Sound g (block g deeper) (Derives g .block n) (Viable g .block) := by
  intro s hs
  refine .expect hs viable_block_nil (fun hopen => viable_block hopen viable_statements_nil) ?_
  intro hopen t _ ht
  refine .bind ht (.nested (hd.statements _ _ (ht.atDepth _))) (fun w _ hw => ?_) ?_
  · exact viable_block hopen hw
  rintro w tree t₁ - ht₁ ⟨m, rfl, hw⟩
  refine .expect ht₁ ?_ ?_ ?_
  · rw [List.append_nil]
    exact viable_block hopen hw.viable
  · intro hclose
    have hblock : Derives g .block (m + 1) _ .endOfFile tree := .block hopen (hclose ▸ hw) hclose
    exact hblock.viable
  · intro hclose t₂ _ _
    exact .pure (.block hopen (hclose ▸ hw) hclose)

theorem sound_body (hd : SoundRules g n deeper) :
    Sound g (body g deeper) (Derives g .body n) (Viable g .body) := by
  intro s hs
  refine .nested ?_
  have hs' := hs.atDepth (s.depth + 1)
  rw [peek_bind]
  cases hsurface : g.surface with
  | sml =>
    rw [if_pos (show Surface.sml.bracedBodies = true from rfl)]
    split
    · refine (hd.block _ hs').mono ?_ fun w _ hw => hw.map fun _ _ _ _ => .bodyBlock hsurface
      rintro w k tree - ⟨m, rfl, hw⟩
      exact .bodyBlock hsurface hw
    · exact .unexpected viable_body_nil
  | myrmidon =>
    rw [if_neg (show ¬ Surface.myrmidon.bracedBodies = true from Bool.false_ne_true)]
    split
    · exact .unexpected viable_body_nil
    · refine (hd.statement _ hs').mono ?_ fun w _ hw => hw.map fun _ _ _ _ =>
        .bodyStatement hsurface
      rintro w k tree - ⟨m, rfl, hw⟩
      exact .bodyStatement hsurface hw

theorem verdict_loop (hd : SoundRules g n deeper) {s : Reading} (hs : Ready s)
    (hkey : s.current.kind = .whileWord) :
    Verdict g s (Derives g .statement n) (Viable g .statement) (loop g deeper s) := by
  refine .take hs (viable_loop_condition hkey (viableExpression_nil 0).condition) fun t _ ht => ?_
  refine .bind ht (sound_condition hd t ht) (fun w _ hw => viable_loop_condition hkey hw) ?_
  intro u condition t₁ _ ht₁ hcond
  refine .bind ht₁ (sound_body hd t₁ ht₁) (fun v hfront hv => ?_) ?_
  · exact viable_loop_body hkey hcond hfront hv
  intro v body t₂ hpath₂ _ hbody
  refine .pure ?_
  rw [List.append_nil]
  exact .loop hkey (hpath₂.front_eq ▸ hcond) hbody

/-- The branch behind an `else`. -/
theorem verdict_alternative (hd : SoundRules g n deeper) {s : Reading} (hs : Ready s)
    (hmiddle : s.current.kind = .elseWord) :
    Verdict g s (fun w k tree => ∃ v, w = s.current :: v ∧ Derives g .alternative n v k tree)
      (fun w => ∃ v, w = s.current :: v ∧ Viable g .alternative v) (alternative g deeper s) := by
  have hbody : ∀ {v}, Viable g .body v → Viable g .alternative v := fun hv =>
    hv.map fun _ _ _ _ => .ofBody
  rw [alternative, peek_bind, if_pos hmiddle]
  refine .take hs ⟨[], rfl, hbody viable_body_nil⟩ fun t _ ht => ?_
  rw [peek_bind]
  split
  · next hchained =>
    obtain ⟨hbraced, hif⟩ := Bool.and_eq_true_iff.mp hchained
    have hsurface : g.surface = .sml := by
      cases hsurface : g.surface with
      | sml => rfl
      | myrmidon =>
        rw [hsurface] at hbraced
        cases hbraced
    refine (Verdict.nested (hd.conditional (ht.atDepth _) (beq_iff_eq.mp hif))).mono ?_ ?_
    · rintro w k tree - ⟨m, rfl, hw⟩
      exact ⟨w, rfl, .chained hsurface hw⟩
    · rintro w - hw
      exact ⟨w, rfl, hw.map fun _ _ _ _ => .chained hsurface⟩
  · refine (sound_body hd t ht).mono ?_ ?_
    · rintro w k tree - hw
      exact ⟨w, rfl, .ofBody hw⟩
    · rintro w - hw
      exact ⟨w, rfl, hbody hw⟩

theorem verdict_conditional (hd : SoundRules g n deeper) {s : Reading} (hs : Ready s)
    (hkey : s.current.kind = .ifWord) :
    Verdict g s (Derives g .conditional n) (Viable g .conditional) (conditional g deeper s) := by
  refine .take hs (viable_conditional_condition hkey (viableExpression_nil 0).condition)
    fun t _ ht => ?_
  refine .bind ht (sound_condition hd t ht) (fun w _ hw => ?_) ?_
  · exact viable_conditional_condition hkey hw
  intro u condition t₁ _ ht₁ hcond
  refine .bind ht₁ (sound_body hd t₁ ht₁) (fun v hfront hv => ?_) ?_
  · exact viable_conditional_body hkey hcond hfront hv
  intro v thenBranch t₂ hpath₂ ht₂ hthen
  have hcond' := hpath₂.front_eq ▸ hcond
  by_cases hmiddle : t₂.current.kind = .elseWord
  · rw [hmiddle] at hthen hcond'
    refine .bind ht₂ (verdict_alternative hd ht₂ hmiddle) ?_ ?_
    · rintro w - ⟨w, rfl, hw⟩
      exact viable_conditional_alternative hkey hcond' hthen hmiddle hw
    rintro w elseBranch t₃ - - ⟨w, rfl, hw⟩
    refine .pure ?_
    rw [List.append_nil]
    exact .both hkey hcond' hthen hmiddle hw
  · have halternative : alternative g deeper t₂ = .ok .eos t₂ := by
      rw [alternative, peek_bind, if_neg hmiddle]
      rfl
    rw [bind_of_ok halternative]
    refine .pure ?_
    rw [List.append_nil]
    exact .alone hkey hcond' hthen hmiddle

theorem sound_statement (hd : SoundRules g n deeper) :
    Sound g (statement g deeper) (Derives g .statement n) (Viable g .statement) := by
  intro s hs
  rcases statement_cases g deeper s with
      ⟨hkey, hrun⟩ | ⟨hkey, hrun⟩ | ⟨-, hrun⟩ | ⟨name, hname, hrun⟩ | hrun <;> rw [hrun]
  · exact verdict_loop hd hs hkey
  · refine (verdict_conditional hd hs hkey).mono ?_ ?_
    · exact fun _ _ _ _ hw => .ofConditional hw
    · exact fun _ _ hw => hw.map fun _ _ _ _ => .ofConditional
  · refine (sound_block hd s hs).mono ?_ ?_
    · exact fun _ _ _ _ hw => .ofBlock hw
    · exact fun _ _ hw => hw.map fun _ _ _ _ => .ofBlock
  · exact verdict_assignmentOrExpression hd hs hname
  · refine .bind hs (sound_expression hd s hs) (fun w _ hw => viable_expression hw) ?_
    rintro w value t - ht ⟨hvalue, -⟩
    exact verdict_ending ht fun ending next hend => .expression hvalue hend

/-! ## Lists of statements -/

theorem sound_listed (hd : SoundRules g n deeper) :
    Sound g (listed g deeper) (Derives g .listed n) (Viable g .listed) := by
  intro s hs
  rw [listed, peek_bind]
  split
  · next hkind =>
    have hempty : ∀ next, Derives g .listed n [s.current] next .eos := fun _ => .empty hkind
    exact .take hs (.of_derives n fun next _ => hempty next) fun t _ _ => .pure (hempty _)
  · refine (sound_statement hd s hs).mono ?_ ?_
    · exact fun _ _ _ _ hw => .ofStatement hw
    · exact fun _ _ hw => hw.map fun _ _ _ _ => .ofStatement

/-- The tokens `word` are the list read so far. -/
def IsList (g : Setting) (n : Nat) (word : List Token) (next : TokenKind) : Option Node → Prop
  | none => word = []
  | some list => Derives g .several n word next list

section IsList

variable {u v : List Token} {k : TokenKind} {list : Option Node}

theorem IsList.statements (h : IsList g n u k list) :
    Derives g .statements n u k (list.getD .eos) := by
  cases list with
  | none =>
    obtain rfl : u = [] := h
    exact .none
  | some list => exact .some h

theorem IsList.joined {tree : Node} (h : IsList g n u (front v k) list)
    (hv : Derives g .listed n v k tree) :
    IsList g n (u ++ v) k (some (Grammar.joined list tree)) := by
  cases list with
  | none =>
    obtain rfl : u = [] := h
    exact .first hv
  | some list => exact .more h hv

theorem IsList.viable (h : IsList g n u k list) (hfront : front v k = k) (hv : Viable g .listed v) :
    Viable g .statements (u ++ v) := by
  cases list with
  | none =>
    obtain rfl : u = [] := h
    exact hv.map fun _ _ _ _ hw => .some (.first hw)
  | some list => exact viable_statements h hfront hv

end IsList

/-- **The loop over statements.** -/
theorem verdict_continueStatements (hd : SoundRules g n deeper) (closer : TokenKind) (rounds : Nat)
    {s : Reading} (hs : Ready s) (hrounds : s.remaining < rounds) {list : Option Node}
    {u : List Token} (hlist : IsList g n u s.current.kind list) :
    Verdict g s (fun v => Derives g .statements n (u ++ v)) (fun v => Viable g .statements (u ++ v))
      (continueStatements g deeper closer list rounds s) := by
  induction rounds generalizing s list u with
  | zero => omega
  | succ rounds ih =>
    rw [continueStatements_succ]
    split
    · refine .pure ?_
      rw [List.append_nil]
      exact hlist.statements
    · next hopen =>
      refine .recovering hs (sound_listed hd s hs) (fun v hfront hv => hlist.viable hfront hv) ?_
      intro v tree t hpath ht hv
      rw [← hpath.front_eq] at hlist
      have hlt : t.remaining < s.remaining := by
        obtain ⟨token, rest, rfl, -⟩ := hv.starts (by simp)
        obtain ⟨-, rfl, -, -⟩ := hpath.cons_inv
        exact hpath.remaining_lt fun hend => hopen (.inr hend)
      have hrest := ih ht (by omega) (hlist.joined hv)
      simpa only [List.append_assoc] using hrest

theorem sound_statements (hd : SoundRules g n deeper) (closer : TokenKind) :
    Sound g (statements g deeper closer) (Derives g .statements n) (Viable g .statements) :=
  fun s hs => @verdict_continueStatements g deeper n hd closer s.rounds s hs hs.roomy none [] rfl

/-! ## All levels -/

theorem soundRules_bottom : SoundRules g 0 bottom where
  planned := ⟨plansBottom⟩
  unary _ _ := .fail (.inl rfl)
  expression _ _ := .fail (.inl rfl)
  clause _ _ := .fail (.inl rfl)
  statement _ _ := .fail (.inl rfl)
  conditional _ _ := .fail (.inl rfl)
  block _ _ := .fail (.inl rfl)
  statements _ _ _ := .fail (.inl rfl)

/-- With one more level below it, a rule still reads what it read. -/
theorem Verdict.below {α : Type} {s : Reading} {good : Nat → List Token → TokenKind → α → Prop}
    {viable : List Token → Prop} {r : EStateM.Result CompileError Reading α}
    (h : Verdict g s (good n) viable r) :
    Verdict g s (fun w k a => ∃ m, n + 1 = m + 1 ∧ good m w k a) viable r :=
  h.mono (fun _ _ _ _ hw => ⟨n, rfl, hw⟩) fun _ _ hw => hw

/-- **Every rule is sound**, at every level of nesting. -/
theorem sound_level (n : Nat) : SoundRules g n (level g n) := by
  induction n with
  | zero => exact soundRules_bottom
  | succ n ih => exact {
      planned := ⟨plansLevel g (n + 1)⟩
      unary := fun s hs => (sound_unary ih s hs).below
      expression := fun s hs =>
        ((sound_expression ih s hs).mono (fun _ _ _ _ hw => hw.1) fun _ _ hw => hw).below
      clause := fun s hs => (sound_clause ih s hs).below
      statement := fun s hs => (sound_statement ih s hs).below
      conditional := fun hs hkey => (verdict_conditional ih hs hkey).below
      block := fun s hs => (sound_block ih s hs).below
      statements := fun closer s hs => (sound_statements ih closer s hs).below }

end TwinSyntax.Grammar
