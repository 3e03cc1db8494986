import TwinSyntax.Proofs.Composed

/-!
# The levels are high enough

The rules are recursive, and each recursion goes through a level of nesting. The grammar is
therefore written as a tower of levels with something below it. This file says that what is below
plays no part: a level can be opened at most `maxNesting` times, and then one level of the tower is
still left.

**Agreement** (`Agree`). Two rules do the same from all states in which so many levels are open that
the place where they differ can no longer be reached. All rules of the grammar keep this, as long as
they refer to deeper rules inside a level that they open (`agree_rulesOver`).

Main result: `tower_statements_eq`.
-/

namespace TwinSyntax.Grammar

variable {g : Setting} {α β : Type} {depth : Nat}

/-! ## Towers -/

/-- The rules of one level, over the rules one level deeper. -/
def rulesOver (g : Setting) (deeper : Deeper) : Deeper where
  unary := unary g deeper
  expression := expression g deeper
  clause := clause g deeper
  statement := statement g deeper
  conditional := conditional g deeper
  block := block g deeper
  statements := statements g deeper

/-- The rules with `n` levels below them, and the rules `below` under these. -/
def tower (g : Setting) (below : Deeper) : (n : Nat) → Deeper
  | 0 => below
  | n + 1 => rulesOver g (tower g below n)

theorem tower_bottom (n : Nat) : tower g bottom n = level g n := by
  induction n with
  | zero => rfl
  | succ n ih =>
    rw [tower, ih]
    rfl

/-! ## Agreement -/

/-- Both runs do the same if at least `depth` levels are open, and close as many as they open if
they end well. -/
def Agree (depth : Nat) (p p' : Read α) : Prop :=
  ∀ s : Reading, depth ≤ s.depth → s.depth ≤ maxNesting →
    p s = p' s ∧ ∀ a t, p s = .ok a t → t.depth = s.depth

namespace Agree

variable {p p' : Read α}

theorem pure (a : α) : Agree depth (Pure.pure a) (Pure.pure a) :=
  fun _ _ _ => ⟨rfl, fun _ _ hrun => by cases hrun; rfl⟩

theorem peek : Agree depth Grammar.peek Grammar.peek :=
  fun _ _ _ => ⟨rfl, fun _ _ hrun => by cases hrun; rfl⟩

theorem fail (fault : SyntaxFault) : Agree depth (@Grammar.fail α fault) (Grammar.fail fault) :=
  fun _ _ _ => ⟨rfl, fun _ _ hrun => by cases hrun⟩

theorem advance : Agree depth (advance g) (advance g) := by
  refine fun s _ _ => ⟨rfl, fun token t hrun => ?_⟩
  rcases advance_cases g s with ⟨next, rest, -, hadv⟩ | ⟨e, rest, -, hadv⟩
  · cases hadv.symm.trans hrun
    rfl
  · cases hadv.symm.trans hrun

theorem bind {f f' : α → Read β} (h : Agree depth p p') (hnext : ∀ a, Agree depth (f a) (f' a)) :
    Agree depth (p >>= f) (p' >>= f') := by
  intro s hs hmax
  obtain ⟨hsame, hdepth⟩ := h s hs hmax
  have hthen (a : α) (t : Reading) (hrun : p s = .ok a t) :
      f a t = f' a t ∧ ∀ b u, f a t = .ok b u → u.depth = s.depth := by
    have ht := hdepth a t hrun
    rw [← ht] at hs hmax
    exact ht ▸ hnext a t hs hmax
  refine ⟨bind_congr_run hsame fun a t hrun => (hthen a t hrun).1, fun b u hrun => ?_⟩
  obtain ⟨a, t, hp, hf⟩ := bind_eq_ok hrun
  exact (hthen a t hp).2 b u hf

theorem unexpected (expecting : Expectation) :
    Agree depth (@Grammar.unexpected α expecting) (Grammar.unexpected expecting) :=
  fun _ _ _ => ⟨rfl, fun _ _ hrun => by cases hrun⟩

theorem expect (kind : TokenKind) (expecting : Expectation) :
    Agree depth (expect g kind expecting) (expect g kind expecting) := by
  refine .bind .peek fun found => ?_
  split
  · exact .advance
  · exact .unexpected expecting

/-- A level is opened: what is inside has to agree only from one level deeper on. -/
theorem nested (h : Agree (depth + 1) p p') : Agree depth (nested p) (nested p') := by
  intro s hs hmax
  rcases Nat.lt_or_ge s.depth maxNesting with hlt | hge
  · obtain ⟨hsame, hdepth⟩ := h { s with depth := s.depth + 1 } (Nat.succ_le_succ hs) hlt
    cases hrun : p { s with depth := s.depth + 1 } with
    | ok a t =>
      rw [nested_of_ok hlt hrun, nested_of_ok hlt (hsame ▸ hrun)]
      refine ⟨rfl, fun b u hresult => ?_⟩
      cases hresult
      show t.depth - 1 = s.depth
      rw [hdepth a t hrun, Nat.add_sub_cancel]
    | error e t =>
      rw [nested_of_error hlt hrun, nested_of_error hlt (hsame ▸ hrun)]
      exact ⟨rfl, fun _ _ hresult => by cases hresult⟩
  · rw [nested_too_deep hge, nested_too_deep hge]
    exact ⟨rfl, fun _ _ hresult => by cases hresult⟩

/-- A statement that fails leaves as many levels open as there were before. -/
theorem attempt (h : Agree depth p p') : Agree depth (attempt p) (attempt p') := by
  intro s hs hmax
  obtain ⟨hsame, hdepth⟩ := h s hs hmax
  rw [Grammar.attempt, Grammar.attempt, ← hsame]
  refine ⟨rfl, fun outcome t hrun => ?_⟩
  cases hp : p s with
  | ok a u =>
    rw [hp] at hrun
    cases hrun
    exact hdepth a _ hp
  | error e u =>
    rw [hp] at hrun
    cases e with
    | grammatical e =>
      cases hrun
      rfl
    | lexical e | malformed e => cases hrun

theorem record (e : SyntaxError) : Agree depth (record e) (record e) := by
  refine fun s _ _ => ⟨rfl, fun _ t hrun => ?_⟩
  rcases record_cases e s with ⟨s', hrecord, rfl⟩ | ⟨e', s', hrecord, -⟩
  · cases hrecord.symm.trans hrun
    rfl
  · cases hrecord.symm.trans hrun

theorem recovering {next next' : α → Read β} {resume resume' : Read β} (h : Agree depth p p')
    (hnext : ∀ a, Agree depth (next a) (next' a)) (hresume : Agree depth resume resume') :
    Agree depth (recovering p next resume) (recovering p' next' resume') := by
  refine .bind h.attempt fun outcome => ?_
  cases outcome with
  | ok a => exact hnext a
  | error e => exact .bind (.record e) fun _ => hresume

theorem looping {loop loop' : Nat → Read α} (h : ∀ n, Agree depth (loop n) (loop' n)) :
    Agree depth (looping loop) (looping loop') := fun s hs hmax => h s.rounds s hs hmax

end Agree

/-! ## Rules -/

variable {deeper deeper' : Deeper}

/-- All rules of two levels agree. -/
structure AgreeRules (depth : Nat) (deeper deeper' : Deeper) : Prop where
  unary : Agree depth deeper.unary deeper'.unary
  expression : Agree depth deeper.expression deeper'.expression
  clause : Agree depth deeper.clause deeper'.clause
  statement : Agree depth deeper.statement deeper'.statement
  conditional : Agree depth deeper.conditional deeper'.conditional
  block : Agree depth deeper.block deeper'.block
  statements (closer : TokenKind) : Agree depth (deeper.statements closer)
    (deeper'.statements closer)

section Rules

variable (hd : AgreeRules (depth + 1) deeper deeper')
include hd

theorem agree_primary : Agree depth (primary g deeper) (primary g deeper') := by
  refine .bind .peek fun kind => ?_
  split
  · exact .bind .advance fun _ => .pure _
  · split
    · exact .bind .advance fun _ => .bind (.nested hd.expression) fun _ =>
        .bind (.expect _ _) fun _ => .pure _
    · exact .unexpected _

theorem agree_unary : Agree depth (unary g deeper) (unary g deeper') := by
  refine .bind .peek fun kind => ?_
  split
  · exact .bind .advance fun _ => .bind (.nested hd.unary) fun _ => .pure _
  · exact agree_primary hd

theorem agree_continueExpression (left : Node) (least n : Nat) :
    Agree depth (continueExpression g deeper left least n)
      (continueExpression g deeper' left least n) := by
  induction n generalizing left least with
  | zero => exact .pure left
  | succ n ih =>
    refine .bind .peek fun kind => ?_
    split
    · exact .pure left
    · split
      · exact .pure left
      · exact .bind .advance fun _ => .bind (agree_unary hd) fun _ => .bind (ih _ _) fun _ => ih _ _

theorem agree_climb (left : Node) (least : Nat) :
    Agree depth (looping (continueExpression g deeper left least))
      (looping (continueExpression g deeper' left least)) :=
  .looping (agree_continueExpression hd left least)

theorem agree_expression : Agree depth (expression g deeper) (expression g deeper') :=
  .bind (agree_unary hd) fun left => agree_climb hd left 0

theorem agree_finishClause (left : Node) :
    Agree depth (finishClause g deeper left) (finishClause g deeper' left) := by
  refine .bind .peek fun kind => ?_
  split
  · exact .pure _
  · exact .bind .advance fun _ => .bind (agree_expression hd) fun _ => .pure _

theorem agree_clause : Agree depth (clause g deeper) (clause g deeper') := by
  refine .bind .peek fun kind => ?_
  split
  · refine .bind .advance fun _ => .bind (.nested hd.clause) fun inner =>
      .bind (.expect _ _) fun _ => ?_
    cases inner with
    | condition node => exact .pure _
    | expression node => exact .bind (agree_climb hd node 0) fun _ => agree_finishClause hd _
  · exact .bind (agree_expression hd) fun _ => agree_finishClause hd _

theorem agree_condition : Agree depth (condition g deeper) (condition g deeper') := by
  refine .bind (agree_clause hd) fun outcome => ?_
  cases outcome with
  | condition node => exact .pure _
  | expression node => exact .unexpected _

omit hd in
theorem agree_endStatement : Agree depth (endStatement g) (endStatement g) := by
  refine .bind .peek fun kind => ?_
  split
  · exact .bind .advance fun _ => .pure _
  · split
    · split
      · exact .pure _
      · exact .unexpected _
    · exact .unexpected _

theorem agree_assignmentOrExpression (name : String) :
    Agree depth (assignmentOrExpression g deeper name) (assignmentOrExpression g deeper' name) := by
  refine .bind (.bind .advance fun _ => .pure _) fun target => .bind .peek fun kind => ?_
  split
  · exact .bind .advance fun _ => .bind (agree_expression hd) fun _ =>
      .bind agree_endStatement fun _ => .pure _
  · exact .bind (agree_climb hd target 0) fun _ => .bind agree_endStatement fun _ => .pure _

theorem agree_block : Agree depth (block g deeper) (block g deeper') :=
  .bind (.expect _ _) fun _ => .bind (.nested (hd.statements _)) fun _ =>
    .bind (.expect _ _) fun _ => .pure _

theorem agree_body : Agree depth (body g deeper) (body g deeper') := by
  refine .nested (.bind .peek fun kind => ?_)
  split
  · split
    · exact hd.block
    · exact .unexpected _
  · split
    · exact .unexpected _
    · exact hd.statement

theorem agree_loop : Agree depth (loop g deeper) (loop g deeper') :=
  .bind .advance fun _ => .bind (agree_condition hd) fun _ => .bind (agree_body hd) fun _ => .pure _

theorem agree_alternative : Agree depth (alternative g deeper) (alternative g deeper') := by
  refine .bind .peek fun kind => ?_
  split
  · refine .bind .advance fun _ => .bind .peek fun kind => ?_
    dsimp only
    split
    · exact .nested hd.conditional
    · exact agree_body hd
  · exact .pure _

theorem agree_conditional : Agree depth (conditional g deeper) (conditional g deeper') :=
  .bind .advance fun _ => .bind (agree_condition hd) fun _ => .bind (agree_body hd) fun _ =>
    .bind (agree_alternative hd) fun _ => .pure _

theorem agree_statement : Agree depth (statement g deeper) (statement g deeper') := by
  refine .bind .peek fun kind => ?_
  split
  · exact agree_loop hd
  · exact agree_conditional hd
  · exact agree_block hd
  · exact agree_assignmentOrExpression hd _
  · exact .bind (agree_expression hd) fun _ => .bind agree_endStatement fun _ => .pure _

theorem agree_listed : Agree depth (listed g deeper) (listed g deeper') := by
  refine .bind .peek fun kind => ?_
  split
  · exact .bind .advance fun _ => .pure _
  · exact agree_statement hd

omit hd in
theorem agree_skipStatement (closer : TokenKind) (n : Nat) :
    Agree depth (skipStatement g closer n) (skipStatement g closer n) := by
  induction n with
  | zero => exact .pure ()
  | succ n ih =>
    refine .bind .peek fun kind => ?_
    split
    · exact .bind .advance fun _ => .pure _
    · split
      · exact .pure ()
      · exact .bind .advance fun _ => ih

theorem agree_continueStatements (closer : TokenKind) (list : Option Node) (n : Nat) :
    Agree depth (continueStatements g deeper closer list n)
      (continueStatements g deeper' closer list n) := by
  induction n generalizing list with
  | zero => exact .pure _
  | succ n ih =>
    refine .bind .peek fun kind => ?_
    split
    · exact .pure _
    · exact .recovering (agree_listed hd) (fun _ => ih _)
        (.bind (.looping (agree_skipStatement closer)) fun _ => ih _)

/-- **A level agrees** with another one if the levels below them agree one level deeper. -/
theorem agree_rulesOver : AgreeRules depth (rulesOver g deeper) (rulesOver g deeper') where
  unary := agree_unary hd
  expression := agree_expression hd
  clause := agree_clause hd
  statement := agree_statement hd
  conditional := agree_conditional hd
  block := agree_block hd
  statements closer := .looping (agree_continueStatements hd closer none)

end Rules

/-! ## What is below the tower -/

/-- What is below a tower cannot be told from states in which the levels of the tower are enough. -/
theorem agree_tower (below below' : Deeper) (n : Nat) (h : maxNesting < depth + n) :
    AgreeRules depth (tower g below n) (tower g below' n) := by
  induction n generalizing depth with
  | zero =>
    -- there are no such states
    have hnone {α : Type} (p p' : Read α) : Agree depth p p' := fun s hs hmax => by omega
    exact ⟨hnone _ _, hnone _ _, hnone _ _, hnone _ _, hnone _ _, hnone _ _, fun _ => hnone _ _⟩
  | succ n ih => exact agree_rulesOver (ih (by omega))

/-- **A run never comes to the end of the levels.** Whatever is put below them, a list of statements
that starts with no level open is read in the same way. -/
theorem tower_statements_eq (below : Deeper) (closer : TokenKind) {s : Reading} (hs : s.depth = 0) :
    (level g (maxNesting + 1)).statements closer s =
      (tower g below (maxNesting + 1)).statements closer s := by
  have hagree : AgreeRules 0 (tower g bottom (maxNesting + 1)) (tower g below (maxNesting + 1)) :=
    agree_tower bottom below (maxNesting + 1) (by omega)
  rw [← tower_bottom]
  exact (hagree.statements closer s (Nat.zero_le _) (by omega)).1

end TwinSyntax.Grammar
