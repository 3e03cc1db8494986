import TwinSyntax.Proofs.Composed

/-!
# The plans of the rules

How each rule of the grammar is put together from the steps. This is where the rules are taken
apart: what holds of a rule because of the steps that it is made of is read off its plan.

**Plans** (`Plan`). How a run is put together from the steps, kept as data. `Composed` says that
there is a plan, which is all that most proofs need (`Plan.composed`). The plan of a rule follows
its text, one step behind the other. Nodes are built without a step of their own, because the
children that a rule hands to `build` always fit the kind.

**Progress** (`Eager`). A run that succeeds only if it takes a token. A plan shows it by its first
step that is more than a look at the current token (`Plan.Starts`). Statements and their parts are
eager because all of them start with a token of their own.

**Loops** (`Settled`). Three loops run as long as tokens last: over binary operators, over the
statements of a list, and over the tokens of a statement that is given up. Each is written with a
number of rounds. A round takes a token or is the last one but one, so a loop with more rounds than
tokens does not depend on their number. The plan of a loop asks for this, and so the plans and the
loops take turns here.

Main results: `plansLevel`, `planWholeFile`.
-/

namespace TwinSyntax.Grammar

variable {g : Setting} {deeper : Deeper}

/-! ## Plans -/

/-- How a run is put together. Of the faults that a message can name, `noProgram` is not raised. -/
inductive Plan (g : Setting) : {α : Type} → Read α → Type 1
  | pure {α : Type} (a : α) : Plan g (pure a)
  | peek : Plan g peek
  | advance : Plan g (advance g)
  | fail {α : Type} (fault : SyntaxFault) : fault ≠ .noProgram → Plan g (@fail α fault)
  | bind {α β : Type} {p : Read α} {f : α → Read β} :
      Plan g p → ((a : α) → Plan g (f a)) → Plan g (p >>= f)
  | nested {α : Type} {p : Read α} : Plan g p → Plan g (nested p)
  | recovering {α β : Type} {p : Read α} {next : α → Read β} {resume : Read β} :
      Plan g p → ((a : α) → Plan g (next a)) → Plan g resume → Plan g (recovering p next resume)
  | looping {α : Type} {loop : Nat → Read α} :
      ((n : Nat) → Plan g (loop n)) → Settled loop → Plan g (looping loop)

theorem Plan.composed {α : Type} {p : Read α} (plan : Plan g p) : Composed g p := by
  induction plan with
  | pure a => exact .pure a
  | peek => exact .peek
  | advance => exact .advance
  | fail fault _ => exact .fail fault
  | bind _ _ ihp ihf => exact .bind ihp ihf
  | nested _ ih => exact .nested ih
  | recovering _ _ _ ihp ihnext ihresume => exact .recovering ihp ihnext ihresume
  | looping _ hsettled ih => exact .looping ih hsettled

/-- The plan of a choice is that of the choice made. -/
def Plan.either {α : Type} {c : Prop} [inst : Decidable c] {p q : Read α} (yes : c → Plan g p)
    (no : ¬ c → Plan g q) : Plan g (if c then p else q) :=
  match inst with
  | isTrue h => yes h
  | isFalse h => no h

def Plan.unexpected {α : Type} (expecting : Expectation) : Plan g (@unexpected α expecting) :=
  .bind .peek fun kind => .fail (.unexpected kind expecting) nofun

def Plan.expect (kind : TokenKind) (expecting : Expectation) : Plan g (expect g kind expecting) :=
  .bind .peek fun _ => .either (fun _ => .advance) fun _ => .unexpected expecting

/-! ## Progress -/

/-- Success of `p` from `s` takes a token. -/
def Eager {α : Type} (p : Read α) (s : Reading) : Prop :=
  ∀ a s', p s = .ok a s' → s'.remaining < s.remaining

/-- The plan starts with taking a token or with a failure, behind steps that change nothing. -/
def Plan.Starts {α : Type} {p : Read α} (plan : Plan g p) (s : Reading) : Prop :=
  match plan with
  | .advance => s.current.kind ≠ .endOfFile
  | .fail _ _ => True
  | @Plan.bind _ _ _ p _ plan next => plan.Starts s ∨ ∃ a, p s = .ok a s ∧ (next a).Starts s
  | _ => False

theorem remaining_of_ne {s : Reading} (h : s.current.kind ≠ .endOfFile) :
    s.remaining = s.unread.length + 1 := by
  rw [Reading.remaining, if_neg h]

section Progress

variable {α β : Type} {p : Read α} {f : α → Read β} {s : Reading} {plan : Plan g p}

theorem eager_advance (h : s.current.kind ≠ .endOfFile) : Eager (advance g) s := fun a s' hrun => by
  rw [remaining_of_ne h]
  exact Nat.lt_succ_of_le (remaining_advance hrun)

theorem Eager.bind (hp : Eager p s) (hf : ∀ a, Composed g (f a)) : Eager (p >>= f) s := by
  intro b s' hrun
  obtain ⟨a, t, hpa, hfa⟩ := bind_eq_ok hrun
  exact Nat.lt_of_le_of_lt ((hf a).later_of_ok hfa).remaining (hp a t hpa)

/-- **What starts with a token takes one.** -/
theorem Plan.Starts.eager (h : plan.Starts s) : Eager p s := by
  induction plan with
  | advance => exact eager_advance h
  | fail fault _ =>
    intro a s' hrun
    cases hrun
  | bind plan next ih ihnext =>
    rcases h with h | ⟨a, hrun, h⟩
    · exact (ih h).bind fun a => (next a).composed
    · intro b s' hresult
      rw [bind_of_ok hrun] at hresult
      exact ihnext a h b s' hresult
  | _ => cases h

namespace Plan.Starts

theorem bind {next : (a : α) → Plan g (f a)} (h : plan.Starts s) : (Plan.bind plan next).Starts s :=
  .inl h

theorem peek {f : TokenKind → Read β} {next : (kind : TokenKind) → Plan g (f kind)}
    (h : (next s.current.kind).Starts s) : (Plan.bind .peek next).Starts s :=
  .inr ⟨_, rfl, h⟩

theorem either {c : Prop} [inst : Decidable c] {q : Read α} {yes : c → Plan g p}
    {no : ¬ c → Plan g q} (hyes : ∀ h, (yes h).Starts s) (hno : ∀ h, (no h).Starts s) :
    (Plan.either yes no).Starts s := by
  cases inst with
  | isTrue h => exact hyes h
  | isFalse h => exact hno h

theorem unexpected {expecting : Expectation} :
    (Plan.unexpected expecting : Plan g (@Grammar.unexpected α expecting)).Starts s :=
  .peek trivial

theorem expect {kind : TokenKind} {expecting : Expectation} (h : kind ≠ .endOfFile) :
    (Plan.expect kind expecting : Plan g _).Starts s := by
  refine .peek (.either (fun hkind => ?_) fun _ => .unexpected)
  rw [← hkind] at h
  exact h

end Plan.Starts

end Progress

/-! ## Expressions -/

/-- Plans of the rules one level deeper. -/
structure Plans (g : Setting) (deeper : Deeper) : Type 1 where
  unary : Plan g deeper.unary
  expression : Plan g deeper.expression
  clause : Plan g deeper.clause
  statement : Plan g deeper.statement
  conditional : Plan g deeper.conditional
  block : Plan g deeper.block
  statements (closer : TokenKind) : Plan g (deeper.statements closer)

def planLeaf (value : Payload) : Plan g (leaf g value) := .bind .advance fun _ => .pure _

section Expressions

variable (plans : Plans g deeper)

def planPrimary : Plan g (primary g deeper) :=
  .bind .peek fun kind =>
    match payload? kind with
    | some value => planLeaf value
    | none => .either
      (fun _ => .bind .advance fun _ => .bind (.nested plans.expression) fun inner =>
        .bind (.expect _ _) fun _ => .pure inner)
      fun _ => .unexpected _

def planUnary : Plan g (unary g deeper) :=
  .bind .peek fun _ => .either
    (fun _ => .bind .advance fun _ => .bind (.nested plans.unary) fun _ => .pure _)
    fun _ => planPrimary plans

def planContinueExpression (left : Node) (least : Nat) :
    (n : Nat) → Plan g (continueExpression g deeper left least n)
  | 0 => .pure left
  | n + 1 => .bind .peek fun kind =>
    match arithmetic? kind with
    | none => .pure left
    | some op => .either (fun _ => .pure left) fun _ =>
      .bind .advance fun operator => .bind (planUnary plans) fun operand =>
        .bind (planContinueExpression operand (op.precedence + 1) n) fun right =>
          planContinueExpression (.arithmetic op (g.locate operator.span) left right) least n

end Expressions

theorem arithmetic?_endOfFile {kind : TokenKind} {op : Arithmetic}
    (h : arithmetic? kind = some op) : kind ≠ .endOfFile := by
  rintro rfl
  cases h

section Rounds

variable {left : Node} {least n : Nat} {s : Reading} {op : Arithmetic}

theorem continueExpression_done
    (h : ∀ op, arithmetic? s.current.kind = some op → op.precedence < least) :
    continueExpression g deeper left least (n + 1) s = .ok left s := by
  rw [continueExpression, peek_bind]
  cases hop : arithmetic? s.current.kind with
  | none => rfl
  | some op =>
    simp only [if_pos (h op hop)]
    rfl

theorem continueExpression_step (hop : arithmetic? s.current.kind = some op)
    (hle : least ≤ op.precedence) :
    continueExpression g deeper left least (n + 1) s =
      (do
        let operator ← advance g
        let operand ← unary g deeper
        let right ← continueExpression g deeper operand (op.precedence + 1) n
        continueExpression g deeper (.arithmetic op (g.locate operator.span) left right) least n)
        s := by
  rw [continueExpression, peek_bind, hop]
  simp only [if_neg (Nat.not_lt.mpr hle)]
  rfl

end Rounds

/-- A token that goes on with an expression, or none. -/
theorem continues_cases (kind : TokenKind) (least : Nat) :
    (∃ op, arithmetic? kind = some op ∧ least ≤ op.precedence) ∨
      ∀ op, arithmetic? kind = some op → op.precedence < least := by
  cases arithmetic? kind with
  | none => exact .inr fun op h => by cases h
  | some op =>
    rcases Nat.lt_or_ge op.precedence least with hlt | hge
    · exact .inr fun op' h => by cases h; exact hlt
    · exact .inl ⟨op, rfl, hge⟩

/-- An operator and the operand behind it take tokens. -/
theorem later_operand (plans : Plans g deeper) {s s₁ s₂ : Reading} {op : Arithmetic}
    {operator : Token} {operand : Node} (hop : arithmetic? s.current.kind = some op)
    (hadv : advance g s = .ok operator s₁) (hunary : unary g deeper s₁ = .ok operand s₂) :
    Later s s₂ ∧ s₂.remaining < s.remaining := by
  have h₁ : s₁.remaining < s.remaining := eager_advance (arithmetic?_endOfFile hop) _ _ hadv
  have h₂ : Later s₁ s₂ := (planUnary plans).composed.later_of_ok hunary
  exact ⟨(Composed.advance.later_of_ok hadv).trans h₂, Nat.lt_of_le_of_lt h₂.remaining h₁⟩

theorem settled_continueExpression (plans : Plans g deeper) (left : Node) (least : Nat) :
    Settled (continueExpression g deeper left least) := by
  intro s n m hs hn hm
  induction n generalizing s left least m with
  | zero => omega
  | succ n ih =>
    obtain ⟨m, rfl⟩ := Nat.exists_eq_add_one_of_ne_zero (show m ≠ 0 by omega)
    rcases continues_cases s.current.kind least with ⟨op, hop, hle⟩ | hdone
    · rw [continueExpression_step hop hle, continueExpression_step hop hle]
      -- The operator is taken, so either loop goes on with a round less and a token less.
      refine bind_congr_run rfl fun operator s₁ hadv => ?_
      refine bind_congr_run rfl fun operand s₂ hunary => ?_
      obtain ⟨h₂, hlt⟩ := later_operand plans hop hadv hunary
      refine bind_congr_run (ih _ _ s₂ m (h₂.roomy hs) (by omega) (by omega))
        fun right s₃ hright => ?_
      have h₃ := (planContinueExpression plans _ _ _).composed.later_of_ok hright
      have hle₃ := h₃.remaining
      exact ih _ least s₃ m (h₃.roomy (h₂.roomy hs)) (by omega) (by omega)
    · rw [continueExpression_done hdone, continueExpression_done hdone]

/-- Goes on from the operand `left` while operators of at least the precedence `least` follow. -/
abbrev climb (g : Setting) (deeper : Deeper) (left : Node) (least : Nat) : Read Node :=
  looping (continueExpression g deeper left least)

section Rules

variable (plans : Plans g deeper)

def planClimb (left : Node) (least : Nat) : Plan g (climb g deeper left least) :=
  .looping (planContinueExpression plans left least)
    (settled_continueExpression plans left least)

def planExpression : Plan g (expression g deeper) :=
  .bind (planUnary plans) fun left => planClimb plans left 0

def planFinishClause (left : Node) : Plan g (finishClause g deeper left) :=
  .bind .peek fun kind =>
    match relation? kind with
    | none => .pure _
    | some _ => .bind .advance fun _ => .bind (planExpression plans) fun _ => .pure _

def planClause : Plan g (clause g deeper) :=
  .bind .peek fun _ => .either
    (fun _ => .bind .advance fun _ => .bind (.nested plans.clause) fun inner =>
      .bind (.expect _ _) fun _ =>
        match inner with
        | .condition _ => .pure _
        | .expression node =>
          .bind (planClimb plans node 0) fun left => planFinishClause plans left)
    fun _ => .bind (planExpression plans) fun left => planFinishClause plans left

def planCondition : Plan g (condition g deeper) :=
  .bind (planClause plans) fun outcome =>
    match outcome with
    | .condition _ => .pure _
    | .expression _ => .unexpected _

/-! ## Statements -/

def planEndStatement : Plan g (endStatement g) :=
  .bind .peek fun _ => .either (fun _ => .bind .advance fun _ => .pure _) fun _ =>
    match g.surface with
    | .myrmidon => .either (fun _ => .pure _) fun _ => .unexpected _
    | .sml => .unexpected _

def planAssignmentOrExpression (name : String) :
    Plan g (assignmentOrExpression g deeper name) :=
  .bind (planLeaf _) fun target => .bind .peek fun _ => .either
    (fun _ => .bind .advance fun _ => .bind (planExpression plans) fun _ =>
      .bind planEndStatement fun _ => .pure _)
    fun _ => .bind (planClimb plans target 0) fun _ => .bind planEndStatement fun _ => .pure _

def planBlock : Plan g (block g deeper) :=
  .bind (.expect _ _) fun _ => .bind (.nested (plans.statements _)) fun body =>
    .bind (.expect _ _) fun _ => .pure body

def planBody : Plan g (body g deeper) :=
  .nested (.bind .peek fun _ => .either
    (fun _ => .either (fun _ => plans.block) fun _ => .unexpected _)
    fun _ => .either (fun _ => .unexpected _) fun _ => plans.statement)

def planLoop : Plan g (loop g deeper) :=
  .bind .advance fun _ => .bind (planCondition plans) fun _ => .bind (planBody plans) fun _ =>
    .pure _

def planAlternative : Plan g (alternative g deeper) :=
  .bind .peek fun _ => .either
    (fun _ => .bind .advance fun _ => .bind .peek fun _ =>
      .either (fun _ => .nested plans.conditional) fun _ => planBody plans)
    fun _ => .pure _

def planConditional : Plan g (conditional g deeper) :=
  .bind .advance fun _ => .bind (planCondition plans) fun _ => .bind (planBody plans) fun _ =>
    .bind (planAlternative plans) fun _ => .pure _

def planStatement : Plan g (statement g deeper) :=
  .bind .peek fun kind =>
    match kind with
    | .whileWord => planLoop plans
    | .ifWord => planConditional plans
    | .openBrace => planBlock plans
    | .identifier name => planAssignmentOrExpression plans name
    | .integer _ | .number _ | .varWord | .constWord | .elseWord | .endOfLine | .semicolon
    | .assign | .less | .greater | .lessEqual | .greaterEqual | .equal | .notEqual | .plus | .minus
    | .star | .slash | .openParen | .closeParen | .closeBrace | .endOfFile =>
      .bind (planExpression plans) fun value => .bind planEndStatement fun _ => .pure value

def planListed : Plan g (listed g deeper) :=
  .bind .peek fun _ => .either (fun _ => .bind .advance fun _ => .pure _) fun _ =>
    planStatement plans

end Rules

/-! ## Statements take tokens -/

/-- The first token of a statement says which kind of statement it is. -/
theorem statement_cases (g : Setting) (deeper : Deeper) (s : Reading) :
    (s.current.kind = .whileWord ∧ statement g deeper s = loop g deeper s) ∨
    (s.current.kind = .ifWord ∧ statement g deeper s = conditional g deeper s) ∨
    (s.current.kind = .openBrace ∧ statement g deeper s = block g deeper s) ∨
    (∃ name, s.current.kind = .identifier name ∧
      statement g deeper s = assignmentOrExpression g deeper name s) ∨
    statement g deeper s = (do
      let value ← expression g deeper
      endStatement g
      return value) s := by
  rw [statement, peek_bind]
  cases s.current.kind <;> simp

theorem payload?_endOfFile {kind : TokenKind} {value : Payload} (h : payload? kind = some value) :
    kind ≠ .endOfFile := by
  rintro rfl
  cases h

section Starts

variable (plans : Plans g deeper) (s : Reading)

theorem starts_planPrimary : (planPrimary plans).Starts s := by
  refine .peek ?_
  cases hvalue : payload? s.current.kind with
  | some value => exact .bind (payload?_endOfFile hvalue)
  | none =>
    refine .either (fun hopen => .bind ?_) fun _ => .unexpected
    exact fun hend => nomatch hopen.symm.trans hend

theorem starts_planUnary : (planUnary plans).Starts s := by
  refine .peek (.either (fun hminus => .bind ?_) fun _ => starts_planPrimary plans s)
  exact fun hend => nomatch hminus.symm.trans hend

theorem starts_planStatement : (planStatement plans).Starts s := by
  refine .peek ?_
  have hother : (planExpression plans).Starts s := .bind (starts_planUnary plans s)
  cases hkind : s.current.kind with
  | whileWord | ifWord =>
    refine .bind fun hend => ?_
    cases hkind.symm.trans hend
  | openBrace => exact .bind (.expect nofun)
  | identifier name =>
    refine .bind (.bind fun hend => ?_)
    cases hkind.symm.trans hend
  | _ => exact .bind hother

end Starts

theorem terminator_ne_endOfFile (surface : Surface) : surface.terminator ≠ .endOfFile := by
  cases surface <;> decide

theorem eager_statement (plans : Plans g deeper) (s : Reading) : Eager (statement g deeper) s :=
  (starts_planStatement plans s).eager

theorem eager_listed (plans : Plans g deeper) (s : Reading) : Eager (listed g deeper) s := by
  have hstarts : (planListed plans).Starts s := by
    refine .peek (.either (fun hkind => .bind ?_) fun _ => starts_planStatement plans s)
    rw [Plan.Starts, hkind]
    exact terminator_ne_endOfFile g.surface
  exact hstarts.eager

/-! ## Giving up a statement -/

def planSkipStatement (closer : TokenKind) : (n : Nat) → Plan g (skipStatement g closer n)
  | 0 => .pure ()
  | n + 1 => .bind .peek fun _ => .either (fun _ => .bind .advance fun _ => .pure _) fun _ =>
    .either (fun _ => .pure ()) fun _ => .bind .advance fun _ => planSkipStatement closer n

theorem settled_skipStatement (closer : TokenKind) : Settled (skipStatement g closer) := by
  intro s n m hs hn hm
  induction n generalizing s m with
  | zero => omega
  | succ n ih =>
    obtain ⟨m, rfl⟩ := Nat.exists_eq_add_one_of_ne_zero (show m ≠ 0 by omega)
    rw [skipStatement, skipStatement, peek_bind, peek_bind]
    split
    · rfl
    · split
      · rfl
      · next hstop =>
        refine bind_congr_run rfl fun token s₁ hadv => ?_
        have h₁ : s₁.remaining < s.remaining := eager_advance (fun h => hstop (.inl h)) _ _ hadv
        exact ih s₁ m ((Composed.advance.later_of_ok hadv).roomy hs) (by omega) (by omega)

theorem composed_skipStatement (closer : TokenKind) :
    Composed g (looping (skipStatement g closer)) :=
  .looping (fun n => (planSkipStatement closer n).composed) (settled_skipStatement closer)

/-- Giving up a statement takes a token, or stops in front of the closer or the end of the file. -/
theorem skipStatement_progress {closer : TokenKind} {s s' : Reading} {n : Nat}
    (hn : s.remaining < n) (h : skipStatement g closer n s = .ok () s') :
    s'.remaining < s.remaining ∨
      s' = s ∧ (s.current.kind = closer ∨ s.current.kind = .endOfFile) := by
  obtain ⟨n, rfl⟩ := Nat.exists_eq_add_one_of_ne_zero (show n ≠ 0 by omega)
  rw [skipStatement, peek_bind] at h
  split at h
  · next hkind =>
    exact .inl ((eager_advance (hkind ▸ terminator_ne_endOfFile g.surface)).bind
      (fun _ => Composed.pure (g := g) ()) () s' h)
  · split at h
    · next hstop =>
      cases h
      exact .inr ⟨rfl, hstop.symm⟩
    · next hstop =>
      exact .inl ((eager_advance fun hend => hstop (.inl hend)).bind
        (fun _ => (planSkipStatement closer n).composed) () s' h)

/-! ## Lists of statements -/

/-- One round of a list of statements. -/
theorem continueStatements_succ (closer : TokenKind) (list : Option Node) (n : Nat) (s : Reading) :
    continueStatements g deeper closer list (n + 1) s =
      if s.current.kind = closer ∨ s.current.kind = .endOfFile then .ok (list.getD .eos) s
      else recovering (listed g deeper)
        (fun statement => continueStatements g deeper closer (some (joined list statement)) n)
        (do looping (skipStatement g closer); continueStatements g deeper closer list n) s := by
  rw [continueStatements, peek_bind]
  split <;> rfl

def planContinueStatements (plans : Plans g deeper) (closer : TokenKind) :
    (list : Option Node) → (n : Nat) → Plan g (continueStatements g deeper closer list n)
  | list, 0 => .pure (list.getD .eos)
  | list, n + 1 => .bind .peek fun _ => .either (fun _ => .pure _) fun _ =>
    .recovering (planListed plans)
      (fun statement => planContinueStatements plans closer (some (joined list statement)) n)
      (.bind (.looping (planSkipStatement closer) (settled_skipStatement closer)) fun _ =>
        planContinueStatements plans closer list n)

/-- What is left of a round once its statement has failed does not depend on the rounds. -/
theorem settled_resume {closer : TokenKind} {list : Option Node} {n m : Nat}
    (ih : ∀ (s : Reading) (m : Nat), s.Roomy → s.remaining < n → s.remaining < m →
      continueStatements g deeper closer list n s = continueStatements g deeper closer list m s)
    {s : Reading} (hs : s.Roomy) (hn : s.remaining ≤ n) (hm : s.remaining ≤ m) (hn0 : 0 < n)
    (hm0 : 0 < m) :
    (do looping (skipStatement g closer); continueStatements g deeper closer list n) s =
      (do looping (skipStatement g closer); continueStatements g deeper closer list m) s := by
  refine bind_congr_run rfl fun _ t hskip => ?_
  have ht := ((composed_skipStatement closer).later_of_ok hskip).roomy hs
  rcases skipStatement_progress hs hskip with hlt | ⟨rfl, hstop⟩
  · exact ih t m ht (by omega) (by omega)
  · obtain ⟨n, rfl⟩ := Nat.exists_eq_add_one_of_ne_zero (show n ≠ 0 by omega)
    obtain ⟨m, rfl⟩ := Nat.exists_eq_add_one_of_ne_zero (show m ≠ 0 by omega)
    rw [continueStatements_succ, continueStatements_succ, if_pos hstop, if_pos hstop]

theorem remaining_pos {s : Reading} (h : s.current.kind ≠ .endOfFile) : 0 < s.remaining := by
  rw [remaining_of_ne h]
  exact Nat.succ_pos _

theorem settled_continueStatements (plans : Plans g deeper) (closer : TokenKind)
    (list : Option Node) : Settled (continueStatements g deeper closer list) := by
  intro s n m hs hn hm
  induction n generalizing s list m with
  | zero => omega
  | succ n ih =>
    obtain ⟨m, rfl⟩ := Nat.exists_eq_add_one_of_ne_zero (show m ≠ 0 by omega)
    rw [continueStatements_succ, continueStatements_succ]
    split
    · rfl
    · next hopen =>
      have hpos := remaining_pos fun h => hopen (.inr h)
      cases hlisted : listed g deeper s with
      | ok statement s₁ =>
        have h₁ := eager_listed plans s _ _ hlisted
        rw [recovering_of_ok hlisted, recovering_of_ok hlisted]
        exact ih _ s₁ m (((planListed plans).composed.later_of_ok hlisted).roomy hs) (by omega)
          (by omega)
      | error e s₁ =>
        cases e with
        | lexical e | malformed e =>
          rw [recovering_of_error hlisted (by simp), recovering_of_error hlisted (by simp)]
        | grammatical e =>
          rw [recovering_of_grammatical hlisted, recovering_of_grammatical hlisted]
          refine bind_congr_run rfl fun _ t hrecord => ?_
          have hlater : Later s t := by
            have h := later_record e { s₁ with depth := s.depth }
            rw [hrecord] at h
            have hlater := (planListed plans).composed.later_of_error hlisted
            exact (hlater.depth s.depth s.depth).trans h
          have hle := hlater.remaining
          exact settled_resume (ih list) (hlater.roomy hs) (by omega) (by omega) (by omega)
            (by omega)

/-- Goes on with the list `list` up to `closer` or the end of the file. -/
abbrev listFrom (g : Setting) (deeper : Deeper) (closer : TokenKind) (list : Option Node) :
    Read Node :=
  looping (continueStatements g deeper closer list)

def planStatements (plans : Plans g deeper) (closer : TokenKind) :
    Plan g (statements g deeper closer) :=
  .looping (planContinueStatements plans closer none)
    (settled_continueStatements plans closer none)

/-! ## All levels -/

theorem nestingTooDeep_ne_noProgram : SyntaxFault.nestingTooDeep ≠ .noProgram := nofun

/-- Below every level there is only a failure. -/
def plansBottom : Plans g bottom where
  unary := .fail _ nestingTooDeep_ne_noProgram
  expression := .fail _ nestingTooDeep_ne_noProgram
  clause := .fail _ nestingTooDeep_ne_noProgram
  statement := .fail _ nestingTooDeep_ne_noProgram
  conditional := .fail _ nestingTooDeep_ne_noProgram
  block := .fail _ nestingTooDeep_ne_noProgram
  statements _ := .fail _ nestingTooDeep_ne_noProgram

def plansLevel (g : Setting) : (n : Nat) → Plans g (level g n)
  | 0 => plansBottom
  | n + 1 =>
    let plans := plansLevel g n
    { unary := planUnary plans
      expression := planExpression plans
      clause := planClause plans
      statement := planStatement plans
      conditional := planConditional plans
      block := planBlock plans
      statements := planStatements plans }

def planWholeFile (g : Setting) : Plan g (wholeFile g) :=
  .bind ((plansLevel g (maxNesting + 1)).statements .endOfFile) fun body =>
    .bind (.expect _ _) fun _ => .pure body

end TwinSyntax.Grammar
