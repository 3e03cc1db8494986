import TwinSyntax.Proofs.Moments
import TwinSyntax.Proofs.Relocation
import TwinSyntax.Proofs.Words

/-!
# What the rules look at

Every choice that a rule makes is one between kinds of tokens, and of the tokens that it takes only
the values and the locations go into a tree. Two runs over tokens of the same kinds therefore make
the same choices. This file says so once for all rules, without a word about states: whoever
compares two runs, or follows a single one, goes through the cases of `Alike`.

**Likeness** (`Likeness`). Which tokens correspond to each other, and what of a location is
compared.

**Ends of statements.** A terminator is the last thing that a statement takes. Behind it the rules
look at nothing any more, but for one question, whether an `else` follows. Two runs may thus part
behind a terminator and still come to the same, as long as neither of them sees an `else` there
(`Seam`).

**Lists.** Errors are recovered from in lists of statements only, and the only lists inside a
statement are the ones in braces. `Alike.block` is the case where they occur.

Main result: `alike_level`.
-/

namespace TwinSyntax.Grammar

open Phrases

/-- A token of this kind ends neither a statement nor the file. -/
def Inner (surface : Surface) (kind : TokenKind) : Prop :=
  kind ≠ surface.terminator ∧ kind ≠ .endOfFile

/-- What a rule can find wrong with a token of the kind `kind`. -/
def FoundAt (kind : TokenKind) (fault : SyntaxFault) : Prop :=
  fault = .nestingTooDeep ∨ ∃ expecting, fault = .unexpected kind expecting

/-- Behind a terminator, nothing is told between tokens of these kinds. -/
def Seam (kind kind' : TokenKind) : Prop :=
  kind = kind' ∨ kind ≠ .elseWord ∧ kind' ≠ .elseWord

/-- How the tokens of two runs correspond to each other. -/
structure Likeness (g g' : Setting) where
  token : Token → Token → Prop
  /-- What of a location is compared. -/
  place : Location → Location
  kind {t t' : Token} : token t t' → t'.kind = t.kind
  placed {t t' : Token} : token t t' → Inner g.surface t.kind →
    place (g.locate t.span) = place (g'.locate t'.span)

namespace Likeness

variable {g g' : Setting} (like : Likeness g g')

/-- Corresponding tokens of the kind `kind`. -/
def taken (kind : TokenKind) (t t' : Token) : Prop := like.token t t' ∧ t.kind = kind

/-- Trees that are equal but for what is not compared. -/
def node (n n' : Node) : Prop := n.relocate like.place = n'.relocate like.place

/-- Outcomes of a clause that are equal but for what is not compared. -/
def clause : Clause → Clause → Prop
  | .condition n, .condition n' => like.node n n'
  | .expression n, .expression n' => like.node n n'
  | .condition _, .expression _ | .expression _, .condition _ => False

/-- Every token corresponds to itself only. -/
def same (g : Setting) : Likeness g g where
  token t t' := t = t'
  place := id
  kind h := congrArg Token.kind h.symm
  placed h _ := by rw [h]

end Likeness

/-! ## Alike plans -/

/-- A list of statements in braces. -/
def planBraces {g : Setting} {p : Read Node} (list : Plan g p) : Plan g (do
    let _ ← expect g .openBrace .openBrace
    let body ← nested p
    let _ ← expect g .closeBrace .closeBrace
    return body) :=
  .bind (.expect _ _) fun _ => .bind (.nested list) fun body =>
    .bind (.expect _ _) fun _ => .pure body

/-- Started at tokens of the kinds `kind` and `kind'`, the two plans make the same choices, and
their values are in the relation `value`. If `ends`, they may take a terminator, and start the seam
behind it; if not, they do not end a statement. -/
inductive Alike {g g' : Setting} (like : Likeness g g') : {α : Type} → {p p' : Read α} →
    (ends : Bool) → (kind kind' : TokenKind) → (value : α → α → Prop) → Plan g p → Plan g' p' → Prop
  | pure {α : Type} {ends : Bool} {kind kind' : TokenKind} {value : α → α → Prop} {a a' : α} :
      value a a' → Alike like ends kind kind' value (.pure a) (.pure a')
  | fail {α : Type} {ends : Bool} {kind : TokenKind} {value : α → α → Prop} {fault : SyntaxFault}
      {h h' : fault ≠ .noProgram} :
      FoundAt kind fault →
      Alike like ends kind kind value (.fail fault h : Plan g (fail fault))
        (.fail fault h' : Plan g' (fail fault))
  | peek {α : Type} {ends : Bool} {kind kind' : TokenKind} {value : α → α → Prop}
      {f f' : TokenKind → Read α} {next : (kind : TokenKind) → Plan g (f kind)}
      {next' : (kind : TokenKind) → Plan g' (f' kind)} :
      Alike like ends kind kind' value (next kind) (next' kind') →
      Alike like ends kind kind' value (.bind .peek next) (.bind .peek next')
  | take {ends : Bool} {kind : TokenKind} :
      Inner g.surface kind → Alike like ends kind kind (like.taken kind) .advance .advance
  | finish {kind : TokenKind} :
      kind = g.surface.terminator → Alike like true kind kind (like.taken kind) .advance .advance
  | bind {α β : Type} {ends : Bool} {kind : TokenKind} {between : α → α → Prop}
      {value : β → β → Prop} {p p' : Read α} {f f' : α → Read β} {plan : Plan g p}
      {plan' : Plan g' p'} {next : (a : α) → Plan g (f a)} {next' : (a : α) → Plan g' (f' a)} :
      Alike like false kind kind between plan plan' →
      (∀ k a a', between a a' → Alike like ends k k value (next a) (next' a')) →
      Alike like ends kind kind value (.bind plan next) (.bind plan' next')
  | bindEnd {α β : Type} {kind kind' : TokenKind} {between : α → α → Prop} {value : β → β → Prop}
      {p p' : Read α} {f f' : α → Read β} {plan : Plan g p} {plan' : Plan g' p'}
      {next : (a : α) → Plan g (f a)} {next' : (a : α) → Plan g' (f' a)} :
      Alike like true kind kind' between plan plan' →
      (∀ k k' a a', Seam k k' → between a a' → Alike like true k k' value (next a) (next' a')) →
      Alike like true kind kind' value (.bind plan next) (.bind plan' next')
  | nested {α : Type} {ends : Bool} {kind : TokenKind} {value : α → α → Prop} {p p' : Read α}
      {plan : Plan g p} {plan' : Plan g' p'} :
      Alike like ends kind kind value plan plan' →
      Alike like ends kind kind value (.nested plan) (.nested plan')
  | looping {α : Type} {ends : Bool} {kind : TokenKind} {value : α → α → Prop}
      {loop loop' : Nat → Read α} {plan : (n : Nat) → Plan g (loop n)}
      {plan' : (n : Nat) → Plan g' (loop' n)} {settled : Settled loop} {settled' : Settled loop'} :
      (∀ n, Alike like ends kind kind value (plan n) (plan' n)) →
      Alike like ends kind kind value (.looping plan settled) (.looping plan' settled')
  | block {ends : Bool} {deeper deeper' : Deeper} {plans : Plans g deeper}
      {plans' : Plans g' deeper'} :
      (∀ kind, Alike like true kind kind like.node (planListed plans) (planListed plans')) →
      Alike like ends .openBrace .openBrace like.node
        (planBraces (planStatements plans .closeBrace))
        (planBraces (planStatements plans' .closeBrace))

/-! ## Inner tokens -/

section Inner

variable {surface : Surface} {kind : TokenKind}

theorem inner_of_ne (hline : kind ≠ .endOfLine) (hsemicolon : kind ≠ .semicolon)
    (hend : kind ≠ .endOfFile) : Inner surface kind := by
  refine ⟨?_, hend⟩
  cases surface with
  | myrmidon => exact hline
  | sml => exact hsemicolon

theorem inner_closeParen : Inner surface .closeParen := inner_of_ne nofun nofun nofun

theorem inner_openBrace : Inner surface .openBrace := inner_of_ne nofun nofun nofun

theorem inner_closeBrace : Inner surface .closeBrace := inner_of_ne nofun nofun nofun

theorem inner_of_payload? {value : Payload} (h : payload? kind = some value) :
    Inner surface kind := by
  rw [payload?_eq_some.mp h]
  cases value <;> exact inner_of_ne nofun nofun nofun

theorem inner_of_arithmetic? {op : Arithmetic} (h : arithmetic? kind = some op) :
    Inner surface kind := by
  rw [arithmetic?_eq_some.mp h]
  cases op <;> exact inner_of_ne nofun nofun nofun

theorem inner_of_relation? {rel : Relation} (h : relation? kind = some rel) :
    Inner surface kind := by
  rw [relation?_eq_some.mp h]
  cases rel <;> exact inner_of_ne nofun nofun nofun

end Inner

/-! ## The rules are alike -/

variable {surface : Surface} {endSpan endSpan' : Span} {locate locate' : Span → Location}
  {like : Likeness ⟨surface, endSpan, locate⟩ ⟨surface, endSpan', locate'⟩} {ends : Bool}
  {deeper deeper' : Deeper}

theorem Likeness.taken.placed {kind : TokenKind} {t t' : Token} (h : like.taken kind t t')
    (hinner : Inner surface kind) : like.place (locate t.span) = like.place (locate' t'.span) :=
  like.placed h.1 (h.2.symm ▸ hinner)

namespace Alike

variable {α : Type} {kind kind' : TokenKind} {value : α → α → Prop}

theorem unexpected (expecting : Expectation) :
    Alike like ends kind kind value (.unexpected expecting) (.unexpected expecting) :=
  .peek (.fail (.inr ⟨expecting, rfl⟩))

/-- The same choice is made on both sides. -/
theorem either {c : Prop} [inst : Decidable c] {p q p' q' : Read α}
    {yes : c → Plan ⟨surface, endSpan, locate⟩ p} {no : ¬ c → Plan ⟨surface, endSpan, locate⟩ q}
    {yes' : c → Plan ⟨surface, endSpan', locate'⟩ p'}
    {no' : ¬ c → Plan ⟨surface, endSpan', locate'⟩ q'}
    (hyes : ∀ h, Alike like ends kind kind' value (yes h) (yes' h))
    (hno : ∀ h, Alike like ends kind kind' value (no h) (no' h)) :
    Alike like ends kind kind' value (.either yes no) (.either yes' no') := by
  cases inst with
  | isTrue h => exact hyes h
  | isFalse h => exact hno h

/-- Neither side makes the choice. -/
theorem neither {c c' : Prop} [inst : Decidable c] [inst' : Decidable c'] {p q p' q' : Read α}
    {yes : c → Plan ⟨surface, endSpan, locate⟩ p} {no : ¬ c → Plan ⟨surface, endSpan, locate⟩ q}
    {yes' : c' → Plan ⟨surface, endSpan', locate'⟩ p'}
    {no' : ¬ c' → Plan ⟨surface, endSpan', locate'⟩ q'}
    (h : ¬ c) (h' : ¬ c') (hno : Alike like ends kind kind' value (no h) (no' h')) :
    Alike like ends kind kind' value (.either yes no) (.either yes' no') := by
  cases inst with
  | isTrue hc => exact absurd hc h
  | isFalse _ =>
    cases inst' with
    | isTrue hc' => exact absurd hc' h'
    | isFalse _ => exact hno

theorem expect {wanted : TokenKind} (hinner : Inner surface wanted) (expecting : Expectation) :
    Alike like ends kind kind (like.taken kind) (.expect wanted expecting)
      (.expect wanted expecting) := by
  refine .peek (.either (fun h => ?_) fun _ => .unexpected expecting)
  exact .take (h ▸ hinner)

end Alike

/-- The rules one level deeper are alike. Blocks and conditionals are started at their first
token. -/
structure AlikeRules (like : Likeness ⟨surface, endSpan, locate⟩ ⟨surface, endSpan', locate'⟩)
    (plans : Plans ⟨surface, endSpan, locate⟩ deeper)
    (plans' : Plans ⟨surface, endSpan', locate'⟩ deeper') : Prop where
  unary {ends : Bool} (kind : TokenKind) :
    Alike like ends kind kind like.node plans.unary plans'.unary
  expression {ends : Bool} (kind : TokenKind) :
    Alike like ends kind kind like.node plans.expression plans'.expression
  clause {ends : Bool} (kind : TokenKind) :
    Alike like ends kind kind like.clause plans.clause plans'.clause
  statement (kind : TokenKind) : Alike like true kind kind like.node plans.statement
    plans'.statement
  conditional : Alike like true .ifWord .ifWord like.node plans.conditional plans'.conditional
  block {ends : Bool} : Alike like ends .openBrace .openBrace like.node plans.block plans'.block
  braces {ends : Bool} : Alike like ends .openBrace .openBrace like.node
    (planBraces (plans.statements .closeBrace)) (planBraces (plans'.statements .closeBrace))

theorem alike_leaf {kind : TokenKind} (hinner : Inner surface kind) (value : Payload) :
    Alike like ends kind kind like.node (planLeaf value) (planLeaf value) := by
  refine .bind (.take hinner) fun _ t t' htoken => .pure ?_
  exact congrArg (Node.leaf value) (htoken.placed hinner)

section Rules

variable {plans : Plans ⟨surface, endSpan, locate⟩ deeper}
  {plans' : Plans ⟨surface, endSpan', locate'⟩ deeper'} (rules : AlikeRules like plans plans')
include rules

theorem alike_primary (kind : TokenKind) :
    Alike like ends kind kind like.node (planPrimary plans) (planPrimary plans') := by
  refine .peek ?_
  cases hpayload : payload? kind with
  | some value => exact alike_leaf (inner_of_payload? hpayload) value
  | none =>
    refine .either (fun hopen => ?_) fun _ => .unexpected _
    refine .bind (.take (hopen ▸ inner_of_ne nofun nofun nofun)) fun k _ _ _ => ?_
    refine .bind (.nested (rules.expression k)) fun k inner inner' hinner => ?_
    exact .bind (.expect inner_closeParen _) fun _ _ _ _ => .pure hinner

theorem alike_unary (kind : TokenKind) :
    Alike like ends kind kind like.node (planUnary plans) (planUnary plans') := by
  refine .peek (.either (fun hminus => ?_) fun _ => alike_primary rules kind)
  have hinner : Inner surface kind := hminus ▸ inner_of_ne nofun nofun nofun
  refine .bind (.take hinner) fun k minus minus' htoken => ?_
  refine .bind (.nested (rules.unary k)) fun _ argument argument' hargument => .pure ?_
  simp only [Likeness.node, Node.relocate, htoken.placed hinner]
  rw [hargument]

theorem alike_continueExpression (n : Nat) {left left' : Node} (hleft : like.node left left')
    (least : Nat) (kind : TokenKind) :
    Alike like ends kind kind like.node (planContinueExpression plans left least n)
      (planContinueExpression plans' left' least n) := by
  induction n generalizing left left' least kind ends with
  | zero => exact .pure hleft
  | succ n ih =>
    refine .peek ?_
    cases hop : arithmetic? kind with
    | none => exact .pure hleft
    | some op =>
      refine .either (fun _ => .pure hleft) fun _ => ?_
      have hinner : Inner surface kind := inner_of_arithmetic? hop
      refine .bind (.take hinner) fun k operator operator' htoken => ?_
      refine .bind (alike_unary rules k) fun k operand operand' hoperand => ?_
      refine .bind (ih hoperand (op.precedence + 1) k) fun k right right' hright => ?_
      refine ih ?_ least k
      simp only [Likeness.node, Node.relocate, htoken.placed hinner]
      rw [hleft, hright]

theorem alike_climb {left left' : Node} (hleft : like.node left left') (least : Nat)
    (kind : TokenKind) :
    Alike like ends kind kind like.node (planClimb plans left least)
      (planClimb plans' left' least) :=
  .looping fun n => alike_continueExpression rules n hleft least kind

theorem alike_expression (kind : TokenKind) :
    Alike like ends kind kind like.node (planExpression plans) (planExpression plans') :=
  .bind (alike_unary rules kind) fun k _ _ hleft => alike_climb rules hleft 0 k

theorem alike_finishClause {left left' : Node} (hleft : like.node left left') (kind : TokenKind) :
    Alike like ends kind kind like.clause (planFinishClause plans left)
      (planFinishClause plans' left') := by
  refine .peek ?_
  cases hrel : relation? kind with
  | none => exact .pure hleft
  | some rel =>
    have hinner : Inner surface kind := inner_of_relation? hrel
    refine .bind (.take hinner) fun k operator operator' htoken => ?_
    refine .bind (alike_expression rules k) fun _ right right' hright => .pure ?_
    simp only [Likeness.clause, Likeness.node, Node.relocate, htoken.placed hinner]
    rw [hleft, hright]

theorem alike_clause (kind : TokenKind) :
    Alike like ends kind kind like.clause (planClause plans) (planClause plans') := by
  refine .peek (.either (fun hopen => ?_) fun _ => ?_)
  · refine .bind (.take (hopen ▸ inner_of_ne nofun nofun nofun)) fun k _ _ _ => ?_
    refine .bind (.nested (rules.clause k)) fun k inner inner' hinner => ?_
    refine .bind (.expect inner_closeParen _) fun k _ _ _ => ?_
    cases inner with
    | condition node =>
      cases inner' with
      | condition node' => exact .pure hinner
      | expression node' => exact hinner.elim
    | expression node =>
      cases inner' with
      | condition node' => exact hinner.elim
      | expression node' =>
        exact .bind (alike_climb rules hinner 0 k) fun k _ _ hleft =>
          alike_finishClause rules hleft k
  · exact .bind (alike_expression rules kind) fun k _ _ hleft => alike_finishClause rules hleft k

theorem alike_condition (kind : TokenKind) :
    Alike like ends kind kind like.node (planCondition plans) (planCondition plans') := by
  refine .bind (alike_clause rules kind) fun k outcome outcome' houtcome => ?_
  cases outcome with
  | condition node =>
    cases outcome' with
    | condition node' => exact .pure houtcome
    | expression node' => exact houtcome.elim
  | expression node =>
    cases outcome' with
    | condition node' => exact houtcome.elim
    | expression node' => exact .unexpected _

omit rules in
/-- A terminator is the last thing that is taken. -/
theorem alike_endStatement (kind : TokenKind) :
    Alike like true kind kind (fun _ _ => True)
      (planEndStatement : Plan ⟨surface, endSpan, locate⟩ _)
      (planEndStatement : Plan ⟨surface, endSpan', locate'⟩ _) := by
  refine .peek (.either (fun h => ?_) fun _ => ?_)
  · exact .bindEnd (.finish h) fun _ _ _ _ _ _ => .pure trivial
  · cases surface with
    | myrmidon => exact .either (fun _ => .pure trivial) fun _ => .unexpected _
    | sml => exact .unexpected _

theorem alike_assignmentOrExpression (name : String) :
    Alike like true (.identifier name) (.identifier name) like.node
      (planAssignmentOrExpression plans name) (planAssignmentOrExpression plans' name) := by
  have hname : Inner surface (.identifier name) := inner_of_ne nofun nofun nofun
  refine .bind (alike_leaf hname _) fun k target target' htarget => ?_
  refine .peek (.either (fun hassign => ?_) fun _ => ?_)
  · have hinner : Inner surface k := hassign ▸ inner_of_ne nofun nofun nofun
    refine .bind (.take hinner) fun k assign assign' htoken => ?_
    refine .bind (alike_expression rules k) fun k value value' hvalue => ?_
    refine .bindEnd (alike_endStatement k) fun _ _ _ _ _ _ => .pure ?_
    simp only [Likeness.node, Node.relocate, htoken.placed hinner]
    rw [htarget, hvalue]
  · refine .bind (alike_climb rules htarget 0 k) fun k value value' hvalue => ?_
    exact .bindEnd (alike_endStatement k) fun _ _ _ _ _ _ => .pure hvalue

theorem alike_body (kind : TokenKind) :
    Alike like true kind kind like.node (planBody plans) (planBody plans') := by
  refine .nested (.peek (.either (fun _ => ?_) fun _ => ?_))
  · refine .either (fun hopen => ?_) fun _ => .unexpected _
    subst hopen
    exact rules.block
  · exact .either (fun _ => .unexpected _) fun _ => rules.statement kind

theorem alike_loop :
    Alike like true .whileWord .whileWord like.node (planLoop plans) (planLoop plans') := by
  have hinner : Inner surface .whileWord := inner_of_ne nofun nofun nofun
  refine .bind (.take hinner) fun k keyword keyword' htoken => ?_
  refine .bind (alike_condition rules k) fun k condition condition' hcondition => ?_
  refine .bindEnd (alike_body rules k) fun _ _ body body' _ hbody => .pure ?_
  simp only [Likeness.node, Node.relocate, htoken.placed hinner]
  rw [hcondition, hbody]

/-- Behind a terminator, only an `else` goes on with a conditional. -/
theorem alike_alternative {kind kind' : TokenKind} (hseam : Seam kind kind') :
    Alike like true kind kind' like.node (planAlternative plans) (planAlternative plans') := by
  refine .peek ?_
  rcases hseam with rfl | ⟨hleft, hright⟩
  · refine .either (fun helse => ?_) fun _ => .pure rfl
    refine .bind (.take (helse ▸ inner_of_ne nofun nofun nofun)) fun k _ _ _ => ?_
    refine .peek (.either (fun hchained => ?_) fun _ => alike_body rules k)
    have hif : k = .ifWord := by
      simp only [Bool.and_eq_true, beq_iff_eq] at hchained
      exact hchained.2
    subst hif
    exact .nested rules.conditional
  · exact .neither hleft hright (.pure rfl)

theorem alike_conditional :
    Alike like true .ifWord .ifWord like.node (planConditional plans) (planConditional plans') := by
  have hinner : Inner surface .ifWord := inner_of_ne nofun nofun nofun
  refine .bind (.take hinner) fun k keyword keyword' htoken => ?_
  refine .bind (alike_condition rules k) fun k condition condition' hcondition => ?_
  refine .bindEnd (alike_body rules k) fun k k' thenBranch thenBranch' hseam hthen => ?_
  refine .bindEnd (alike_alternative rules hseam) fun _ _ elseBranch elseBranch' _ helse => .pure ?_
  simp only [Likeness.node, Node.relocate, htoken.placed hinner]
  rw [hcondition, hthen, helse]

theorem alike_block :
    Alike like ends .openBrace .openBrace like.node (planBlock plans) (planBlock plans') :=
  rules.braces

theorem alike_statement (kind : TokenKind) :
    Alike like true kind kind like.node (planStatement plans) (planStatement plans') := by
  have hsimple : Alike like true kind kind like.node
      (.bind (planExpression plans) fun value => .bind planEndStatement fun _ => .pure value)
      (.bind (planExpression plans') fun value => .bind planEndStatement fun _ => .pure value) :=
    .bind (alike_expression rules kind) fun k _ _ hvalue =>
      .bindEnd (alike_endStatement k) fun _ _ _ _ _ _ => .pure hvalue
  refine .peek ?_
  cases kind with
  | whileWord => exact alike_loop rules
  | ifWord => exact alike_conditional rules
  | openBrace => exact alike_block rules
  | identifier name => exact alike_assignmentOrExpression rules name
  | _ => exact hsimple

theorem alike_listed (kind : TokenKind) :
    Alike like true kind kind like.node (planListed plans) (planListed plans') := by
  refine .peek (.either (fun h => ?_) fun _ => alike_statement rules kind)
  exact .bindEnd (.finish h) fun _ _ _ _ _ _ => .pure rfl

end Rules

/-! ## All levels -/

theorem alike_bottom : AlikeRules like plansBottom plansBottom where
  unary _ := .fail (.inl rfl)
  expression _ := .fail (.inl rfl)
  clause _ := .fail (.inl rfl)
  statement _ := .fail (.inl rfl)
  conditional := .fail (.inl rfl)
  block := .fail (.inl rfl)
  braces := by
    refine .bind (.expect inner_openBrace _) fun k _ _ _ => ?_
    refine .bind (.nested (.fail (.inl rfl))) fun k body body' (hbody : like.node body body') => ?_
    exact .bind (.expect inner_closeBrace _) fun _ _ _ _ => .pure hbody

/-- **All rules look at kinds only**, and at none behind a terminator but `else`. -/
theorem alike_level (n : Nat) : AlikeRules like (plansLevel _ n) (plansLevel _ n) := by
  induction n with
  | zero => exact alike_bottom
  | succ n ih => exact {
      unary := alike_unary ih
      expression := alike_expression ih
      clause := alike_clause ih
      statement := alike_statement ih
      conditional := alike_conditional ih
      block := alike_block ih
      braces := .block (alike_listed ih) }

end TwinSyntax.Grammar
