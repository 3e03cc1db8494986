import TwinSyntax.Proofs.Mirror
import TwinSyntax.Proofs.Run

/-!
# One surface embeds in the other

**Theorem (`sml_embeds_in_myrmidon`).** Whatever `sml` accepts, `myrmidon` accepts in its mirror
image, with the very same tree. The two runs keep in step all the way, so at every moment as many
levels of nesting are open in the one as in the other.

The proof follows the text of the rules. Most of them look at a token and go on in the same way on
both sides. Three differ:

* a statement ends with a semicolon on the one side and with a line break on the other
  (`inStep_endStatement`, `inStep_listed`);
* a body of `sml` is a block, and one of `myrmidon` a statement that happens to start with a brace
  (`inStep_body`);
* behind `else`, `sml` goes on with another conditional and `myrmidon` has a body that is one
  (`inStep_alternative`). Either way it is one level deeper.

That `myrmidon` may also end a statement in front of a brace or of the end of the file plays no
part, because a mirror image has a line break there.
-/

namespace TwinSyntax

open Grammar

namespace Grammar

theorem payload?_mirrored (kind : TokenKind) : payload? kind.mirrored = payload? kind := by
  cases kind <;> rfl

theorem arithmetic?_mirrored (kind : TokenKind) : arithmetic? kind.mirrored = arithmetic? kind := by
  cases kind <;> rfl

theorem relation?_mirrored (kind : TokenKind) : relation? kind.mirrored = relation? kind := by
  cases kind <;> rfl

variable {endSpan : Span} {locate : Span → Location} {rounds : Nat} {s : Reading}
  {deeper deeper' : Deeper}

/-- The rules one level deeper keep in step. Only `myrmidon` has a statement there, where `sml` has
a block or a conditional. -/
structure RulesInStep (rounds : Nat) (plans : Plans ⟨.sml, endSpan, locate⟩ deeper)
    (plans' : Plans ⟨.myrmidon, endSpan, locate⟩ deeper') : Prop where
  unary (s : Reading) : InStep rounds plans.unary plans'.unary s
  expression (s : Reading) : InStep rounds plans.expression plans'.expression s
  clause (s : Reading) : InStep rounds plans.clause plans'.clause s
  statements {closer : TokenKind} (s : Reading) :
    closer.Shared → InStep rounds (plans.statements closer) (plans'.statements closer) s
  block {s : Reading} :
    s.current.kind = .openBrace → InStep rounds plans.block plans'.statement s
  conditional {s : Reading} :
    s.current.kind = .ifWord → InStep rounds plans.conditional plans'.statement s

theorem inStep_leaf (value : Payload) (s : Reading) :
    InStep rounds (planLeaf value : Plan ⟨.sml, endSpan, locate⟩ _)
      (planLeaf value : Plan ⟨.myrmidon, endSpan, locate⟩ _) s :=
  .take fun _ _ _ => .pure _

section Rules

variable {plans : Plans ⟨.sml, endSpan, locate⟩ deeper}
  {plans' : Plans ⟨.myrmidon, endSpan, locate⟩ deeper'} (rules : RulesInStep rounds plans plans')
include rules

theorem inStep_primary (s : Reading) :
    InStep rounds (planPrimary plans) (planPrimary plans') s := by
  refine .peek ?_
  have hpayload := payload?_mirrored s.current.kind
  generalize payload? s.current.kind.mirrored = value?' at hpayload
  subst hpayload
  cases payload? s.current.kind with
  | some value => exact inStep_leaf value s
  | none =>
    refine .either (TokenKind.mirrored_eq_iff ⟨nofun, nofun⟩) (fun _ _ => ?_) fun _ _ =>
      .unexpected _
    refine .take fun t _ _ => .bind (.nested (rules.expression _)) fun inner u _ _ => ?_
    exact .expect ⟨nofun, nofun⟩ fun v => .pure _

theorem inStep_unary (s : Reading) : InStep rounds (planUnary plans) (planUnary plans') s := by
  refine .peek ?_
  refine .either (TokenKind.mirrored_eq_iff ⟨nofun, nofun⟩) (fun _ _ => ?_) fun _ _ =>
    inStep_primary rules s
  exact .take fun t _ _ => .bind (.nested (rules.unary _)) fun argument u _ _ => .pure _

/-- Each round takes a token on both sides, so neither loop runs out of rounds. -/
theorem inStep_continueExpression {n n' : Nat} {s : Reading} (left : Node) (least : Nat)
    (hn : s.remaining < n) (hn' : (s.mirrored rounds).remaining < n') :
    InStep rounds (planContinueExpression plans left least n)
      (planContinueExpression plans' left least n') s := by
  induction n generalizing s left least n' with
  | zero => omega
  | succ n ih =>
    obtain ⟨n', rfl⟩ := Nat.exists_eq_add_one_of_ne_zero (show n' ≠ 0 by omega)
    refine .peek ?_
    have harithmetic := arithmetic?_mirrored s.current.kind
    generalize hop' : arithmetic? s.current.kind.mirrored = op?' at harithmetic
    subst harithmetic
    cases hop : arithmetic? s.current.kind with
    | none => exact .pure left
    | some op =>
      refine .either Iff.rfl (fun _ _ => .pure left) fun _ _ => ?_
      refine .take fun t hadv hadv' => ?_
      refine .bind (inStep_unary rules t) fun operand u hunary hunary' => ?_
      rw [hop] at hop'
      obtain ⟨-, hlt⟩ := later_operand plans hop hadv hunary
      obtain ⟨-, hlt'⟩ := later_operand plans' hop' hadv' hunary'
      refine .bind (ih operand (op.precedence + 1) (by omega) (by omega))
        fun right v hright hright' => ?_
      have hle := ((planContinueExpression plans _ _ _).composed.later_of_ok hright).remaining
      have hle' := ((planContinueExpression plans' _ _ _).composed.later_of_ok hright').remaining
      exact ih _ least (by omega) (by omega)

theorem inStep_climb (left : Node) (least : Nat) (s : Reading) :
    InStep rounds (planClimb plans left least) (planClimb plans' left least) s :=
  .of_fits fun hs =>
    .looping (inStep_continueExpression rules left least hs.roomy hs.roomy_mirrored)

theorem inStep_expression (s : Reading) :
    InStep rounds (planExpression plans) (planExpression plans') s :=
  .bind (inStep_unary rules s) fun left t _ _ => inStep_climb rules left 0 t

theorem inStep_finishClause (left : Node) (s : Reading) :
    InStep rounds (planFinishClause plans left) (planFinishClause plans' left) s := by
  refine .peek ?_
  have hrelation := relation?_mirrored s.current.kind
  generalize relation? s.current.kind.mirrored = relation?' at hrelation
  subst hrelation
  cases relation? s.current.kind with
  | none => exact .pure _
  | some rel =>
    exact .take fun t _ _ => .bind (inStep_expression rules t) fun right u _ _ => .pure _

theorem inStep_clause (s : Reading) : InStep rounds (planClause plans) (planClause plans') s := by
  refine .peek ?_
  refine .either (TokenKind.mirrored_eq_iff ⟨nofun, nofun⟩) (fun _ _ => ?_) fun _ _ => ?_
  · refine .take fun t _ _ => .bind (.nested (rules.clause _)) fun inner u _ _ => ?_
    refine .expect ⟨nofun, nofun⟩ fun v => ?_
    cases inner with
    | condition node => exact .pure _
    | expression node =>
      exact .bind (inStep_climb rules node 0 v) fun left w _ _ => inStep_finishClause rules left w
  · exact .bind (inStep_expression rules s) fun left t _ _ => inStep_finishClause rules left t

theorem inStep_condition (s : Reading) :
    InStep rounds (planCondition plans) (planCondition plans') s := by
  refine .bind (inStep_clause rules s) fun outcome t _ _ => ?_
  cases outcome with
  | condition node => exact .pure node
  | expression node => exact .unexpected _

omit rules in
/-- A semicolon ends a statement where its mirror image does. -/
theorem inStep_endStatement (s : Reading) :
    InStep rounds (planEndStatement : Plan ⟨.sml, endSpan, locate⟩ _)
      (planEndStatement : Plan ⟨.myrmidon, endSpan, locate⟩ _) s := by
  refine .of_fits fun hs => .peek ?_
  refine .either (TokenKind.mirrored_eq_endOfLine hs.seen) (fun _ _ => ?_) fun _ _ => .unexpected _
  exact .take fun t _ _ => .pure ()

theorem inStep_assignmentOrExpression (name : String) (s : Reading) :
    InStep rounds (planAssignmentOrExpression plans name) (planAssignmentOrExpression plans' name)
      s := by
  refine .bind (inStep_leaf _ s) fun target t _ _ => .peek ?_
  refine .either (TokenKind.mirrored_eq_iff ⟨nofun, nofun⟩) (fun _ _ => ?_) fun _ _ => ?_
  · refine .take fun u _ _ => .bind (inStep_expression rules u) fun value v _ _ => ?_
    exact .bind (inStep_endStatement v) fun _ w _ _ => .pure _
  · refine .bind (inStep_climb rules target 0 t) fun value u _ _ => ?_
    exact .bind (inStep_endStatement u) fun _ v _ _ => .pure value

theorem inStep_block (s : Reading) : InStep rounds (planBlock plans) (planBlock plans') s := by
  refine .expect ⟨nofun, nofun⟩ fun t => ?_
  refine .bind (.nested (rules.statements _ ⟨nofun, nofun⟩)) fun body u _ _ => ?_
  exact .expect ⟨nofun, nofun⟩ fun v => .pure body

/-- A body in braces is a statement that is a block. -/
theorem inStep_body (s : Reading) : InStep rounds (planBody plans) (planBody plans') s := by
  refine .nested (.peek ?_)
  refine .left_yes rfl (.right_no nofun ?_)
  by_cases h : s.current.kind = .openBrace
  · have hshared : s.current.kind.Shared := by
      rw [h]
      exact ⟨nofun, nofun⟩
    exact .left_yes h (.right_no hshared.mirrored_ne (rules.block h))
  · exact .left_no h (.unexpected _)

theorem inStep_loop (s : Reading) : InStep rounds (planLoop plans) (planLoop plans') s := by
  refine .take fun t _ _ => .bind (inStep_condition rules t) fun condition u _ _ => ?_
  exact .bind (inStep_body rules u) fun body v _ _ => .pure _

/-- Where `sml` goes on with another conditional, `myrmidon` has a body that is one. -/
theorem inStep_alternative (s : Reading) :
    InStep rounds (planAlternative plans) (planAlternative plans') s := by
  refine .peek ?_
  refine .either (TokenKind.mirrored_eq_iff ⟨nofun, nofun⟩) (fun _ _ => ?_) fun _ _ => .pure _
  refine .take fun t _ _ => .peek (.right_no nofun ?_)
  by_cases h : t.current.kind = .ifWord
  · have hchained : (Surface.sml.bracedBodies && t.current.kind == .ifWord) = true := by
      rw [h]
      rfl
    have hshared : t.current.kind.Shared := by
      rw [h]
      exact ⟨nofun, nofun⟩
    refine .left_yes hchained (.nested (.peek_right (.right_no nofun ?_)))
    exact .right_no hshared.mirrored_ne (rules.conditional h)
  · have hchained : ¬ (Surface.sml.bracedBodies && t.current.kind == .ifWord) = true := by
      simp [h]
    exact .left_no hchained (inStep_body rules t)

theorem inStep_conditional (s : Reading) :
    InStep rounds (planConditional plans) (planConditional plans') s := by
  refine .take fun t _ _ => .bind (inStep_condition rules t) fun condition u _ _ => ?_
  refine .bind (inStep_body rules u) fun thenBranch v _ _ => ?_
  exact .bind (inStep_alternative rules v) fun elseBranch w _ _ => .pure _

theorem inStep_statement (s : Reading) :
    InStep rounds (planStatement plans) (planStatement plans') s := by
  have hsimple : InStep rounds
      (.bind (planExpression plans) fun value => .bind planEndStatement fun _ => .pure value)
      (.bind (planExpression plans') fun value => .bind planEndStatement fun _ => .pure value) s :=
    .bind (inStep_expression rules s) fun value t _ _ =>
      .bind (inStep_endStatement t) fun _ u _ _ => .pure value
  refine .peek ?_
  generalize s.current.kind = kind
  cases kind with
  | whileWord => exact inStep_loop rules s
  | ifWord => exact inStep_conditional rules s
  | openBrace => exact inStep_block rules s
  | identifier name => exact inStep_assignmentOrExpression rules name s
  | _ => exact hsimple

theorem inStep_block_statement {s : Reading} (h : s.current.kind = .openBrace) :
    InStep rounds (planBlock plans) (planStatement plans') s := by
  have h' : s.current.kind.mirrored = .openBrace := congrArg TokenKind.mirrored h
  refine .peek_right ?_
  rw [h']
  exact inStep_block rules s

theorem inStep_conditional_statement {s : Reading} (h : s.current.kind = .ifWord) :
    InStep rounds (planConditional plans) (planStatement plans') s := by
  have h' : s.current.kind.mirrored = .ifWord := congrArg TokenKind.mirrored h
  refine .peek_right ?_
  rw [h']
  exact inStep_conditional rules s

theorem inStep_listed (s : Reading) : InStep rounds (planListed plans) (planListed plans') s := by
  refine .of_fits fun hs => .peek ?_
  refine .either (TokenKind.mirrored_eq_endOfLine hs.seen) (fun _ _ => ?_) fun _ _ =>
    inStep_statement rules s
  exact .take fun t _ _ => .pure Node.eos

theorem inStep_continueStatements {closer : TokenKind} (hcloser : closer.Shared) {n n' : Nat}
    {s : Reading} (list : Option Node) (hn : s.remaining < n)
    (hn' : (s.mirrored rounds).remaining < n') :
    InStep rounds (planContinueStatements plans closer list n)
      (planContinueStatements plans' closer list n') s := by
  induction n generalizing s list n' with
  | zero => omega
  | succ n ih =>
    obtain ⟨n', rfl⟩ := Nat.exists_eq_add_one_of_ne_zero (show n' ≠ 0 by omega)
    have hends : (s.current.kind.mirrored = closer ∨ s.current.kind.mirrored = .endOfFile) ↔
        (s.current.kind = closer ∨ s.current.kind = .endOfFile) :=
      or_congr (TokenKind.mirrored_eq_iff hcloser) (TokenKind.mirrored_eq_iff ⟨nofun, nofun⟩)
    refine .peek (.either hends (fun _ _ => .pure _) fun _ _ => ?_)
    refine .recovering (inStep_listed rules s) fun tree t hlisted hlisted' => ?_
    have hlt := eager_listed plans s _ _ hlisted
    have hlt' := eager_listed plans' (s.mirrored rounds) _ _ hlisted'
    exact ih _ (by omega) (by omega)

theorem inStep_statements {closer : TokenKind} (hcloser : closer.Shared) (s : Reading) :
    InStep rounds (planStatements plans closer) (planStatements plans' closer) s :=
  .of_fits fun hs =>
    .looping (inStep_continueStatements rules hcloser none hs.roomy hs.roomy_mirrored)

end Rules

/-! ## Whole runs -/

theorem inStep_level (endSpan : Span) (locate : Span → Location) (rounds n : Nat) :
    RulesInStep rounds (plansLevel ⟨.sml, endSpan, locate⟩ n)
      (plansLevel ⟨.myrmidon, endSpan, locate⟩ n) := by
  induction n with
  | zero => exact {
      unary := fun _ => .fail _ _
      expression := fun _ => .fail _ _
      clause := fun _ => .fail _ _
      statements := fun _ _ => .fail _ _
      block := fun _ => .fail _ _
      conditional := fun _ => .fail _ _ }
  | succ n ih => exact {
      unary := inStep_unary ih
      expression := inStep_expression ih
      clause := inStep_clause ih
      statements := fun s hcloser => inStep_statements ih hcloser s
      block := inStep_block_statement ih
      conditional := inStep_conditional_statement ih }

theorem inStep_wholeFile (rounds : Nat) (s : Reading) :
    InStep rounds (planWholeFile ⟨.sml, endSpan, locate⟩)
      (planWholeFile ⟨.myrmidon, endSpan, locate⟩) s := by
  refine .bind ((inStep_level endSpan locate rounds _).statements s ⟨nofun, nofun⟩)
    fun body t _ _ => ?_
  exact .expect ⟨nofun, nofun⟩ fun u => .pure body

end Grammar

namespace Reader

/-- What happens while the reader reads a program, in order. -/
def moments (r : Reader) : List Moment := (planWholeFile r.setting).moments r.state

/-- Nothing else happens. -/
theorem trail_moments (r : Reader) :
    Trail r.setting r.state r.moments (stop (wholeFile r.setting r.state)) :=
  (planWholeFile r.setting).trail r.state

/-- A tree without diagnostics comes from a run without diagnostics. -/
theorem accepted_iff {r : Reader} {tree : Node} : r.program.1 = ⟨some tree, []⟩ ↔
    ∃ body t, wholeFile r.setting r.state = .ok body t ∧ t.diagnostics = [] ∧
      tree = .program (r.locate ⟨1, 1, 1⟩) body := by
  constructor
  · intro h
    cases hrun : wholeFile r.setting r.state with
    | error e t =>
      rw [program_of_error hrun] at h
      cases h
    | ok body t =>
      rw [program_of_ok hrun] at h
      have ht : t.diagnostics = [] := congrArg Outcome.diagnostics h
      have htree := congrArg Outcome.tree? h
      rw [ht] at htree
      exact ⟨body, t, rfl, ht, (Option.some.inj htree).symm⟩
  · rintro ⟨body, t, hrun, ht, rfl⟩
    rw [program_of_ok hrun, ht]
    rfl

/-- A reader of a mirrored source starts in a mirrored state. -/
theorem start_mirrored {source : TokenSource} {reader : Reader}
    (h : Reader.start .sml source = .ok reader) :
    ∃ reader', Reader.start .myrmidon source.mirrored = .ok reader' ∧
      reader.setting = source.setting .sml ∧ reader'.setting = source.setting .myrmidon ∧
      reader.state.Fits reader'.state.rounds ∧
      reader'.state = reader.state.mirrored reader'.state.rounds := by
  rw [Reader.start] at h
  cases hpull : pull .sml source.endSpan source.items with
  | mk result rest =>
    rw [hpull] at h
    cases result with
    | error e => cases h
    | ok first =>
      cases h
      have hpull' := pull_mirrored source.endSpan source.items
      rw [hpull] at hpull'
      have hstart' : Reader.start .myrmidon source.mirrored =
          .ok ⟨.myrmidon, source.endSpan, source.locate, ⟨first.mirrored,
            rest.filterMap TokenItem.mirrored?, 0, [],
            (rest.filterMap TokenItem.mirrored?).length + 2⟩⟩ := by
        rw [Reader.start,
          show pull .myrmidon source.mirrored.endSpan source.mirrored.items = _ from hpull']
        rfl
      refine ⟨_, hstart', rfl, rfl, ⟨kind_ne_of_pull hpull, ?_, ?_⟩, rfl⟩
      · exact Nat.lt_succ_of_le (Reading.remaining_le _)
      · exact Nat.lt_succ_of_le (Reading.remaining_le _)

end Reader

/-- **`sml` embeds in `myrmidon`.** Take the line breaks out of a source that `sml` accepts and turn
its semicolons into line breaks, each where it is. Then `myrmidon` accepts it with the very same
tree, and the two runs keep in step: they make the same steps, over the same tokens and with the
same number of levels open. -/
theorem sml_embeds_in_myrmidon {source : TokenSource} {reader : Reader} {tree : Node}
    (hstart : Reader.start .sml source = .ok reader)
    (hprogram : reader.program.1 = ⟨some tree, []⟩) :
    ∃ reader', Reader.start .myrmidon source.mirrored = .ok reader' ∧
      reader'.program.1 = ⟨some tree, []⟩ ∧
      reader'.moments = reader.moments.map (Moment.mirrored reader'.state.rounds) ∧
      reader'.moments.map (fun m => m.state.depth) = reader.moments.map fun m => m.state.depth := by
  obtain ⟨reader', hstart', hsetting, hsetting', hfits, hstate⟩ := Reader.start_mirrored hstart
  obtain ⟨body, t, hrun, ht, rfl⟩ := Reader.accepted_iff.mp hprogram
  have hlocate : reader'.locate = reader.locate :=
    (congrArg Setting.locate hsetting').trans (congrArg Setting.locate hsetting).symm
  rw [hsetting] at hrun
  obtain ⟨-, hrun', hmoments⟩ := inStep_wholeFile _ reader.state hfits body t hrun ht
  have hrun' : wholeFile reader'.setting reader'.state =
      .ok body (t.mirrored reader'.state.rounds) := by
    rw [hsetting']
    exact (congrArg _ hstate).trans hrun'
  have hmoments : reader'.moments =
      reader.moments.map (Moment.mirrored reader'.state.rounds) := by
    rw [Reader.moments, Reader.moments, hsetting, hsetting']
    exact (congrArg _ hstate).trans hmoments
  refine ⟨reader', hstart', ?_, hmoments, ?_⟩
  · rw [← hlocate]
    exact Reader.accepted_iff.mpr ⟨body, _, hrun', ht, rfl⟩
  · rw [hmoments, List.map_map]
    rfl

/-- Reading a chain of conditionals, in which only one of the surfaces has braces as a rule. -/
theorem sml_embeds_in_myrmidon_of_chain :
    let source := lex "if a < 1 \x7b b;\n; \x7d else if c == 2 \x7b \x7d"
    ∃ reader tree reader', Reader.start .sml source = .ok reader ∧
      reader.program.1 = ⟨some tree, []⟩ ∧
      Reader.start .myrmidon source.mirrored = .ok reader' ∧ reader'.program.1 = ⟨some tree, []⟩ ∧
      reader'.moments.map (fun m => m.state.depth) = reader.moments.map fun m => m.state.depth := by
  intro source
  have hrun : ((Reader.start .sml source).toOption.map fun reader =>
      (reader.program.1.tree?.isSome, reader.program.1.diagnostics.isEmpty)) =
        some (true, true) := by
    decide +kernel
  cases hstart : Reader.start .sml source with
  | error e =>
    rw [hstart] at hrun
    cases hrun
  | ok reader =>
    rw [hstart] at hrun
    obtain ⟨htree, hdiagnostics⟩ := Prod.mk.inj (Option.some.inj hrun)
    obtain ⟨tree, htree⟩ := Option.isSome_iff_exists.mp htree
    have hprogram : reader.program.1 = ⟨some tree, []⟩ := by
      rw [← htree, ← List.isEmpty_iff.mp hdiagnostics]
    obtain ⟨reader', hstart', hprogram', -, hdepth⟩ := sml_embeds_in_myrmidon hstart hprogram
    exact ⟨reader, tree, reader', rfl, hprogram, hstart', hprogram', hdepth⟩

end TwinSyntax
