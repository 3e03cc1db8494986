import TwinSyntax.Proofs.Leads

/-!
# Completeness

A rule in front of a phrase that it stands for reads it and builds the tree of its derivation,
unless the phrase opens more levels of nesting than are left.

**Loops.** What is proved about an operand is not that it is read, but that a loop in front of it
comes to where the loop behind it comes to, with the operand in hand (`Expression.leads`). So left
operands, which no rule reads as such, are covered by the induction. Lists are treated alike.

Main result: `Derives.reads`.
-/

namespace TwinSyntax.Phrases

open Grammar

variable {g : Setting} {deeper : Deeper} {n levels : Nat} {s s' t : Reading}

/-! ## Operands -/

/-- No operator goes on with what binds tightest. -/
theorem climb_tightest {left : Node} (hs : s.Roomy) : climb g deeper left tightest s = .ok left s :=
  climb_done hs fun op _ => by cases op <;> decide

theorem climb_stopped {left : Node} (hs : s.Roomy)
    (h : ∀ op : Arithmetic, s.current.kind ≠ op.token) : climb g deeper left 0 s = .ok left s :=
  climb_done hs fun op hop => absurd (arithmetic?_eq_some.mp hop) (h op)

/-- An operand of a minus sign is read if the loop behind it, which does nothing, is reached. -/
theorem leads_operand {deep : Prop} {tree : Node} (plans : Plans g deeper) (hs : s.Roomy)
    (ht : t.Roomy)
    (h : Leads deep ((unary g deeper >>= fun left => climb g deeper left tightest) s)
      (climb g deeper tree tightest t)) :
    Leads deep (unary g deeper s) (.ok tree t) := by
  have hsame : (unary g deeper >>= fun left => climb g deeper left tightest) s =
      unary g deeper s := by
    cases hrun : unary g deeper s with
    | ok left u =>
      rw [bind_of_ok hrun]
      exact climb_tightest (((planUnary plans).composed.later_of_ok hrun).roomy hs)
    | error e u => rw [bind_of_error hrun]
  rw [hsame, climb_tightest ht] at h
  exact h

/-- A left operand, an operator in front of the loop, and a right operand make a left operand. -/
theorem leads_binary {deep : Prop} {op : Arithmetic} {left right : Node} {least : Nat}
    (hs : Poised n s) (hop : s.current.kind = op.token) (hle : least ≤ op.rank)
    (hadv : advance g s = .ok s.current t) (hs' : s'.Roomy)
    (hnext : ∀ op' : Arithmetic, s'.current.kind = op'.token → op'.rank ≤ op.rank)
    (hright : Leads deep
      ((unary g (level g n) >>= fun operand => climb g (level g n) operand (op.rank + 1)) t)
      (climb g (level g n) right (op.rank + 1) s')) :
    Leads deep (climb g (level g n) left least s)
      (climb g (level g n) (.arithmetic op (g.locate s.current.span) left right) least s') := by
  have hstop : climb g (level g n) right (op.rank + 1) s' = .ok right s' :=
    climb_done hs' fun op' hop' => by
      rw [op'.precedence_eq_rank]
      exact Nat.lt_succ_of_le (hnext op' (arithmetic?_eq_some.mp hop'))
  rw [← op.precedence_eq_rank] at hle
  rw [climb_step (plansLevel g n) hs.roomy (arithmetic?_eq_some.mpr hop) hle,
    op.precedence_eq_rank, bind_of_ok hadv, ← bind_assoc]
  rw [hstop] at hright
  exact hright.bind_ok (.of_eq rfl)

/-- **Expressions are read**, in front of the loop as behind it. -/
theorem Expression.leads {q : Nat} {word : List Token} {tree : Node}
    (h : Expression g q levels word tree) (hs : Poised n s) (hpath : Path g s word s')
    (hnext : ∀ op : Arithmetic, s'.current.kind = op.token → op.rank ≤ q) {least : Nat}
    (hle : least ≤ q) :
    Leads (n < levels) ((unary g (level g n) >>= fun left => climb g (level g n) left least) s)
      (climb g (level g n) tree least s') := by
  induction h generalizing n s s' least with
  | leaf hkind =>
    obtain ⟨rfl, hadv⟩ := hpath.single_inv
    exact .of_eq (bind_of_ok ((unary_of_leaf hkind).trans (leaf_run _ hadv)))
  | negate hminus _ ih =>
    obtain ⟨s₁, rfl, hadv, hrest⟩ := hpath.cons_inv
    have h₁ := hs.path (.single hadv)
    refine Leads.bind_ok ?_ (.of_eq rfl)
    rw [unary_of_minus hminus hadv]
    refine Leads.bind_ok (Leads.nested h₁ hrest.depth_eq fun k hk hdeeper => ?_) (.of_eq rfl)
    subst hk
    have hinner := hrest.atDepth (s₁.depth + 1)
    refine leads_operand (plansLevel g k) hdeeper.roomy (hdeeper.path hinner).roomy ?_
    exact ih hdeeper hinner (fun op _ => by cases op <;> decide) (Nat.le_refl _)
  | parens hopen _ hclose ih =>
    obtain ⟨s₁, rfl, hadv, hrest⟩ := hpath.cons_inv
    obtain ⟨s₂, hword, hclosing⟩ := hrest.split
    obtain ⟨rfl, hadv'⟩ := hclosing.single_inv
    have h₁ := hs.path (.single hadv)
    refine Leads.bind_ok ?_ (.of_eq rfl)
    rw [unary_of_openParen hopen hadv]
    have hstop : ∀ op : Arithmetic, s₂.current.kind ≠ op.token := ne_token (by rw [hclose]; rfl)
    refine Leads.bind_ok (t := s₂) (Leads.nested h₁ hword.depth_eq fun k hk hdeeper => ?_)
      (.of_eq (closing_run _ hclose hadv'))
    subst hk
    have hinner := hword.atDepth (s₁.depth + 1)
    have hread := ih hdeeper hinner (fun op hop => absurd hop (hstop op)) (Nat.le_refl 0)
    rw [climb_stopped (hdeeper.path hinner).roomy hstop] at hread
    exact hread
  | binary hu hop hq hv ihu ihv =>
    obtain ⟨s₁, hleft, hrest⟩ := hpath.split
    obtain ⟨s₂, rfl, hadv, hright⟩ := hrest.cons_inv
    have h₁ := hs.path hleft
    have h₂ := h₁.path (.single hadv)
    have hnext' := fun op' hop' => Nat.le_trans (hnext op' hop') hq
    refine (ihu hs hleft (fun op' hop' => ?_) (Nat.le_trans hle hq)).trans ?_
    · have heq := token_injective (hop.symm.trans hop')
      exact Nat.le_of_eq (congrArg Arithmetic.rank heq.symm)
    · refine leads_binary h₁ hop (Nat.le_trans hle hq) hadv (h₂.path hright).roomy hnext' ?_
      exact ihv h₂ hright (fun op' hop' => Nat.le_succ_of_le (hnext' op' hop')) (Nat.le_refl _)

/-- An expression that no operator follows is read to its end. -/
theorem Expression.leads_expression {word : List Token} {tree : Node}
    (h : Expression g 0 levels word tree) (hs : Poised n s) (hpath : Path g s word s')
    (hnext : ∀ op : Arithmetic, s'.current.kind ≠ op.token) :
    Leads (n < levels) (expression g (level g n) s) (.ok tree s') := by
  have hread := h.leads hs hpath (fun op hop => absurd hop (hnext op)) (Nat.le_refl 0)
  rw [climb_stopped (hs.path hpath).roomy hnext] at hread
  exact hread

/-! ## Conditions -/

theorem clause_of_openParen (h : s.current.kind = .openParen)
    (hadv : advance g s = .ok s.current t) :
    clause g deeper s = (do
      let inner ← nested deeper.clause
      let _ ← expect g .closeParen .closeParen
      match inner with
      | .condition node => return Clause.condition node
      | .expression node =>
        let left ← climb g deeper node 0
        finishClause g deeper left) t := by
  unfold clause
  rw [peek_bind, if_pos h]
  exact bind_of_ok hadv

theorem clause_of_ne_openParen (h : s.current.kind ≠ .openParen) :
    clause g deeper s =
      ((unary g deeper >>= fun left => climb g deeper left 0) >>= finishClause g deeper) s := by
  rw [clause, peek_bind, if_neg h]
  rfl

/-- **Left sides of comparisons are read**, whether they start with a parenthesis or not. -/
theorem Expression.leads_clause {q : Nat} {word : List Token} {tree : Node}
    (h : Expression g q levels word tree) (hs : Poised n s) (hpath : Path g s word s')
    (hnext : ∀ op : Arithmetic, s'.current.kind = op.token → op.rank ≤ q) :
    Leads (n < levels) (clause g (level g n) s)
      ((climb g (level g n) tree 0 >>= finishClause g (level g n)) s') := by
  induction h generalizing n s s' with
  | @leaf _ levels _ value hkind =>
    have hread := (@leaf g _ levels _ _ hkind).leads hs hpath hnext (Nat.zero_le _)
    obtain ⟨rfl, hadv⟩ := hpath.single_inv
    have hparen : s.current.kind ≠ .openParen := by
      rw [hkind]
      cases value <;> simp [Payload.token]
    rw [clause_of_ne_openParen hparen]
    exact hread.bind
  | negate hminus hword _ =>
    have hread := (Expression.negate hminus hword).leads hs hpath hnext (Nat.zero_le _)
    obtain ⟨s₁, rfl, hadv, -⟩ := hpath.cons_inv
    rw [clause_of_ne_openParen (by rw [hminus]; simp)]
    exact hread.bind
  | @parens _ levels _ _ _ tree hopen _ hclose ih =>
    obtain ⟨s₁, rfl, hadv, hrest⟩ := hpath.cons_inv
    obtain ⟨s₂, hword, hclosing⟩ := hrest.split
    obtain ⟨rfl, hadv'⟩ := hclosing.single_inv
    have h₁ := hs.path (.single hadv)
    rw [clause_of_openParen hopen hadv]
    have hstop : ∀ op : Arithmetic, s₂.current.kind ≠ op.token := ne_token (by rw [hclose]; rfl)
    have hrelation : relation? s₂.current.kind = none := by rw [hclose]; rfl
    have hinner :
        Leads (n < levels + 1) (nested (level g n).clause s₁) (.ok (.expression tree) s₂) := by
      refine Leads.nested h₁ hword.depth_eq fun k hk hdeeper => ?_
      subst hk
      have hinner := hword.atDepth (s₁.depth + 1)
      have hread := ih hdeeper hinner fun op hop => absurd hop (hstop op)
      rw [bind_of_ok (climb_stopped (hdeeper.path hinner).roomy hstop), finishClause, peek_bind,
        hrelation] at hread
      exact hread
    refine hinner.bind_ok (.of_eq ?_)
    rw [bind_of_ok (expect_run hclose hadv')]
  | binary hu hop hq hv ihu _ =>
    obtain ⟨s₁, hleft, hrest⟩ := hpath.split
    obtain ⟨s₂, rfl, hadv, hright⟩ := hrest.cons_inv
    have h₁ := hs.path hleft
    have h₂ := h₁.path (.single hadv)
    have hnext' := fun op' hop' => Nat.le_trans (hnext op' hop') hq
    refine (ihu hs hleft fun op' hop' => ?_).trans (Leads.bind ?_)
    · have heq := token_injective (hop.symm.trans hop')
      exact Nat.le_of_eq (congrArg Arithmetic.rank heq.symm)
    · refine leads_binary h₁ hop (Nat.zero_le _) hadv (h₂.path hright).roomy hnext' ?_
      exact hv.leads h₂ hright (fun op' hop' => Nat.le_succ_of_le (hnext' op' hop')) (Nat.le_refl _)

/-- **Conditions are read.** -/
theorem Condition.leads {word : List Token} {next : TokenKind} {tree : Node}
    (h : Condition g levels word next tree) (hs : Poised n s) (hpath : Path g s word s')
    (hnext : s'.current.kind = next) :
    Leads (n < levels) (clause g (level g n) s) (.ok (.condition tree) s') := by
  induction h generalizing n s s' with
  | @compare _ rel _ _ _ _ _ _ hu hrel hv hop =>
    obtain ⟨s₁, hleft, hrest⟩ := hpath.split
    obtain ⟨s₂, rfl, hadv, hright⟩ := hrest.cons_inv
    have h₁ := hs.path hleft
    have h₂ := h₁.path (.single hadv)
    have hstop : ∀ op : Arithmetic, s₁.current.kind ≠ op.token :=
      ne_token (by rw [hrel]; cases rel <;> rfl)
    refine (hu.leads_clause hs hleft fun op hop' => absurd hop' (hstop op)).trans ?_
    rw [bind_of_ok (climb_stopped h₁.roomy hstop), finishClause, peek_bind,
      relation?_eq_some.mpr hrel]
    show Leads _ ((advance g >>= fun operator => expression g (level g n) >>= fun right => _) s₁) _
    rw [bind_of_ok hadv]
    have hread := hv.leads_expression h₂ hright fun op hop' => hop op (hnext.symm.trans hop')
    exact hread.bind_ok (.of_eq rfl)
  | @parens levels _ _ _ _ tree hopen _ hclose ih =>
    obtain ⟨s₁, rfl, hadv, hrest⟩ := hpath.cons_inv
    obtain ⟨s₂, hword, hclosing⟩ := hrest.split
    obtain ⟨rfl, hadv'⟩ := hclosing.single_inv
    rw [clause_of_openParen hopen hadv]
    have hinner :
        Leads (n < levels + 1) (nested (level g n).clause s₁) (.ok (.condition tree) s₂) := by
      refine Leads.nested (hs.path (.single hadv)) hword.depth_eq fun k hk hdeeper => ?_
      subst hk
      exact ih hdeeper (hword.atDepth (s₁.depth + 1)) hclose
    exact hinner.bind_ok (.of_eq (closing_run _ hclose hadv'))

theorem Condition.leads_condition {word : List Token} {next : TokenKind} {tree : Node}
    (h : Condition g levels word next tree) (hs : Poised n s) (hpath : Path g s word s')
    (hnext : s'.current.kind = next) :
    Leads (n < levels) (condition g (level g n) s) (.ok tree s') :=
  (h.leads hs hpath hnext).bind_ok (.of_eq rfl)

/-! ## Simple statements -/

/-- What stands behind a simple statement does not go on with its expression. -/
theorem Terminator.front_ne {ending : List Token} {next : TokenKind}
    (h : Terminator g.surface ending next) :
    (∀ op : Arithmetic, front ending next ≠ op.token) ∧ front ending next ≠ .assign := by
  cases h with
  | taken hkind =>
    rw [front_cons, hkind]
    refine ⟨ne_token ?_, ?_⟩
    · cases g.surface <;> rfl
    · cases g.surface <;> simp [Surface.terminator]
  | ahead _ hnext =>
    rw [front_nil]
    refine ⟨ne_token ?_, ?_⟩
    · rcases hnext with rfl | rfl | rfl <;> rfl
    · rcases hnext with rfl | rfl | rfl <;> simp

theorem Terminator.run {ending : List Token} {next : TokenKind}
    (h : Terminator g.surface ending next) (hpath : Path g s ending s')
    (hnext : s'.current.kind = next) : endStatement g s = .ok () s' := by
  rw [endStatement, peek_bind]
  cases h with
  | taken hkind =>
    obtain ⟨rfl, hadv⟩ := hpath.single_inv
    rw [if_pos hkind, bind_of_ok hadv]
    rfl
  | ahead hsurface hend =>
    cases hpath
    rw [← hnext] at hend
    have hterminator : s.current.kind ≠ g.surface.terminator := by
      rw [hsurface]
      rcases hend with h | h | h <;> rw [h] <;> decide
    rw [if_neg hterminator, hsurface]
    show (if _ then _ else _ : Read Unit) s = _
    rw [if_pos hend]
    rfl

/-- An expression at the end of a simple statement, and the end. -/
theorem leads_ended {deep : Prop} {p : Read Node} {f : Node → Node} {value : Node}
    {ending : List Token} {next : TokenKind} (hp : Leads deep (p s) (.ok value t))
    (h : Terminator g.surface ending next) (hpath : Path g t ending s')
    (hnext : s'.current.kind = next) :
    Leads deep ((do let value ← p; endStatement g; return f value) s) (.ok (f value) s') := by
  refine hp.bind_ok (.of_eq ?_)
  rw [bind_of_ok (h.run hpath hnext)]
  rfl

theorem leads_assignment {target assign : Token} {name : String} {word ending : List Token}
    {next : TokenKind} {value : Node} (hname : target.kind = .identifier name)
    (hassign : assign.kind = .assign) (hvalue : Expression g 0 levels word value)
    (hend : Terminator g.surface ending next) (hs : Poised n s)
    (hpath : Path g s (target :: assign :: (word ++ ending)) s') (hnext : s'.current.kind = next) :
    Leads (n < levels) (statement g (level g n) s)
      (.ok (.assign (g.locate assign.span) (.leaf (.identifier name) (g.locate target.span)) value)
        s') := by
  obtain ⟨s₁, rfl, hadv, hrest⟩ := hpath.cons_inv
  obtain ⟨s₂, rfl, hadv', hrest⟩ := hrest.cons_inv
  obtain ⟨s₃, hword, hending⟩ := hrest.split
  have h₂ := (hs.path (.single hadv)).path (.single hadv')
  have hfront := hend.front_ne.1
  rw [← hnext, hending.front_eq] at hfront
  rw [statement, peek_bind, hname]
  show Leads _ (assignmentOrExpression g (level g n) name s) _
  rw [assignmentOrExpression, bind_of_ok (leaf_run _ hadv), peek_bind, if_pos hassign,
    bind_of_ok hadv']
  exact leads_ended (hvalue.leads_expression h₂ hword hfront) hend hending hnext

/-- What is read of a statement that starts with an identifier but is no assignment. -/
theorem assignmentOrExpression_run {name : String} (hname : s.current.kind = .identifier name)
    (hadv : advance g s = .ok s.current t) (hassign : t.current.kind ≠ .assign) :
    assignmentOrExpression g deeper name s =
      (do
        let value ← expression g deeper
        endStatement g
        return value) s := by
  have hleaf : s.current.kind = (Payload.identifier name).token := hname
  rw [assignmentOrExpression, expression, bind_assoc, bind_of_ok (leaf_run _ hadv), peek_bind,
    if_neg hassign, bind_of_ok ((unary_of_leaf hleaf).trans (leaf_run _ hadv))]

theorem leads_simple {word ending : List Token} {next : TokenKind} {tree : Node}
    (htree : Expression g 0 levels word tree) (hend : Terminator g.surface ending next)
    (hs : Poised n s) (hpath : Path g s (word ++ ending) s') (hnext : s'.current.kind = next) :
    Leads (n < levels) (statement g (level g n) s) (.ok tree s') := by
  obtain ⟨s₁, hword, hending⟩ := hpath.split
  have hfront := hend.front_ne
  rw [← hnext, hending.front_eq] at hfront
  have hread := htree.leads_expression hs hword hfront.1
  obtain ⟨token, rest, rfl, hstarts⟩ := htree.starts
  obtain ⟨s₂, rfl, hadv, hrest⟩ := hword.cons_inv
  have hrun : statement g (level g n) s =
      (do
        let value ← expression g (level g n)
        endStatement g
        return value) s := by
    rcases statement_cases g (level g n) s with
        ⟨hkey, -⟩ | ⟨hkey, -⟩ | ⟨hkey, -⟩ | ⟨name, hname, hrun⟩ | hrun
    · exact absurd hkey hstarts.ne.1
    · exact absurd hkey hstarts.ne.2.1
    · exact absurd hkey hstarts.ne.2.2
    · rw [hrun]
      refine assignmentOrExpression_run hname hadv ?_
      rw [← hrest.front_eq]
      cases rest with
      | nil => exact hfront.2
      | cons token rest => exact (htree.kinds token (by simp)).ne.2.2
    · exact hrun
  rw [hrun]
  exact leads_ended hread hend hending hnext

/-! ## Bodies and branches -/

/-- A phrase, in front of what follows it, leads to its tree. What is read for a branch is read
together with the `else` in front of it, and a list goes on from an empty one. -/
def Reads (g : Setting) (n : Nat) (deep : Prop) (tree : Node) (s s' : Reading) : Phrase → Prop
  | .statement => Leads deep (statement g (level g n) s) (.ok tree s')
  | .conditional => Leads deep (conditional g (level g n) s) (.ok tree s')
  | .block => Leads deep (block g (level g n) s) (.ok tree s')
  | .body => Leads deep (body g (level g n) s) (.ok tree s')
  | .alternative => ∀ r, r.current.kind = .elseWord → advance g r = .ok r.current s →
      Leads deep (alternative g (level g n) r) (.ok tree s')
  | .listed => Leads deep (listed g (level g n) s) (.ok tree s')
  | .several => ∀ closer, closer = .closeBrace ∨ closer = .endOfFile →
      Leads deep (statements g (level g n) closer s)
        (listFrom g (level g n) closer (some tree) s')
  | .statements => ∀ closer, closer = .closeBrace ∨ closer = .endOfFile →
      s'.current.kind = closer ∨ s'.current.kind = .endOfFile →
      Leads deep (statements g (level g n) closer s) (.ok tree s')

/-- The tokens of the word lead to its tree, wherever the word stands. -/
def ReadsWord (g : Setting) (phrase : Phrase) (levels : Nat) (word : List Token) (next : TokenKind)
    (tree : Node) : Prop :=
  ∀ ⦃n : Nat⦄ ⦃s s' : Reading⦄, Poised n s → Path g s word s' → s'.current.kind = next →
    Reads g n (n < levels) tree s s' phrase

/-- In front of a phrase stands its first token. -/
theorem Derives.starts_at {phrase : Phrase} {word : List Token} {next : TokenKind} {tree : Node}
    (h : Derives g phrase levels word next tree) (hphrase : phrase ≠ .statements)
    (hpath : Path g s word s') :
    StartsStatement s.current.kind ∨
      s.current.kind = g.surface.terminator ∧ (phrase = .listed ∨ phrase = .several) := by
  obtain ⟨token, rest, rfl, hstarts⟩ := h.starts hphrase
  obtain ⟨t, rfl, -, -⟩ := hpath.cons_inv
  exact hstarts

/-- A statement is not empty. -/
theorem Derives.ne_terminator {word : List Token} {next : TokenKind} {tree : Node}
    (h : Derives g .statement levels word next tree) (hpath : Path g s word s') :
    s.current.kind ≠ g.surface.terminator :=
  (((h.starts_at (by simp) hpath).resolve_right (by simp)).ne g.surface).1

section Productions

variable {keyword middle opening closing : Token} {u v w word : List Token} {next : TokenKind}
  {tree condition thenBranch elseBranch : Node}

theorem reads_block (hopen : opening.kind = .openBrace)
    (ih : ReadsWord g .statements levels word .closeBrace tree)
    (hclose : closing.kind = .closeBrace) :
    ReadsWord g .block (levels + 1) (opening :: (word ++ [closing])) next tree := by
  intro n s s' hs hpath _
  obtain ⟨s₁, rfl, hadv, hrest⟩ := hpath.cons_inv
  obtain ⟨s₂, hword, hclosing⟩ := hrest.split
  obtain ⟨rfl, hadv'⟩ := hclosing.single_inv
  have hinner : Leads (n < levels + 1) (nested ((level g n).statements .closeBrace) s₁)
      (.ok tree s₂) := by
    refine Leads.nested (hs.path (.single hadv)) hword.depth_eq fun k hk hdeeper => ?_
    subst hk
    exact ih hdeeper (hword.atDepth (s₁.depth + 1)) hclose .closeBrace (.inl rfl) (.inl hclose)
  show Leads _ (block g (level g n) s) _
  rw [block, bind_of_ok (expect_run hopen hadv)]
  exact hinner.bind_ok (.of_eq (closing_run _ hclose hadv'))

theorem reads_bodyStatement (hsurface : g.surface = .myrmidon)
    (hword : Derives g .statement levels word next tree)
    (ih : ReadsWord g .statement levels word next tree) :
    ReadsWord g .body (levels + 1) word next tree := by
  intro n s s' hs hpath hnext
  refine Leads.nested hs hpath.depth_eq fun k hk hdeeper => ?_
  subst hk
  have hterminator := hword.ne_terminator hpath
  have hbraced : ¬ g.surface.bracedBodies = true := by rw [hsurface]; decide
  rw [peek_bind, if_neg hbraced, if_neg hterminator]
  exact ih hdeeper (hpath.atDepth (s.depth + 1)) hnext

theorem reads_bodyBlock (hsurface : g.surface = .sml)
    (hword : Derives g .block levels word next tree)
    (ih : ReadsWord g .block levels word next tree) :
    ReadsWord g .body (levels + 1) word next tree := by
  intro n s s' hs hpath hnext
  refine Leads.nested hs hpath.depth_eq fun k hk hdeeper => ?_
  subst hk
  have hbraced : g.surface.bracedBodies = true := by rw [hsurface]; rfl
  have hopen : s.current.kind = .openBrace := by
    cases hword with
    | block hopen _ _ => exact hpath.front_eq ▸ hopen
  rw [peek_bind, if_pos hbraced, if_pos hopen]
  exact ih hdeeper (hpath.atDepth (s.depth + 1)) hnext

theorem reads_loop (hkey : keyword.kind = .whileWord)
    (hcond : Condition g levels u (front v next) condition)
    (ih : ReadsWord g .body levels v next tree) :
    ReadsWord g .statement levels (keyword :: (u ++ v)) next
      (.loop (g.locate keyword.span) condition tree) := by
  intro n s s' hs hpath hnext
  obtain ⟨s₁, rfl, hadv, hrest⟩ := hpath.cons_inv
  obtain ⟨s₂, hu, hv⟩ := hrest.split
  have h₁ := hs.path (.single hadv)
  have hfront : s₂.current.kind = front v next := by rw [← hv.front_eq, hnext]
  show Leads _ (statement g (level g n) s) _
  rw [statement, peek_bind, hkey]
  show Leads _ (loop g (level g n) s) _
  rw [loop, bind_of_ok hadv]
  refine (hcond.leads_condition h₁ hu hfront).bind_ok ?_
  exact (ih (h₁.path hu) hv hnext).bind_ok (.of_eq rfl)

theorem reads_alone (hkey : keyword.kind = .ifWord)
    (hcond : Condition g levels u (front v next) condition)
    (ih : ReadsWord g .body levels v next thenBranch) (helse : next ≠ .elseWord) :
    ReadsWord g .conditional levels (keyword :: (u ++ v)) next
      (.conditional (g.locate keyword.span) condition thenBranch .eos) := by
  intro n s s' hs hpath hnext
  obtain ⟨s₁, rfl, hadv, hrest⟩ := hpath.cons_inv
  obtain ⟨s₂, hu, hv⟩ := hrest.split
  have h₁ := hs.path (.single hadv)
  have hfront : s₂.current.kind = front v next := by rw [← hv.front_eq, hnext]
  have hnone : s'.current.kind ≠ .elseWord := hnext ▸ helse
  show Leads _ (conditional g (level g n) s) _
  rw [conditional, bind_of_ok hadv]
  refine (hcond.leads_condition h₁ hu hfront).bind_ok ?_
  refine Leads.bind_ok (ih (h₁.path hu) hv hnext) (.of_eq ?_)
  have halternative : alternative g (level g n) s' = .ok .eos s' := by
    rw [alternative, peek_bind, if_neg hnone]
    rfl
  rw [bind_of_ok halternative]
  rfl

theorem reads_both (hkey : keyword.kind = .ifWord)
    (hcond : Condition g levels u (front v .elseWord) condition)
    (ihthen : ReadsWord g .body levels v .elseWord thenBranch) (hmiddle : middle.kind = .elseWord)
    (ihelse : ReadsWord g .alternative levels w next elseBranch) :
    ReadsWord g .conditional levels (keyword :: (u ++ (v ++ middle :: w))) next
      (.conditional (g.locate keyword.span) condition thenBranch elseBranch) := by
  intro n s s' hs hpath hnext
  obtain ⟨s₁, rfl, hadv, hrest⟩ := hpath.cons_inv
  obtain ⟨s₂, hu, hrest⟩ := hrest.split
  obtain ⟨s₃, hv, hrest⟩ := hrest.split
  obtain ⟨s₄, rfl, hadv', hw⟩ := hrest.cons_inv
  have h₁ := hs.path (.single hadv)
  have h₂ := h₁.path hu
  have h₄ := (h₂.path hv).path (.single hadv')
  have hfront : s₂.current.kind = front v .elseWord := by rw [← hv.front_eq, hmiddle]
  show Leads _ (conditional g (level g n) s) _
  rw [conditional, bind_of_ok hadv]
  refine (hcond.leads_condition h₁ hu hfront).bind_ok ?_
  refine Leads.bind_ok (ihthen h₂ hv hmiddle) ?_
  exact Leads.bind_ok (ihelse h₄ hw hnext s₃ hmiddle hadv') (.of_eq rfl)

theorem reads_ofBody (hword : Derives g .body levels word next tree)
    (ih : ReadsWord g .body levels word next tree) :
    ReadsWord g .alternative levels word next tree := by
  intro n s s' hs hpath hnext r hmiddle hadv
  have hchained : ¬ (g.surface.bracedBodies && s.current.kind == .ifWord) = true := by
    cases hword with
    | bodyStatement hsurface _ =>
      rw [hsurface]
      exact Bool.false_ne_true
    | bodyBlock _ hblock =>
      cases hblock with
      | block hopen _ _ =>
        have hkind : s.current.kind = .openBrace := hpath.front_eq ▸ hopen
        rw [hkind, Bool.and_eq_true]
        rintro ⟨-, h⟩
        cases h
  rw [alternative, peek_bind, if_pos hmiddle, bind_of_ok hadv, peek_bind]
  show Leads _ ((if _ then _ else _ : Read Node) s) _
  rw [if_neg hchained]
  exact ih hs hpath hnext

/-- A conditional starts with its keyword. -/
theorem Derives.conditional_front (h : Derives g .conditional levels word next tree) :
    front word next = .ifWord := by
  cases h with
  | alone hkey _ _ _ => exact hkey
  | both hkey _ _ _ _ => exact hkey

theorem reads_chained (hsurface : g.surface = .sml)
    (hword : Derives g .conditional levels word next tree)
    (ih : ReadsWord g .conditional levels word next tree) :
    ReadsWord g .alternative (levels + 1) word next tree := by
  intro n s s' hs hpath hnext r hmiddle hadv
  have hif : s.current.kind = .ifWord := by
    rw [← hpath.front_eq, hnext]
    exact hword.conditional_front
  have hchained : (g.surface.bracedBodies && s.current.kind == .ifWord) = true := by
    rw [hsurface, hif]
    rfl
  rw [alternative, peek_bind, if_pos hmiddle, bind_of_ok hadv, peek_bind]
  show Leads _ ((if _ then _ else _ : Read Node) s) _
  rw [if_pos hchained]
  refine Leads.nested hs hpath.depth_eq fun k hk hdeeper => ?_
  subst hk
  exact ih hdeeper (hpath.atDepth (s.depth + 1)) hnext

theorem reads_ofConditional (hword : Derives g .conditional levels word next tree)
    (ih : ReadsWord g .conditional levels word next tree) :
    ReadsWord g .statement levels word next tree := by
  intro n s s' hs hpath hnext
  have hif : s.current.kind = .ifWord := by
    rw [← hpath.front_eq, hnext]
    exact hword.conditional_front
  show Leads _ (statement g (level g n) s) _
  rw [statement, peek_bind, hif]
  exact ih hs hpath hnext

theorem reads_ofBlock (hword : Derives g .block levels word next tree)
    (ih : ReadsWord g .block levels word next tree) :
    ReadsWord g .statement levels word next tree := by
  intro n s s' hs hpath hnext
  have hopen : s.current.kind = .openBrace := by
    cases hword with
    | block hopen _ _ => exact hpath.front_eq ▸ hopen
  show Leads _ (statement g (level g n) s) _
  rw [statement, peek_bind, hopen]
  exact ih hs hpath hnext

/-! ## Lists of statements -/

theorem reads_empty (hkind : keyword.kind = g.surface.terminator) :
    ReadsWord g .listed levels [keyword] next .eos := by
  intro n s s' hs hpath hnext
  obtain ⟨rfl, hadv⟩ := hpath.single_inv
  show Leads _ (listed g (level g n) s) _
  rw [listed, peek_bind, if_pos hkind, bind_of_ok hadv]
  exact .of_eq rfl

theorem reads_ofStatement (hword : Derives g .statement levels word next tree)
    (ih : ReadsWord g .statement levels word next tree) :
    ReadsWord g .listed levels word next tree := by
  intro n s s' hs hpath hnext
  have hterminator := hword.ne_terminator hpath
  show Leads _ (listed g (level g n) s) _
  rw [listed, peek_bind, if_neg hterminator]
  exact ih hs hpath hnext

/-- A member of a list does not start with what ends the list. -/
theorem Derives.listed_front (hword : Derives g .listed levels word next tree)
    (hpath : Path g s word s') {closer : TokenKind}
    (hcloser : closer = .closeBrace ∨ closer = .endOfFile) :
    ¬ (s.current.kind = closer ∨ s.current.kind = .endOfFile) := by
  rcases hword.starts_at (by simp) hpath with hstarts | ⟨hterminator, -⟩
  · have hne := hstarts.ne g.surface
    rintro (h | h)
    · rcases hcloser with rfl | rfl
      · exact hne.2.1 h
      · exact hne.2.2.2 h
    · exact hne.2.2.2 h
  · rw [hterminator]
    rcases hcloser with rfl | rfl <;> cases g.surface <;> decide

/-- A list goes on behind a member that is read. -/
theorem leads_listFrom {deep : Prop} {closer : TokenKind} {list : Option Node} (hs : Ready s)
    (hopen : ¬ (s.current.kind = closer ∨ s.current.kind = .endOfFile))
    (h : Leads deep (listed g (level g n) s) (.ok tree t)) :
    Leads deep (listFrom g (level g n) closer list s)
      (listFrom g (level g n) closer (some (joined list tree)) t) := by
  rcases h with hrun | ⟨hdeep, span, u, hrun⟩
  · exact .of_eq (listFrom_ok (plansLevel g n) hs.roomy hopen hrun)
  · obtain ⟨rounds, hrounds⟩ := hs.roomy.rounds_pos
    have hu := hs.later ((planListed (plansLevel g n)).composed.later_of_error hrun)
    refine .inr ⟨hdeep, span, { u with depth := s.depth }, ?_⟩
    rw [listFrom, looping, hrounds, continueStatements_succ, if_neg hopen]
    exact recovering_of_strict hrun hu.strict

theorem reads_first (hword : Derives g .listed levels word next tree)
    (ih : ReadsWord g .listed levels word next tree) :
    ReadsWord g .several levels word next tree := by
  intro n s s' hs hpath hnext closer hcloser
  exact leads_listFrom hs.toReady (hword.listed_front hpath hcloser) (ih hs hpath hnext)

theorem reads_more {list : Node} (ihlist : ReadsWord g .several levels u (front v next) list)
    (hword : Derives g .listed levels v next tree) (ih : ReadsWord g .listed levels v next tree) :
    ReadsWord g .several levels (u ++ v) next (.sequence list tree) := by
  intro n s s' hs hpath hnext closer hcloser
  obtain ⟨s₁, hu, hv⟩ := hpath.split
  have h₁ := hs.path hu
  have hfront : s₁.current.kind = front v next := by rw [← hv.front_eq, hnext]
  refine (ihlist hs hu hfront closer hcloser).trans ?_
  exact leads_listFrom h₁.toReady (hword.listed_front hv hcloser) (ih h₁ hv hnext)

theorem reads_none : ReadsWord g .statements levels [] next .eos := by
  intro n s s' hs hpath _ closer _ hend
  cases hpath
  exact .of_eq (listFrom_done hs.roomy hend)

theorem reads_some (ih : ReadsWord g .several levels word next tree) :
    ReadsWord g .statements levels word next tree := by
  intro n s s' hs hpath hnext closer hcloser hend
  refine (ih hs hpath hnext closer hcloser).trans (.of_eq ?_)
  exact listFrom_done (hs.path hpath).roomy hend

end Productions

/-! ## All phrases -/

/-- **Every phrase is read**, and its tree is the one of its derivation. -/
theorem Derives.reads {phrase : Phrase} {word : List Token} {next : TokenKind} {tree : Node}
    (h : Derives g phrase levels word next tree) : ReadsWord g phrase levels word next tree := by
  induction h with
  | assignment hname hassign hvalue hend =>
    exact fun n s s' hs hpath hnext => leads_assignment hname hassign hvalue hend hs hpath hnext
  | expression hvalue hend =>
    exact fun n s s' hs hpath hnext => leads_simple hvalue hend hs hpath hnext
  | loop hkey hcond _ ih => exact reads_loop hkey hcond ih
  | ofConditional hword ih => exact reads_ofConditional hword ih
  | ofBlock hword ih => exact reads_ofBlock hword ih
  | alone hkey hcond _ hnext ih => exact reads_alone hkey hcond ih hnext
  | both hkey hcond _ hmiddle _ ihthen ihelse => exact reads_both hkey hcond ihthen hmiddle ihelse
  | block hopen _ hclose ih => exact reads_block hopen ih hclose
  | bodyStatement hsurface hword ih => exact reads_bodyStatement hsurface hword ih
  | bodyBlock hsurface hword ih => exact reads_bodyBlock hsurface hword ih
  | ofBody hword ih => exact reads_ofBody hword ih
  | chained hsurface hword ih => exact reads_chained hsurface hword ih
  | empty hkind => exact reads_empty hkind
  | ofStatement hword ih => exact reads_ofStatement hword ih
  | first hword ih => exact reads_first hword ih
  | more _ hword ihlist ih => exact reads_more ihlist hword ih
  | none => exact reads_none
  | some _ ih => exact reads_some ih

end TwinSyntax.Phrases
