import TwinSyntax.Proofs.Words

/-!
# Viable words

A word is viable for a phrase if some word behind it completes the phrase. There is one lemma for
each place where a phrase may break off: what has been read of it is viable if what has been read of
its last part is. The completion does not depend on what follows: it ends the phrase in front of any
token but `else`, so that the phrases around it can be completed too.

Main result: `Derives.viable`. A complete phrase is viable, too, although it may have ended only
because of the token behind it.
-/

namespace TwinSyntax.Phrases

open Grammar (Setting)

/-- `word` can be completed to an expression. -/
def ViableExpression (g : Setting) (least : Nat) (word : List Token) : Prop :=
  ∃ rest levels tree, Expression g least levels (word ++ rest) tree

/-- `word` can be completed to a condition. -/
def ViableCondition (g : Setting) (word : List Token) : Prop :=
  ∃ rest levels tree, ∀ next, (∀ op : Arithmetic, next ≠ op.token) →
    Condition g levels (word ++ rest) next tree

/-- `word` can be completed to the phrase `phrase`. -/
def Viable (g : Setting) (phrase : Phrase) (word : List Token) : Prop :=
  ∃ rest levels tree, ∀ next, next ≠ .elseWord → Derives g phrase levels (word ++ rest) next tree

/-- A token of the kind `kind` that stands nowhere in particular. -/
def plain (kind : TokenKind) : Token := ⟨kind, ⟨1, 1, 1⟩⟩

variable {g : Setting}

/-! ## Expressions -/

theorem Expression.viable {least levels : Nat} {word : List Token} {tree : Node}
    (h : Expression g least levels word tree) : ViableExpression g least word :=
  ⟨[], levels, tree, by rwa [List.append_nil]⟩

theorem viableExpression_nil (least : Nat) : ViableExpression g least [] := by
  have hzero : (plain (.integer 0)).kind = (Payload.integer 0).token := rfl
  exact ⟨[plain (.integer 0)], 0, _, .leaf hzero⟩

theorem ViableExpression.of_tightest {least : Nat} {word : List Token}
    (h : ViableExpression g tightest word) : ViableExpression g least word := by
  obtain ⟨rest, levels, tree, h⟩ := h
  exact ⟨rest, levels, tree, h.of_tightest⟩

theorem ViableExpression.negate {least : Nat} {minus : Token} {word : List Token}
    (hminus : minus.kind = .minus) (h : ViableExpression g tightest word) :
    ViableExpression g least (minus :: word) := by
  obtain ⟨rest, levels, tree, h⟩ := h
  exact ⟨rest, levels + 1, _, .negate hminus h⟩

theorem ViableExpression.parens {least : Nat} {opening : Token} {word : List Token}
    (hopen : opening.kind = .openParen) (h : ViableExpression g 0 word) :
    ViableExpression g least (opening :: word) := by
  obtain ⟨rest, levels, tree, h⟩ := h
  refine ⟨rest ++ [plain .closeParen], levels + 1, tree, ?_⟩
  rw [List.cons_append, ← List.append_assoc]
  exact .parens hopen h rfl

theorem ViableExpression.binary {least levels : Nat} {op : Arithmetic} {operator : Token}
    {u v : List Token} {left : Node} (hu : Expression g op.rank levels u left)
    (hop : operator.kind = op.token) (hleast : least ≤ op.rank)
    (hv : ViableExpression g (op.rank + 1) v) :
    ViableExpression g least (u ++ operator :: v) := by
  obtain ⟨rest, levels', right, hv⟩ := hv
  refine ⟨rest, max levels levels', .arithmetic op (g.locate operator.span) left right, ?_⟩
  rw [List.append_assoc, List.cons_append]
  exact .binary (hu.mono (Nat.le_max_left _ _)) hop hleast (hv.mono (Nat.le_max_right _ _))

/-! ## Conditions -/

theorem Condition.viable {levels : Nat} {word : List Token} {next : TokenKind} {tree : Node}
    (h : Condition g levels word next tree) : ViableCondition g word :=
  ⟨[], levels, tree, fun next' hnext => by rw [List.append_nil]; exact h.change hnext⟩

theorem ViableCondition.compare {levels : Nat} {rel : Relation} {operator : Token}
    {u v : List Token} {left : Node} (hu : Expression g 0 levels u left)
    (hrel : operator.kind = rel.token) (hv : ViableExpression g 0 v) :
    ViableCondition g (u ++ operator :: v) := by
  obtain ⟨rest, levels', right, hv⟩ := hv
  refine ⟨rest, max levels levels', .relation rel (g.locate operator.span) left right,
    fun next hnext => ?_⟩
  rw [List.append_assoc, List.cons_append]
  exact .compare (hu.mono (Nat.le_max_left _ _)) hrel (hv.mono (Nat.le_max_right _ _)) hnext

/-- An expression can be compared with something. -/
theorem ViableExpression.condition {word : List Token} (h : ViableExpression g 0 word) :
    ViableCondition g word := by
  obtain ⟨rest, levels, left, h⟩ := h
  have hless : (plain .less).kind = Relation.less.token := rfl
  obtain ⟨rest', levels', tree, h⟩ := ViableCondition.compare h hless (viableExpression_nil 0)
  rw [List.append_assoc] at h
  exact ⟨_, levels', tree, fun next hnext => by rw [← List.append_assoc]; exact h next hnext⟩

theorem ViableCondition.parens {opening : Token} {word : List Token}
    (hopen : opening.kind = .openParen) (h : ViableCondition g word) :
    ViableCondition g (opening :: word) := by
  obtain ⟨rest, levels, tree, h⟩ := h
  refine ⟨rest ++ [plain .closeParen], levels + 1, tree, fun next _ => ?_⟩
  rw [List.cons_append, ← List.append_assoc]
  exact .parens hopen (h .closeParen (ne_token rfl)) rfl

/-! ## Completing a phrase -/

theorem Viable.of_derives {phrase : Phrase} (levels : Nat) {word : List Token} {tree : Node}
    (h : ∀ next, next ≠ .elseWord → Derives g phrase levels word next tree) :
    Viable g phrase word :=
  ⟨[], levels, tree, fun next hnext => by rw [List.append_nil]; exact h next hnext⟩

/-- A phrase that goes on where another one does is completed with it. -/
theorem Viable.map {phrase phrase' : Phrase} {word : List Token} {f : Nat → Nat}
    (h : Viable g phrase word)
    (hmap : ∀ levels word next tree, Derives g phrase levels word next tree →
      Derives g phrase' (f levels) word next tree) : Viable g phrase' word := by
  obtain ⟨rest, levels, tree, h⟩ := h
  exact ⟨rest, f levels, tree, fun next hnext => hmap _ _ _ _ (h next hnext)⟩

/-- What is in front of something viable is viable. -/
theorem Viable.of_append {phrase : Phrase} {u v : List Token} (h : Viable g phrase (u ++ v)) :
    Viable g phrase u := by
  obtain ⟨rest, levels, tree, h⟩ := h
  refine ⟨v ++ rest, levels, tree, ?_⟩
  rw [← List.append_assoc]
  exact h

theorem Terminator.extend {surface : Surface} {word : List Token} {next : TokenKind}
    (h : Terminator surface word next) :
    ∃ rest, ∀ next', Terminator surface (word ++ rest) next' := by
  cases h with
  | taken hkind => exact ⟨[], fun next' => .taken hkind⟩
  | ahead hsurface _ => exact ⟨[plain surface.terminator], fun next' => .taken rfl⟩

/-- A pair of braces is a body. -/
theorem derives_braces (next : TokenKind) :
    Derives g .body 2 [plain .openBrace, plain .closeBrace] next .eos := by
  have hblock : Derives g .block 1 [plain .openBrace, plain .closeBrace] next .eos :=
    .block rfl .none rfl
  cases hsurface : g.surface with
  | myrmidon => exact .bodyStatement hsurface (.ofBlock hblock)
  | sml => exact .bodyBlock hsurface hblock

theorem viable_body_nil : Viable g .body [] := ⟨_, 2, .eos, fun next _ => derives_braces next⟩

theorem viable_statements_nil : Viable g .statements [] :=
  .of_derives 0 fun _ _ => .none

section Completions

variable {levels : Nat} {keyword : Token} {u v w : List Token} {kind : TokenKind} {tree : Node}

theorem viable_expression (h : ViableExpression g 0 w) : Viable g .statement w := by
  obtain ⟨rest, levels, tree, h⟩ := h
  refine ⟨rest ++ [plain g.surface.terminator], levels, tree, fun next _ => ?_⟩
  rw [← List.append_assoc]
  exact .expression h (.taken rfl)

theorem viable_assignment {target assign : Token} {name : String}
    (hname : target.kind = .identifier name) (hassign : assign.kind = .assign)
    (h : ViableExpression g 0 w) : Viable g .statement (target :: assign :: w) := by
  obtain ⟨rest, levels, tree, h⟩ := h
  refine ⟨rest ++ [plain g.surface.terminator], levels,
    .assign (g.locate assign.span) (.leaf (.identifier name) (g.locate target.span)) tree,
    fun next _ => ?_⟩
  rw [List.cons_append, List.cons_append, ← List.append_assoc]
  exact .assignment hname hassign h (.taken rfl)

theorem viable_block {opening : Token} (hopen : opening.kind = .openBrace)
    (h : Viable g .statements w) : Viable g .block (opening :: w) := by
  obtain ⟨rest, levels, tree, h⟩ := h
  refine ⟨rest ++ [plain .closeBrace], levels + 1, tree, fun next _ => ?_⟩
  rw [List.cons_append, ← List.append_assoc]
  exact .block hopen (h .closeBrace (by simp)) rfl

theorem viable_block_nil : Viable g .block [] := by
  have hopen : (plain .openBrace).kind = .openBrace := rfl
  have hblock : Viable g .block ([] ++ [plain .openBrace]) :=
    viable_block hopen viable_statements_nil
  exact hblock.of_append

/-- A condition and what has been read of the body behind it can be completed together. What has
been read may be nothing, and then the completion starts in a way that suits the condition. -/
theorem Condition.complete (hcond : Condition g levels u kind tree)
    (hfront : front v kind = kind) (h : Viable g .body v) :
    ∃ rest levels' body, ∀ next, next ≠ .elseWord →
      Condition g levels' u (front (v ++ rest) next) tree ∧
        Derives g .body levels' (v ++ rest) next body := by
  cases v with
  | nil =>
    refine ⟨[plain .openBrace, plain .closeBrace], max levels 2, .eos, fun next _ => ⟨?_, ?_⟩⟩
    · exact (hcond.mono (Nat.le_max_left _ _)).change (ne_token rfl)
    · exact (derives_braces next).mono (Nat.le_max_right _ _)
  | cons token v =>
    obtain ⟨rest, levels', body, h⟩ := h
    refine ⟨rest, max levels levels', body, fun next hnext => ⟨?_, ?_⟩⟩
    · rw [List.cons_append, front_cons, show token.kind = kind from hfront]
      exact hcond.mono (Nat.le_max_left _ _)
    · exact (h next hnext).mono (Nat.le_max_right _ _)

theorem viable_loop_condition (hkey : keyword.kind = .whileWord) (h : ViableCondition g u) :
    Viable g .statement (keyword :: u) := by
  obtain ⟨rest, levels, condition, h⟩ := h
  refine ⟨rest ++ [plain .openBrace, plain .closeBrace], max levels 2,
    .loop (g.locate keyword.span) condition .eos, fun next _ => ?_⟩
  rw [List.cons_append, ← List.append_assoc]
  exact .loop hkey ((h .openBrace (ne_token rfl)).mono (Nat.le_max_left _ _))
    ((derives_braces next).mono (Nat.le_max_right _ _))

theorem viable_conditional_condition (hkey : keyword.kind = .ifWord) (h : ViableCondition g u) :
    Viable g .conditional (keyword :: u) := by
  obtain ⟨rest, levels, condition, h⟩ := h
  refine ⟨rest ++ [plain .openBrace, plain .closeBrace], max levels 2,
    .conditional (g.locate keyword.span) condition .eos .eos, fun next hnext => ?_⟩
  rw [List.cons_append, ← List.append_assoc]
  exact .alone hkey ((h .openBrace (ne_token rfl)).mono (Nat.le_max_left _ _))
    ((derives_braces next).mono (Nat.le_max_right _ _)) hnext

theorem viable_loop_body (hkey : keyword.kind = .whileWord) (hcond : Condition g levels u kind tree)
    (hfront : front v kind = kind) (h : Viable g .body v) :
    Viable g .statement (keyword :: (u ++ v)) := by
  obtain ⟨rest, levels', body, h⟩ := hcond.complete hfront h
  refine ⟨rest, levels', .loop (g.locate keyword.span) tree body, fun next hnext => ?_⟩
  rw [List.cons_append, List.append_assoc]
  exact .loop hkey (h next hnext).1 (h next hnext).2

theorem viable_conditional_body (hkey : keyword.kind = .ifWord)
    (hcond : Condition g levels u kind tree)
    (hfront : front v kind = kind) (h : Viable g .body v) :
    Viable g .conditional (keyword :: (u ++ v)) := by
  obtain ⟨rest, levels', body, h⟩ := hcond.complete hfront h
  refine ⟨rest, levels', .conditional (g.locate keyword.span) tree body .eos, fun next hnext => ?_⟩
  rw [List.cons_append, List.append_assoc]
  exact .alone hkey (h next hnext).1 (h next hnext).2 hnext

theorem viable_conditional_alternative {middle : Token} {thenBranch : Node}
    (hkey : keyword.kind = .ifWord) (hcond : Condition g levels u (front v .elseWord) tree)
    (hthen : Derives g .body levels v .elseWord thenBranch) (hmiddle : middle.kind = .elseWord)
    (h : Viable g .alternative w) :
    Viable g .conditional (keyword :: (u ++ (v ++ middle :: w))) := by
  obtain ⟨rest, levels', elseBranch, h⟩ := h
  refine ⟨rest, max levels levels', .conditional (g.locate keyword.span) tree thenBranch elseBranch,
    fun next hnext => ?_⟩
  have hword : keyword :: (u ++ (v ++ middle :: w)) ++ rest =
      keyword :: (u ++ (v ++ middle :: (w ++ rest))) := by simp
  rw [hword]
  exact .both hkey (hcond.mono (Nat.le_max_left _ _)) (hthen.mono (Nat.le_max_left _ _)) hmiddle
    ((h next hnext).mono (Nat.le_max_right _ _))

end Completions

/-! ## Complete phrases -/

/-- **A complete phrase is viable** without the help of the token behind it. -/
theorem Derives.viable {phrase : Phrase} {levels : Nat} {word : List Token} {next : TokenKind}
    {tree : Node} (h : Derives g phrase levels word next tree) : Viable g phrase word := by
  induction h with
  | @assignment levels target assign name word ending _ value hname hassign hvalue hend =>
    obtain ⟨rest, hend⟩ := hend.extend
    refine ⟨rest, levels, .assign (g.locate assign.span)
      (.leaf (.identifier name) (g.locate target.span)) value, fun next _ => ?_⟩
    rw [List.cons_append, List.cons_append, List.append_assoc]
    exact .assignment hname hassign hvalue (hend next)
  | @expression levels _ _ _ tree hvalue hend =>
    obtain ⟨rest, hend⟩ := hend.extend
    refine ⟨rest, levels, tree, fun next _ => ?_⟩
    rw [List.append_assoc]
    exact .expression hvalue (hend next)
  | loop hkey hcond _ ih => exact viable_loop_body hkey hcond (front_front _ _) ih
  | alone hkey hcond _ _ ih => exact viable_conditional_body hkey hcond (front_front _ _) ih
  | both hkey hcond hthen hmiddle _ _ ih =>
    exact viable_conditional_alternative hkey hcond hthen hmiddle ih
  | block hopen hbody hclose _ => exact .of_derives _ fun _ _ => .block hopen hbody hclose
  | empty hkind => exact .of_derives 0 fun _ _ => .empty hkind
  | @more levels u v next list tree hlist htree _ ih =>
    obtain ⟨rest, levels', tree', h⟩ := ih
    refine ⟨rest, max levels levels', .sequence list tree', fun next' hnext => ?_⟩
    rw [List.append_assoc]
    refine .more ?_ ((h next' hnext).mono (Nat.le_max_right _ _))
    rw [front_append_of_ne_nil (htree.ne_nil (by simp)) rest next' next]
    exact hlist.mono (Nat.le_max_left _ _)
  | none => exact viable_statements_nil
  | ofConditional _ ih => exact ih.map fun _ _ _ _ => .ofConditional
  | ofBlock _ ih => exact ih.map fun _ _ _ _ => .ofBlock
  | bodyStatement hsurface _ ih => exact ih.map fun _ _ _ _ => .bodyStatement hsurface
  | bodyBlock hsurface _ ih => exact ih.map fun _ _ _ _ => .bodyBlock hsurface
  | ofBody _ ih => exact ih.map fun _ _ _ _ => .ofBody
  | chained hsurface _ ih => exact ih.map fun _ _ _ _ => .chained hsurface
  | ofStatement _ ih => exact ih.map fun _ _ _ _ => .ofStatement
  | first _ ih => exact ih.map fun _ _ _ _ => .first
  | some _ ih => exact ih.map fun _ _ _ _ => .some

/-- A list and what has been read of the next member can be completed together. -/
theorem viable_statements {levels : Nat} {u v : List Token} {kind : TokenKind} {list : Node}
    (hlist : Derives g .several levels u kind list)
    (hfront : front v kind = kind) (h : Viable g .listed v) :
    Viable g .statements (u ++ v) := by
  cases v with
  | nil =>
    rw [List.append_nil]
    exact hlist.viable.map fun _ _ _ _ => .some
  | cons token v =>
    obtain ⟨rest, levels', tree, h⟩ := h
    refine ⟨rest, max levels levels', .sequence list tree, fun next hnext => ?_⟩
    rw [List.append_assoc]
    refine .some (.more ?_ ((h next hnext).mono (Nat.le_max_right _ _)))
    rw [List.cons_append, front_cons, show token.kind = kind from hfront]
    exact hlist.mono (Nat.le_max_left _ _)

end TwinSyntax.Phrases
