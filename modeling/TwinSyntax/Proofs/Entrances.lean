import TwinSyntax.Proofs.Completeness

/-!
# The ways into an expression agree

An expression is entered in three ways. `expression` starts from nothing. `clause` starts where a
comparison may stand, and reads the parentheses in front by a recursion of its own, because it does
not know yet what they enclose. `assignmentOrExpression` has taken an identifier already when it
turns out that no assignment follows.

**Parentheses** (`clause_of_expression`). Both recursions take a parenthesis and go one level
deeper, so the induction is on the levels below. What carries it is the token behind the content:
`expression` has read up to a closing parenthesis, where no comparison starts, so the clause inside
the parentheses is the expression and nothing more.

**Identifiers** (`assignmentOrExpression_of_identifier`). An identifier is the whole first operand,
so taking it first changes nothing, not even where a lexical error follows it.

Main result: `entrances_agree`.
-/

namespace TwinSyntax.Grammar

open Phrases

variable {g : Setting} {deeper : Deeper} {n : Nat} {s t : Reading} {tree : Node} {name : String}

/-! ## Operands in parentheses -/

/-- An operand in parentheses: both parentheses, and an expression one level deeper. -/
theorem unary_openParen_eq_ok (hopen : s.current.kind = .openParen)
    (h : unary g deeper s = .ok tree t) :
    ∃ s₁ s₂ token, advance g s = .ok s.current s₁ ∧ s₁.depth < maxNesting ∧
      deeper.expression { s₁ with depth := s₁.depth + 1 } = .ok tree s₂ ∧
      expect g .closeParen .closeParen s₂.leave = .ok token t := by
  rw [unary_at_openParen hopen] at h
  obtain ⟨token, s₁, hadv, h⟩ := bind_eq_ok h
  obtain ⟨next, rest, -, rfl, -⟩ := advance_eq_ok hadv
  obtain ⟨inner, s₃, hinner, h⟩ := bind_eq_ok h
  obtain ⟨s₂, hdepth, hexpr, rfl⟩ := nested_eq_ok hinner
  obtain ⟨close, s₄, hclose, h⟩ := bind_eq_ok h
  cases h
  exact ⟨s₁, s₂, close, hadv, hdepth, hexpr, hclose⟩

/-! ## Where a comparison may stand -/

/-- In front of a closing parenthesis no comparison goes on. -/
theorem finishClause_of_closeParen (h : s.current.kind = .closeParen) :
    finishClause g deeper tree s = .ok (.expression tree) s := by
  rw [finishClause, peek_bind, h]
  rfl

/-- A clause without a parenthesis in front is an expression and what follows it. -/
theorem clause_of_expression_ne (hopen : s.current.kind ≠ .openParen)
    (h : expression g deeper s = .ok tree t) :
    clause g deeper s = finishClause g deeper tree t := by
  rw [clause_of_ne_openParen hopen]
  exact bind_of_ok h

/-- **A clause goes on from the expression it starts with**, however many parentheses stand in
front. -/
theorem clause_of_expression (h : expression g (level g n) s = .ok tree t) :
    clause g (level g n) s = finishClause g (level g n) tree t := by
  induction n generalizing s tree t with
  | zero =>
    by_cases hopen : s.current.kind = .openParen
    · obtain ⟨left, s', hleft, -⟩ := bind_eq_ok h
      obtain ⟨_, _, _, -, -, hinner, -⟩ := unary_openParen_eq_ok hopen hleft
      cases hinner
    · exact clause_of_expression_ne hopen h
  | succ n ih =>
    by_cases hopen : s.current.kind = .openParen
    · obtain ⟨left, s', hleft, hclimb⟩ := bind_eq_ok h
      obtain ⟨s₁, s₂, close, hadv, hdepth, hinner, hclose⟩ := unary_openParen_eq_ok hopen hleft
      have hstop : s₂.leave.current.kind = .closeParen := kind_of_expect_eq_ok hclose
      have hclause : nested (level g (n + 1)).clause s₁ = .ok (.expression left) s₂.leave :=
        nested_of_ok hdepth ((ih hinner).trans (finishClause_of_closeParen hstop))
      rw [clause_of_openParen hopen hadv, bind_of_ok hclause, bind_of_ok hclose]
      exact bind_of_ok hclimb
    · exact clause_of_expression_ne hopen h

/-! ## Behind an identifier -/

/-- **An identifier that no equals sign follows is the first operand of an expression.** -/
theorem assignmentOrExpression_of_identifier (hname : s.current.kind = .identifier name)
    (hnext : ∀ token, (pull g.surface g.endSpan s.unread).1 = .ok token → token.kind ≠ .assign) :
    assignmentOrExpression g deeper name s = (do
      let value ← expression g deeper
      endStatement g
      return value) s := by
  rcases advance_cases g s with ⟨next, rest, hpull, hadv⟩ | ⟨e, rest, -, hadv⟩
  · exact assignmentOrExpression_run hname hadv (hnext next (by rw [hpull]))
  · -- behind the identifier there is no token, so neither way takes it
    have hleaf : leaf g (.identifier name) s = .error (.lexical e) { s with unread := rest } :=
      bind_of_error hadv
    have hexpr : expression g deeper s = .error (.lexical e) { s with unread := rest } :=
      bind_of_error ((unary_of_leaf hname).trans hleaf)
    rw [assignmentOrExpression, bind_of_error hleaf, bind_of_error hexpr]

/-! ## All three -/

/-- **The ways into an expression agree.** A clause is the expression it starts with and the
comparison that may go on from there, and a statement that starts with an identifier which no equals
sign follows is an expression and its end: the same value or error, in front of the same tokens,
with as many levels open and the same diagnostics. -/
theorem entrances_agree (g : Setting) (n : Nat) (s : Reading) :
    (∀ tree t, expression g (level g n) s = .ok tree t →
      clause g (level g n) s = finishClause g (level g n) tree t) ∧
    ∀ name, s.current.kind = .identifier name →
      (∀ token, (pull g.surface g.endSpan s.unread).1 = .ok token → token.kind ≠ .assign) →
      assignmentOrExpression g (level g n) name s = (do
        let value ← expression g (level g n)
        endStatement g
        return value) s := by
  refine ⟨fun tree t h => clause_of_expression h, fun name hname hnext => ?_⟩
  exact assignmentOrExpression_of_identifier hname hnext

/-- In front of `((a)+1)*2 < b`, and of `a*2` at the end of a file. -/
theorem entrances_agree_of_parens :
    let token (kind : TokenKind) : TokenItem := .ok ⟨kind, ⟨1, 1, 2⟩⟩
    let g : Setting := ⟨.myrmidon, ⟨1, 1, 1⟩, fun span => ⟨span, ""⟩⟩
    let comparison : Reading :=
      ⟨⟨.openParen, ⟨1, 1, 2⟩⟩, [token .openParen, token (.identifier "a"), token .closeParen,
        token .plus, token (.integer 1), token .closeParen, token .star,
      token (.integer 2), token .less, token (.identifier "b")], 0, [], 12⟩
    let product : Reading :=
      ⟨⟨.identifier "a", ⟨1, 1, 2⟩⟩, [token .star, token (.integer 2)], 0, [], 4⟩
    (∃ tree t, expression g (level g 2) comparison = .ok tree t ∧ t.current.kind = .less ∧
      clause g (level g 2) comparison = finishClause g (level g 2) tree t) ∧
    assignmentOrExpression g (level g 2) "a" product = (do
      let value ← expression g (level g 2)
      endStatement g
      return value) product := by
  intro token g comparison product
  have hread : ((expression g (level g 2)).run' comparison).isSome = true := by decide +kernel
  have hstop : (stop (expression g (level g 2) comparison)).current.kind = .less := by
    decide +kernel
  refine ⟨?_, (entrances_agree g 2 product).2 "a" rfl ?_⟩
  · cases hrun : expression g (level g 2) comparison with
    | ok tree t =>
      rw [hrun] at hstop
      exact ⟨tree, t, rfl, hstop, (entrances_agree g 2 comparison).1 tree t hrun⟩
    | error e t =>
      delta EStateM.run' EStateM.run at hread
      rw [hrun] at hread
      cases hread
  · intro token h
    cases h
    decide

end TwinSyntax.Grammar
