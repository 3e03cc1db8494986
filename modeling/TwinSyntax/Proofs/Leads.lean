import TwinSyntax.Proofs.Path
import TwinSyntax.Proofs.Words

/-!
# Runs that lead somewhere

A run in front of a phrase comes to where the phrase ends, unless the phrase opens more levels of
nesting than are left. Then it may stop because of that, and because of nothing else.

**Leading** (`Leads`). A run leads to a result if it comes to it or stops at a level that is too
deep.

**Levels left** (`Poised`). The rules with `n` levels below them run in states that leave `n` levels
to open, so the level below the tower is never reached.
-/

namespace TwinSyntax.Grammar

/-! ## Leading -/

/-- `r` is `r'`, unless it stops at a level that is too deep, which takes `deep`. -/
def Leads {α : Type} (deep : Prop) (r r' : EStateM.Result CompileError Reading α) : Prop :=
  r = r' ∨ deep ∧ ∃ span s, r = .error (.grammatical ⟨span, .nestingTooDeep⟩) s

section Leads

variable {α β : Type} {deep : Prop} {r r' r'' : EStateM.Result CompileError Reading α}

theorem Leads.of_eq (h : r = r') : Leads deep r r' := .inl h

theorem Leads.trans (h : Leads deep r r') (h' : Leads deep r' r'') : Leads deep r r'' := by
  rcases h with rfl | hstop
  · exact h'
  · exact .inr hstop

variable {p p' : Read α} {f : α → Read β} {s s' t : Reading}

theorem Leads.bind (h : Leads deep (p s) (p' s')) : Leads deep ((p >>= f) s) ((p' >>= f) s') := by
  rcases h with heq | ⟨hdeep, span, t, hstop⟩
  · refine .of_eq ?_
    cases hrun : p' s' with
    | ok a t => rw [bind_of_ok hrun, bind_of_ok (heq.trans hrun)]
    | error e t => rw [bind_of_error hrun, bind_of_error (heq.trans hrun)]
  · exact .inr ⟨hdeep, span, t, bind_of_error hstop⟩

theorem Leads.bind_ok {a : α} {r : EStateM.Result CompileError Reading β}
    (h : Leads deep (p s) (.ok a t)) (hf : Leads deep (f a t) r) : Leads deep ((p >>= f) s) r := by
  have hbind : Leads deep ((p >>= f) s) (f a t) := @Leads.bind _ _ _ _ (pure a) f s t h
  exact hbind.trans hf

end Leads

/-! ## Levels left -/

/-- A ready state with `n` levels left to open. -/
structure Poised (n : Nat) (s : Reading) : Prop extends Ready s where
  depth : s.depth + n = maxNesting

variable {g : Setting} {deeper : Deeper} {n levels : Nat} {s s' t : Reading}

theorem Poised.path {word : List Token} (hs : Poised n s) (h : Path g s word t) : Poised n t :=
  ⟨h.ready hs.toReady, by rw [h.depth_eq]; exact hs.depth⟩

theorem Poised.open_level (hs : Poised (n + 1) s) : Poised n { s with depth := s.depth + 1 } := by
  refine ⟨hs.toReady.atDepth _, ?_⟩
  have h := hs.depth
  show s.depth + 1 + n = maxNesting
  omega

/-- A level is opened if one is left, and otherwise the run stops. -/
theorem Leads.nested {α : Type} {p : Read α} {a : α} (hs : Poised n s) (ht : t.depth = s.depth)
    (h : ∀ k, n = k + 1 → Poised k { s with depth := s.depth + 1 } →
      Leads (k < levels) (p { s with depth := s.depth + 1 })
        (.ok a { t with depth := s.depth + 1 })) :
    Leads (n < levels + 1) (nested p s) (.ok a t) := by
  have hdepth := hs.depth
  cases n with
  | zero =>
    have hge : maxNesting ≤ s.depth := by omega
    exact .inr ⟨Nat.succ_pos levels, _, _, nested_too_deep hge⟩
  | succ k =>
    have hlt : s.depth < maxNesting := by omega
    rcases h k rfl hs.open_level with hrun | ⟨hdeep, span, u, hrun⟩
    · refine .of_eq ((nested_of_ok hlt hrun).trans ?_)
      show EStateM.Result.ok a { t with depth := s.depth } = _
      rw [← ht]
    · exact .inr ⟨Nat.succ_lt_succ hdeep, span, _, nested_of_error hlt hrun⟩

/-! ## Single tokens -/

theorem expect_run {kind : TokenKind} {expecting : Expectation} (hkind : s.current.kind = kind)
    (hadv : advance g s = .ok s.current t) : expect g kind expecting s = .ok s.current t :=
  (expect_of_eq hkind).trans hadv

/-- A closing token that leaves no trace. -/
theorem closing_run {α : Type} {kind : TokenKind} {expecting : Expectation} (a : α)
    (hkind : s.current.kind = kind) (hadv : advance g s = .ok s.current t) :
    (do let _ ← expect g kind expecting; return a : Read α) s = .ok a t := by
  rw [bind_of_ok (expect_run hkind hadv)]
  rfl

theorem leaf_run (value : Payload) (hadv : advance g s = .ok s.current t) :
    leaf g value s = .ok (.leaf value (g.locate s.current.span)) t := by
  rw [leaf, bind_of_ok hadv]
  rfl

theorem unary_of_leaf {value : Payload} (h : s.current.kind = value.token) :
    unary g deeper s = leaf g value s := by
  have hminus : s.current.kind ≠ .minus := by rw [h]; cases value <;> simp [Payload.token]
  rw [unary, peek_bind, if_neg hminus, primary, peek_bind, Phrases.payload?_eq_some.mpr h]

theorem unary_of_minus (h : s.current.kind = .minus) (hadv : advance g s = .ok s.current t) :
    unary g deeper s =
      (nested deeper.unary >>= fun argument => pure (.negate (g.locate s.current.span) argument))
        t := by
  rw [unary, peek_bind, if_pos h, bind_of_ok hadv]
  rfl

/-- Behind an opening parenthesis, an expression one level deeper. -/
theorem unary_at_openParen (h : s.current.kind = .openParen) :
    unary g deeper s = (advance g >>= fun _ => nested deeper.expression >>= fun inner =>
      expect g .closeParen .closeParen >>= fun _ => pure inner) s := by
  have hminus : s.current.kind ≠ .minus := by rw [h]; simp
  have hpayload : payload? s.current.kind = none := by rw [h]; rfl
  rw [unary, peek_bind, if_neg hminus, primary, peek_bind, hpayload]
  show (if s.current.kind = .openParen then _ else _ : Read Node) s = _
  rw [if_pos h]

theorem unary_of_openParen (h : s.current.kind = .openParen)
    (hadv : advance g s = .ok s.current t) :
    unary g deeper s = (nested deeper.expression >>= fun inner =>
      expect g .closeParen .closeParen >>= fun _ => pure inner) t :=
  (unary_at_openParen h).trans (bind_of_ok hadv)

end TwinSyntax.Grammar
