import TwinSyntax.Proofs.Path

/-!
# What a run comes to

A rule of the grammar keeps two promises. If it succeeds, the tokens that it took are the phrase it
stands for. If it fails, nothing was wrong with the tokens before the one that it fails at: they can
be completed to a phrase.

**Verdicts** (`Verdict`). Both promises about one run, with the phrase as a predicate `good` on the
tokens taken, the kind of the token behind them and the value, and what can be completed as a
predicate `viable` on tokens. A syntax error blames the current token, which is not taken. A lexical
error is met while the current token is taken, so that token counts as one of those before it.

There is one lemma for each step of `Composed`, so a proof about a rule follows its text.
-/

namespace TwinSyntax.Grammar

open Phrases (front)

/-- A run from `s` comes to a result that keeps the promises `good` and `viable`. -/
inductive Verdict (g : Setting) {α : Type} (s : Reading)
    (good : List Token → TokenKind → α → Prop) (viable : List Token → Prop) :
    EStateM.Result CompileError Reading α → Prop
  | success {word : List Token} {a : α} {t : Reading} :
      Path g s word t → good word t.current.kind a → Verdict g s good viable (.ok a t)
  | refused {word : List Token} {t : Reading} {fault : SyntaxFault} (depth : Nat) :
      Path g s word t → fault = .nestingTooDeep ∨ viable word →
      Verdict g s good viable (.error (.grammatical ⟨t.current.span, fault⟩) { t with depth })
  | unreadable {word : List Token} {t : Reading} {e : LexError} {rest : List TokenItem}
      (depth : Nat) :
      Path g s word t → pull g.surface g.endSpan t.unread = (.error e, rest) →
      viable (word ++ [t.current]) →
      Verdict g s good viable (.error (.lexical e) { t with unread := rest, depth })

/-- Every run of `p` from a ready state keeps the promises `good` and `viable`. -/
def Sound (g : Setting) {α : Type} (p : Read α) (good : List Token → TokenKind → α → Prop)
    (viable : List Token → Prop) : Prop :=
  ∀ s, Ready s → Verdict g s good viable (p s)

namespace Verdict

variable {g : Setting} {α β : Type} {s : Reading} {p : Read α} {f : α → Read β}
  {good₁ : List Token → TokenKind → α → Prop} {good : List Token → TokenKind → β → Prop}
  {viable₁ viable : List Token → Prop}

theorem pure {b : β} (h : good [] s.current.kind b) : Verdict g s good viable (.ok b s) :=
  .success .nil h

theorem fail {fault : SyntaxFault} (h : fault = .nestingTooDeep ∨ viable []) :
    Verdict g s good viable (Grammar.fail fault s) :=
  .refused s.depth .nil h

theorem unexpected {expecting : Expectation} (h : viable []) :
    Verdict g s good viable (Grammar.unexpected expecting s) :=
  .fail (.inr h)

/-- Promises may be weakened, knowing how the tokens start. -/
theorem mono {good₂ : List Token → TokenKind → α → Prop} {r : EStateM.Result CompileError Reading α}
    (h : Verdict g s good₁ viable₁ r)
    (hgood : ∀ w k a, front w k = s.current.kind → good₁ w k a → good₂ w k a)
    (hviable : ∀ w, front w s.current.kind = s.current.kind → viable₁ w → viable w) :
    Verdict g s good₂ viable r := by
  cases h with
  | success hpath h => exact .success hpath (hgood _ _ _ hpath.front_eq h)
  | refused depth hpath h => exact .refused depth hpath (h.imp id (hviable _ hpath.front_self))
  | unreadable depth hpath hpull h =>
    refine .unreadable depth hpath hpull (hviable _ ?_ h)
    rw [Phrases.front_append]
    exact hpath.front_eq

/-- One run behind another. -/
theorem bind (hs : Ready s) (hp : Verdict g s good₁ viable₁ (p s))
    (hviable : ∀ w, front w s.current.kind = s.current.kind → viable₁ w → viable w)
    (hf : ∀ w a t, Path g s w t → Ready t → good₁ w t.current.kind a →
      Verdict g t (fun v => good (w ++ v)) (fun v => viable (w ++ v)) (f a t)) :
    Verdict g s good viable ((p >>= f) s) := by
  have hfirst := hp.mono (fun _ _ _ _ h => h) hviable
  revert hfirst
  cases hrun : p s with
  | error e t =>
    intro hfirst
    rw [bind_of_error hrun]
    cases hfirst with
    | refused depth hpath h => exact .refused depth hpath h
    | unreadable depth hpath hpull h => exact .unreadable depth hpath hpull h
  | ok a t =>
    intro hfirst
    rw [bind_of_ok hrun]
    cases hfirst with
    | success hpath h =>
      generalize hrest : f a t = r
      have hsecond := hf _ a t hpath (hpath.ready hs) h
      rw [hrest] at hsecond
      cases hsecond with
      | success hpath' h' => exact .success (hpath.append hpath') h'
      | refused depth hpath' h' => exact .refused depth (hpath.append hpath') h'
      | unreadable depth hpath' hpull' h' =>
        refine .unreadable depth (hpath.append hpath') hpull' ?_
        rw [List.append_assoc]
        exact h'

/-- Taking the current token, and a run behind it. -/
theorem take {f : Token → Read β} (hs : Ready s) (hviable : viable [s.current])
    (hf : ∀ t, Path g s [s.current] t → Ready t → Verdict g t (fun v => good (s.current :: v))
      (fun v => viable (s.current :: v)) (f s.current t)) :
    Verdict g s good viable ((advance g >>= f) s) := by
  have hadvance : Verdict g s (fun w _ token => w = [s.current] ∧ token = s.current)
      (fun w => w = [s.current]) (advance g s) := by
    rcases advance_cases g s with ⟨next, rest, -, hrun⟩ | ⟨e, rest, hpull, hrun⟩
    · rw [hrun]
      exact .success (.single hrun) ⟨rfl, rfl⟩
    · rw [hrun]
      exact .unreadable s.depth .nil hpull rfl
  refine .bind hs hadvance ?_ ?_
  · rintro w - rfl
    exact hviable
  · rintro w token t hpath ht ⟨rfl, rfl⟩
    exact hf t hpath ht

/-- Taking a token of the kind `kind`, and a run behind it. -/
theorem expect {kind : TokenKind} {expecting : Expectation} {f : Token → Read β} (hs : Ready s)
    (hnil : viable []) (hviable : s.current.kind = kind → viable [s.current])
    (hf : s.current.kind = kind → ∀ t, Path g s [s.current] t → Ready t →
      Verdict g t (fun v => good (s.current :: v)) (fun v => viable (s.current :: v))
        (f s.current t)) :
    Verdict g s good viable ((Grammar.expect g kind expecting >>= f) s) := by
  by_cases hkind : s.current.kind = kind
  · rw [bind_congr_run (expect_of_eq hkind) fun _ _ _ => rfl]
    exact .take hs (hviable hkind) (hf hkind)
  · rw [bind_of_error (expect_of_ne hkind)]
    exact .refused s.depth .nil (.inr hnil)

/-- A run one level deeper. -/
theorem nested (h : Verdict g { s with depth := s.depth + 1 } good₁ viable₁
      (p { s with depth := s.depth + 1 })) :
    Verdict g s good₁ viable₁ (nested p s) := by
  rcases Nat.lt_or_ge s.depth maxNesting with hlt | hge
  · cases hrun : p { s with depth := s.depth + 1 } with
    | ok a t =>
      rw [hrun] at h
      rw [nested_of_ok hlt hrun]
      cases h with
      | success hpath h => exact .success hpath.leave h
    | error e t =>
      rw [hrun] at h
      rw [nested_of_error hlt hrun]
      cases h with
      | @refused word t fault depth hpath h =>
        exact @refused g _ s _ _ word t.leave fault _ hpath.leave h
      | @unreadable word t e rest depth hpath hpull h =>
        exact @unreadable g _ s _ _ word t.leave e rest _ hpath.leave hpull h
  · rw [nested_too_deep hge]
    exact .refused (s.depth + 1) .nil (.inl rfl)

/-- A run that could recover, but has no room to. -/
theorem recovering {resume : Read β} (hs : Ready s) (hp : Verdict g s good₁ viable₁ (p s))
    (hviable : ∀ w, front w s.current.kind = s.current.kind → viable₁ w → viable w)
    (hf : ∀ w a t, Path g s w t → Ready t → good₁ w t.current.kind a →
      Verdict g t (fun v => good (w ++ v)) (fun v => viable (w ++ v)) (f a t)) :
    Verdict g s good viable (Grammar.recovering p f resume s) := by
  have hplain := bind hs hp hviable hf
  cases hrun : p s with
  | ok a t =>
    rw [recovering_of_ok hrun]
    rw [bind_of_ok hrun] at hplain
    exact hplain
  | error e t =>
    rw [bind_of_error hrun] at hplain
    cases hplain with
    | @refused word t fault depth hpath h =>
      have hstrict : ({ t with depth } : Reading).Strict := (hpath.ready hs).strict
      rw [recovering_of_strict hrun hstrict]
      exact .refused s.depth hpath h
    | unreadable depth hpath hpull h =>
      rw [recovering_of_error hrun (by simp)]
      exact .unreadable depth hpath hpull h

end Verdict

end TwinSyntax.Grammar
