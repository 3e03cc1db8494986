import TwinSyntax.Proofs.Loops

/-!
# What a run has not read

A run depends only on the items that it has taken from the source. If it stops before the source is
used up, everything behind the place where it stopped may be replaced, and the run is the same.

Main result: `Composed.framed`.
-/

namespace TwinSyntax.Grammar

variable {g : Setting}

/-- The same place in front of other items. -/
def Reading.moved (s : Reading) (unread : List TokenItem) (rounds : Nat) : Reading :=
  { s with unread, rounds }

/-- The same result in another state. -/
def mapStop {α : Type} (f : Reading → Reading) :
    EStateM.Result CompileError Reading α → EStateM.Result CompileError Reading α
  | .ok a s => .ok a (f s)
  | .error e s => .error e (f s)

/-- Items behind those that `p` takes may be replaced. -/
def Framed {α : Type} (p : Read α) : Prop :=
  ∀ ⦃s : Reading⦄ ⦃taken rest : List TokenItem⦄ ⦃n : Nat⦄, s.Roomy →
    (s.moved (taken ++ rest) n).Roomy → ¬ (stop (p s)).Ended →
    s.unread = taken ++ (stop (p s)).unread →
    p (s.moved (taken ++ rest) n) = mapStop (Reading.moved · rest n) (p s)

theorem append_right_eq_self {xs ys : List TokenItem} (h : ys = xs ++ ys) : xs = [] := by
  have hlength := congrArg List.length h
  rw [List.length_append] at hlength
  exact List.eq_nil_of_length_eq_zero (by omega)

/-- What is taken on a way is taken on its two parts. -/
theorem Later.split_unread {s t u : Reading} (h₁ : Later s t) (h₂ : Later t u)
    {taken : List TokenItem} (h : s.unread = taken ++ u.unread) :
    ∃ taken₁ taken₂, taken = taken₁ ++ taken₂ ∧ s.unread = taken₁ ++ t.unread ∧
      t.unread = taken₂ ++ u.unread := by
  obtain ⟨taken₁, htaken₁⟩ := h₁.unread
  obtain ⟨taken₂, htaken₂⟩ := h₂.unread
  rw [← htaken₁, ← htaken₂, ← List.append_assoc] at h
  exact ⟨taken₁, taken₂, (List.append_cancel_right h).symm, htaken₁.symm, htaken₂.symm⟩

/-- Where pulling stops depends only on what was pulled. -/
theorem pull_append {surface : Surface} {endSpan : Span} {taken rest : List TokenItem}
    {result : Except LexError Token}
    (h : pull surface endSpan (taken ++ rest) = (result, rest))
    (hend : ¬ (result = .ok ⟨.endOfFile, endSpan⟩ ∧ rest = [])) (rest' : List TokenItem) :
    pull surface endSpan (taken ++ rest') = (result, rest') := by
  induction taken with
  | nil =>
    rcases pull_cases surface endSpan rest with hall | hlt
    · rw [List.nil_append, hall] at h
      cases h
      exact absurd ⟨rfl, rfl⟩ hend
    · rw [List.nil_append] at h
      rw [h] at hlt
      exact absurd hlt (Nat.lt_irrefl _)
  | cons item taken ih =>
    cases item with
    | error e =>
      rw [List.cons_append, pull] at h ⊢
      obtain ⟨rfl, htail⟩ := Prod.mk.inj h
      rw [append_right_eq_self htail.symm, List.nil_append]
    | ok token =>
      rw [List.cons_append, pull_ok] at h ⊢
      by_cases hskip : surface.Ignores token.kind
      · rw [if_pos hskip] at h ⊢
        exact ih h
      · rw [if_neg hskip] at h ⊢
        obtain ⟨rfl, htail⟩ := Prod.mk.inj h
        rw [append_right_eq_self htail.symm, List.nil_append]

/-- A run that takes nothing, and does not look at the source. -/
theorem Framed.of_stays {α : Type} {p : Read α} (hstays : ∀ s, (stop (p s)).unread = s.unread)
    (hmoved : ∀ s rest n, p (s.moved rest n) = mapStop (Reading.moved · rest n) (p s)) :
    Framed p := by
  intro s taken rest n _ _ _ h
  rw [hstays] at h
  obtain rfl : taken = [] := append_right_eq_self h
  exact hmoved s rest n

theorem framed_record (e : SyntaxError) : Framed (record e) := by
  refine .of_stays (fun s => ?_) fun s rest n => ?_
  · rcases record_cases e s with ⟨s', hrun, rfl⟩ | ⟨e', s', hrun, rfl | rfl⟩ <;> rw [hrun] <;> rfl
  · unfold record Reading.moved
    split
    · rfl
    · dsimp only
      split <;> rfl

theorem framed_advance : Framed (advance g) := by
  intro s taken rest n _ _ hend h
  rcases advance_cases g s with ⟨next, rest₁, hpull, hrun⟩ | ⟨e, rest₁, hpull, hrun⟩
  · rw [hrun] at h hend ⊢
    rw [show s.unread = taken ++ rest₁ from h] at hpull
    have hnot : ¬ (Except.ok next = (.ok ⟨.endOfFile, g.endSpan⟩ : Except LexError Token) ∧
        rest₁ = []) := by
      rintro ⟨hnext, rfl⟩
      cases hnext
      exact hend ⟨rfl, rfl⟩
    exact advance_of_ok (s := s.moved (taken ++ rest) n) (pull_append hpull hnot rest)
  · rw [hrun] at h ⊢
    rw [show s.unread = taken ++ rest₁ from h] at hpull
    exact advance_of_error (s := s.moved (taken ++ rest) n) (pull_append hpull (by simp) rest)

section Bind

variable {α β : Type} {p : Read α} {f : α → Read β}

theorem Framed.bind (hp : Framed p) (hf : ∀ a, Framed (f a)) (hlater : ∀ s, Later s (stop (p s)))
    (hlater' : ∀ a s, Later s (stop (f a s))) : Framed (p >>= f) := by
  intro s taken rest n hs hs' hend h
  cases hrun : p s with
  | error e t =>
    rw [bind_of_error hrun] at h hend ⊢
    have hmoved := hp hs hs' (by rw [hrun]; exact hend) (by rw [hrun]; exact h)
    rw [hrun] at hmoved
    exact bind_of_error hmoved
  | ok a t =>
    rw [bind_of_ok hrun] at h hend ⊢
    have h₁ := hlater s
    rw [hrun] at h₁
    have h₂ := hlater' a t
    obtain ⟨taken₁, taken₂, rfl, htaken₁, htaken₂⟩ := h₁.split_unread h₂ h
    rw [List.append_assoc] at hs' ⊢
    have hmoved := hp hs hs' (by rw [hrun]; exact fun hended => hend (h₂.ended hended))
      (by rw [hrun]; exact htaken₁)
    rw [hrun] at hmoved
    have hroomy := hlater (s.moved (taken₁ ++ (taken₂ ++ rest)) n)
    rw [hmoved] at hroomy
    rw [bind_of_ok hmoved]
    exact hf a (h₁.roomy hs) (hroomy.roomy hs') hend htaken₂

theorem Framed.nested (hp : Framed p) : Framed (nested p) := by
  intro s taken rest n hs hs' hend h
  rcases Nat.lt_or_ge s.depth maxNesting with hlt | hge
  · have hmoved := @hp { s with depth := s.depth + 1 } taken rest n hs hs'
    cases hrun : p { s with depth := s.depth + 1 } with
    | ok a t =>
      rw [nested_of_ok hlt hrun] at h hend ⊢
      rw [hrun] at hmoved
      exact nested_of_ok (s := s.moved (taken ++ rest) n) hlt (hmoved hend h)
    | error e t =>
      rw [nested_of_error hlt hrun] at h hend ⊢
      rw [hrun] at hmoved
      exact nested_of_error (s := s.moved (taken ++ rest) n) hlt (hmoved hend h)
  · rw [nested_too_deep hge] at h ⊢
    obtain rfl : taken = [] := append_right_eq_self h
    exact nested_too_deep (s := s.moved rest n) hge

theorem Framed.attempt (hp : Framed p) : Framed (attempt p) := by
  intro s taken rest n hs hs' hend h
  have hmoved := hp hs hs'
  rw [Grammar.attempt] at hend h ⊢
  rw [Grammar.attempt]
  cases hrun : p s with
  | ok a t =>
    rw [hrun] at h hend hmoved
    rw [hmoved hend h]
    rfl
  | error e t =>
    rw [hrun] at h hend hmoved
    cases e with
    | grammatical e | lexical e | malformed e =>
      rw [hmoved hend h]
      rfl

theorem Framed.looping {loop : Nat → Read α} (hloop : ∀ n, Framed (loop n))
    (hsettled : Settled loop) : Framed (Grammar.looping loop) := by
  intro s taken rest n hs hs' hend h
  have hbig : Grammar.looping loop s = loop (max s.rounds n) s :=
    hsettled.looping_eq hs (Nat.lt_of_lt_of_le hs (Nat.le_max_left _ _))
  have hbig' : Grammar.looping loop (s.moved (taken ++ rest) n) =
      loop (max s.rounds n) (s.moved (taken ++ rest) n) :=
    hsettled.looping_eq hs' (Nat.lt_of_lt_of_le hs' (Nat.le_max_right _ _))
  rw [hbig] at hend h ⊢
  rw [hbig']
  exact hloop _ hs hs' hend h

end Bind

/-- **A run depends only on what it has taken.** -/
theorem Composed.framed {α : Type} {p : Read α} (hp : Composed g p) : Framed p := by
  induction hp with
  | pure a => exact .of_stays (fun _ => rfl) fun _ _ _ => rfl
  | peek => exact .of_stays (fun _ => rfl) fun _ _ _ => rfl
  | advance => exact framed_advance
  | fail fault => exact .of_stays (fun _ => rfl) fun _ _ _ => rfl
  | bind hp hf ihp ihf => exact ihp.bind ihf hp.later fun a => (hf a).later
  | nested _ ih => exact ih.nested
  | recovering hp hnext hresume ihp ihnext ihresume =>
    refine ihp.attempt.bind (fun outcome => ?_) (later_attempt hp.later) fun outcome => ?_
    · cases outcome with
      | ok a => exact ihnext a
      | error e =>
        exact (framed_record e).bind (fun _ => ihresume) (later_record e) fun _ => hresume.later
    · cases outcome with
      | ok a => exact (hnext a).later
      | error e => exact fun s => later_bind (later_record e s) fun _ t _ => hresume.later t
  | looping _ hsettled ih => exact .looping ih hsettled

end TwinSyntax.Grammar
