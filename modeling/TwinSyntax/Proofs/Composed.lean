import TwinSyntax.Grammar.Program
import TwinSyntax.Proofs.Phrases

/-!
# What every rule is made of

Every rule of the grammar is put together from a few steps: looking at the current token, taking it,
failing, opening a level of nesting, and recovering. What these steps keep, every rule keeps.

**Composition** (`Composed`). The runs that can be put together from the steps. A proof about all
rules is an induction over it, with one case per step.

**Time** (`Later`). A run never gives a token back, never forgets a diagnostic, and stays at the
end of the file once it is there. The measure behind it is `Reading.remaining`, the number of tokens
that are still to be taken.

**Loops** (`Settled`). A loop that always has more rounds left than tokens does not depend on their
number.

Main result: `Composed.later`.
-/

namespace TwinSyntax.Grammar

/-! ## Results -/

/-- The state in which a run stopped. -/
def stop {α : Type} : EStateM.Result CompileError Reading α → Reading
  | .ok _ s => s
  | .error _ s => s

section Bind

variable {α β : Type} {p : Read α} {f : α → Read β} {s s' : Reading}

theorem bind_of_ok {a : α} (h : p s = .ok a s') : (p >>= f) s = f a s' := by
  show EStateM.bind p f s = _
  rw [EStateM.bind, h]

theorem bind_of_error {e : CompileError} (h : p s = .error e s') : (p >>= f) s = .error e s' := by
  show EStateM.bind p f s = _
  rw [EStateM.bind, h]

theorem bind_eq_ok {b : β} (h : (p >>= f) s = .ok b s') :
    ∃ a t, p s = .ok a t ∧ f a t = .ok b s' := by
  cases hp : p s with
  | ok a t => exact ⟨a, t, rfl, (bind_of_ok hp).symm.trans h⟩
  | error e t =>
    rw [bind_of_error hp] at h
    cases h

theorem bind_congr_run {p' : Read α} {f' : α → Read β} (hp : p s = p' s)
    (hf : ∀ a t, p s = .ok a t → f a t = f' a t) : (p >>= f) s = (p' >>= f') s := by
  cases h : p s with
  | ok a t => rw [bind_of_ok h, bind_of_ok (hp ▸ h), hf a t h]
  | error e t => rw [bind_of_error h, bind_of_error (hp ▸ h)]

@[simp] theorem peek_bind (f : TokenKind → Read β) (s : Reading) :
    (peek >>= f) s = f s.current.kind s := rfl

end Bind

/-! ## Time -/

/-- The number of tokens that are still to be taken. -/
def Reading.remaining (s : Reading) : Nat :=
  s.unread.length + if s.current.kind = .endOfFile then 0 else 1

theorem Reading.remaining_le (s : Reading) : s.remaining ≤ s.unread.length + 1 := by
  unfold Reading.remaining
  split <;> omega

/-- Only the end of the file is left. -/
def Reading.Ended (s : Reading) : Prop := s.current.kind = .endOfFile ∧ s.unread = []

/-- There are more rounds than tokens, so no loop runs out of them. -/
def Reading.Roomy (s : Reading) : Prop := s.remaining < s.rounds

/-- `s'` may be reached from `s`. -/
structure Later (s s' : Reading) : Prop where
  unread : s'.unread <:+ s.unread
  remaining : s'.remaining ≤ s.remaining
  rounds : s'.rounds = s.rounds
  diagnostics : s.diagnostics <+: s'.diagnostics
  ended : s.Ended → s'.Ended

theorem Later.refl (s : Reading) : Later s s :=
  ⟨List.suffix_rfl, Nat.le_refl _, rfl, List.prefix_rfl, id⟩

theorem Later.trans {s t u : Reading} (h₁ : Later s t) (h₂ : Later t u) : Later s u :=
  ⟨h₂.unread.trans h₁.unread, Nat.le_trans h₂.remaining h₁.remaining, h₂.rounds.trans h₁.rounds,
    h₁.diagnostics.trans h₂.diagnostics, fun h => h₂.ended (h₁.ended h)⟩

theorem Later.roomy {s s' : Reading} (h : Later s s') (hs : s.Roomy) : s'.Roomy := by
  rw [Reading.Roomy, h.rounds]
  exact Nat.lt_of_le_of_lt h.remaining hs

/-- Depth plays no part in time. -/
theorem Later.depth {s s' : Reading} (h : Later s s') (d d' : Nat) :
    Later { s with depth := d } { s' with depth := d' } :=
  ⟨h.unread, h.remaining, h.rounds, h.diagnostics, h.ended⟩

/-! ## Taking a token -/

theorem pull_ok (surface : Surface) (endSpan : Span) (token : Token) (rest : List TokenItem) :
    pull surface endSpan (.ok token :: rest) =
      if surface.Ignores token.kind then pull surface endSpan rest else (.ok token, rest) :=
  ite_congr (propext Surface.skips_iff) (fun _ => rfl) fun _ => rfl

theorem pull_suffix (surface : Surface) (endSpan : Span) (items : List TokenItem) :
    (pull surface endSpan items).2 <:+ items := by
  induction items with
  | nil => exact List.suffix_rfl
  | cons item rest ih =>
    cases item with
    | error e => exact List.suffix_cons _ rest
    | ok token =>
      rw [pull_ok]
      split
      · exact ih.trans (List.suffix_cons _ rest)
      · exact List.suffix_cons _ rest

/-- Pulling from a source that is not used up pulls an item, or uses the source up. -/
theorem pull_cases (surface : Surface) (endSpan : Span) (items : List TokenItem) :
    pull surface endSpan items = (.ok ⟨.endOfFile, endSpan⟩, []) ∨
      (pull surface endSpan items).2.length < items.length := by
  induction items with
  | nil => exact .inl rfl
  | cons item rest ih =>
    cases item with
    | error e => exact .inr (Nat.lt_succ_self _)
    | ok token =>
      rw [pull_ok]
      split
      · exact ih.imp id fun h => Nat.lt_succ_of_lt h
      · exact .inr (Nat.lt_succ_self _)

variable {g : Setting}

theorem advance_of_ok {s : Reading} {next : Token} {rest : List TokenItem}
    (h : pull g.surface g.endSpan s.unread = (.ok next, rest)) :
    advance g s = .ok s.current { s with current := next, unread := rest } := by
  rw [advance, h]

theorem advance_of_error {s : Reading} {e : LexError} {rest : List TokenItem}
    (h : pull g.surface g.endSpan s.unread = (.error e, rest)) :
    advance g s = .error (.lexical e) { s with unread := rest } := by
  rw [advance, h]

/-- The two ends of an attempt to take a token. -/
theorem advance_cases (g : Setting) (s : Reading) :
    (∃ next rest, pull g.surface g.endSpan s.unread = (.ok next, rest) ∧
      advance g s = .ok s.current { s with current := next, unread := rest }) ∨
    ∃ e rest, pull g.surface g.endSpan s.unread = (.error e, rest) ∧
      advance g s = .error (.lexical e) { s with unread := rest } := by
  cases h : pull g.surface g.endSpan s.unread with
  | mk result rest =>
    cases result with
    | ok next => exact .inl ⟨next, rest, rfl, advance_of_ok h⟩
    | error e => exact .inr ⟨e, rest, rfl, advance_of_error h⟩

theorem remaining_advance {s s' : Reading} {token : Token} (h : advance g s = .ok token s') :
    s'.remaining ≤ s.unread.length := by
  rcases advance_cases g s with ⟨next, rest, hpull, hrun⟩ | ⟨e, rest, -, hrun⟩
  · rw [hrun] at h
    cases h
    rcases pull_cases g.surface g.endSpan s.unread with hend | hlt
    · rw [hpull] at hend
      cases hend
      exact Nat.zero_le _
    · rw [hpull] at hlt
      exact Nat.le_trans (Reading.remaining_le _) hlt
  · rw [hrun] at h
    cases h

theorem later_advance (g : Setting) (s : Reading) : Later s (stop (advance g s)) := by
  have hsuffix := pull_suffix g.surface g.endSpan s.unread
  rcases advance_cases g s with ⟨next, rest, hpull, hrun⟩ | ⟨e, rest, hpull, hrun⟩
  · rw [hpull] at hsuffix
    have hle : _ ≤ s.remaining := Nat.le_trans (remaining_advance hrun) (Nat.le_add_right _ _)
    rw [hrun]
    refine ⟨hsuffix, hle, rfl, List.prefix_rfl, fun hend => ?_⟩
    rw [hend.2, pull] at hpull
    cases hpull
    exact ⟨rfl, rfl⟩
  · rw [hpull] at hsuffix
    rw [hrun]
    refine ⟨hsuffix, Nat.add_le_add_right hsuffix.length_le _, rfl, List.prefix_rfl, fun hend => ?_⟩
    rw [hend.2, pull] at hpull
    cases hpull

theorem expect_of_eq {kind : TokenKind} {expecting : Expectation} {s : Reading}
    (h : s.current.kind = kind) : expect g kind expecting s = advance g s := by
  rw [expect, peek_bind, if_pos h]

theorem expect_of_ne {kind : TokenKind} {expecting : Expectation} {s : Reading}
    (h : s.current.kind ≠ kind) : expect g kind expecting s = unexpected expecting s := by
  rw [expect, peek_bind, if_neg h]

/-- A token that was expected and found was the current one. -/
theorem kind_of_expect_eq_ok {kind : TokenKind} {expecting : Expectation} {token : Token}
    {s t : Reading} (h : expect g kind expecting s = .ok token t) : s.current.kind = kind := by
  by_cases hkind : s.current.kind = kind
  · exact hkind
  · rw [expect_of_ne hkind] at h
    cases h

/-! ## Composition -/

/-- The loop does not depend on its rounds, as long as there are more of them than tokens. -/
def Settled {α : Type} (loop : Nat → Read α) : Prop :=
  ∀ (s : Reading) (n m : Nat), s.Roomy → s.remaining < n → s.remaining < m → loop n s = loop m s

/-- The runs that are put together from the steps of `Reading`. -/
inductive Composed (g : Setting) : {α : Type} → Read α → Prop
  | pure {α : Type} (a : α) : Composed g (pure a)
  | peek : Composed g peek
  | advance : Composed g (advance g)
  | fail {α : Type} (fault : SyntaxFault) : Composed g (@fail α fault)
  | bind {α β : Type} {p : Read α} {f : α → Read β} :
      Composed g p → (∀ a, Composed g (f a)) → Composed g (p >>= f)
  | nested {α : Type} {p : Read α} : Composed g p → Composed g (nested p)
  | recovering {α β : Type} {p : Read α} {next : α → Read β} {resume : Read β} :
      Composed g p → (∀ a, Composed g (next a)) → Composed g resume →
      Composed g (recovering p next resume)
  | looping {α : Type} {loop : Nat → Read α} :
      (∀ n, Composed g (loop n)) → Settled loop → Composed g (looping loop)

theorem Composed.unexpected {α : Type} (expecting : Expectation) :
    Composed g (@unexpected α expecting) :=
  .bind .peek fun kind => .fail (.unexpected kind expecting)

theorem Composed.expect (kind : TokenKind) (expecting : Expectation) :
    Composed g (expect g kind expecting) := by
  refine .bind .peek fun found => ?_
  split
  · exact .advance
  · exact .unexpected expecting

/-! ## The steps that change more than the tokens -/

/-- The two ends of an attempt to open a level. -/
theorem enter_cases (s : Reading) :
    (s.depth < maxNesting ∧ enter s = .ok () { s with depth := s.depth + 1 }) ∨
    (maxNesting ≤ s.depth ∧ enter s =
      .error (.grammatical ⟨s.current.span, .nestingTooDeep⟩) { s with depth := s.depth + 1 }) := by
  by_cases h : s.depth + 1 > maxNesting
  · exact .inr ⟨Nat.le_of_lt_succ h, by simp only [enter, if_pos h]; rfl⟩
  · exact .inl ⟨Nat.lt_of_succ_le (Nat.le_of_not_lt h), by simp only [enter, if_neg h]⟩

section Nested

variable {α : Type} {p : Read α} {s s' : Reading}

theorem nested_of_ok {a : α} (hdepth : s.depth < maxNesting)
    (h : p { s with depth := s.depth + 1 } = .ok a s') : nested p s = .ok a s'.leave := by
  rcases enter_cases s with ⟨-, henter⟩ | ⟨hle, -⟩
  · rw [nested, henter]
    simp only [h]
  · omega

theorem nested_of_error {e : CompileError} (hdepth : s.depth < maxNesting)
    (h : p { s with depth := s.depth + 1 } = .error e s') : nested p s = .error e s'.leave := by
  rcases enter_cases s with ⟨-, henter⟩ | ⟨hle, -⟩
  · rw [nested, henter]
    simp only [h]
  · omega

theorem nested_too_deep (hdepth : maxNesting ≤ s.depth) :
    nested p s = .error (.grammatical ⟨s.current.span, .nestingTooDeep⟩)
      { s with depth := s.depth + 1 } := by
  rcases enter_cases s with ⟨hlt, -⟩ | ⟨-, henter⟩
  · omega
  · rw [nested, henter]

/-- Content that succeeded did so one level deeper, where there was a level to open. -/
theorem nested_eq_ok {a : α} (h : nested p s = .ok a s') :
    ∃ u, s.depth < maxNesting ∧ p { s with depth := s.depth + 1 } = .ok a u ∧ s' = u.leave := by
  by_cases hdepth : s.depth < maxNesting
  · cases hrun : p { s with depth := s.depth + 1 } with
    | ok b u =>
      rw [nested_of_ok hdepth hrun] at h
      cases h
      exact ⟨u, hdepth, rfl, rfl⟩
    | error e u =>
      rw [nested_of_error hdepth hrun] at h
      cases h
  · rw [nested_too_deep (Nat.le_of_not_lt hdepth)] at h
    cases h

end Nested

/-- The two ends of an attempt to record an error. -/
theorem record_cases (e : SyntaxError) (s : Reading) :
    (∃ s', record e s = .ok () s' ∧
      s' = { s with diagnostics := s.diagnostics ++ [.grammatical e] }) ∨
    ∃ e' s', record e s = .error e' s' ∧
      (s' = s ∨ s' = { s with diagnostics := s.diagnostics ++ [.grammatical e] }) := by
  unfold record
  split
  · exact .inr ⟨_, _, rfl, .inl rfl⟩
  · simp only
    split
    · exact .inr ⟨_, _, rfl, .inr rfl⟩
    · exact .inl ⟨_, rfl, rfl⟩

theorem later_record (e : SyntaxError) (s : Reading) : Later s (stop (record e s)) := by
  have hmore : Later s { s with diagnostics := s.diagnostics ++ [.grammatical e] } :=
    ⟨List.suffix_rfl, Nat.le_refl _, rfl, List.prefix_append _ _, id⟩
  rcases record_cases e s with ⟨s', hrun, rfl⟩ | ⟨e', s', hrun, rfl | rfl⟩ <;> rw [hrun]
  · exact hmore
  · exact .refl s'
  · exact hmore

section Recovering

variable {α β : Type} {p : Read α} {next : α → Read β} {resume : Read β} {s s' : Reading}

theorem recovering_of_ok {a : α} (h : p s = .ok a s') : recovering p next resume s = next a s' := by
  have hattempt : attempt p s = .ok (.ok a) s' := by rw [attempt, h]
  rw [recovering, bind_of_ok hattempt]

theorem recovering_of_grammatical {e : SyntaxError} (h : p s = .error (.grammatical e) s') :
    recovering p next resume s =
      (record e >>= fun _ => resume) { s' with depth := s.depth } := by
  have hattempt : attempt p s = .ok (.error e) { s' with depth := s.depth } := by rw [attempt, h]
  rw [recovering, bind_of_ok hattempt]

theorem recovering_of_error {e : CompileError} (h : p s = .error e s')
    (hgrammatical : ∀ e', e ≠ .grammatical e') : recovering p next resume s = .error e s' := by
  have hattempt : attempt p s = .error e s' := by
    rw [attempt, h]
    cases e with
    | grammatical e => exact absurd rfl (hgrammatical e)
    | lexical e | malformed e => rfl
  rw [recovering, bind_of_error hattempt]

end Recovering

/-! ## What every rule keeps -/

theorem later_bind {α β : Type} {p : Read α} {f : α → Read β} {s : Reading}
    (hp : Later s (stop (p s))) (hf : ∀ a t, p s = .ok a t → Later t (stop (f a t))) :
    Later s (stop ((p >>= f) s)) := by
  cases h : p s with
  | ok a t =>
    rw [bind_of_ok h]
    rw [h] at hp
    exact hp.trans (hf a t h)
  | error e t =>
    rw [bind_of_error h]
    rw [h] at hp
    exact hp

theorem later_nested {α : Type} {p : Read α} (hp : ∀ s, Later s (stop (p s))) (s : Reading) :
    Later s (stop (nested p s)) := by
  have h := hp { s with depth := s.depth + 1 }
  rcases Nat.lt_or_ge s.depth maxNesting with hlt | hge
  · cases hrun : p { s with depth := s.depth + 1 } with
    | ok a s' =>
      rw [nested_of_ok hlt hrun]
      rw [hrun] at h
      exact h.depth s.depth (s'.depth - 1)
    | error e s' =>
      rw [nested_of_error hlt hrun]
      rw [hrun] at h
      exact h.depth s.depth (s'.depth - 1)
  · rw [nested_too_deep hge]
    exact (Later.refl s).depth s.depth (s.depth + 1)

theorem later_attempt {α : Type} {p : Read α} (hp : ∀ s, Later s (stop (p s))) (s : Reading) :
    Later s (stop (attempt p s)) := by
  have h := hp s
  rw [attempt]
  cases hrun : p s with
  | ok a s' =>
    rw [hrun] at h
    exact h
  | error e s' =>
    rw [hrun] at h
    cases e with
    | grammatical e => exact h.depth s.depth s.depth
    | lexical e | malformed e => exact h

/-- **Reading only goes forward.** -/
theorem Composed.later {α : Type} {p : Read α} (hp : Composed g p) (s : Reading) :
    Later s (stop (p s)) := by
  induction hp generalizing s with
  | pure a => exact .refl s
  | peek => exact .refl s
  | advance => exact later_advance g s
  | fail fault => exact .refl s
  | bind _ _ ihp ihf => exact later_bind (ihp s) fun a t _ => ihf a t
  | nested _ ih => exact later_nested ih s
  | recovering _ _ _ ihp ihnext ihresume =>
    refine later_bind (later_attempt ihp s) fun outcome t _ => ?_
    cases outcome with
    | ok a => exact ihnext a t
    | error e => exact later_bind (later_record e t) fun _ u _ => ihresume u
  | looping _ _ ih => exact ih s.rounds s

theorem Composed.later_of_ok {α : Type} {p : Read α} (hp : Composed g p) {s s' : Reading} {a : α}
    (h : p s = .ok a s') : Later s s' := by
  have hl := hp.later s
  rw [h] at hl
  exact hl

theorem Composed.later_of_error {α : Type} {p : Read α} (hp : Composed g p) {s s' : Reading}
    {e : CompileError} (h : p s = .error e s') : Later s s' := by
  have hl := hp.later s
  rw [h] at hl
  exact hl

end TwinSyntax.Grammar
