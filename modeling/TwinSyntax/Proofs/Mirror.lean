import TwinSyntax.Proofs.Moments

/-!
# Two runs in step

`sml` ends statements with semicolons and does not see line breaks. Take its line breaks away, and
turn its semicolons into line breaks: that is how the same text looks in `myrmidon`. This file
compares a run over tokens of `sml` with a run over their mirror images.

**Mirror images** (`TokenSource.mirrored`). Of a token, of a source, of a state, and of a moment. A
mirrored state has rounds of its own, because there are fewer items.

**In step** (`InStep`). When the one run succeeds without a diagnostic, the other one succeeds with
the same value, and its moments are the mirror images of those of the one. The file has one lemma
for each step that plans are put together from.

Semicolons and line breaks have the same mirror image, so the relation only holds where the current
token is no line break (`Fits`). Taking a token keeps it so.
-/

namespace TwinSyntax

/-! ## Mirror images -/

/-- The kind of token of `myrmidon` that stands where `sml` has one of the kind `kind`. -/
def TokenKind.mirrored : TokenKind → TokenKind
  | semicolon => endOfLine
  | kind => kind

/-- The same token in `myrmidon`. -/
def Token.mirrored (token : Token) : Token := { token with kind := token.kind.mirrored }

/-- The same item in `myrmidon`, where line breaks of `sml` have no place. -/
def TokenItem.mirrored? : TokenItem → Option TokenItem
  | .error e => some (.error e)
  | .ok token => if token.kind = .endOfLine then none else some (.ok token.mirrored)

/-- The same source in `myrmidon`: without line breaks, and with line breaks for semicolons. -/
def TokenSource.mirrored (source : TokenSource) : TokenSource :=
  { source with items := source.items.filterMap TokenItem.mirrored? }

namespace TokenKind

/-- The kinds that play no part in ending statements. -/
def Shared (kind : TokenKind) : Prop := kind ≠ .semicolon ∧ kind ≠ .endOfLine

theorem mirrored_eq_iff {kind shared : TokenKind} (h : shared.Shared) :
    kind.mirrored = shared ↔ kind = shared := by
  by_cases hkind : kind = .semicolon
  · subst hkind
    constructor <;> intro heq
    · exact absurd heq.symm h.2
    · exact absurd heq.symm h.1
  · have hsame : kind.mirrored = kind := by
      cases kind with
      | semicolon => exact absurd rfl hkind
      | _ => rfl
    rw [hsame]

theorem mirrored_eq_endOfLine {kind : TokenKind} (h : kind ≠ .endOfLine) :
    kind.mirrored = .endOfLine ↔ kind = .semicolon := by
  cases kind with
  | endOfLine => exact absurd rfl h
  | _ => simp [mirrored]

theorem Shared.mirrored_ne {kind : TokenKind} (h : kind.Shared) : kind.mirrored ≠ .endOfLine :=
  mt (mirrored_eq_endOfLine h.2).mp h.1

end TokenKind

namespace Grammar

/-- The same state in `myrmidon`, with `rounds` rounds. -/
def Reading.mirrored (rounds : Nat) (s : Reading) : Reading :=
  { s with
    current := s.current.mirrored
    unread := s.unread.filterMap TokenItem.mirrored?
    rounds }

/-- The same moment in `myrmidon`. -/
def Moment.mirrored (rounds : Nat) (m : Moment) : Moment :=
  { m with state := m.state.mirrored rounds }

/-- A state and its mirror image have room for their loops, and the current token is one that `sml`
sees. -/
structure Reading.Fits (rounds : Nat) (s : Reading) : Prop where
  seen : s.current.kind ≠ .endOfLine
  roomy : s.Roomy
  roomy_mirrored : (s.mirrored rounds).Roomy

/-! ## Taking a token -/

variable {endSpan : Span} {locate : Span → Location} {rounds : Nat} {s t : Reading}

/-- Pulling from a mirrored source pulls the mirror image. -/
theorem pull_mirrored (endSpan : Span) (items : List TokenItem) :
    pull .myrmidon endSpan (items.filterMap TokenItem.mirrored?) =
      ((pull .sml endSpan items).1.map Token.mirrored,
        (pull .sml endSpan items).2.filterMap TokenItem.mirrored?) := by
  induction items with
  | nil => rfl
  | cons item items ih =>
    cases item with
    | error e => rfl
    | ok token =>
      by_cases hbreak : token.kind = .endOfLine
      · rw [List.filterMap_cons, TokenItem.mirrored?, if_pos hbreak, pull_ok, if_pos ⟨rfl, hbreak⟩]
        exact ih
      · have hseen : ¬ Surface.sml.Ignores token.kind := fun h => hbreak h.2
        have hseen' : ¬ Surface.myrmidon.Ignores token.mirrored.kind := fun h => nomatch h.1
        rw [List.filterMap_cons, TokenItem.mirrored?, if_neg hbreak, pull_ok, pull_ok, if_neg hseen,
          if_neg hseen']
        rfl

/-- `sml` does not see line breaks. -/
theorem kind_ne_of_pull {items rest : List TokenItem} {token : Token}
    (h : pull .sml endSpan items = (.ok token, rest)) : token.kind ≠ .endOfLine := by
  induction items with
  | nil =>
    cases h
    exact nofun
  | cons item items ih =>
    cases item with
    | error e => cases h
    | ok first =>
      by_cases hbreak : first.kind = .endOfLine
      · rw [pull_ok, if_pos ⟨rfl, hbreak⟩] at h
        exact ih h
      · rw [pull_ok, if_neg fun hskip => hbreak hskip.2] at h
        cases h
        exact hbreak

/-- **A mirrored state takes the mirror image** of the token. -/
theorem advance_mirrored {token : Token} (hs : s.Fits rounds)
    (h : advance ⟨.sml, endSpan, locate⟩ s = .ok token t) :
    token = s.current ∧ t.Fits rounds ∧
      advance ⟨.myrmidon, endSpan, locate⟩ (s.mirrored rounds) =
        .ok s.current.mirrored (t.mirrored rounds) := by
  rcases advance_cases ⟨.sml, endSpan, locate⟩ s with ⟨next, rest, hpull, hrun⟩ | ⟨e, rest, -, hrun⟩
  · have hpull' := pull_mirrored endSpan s.unread
    rw [show pull .sml endSpan s.unread = (.ok next, rest) from hpull] at hpull'
    have hrun' := @advance_of_ok ⟨.myrmidon, endSpan, locate⟩ (s.mirrored rounds) _ _ hpull'
    have hlater := Composed.advance.later_of_ok hrun
    have hlater' := Composed.advance.later_of_ok hrun'
    rw [hrun] at h
    cases h
    exact ⟨rfl, ⟨kind_ne_of_pull hpull, hlater.roomy hs.roomy, hlater'.roomy hs.roomy_mirrored⟩,
      hrun'⟩
  · rw [hrun] at h
    cases h

/-! ## In step -/

/-- A run that ends without diagnostics has none on its way. -/
theorem Plan.diagnostics_of_ok {g : Setting} {α : Type} {p : Read α} (plan : Plan g p) {a : α}
    (h : p s = .ok a t) (ht : t.diagnostics = []) : s.diagnostics = [] := by
  have hprefix := (plan.composed.later_of_ok h).diagnostics
  rw [ht] at hprefix
  exact List.prefix_nil.mp hprefix

/-- A run of `plan` from `s` that succeeds without a diagnostic has a run of `plan'` from the mirror
image of `s` that keeps in step with it. -/
def InStep {g g' : Setting} {α : Type} {p p' : Read α} (rounds : Nat) (plan : Plan g p)
    (plan' : Plan g' p') (s : Reading) : Prop :=
  s.Fits rounds → ∀ a t, p s = .ok a t → t.diagnostics = [] →
    t.Fits rounds ∧ p' (s.mirrored rounds) = .ok a (t.mirrored rounds) ∧
      plan'.moments (s.mirrored rounds) = (plan.moments s).map (Moment.mirrored rounds)

namespace InStep

variable {g g' : Setting} {α β : Type} {p p' : Read α} {plan : Plan g p} {plan' : Plan g' p'}

theorem of_fits (h : s.Fits rounds → InStep rounds plan plan' s) : InStep rounds plan plan' s :=
  fun hs => h hs hs

theorem pure (a : α) :
    InStep rounds (.pure a : Plan g (pure a)) (.pure a : Plan g' (pure a)) s := by
  intro hs b t hrun _
  cases hrun
  exact ⟨hs, rfl, rfl⟩

/-- A run that fails has nothing to keep in step with. -/
theorem fail (fault : SyntaxFault) (h : fault ≠ .noProgram) :
    InStep rounds (.fail fault h : Plan g (@fail α fault)) plan' s := by
  intro _ a t hrun
  cases hrun

theorem unexpected (expecting : Expectation) :
    InStep rounds (.unexpected expecting : Plan g (@unexpected α expecting)) plan' s := by
  intro _ a t hrun
  cases hrun

section Choice

variable {c c' : Prop} [inst : Decidable c] [inst' : Decidable c'] {q q' : Read α}
  {yes : c → Plan g p} {no : ¬ c → Plan g q} {yes' : c' → Plan g' p'} {no' : ¬ c' → Plan g' q'}

theorem left_yes (hc : c) (h : InStep rounds (yes hc) plan' s) :
    InStep rounds (.either yes no) plan' s := by
  cases inst with
  | isTrue _ => exact h
  | isFalse hn => exact absurd hc hn

theorem left_no (hc : ¬ c) (h : InStep rounds (no hc) plan' s) :
    InStep rounds (.either yes no) plan' s := by
  cases inst with
  | isTrue hp => exact absurd hp hc
  | isFalse _ => exact h

theorem right_yes (hc : c') (h : InStep rounds plan (yes' hc) s) :
    InStep rounds plan (.either yes' no') s := by
  cases inst' with
  | isTrue _ => exact h
  | isFalse hn => exact absurd hc hn

theorem right_no (hc : ¬ c') (h : InStep rounds plan (no' hc) s) :
    InStep rounds plan (.either yes' no') s := by
  cases inst' with
  | isTrue hp => exact absurd hp hc
  | isFalse _ => exact h

/-- The same choice is made on both sides. -/
theorem either (hc : c' ↔ c) (hyes : ∀ h h', InStep rounds (yes h) (yes' h') s)
    (hno : ∀ h h', InStep rounds (no h) (no' h') s) :
    InStep rounds (.either yes no) (.either yes' no') s := by
  by_cases h : c
  · exact left_yes h (right_yes (hc.mpr h) (hyes h (hc.mpr h)))
  · have h' : ¬ c' := mt hc.mp h
    exact left_no h (right_no h' (hno h h'))

end Choice

section Bind

variable {f : α → Read β} {f' : α → Read β} {next : (a : α) → Plan g (f a)}
  {next' : (a : α) → Plan g' (f' a)}

theorem bind (h : InStep rounds plan plan' s)
    (hnext : ∀ a t, p s = .ok a t → p' (s.mirrored rounds) = .ok a (t.mirrored rounds) →
      InStep rounds (next a) (next' a) t) :
    InStep rounds (.bind plan next) (.bind plan' next') s := by
  intro hs b u hrun hu
  obtain ⟨a, t, hp, hf⟩ := bind_eq_ok hrun
  have ht := (next a).diagnostics_of_ok hf hu
  obtain ⟨hfits, hp', hmoments⟩ := h hs a t hp ht
  obtain ⟨hfits', hf', hmoments'⟩ := hnext a t hp hp' hfits b u hf hu
  refine ⟨hfits', (bind_of_ok hp').trans hf', ?_⟩
  rw [Plan.moments_bind_of_ok hp', Plan.moments_bind_of_ok hp, hmoments, hmoments', List.map_append]

end Bind

section Peek

variable {f f' : TokenKind → Read α} {next : (kind : TokenKind) → Plan g (f kind)}
  {next' : (kind : TokenKind) → Plan g' (f' kind)}

theorem peek_left (h : InStep rounds (next s.current.kind) plan' s) :
    InStep rounds (.bind .peek next) plan' s := by
  intro hs a t hrun ht
  obtain ⟨hfits, hrun', hmoments⟩ := h hs a t hrun ht
  exact ⟨hfits, hrun', hmoments.trans (congrArg _ Plan.moments_peek.symm)⟩

theorem peek_right (h : InStep rounds plan (next' s.current.kind.mirrored) s) :
    InStep rounds plan (.bind .peek next') s := by
  intro hs a t hrun ht
  obtain ⟨hfits, hrun', hmoments⟩ := h hs a t hrun ht
  exact ⟨hfits, hrun', Plan.moments_peek.trans hmoments⟩

theorem peek (h : InStep rounds (next s.current.kind) (next' s.current.kind.mirrored) s) :
    InStep rounds (.bind .peek next) (.bind .peek next') s :=
  peek_left (peek_right h)

end Peek

section Token

variable {q q' : Read Token} {first : Plan ⟨.sml, endSpan, locate⟩ q}
  {first' : Plan ⟨.myrmidon, endSpan, locate⟩ q'} {f f' : Token → Read α}
  {next : (token : Token) → Plan ⟨.sml, endSpan, locate⟩ (f token)}
  {next' : (token : Token) → Plan ⟨.myrmidon, endSpan, locate⟩ (f' token)}

/-- Both runs take a token. -/
theorem token (hq : q s = advance ⟨.sml, endSpan, locate⟩ s)
    (hfirst : first.moments s = [⟨.take, s⟩])
    (hq' : q' (s.mirrored rounds) = advance ⟨.myrmidon, endSpan, locate⟩ (s.mirrored rounds))
    (hfirst' : first'.moments (s.mirrored rounds) = [⟨.take, s.mirrored rounds⟩])
    (hnext : ∀ t, advance ⟨.sml, endSpan, locate⟩ s = .ok s.current t →
      advance ⟨.myrmidon, endSpan, locate⟩ (s.mirrored rounds) =
        .ok s.current.mirrored (t.mirrored rounds) →
      InStep rounds (next s.current) (next' s.current.mirrored) t) :
    InStep rounds (.bind first next) (.bind first' next') s := by
  intro hs b u hrun hu
  obtain ⟨token, t, htake, hf⟩ := bind_eq_ok hrun
  rw [hq] at htake
  obtain ⟨rfl, hfits, htake'⟩ := advance_mirrored hs htake
  obtain ⟨hfits', hf', hmoments⟩ := hnext t htake htake' hfits b u hf hu
  refine ⟨hfits', (bind_of_ok (hq'.trans htake')).trans hf', ?_⟩
  rw [Plan.moments_bind_of_ok (hq.trans htake), Plan.moments_bind_of_ok (hq'.trans htake'), hfirst,
    hfirst', hmoments]
  rfl

theorem take (hnext : ∀ t, advance ⟨.sml, endSpan, locate⟩ s = .ok s.current t →
      advance ⟨.myrmidon, endSpan, locate⟩ (s.mirrored rounds) =
        .ok s.current.mirrored (t.mirrored rounds) →
      InStep rounds (next s.current) (next' s.current.mirrored) t) :
    InStep rounds (.bind .advance next) (.bind .advance next') s :=
  token rfl rfl rfl rfl hnext

theorem expect {kind : TokenKind} {expecting : Expectation} (hkind : kind.Shared)
    (hnext : ∀ t, InStep rounds (next s.current) (next' s.current.mirrored) t) :
    InStep rounds (.bind (.expect kind expecting) next) (.bind (.expect kind expecting) next')
      s := by
  by_cases h : s.current.kind = kind
  · have h' : (s.mirrored rounds).current.kind = kind := (TokenKind.mirrored_eq_iff hkind).mpr h
    exact token (expect_of_eq h) (Plan.moments_expect h) (expect_of_eq h') (Plan.moments_expect h')
      fun t _ _ => hnext t
  · intro _ b u hrun
    rw [bind_of_error (expect_of_ne h)] at hrun
    cases hrun

end Token

theorem nested (h : InStep rounds plan plan' { s with depth := s.depth + 1 }) :
    InStep rounds (.nested plan) (.nested plan') s := by
  intro hs a t hrun ht
  rcases Nat.lt_or_ge s.depth maxNesting with hlt | hge
  · cases hp : p { s with depth := s.depth + 1 } with
    | error e u =>
      rw [nested_of_error hlt hp] at hrun
      cases hrun
    | ok b u =>
      rw [nested_of_ok hlt hp] at hrun
      cases hrun
      obtain ⟨hfits, hp', hmoments⟩ := h ⟨hs.seen, hs.roomy, hs.roomy_mirrored⟩ _ u hp ht
      have hlt' : (s.mirrored rounds).depth < maxNesting := hlt
      refine ⟨⟨hfits.seen, hfits.roomy, hfits.roomy_mirrored⟩, nested_of_ok hlt' hp', ?_⟩
      have hp' : p' { s.mirrored rounds with depth := (s.mirrored rounds).depth + 1 } = _ := hp'
      rw [Plan.moments_nested hlt, Plan.moments_nested hlt', hp, hp', List.map_cons,
        List.map_append, ← hmoments]
      rfl
  · rw [nested_too_deep hge] at hrun
    cases hrun

section Loops

variable {next : α → Read β} {next' : α → Read β} {resume resume' : Read β}
  {planNext : (a : α) → Plan g (next a)} {planNext' : (a : α) → Plan g' (next' a)}
  {planResume : Plan g resume} {planResume' : Plan g' resume'}

theorem recovering (h : InStep rounds plan plan' s)
    (hnext : ∀ a t, p s = .ok a t → p' (s.mirrored rounds) = .ok a (t.mirrored rounds) →
      InStep rounds (planNext a) (planNext' a) t) :
    InStep rounds (.recovering plan planNext planResume) (.recovering plan' planNext' planResume')
      s := by
  intro hs b u hrun hu
  cases hp : p s with
  | ok a t =>
    rw [recovering_of_ok hp] at hrun
    have ht := (planNext a).diagnostics_of_ok hrun hu
    obtain ⟨hfits, hp', hmoments⟩ := h hs a t hp ht
    obtain ⟨hfits', hrun', hmoments'⟩ := hnext a t hp hp' hfits b u hrun hu
    refine ⟨hfits', (recovering_of_ok hp').trans hrun', ?_⟩
    rw [Plan.moments_recovering_of_ok hp, Plan.moments_recovering_of_ok hp', hmoments, hmoments',
      List.map_append]
  | error e t =>
    cases e with
    | lexical e | malformed e =>
      rw [recovering_of_error hp (by simp)] at hrun
      cases hrun
    | grammatical e =>
      -- a recovery leaves a diagnostic behind
      rw [recovering_of_grammatical hp] at hrun
      obtain ⟨_, v, hrecord, hresume⟩ := bind_eq_ok hrun
      have hnone := planResume.diagnostics_of_ok hresume hu
      rcases record_cases e { t with depth := s.depth } with
          ⟨v', hrecord', rfl⟩ | ⟨e', v', hrecord', -⟩
      · rw [hrecord] at hrecord'
        cases hrecord'
        simp at hnone
      · rw [hrecord] at hrecord'
        cases hrecord'

/-- A loop that is in step for the rounds of the two states. -/
theorem looping {loop loop' : Nat → Read α} {plan : (n : Nat) → Plan g (loop n)}
    {plan' : (n : Nat) → Plan g' (loop' n)} {settled : Settled loop} {settled' : Settled loop'}
    (h : InStep rounds (plan s.rounds) (plan' rounds) s) :
    InStep rounds (.looping plan settled) (.looping plan' settled') s := h

end Loops

end InStep

end Grammar

end TwinSyntax
