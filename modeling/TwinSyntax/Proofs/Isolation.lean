import TwinSyntax.Proofs.Acceptance
import TwinSyntax.Proofs.Parallel

/-!
# Recovery isolates statements

Cut a sequence of tokens behind every terminator. Without braces, each segment is read as if it were
alone: a segment that is wrong has one error, which neither hides nor causes one in another segment.

The proof reads a segment twice, alone and in its place (`Parallel`). Inside, both runs do the same;
behind a first error, both skip to the terminator (`near_skip`). So the list of the whole goes on at
the next segment, where the one of the segment alone is done (`segment_cases`).

**Theorem (`recovery_isolates`).** The diagnostics of the whole are those of its bad segments, up to
the limit.
-/

namespace TwinSyntax

open Phrases

/-! ## Segments -/

/-- The tokens, cut behind every terminator. -/
def segments (surface : Surface) : List Token → List (List Token)
  | [] => []
  | token :: rest =>
    if token.kind = surface.terminator then [token] :: segments surface rest
    else
      match segments surface rest with
      | [] => [[token]]
      | first :: others => (token :: first) :: others

namespace Grammar

/-- Every word is a segment in front of the words behind it. -/
inductive Cut (surface : Surface) : List (List Token) → Prop
  | nil : Cut surface []
  | cons {word : List Token} {others : List (List Token)} :
      word ≠ [] → Segment surface others.flatten word → Cut surface others →
      Cut surface (word :: others)

/-- Cutting loses nothing, and yields segments. -/
theorem cut_segments (surface : Surface) {tokens : List Token}
    (h : ∀ token ∈ tokens, token.kind ≠ .openBrace) :
    (segments surface tokens).flatten = tokens ∧ Cut surface (segments surface tokens) := by
  induction tokens with
  | nil => exact ⟨rfl, .nil⟩
  | cons token rest ih =>
    rw [List.forall_mem_cons] at h
    obtain ⟨hflatten, hcut⟩ := ih h.2
    rw [segments]
    split
    · next hkind =>
      exact ⟨congrArg (token :: ·) hflatten, .cons (List.cons_ne_nil _ _) (.finished hkind) hcut⟩
    · next hkind =>
      split
      · next hnone =>
        rw [hnone] at hflatten
        refine ⟨congrArg (token :: ·) hflatten, .cons (List.cons_ne_nil _ _) ?_ .nil⟩
        exact .cons hkind h.1 (.unfinished rfl)
      · next first others hsome =>
        rw [hsome] at hflatten hcut
        cases hcut with
        | cons _ hsegment hothers =>
          exact ⟨congrArg (token :: ·) hflatten,
            .cons (List.cons_ne_nil _ _) (.cons hkind h.1 hsegment) hothers⟩

/-! ## One segment -/

variable {g : Setting} {D D' : List CompileError} {rest : List Token} {s s' t t' : Reading}

/-- A segment, ahead in its place and alone. -/
theorem near_of_ahead {word : List Token} (hne : word ≠ []) (hsegment : Segment g.surface rest word)
    (hs : Side g D s) (hs' : Side g D' s') (hdepth : s.depth = s'.depth)
    (hahead : s.ahead g = word ++ rest) (hahead' : s'.ahead g = word) : Near g D D' rest s s' := by
  refine ⟨hs, hs', ?_, hdepth, ?_, hahead' ▸ hsegment⟩
  · obtain ⟨token, tail, rfl⟩ := List.exists_cons_of_ne_nil hne
    rw [current_of_ahead hahead, current_of_ahead hahead']
  · rw [hahead, hahead']

/-- Another diagnostic on each side. -/
theorem Near.recorded (h : Near g D D' rest s s') (e : SyntaxError) :
    Near g (D ++ [CompileError.grammatical e]) (D' ++ [CompileError.grammatical e]) rest
      (s.recorded e) (s'.recorded e) := by
  obtain ⟨⟨hroomy, hplain, hatEnd, hD⟩, ⟨hroomy', hplain', hatEnd', hD'⟩, hcurrent, hdepth, hahead,
    hsegment⟩ := h
  refine ⟨⟨hroomy, hplain, hatEnd, ?_⟩, ⟨hroomy', hplain', hatEnd', ?_⟩, hcurrent, hdepth, hahead,
    hsegment⟩
  · rw [← hD]
    rfl
  · rw [← hD']
    rfl

/-- Giving up a statement takes the rest of the segment. -/
theorem near_skip {n n' : Nat} (h : Near g D D' rest s s') (hn : s.remaining < n)
    (hn' : s'.remaining < n') : ∃ t t', skipStatement g .endOfFile n s = .ok () t ∧
      skipStatement g .endOfFile n' s' = .ok () t' ∧ Over g D D' rest t t' ∧ t.depth = s.depth := by
  induction n generalizing n' s s' with
  | zero => omega
  | succ n ih =>
    obtain ⟨n', rfl⟩ := Nat.exists_eq_add_one_of_ne_zero (show n' ≠ 0 by omega)
    rw [skipStatement, skipStatement, peek_bind, peek_bind, ← h.current]
    split
    · next hterminator =>
      obtain ⟨t, t', hadv, hadv', hover, hdepth⟩ := h.finish hterminator
      rw [bind_of_ok hadv, bind_of_ok hadv']
      exact ⟨t, t', rfl, rfl, hover, hdepth⟩
    · next hterminator =>
      split
      · next hstop => exact ⟨s, s', rfl, rfl, h.over (hstop.elim id id), rfl⟩
      · next hstop =>
        have hend : s.current.kind ≠ .endOfFile := fun hend => hstop (.inl hend)
        obtain ⟨t, t', hadv, hadv', hnear, hdepth⟩ := h.take hterminator hend
        have hlt := eager_advance hend _ _ hadv
        have hlt' := eager_advance (h.current ▸ hend) _ _ hadv'
        rw [bind_of_ok hadv, bind_of_ok hadv', ← hdepth]
        exact ih hnear (by omega) (by omega)

section Lists

variable {deeper : Deeper} {plans : Plans g deeper}

/-- What a list of statements makes of a segment: the run over the segment alone is done, and the
run over the whole is at the rest, or has given up. -/
inductive SegmentEnds (g : Setting) (deeper : Deeper) (D : List CompileError) (rest : List Token)
    (depth : Nat) : EStateM.Result CompileError Reading Node →
    EStateM.Result CompileError Reading Node → Prop
  | fine {list : Option Node} {tree : Node} {t t' : Reading} :
      Over g D [] rest t t' → t.depth = depth →
      SegmentEnds g deeper D rest depth (listFrom g deeper .endOfFile list t) (.ok tree t')
  | bad {e : SyntaxError} {list : Option Node} {tree : Node} {t t' : Reading} :
      Over g (D ++ [.grammatical e]) [.grammatical e] rest t t' → t.depth = depth →
      D.length + 1 < maxDiagnostics →
      SegmentEnds g deeper D rest depth (listFrom g deeper .endOfFile list t) (.ok tree t')
  | gaveUp {e : SyntaxError} {tree : Node} {t t' : Reading} :
      Side g [.grammatical e] t' → t'.current.kind = .endOfFile → D.length + 1 = maxDiagnostics →
      t.diagnostics = D ++ [.grammatical e] →
      SegmentEnds g deeper D rest depth
        (.error (.grammatical ⟨e.span, .tooManyErrors⟩) t) (.ok tree t')

/-- **Behind its first error**, a segment is over in both runs. -/
theorem segment_failed (plans : Plans g deeper) {e : SyntaxError}
    (h : Near g D [] rest s s') (hD : D.length < maxDiagnostics)
    (hend : s'.current.kind ≠ .endOfFile) (hnear : Near g D [] rest t t')
    (hspan : e.span = t.current.span) (hrun : listed g deeper s = .error (.grammatical e) t)
    (hrun' : listed g deeper s' = .error (.grammatical e) t') (list list' : Option Node) :
    SegmentEnds g deeper D rest s.depth (listFrom g deeper .endOfFile list s)
      (listFrom g deeper .endOfFile list' s') := by
  have hstop' : ¬ (s'.current.kind = .endOfFile ∨ s'.current.kind = .endOfFile) := by
    simpa using hend
  have hstop : ¬ (s.current.kind = .endOfFile ∨ s.current.kind = .endOfFile) := by
    rw [h.current]
    exact hstop'
  have hstopped := (hnear.atDepth h.depth).recorded e
  obtain ⟨u, u', hskip, hskip', hover, hdepth⟩ :=
    near_skip hstopped hstopped.side.roomy hstopped.side'.roomy
  have hopen : ({ t with depth := s.depth } : Reading).Open := by
    rw [Reading.Open, (hnear.side.atDepth s.depth).diagnostics]
    exact hD
  have hopen' : ({ t' with depth := s'.depth } : Reading).Open := by
    rw [Reading.Open, (hnear.side'.atDepth s'.depth).diagnostics]
    decide
  have hcount := congrArg List.length hstopped.side.diagnostics
  have hcount' := congrArg List.length hstopped.side'.diagnostics
  rw [List.length_append, List.length_singleton] at hcount hcount'
  -- the segment alone has room for its error
  have halone : listFrom g deeper .endOfFile list' s' = .ok (list'.getD .eos) u' := by
    rcases record_of_open hopen' e with ⟨-, hrecord'⟩ | ⟨hfull, -⟩
    · rw [listFrom_failed plans h.side'.roomy hstop' hrun' hrecord' hskip']
      exact listFrom_done hover.side'.roomy (.inl hover.isOver)
    · exact absurd (hcount'.symm.trans hfull) (by decide)
  rw [halone]
  rcases record_of_open hopen e with ⟨hroom, hrecord⟩ | ⟨hfull, hrecord⟩
  · rw [listFrom_failed plans h.side.roomy hstop hrun hrecord hskip]
    exact .bad hover hdepth (hcount ▸ hroom)
  · rw [listFrom_gaveUp h.side.roomy hstop hrun hrecord]
    have hgave : (⟨t.current.span, .tooManyErrors⟩ : SyntaxError) = ⟨e.span, .tooManyErrors⟩ := by
      rw [hspan]
    rw [hgave]
    exact .gaveUp hover.side' hover.isOver (hcount.symm.trans hfull) hstopped.side.diagnostics

/-- **One segment**, read alone and in its place. -/
theorem segment_cases (hlike : ∀ kind,
      Alike (.same g) true kind kind (Likeness.same g).node (planListed plans) (planListed plans))
    (hrest : ∀ token ∈ rest, token.kind ≠ .endOfFile) (helse : front rest .endOfFile ≠ .elseWord)
    (h : Near g D [] rest s s') (hD : D.length < maxDiagnostics) (list list' : Option Node) :
    SegmentEnds g deeper D rest s.depth (listFrom g deeper .endOfFile list s)
      (listFrom g deeper .endOfFile list' s') := by
  induction hn : s'.remaining using Nat.strongRecOn generalizing s s' list list' with
  | ind n ih =>
    by_cases hend : s'.current.kind = .endOfFile
    · have hover := h.over (h.current ▸ hend)
      rw [listFrom_done h.side'.roomy (.inl hend)]
      exact .fine hover rfl
    · have hstop' : ¬ (s'.current.kind = .endOfFile ∨ s'.current.kind = .endOfFile) :=
        fun hstop => hend (hstop.elim id id)
      have hstop : ¬ (s.current.kind = .endOfFile ∨ s.current.kind = .endOfFile) := by
        rw [h.current]
        exact hstop'
      have hparallel := (hlike s.current.kind).parallel hrest helse (.inl h) rfl
        (congrArg Token.kind h.current.symm)
      generalize hrun : listed g deeper s = r at hparallel
      generalize hrun' : listed g deeper s' = r' at hparallel
      cases hparallel with
      | inside hnear hdepth _ =>
        have hlt := eager_listed plans s' _ _ hrun'
        rw [listFrom_ok plans h.side.roomy hstop hrun,
          listFrom_ok plans h.side'.roomy hstop' hrun', ← hdepth]
        exact ih _ (hn ▸ hlt) hnear _ _ rfl
      | behind hover hdepth _ _ =>
        rw [listFrom_ok plans h.side.roomy hstop hrun,
          listFrom_ok plans h.side'.roomy hstop' hrun',
          listFrom_done hover.side'.roomy (.inl hover.isOver)]
        exact .fine hover hdepth
      | failed hnear hspan =>
        exact segment_failed plans h hD hend hnear hspan hrun hrun' list list'

end Lists

/-! ## Segments one after another -/

/-- The segments that are not read without diagnostics. -/
def badSegments (diagnose : List Token → List CompileError) (words : List (List Token)) :
    List (List Token) :=
  words.filter fun word => !(diagnose word).isEmpty

section Bad

variable {diagnose : List Token → List CompileError} {word : List Token} {words : List (List Token)}

theorem badSegments_fine (h : diagnose word = []) :
    badSegments diagnose (word :: words) = badSegments diagnose words :=
  List.filter_cons_of_neg (by simp [h])

theorem badSegments_bad {e : CompileError} (h : diagnose word = [e]) :
    badSegments diagnose (word :: words) = word :: badSegments diagnose words :=
  List.filter_cons_of_pos (by simp [h])

/-- What a list makes of segments, if `diagnose` says what becomes of each alone. -/
structure ListOf (g : Setting) (diagnose : List Token → List CompileError)
    (words : List (List Token)) (D : List CompileError)
    (r : EStateM.Result CompileError Reading Node) : Prop where
  one : ∀ word ∈ words, (diagnose word).length ≤ 1
  few : D.length + (badSegments diagnose words).length < maxDiagnostics →
    ∃ tree t, r = .ok tree t ∧ t.current.kind = .endOfFile ∧
      Side g (D ++ (badSegments diagnose words).flatMap diagnose) t
  many : maxDiagnostics ≤ D.length + (badSegments diagnose words).length →
    ∃ e t, r = .error (.grammatical e) t ∧ e.fault = .tooManyErrors ∧ t.diagnostics =
      D ++ ((badSegments diagnose words).take (maxDiagnostics - D.length)).flatMap diagnose

theorem ListOf.fine {r : EStateM.Result CompileError Reading Node} (h : ListOf g diagnose words D r)
    (hword : diagnose word = []) : ListOf g diagnose (word :: words) D r := by
  refine ⟨?_, ?_, ?_⟩
  · rw [List.forall_mem_cons, hword]
    exact ⟨Nat.zero_le _, h.one⟩
  · rw [badSegments_fine hword]
    exact h.few
  · rw [badSegments_fine hword]
    exact h.many

theorem ListOf.bad {r : EStateM.Result CompileError Reading Node} {e : CompileError}
    (h : ListOf g diagnose words (D ++ [e]) r) (hword : diagnose word = [e])
    (hD : D.length < maxDiagnostics) : ListOf g diagnose (word :: words) D r := by
  have hlength : (D ++ [e]).length = D.length + 1 := List.length_append
  refine ⟨?_, ?_, ?_⟩
  · rw [List.forall_mem_cons, hword]
    exact ⟨Nat.le_refl 1, h.one⟩
  · rw [badSegments_bad hword, List.length_cons, List.flatMap_cons, hword, ← List.append_assoc]
    intro hlt
    exact h.few (by omega)
  · rw [badSegments_bad hword, List.length_cons]
    intro hle
    obtain ⟨e', t, hrun, hfault, hdiagnostics⟩ := h.many (by omega)
    refine ⟨e', t, hrun, hfault, ?_⟩
    have htake : maxDiagnostics - D.length = maxDiagnostics - (D ++ [e]).length + 1 := by omega
    rw [hdiagnostics, htake, List.take_succ_cons, List.flatMap_cons, hword, List.append_assoc]

theorem ListOf.gaveUp {t : Reading} {e e' : SyntaxError} (hfault : e'.fault = .tooManyErrors)
    (hword : diagnose word = [.grammatical e]) (hone : ∀ word ∈ words, (diagnose word).length ≤ 1)
    (hD : D.length + 1 = maxDiagnostics) (ht : t.diagnostics = D ++ [.grammatical e]) :
    ListOf g diagnose (word :: words) D (.error (.grammatical e') t) := by
  refine ⟨?_, ?_, ?_⟩
  · rw [List.forall_mem_cons, hword]
    exact ⟨Nat.le_refl 1, hone⟩
  · rw [badSegments_bad hword, List.length_cons]
    intro hlt
    omega
  · rw [badSegments_bad hword]
    intro _
    have htake : maxDiagnostics - D.length = 1 := by omega
    refine ⟨e', t, rfl, hfault, ?_⟩
    rw [ht, htake, List.take_one, List.head?_cons, Option.toList_some, List.flatMap_singleton,
      hword]

end Bad

end Grammar

open Grammar

/-! ## Sources -/

namespace TokenSource

/-- Everything that is wrong with a source, in the order in which it is found. -/
def diagnostics (source : TokenSource) (surface : Surface) : List CompileError :=
  match Reader.start surface source with
  | .ok reader => reader.program.1.diagnostics
  | .error e => [e]

/-- The same source with other tokens. -/
def withTokens (source : TokenSource) (tokens : List Token) : TokenSource :=
  { source with items := tokens.map .ok }

variable {surface : Surface} {source : TokenSource}

/-- Without lexical errors, reading starts. -/
theorem start_of_plain (surface : Surface) (h : Plain source.items) :
    ∃ reader, Reader.start surface source = .ok reader ∧
    reader.setting = source.setting surface ∧ Side (source.setting surface) [] reader.state ∧
    reader.state.depth = 0 ∧
    reader.state.ahead (source.setting surface) = seen surface source.items := by
  obtain ⟨first, rest, hpull, hplain, hatEnd⟩ := pull_plain surface source.endSpan h
  refine ⟨⟨surface, source.endSpan, source.locate, ⟨first, rest, 0, [], rest.length + 2⟩⟩, ?_, rfl,
    ⟨?_, hplain, hatEnd, rfl⟩, rfl, ?_⟩
  · rw [Reader.start, hpull]
  · exact Nat.lt_succ_of_le (Reading.remaining_le _)
  · rw [seen_of_pull hpull]
    rfl

section List

variable {g : Setting} {reader : Reader} {t : Reading}

/-- The diagnostics of a source, if the list of its statements ends at the end of the file. -/
theorem diagnostics_of_ok (hstart : Reader.start surface source = .ok reader)
    (hsetting : reader.setting = g) {D : List CompileError} {tree : Node}
    (hrun : listFrom g (level g maxNesting) .endOfFile none reader.state = .ok tree t)
    (hend : t.current.kind = .endOfFile) (hside : Side g D t) : source.diagnostics surface = D := by
  subst hsetting
  obtain ⟨u, hadv, hside', -⟩ := hside.advance
  have hlist : (level reader.setting (maxNesting + 1)).statements .endOfFile reader.state =
      .ok tree t := hrun
  have hwhole : wholeFile reader.setting reader.state = .ok tree u := by
    rw [wholeFile, bind_of_ok hlist, bind_of_ok ((expect_of_eq hend).trans hadv)]
    rfl
  rw [diagnostics, hstart]
  dsimp only
  rw [Reader.program_of_ok hwhole, hside'.diagnostics]

theorem diagnostics_of_error (hstart : Reader.start surface source = .ok reader)
    (hsetting : reader.setting = g) {e : CompileError}
    (hrun : listFrom g (level g maxNesting) .endOfFile none reader.state = .error e t) :
    source.diagnostics surface = t.diagnostics ++ [e] := by
  subst hsetting
  have hlist : (level reader.setting (maxNesting + 1)).statements .endOfFile reader.state =
      .error e t := hrun
  have hwhole : wholeFile reader.setting reader.state = .error e t := by
    rw [wholeFile, bind_of_error hlist]
  rw [diagnostics, hstart]
  dsimp only
  rw [Reader.program_of_error hwhole]

end List

theorem plain_withTokens {tokens : List Token} (h : ∀ token ∈ tokens, token.kind ≠ .endOfFile) :
    Plain (source.withTokens tokens).items := by
  intro item hitem
  obtain ⟨token, htoken, rfl⟩ := List.mem_map.mp hitem
  exact ⟨token, rfl, h token htoken⟩

/-- Reading tokens that the grammar sees starts in front of them. -/
theorem start_withTokens (source : TokenSource) {tokens : List Token}
    (h : ∀ token ∈ tokens, Ordinary surface token) :
    ∃ reader, Reader.start surface (source.withTokens tokens) = .ok reader ∧
      reader.setting = source.setting surface ∧ Side (source.setting surface) [] reader.state ∧
      reader.state.depth = 0 ∧ reader.state.ahead (source.setting surface) = tokens := by
  obtain ⟨reader, hstart, hsetting, hside, hzero, hseen⟩ :=
    (source.withTokens tokens).start_of_plain surface
      (plain_withTokens fun token htoken => (h token htoken).1)
  exact ⟨reader, hstart, hsetting, hside, hzero, hseen.trans (seen_ordinary h)⟩

end TokenSource

section Sources

variable {surface : Surface} {source : TokenSource}

/-- What follows a segment is the next one. -/
theorem front_flatten_ne {words : List (List Token)} (hcut : Cut surface words)
    (helse : ∀ word ∈ words, front word .endOfFile ≠ .elseWord) :
    front words.flatten .endOfFile ≠ .elseWord := by
  cases hcut with
  | nil => exact nofun
  | @cons word others hne _ _ =>
    rw [List.flatten_cons, front_append_of_ne_nil hne _ _ .endOfFile]
    exact helse word List.mem_cons_self

/-- **All segments**, read as one list. -/
theorem listOf_segments {words : List (List Token)} (hcut : Cut surface words)
    (hordinary : ∀ word ∈ words, ∀ token ∈ word, Ordinary surface token)
    (helse : ∀ word ∈ words, front word .endOfFile ≠ .elseWord) {D : List CompileError}
    {s : Reading} (hs : Side (source.setting surface) D s) (hdepth : s.depth = 0)
    (hahead : s.ahead (source.setting surface) = words.flatten) (hD : D.length < maxDiagnostics)
    (list : Option Node) :
    ListOf (source.setting surface) (fun word => (source.withTokens word).diagnostics surface)
      words D (listFrom (source.setting surface) (level (source.setting surface) maxNesting)
        .endOfFile list s) := by
  induction hcut generalizing D s list with
  | nil =>
    have hend : s.current.kind = .endOfFile := by
      rw [← front_ahead (source.setting surface) s, hahead]
      rfl
    refine ⟨by simp, fun _ => ?_, fun hle => ?_⟩
    · rw [listFrom_done hs.roomy (.inl hend)]
      refine ⟨_, _, rfl, hend, ?_⟩
      simpa [badSegments] using hs
    · simp only [badSegments, List.filter_nil, List.length_nil] at hle
      omega
  | @cons word others hne hsegment hothers ih =>
    rw [List.forall_mem_cons] at hordinary helse
    have hfront := front_flatten_ne hothers helse.2
    have hrest : ∀ token ∈ others.flatten, Ordinary surface token := by
      intro token htoken
      obtain ⟨word', hword', hmem⟩ := List.mem_flatten.mp htoken
      exact hordinary.2 word' hword' token hmem
    obtain ⟨reader, hstart, hsetting, hside, hzero, hahead'⟩ := source.start_withTokens hordinary.1
    have hnear : Near (source.setting surface) D [] others.flatten s reader.state :=
      near_of_ahead hne hsegment hs hside (hdepth.trans hzero.symm) hahead hahead'
    have hrules : AlikeRules (.same (source.setting surface)) (plansLevel _ maxNesting)
        (plansLevel _ maxNesting) := alike_level maxNesting
    have hends : SegmentEnds _ _ D others.flatten s.depth
        (listFrom (source.setting surface) (level (source.setting surface) maxNesting) .endOfFile
          list s)
        (listFrom (source.setting surface) (level (source.setting surface) maxNesting) .endOfFile
          none reader.state) :=
      segment_cases (alike_listed hrules) (fun token h => (hrest token h).1) hfront hnear hD
        list none
    generalize hrun' : listFrom _ _ .endOfFile none reader.state = r' at hends
    generalize listFrom _ _ .endOfFile list s = r at hends ⊢
    cases hends with
    | fine hover hdepth' =>
      have hword := TokenSource.diagnostics_of_ok hstart hsetting hrun' hover.isOver hover.side'
      exact (ih hordinary.2 helse.2 hover.side (hdepth'.trans hdepth) hover.ahead hD _).fine hword
    | @bad e _ _ _ _ hover hdepth' hroom =>
      have hword := TokenSource.diagnostics_of_ok hstart hsetting hrun' hover.isOver hover.side'
      have hD' : (D ++ [CompileError.grammatical e]).length < maxDiagnostics := by
        rw [List.length_append]
        exact hroom
      exact (ih hordinary.2 helse.2 hover.side (hdepth'.trans hdepth) hover.ahead hD' _).bad hword
        hD
    | gaveUp hside' hover hfull hdiagnostics =>
      have hword := TokenSource.diagnostics_of_ok hstart hsetting hrun' hover hside'
      -- the segments behind the last one that is read are still one list of their own
      obtain ⟨_, -, -, hside'', hzero', hahead''⟩ := source.start_withTokens hrest
      have hone := (ih hordinary.2 helse.2 hside'' hzero' hahead'' (by decide) none).one
      exact ListOf.gaveUp rfl hword hone hfull hdiagnostics

/-- Segments are made of the tokens that were cut. -/
theorem mem_of_mem_segments {tokens word : List Token} {token : Token}
    (hflatten : (segments surface tokens).flatten = tokens) (hword : word ∈ segments surface tokens)
    (htoken : token ∈ word) : token ∈ tokens := by
  rw [← hflatten]
  exact List.mem_flatten.mpr ⟨word, hword, htoken⟩

end Sources

/-- **Recovery isolates statements.** Take any tokens without braces, followed by the end of the
file, and cut what the grammar sees of them behind every terminator. If no segment starts with
`else`, then each of them on its own has at most one diagnostic, and the whole has those of its bad
segments, in order. With `maxDiagnostics` bad segments, the rest is not read any more. -/
theorem recovery_isolates {surface : Surface} (source : TokenSource) {tokens : List Token}
    (hplain : ∀ token ∈ tokens,
      token.kind ≠ .openBrace ∧ token.kind ≠ .closeBrace ∧ token.kind ≠ .endOfFile) :
    let words := segments surface (tokens.filter fun token => ¬ surface.Ignores token.kind)
    let diagnose := fun word => (source.withTokens word).diagnostics surface
    let bad := badSegments diagnose words
    (∀ word ∈ words, ∀ token, word.head? = some token → token.kind ≠ .elseWord) →
    (∀ word ∈ words, (diagnose word).length ≤ 1) ∧
    (bad.length < maxDiagnostics → diagnose tokens = bad.flatMap diagnose) ∧
    (maxDiagnostics ≤ bad.length → ∃ e, e.fault = .tooManyErrors ∧
      diagnose tokens = (bad.take maxDiagnostics).flatMap diagnose ++ [.grammatical e]) := by
  intro words diagnose bad helse
  have hvisible : ∀ token ∈ tokens.filter fun token => ¬ surface.Ignores token.kind,
      token.kind ≠ .openBrace ∧ Ordinary surface token := by
    intro token htoken
    obtain ⟨hmem, hskip⟩ := List.mem_filter.mp htoken
    exact ⟨(hplain token hmem).1, (hplain token hmem).2.2, by simpa using hskip⟩
  obtain ⟨hflatten, hcut⟩ := cut_segments surface fun token htoken => (hvisible token htoken).1
  have hordinary : ∀ word ∈ words, ∀ token ∈ word, Ordinary surface token :=
    fun word hword token htoken =>
    (hvisible token (mem_of_mem_segments hflatten hword htoken)).2
  have hfront : ∀ word ∈ words, front word .endOfFile ≠ .elseWord := by
    intro word hword
    cases hw : word with
    | nil => exact nofun
    | cons token rest => exact helse word hword token (by rw [hw]; rfl)
  obtain ⟨reader, hstart, hsetting, hside, hzero, hseen⟩ :=
    (source.withTokens tokens).start_of_plain surface
      (TokenSource.plain_withTokens fun token h => (hplain token h).2.2)
  have hahead : reader.state.ahead (source.setting surface) = words.flatten := by
    have hends : ∀ token ∈ ([] : List Token), token.kind = .endOfFile := List.forall_mem_nil _
    have hmap := @seen_map surface tokens [] (fun token h => (hplain token h).2.2) hends
    rw [List.append_nil] at hmap
    exact hseen.trans (hmap.trans hflatten.symm)
  have hlist : ListOf _ diagnose words [] _ :=
    listOf_segments hcut hordinary hfront hside hzero hahead (by decide) none
  refine ⟨hlist.one, fun hfew => ?_, fun hmany => ?_⟩
  · obtain ⟨tree, t, hrun, hend, hside'⟩ := hlist.few (by rwa [List.length_nil, Nat.zero_add])
    exact TokenSource.diagnostics_of_ok hstart hsetting hrun hend hside'
  · obtain ⟨e, t, hrun, hfault, hdiagnostics⟩ :=
      hlist.many (by rwa [List.length_nil, Nat.zero_add])
    refine ⟨e, hfault, ?_⟩
    rw [List.nil_append, List.length_nil, Nat.sub_zero] at hdiagnostics
    rw [← hdiagnostics]
    exact TokenSource.diagnostics_of_error hstart hsetting hrun

/-- Of three lines, the first and the last one are wrong. -/
theorem recovery_isolates_two_of_three :
    let endOfLine : Token := ⟨.endOfLine, ⟨1, 4, 5⟩⟩
    let wrong : List Token := [⟨.identifier "a", ⟨1, 1, 2⟩⟩, ⟨.plus, ⟨1, 2, 3⟩⟩, endOfLine]
    let fine : List Token := [⟨.integer 1, ⟨2, 1, 2⟩⟩, endOfLine]
    let stray : List Token := [⟨.closeParen, ⟨3, 1, 2⟩⟩, endOfLine]
    let source : TokenSource := ⟨[], ⟨4, 1, 1⟩, fun span => ⟨span, ""⟩⟩
    (source.withTokens (wrong ++ (fine ++ stray))).diagnostics .myrmidon =
      (source.withTokens wrong).diagnostics .myrmidon ++
        (source.withTokens stray).diagnostics .myrmidon := by
  intro endOfLine wrong fine stray source
  obtain ⟨-, hfew, -⟩ := @recovery_isolates .myrmidon source _
    (show ∀ token ∈ wrong ++ (fine ++ stray), token.kind ≠ .openBrace ∧ token.kind ≠ .closeBrace ∧
      token.kind ≠ .endOfFile by decide) (by decide)
  have hbad : badSegments (fun word => (source.withTokens word).diagnostics .myrmidon)
      (segments .myrmidon ((wrong ++ (fine ++ stray)).filter fun token =>
        ¬ Surface.myrmidon.Ignores token.kind)) = [wrong, stray] := by decide +kernel
  rw [hbad] at hfew
  exact (hfew (by decide)).trans (by simp)

end TwinSyntax
