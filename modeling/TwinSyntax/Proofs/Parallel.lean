import TwinSyntax.Proofs.Ahead
import TwinSyntax.Proofs.Likeness

/-!
# A statement and what stands behind it

Two runs of the same rules over the same segment of tokens: in the one, other tokens follow the
segment, and in the other the end of the file does. A segment has no braces, and a terminator at its
end only.

**Inside** (`Near`). Both runs are at the same token of the segment, so they do the same.

**Behind** (`Over`). The segment is taken. The one run is at the first token of the rest, the other
one at the end of the file. Unless the rest starts with `else`, what is left of a statement cannot
tell (`Alike.parallel`).
-/

namespace TwinSyntax.Grammar

open Phrases

variable {g : Setting} {s s' t t' : Reading}

/-! ## One side -/

/-- There are neither lexical errors nor ends of the file among the items. -/
def Plain (items : List TokenItem) : Prop :=
  ∀ item ∈ items, ∃ token, item = .ok token ∧ token.kind ≠ .endOfFile

/-- A run over plain items with the diagnostics `D`. -/
structure Side (g : Setting) (D : List CompileError) (s : Reading) : Prop where
  roomy : s.Roomy
  plain : Plain s.unread
  atEnd : s.current.kind = .endOfFile → s.current = ⟨.endOfFile, g.endSpan⟩
  diagnostics : s.diagnostics = D

variable {D D' : List CompileError}

theorem Side.atDepth (h : Side g D s) (depth : Nat) : Side g D { s with depth } :=
  ⟨h.roomy, h.plain, h.atEnd, h.diagnostics⟩

/-- Pulling from plain items yields one of them, or the end of the file. -/
theorem pull_plain (surface : Surface) (endSpan : Span) {items : List TokenItem}
    (h : Plain items) : ∃ next rest, pull surface endSpan items = (.ok next, rest) ∧ Plain rest ∧
      (next.kind = .endOfFile → next = ⟨.endOfFile, endSpan⟩) := by
  induction items with
  | nil => exact ⟨_, _, rfl, h, fun _ => rfl⟩
  | cons item items ih =>
    have hrest : Plain items := fun item hitem => h item (List.mem_cons_of_mem _ hitem)
    obtain ⟨token, rfl, htoken⟩ := h item List.mem_cons_self
    rw [pull]
    split
    · exact ih hrest
    · exact ⟨token, items, rfl, hrest, fun hend => absurd hend htoken⟩

/-- Over plain items, a token can always be taken. -/
theorem Side.advance (h : Side g D s) : ∃ t, advance g s = .ok s.current t ∧ Side g D t ∧
    t.depth = s.depth ∧ (s.current.kind ≠ .endOfFile → s.ahead g = s.current :: t.ahead g) := by
  obtain ⟨next, rest, hpull, hplain, hatEnd⟩ := pull_plain g.surface g.endSpan h.plain
  have hadv := advance_of_ok hpull
  refine ⟨_, hadv, ⟨?_, hplain, hatEnd, h.diagnostics⟩, rfl, fun hne => ?_⟩
  · exact (Composed.advance.later_of_ok hadv).roomy h.roomy
  · have hword : ∀ token ∈ [s.current], token.kind ≠ .endOfFile := by simpa using hne
    exact ((Path.single hadv).ahead_eq hword).1

/-- The current token is the first one ahead. -/
theorem front_ahead (g : Setting) (s : Reading) :
    front (s.ahead g) .endOfFile = s.current.kind := by
  unfold Reading.ahead
  split
  · next hend => exact hend.symm
  · rfl

theorem current_of_ahead {token : Token} {word : List Token} (h : s.ahead g = token :: word) :
    s.current = token := by
  unfold Reading.ahead at h
  split at h
  · cases h
  · exact List.head_eq_of_cons_eq h

/-! ## Two sides -/

/-- `word` is one segment in front of `rest`: without braces, and with a terminator at its end and
nowhere else. Only in front of the end of the file, the terminator may be missing. -/
inductive Segment (surface : Surface) (rest : List Token) : List Token → Prop
  | unfinished : rest = [] → Segment surface rest []
  | finished {token : Token} : token.kind = surface.terminator → Segment surface rest [token]
  | cons {token : Token} {word : List Token} :
      token.kind ≠ surface.terminator → token.kind ≠ .openBrace → Segment surface rest word →
      Segment surface rest (token :: word)

theorem Segment.of_nil {surface : Surface} {rest : List Token} (h : Segment surface rest []) :
    rest = [] := by
  cases h with
  | unfinished hrest => exact hrest

theorem Segment.of_cons {surface : Surface} {rest word : List Token} {token : Token}
    (h : Segment surface rest (token :: word)) :
    (token.kind = surface.terminator ∧ word = []) ∨
      (token.kind ≠ surface.terminator ∧ token.kind ≠ .openBrace ∧ Segment surface rest word) := by
  cases h with
  | finished hkind => exact .inl ⟨hkind, rfl⟩
  | cons hkind hbrace hword => exact .inr ⟨hkind, hbrace, hword⟩

/-- Both runs are at the same place of a segment; in the first one, `rest` follows the segment. -/
structure Near (g : Setting) (D D' : List CompileError) (rest : List Token) (s s' : Reading) :
    Prop where
  side : Side g D s
  side' : Side g D' s'
  current : s.current = s'.current
  depth : s.depth = s'.depth
  ahead : s.ahead g = s'.ahead g ++ rest
  segment : Segment g.surface rest (s'.ahead g)

/-- Both runs are behind the segment. -/
structure Over (g : Setting) (D D' : List CompileError) (rest : List Token) (s s' : Reading) :
    Prop where
  side : Side g D s
  side' : Side g D' s'
  depth : s.depth = s'.depth
  ahead : s.ahead g = rest
  isOver : s'.current.kind = .endOfFile

variable {rest : List Token}

theorem Near.atDepth (h : Near g D D' rest s s') {d d' : Nat} (hd : d = d') :
    Near g D D' rest { s with depth := d } { s' with depth := d' } :=
  ⟨h.side.atDepth d, h.side'.atDepth d', h.current, hd, h.ahead, h.segment⟩

theorem Over.atDepth (h : Over g D D' rest s s') {d d' : Nat} (hd : d = d') :
    Over g D D' rest { s with depth := d } { s' with depth := d' } :=
  ⟨h.side.atDepth d, h.side'.atDepth d', hd, h.ahead, h.isOver⟩

theorem Near.leave (h : Near g D D' rest s s') : Near g D D' rest s.leave s'.leave :=
  h.atDepth (congrArg (· - 1) h.depth)

theorem Over.leave (h : Over g D D' rest s s') : Over g D D' rest s.leave s'.leave :=
  h.atDepth (congrArg (· - 1) h.depth)

/-- If nothing follows the segment, both runs are at the end of the file. -/
theorem Over.near (h : Over g D D' [] s s') : Near g D D' [] s s' := by
  have hend : s.current.kind = .endOfFile := by rw [← front_ahead g s, h.ahead, front_nil]
  refine ⟨h.side, h.side', ?_, h.depth, ?_, ?_⟩
  · rw [h.side.atEnd hend, h.side'.atEnd h.isOver]
  · rw [h.ahead, Reading.ahead_of_end h.isOver, List.append_nil]
  · rw [Reading.ahead_of_end h.isOver]
    exact .unfinished rfl

/-- At the end of the file, the segment is taken. -/
theorem Near.over (h : Near g D D' rest s s') (hend : s.current.kind = .endOfFile) :
    Over g D D' rest s s' := by
  refine ⟨h.side, h.side', h.depth, ?_, h.current ▸ hend⟩
  rw [h.ahead, Reading.ahead_of_end (h.current ▸ hend), List.nil_append]

/-- Inside a segment, both runs take the same token. -/
theorem Near.take (h : Near g D D' rest s s') (hterminator : s.current.kind ≠ g.surface.terminator)
    (hend : s.current.kind ≠ .endOfFile) : ∃ t t', advance g s = .ok s.current t ∧
      advance g s' = .ok s.current t' ∧ Near g D D' rest t t' ∧ t.depth = s.depth := by
  obtain ⟨t, hadv, hside, hdepth, hahead⟩ := h.side.advance
  obtain ⟨t', hadv', hside', hdepth', hahead'⟩ := h.side'.advance
  have hahead := hahead hend
  have hahead' := hahead' (h.current ▸ hend)
  have hboth : t.ahead g = t'.ahead g ++ rest := by
    have hsame := h.ahead
    rw [hahead, hahead', List.cons_append] at hsame
    exact List.tail_eq_of_cons_eq hsame
  have hsegment : Segment g.surface rest (t'.ahead g) := by
    have hs' := h.segment
    rw [hahead'] at hs'
    rcases hs'.of_cons with ⟨hkind, -⟩ | ⟨-, -, hword⟩
    · exact absurd (h.current ▸ hkind) hterminator
    · exact hword
  refine ⟨t, t', hadv, h.current ▸ hadv', ⟨hside, hside', ?_, ?_, hboth, hsegment⟩, hdepth⟩
  · -- either a token of the segment comes next, or nothing at all
    by_cases hend' : t'.current.kind = .endOfFile
    · rw [Reading.ahead_of_end hend'] at hsegment hboth
      have hkind : t.current.kind = .endOfFile := by
        rw [← front_ahead g t, hboth, hsegment.of_nil]
        rfl
      rw [hside.atEnd hkind, hside'.atEnd hend']
    · have hne : t.current.kind ≠ .endOfFile := by
        rw [← front_ahead g t, hboth, Reading.ahead_of_ne hend', List.cons_append]
        exact hend'
      rw [Reading.ahead_of_ne hend', Reading.ahead_of_ne hne] at hboth
      exact List.head_eq_of_cons_eq hboth
  · rw [hdepth, hdepth', h.depth]

/-- A terminator is the last token of its segment. -/
theorem Near.finish (h : Near g D D' rest s s') (hkind : s.current.kind = g.surface.terminator) :
    ∃ t t', advance g s = .ok s.current t ∧ advance g s' = .ok s.current t' ∧
      Over g D D' rest t t' ∧ t.depth = s.depth := by
  have hend : s.current.kind ≠ .endOfFile := hkind ▸ terminator_ne_endOfFile g.surface
  obtain ⟨t, hadv, hside, hdepth, hahead⟩ := h.side.advance
  obtain ⟨t', hadv', hside', hdepth', hahead'⟩ := h.side'.advance
  have hsame := h.ahead
  have hs' := h.segment
  rw [hahead' (h.current ▸ hend)] at hsame hs'
  rw [hahead hend] at hsame
  have hnil : t'.ahead g = [] := by
    rcases hs'.of_cons with ⟨-, hnil⟩ | ⟨hnot, -, -⟩
    · exact hnil
    · exact absurd (h.current ▸ hkind) hnot
  refine ⟨t, t', hadv, h.current ▸ hadv', ⟨hside, hside', ?_, ?_, ?_⟩, hdepth⟩
  · rw [hdepth, hdepth', h.depth]
  · rw [hnil] at hsame
    exact List.tail_eq_of_cons_eq hsame
  · rw [← front_ahead g t', hnil, front_nil]

/-! ## Statements in parallel -/

/-- How two runs over a segment may end: inside it, behind it, or with the same error inside it. -/
inductive Parallel (g : Setting) (D D' : List CompileError) (rest : List Token) (depth : Nat)
    {α : Type} (ends : Bool) (value : α → α → Prop) :
    EStateM.Result CompileError Reading α → EStateM.Result CompileError Reading α → Prop
  | inside {a a' : α} {t t' : Reading} :
      Near g D D' rest t t' → t.depth = depth → value a a' →
      Parallel g D D' rest depth ends value (.ok a t) (.ok a' t')
  | behind {a a' : α} {t t' : Reading} :
      Over g D D' rest t t' → t.depth = depth → value a a' → ends = true →
      Parallel g D D' rest depth ends value (.ok a t) (.ok a' t')
  | failed {e : SyntaxError} {t t' : Reading} :
      Near g D D' rest t t' → e.span = t.current.span →
      Parallel g D D' rest depth ends value (.error (.grammatical e) t) (.error (.grammatical e) t')

variable {α β : Type} {ends : Bool} {depth : Nat}

/-- Both runs go on from where they are. -/
theorem Parallel.bind {p p' : Read α} {f f' : α → Read β} {first : Bool} {between : α → α → Prop}
    {value : β → β → Prop} (h : Parallel g D D' rest depth first between (p s) (p' s'))
    (hinside : ∀ a a' t t', between a a' → Near g D D' rest t t' → t.depth = depth →
      Parallel g D D' rest depth ends value (f a t) (f' a' t'))
    (hbehind : ∀ a a' t t', first = true → between a a' → Over g D D' rest t t' → t.depth = depth →
      Parallel g D D' rest depth ends value (f a t) (f' a' t')) :
    Parallel g D D' rest depth ends value ((p >>= f) s) ((p' >>= f') s') := by
  generalize hr : p s = r at h
  generalize hr' : p' s' = r' at h
  cases h with
  | inside hnear hdepth hvalue =>
    rw [bind_of_ok hr, bind_of_ok hr']
    exact hinside _ _ _ _ hvalue hnear hdepth
  | behind hover hdepth hvalue hfirst =>
    rw [bind_of_ok hr, bind_of_ok hr']
    exact hbehind _ _ _ _ hfirst hvalue hover hdepth
  | failed hnear hspan =>
    rw [bind_of_error hr, bind_of_error hr']
    exact .failed hnear hspan

theorem Parallel.nested {p p' : Read α} {value : α → α → Prop} (hnear : Near g D D' rest s s')
    (h : Parallel g D D' rest (s.depth + 1) ends value (p { s with depth := s.depth + 1 })
      (p' { s' with depth := s.depth + 1 })) :
    Parallel g D D' rest s.depth ends value (nested p s) (nested p' s') := by
  have hdepth := hnear.depth
  rcases Nat.lt_or_ge s.depth maxNesting with hlt | hge
  · have hlt' : s'.depth < maxNesting := hdepth ▸ hlt
    generalize hr : p { s with depth := s.depth + 1 } = r at h
    generalize hr' : p' { s' with depth := s.depth + 1 } = r' at h
    rw [hdepth] at hr'
    cases h with
    | inside hnear' hdepth' hvalue =>
      rw [nested_of_ok hlt hr, nested_of_ok hlt' hr']
      exact .inside hnear'.leave (congrArg (· - 1) hdepth') hvalue
    | behind hover hdepth' hvalue hends =>
      rw [nested_of_ok hlt hr, nested_of_ok hlt' hr']
      exact .behind hover.leave (congrArg (· - 1) hdepth') hvalue hends
    | failed hnear' hspan =>
      rw [nested_of_error hlt hr, nested_of_error hlt' hr']
      exact .failed hnear'.leave hspan
  · have hge' : maxNesting ≤ s'.depth := hdepth ▸ hge
    have hspan : s'.current.span = s.current.span := congrArg Token.span hnear.current.symm
    rw [nested_too_deep hge, nested_too_deep hge', hspan]
    exact .failed (hnear.atDepth (congrArg (· + 1) hdepth)) rfl

/-- Two runs may part behind a segment, unless what follows goes on with a conditional. -/
def Start (g : Setting) (D D' : List CompileError) (rest : List Token) (ends : Bool)
    (s s' : Reading) : Prop :=
  Near g D D' rest s s' ∨ ends = true ∧ rest ≠ [] ∧ Over g D D' rest s s'

/-- Behind a segment, the two runs are at different tokens. -/
theorem Start.near (h : Start g D D' rest ends s s')
    (hrest : ∀ token ∈ rest, token.kind ≠ .endOfFile) (hkind : s.current.kind = s'.current.kind) :
    Near g D D' rest s s' := by
  rcases h with hnear | ⟨-, hne, hover⟩
  · exact hnear
  · obtain ⟨token, rest, rfl⟩ := List.exists_cons_of_ne_nil hne
    have hfront := front_ahead g s
    rw [hover.ahead, front_cons, hkind, hover.isOver] at hfront
    exact absurd hfront (hrest token List.mem_cons_self)

/-- What is behind a segment in front of nothing is still at its end. -/
theorem Over.start (h : Over g D D' rest s s') : Start g D D' rest true s s' := by
  by_cases hrest : rest = []
  · subst hrest
    exact .inl h.near
  · exact .inr ⟨rfl, hrest, h⟩

theorem Start.seam (h : Start g D D' rest ends s s')
    (helse : front rest .endOfFile ≠ .elseWord) : Seam s.current.kind s'.current.kind := by
  rcases h with hnear | ⟨-, -, hover⟩
  · exact .inl (congrArg Token.kind hnear.current)
  · refine .inr ⟨?_, ?_⟩
    · rw [← front_ahead g s, hover.ahead]
      exact helse
    · rw [hover.isOver]
      exact nofun

/-- **A statement takes nothing behind its terminator**, and what it comes to does not depend on
what stands there. -/
theorem Alike.parallel {p p' : Read α} {kind kind' : TokenKind} {value : α → α → Prop}
    {plan : Plan g p} {plan' : Plan g p'} (h : Alike (.same g) ends kind kind' value plan plan')
    (hrest : ∀ token ∈ rest, token.kind ≠ .endOfFile) (helse : front rest .endOfFile ≠ .elseWord)
    (hstart : Start g D D' rest ends s s') (hkind : s.current.kind = kind)
    (hkind' : s'.current.kind = kind') :
    Parallel g D D' rest s.depth ends value (p s) (p' s') := by
  induction h generalizing s s' with
  | pure ha =>
    rcases hstart with hnear | ⟨hends, -, hover⟩
    · exact .inside hnear rfl ha
    · exact .behind hover rfl ha hends
  | @fail α _ _ _ fault _ _ _ =>
    have hnear := hstart.near hrest (hkind.trans hkind'.symm)
    have hfail' : (Grammar.fail fault : Read α) s' =
        .error (.grammatical ⟨s.current.span, fault⟩) s' := by
      rw [hnear.current]
      rfl
    exact hfail' ▸ .failed hnear rfl
  | peek _ ih =>
    subst hkind hkind'
    exact ih hstart rfl rfl
  | take hinner =>
    have hnear := hstart.near hrest (hkind.trans hkind'.symm)
    obtain ⟨t, t', hadv, hadv', hnear', hdepth⟩ := hnear.take (hkind ▸ hinner.1) (hkind ▸ hinner.2)
    rw [hadv, hadv']
    exact .inside hnear' hdepth ⟨rfl, hkind⟩
  | finish hterminator =>
    have hnear := hstart.near hrest (hkind.trans hkind'.symm)
    obtain ⟨t, t', hadv, hadv', hover, hdepth⟩ := hnear.finish (hkind.trans hterminator)
    rw [hadv, hadv']
    exact .behind hover hdepth ⟨rfl, hkind⟩ rfl
  | bind _ _ ih ihnext =>
    have hnear := hstart.near hrest (hkind.trans hkind'.symm)
    refine (ih (.inl hnear) hkind hkind').bind (fun a a' t t' hvalue hnear' hdepth => ?_) (by simp)
    rw [← hdepth]
    exact ihnext t.current.kind a a' hvalue (.inl hnear') rfl
      (congrArg Token.kind hnear'.current.symm)
  | bindEnd _ _ ih ihnext =>
    have hnext {a a' t t'} (hvalue) (hstart' : Start g D D' rest true t t')
        (hdepth : t.depth = s.depth) :=
      ihnext t.current.kind t'.current.kind a a' (hstart'.seam helse) hvalue hstart' rfl rfl
    refine (ih hstart hkind hkind').bind (fun a a' t t' hvalue hnear hdepth => ?_)
      fun a a' t t' _ hvalue hover hdepth => ?_
    · exact hdepth ▸ hnext hvalue (.inl hnear) hdepth
    · exact hdepth ▸ hnext hvalue hover.start hdepth
  | nested _ ih =>
    have hnear := hstart.near hrest (hkind.trans hkind'.symm)
    exact .nested hnear (ih (.inl (hnear.atDepth rfl)) hkind hkind')
  | @looping _ _ _ _ loop loop' _ _ settled settled' _ ih =>
    have hnear := hstart.near hrest (hkind.trans hkind'.symm)
    rw [settled.looping_eq hnear.side.roomy
        (Nat.lt_of_lt_of_le hnear.side.roomy (Nat.le_max_left _ s'.rounds)),
      settled'.looping_eq hnear.side'.roomy
        (Nat.lt_of_lt_of_le hnear.side'.roomy (Nat.le_max_right s.rounds _))]
    exact ih _ hstart hkind hkind'
  | block _ _ =>
    -- there are no braces in a segment
    have hnear := hstart.near hrest (hkind.trans hkind'.symm)
    have hsegment := hnear.segment
    rw [Reading.ahead_of_ne (hkind' ▸ nofun)] at hsegment
    rcases hsegment.of_cons with ⟨hterminator, -⟩ | ⟨-, hbrace, -⟩
    · exact absurd (hkind'.symm.trans hterminator) inner_openBrace.1
    · exact absurd hkind' hbrace

end TwinSyntax.Grammar
