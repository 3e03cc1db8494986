import TwinSyntax.Proofs.Path

/-!
# The tokens ahead

What a source holds for the grammar: the tokens that it sees up to the end of the file or the first
lexical error (`seen`), and that error (`fault?`). A run that takes tokens one by one goes through
exactly these (`Path.ahead_eq`), and can always be continued to where they end
(`Reading.exhaust`).
-/

namespace TwinSyntax.Grammar

/-- The tokens that the grammar sees in front of the end of the file and the first lexical error. -/
def seen (surface : Surface) : List TokenItem → List Token
  | [] => []
  | .error _ :: _ => []
  | .ok token :: rest =>
    if token.kind = .endOfFile then []
    else if surface.Ignores token.kind then seen surface rest
    else token :: seen surface rest

/-- The first lexical error in front of the end of the file. -/
def fault? : List TokenItem → Option LexError
  | [] => none
  | .error e :: _ => some e
  | .ok token :: rest => if token.kind = .endOfFile then none else fault? rest

/-- The tokens from the current one on. -/
def Reading.ahead (g : Setting) (s : Reading) : List Token :=
  if s.current.kind = .endOfFile then [] else s.current :: seen g.surface s.unread

/-- The first lexical error behind the current token. -/
def Reading.fault? (s : Reading) : Option LexError :=
  if s.current.kind = .endOfFile then none else Grammar.fault? s.unread

/-! ## Pulling what is ahead -/

theorem ne_endOfFile_of_ignores {surface : Surface} {kind : TokenKind} (h : surface.Ignores kind) :
    kind ≠ .endOfFile := by
  rw [h.2]
  exact nofun

section Pull

variable {surface : Surface} {endSpan : Span} {items rest : List TokenItem} {next : Token}
  {e : LexError}

/-- What is pulled from a source is what is seen first. -/
theorem seen_of_pull (h : pull surface endSpan items = (.ok next, rest)) :
    seen surface items = if next.kind = .endOfFile then [] else next :: seen surface rest := by
  induction items with
  | nil =>
    cases h
    rfl
  | cons item items ih =>
    cases item with
    | error e => cases h
    | ok token =>
      by_cases hskip : surface.Ignores token.kind
      · have hend := ne_endOfFile_of_ignores hskip
        simp only [pull_ok, if_pos hskip] at h
        simp only [seen, if_neg hend, if_pos hskip]
        exact ih h
      · simp only [pull_ok, if_neg hskip] at h
        cases h
        simp only [seen, if_neg hskip]

theorem fault?_of_pull (h : pull surface endSpan items = (.ok next, rest)) :
    fault? items = if next.kind = .endOfFile then none else fault? rest := by
  induction items with
  | nil =>
    cases h
    rfl
  | cons item items ih =>
    cases item with
    | error e => cases h
    | ok token =>
      by_cases hskip : surface.Ignores token.kind
      · have hend := ne_endOfFile_of_ignores hskip
        simp only [pull_ok, if_pos hskip] at h
        simp only [fault?, if_neg hend]
        exact ih h
      · simp only [pull_ok, if_neg hskip] at h
        cases h
        rfl

theorem seen_of_pull_error (h : pull surface endSpan items = (.error e, rest)) :
    seen surface items = [] ∧ fault? items = some e := by
  induction items with
  | nil => cases h
  | cons item items ih =>
    cases item with
    | error e =>
      cases h
      exact ⟨rfl, rfl⟩
    | ok token =>
      by_cases hskip : surface.Ignores token.kind
      · have hend := ne_endOfFile_of_ignores hskip
        simp only [pull_ok, if_pos hskip] at h
        simp only [seen, fault?, if_neg hend, if_pos hskip]
        exact ih h
      · simp only [pull_ok, if_neg hskip] at h
        cases h

theorem mem_of_pull_error (h : pull surface endSpan items = (.error e, rest)) :
    .error e ∈ items := by
  induction items with
  | nil => cases h
  | cons item items ih =>
    cases item with
    | error e =>
      cases h
      exact List.mem_cons_self
    | ok token =>
      by_cases hskip : surface.Ignores token.kind
      · simp only [pull_ok, if_pos hskip] at h
        exact List.mem_cons_of_mem _ (ih h)
      · simp only [pull_ok, if_neg hskip] at h
        cases h

/-- Tokens are no lexical errors. -/
theorem error_not_mem_map (tokens : List Token) (e : LexError) :
    (.error e : TokenItem) ∉ tokens.map .ok := by simp

end Pull

/-! ## Paths through what is ahead -/

variable {g : Setting} {s s' t : Reading} {word : List Token}

theorem Reading.ahead_of_end (h : s.current.kind = .endOfFile) : s.ahead g = [] := if_pos h

theorem Reading.ahead_of_ne (h : s.current.kind ≠ .endOfFile) :
    s.ahead g = s.current :: seen g.surface s.unread := if_neg h

theorem Reading.fault?_of_ne (h : s.current.kind ≠ .endOfFile) :
    s.fault? = Grammar.fault? s.unread := if_neg h

/-- **A path goes through what is ahead**, as long as it does not pass the end of the file. -/
theorem Path.ahead_eq (h : Path g s word s') (hword : ∀ token ∈ word, token.kind ≠ .endOfFile) :
    s.ahead g = word ++ s'.ahead g ∧ s.fault? = s'.fault? := by
  induction h with
  | nil => exact ⟨rfl, rfl⟩
  | cons hadv _ ih =>
    rw [List.forall_mem_cons] at hword
    obtain ⟨next, rest, hpull, -, rfl⟩ := advance_eq_ok hadv
    have ih := ih hword.2
    rw [Reading.ahead_of_ne hword.1, Reading.fault?_of_ne hword.1, seen_of_pull hpull,
      fault?_of_pull hpull]
    exact ⟨congrArg _ ih.1, ih.2⟩

/-- Only one path leads to the end of the file. -/
theorem Path.ahead_eq_word (h : Path g s word s') (hword : ∀ token ∈ word, token.kind ≠ .endOfFile)
    (hend : s'.current.kind = .endOfFile) : s.ahead g = word := by
  rw [(h.ahead_eq hword).1, Reading.ahead_of_end hend, List.append_nil]

/-- From anywhere a path leads to the end of the file, or in front of a lexical error. -/
theorem Reading.exhaust (g : Setting) (s : Reading) :
    (∃ t, Path g s (s.ahead g) t ∧ t.current.kind = .endOfFile) ∨
      ∃ u t e rest, Path g s u t ∧ s.ahead g = u ++ [t.current] ∧
        pull g.surface g.endSpan t.unread = (.error e, rest) := by
  induction hr : s.remaining using Nat.strongRecOn generalizing s with
  | ind r ih =>
    by_cases hend : s.current.kind = .endOfFile
    · rw [Reading.ahead_of_end hend]
      exact .inl ⟨s, .nil, hend⟩
    · rw [Reading.ahead_of_ne hend]
      rcases advance_cases g s with ⟨next, rest, hpull, hadv⟩ | ⟨e, rest, hpull, -⟩
      · have hlt : _ < s.remaining := eager_advance hend _ _ hadv
        rw [seen_of_pull hpull]
        rcases ih _ (hr ▸ hlt) _ rfl with ⟨t, hpath, ht⟩ | ⟨u, t, e, rest', hpath, hahead, hpull'⟩
        · exact .inl ⟨t, .cons hadv hpath, ht⟩
        · refine .inr ⟨s.current :: u, t, e, rest', .cons hadv hpath, ?_, hpull'⟩
          rw [List.cons_append]
          exact congrArg _ hahead
      · rw [(seen_of_pull_error hpull).1]
        exact .inr ⟨[], s, e, rest, .nil, rfl, hpull⟩

/-- Without lexical errors, a path leads to the end of the file, which can be taken. -/
theorem Reading.exhaust_of_clean (g : Setting) {s : Reading} (hclean : ∀ e, .error e ∉ s.unread) :
    ∃ t u, Path g s (s.ahead g) t ∧ t.current.kind = .endOfFile ∧
      advance g t = .ok t.current u := by
  have hnone : ∀ {t : Reading} {u : List Token} {e : LexError} {rest : List TokenItem},
      Path g s u t → pull g.surface g.endSpan t.unread ≠ (.error e, rest) := by
    intro t u e rest hpath herror
    exact hclean e (hpath.later.unread.subset (mem_of_pull_error herror))
  rcases s.exhaust g with ⟨t, hpath, hend⟩ | ⟨u, t, e, rest, hpath, -, herror⟩
  · rcases advance_cases g t with ⟨next, rest, -, hadv⟩ | ⟨e, rest, herror, -⟩
    · exact ⟨t, _, hpath, hend, hadv⟩
    · exact absurd herror (hnone hpath)
  · exact absurd herror (hnone hpath)

end TwinSyntax.Grammar
