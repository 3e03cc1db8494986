import TwinSyntax.Proofs.Ahead
import TwinSyntax.Proofs.Completeness
import TwinSyntax.Proofs.Soundness

/-!
# Whole runs

A run over a whole source, compared with the same run without room for diagnostics. The tree of one
is the tree of the other, and the error of the other is the first diagnostic of the one
(`Reader.program_cases`). About the run without room everything is known: it succeeds on programs
(`leads_program`) and only on programs (`verdict_wholeFile`).
-/

namespace TwinSyntax

open Grammar Phrases

/-- The setting for reading `source`. -/
def TokenSource.setting (source : TokenSource) (surface : Surface) : Setting :=
  ⟨surface, source.endSpan, source.locate⟩

namespace Grammar

variable {g : Setting} {s t : Reading}

/-- Tokens that the grammar sees are seen. -/
theorem seen_ordinary {surface : Surface} {tokens : List Token}
    (h : ∀ token ∈ tokens, Ordinary surface token) : seen surface (tokens.map .ok) = tokens := by
  induction tokens with
  | nil => rfl
  | cons token tokens ih =>
    rw [List.forall_mem_cons] at h
    rw [List.map_cons, seen, if_neg h.1.1, if_neg h.1.2, ih h.2]

/-- Diagnostics that leave no room. -/
def fullDiagnostics : List CompileError := List.replicate maxDiagnostics default

theorem length_fullDiagnostics : maxDiagnostics ≤ fullDiagnostics.length :=
  Nat.le_of_eq List.length_replicate.symm

/-- What a run over a file from `s` comes to. Behind the statements, only a lexical error behind the
end of the file can still go wrong. -/
inductive FileVerdict (g : Setting) (s : Reading) : EStateM.Result CompileError Reading Node → Prop
  | accepted {body : Node} {t : Reading} :
      Program g maxNesting (s.ahead g) body → s.fault? = none → FileVerdict g s (.ok body t)
  | refused {word : List Token} {t : Reading} {fault : SyntaxFault} (depth : Nat) :
      Path g s word t → fault = .nestingTooDeep ∨ Viable g .statements word →
      FileVerdict g s (.error (.grammatical ⟨t.current.span, fault⟩) { t with depth })
  | unreadable {word : List Token} {t : Reading} {e : LexError} {rest : List TokenItem}
      (depth : Nat) :
      Path g s word t → pull g.surface g.endSpan t.unread = (.error e, rest) →
      Viable g .statements (word ++ [t.current]) ∨ t.current.kind = .endOfFile →
      FileVerdict g s (.error (.lexical e) { t with unread := rest, depth })

/-- **A run over a file** succeeds only on programs, and fails only behind what could become one. -/
theorem verdict_wholeFile (hs : Ready s) : FileVerdict g s (wholeFile g s) := by
  have hsound := (sound_level (g := g) (maxNesting + 1)).statements .endOfFile s hs
  rw [wholeFile]
  cases hrun : (level g (maxNesting + 1)).statements .endOfFile s with
  | error e t =>
    rw [hrun] at hsound
    rw [bind_of_error hrun]
    cases hsound with
    | refused depth hpath h => exact .refused depth hpath h
    | unreadable depth hpath hpull h => exact .unreadable depth hpath hpull (.inl h)
  | ok body t =>
    rw [hrun] at hsound
    rw [bind_of_ok hrun]
    cases hsound with
    | success hpath h =>
      obtain ⟨m, hm, hprogram⟩ := h
      cases hm
      by_cases hend : t.current.kind = .endOfFile
      · rw [hend] at hprogram
        rcases advance_cases g t with ⟨next, rest, -, hadv⟩ | ⟨e, rest, hpull, hadv⟩
        · rw [bind_of_ok (expect_run hend hadv)]
          have hword := fun token h => (hprogram.ordinary token h).1
          refine .accepted ?_ ?_
          · rw [hpath.ahead_eq_word hword hend]
            exact hprogram
          · rw [(hpath.ahead_eq hword).2, Reading.fault?, if_pos hend]
        · rw [bind_of_error ((expect_of_eq hend).trans hadv)]
          exact .unreadable t.depth hpath hpull (.inr hend)
      · rw [bind_of_error (expect_of_ne hend)]
        exact .refused t.depth hpath (.inr hprogram.viable)

/-- **Programs are read** up to the end of the file, whatever happens there. -/
theorem leads_wholeFile {levels : Nat} {word : List Token} {body : Node}
    (h : Program g levels word body) (hs : Poised maxNesting s) (hpath : Path g s word t)
    (hend : t.current.kind = .endOfFile) :
    Leads (maxNesting < levels) (wholeFile g s) ((advance g >>= fun _ => pure body) t) := by
  have hread := Derives.reads h hs hpath hend .endOfFile (.inr rfl) (.inl hend)
  refine Leads.bind_ok (p := (level g (maxNesting + 1)).statements .endOfFile) hread (.of_eq ?_)
  exact bind_congr_run (expect_of_eq hend) fun _ _ _ => rfl

/-- **Programs are read to the end**, if there are no lexical errors behind what is read already. -/
theorem leads_program {levels : Nat} {word : List Token} {body : Node}
    (h : Program g levels (word ++ t.ahead g) body) (hs : Poised maxNesting s)
    (hpath : Path g s word t) (hclean : ∀ e, .error e ∉ t.unread) :
    ∃ u, Leads (maxNesting < levels) (wholeFile g s) (.ok body u) := by
  obtain ⟨t', u, hahead, hend, hadv⟩ := Reading.exhaust_of_clean g hclean
  have hread := leads_wholeFile h hs (hpath.append hahead) hend
  rw [bind_of_ok hadv] at hread
  exact ⟨u, hread⟩

end Grammar

namespace Reader

/-- The state in which a reader starts, without room for diagnostics. -/
def strict (r : Reader) : Reading := r.state.withDiagnostics fullDiagnostics

/-- A reader starts in front of what is seen of its source, or not at all. -/
theorem start_cases (surface : Surface) (source : TokenSource) :
    (∃ reader, start surface source = .ok reader ∧ reader.setting = source.setting surface ∧
      reader.state.diagnostics = [] ∧ Poised maxNesting reader.strict ∧
      pull surface source.endSpan source.items = (.ok reader.state.current, reader.state.unread)) ∨
    ∃ e rest, start surface source = .error (.lexical e) ∧
      pull surface source.endSpan source.items = (.error e, rest) := by
  rw [start]
  cases hpull : pull surface source.endSpan source.items with
  | mk result rest =>
    cases result with
    | error e => exact .inr ⟨e, rest, rfl, rfl⟩
    | ok first =>
      refine .inl ⟨_, rfl, rfl, rfl, ⟨⟨length_fullDiagnostics, ?_⟩, Nat.zero_add _⟩, rfl⟩
      exact Nat.lt_succ_of_le (Reading.remaining_le _)

section Program

variable {r : Reader} {body : Node} {e : CompileError} {s : Reading}

theorem program_of_ok (h : wholeFile r.setting r.state = .ok body s) :
    r.program.1 =
      ⟨if s.diagnostics.isEmpty then some (.program (r.locate ⟨1, 1, 1⟩) body) else none,
        s.diagnostics⟩ := by
  rw [program, h]

theorem program_of_error (h : wholeFile r.setting r.state = .error e s) :
    r.program.1 = ⟨none, s.diagnostics ++ [e]⟩ := by
  rw [program, h]

end Program

/-- **The outcome of a run**, from the run without room for diagnostics. -/
theorem program_cases (r : Reader) (hstart : r.state.diagnostics = []) :
    (∃ body t, wholeFile r.setting r.strict = .ok body t ∧
      r.program.1 = ⟨some (.program (r.locate ⟨1, 1, 1⟩) body), []⟩) ∨
    ∃ e t more, wholeFile r.setting r.strict = .error e t ∧
      r.program.1 = ⟨none, e :: more⟩ := by
  have hroom : ([] : List CompileError).length < maxDiagnostics := by decide
  have h := (planWholeFile r.setting).composed.agrees length_fullDiagnostics hroom hstart
  rw [← strict] at h
  cases hrun : wholeFile r.setting r.strict with
  | ok body t =>
    rw [hrun] at h
    exact .inl ⟨body, t, rfl, program_of_ok h.2⟩
  | error e t =>
    rw [hrun] at h
    refine .inr ⟨e, t, ?_⟩
    cases hfull : wholeFile r.setting r.state with
    | ok body s =>
      rw [hfull] at h
      obtain ⟨-, more, hmore⟩ := h
      rw [program_of_ok hfull, ← hmore]
      exact ⟨more, rfl, rfl⟩
    | error e' s =>
      rw [hfull] at h
      rw [program_of_error hfull]
      rcases h with ⟨-, ⟨rfl, hnone⟩ | ⟨more, hmore⟩⟩
      · rw [hnone]
        exact ⟨[], rfl, rfl⟩
      · rw [← hmore]
        exact ⟨more ++ [e'], rfl, rfl⟩

end Reader

end TwinSyntax
