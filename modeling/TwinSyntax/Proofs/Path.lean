import TwinSyntax.Proofs.FirstFault

/-!
# Paths through the tokens

**Paths** (`Path`). A run without recovery takes tokens one by one. A path says which ones, and in
which state the last of them leaves it. Nothing but the place changes along a path.

**Ready states** (`Ready`). A run from a ready state has room for its loops and none for
diagnostics, so it ends at its first error.
-/

namespace TwinSyntax.Grammar

open Phrases (front)

/-- Taking the tokens of `word` one by one leads from `s` to `s'`. -/
inductive Path (g : Setting) : (s : Reading) → (word : List Token) → (s' : Reading) → Prop
  | nil {s : Reading} : Path g s [] s
  | cons {s t s' : Reading} {word : List Token} :
      advance g s = .ok s.current t → Path g t word s' → Path g s (s.current :: word) s'

/-- There is room for loops and none for diagnostics. -/
structure Ready (s : Reading) : Prop where
  strict : s.Strict
  roomy : s.Roomy

variable {g : Setting} {s s' t : Reading} {u v word : List Token} {token : Token}

/-! ## One step -/

/-- What taking a token changes. -/
theorem advance_eq_ok (h : advance g s = .ok token t) :
    ∃ next rest, pull g.surface g.endSpan s.unread = (.ok next, rest) ∧ token = s.current ∧
      t = { s with current := next, unread := rest } := by
  rcases advance_cases g s with ⟨next, rest, hpull, hrun⟩ | ⟨e, rest, -, hrun⟩
  · rw [hrun] at h
    cases h
    exact ⟨next, rest, hpull, rfl, rfl⟩
  · rw [hrun] at h
    cases h

theorem advance_atDepth (h : advance g s = .ok token t) (depth : Nat) :
    advance g { s with depth } = .ok token { t with depth } := by
  obtain ⟨next, rest, hpull, rfl, rfl⟩ := advance_eq_ok h
  exact advance_of_ok hpull

/-! ## Paths -/

theorem Path.append (hu : Path g s u t) (hv : Path g t v s') : Path g s (u ++ v) s' := by
  induction hu with
  | nil => exact hv
  | cons hadv _ ih => exact .cons hadv (ih hv)

theorem Path.single (h : advance g s = .ok s.current t) : Path g s [s.current] t := .cons h .nil

theorem Path.cons_inv (h : Path g s (token :: word) s') :
    ∃ t, token = s.current ∧ advance g s = .ok s.current t ∧ Path g t word s' := by
  cases h with
  | cons hadv hrest => exact ⟨_, rfl, hadv, hrest⟩

/-- A path of one token. -/
theorem Path.single_inv (h : Path g s [token] t) :
    token = s.current ∧ advance g s = .ok s.current t := by
  obtain ⟨u, htoken, hadv, hrest⟩ := h.cons_inv
  cases hrest
  exact ⟨htoken, hadv⟩

theorem Path.split (h : Path g s (u ++ v) s') : ∃ t, Path g s u t ∧ Path g t v s' := by
  induction u generalizing s with
  | nil => exact ⟨s, .nil, h⟩
  | cons token u ih =>
    obtain ⟨t, rfl, hadv, hrest⟩ := h.cons_inv
    obtain ⟨m, hu, hv⟩ := ih hrest
    exact ⟨m, .cons hadv hu, hv⟩

/-- A path starts at the current token, unless it is empty. -/
theorem Path.front_eq (h : Path g s word s') : front word s'.current.kind = s.current.kind := by
  cases h <;> rfl

theorem Path.front_self (h : Path g s word s') : front word s.current.kind = s.current.kind := by
  cases h <;> rfl

theorem Path.atDepth (h : Path g s word s') (depth : Nat) :
    Path g { s with depth } word { s' with depth } := by
  induction h with
  | nil => exact .nil
  | @cons s t s' word hadv _ ih =>
    exact @Path.cons g { s with depth } { t with depth } _ _ (advance_atDepth hadv depth) ih

theorem Path.depth_eq (h : Path g s word s') : s'.depth = s.depth := by
  induction h with
  | nil => rfl
  | cons hadv _ ih =>
    obtain ⟨next, rest, -, -, rfl⟩ := advance_eq_ok hadv
    exact ih

/-- A path out of a nested level ends in the state that closing the level leaves. -/
theorem Path.leave (h : Path g { s with depth := s.depth + 1 } word s') :
    Path g s word s'.leave := by
  have hdepth : s'.depth - 1 = s.depth := by rw [h.depth_eq]; rfl
  have houter := h.atDepth s.depth
  rw [Reading.leave, hdepth]
  exact houter

theorem Path.later (h : Path g s word s') : Later s s' := by
  induction h with
  | nil => exact .refl _
  | cons hadv _ ih => exact (Composed.advance.later_of_ok hadv).trans ih

/-- Taking a token makes progress, unless it is the end of the file. -/
theorem Path.remaining_lt (h : Path g s (token :: word) s') (hend : token.kind ≠ .endOfFile) :
    s'.remaining < s.remaining := by
  obtain ⟨t, rfl, hadv, hrest⟩ := h.cons_inv
  exact Nat.lt_of_le_of_lt hrest.later.remaining (eager_advance hend _ _ hadv)

theorem Ready.later (hs : Ready s) (h : Later s s') : Ready s' := by
  refine ⟨?_, h.roomy hs.roomy⟩
  exact Nat.le_trans hs.strict h.diagnostics.length_le

theorem Path.ready (h : Path g s word s') (hs : Ready s) : Ready s' := hs.later h.later

theorem Ready.atDepth (hs : Ready s) (depth : Nat) : Ready { s with depth } :=
  ⟨hs.strict, hs.roomy⟩

end TwinSyntax.Grammar
