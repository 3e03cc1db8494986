import TwinSyntax.Proofs.Embedding
import TwinSyntax.Proofs.Levels
import TwinSyntax.Proofs.Lockstep
import TwinSyntax.Proofs.Rounds

/-!
# What is read of a source

**Items** (`pulled`). A pull goes over what the grammar skips and over one item behind that. The
items of the pulls of a run, one behind the other, are a front part of the source (`Trail.pulled`).

**The end of the file** (`UpTo`). Nothing behind the first token of that kind is pulled before it is
taken, and only the last step of a run takes it.

**Theorem (`reading_terminates`).** Reading ends: every round of a loop but the last takes a token,
every statement does, and the levels of the grammar are never used up. It goes over the items of the
source once, in order, and stops at the latest behind the first item that it sees behind an end of
the file.
-/

namespace TwinSyntax

namespace Grammar

variable {g : Setting} {surface : Surface} {endSpan : Span} {s t : Reading}

/-! ## Items -/

/-- The items that a pull goes over. -/
def pulled (surface : Surface) : List TokenItem → List TokenItem
  | [] => []
  | .error e :: _ => [.error e]
  | .ok token :: rest =>
    if surface.Ignores token.kind then .ok token :: pulled surface rest else [.ok token]

theorem pulled_append_pull (surface : Surface) (endSpan : Span) (items : List TokenItem) :
    pulled surface items ++ (pull surface endSpan items).2 = items := by
  induction items with
  | nil => rfl
  | cons item rest ih =>
    cases item with
    | error e => rfl
    | ok token =>
      rw [pulled, pull_ok]
      split
      · exact congrArg (.ok token :: ·) ih
      · rfl

/-- A pull that fails has met the first item that is seen. -/
theorem pull_error {items rest : List TokenItem} {e : LexError}
    (h : pull surface endSpan items = (.error e, rest)) :
    ∃ gap, items = gap ++ .error e :: rest ∧ ∀ item ∈ gap, sees surface item = false := by
  induction items with
  | nil => cases h
  | cons item items ih =>
    cases item with
    | error e' =>
      cases h
      exact ⟨[], rfl, List.forall_mem_nil _⟩
    | ok token =>
      rw [pull_ok] at h
      by_cases hskip : surface.Ignores token.kind
      · rw [if_pos hskip] at h
        obtain ⟨gap, hitems, hgap⟩ := ih h
        exact ⟨.ok token :: gap, congrArg _ hitems,
          List.forall_mem_cons.mpr ⟨by simp [sees, hskip], hgap⟩⟩
      · rw [if_neg hskip] at h
        cases h

/-- The items that are pulled at a moment. -/
def Moment.pulled (g : Setting) (m : Moment) : List TokenItem :=
  match m.step with
  | .take => Grammar.pulled g.surface m.state.unread
  | .enter | .leave | .restore _ | .record _ => []

theorem unread_advance (g : Setting) (s : Reading) :
    (stop (advance g s)).unread = (pull g.surface g.endSpan s.unread).2 := by
  rcases advance_cases g s with ⟨next, rest, hpull, hrun⟩ | ⟨e, rest, hpull, hrun⟩ <;>
    rw [hrun, hpull] <;> rfl

theorem Moment.pulled_append (m : Moment) : m.pulled g ++ (m.after g).unread = m.state.unread := by
  obtain ⟨step, s⟩ := m
  cases step with
  | take =>
    show Grammar.pulled g.surface s.unread ++ (stop (advance g s)).unread = s.unread
    rw [unread_advance, pulled_append_pull]
  | enter | leave | restore depth | record e => rfl

/-- **Items are pulled once each and in order.** -/
theorem Trail.pulled {moments : List Moment} (h : Trail g s moments t) :
    moments.flatMap (Moment.pulled g) ++ t.unread = s.unread := by
  induction h with
  | nil => rfl
  | @cons m rest _ _ ih => rw [List.flatMap_cons, List.append_assoc, ih, m.pulled_append]

/-- Where a trail is cut, its first part ends and its second part starts. -/
theorem Trail.split {first second : List Moment} (h : Trail g s (first ++ second) t) :
    ∃ u, Trail g s first u ∧ Trail g u second t := by
  induction first generalizing s with
  | nil => exact ⟨s, .nil, h⟩
  | cons m first ih =>
    cases h with
    | cons hrest =>
      obtain ⟨u, hfirst, hsecond⟩ := ih hrest
      exact ⟨u, .cons hfirst, hsecond⟩

theorem Trail.of_nil (h : Trail g s [] t) : t = s := by
  cases h
  rfl

theorem Trail.of_take {u : Reading} (h : Trail g s [⟨.take, u⟩] t) : t = stop (advance g s) := by
  cases h with
  | cons hrest => exact hrest.of_nil

theorem Moment.roomy {m : Moment} (h : m.state.Roomy) : (m.after g).Roomy := by
  have hrounds : (m.after g).rounds = m.state.rounds := by
    obtain ⟨step, s⟩ := m
    cases step with
    | take => exact (later_advance g s).rounds
    | enter | leave | restore depth | record e => rfl
  rw [Reading.Roomy, hrounds]
  exact Nat.lt_of_le_of_lt m.remaining_le h

/-- On the way there are always more rounds than tokens. -/
theorem Trail.roomy {moments : List Moment} (h : Trail g s moments t) (hs : s.Roomy) :
    ∀ m ∈ moments, m.state.Roomy := by
  induction h with
  | nil => exact List.forall_mem_nil _
  | cons _ ih => exact List.forall_mem_cons.mpr ⟨hs, ih (Moment.roomy hs)⟩

/-! ## The end of the file -/

section End

variable {eof : Token} {back : List TokenItem}

/-- The token `eof` in front of `back` has not been pulled, or an end of the file is the current
token and `back` is left. -/
def UpTo (eof : Token) (back : List TokenItem) (s : Reading) : Prop :=
  (∃ front, s.unread = front ++ .ok eof :: back) ∨ s.unread = back ∧ s.current.kind = .endOfFile

/-- A pull does not go over an end of the file. -/
theorem pull_upTo (hend : eof.kind = .endOfFile) (front : List TokenItem) :
    (∃ front', (pull surface endSpan (front ++ .ok eof :: back)).2 = front' ++ .ok eof :: back) ∨
      pull surface endSpan (front ++ .ok eof :: back) = (.ok eof, back) := by
  induction front with
  | nil =>
    have hseen : ¬ surface.Ignores eof.kind := fun h => ne_endOfFile_of_ignores h hend
    rw [List.nil_append, pull_ok, if_neg hseen]
    exact .inr rfl
  | cons item front ih =>
    rw [List.cons_append]
    cases item with
    | error e => exact .inl ⟨front, rfl⟩
    | ok token =>
      rw [pull_ok]
      split
      · exact ih
      · exact .inl ⟨front, rfl⟩

theorem Moment.upTo (hend : eof.kind = .endOfFile) {m : Moment} (hm : m.Sparing)
    (h : UpTo eof back m.state) : UpTo eof back (m.after g) := by
  by_cases htake : m.step = .take
  · -- what is taken is not the end of the file, so `eof` is still to come
    obtain ⟨front, hfront⟩ := h.resolve_right fun hback => hm htake hback.2
    have hpull := @pull_upTo g.surface g.endSpan eof back hend front
    rw [← hfront] at hpull
    rw [Moment.after, htake]
    rcases advance_cases g m.state with ⟨next, rest, hnext, hrun⟩ | ⟨e, rest, hnext, hrun⟩
    · rw [hnext] at hpull
      rw [hrun]
      rcases hpull with hfront' | hlast
      · exact .inl hfront'
      · cases hlast
        exact .inr ⟨rfl, hend⟩
    · rw [hnext] at hpull
      rw [hrun]
      rcases hpull with hfront' | hlast
      · exact .inl hfront'
      · cases hlast
  · obtain ⟨hcurrent, hunread⟩ := m.still (g := g) htake
    rw [UpTo, hcurrent, hunread]
    exact h

theorem Trail.upTo (hend : eof.kind = .endOfFile) {moments : List Moment} (h : Trail g s moments t)
    (hsparing : ∀ m ∈ moments, m.Sparing) (hs : UpTo eof back s) : UpTo eof back t := by
  induction h with
  | nil => exact hs
  | cons _ ih =>
    rw [List.forall_mem_cons] at hsparing
    exact ih hsparing.2 (Moment.upTo hend hsparing.1 hs)

variable {gap rest : List TokenItem} {item : TokenItem}

/-- A pull goes over what is not seen, and over the first item that is. -/
theorem pull_gap (hgap : ∀ item ∈ gap, sees surface item = false)
    (hitem : sees surface item = true) : (pull surface endSpan (gap ++ item :: rest)).2 = rest := by
  induction gap with
  | nil =>
    cases item with
    | error e => rfl
    | ok token =>
      have hseen : ¬ surface.Ignores token.kind := of_decide_eq_true hitem
      rw [List.nil_append, pull_ok, if_neg hseen]
  | cons first gap ih =>
    rw [List.forall_mem_cons] at hgap
    cases first with
    | error e => cases hgap.1
    | ok token =>
      have hskip : surface.Ignores token.kind := by simpa [sees] using hgap.1
      rw [List.cons_append, pull_ok, if_pos hskip]
      exact ih hgap.2

/-- Before the end of the file is taken, all that is behind it is left. -/
theorem UpTo.left (h : UpTo eof (gap ++ item :: rest) s) : rest <:+ s.unread := by
  rcases h with ⟨front, hfront⟩ | ⟨hback, -⟩
  · exact ⟨front ++ .ok eof :: (gap ++ [item]), by simp [hfront]⟩
  · exact ⟨gap ++ [item], by simp [hback]⟩

/-- When the end of the file is taken, what is behind the next item that is seen is left. -/
theorem UpTo.left_of_take (h : UpTo eof (gap ++ item :: rest) s) (hend : eof.kind = .endOfFile)
    (hgap : ∀ item ∈ gap, sees g.surface item = false) (hitem : sees g.surface item = true) :
    rest <:+ (stop (advance g s)).unread := by
  rw [unread_advance]
  rcases h with ⟨front, hfront⟩ | ⟨hback, -⟩
  · rw [hfront]
    rcases @pull_upTo g.surface g.endSpan eof (gap ++ item :: rest) hend front with
      ⟨front', hrest⟩ | hlast
    · exact ⟨front' ++ .ok eof :: (gap ++ [item]), by simp [hrest]⟩
    · exact ⟨gap ++ [item], by simp [hlast]⟩
  · have hpull : (pull g.surface g.endSpan s.unread).2 = rest := hback ▸ pull_gap hgap hitem
    exact hpull ▸ List.suffix_rfl

end End

/-! ## Termination -/

/-- Reading with the setting `g` ends. -/
structure Terminates (g : Setting) : Prop where
  /-- A statement that is read takes a token. -/
  statement (n : Nat) (s : Reading) {t : Reading} {tree : Node} :
    statement g (level g n) s = .ok tree t → (planStatement (plansLevel g n)).Takes s
  /-- A list of statements is round after round, and every round but the last takes a token. -/
  statements (n : Nat) (closer : TokenKind) (list : Option Node) {s : Reading} : s.Roomy →
    Repeats (planListRound (plansLevel g n) closer) list s (listFrom g (level g n) closer list s)
  /-- So is giving up a statement. -/
  recovery (closer : TokenKind) {s : Reading} : s.Roomy →
    Repeats (planSkipRound closer : (x : Unit) → Plan g _) () s (looping (skipStatement g closer) s)
  /-- So is what follows the first operand of an expression. -/
  expression (n least : Nat) (left : Node) {s : Reading} : s.Roomy →
    Repeats (planClimbRound (plansLevel g n) least) left s (climb g (level g n) left least s)
  /-- The levels of the grammar are never used up, whatever is below them. -/
  levels (below : Deeper) (closer : TokenKind) {s : Reading} : s.depth = 0 →
    (level g (maxNesting + 1)).statements closer s =
      (tower g below (maxNesting + 1)).statements closer s

theorem terminates (g : Setting) : Terminates g where
  statement n s _ _ hrun :=
    (spares_statement g n s).takes_of_lt hrun (eager_statement (plansLevel g n) s _ _ hrun)
  statements n closer list _ hs :=
    repeats_listFrom (plansLevel g n) (spares_listed g n) closer list hs
  recovery closer _ hs := repeats_skipStatement closer hs
  expression n least left _ hs := repeats_climb n least left hs
  levels below closer _ hs := tower_statements_eq below closer hs

end Grammar

open Grammar

/-- What a reader goes over of its source while it reads a program. -/
structure Reader.Consumes (source : TokenSource) (r : Reader) : Prop where
  /-- There are always more rounds than tokens. -/
  roomy : ∀ m ∈ r.moments, m.state.Roomy
  /-- The end of the file is taken behind the statements, by the last step, or not at all. -/
  endOfFile : (∀ m ∈ (planFileBody r.setting).moments r.state, m.Sparing) ∧
    ∃ last, r.moments = (planFileBody r.setting).moments r.state ++ last ∧
      (last = [] ∨ ∃ s, last = [⟨.take, s⟩] ∧ s.current.kind = .endOfFile)
  /-- The items of the source are those of the first pull, those of the pulls behind it, in order,
  and those that are left. -/
  inOrder : source.items = pulled r.surface source.items ++
    (r.moments.flatMap (Moment.pulled r.setting) ++ r.program.2.unread)
  /-- Whatever is behind the first item that is seen behind an end of the file is left. -/
  bounded {front gap rest : List TokenItem} {eof : Token} {item : TokenItem} :
    source.items = front ++ .ok eof :: (gap ++ item :: rest) → eof.kind = .endOfFile →
    (∀ item ∈ gap, sees r.surface item = false) → sees r.surface item = true →
    rest <:+ r.program.2.unread
  /-- If line breaks end statements, that is all but one item. -/
  boundedByLines {front rest : List TokenItem} {eof : Token} {item : TokenItem} :
    source.items = front ++ .ok eof :: item :: rest → eof.kind = .endOfFile →
    r.surface = .myrmidon → rest <:+ r.program.2.unread

theorem Reader.unread_program (r : Reader) :
    r.program.2.unread = (stop (wholeFile r.setting r.state)).unread := by
  rw [program]
  cases wholeFile r.setting r.state <;> rfl

theorem Grammar.sees_of_terminator {surface : Surface} (h : surface.terminator = .endOfLine)
    (item : TokenItem) : sees surface item = true := by
  cases item with
  | error e => rfl
  | ok token =>
    refine decide_eq_true fun hskip => ?_
    rw [hskip.1] at h
    cases h

section Start

variable {source : TokenSource} {r : Reader}
  (hpull : pull r.surface source.endSpan source.items = (.ok r.state.current, r.state.unread))
include hpull

/-- The first pull stops in front of an end of the file, or with it. -/
theorem Reader.upTo_start {front back : List TokenItem} {eof : Token} (hend : eof.kind = .endOfFile)
    (hitems : source.items = front ++ .ok eof :: back) : UpTo eof back r.state := by
  have h := @pull_upTo r.surface source.endSpan eof back hend front
  rw [← hitems, hpull] at h
  rcases h with hfront | hlast
  · exact .inl hfront
  · obtain ⟨hcurrent, hback⟩ := Prod.mk.inj hlast
    exact .inr ⟨hback, Except.ok.inj hcurrent ▸ hend⟩

theorem Reader.left_of_endOfFile {front gap rest : List TokenItem} {eof : Token} {item : TokenItem}
    (hend : eof.kind = .endOfFile)
    (hitems : source.items = front ++ .ok eof :: (gap ++ item :: rest))
    (hgap : ∀ item ∈ gap, sees r.surface item = false) (hitem : sees r.surface item = true) :
    rest <:+ r.program.2.unread := by
  rw [r.unread_program]
  obtain ⟨hsparing, last, hmoments, hlast⟩ := wholeFile_takes_endOfFile_last r.setting r.state
  have htrail := r.trail_moments
  rw [Reader.moments, hmoments] at htrail
  obtain ⟨t, hbody, hthen⟩ := htrail.split
  have hupTo := hbody.upTo hend hsparing (Reader.upTo_start hpull hend hitems)
  rcases hlast with rfl | ⟨s, rfl, -⟩
  · rw [hthen.of_nil]
    exact hupTo.left
  · rw [hthen.of_take]
    exact hupTo.left_of_take hend hgap hitem

theorem Reader.consumes (hroomy : r.state.Roomy) : r.Consumes source where
  roomy := r.trail_moments.roomy hroomy
  endOfFile := wholeFile_takes_endOfFile_last r.setting r.state
  inOrder := by
    have hunread : r.state.unread = (pull r.surface source.endSpan source.items).2 := by rw [hpull]
    rw [r.unread_program, r.trail_moments.pulled, hunread, pulled_append_pull]
  bounded hitems hend hgap hitem := Reader.left_of_endOfFile hpull hend hitems hgap hitem
  boundedByLines {front rest eof item} hitems hend hsurface := by
    have hgap : source.items = front ++ .ok eof :: ([] ++ item :: rest) := hitems
    exact Reader.left_of_endOfFile hpull hend hgap (List.forall_mem_nil _)
      (sees_of_terminator (hsurface ▸ rfl) item)

end Start

/-- **Reading terminates and never reads past the end.** -/
theorem reading_terminates (surface : Surface) (source : TokenSource) :
    Terminates (source.setting surface) ∧
    ((∃ r, Reader.start surface source = .ok r ∧ r.setting = source.setting surface ∧
        r.state.depth = 0 ∧ r.Consumes source) ∨
      ∃ e gap rest, Reader.start surface source = .error (.lexical e) ∧
        source.items = gap ++ .error e :: rest ∧ ∀ item ∈ gap, sees surface item = false) := by
  refine ⟨terminates _, ?_⟩
  rcases Reader.start_cases surface source with
    ⟨r, hstart, hsetting, -, hpoised, hpull⟩ | ⟨e, rest, hstart, hpull⟩
  · have hsurface : r.surface = surface := congrArg Setting.surface hsetting
    have hdepth : r.state.depth = 0 := Nat.add_eq_right.mp hpoised.depth
    rw [← hsurface] at hpull
    exact .inl ⟨r, hstart, hsetting, hdepth, Reader.consumes hpull hpoised.roomy⟩
  · obtain ⟨gap, hitems, hgap⟩ := pull_error hpull
    exact .inr ⟨e, gap, rest, hstart, hitems, hgap⟩

/-- Behind an end of the file, a line break is gone over and one more item is pulled. -/
example :
    let kinds : List TokenKind :=
      [.integer 1, .semicolon, .endOfFile, .endOfLine, .integer 2, .integer 3]
    let items : List TokenItem := kinds.map fun kind => .ok ⟨kind, ⟨1, 1, 2⟩⟩
    (Reader.start .sml ⟨items, ⟨2, 1, 1⟩, fun span => ⟨span, ""⟩⟩).toOption.map
      (·.program.2.unread) = some (items.drop 5) := by decide +kernel

end TwinSyntax
