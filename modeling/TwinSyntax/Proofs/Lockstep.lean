import Mathlib.Data.List.Forall2
import TwinSyntax.Proofs.Isolation

/-!
# Two runs in lockstep

Two sources whose tokens correspond one to one, kind by kind, are read alike: the same choices are
made, the same errors are found at corresponding tokens, and recovery goes on at corresponding
places. Where the tokens lie plays no part.

**Items** (`Likeness.Items`). Only what the grammar sees has to correspond; what it skips may stand
anywhere.

**States** (`Twin`). Both runs are in front of corresponding items, at the same depth, with
corresponding diagnostics. Nothing else is asked, so the relation is kept by every step, recovery
included.

**Runs** (`Together`). Both succeed with corresponding values, or both fail with corresponding
errors. The proof goes through the cases of `Alike`.

Main results: `Alike.together`, `Likeness.Items.outcome`.
-/

namespace TwinSyntax

namespace Grammar

/-! ## What corresponds -/

section Correspondence

variable {g g' : Setting} (like : Likeness g g') (unreadable : LexError → LexError → Prop)

/-- Corresponding tokens, and corresponding lexical errors. -/
inductive Likeness.Item : TokenItem → TokenItem → Prop
  | token {t t' : Token} : like.token t t' → Item (.ok t) (.ok t')
  | error {e e' : LexError} : unreadable e e' → Item (.error e) (.error e')

/-- Whether the grammar sees an item. -/
def sees (surface : Surface) : TokenItem → Bool
  | .ok token => ¬ surface.Ignores token.kind
  | .error _ => true

/-- The items that the grammar sees correspond one to one. -/
def Likeness.Items (items items' : List TokenItem) : Prop :=
  List.Forall₂ (like.Item unreadable) (items.filter (sees g.surface))
    (items'.filter (sees g'.surface))

/-- The same fault at corresponding places. -/
inductive Likeness.Error : CompileError → CompileError → Prop
  | lexical {e e' : LexError} : unreadable e e' → Error (.lexical e) (.lexical e')
  | grammatical {t t' : Token} {fault : SyntaxFault} :
      like.token t t' → Error (.grammatical ⟨t.span, fault⟩) (.grammatical ⟨t'.span, fault⟩)

/-- Both runs are at corresponding places. -/
structure Twin (s s' : Reading) : Prop where
  current : like.token s.current s'.current
  unread : like.Items unreadable s.unread s'.unread
  depth : s.depth = s'.depth
  diagnostics : List.Forall₂ (like.Error unreadable) s.diagnostics s'.diagnostics
  roomy : s.Roomy
  roomy' : s'.Roomy

/-- Both runs come to corresponding results. -/
inductive Together {α : Type} (value : α → α → Prop) : EStateM.Result CompileError Reading α →
    EStateM.Result CompileError Reading α → Prop
  | ok {a a' : α} {t t' : Reading} :
      Twin like unreadable t t' → value a a' → Together value (.ok a t) (.ok a' t')
  | error {e e' : CompileError} {t t' : Reading} :
      Twin like unreadable t t' → like.Error unreadable e e' →
      Together value (.error e t) (.error e' t')

end Correspondence

/-! ## Taking a token -/

theorem pull_of_seen {surface : Surface} {endSpan : Span} {items : List TokenItem} :
    (items.filter (sees surface) = [] ∧
      pull surface endSpan items = (.ok ⟨.endOfFile, endSpan⟩, [])) ∨
    ∃ item rest, items.filter (sees surface) = item :: rest.filter (sees surface) ∧
      pull surface endSpan items = (item, rest) := by
  induction items with
  | nil => exact .inl ⟨rfl, rfl⟩
  | cons item items ih =>
    cases item with
    | error e => exact .inr ⟨_, items, rfl, rfl⟩
    | ok token =>
      rw [pull_ok]
      by_cases hskip : surface.Ignores token.kind
      · rw [List.filter_cons_of_neg (by simp [sees, hskip]), if_pos hskip]
        exact ih
      · rw [List.filter_cons_of_pos (by simp [sees, hskip]), if_neg hskip]
        exact .inr ⟨_, items, rfl, rfl⟩

section Runs

variable {surface : Surface} {endSpan endSpan' : Span} {locate locate' : Span → Location}
  {like : Likeness ⟨surface, endSpan, locate⟩ ⟨surface, endSpan', locate'⟩}
  {unreadable : LexError → LexError → Prop}

/-- What is pulled from corresponding items corresponds. -/
theorem Likeness.Items.pull (hend : like.token ⟨.endOfFile, endSpan⟩ ⟨.endOfFile, endSpan'⟩)
    {items items' : List TokenItem} (h : like.Items unreadable items items') :
    like.Item unreadable (pull surface endSpan items).1 (pull surface endSpan' items').1 ∧
      like.Items unreadable (pull surface endSpan items).2 (pull surface endSpan' items').2 := by
  unfold Likeness.Items at h
  rcases @pull_of_seen surface endSpan items with ⟨hnone, hpull⟩ | ⟨item, rest, hsome, hpull⟩ <;>
    rcases @pull_of_seen surface endSpan' items' with ⟨hnone', hpull'⟩ |
      ⟨item', rest', hsome', hpull'⟩
  · rw [hpull, hpull']
    exact ⟨.token hend, .nil⟩
  · rw [hnone, hsome'] at h
    cases h
  · rw [hsome, hnone'] at h
    cases h
  · rw [hsome, hsome'] at h
    obtain ⟨hitem, hrest⟩ := List.forall₂_cons.mp h
    rw [hpull, hpull']
    exact ⟨hitem, hrest⟩

variable {s s' t t' : Reading}

namespace Twin

theorem atDepth (h : Twin like unreadable s s') {d d' : Nat} (hd : d = d') :
    Twin like unreadable { s with depth := d } { s' with depth := d' } :=
  ⟨h.current, h.unread, hd, h.diagnostics, h.roomy, h.roomy'⟩

theorem leave (h : Twin like unreadable s s') : Twin like unreadable s.leave s'.leave :=
  h.atDepth (congrArg (· - 1) h.depth)

theorem kind (h : Twin like unreadable s s') : s'.current.kind = s.current.kind :=
  like.kind h.current

/-- The same fault is found at the current tokens. -/
theorem fail {α : Type} {value : α → α → Prop} (h : Twin like unreadable s s')
    (fault : SyntaxFault) :
    Together like unreadable value (Grammar.fail fault s) (Grammar.fail fault s') :=
  .error h (.grammatical h.current)

theorem advance (hend : like.token ⟨.endOfFile, endSpan⟩ ⟨.endOfFile, endSpan'⟩)
    (h : Twin like unreadable s s') :
    Together like unreadable (fun t t' => t = s.current ∧ t' = s'.current)
      (advance ⟨surface, endSpan, locate⟩ s) (advance ⟨surface, endSpan', locate'⟩ s') := by
  obtain ⟨hitem, hrest⟩ := h.unread.pull hend
  have hlater := later_advance ⟨surface, endSpan, locate⟩ s
  have hlater' := later_advance ⟨surface, endSpan', locate'⟩ s'
  rcases advance_cases ⟨surface, endSpan, locate⟩ s with
      ⟨next, rest, hpull, hadv⟩ | ⟨e, rest, hpull, hadv⟩ <;>
    rcases advance_cases ⟨surface, endSpan', locate'⟩ s' with
      ⟨next', rest', hpull', hadv'⟩ | ⟨e', rest', hpull', hadv'⟩ <;>
    simp only [hpull, hpull'] at hitem hrest <;>
    rw [hadv] at hlater ⊢ <;> rw [hadv'] at hlater' ⊢ <;> cases hitem
  · next htoken =>
    exact .ok ⟨htoken, hrest, h.depth, h.diagnostics, hlater.roomy h.roomy, hlater'.roomy h.roomy'⟩
      ⟨rfl, rfl⟩
  · next herror =>
    exact .error ⟨h.current, hrest, h.depth, h.diagnostics, hlater.roomy h.roomy,
      hlater'.roomy h.roomy'⟩ (.lexical herror)

/-- An error is recorded in both runs, or reading is given up in both. -/
theorem record (h : Twin like unreadable s s') {t t' : Token} (htoken : like.token t t')
    (fault : SyntaxFault) :
    Together like unreadable (fun _ _ => True) (record ⟨t.span, fault⟩ s)
      (record ⟨t'.span, fault⟩ s') := by
  have herror :
      like.Error unreadable (.grammatical ⟨t.span, fault⟩) (.grammatical ⟨t'.span, fault⟩) :=
    .grammatical htoken
  have hlength := h.diagnostics.length_eq
  have hmore : Twin like unreadable (s.recorded ⟨t.span, fault⟩) (s'.recorded ⟨t'.span, fault⟩) :=
    ⟨h.current, h.unread, h.depth, List.rel_append h.diagnostics (.cons herror .nil), h.roomy,
      h.roomy'⟩
  -- there is room for another diagnostic in both runs or in neither
  rcases Nat.lt_or_ge s.diagnostics.length maxDiagnostics with hopen | hstrict
  · have hopen' : s'.Open := by
      rw [Reading.Open, ← hlength]
      exact hopen
    have hsame := hmore.diagnostics.length_eq
    rcases record_of_open hopen ⟨t.span, fault⟩ with ⟨hroom, hrun⟩ | ⟨hfull, hrun⟩ <;>
      rcases record_of_open hopen' ⟨t'.span, fault⟩ with ⟨hroom', hrun'⟩ | ⟨hfull', hrun'⟩
    · rw [hrun, hrun']
      exact .ok hmore trivial
    · exact absurd (hsame.trans hfull') (Nat.ne_of_lt hroom)
    · exact absurd (hsame.symm.trans hfull) (Nat.ne_of_lt hroom')
    · rw [hrun, hrun']
      exact .error hmore (.grammatical h.current)
  · have hstrict' : s'.Strict := by
      rw [Reading.Strict, ← hlength]
      exact hstrict
    rw [record_of_strict hstrict, record_of_strict hstrict']
    exact .error h herror

end Twin

namespace Together

variable {α β : Type} {value : α → α → Prop} {value' : β → β → Prop}

/-- Both runs go on from where they are. -/
theorem bind {p p' : Read α} {f f' : α → Read β} (h : Together like unreadable value (p s) (p' s'))
    (hnext : ∀ a a' t t', value a a' → Twin like unreadable t t' →
      Together like unreadable value' (f a t) (f' a' t')) :
    Together like unreadable value' ((p >>= f) s) ((p' >>= f') s') := by
  generalize hr : p s = r at h
  generalize hr' : p' s' = r' at h
  cases h with
  | ok htwin hvalue =>
    rw [bind_of_ok hr, bind_of_ok hr']
    exact hnext _ _ _ _ hvalue htwin
  | error htwin herror =>
    rw [bind_of_error hr, bind_of_error hr']
    exact .error htwin herror

theorem mono {value' : α → α → Prop} {r r' : EStateM.Result CompileError Reading α}
    (h : Together like unreadable value r r') (hvalue : ∀ a a', value a a' → value' a a') :
    Together like unreadable value' r r' := by
  cases h with
  | ok htwin ha => exact .ok htwin (hvalue _ _ ha)
  | error htwin herror => exact .error htwin herror

/-- What is taken is what both runs are in front of. -/
theorem taken {kind : TokenKind} {r r' : EStateM.Result CompileError Reading Token}
    (h : Together like unreadable (fun t t' => t = s.current ∧ t' = s'.current) r r')
    (htwin : Twin like unreadable s s') (hkind : s.current.kind = kind) :
    Together like unreadable (like.taken kind) r r' := by
  refine h.mono fun t t' htoken => ?_
  obtain ⟨rfl, rfl⟩ := htoken
  exact ⟨htwin.current, hkind⟩

theorem nested {p p' : Read α} (htwin : Twin like unreadable s s')
    (h : Together like unreadable value (p { s with depth := s.depth + 1 })
      (p' { s' with depth := s'.depth + 1 })) :
    Together like unreadable value (nested p s) (nested p' s') := by
  have hdepth := htwin.depth
  rcases Nat.lt_or_ge s.depth maxNesting with hlt | hge
  · have hlt' : s'.depth < maxNesting := hdepth ▸ hlt
    generalize hr : p { s with depth := s.depth + 1 } = r at h
    generalize hr' : p' { s' with depth := s'.depth + 1 } = r' at h
    cases h with
    | ok htwin' hvalue =>
      rw [nested_of_ok hlt hr, nested_of_ok hlt' hr']
      exact .ok htwin'.leave hvalue
    | error htwin' herror =>
      rw [nested_of_error hlt hr, nested_of_error hlt' hr']
      exact .error htwin'.leave herror
  · have hge' : maxNesting ≤ s'.depth := hdepth ▸ hge
    rw [nested_too_deep hge, nested_too_deep hge']
    exact .error (htwin.atDepth (congrArg (· + 1) hdepth)) (.grammatical htwin.current)

/-- A loop is in lockstep if it is for every number of rounds. -/
theorem looping {loop loop' : Nat → Read α} (hsettled : Settled loop) (hsettled' : Settled loop')
    (htwin : Twin like unreadable s s')
    (h : ∀ n, Together like unreadable value (loop n s) (loop' n s')) :
    Together like unreadable value (looping loop s) (looping loop' s') := by
  -- both loops with the larger of the two numbers of rounds
  rw [hsettled.looping_eq htwin.roomy
      (Nat.lt_of_lt_of_le htwin.roomy (Nat.le_max_left _ s'.rounds)),
    hsettled'.looping_eq htwin.roomy'
      (Nat.lt_of_lt_of_le htwin.roomy' (Nat.le_max_right s.rounds _))]
  exact h _

/-- Both runs recover from the same error. -/
theorem recovering {p p' : Read α} {next next' : α → Read β} {resume resume' : Read β}
    (htwin : Twin like unreadable s s') (h : Together like unreadable value (p s) (p' s'))
    (hnext : ∀ a a' t t', value a a' → Twin like unreadable t t' →
      Together like unreadable value' (next a t) (next' a' t'))
    (hresume : ∀ t t', Twin like unreadable t t' →
      Together like unreadable value' (resume t) (resume' t')) :
    Together like unreadable value' (recovering p next resume s)
      (recovering p' next' resume' s') := by
  generalize hr : p s = r at h
  generalize hr' : p' s' = r' at h
  cases h with
  | ok htwin' hvalue =>
    rw [recovering_of_ok hr, recovering_of_ok hr']
    exact hnext _ _ _ _ hvalue htwin'
  | error htwin' herror =>
    cases herror with
    | lexical hunreadable =>
      rw [recovering_of_error hr (by simp), recovering_of_error hr' (by simp)]
      exact .error htwin' (.lexical hunreadable)
    | grammatical htoken =>
      rw [recovering_of_grammatical hr, recovering_of_grammatical hr']
      exact ((htwin'.atDepth htwin.depth).record htoken _).bind fun _ _ t t' _ => hresume t t'

end Together

/-! ## Rules -/

/-- Lists of corresponding statements. -/
theorem Likeness.joined {g g' : Setting} (like : Likeness g g') {list list' : Option Node}
    {tree tree' : Node}
    (hlist : list.map (·.relocate like.place) = list'.map (·.relocate like.place))
    (htree : like.node tree tree') : like.node (joined list tree) (joined list' tree') := by
  cases list with
  | none =>
    cases list' with
    | none => exact htree
    | some _ => cases hlist
  | some list =>
    cases list' with
    | none => cases hlist
    | some list' =>
      have hnode : like.node list list' := Option.some.inj hlist
      simp only [Likeness.node, Grammar.joined, Node.relocate]
      rw [htree, hnode]

variable {deeper deeper' : Deeper}

section Advancing

variable (hend : like.token ⟨.endOfFile, endSpan⟩ ⟨.endOfFile, endSpan'⟩)
include hend

/-- A token of the kind `kind` is taken in both runs, or missing in both. -/
theorem Twin.expect (h : Twin like unreadable s s') (kind : TokenKind) (expecting : Expectation) :
    Together like unreadable (fun _ _ => True) (expect ⟨surface, endSpan, locate⟩ kind expecting s)
      (expect ⟨surface, endSpan', locate'⟩ kind expecting s') := by
  have hkind := h.kind
  by_cases heq : s.current.kind = kind
  · rw [expect_of_eq heq, expect_of_eq (hkind.trans heq)]
    exact (h.advance hend).mono fun _ _ _ => trivial
  · rw [expect_of_ne heq, expect_of_ne (hkind ▸ heq)]
    show Together like unreadable _ (Grammar.fail (.unexpected s.current.kind expecting) s)
      (Grammar.fail (.unexpected s'.current.kind expecting) s')
    rw [hkind]
    exact h.fail _

/-- Giving up a statement ends in both runs at the same place. -/
theorem Twin.skipStatement (h : Twin like unreadable s s') (closer : TokenKind) (n : Nat) :
    Together like unreadable (fun _ _ => True)
      (skipStatement ⟨surface, endSpan, locate⟩ closer n s)
      (skipStatement ⟨surface, endSpan', locate'⟩ closer n s') := by
  induction n generalizing s s' with
  | zero => exact .ok h trivial
  | succ n ih =>
    rw [Grammar.skipStatement, Grammar.skipStatement, peek_bind, peek_bind, h.kind]
    split
    · exact (h.advance hend).bind fun _ _ _ _ _ htwin => .ok htwin trivial
    split
    · exact .ok h trivial
    · exact (h.advance hend).bind fun _ _ _ _ _ htwin => ih htwin

/-- **A list of statements** goes on alike, whatever is wrong with its statements. -/
theorem Twin.continueStatements
    (hlisted : ∀ {t t'}, Twin like unreadable t t' → Together like unreadable like.node
      (listed ⟨surface, endSpan, locate⟩ deeper t) (listed ⟨surface, endSpan', locate'⟩ deeper' t'))
    (h : Twin like unreadable s s') (closer : TokenKind) {list list' : Option Node}
    (hlist : list.map (·.relocate like.place) = list'.map (·.relocate like.place)) (n : Nat) :
    Together like unreadable like.node
      (continueStatements ⟨surface, endSpan, locate⟩ deeper closer list n s)
      (continueStatements ⟨surface, endSpan', locate'⟩ deeper' closer list' n s') := by
  have hbody {list list' : Option Node}
      (hlist : list.map (·.relocate like.place) = list'.map (·.relocate like.place)) :
      like.node (list.getD .eos) (list'.getD .eos) := by
    rw [Likeness.node, ← Option.getD_map (Node.relocate like.place),
      ← Option.getD_map (Node.relocate like.place), hlist]
  induction n generalizing s s' list list' with
  | zero => exact .ok h (hbody hlist)
  | succ n ih =>
    rw [continueStatements_succ, continueStatements_succ, h.kind]
    split
    · exact .ok h (hbody hlist)
    · refine .recovering h (hlisted h) (fun tree tree' t t' htree htwin => ih htwin ?_)
        fun t t' htwin => ?_
      · exact congrArg some (like.joined hlist htree)
      · have hskip :=
          Together.looping (settled_skipStatement closer) (settled_skipStatement closer) htwin
          (htwin.skipStatement hend closer)
        exact hskip.bind fun _ _ u u' _ htwin' => ih htwin' hlist

/-- **Two runs of one plan** over corresponding tokens come to corresponding results. -/
theorem Alike.together {α : Type} {ends : Bool} {p p' : Read α} {kind kind' : TokenKind}
    {value : α → α → Prop} {plan : Plan ⟨surface, endSpan, locate⟩ p}
    {plan' : Plan ⟨surface, endSpan', locate'⟩ p'} (h : Alike like ends kind kind' value plan plan')
    (htwin : Twin like unreadable s s') (hkind : s.current.kind = kind)
    (hkind' : s'.current.kind = kind') : Together like unreadable value (p s) (p' s') := by
  induction h generalizing s s' with
  | pure ha => exact .ok htwin ha
  | fail _ => exact htwin.fail _
  | peek _ ih =>
    subst hkind hkind'
    exact ih htwin rfl rfl
  | take _ | finish _ => exact (htwin.advance hend).taken htwin hkind
  | bind _ _ ih ihnext =>
    exact (ih htwin hkind hkind').bind fun a a' t t' hvalue htwin' =>
      ihnext t.current.kind a a' hvalue htwin' rfl htwin'.kind
  | bindEnd _ _ ih ihnext =>
    exact (ih htwin hkind hkind').bind fun a a' t t' hvalue htwin' =>
      ihnext t.current.kind t'.current.kind a a' (.inl htwin'.kind.symm) hvalue htwin' rfl rfl
  | nested _ ih =>
    exact .nested htwin (ih (htwin.atDepth (congrArg (· + 1) htwin.depth)) hkind hkind')
  | looping _ ih =>
    exact .looping (by assumption) (by assumption) htwin fun n => ih n htwin hkind hkind'
  | @block _ _ _ plans plans' _ ih =>
    have hlist {t t'} (htwin : Twin like unreadable t t') :=
      Together.looping (settled_continueStatements plans .closeBrace none)
        (settled_continueStatements plans' .closeBrace none) htwin
        (htwin.continueStatements hend (fun htwin => ih _ htwin rfl htwin.kind) .closeBrace rfl)
    refine (htwin.expect hend .openBrace _).bind fun _ _ t t' _ htwin => ?_
    refine (Together.nested htwin (hlist (htwin.atDepth (congrArg (· + 1) htwin.depth)))).bind
      fun body body' t t' hbody htwin => ?_
    exact (htwin.expect hend .closeBrace _).bind fun _ _ t t' _ htwin => .ok htwin hbody

/-- The statements of a list at any level of nesting. -/
theorem Twin.statements (h : Twin like unreadable s s') (levels : Nat) (closer : TokenKind) :
    Together like unreadable like.node
      ((level ⟨surface, endSpan, locate⟩ (levels + 1)).statements closer s)
      ((level ⟨surface, endSpan', locate'⟩ (levels + 1)).statements closer s') := by
  have hrules : AlikeRules like (plansLevel _ levels) (plansLevel _ levels) := alike_level levels
  exact .looping (settled_continueStatements (plansLevel _ levels) closer none)
    (settled_continueStatements (plansLevel _ levels) closer none) h
    (h.continueStatements hend
      (fun htwin => (alike_listed hrules _).together hend htwin rfl htwin.kind) closer rfl)

theorem Twin.wholeFile (h : Twin like unreadable s s') :
    Together like unreadable like.node (wholeFile ⟨surface, endSpan, locate⟩ s)
      (wholeFile ⟨surface, endSpan', locate'⟩ s') :=
  (h.statements hend maxNesting .endOfFile).bind fun _ _ _ _ hbody htwin =>
    (htwin.expect hend .endOfFile _).bind fun _ _ _ _ _ htwin' => .ok htwin' hbody

end Advancing

end Runs

end Grammar

open Grammar

/-! ## Sources -/

/-- What reading a source comes to. If the first token that the grammar would see is a lexical
error, nothing is read. -/
def TokenSource.outcome (source : TokenSource) (surface : Surface) : Outcome :=
  match Reader.start surface source with
  | .ok reader => reader.program.1
  | .error e => ⟨none, [e]⟩

/-- The same error at another place. -/
def CompileError.moveTo (span : Span) : CompileError → CompileError
  | lexical e => lexical { e with span }
  | grammatical e => grammatical { e with span }
  | malformed e => malformed e

/-- Both sources have trees that `place` makes equal, or both are wrong, and their errors correspond
one to one. -/
inductive Correspond (place : Location → Location) (error : CompileError → CompileError → Prop) :
    Outcome → Outcome → Prop
  | read {tree tree' : Node} :
      tree.relocate place = tree'.relocate place →
      Correspond place error ⟨some tree, []⟩ ⟨some tree', []⟩
  | refused {errors errors' : List CompileError} :
      errors ≠ [] → List.Forall₂ error errors errors' →
      Correspond place error ⟨none, errors⟩ ⟨none, errors'⟩

theorem Correspond.mono {place : Location → Location}
    {error error' : CompileError → CompileError → Prop} {o o' : Outcome}
    (h : Correspond place error o o') (herror : ∀ e e', error e e' → error' e e') :
    Correspond place error' o o' := by
  cases h with
  | read htree => exact .read htree
  | refused hne herrors => exact .refused hne (herrors.imp herror)

/-- Compiling shows the outcome of reading. -/
theorem parse_eq_result (surface : Surface) (source : String) :
    parse surface source = ((lex source).outcome surface).result := by
  rw [parse, TokenSource.outcome]
  cases Reader.start surface (lex source) <;> rfl

/-- If locations are compared as they are, both sources have the same tree or none. -/
theorem Correspond.result_cases {error : CompileError → CompileError → Prop} {o o' : Outcome}
    (h : Correspond id error o o') :
    o'.result = o.result ∨ ∃ e e', o.result = .error e ∧ o'.result = .error e' := by
  cases h with
  | read htree =>
    rw [Node.relocate_id, Node.relocate_id] at htree
    exact .inl (htree ▸ rfl)
  | refused hne herrors =>
    cases herrors with
    | nil => exact absurd rfl hne
    | cons _ _ => exact .inr ⟨_, _, rfl, rfl⟩

/-- **Sources with corresponding items** come to corresponding outcomes. -/
theorem Grammar.Likeness.Items.outcome {surface : Surface} {source source' : TokenSource}
    {like : Likeness (source.setting surface) (source'.setting surface)}
    {unreadable : LexError → LexError → Prop}
    (hend : like.token source.endToken source'.endToken)
    (hroot : like.place (source.locate ⟨1, 1, 1⟩) = like.place (source'.locate ⟨1, 1, 1⟩))
    (h : like.Items unreadable source.items source'.items) :
    Correspond like.place (like.Error unreadable) (source.outcome surface)
      (source'.outcome surface) := by
  obtain ⟨hfirst, hrest⟩ := h.pull hend
  rw [TokenSource.outcome, TokenSource.outcome, Reader.start, Reader.start]
  generalize Grammar.pull surface source.endSpan source.items = pulled at hfirst hrest ⊢
  generalize Grammar.pull surface source'.endSpan source'.items = pulled' at hfirst hrest ⊢
  obtain ⟨first, rest⟩ := pulled
  obtain ⟨first', rest'⟩ := pulled'
  cases hfirst with
  | error herror => exact .refused (List.cons_ne_nil _ _) (.cons (.lexical herror) .nil)
  | token htoken =>
    dsimp only at hrest ⊢
    have hstart : Twin like unreadable ⟨_, rest, 0, [], rest.length + 2⟩
        ⟨_, rest', 0, [], rest'.length + 2⟩ :=
      ⟨htoken, hrest, rfl, .nil, Nat.lt_succ_of_le (Reading.remaining_le _),
        Nat.lt_succ_of_le (Reading.remaining_le _)⟩
    have hrun := hstart.wholeFile hend
    rw [Reader.program, Reader.program]
    simp only [Reader.setting]
    generalize Grammar.wholeFile _ _ = r at hrun ⊢
    generalize Grammar.wholeFile _ _ = r' at hrun ⊢
    cases hrun with
    | error htwin herror =>
      exact .refused (List.append_ne_nil_of_right_ne_nil _ (List.cons_ne_nil _ _))
        (List.rel_append htwin.diagnostics (.cons herror .nil))
    | @ok body body' t t' htwin hbody =>
      have hsame : body.relocate like.place = body'.relocate like.place := hbody
      have hdiagnostics := htwin.diagnostics
      dsimp only
      generalize t.diagnostics = D at hdiagnostics ⊢
      generalize t'.diagnostics = D' at hdiagnostics ⊢
      cases hdiagnostics with
      | nil => exact .read (by rw [Node.relocate, Node.relocate, hroot, hsame])
      | cons herror hmore => exact .refused (List.cons_ne_nil _ _) (.cons herror hmore)

end TwinSyntax
