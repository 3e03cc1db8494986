import TwinSyntax.Proofs.Acceptance
import TwinSyntax.Proofs.Moments

/-!
# The shape of a tree

**Theorem (`program_well_shaped`).** Every run of a reader ends with a tree or with diagnostics, and
none of its diagnostics is about the program itself: no node is malformed, and a program is never
missing without a reason. A tree is a program around a statement, and what stands below it is put
together as the grammar says.

**Shapes** (`IsStatement`). Expressions, comparisons of expressions, and statements put together
from them. What a chain of sentinels joins may be any statement.

The first half is an induction over the plan of a run: no step raises such an error, because the
children that a rule hands over always fit (`interior_of_parts`). The second half is an induction
over derivations (`Derives.isStatement`).
-/

namespace TwinSyntax

open Grammar Phrases

namespace Node

/-! ## Shapes -/

/-- The tree of an expression. -/
inductive IsExpression : Node → Prop
  | leaf {value : Payload} {origin : Location} : IsExpression (.leaf value origin)
  | arithmetic {op : Arithmetic} {origin : Location} {left right : Node} :
      IsExpression left → IsExpression right → IsExpression (.arithmetic op origin left right)
  | negate {origin : Location} {argument : Node} :
      IsExpression argument → IsExpression (.negate origin argument)

/-- The tree of a condition. -/
inductive IsCondition : Node → Prop
  | relation {rel : Relation} {origin : Location} {left right : Node} :
      IsExpression left → IsExpression right → IsCondition (.relation rel origin left right)

/-- The tree of a statement, or of a list of them. -/
inductive IsStatement : Node → Prop
  | eos : IsStatement .eos
  | sequence {first second : Node} :
      IsStatement first → IsStatement second → IsStatement (.sequence first second)
  | assign {origin origin' : Location} {name : String} {value : Node} :
      IsExpression value → IsStatement (.assign origin (.leaf (.identifier name) origin') value)
  | loop {origin : Location} {condition body : Node} :
      IsCondition condition → IsStatement body → IsStatement (.loop origin condition body)
  | conditional {origin : Location} {condition thenBranch elseBranch : Node} :
      IsCondition condition → IsStatement thenBranch → IsStatement elseBranch →
      IsStatement (.conditional origin condition thenBranch elseBranch)
  | expression {tree : Node} : IsExpression tree → IsStatement tree

/-- The trees that a tree is put together from, itself among them. -/
inductive Within : Node → Node → Prop
  | root {tree : Node} : Within tree tree
  | deeper {n child tree : Node} : child ∈ tree.children → Within n child → Within n tree

/-- The tree of a program, as the grammar puts it together. -/
structure WellShaped (tree : Node) : Prop where
  /-- A program is a statement behind a root. -/
  isProgram : ∃ origin body, tree = .program origin body ∧ IsStatement body
  /-- There is no other program in it. -/
  onlyRoot {parent child : Node} :
    parent.Within tree → child ∈ parent.children → child.kind ≠ .program
  /-- Comparisons are the conditions of loops and conditionals, and stand nowhere else. -/
  onlyCondition {parent child : Node} {index : Nat} :
    parent.Within tree → parent.children[index]? = some child → child.kind.isRelation = true →
      index = 0 ∧ (parent.kind = .loop ∨ parent.kind = .conditional)
  /-- Leaves have the value that their kind says, and nothing else has one. -/
  payload {n : Node} :
    n.Within tree → n.payload?.map Payload.kind = if n.kind.isLeaf then some n.kind else none
  /-- Sentinels come from nowhere, and everything else from somewhere. -/
  origin {n : Node} : n.Within tree → (n.origin? = none ↔ n.kind = .eos)
  /-- The parts of every node that is no leaf are those of its kind. -/
  parts {n : Node} :
    n.Within tree → n.kind.isLeaf = false → interior n.kind n.origin? n.children = .ok n

/-! ## Children -/

variable {n child : Node} {index : Nat}

/-- A node that is no leaf can be put together from its parts. -/
theorem interior_of_parts (h : n.kind.isLeaf = false) :
    interior n.kind n.origin? n.children = .ok n := by
  cases n with
  | leaf value origin => cases value <;> cases h
  | _ => rfl

theorem payload?_kind (n : Node) :
    n.payload?.map Payload.kind = if n.kind.isLeaf then some n.kind else none := by
  cases n with
  | leaf value origin => cases value <;> rfl
  | _ => rfl

theorem payload?_kind_congr {a b : Node} (h : a.kind = b.kind) :
    a.payload?.map Payload.kind = b.payload?.map Payload.kind := by
  rw [payload?_kind, payload?_kind, h]

/-- A leaf has no children. -/
theorem children_of_value {value : Payload} (h : n.payload? = some value) : n.children = [] := by
  cases n with
  | leaf => rfl
  | _ => cases h

theorem origin?_eq_none (n : Node) : n.origin? = none ↔ n.kind = .eos := by
  cases n with
  | leaf value origin => cases value <;> simp [origin?, kind, Payload.kind]
  | _ => simp [origin?, kind]

theorem IsExpression.children (h : IsExpression n) : ∀ child ∈ n.children, IsExpression child := by
  cases h with
  | leaf => exact List.forall_mem_nil _
  | arithmetic hleft hright =>
    exact List.forall_mem_cons.mpr ⟨hleft, List.forall_mem_singleton.mpr hright⟩
  | negate hargument => exact List.forall_mem_singleton.mpr hargument

theorem IsCondition.children (h : IsCondition n) : ∀ child ∈ n.children, IsExpression child := by
  cases h with
  | relation hleft hright =>
    exact List.forall_mem_cons.mpr ⟨hleft, List.forall_mem_singleton.mpr hright⟩

/-- The children of a statement are statements, but the first one of a loop or a conditional is a
condition. -/
theorem IsStatement.children (h : IsStatement n) (hchild : n.children[index]? = some child) :
    IsStatement child ∨ IsCondition child ∧ index = 0 ∧
    (n.kind = .loop ∨ n.kind = .conditional) := by
  cases h with
  | eos => cases hchild
  | sequence hfirst hsecond =>
    refine .inl ?_
    match index, hchild with
    | 0, rfl => exact hfirst
    | 1, rfl => exact hsecond
  | assign hvalue =>
    refine .inl (.expression ?_)
    match index, hchild with
    | 0, rfl => exact .leaf
    | 1, rfl => exact hvalue
  | loop hcondition hbody =>
    match index, hchild with
    | 0, rfl => exact .inr ⟨hcondition, rfl, .inl rfl⟩
    | 1, rfl => exact .inl hbody
  | conditional hcondition hthen helse =>
    match index, hchild with
    | 0, rfl => exact .inr ⟨hcondition, rfl, .inr rfl⟩
    | 1, rfl => exact .inl hthen
    | 2, rfl => exact .inl helse
  | expression htree =>
    exact .inl (.expression (htree.children child (List.mem_of_getElem? hchild)))

theorem IsExpression.kind_ne (h : IsExpression n) :
    n.kind ≠ .program ∧ n.kind.isRelation = false := by
  cases h with
  | @leaf value _ => cases value <;> exact ⟨nofun, rfl⟩
  | arithmetic | negate => exact ⟨nofun, rfl⟩

theorem IsStatement.kind_ne (h : IsStatement n) :
    n.kind ≠ .program ∧ n.kind.isRelation = false := by
  cases h with
  | expression htree => exact htree.kind_ne
  | _ => exact ⟨nofun, rfl⟩

theorem IsCondition.kind_ne (h : IsCondition n) : n.kind ≠ .program := by
  cases h with
  | relation => exact nofun

/-! ## Subtrees -/

/-- A statement, or the condition of one. -/
def IsPart (n : Node) : Prop := IsStatement n ∨ IsCondition n

/-- What a child of a statement or a condition is, and where it may stand. -/
theorem IsPart.children (h : IsPart n) (hchild : n.children[index]? = some child) :
    IsPart child ∧ child.kind ≠ .program ∧
      (child.kind.isRelation = true → index = 0 ∧ (n.kind = .loop ∨ n.kind = .conditional)) := by
  have hstatement : ∀ {n : Node}, IsStatement n → n.kind.isRelation = true → False := fun h hrel =>
    Bool.false_ne_true (h.kind_ne.2.symm.trans hrel)
  rcases h with h | h
  · rcases h.children hchild with h | ⟨h, hplace⟩
    · exact ⟨.inl h, h.kind_ne.1, fun hrel => (hstatement h hrel).elim⟩
    · exact ⟨.inr h, h.kind_ne, fun _ => hplace⟩
  · have h : IsStatement child := .expression (h.children child (List.mem_of_getElem? hchild))
    exact ⟨.inl h, h.kind_ne.1, fun hrel => (hstatement h hrel).elim⟩

theorem IsPart.kind_ne (h : IsPart n) : n.kind ≠ .program := by
  rcases h with h | h
  · exact h.kind_ne.1
  · exact h.kind_ne

theorem IsPart.within {tree : Node} (h : IsPart tree) (hn : Within n tree) : IsPart n := by
  induction hn with
  | root => exact h
  | deeper hchild _ ih =>
    obtain ⟨index, hindex⟩ := List.getElem?_of_mem hchild
    exact ih (h.children hindex).1

/-- **A program around a statement is well shaped.** -/
theorem IsStatement.wellShaped {origin : Location} {body : Node} (h : IsStatement body) :
    WellShaped (.program origin body) := by
  have hparent : ∀ {parent child : Node} {index : Nat}, Within parent (.program origin body) →
      parent.children[index]? = some child → child.kind ≠ .program ∧
        (child.kind.isRelation = true →
          index = 0 ∧ (parent.kind = .loop ∨ parent.kind = .conditional)) := by
    intro parent child index hparent hchild
    cases hparent with
    | root =>
      obtain rfl := List.mem_singleton.mp (List.mem_of_getElem? hchild)
      exact ⟨h.kind_ne.1, fun hrel => absurd (h.kind_ne.2.symm.trans hrel) Bool.false_ne_true⟩
    | deeper hbody hparent =>
      obtain rfl := List.mem_singleton.mp hbody
      exact ((IsPart.within (.inl h) hparent).children hchild).2
  exact {
    isProgram := ⟨origin, body, rfl, h⟩
    onlyRoot := fun hn hchild =>
      have ⟨_, hindex⟩ := List.getElem?_of_mem hchild
      (hparent hn hindex).1
    onlyCondition := fun hn hchild => (hparent hn hchild).2
    payload := fun {n} _ => n.payload?_kind
    origin := fun {n} _ => n.origin?_eq_none
    parts := fun _ hleaf => interior_of_parts hleaf }

end Node

/-! ## Derivations -/

namespace Phrases

open Node

variable {g : Setting} {levels : Nat} {word : List Token} {next : TokenKind} {tree : Node}

theorem Expression.isExpression {least : Nat} (h : Expression g least levels word tree) :
    IsExpression tree := by
  induction h with
  | leaf _ => exact .leaf
  | negate _ _ ih => exact .negate ih
  | parens _ _ _ ih => exact ih
  | binary _ _ _ _ ihleft ihright => exact .arithmetic ihleft ihright

theorem Condition.isCondition (h : Condition g levels word next tree) : IsCondition tree := by
  induction h with
  | compare hleft _ hright _ => exact .relation hleft.isExpression hright.isExpression
  | parens _ _ _ ih => exact ih

/-- **Phrases have the trees of statements.** -/
theorem Derives.isStatement {phrase : Phrase} (h : Derives g phrase levels word next tree) :
    IsStatement tree := by
  induction h with
  | assignment _ _ hvalue _ => exact .assign hvalue.isExpression
  | expression hvalue _ => exact .expression hvalue.isExpression
  | loop _ hcond _ ih => exact .loop hcond.isCondition ih
  | alone _ hcond _ _ ih => exact .conditional hcond.isCondition ih .eos
  | both _ hcond _ _ _ ihthen ihelse => exact .conditional hcond.isCondition ihthen ihelse
  | empty _ => exact .eos
  | more _ _ ihlist ihtree => exact .sequence ihlist ihtree
  | none => exact .eos
  | block _ _ _ ih | ofConditional _ ih | ofBlock _ ih | bodyStatement _ _ ih | bodyBlock _ _ ih
  | ofBody _ ih | chained _ _ ih | ofStatement _ ih | first _ ih | some _ ih => exact ih

end Phrases

/-! ## Errors -/

/-- An error that says what is wrong with the input: neither a malformed node nor a missing
program. -/
def CompileError.AboutInput : CompileError → Prop
  | .lexical _ => True
  | .grammatical e => e.fault ≠ .noProgram
  | .malformed _ => False

namespace Grammar

variable {g : Setting} {α β : Type} {p : Read α} {s : Reading}

/-- All diagnostics so far are about the input. -/
def Reading.Honest (s : Reading) : Prop := ∀ e ∈ s.diagnostics, e.AboutInput

/-- So are those of a result, and the error that it ends with. -/
def Honest : EStateM.Result CompileError Reading α → Prop
  | .ok _ s => s.Honest
  | .error e s => e.AboutInput ∧ s.Honest

theorem honest_bind {f : α → Read β} (hp : Honest (p s)) (hf : ∀ a t, t.Honest → Honest (f a t)) :
    Honest ((p >>= f) s) := by
  cases hrun : p s with
  | ok a t =>
    rw [hrun] at hp
    rw [bind_of_ok hrun]
    exact hf a t hp
  | error e t =>
    rw [hrun] at hp
    rw [bind_of_error hrun]
    exact hp

theorem honest_nested (hp : ∀ s, s.Honest → Honest (p s)) (hs : s.Honest) :
    Honest (nested p s) := by
  rcases Nat.lt_or_ge s.depth maxNesting with hlt | hge
  · have h := hp { s with depth := s.depth + 1 } hs
    cases hrun : p { s with depth := s.depth + 1 } with
    | ok a t =>
      rw [hrun] at h
      rw [nested_of_ok hlt hrun]
      exact h
    | error e t =>
      rw [hrun] at h
      rw [nested_of_error hlt hrun]
      exact h
  · rw [nested_too_deep hge]
    exact ⟨nofun, hs⟩

theorem honest_record {e : SyntaxError} (he : CompileError.AboutInput (.grammatical e))
    (hs : s.Honest) : Honest (record e s) := by
  have hmore : ({ s with diagnostics := s.diagnostics ++ [.grammatical e] } : Reading).Honest :=
    List.forall_mem_append.mpr ⟨hs, List.forall_mem_singleton.mpr he⟩
  unfold record
  split
  · exact ⟨he, hs⟩
  · dsimp only
    split
    · exact ⟨nofun, hmore⟩
    · exact hmore

/-- **Every error of a run is about the input**, raised or recorded. -/
theorem Plan.honest (plan : Plan g p) (hs : s.Honest) : Honest (p s) := by
  induction plan generalizing s with
  | pure a => exact hs
  | peek => exact hs
  | advance =>
    rcases advance_cases g s with ⟨next, rest, -, hrun⟩ | ⟨e, rest, -, hrun⟩ <;> rw [hrun]
    · exact hs
    · exact ⟨trivial, hs⟩
  | fail fault hfault => exact ⟨hfault, hs⟩
  | bind _ _ ihp ihf => exact honest_bind (ihp hs) fun a t ht => ihf a ht
  | nested _ ih => exact honest_nested (fun _ => ih) hs
  | @recovering _ _ p _ _ _ _ _ ih ihnext ihresume =>
    have h := ih hs
    cases hrun : p s with
    | ok a t =>
      rw [hrun] at h
      rw [recovering_of_ok hrun]
      exact ihnext a h
    | error e t =>
      rw [hrun] at h
      cases e with
      | lexical e | malformed e =>
        rw [recovering_of_error hrun (by simp)]
        exact h
      | grammatical e =>
        rw [recovering_of_grammatical hrun]
        exact honest_bind (honest_record h.1 h.2) fun _ u hu => ihresume hu
  | looping _ _ ih => exact ih s.rounds hs

end Grammar

/-! ## Readers -/

namespace Reader

variable {surface : Surface} {source : TokenSource} {reader : Reader}

/-- The reader has started to read `source`, and may have read programs from it. -/
inductive Reached (surface : Surface) (source : TokenSource) : Reader → Prop
  | start {reader : Reader} : Reader.start surface source = .ok reader →
      Reached surface source reader
  | again {reader : Reader} : Reached surface source reader →
      Reached surface source reader.program.2

/-- A reader between two programs keeps no diagnostics, and has room for its loops. -/
theorem Reached.idle (h : Reached surface source reader) :
    reader.state.diagnostics = [] ∧ reader.state.Roomy := by
  induction h with
  | start hstart =>
    rcases start_cases surface source with
        ⟨reader, hstart', -, hdiagnostics, hpoised, -⟩ | ⟨e, rest, hstart', -⟩
    · rw [hstart] at hstart'
      cases hstart'
      exact ⟨hdiagnostics, hpoised.roomy⟩
    · rw [hstart] at hstart'
      cases hstart'
  | @again reader _ ih =>
    have hlater := (planWholeFile reader.setting).composed.later reader.state
    rw [program]
    cases hrun : wholeFile reader.setting reader.state with
    | ok body s =>
      rw [hrun] at hlater
      exact ⟨rfl, hlater.roomy ih.2⟩
    | error e s =>
      rw [hrun] at hlater
      exact ⟨rfl, hlater.roomy ih.2⟩

/-- The diagnostics of a program are those that were recorded, and the error that it ends with. -/
theorem honest_program (h : reader.state.Honest) :
    ∀ e ∈ reader.program.1.diagnostics, e.AboutInput := by
  have hhonest := (planWholeFile reader.setting).honest h
  cases hrun : wholeFile reader.setting reader.state with
  | ok body s =>
    rw [hrun] at hhonest
    rw [program_of_ok hrun]
    exact hhonest
  | error e s =>
    rw [hrun] at hhonest
    rw [program_of_error hrun]
    exact List.forall_mem_append.mpr ⟨hhonest.2, List.forall_mem_singleton.mpr hhonest.1⟩

/-- A program is a tree, or there are diagnostics. -/
theorem program_ne_nothing (reader : Reader) :
    reader.program.1.tree? ≠ none ∨ reader.program.1.diagnostics ≠ [] := by
  cases hrun : wholeFile reader.setting reader.state with
  | ok body s =>
    rw [program_of_ok hrun]
    cases hdiagnostics : s.diagnostics with
    | nil => exact .inl nofun
    | cons e more => exact .inr nofun
  | error e s =>
    rw [program_of_error hrun]
    exact .inr (List.append_ne_nil_of_right_ne_nil _ (List.cons_ne_nil e []))

/-- A tree is the program around what was derived. -/
theorem wellShaped_of_tree? {tree : Node} (hdiagnostics : reader.state.diagnostics = [])
    (hroomy : reader.state.Roomy) (htree : reader.program.1.tree? = some tree) :
    tree.WellShaped := by
  rcases reader.program_cases hdiagnostics with ⟨body, t, hrun, hprogram⟩ |
    ⟨e, t, more, -, hprogram⟩
  · have hready : Ready reader.strict := ⟨length_fullDiagnostics, hroomy⟩
    have hverdict := verdict_wholeFile (g := reader.setting) hready
    rw [hrun] at hverdict
    rw [hprogram] at htree
    cases htree
    cases hverdict with
    | accepted hbody _ => exact (Derives.isStatement hbody).wellShaped
  · rw [hprogram] at htree
    cases htree

end Reader

/-- An error that an outcome is turned into is one of its diagnostics, if it has any. -/
theorem Outcome.mem_of_result {o : Outcome} {e : CompileError}
    (h : o.tree? ≠ none ∨ o.diagnostics ≠ []) (he : o.result = .error e) : e ∈ o.diagnostics := by
  obtain ⟨tree?, diagnostics⟩ := o
  cases diagnostics with
  | cons first more =>
    cases tree? <;> (cases he; exact List.mem_cons_self)
  | nil =>
    cases tree? with
    | none => exact absurd h (by simp)
    | some tree => cases he

/-- **Trees are well shaped and errors are about the input.** Whatever a source yields, reading a
program from it ends with a tree or with diagnostics. No diagnostic is about a malformed node, the
outcome never falls back on a missing program, and a tree has the shape of a program. -/
theorem program_well_shaped {surface : Surface} {source : TokenSource} {reader : Reader}
    (h : reader.Reached surface source) :
    (∀ e ∈ reader.program.1.diagnostics, ∀ defect, e ≠ .malformed defect) ∧
    (reader.program.1.tree? ≠ none ∨ reader.program.1.diagnostics ≠ []) ∧
    (∀ e, reader.program.1.result = .error e →
      e ∈ reader.program.1.diagnostics ∧ ∀ span, e ≠ .grammatical ⟨span, .noProgram⟩) ∧
    ∀ tree, reader.program.1.tree? = some tree → tree.WellShaped := by
  obtain ⟨hdiagnostics, hroomy⟩ := h.idle
  have hhonest := reader.honest_program (by
    rw [Reading.Honest, hdiagnostics]
    exact List.forall_mem_nil _)
  have hsome := reader.program_ne_nothing
  refine ⟨?_, hsome, ?_, fun tree => Reader.wellShaped_of_tree? hdiagnostics hroomy⟩
  · rintro e he defect rfl
    exact hhonest _ he
  · intro e he
    have hmem := Outcome.mem_of_result hsome he
    refine ⟨hmem, ?_⟩
    rintro span rfl
    exact hhonest _ hmem rfl

/-- Reading a loop, whose tree is well shaped. -/
theorem program_well_shaped_of_loop :
    ∃ reader tree, Reader.start .sml (lex "while a < 1 \x7b b = -2; \x7d") = .ok reader ∧
      reader.program.1.tree? = some tree ∧ tree.WellShaped := by
  have hrun : ((Reader.start .sml (lex "while a < 1 \x7b b = -2; \x7d")).toOption.bind
      fun reader => reader.program.1.tree?).isSome := by decide +kernel
  cases hstart : Reader.start .sml (lex "while a < 1 \x7b b = -2; \x7d") with
  | error e =>
    rw [hstart] at hrun
    cases hrun
  | ok reader =>
    rw [hstart] at hrun
    obtain ⟨tree, htree⟩ := Option.isSome_iff_exists.mp hrun
    exact ⟨reader, tree, rfl, htree, (program_well_shaped (.start hstart)).2.2.2 tree htree⟩

end TwinSyntax
