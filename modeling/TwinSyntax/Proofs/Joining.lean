import TwinSyntax.Proofs.Statements
import TwinSyntax.Proofs.Words

/-!
# Programs one behind another

Two programs in a row are a program, with the statements of both. Three things have to be seen to.

**Places** (`Derives.relocate`). In the whole, tokens stand elsewhere and lines are counted
otherwise. A derivation is carried along, and its tree with it.

**What follows** (`Derives.change`). The first program was derived in front of the end of the file.
In the whole there is the second one behind it. A word that ends with a terminator of its own does
not mind, as long as no `else` follows.

**The tree** (`Program.append`). Lists are folded to the left, so the list of the second program is
taken apart and its members are added one by one. The statements come in the same order.
-/

namespace TwinSyntax.Phrases

open Grammar (Setting)

variable {g g' : Setting} {word u v : List Token} {next next' : TokenKind} {levels : Nat}
    {tree : Node}

/-! ## Places -/

section Relocate

variable {move : Token → Token} {place : Location → Location}

/-- What `move` does to a token, `place` does to its location. -/
def Moves (g g' : Setting) (move : Token → Token) (place : Location → Location) (token : Token) :
    Prop :=
  g'.locate (move token).span = place (g.locate token.span)

variable (hkind : ∀ token, (move token).kind = token.kind)
include hkind

theorem front_map (word : List Token) (next : TokenKind) :
    front (word.map move) next = front word next := by
  cases word with
  | nil => rfl
  | cons token word => exact hkind token

theorem Expression.relocate {least : Nat} (h : Expression g least levels word tree)
    (hword : ∀ token ∈ word, Moves g g' move place token) :
    Expression g' least levels (word.map move) (tree.relocate place) := by
  induction h with
  | leaf htoken =>
    rw [List.forall_mem_singleton] at hword
    rw [Node.relocate, ← hword]
    exact .leaf ((hkind _).trans htoken)
  | negate hminus _ ih =>
    rw [List.forall_mem_cons] at hword
    rw [Node.relocate, ← hword.1]
    exact .negate ((hkind _).trans hminus) (ih hword.2)
  | parens hopen _ hclose ih =>
    rw [List.forall_mem_cons, List.forall_mem_append] at hword
    rw [List.map_cons, List.map_append]
    exact .parens ((hkind _).trans hopen) (ih hword.2.1) ((hkind _).trans hclose)
  | binary _ hop hleast _ ihu ihv =>
    rw [List.forall_mem_append, List.forall_mem_cons] at hword
    rw [Node.relocate, ← hword.2.1, List.map_append, List.map_cons]
    exact .binary (ihu hword.1) ((hkind _).trans hop) hleast (ihv hword.2.2)

theorem Condition.relocate (h : Condition g levels word next tree)
    (hword : ∀ token ∈ word, Moves g g' move place token) :
    Condition g' levels (word.map move) next (tree.relocate place) := by
  induction h with
  | compare hu hrel hv hnext =>
    rw [List.forall_mem_append, List.forall_mem_cons] at hword
    rw [Node.relocate, ← hword.2.1, List.map_append, List.map_cons]
    exact .compare (hu.relocate hkind hword.1) ((hkind _).trans hrel) (hv.relocate hkind hword.2.2)
      hnext
  | parens hopen _ hclose ih =>
    rw [List.forall_mem_cons, List.forall_mem_append] at hword
    rw [List.map_cons, List.map_append]
    exact .parens ((hkind _).trans hopen) (ih hword.2.1) ((hkind _).trans hclose)

theorem Terminator.map {surface : Surface} (h : Terminator surface word next) :
    Terminator surface (word.map move) next := by
  cases h with
  | taken htoken => exact .taken ((hkind _).trans htoken)
  | ahead hsurface hnext => exact .ahead hsurface hnext

/-- **A derivation is carried along** with its tokens. -/
theorem Derives.relocate {phrase : Phrase} (h : Derives g phrase levels word next tree)
    (hword : ∀ token ∈ word, Moves g g' move place token) (hsurface : g'.surface = g.surface) :
    Derives g' phrase levels (word.map move) next (tree.relocate place) := by
  induction h with
  | assignment hname hassign hvalue hend =>
    rw [List.forall_mem_cons, List.forall_mem_cons, List.forall_mem_append] at hword
    rw [Node.relocate, Node.relocate, ← hword.1, ← hword.2.1, List.map_cons, List.map_cons,
      List.map_append]
    exact .assignment ((hkind _).trans hname) ((hkind _).trans hassign)
      (hvalue.relocate hkind hword.2.2.1) (hsurface ▸ hend.map hkind)
  | expression hvalue hend =>
    rw [List.forall_mem_append] at hword
    rw [List.map_append]
    exact .expression (hvalue.relocate hkind hword.1) (hsurface ▸ hend.map hkind)
  | loop hkey hcond _ ih =>
    rw [List.forall_mem_cons, List.forall_mem_append] at hword
    rw [Node.relocate, ← hword.1, List.map_cons, List.map_append]
    refine .loop ((hkind _).trans hkey) ?_ (ih hword.2.2)
    rw [front_map hkind]
    exact hcond.relocate hkind hword.2.1
  | ofConditional _ ih => exact .ofConditional (ih hword)
  | ofBlock _ ih => exact .ofBlock (ih hword)
  | alone hkey hcond _ hnext ih =>
    rw [List.forall_mem_cons, List.forall_mem_append] at hword
    rw [Node.relocate, ← hword.1, List.map_cons, List.map_append]
    refine .alone ((hkind _).trans hkey) ?_ (ih hword.2.2) hnext
    rw [front_map hkind]
    exact hcond.relocate hkind hword.2.1
  | both hkey hcond _ hmiddle _ ihthen ihelse =>
    rw [List.forall_mem_cons, List.forall_mem_append, List.forall_mem_append,
      List.forall_mem_cons] at hword
    rw [Node.relocate, ← hword.1, List.map_cons, List.map_append, List.map_append, List.map_cons]
    refine .both ((hkind _).trans hkey) ?_ (ihthen hword.2.2.1) ((hkind _).trans hmiddle)
      (ihelse hword.2.2.2.2)
    rw [front_map hkind]
    exact hcond.relocate hkind hword.2.1
  | block hopen _ hclose ih =>
    rw [List.forall_mem_cons, List.forall_mem_append] at hword
    rw [List.map_cons, List.map_append]
    exact .block ((hkind _).trans hopen) (ih hword.2.1) ((hkind _).trans hclose)
  | bodyStatement hmyrmidon _ ih => exact .bodyStatement (hsurface.trans hmyrmidon) (ih hword)
  | bodyBlock hsml _ ih => exact .bodyBlock (hsurface.trans hsml) (ih hword)
  | ofBody _ ih => exact .ofBody (ih hword)
  | chained hsml _ ih => exact .chained (hsurface.trans hsml) (ih hword)
  | empty htoken => exact .empty ((hkind _).trans (hsurface ▸ htoken))
  | ofStatement _ ih => exact .ofStatement (ih hword)
  | first _ ih => exact .first (ih hword)
  | more _ _ ihlist ihtree =>
    rw [List.forall_mem_append] at hword
    rw [List.map_append, Node.relocate]
    refine .more ?_ (ihtree hword.2)
    rw [front_map hkind]
    exact ihlist hword.1
  | none => exact .none
  | some _ ih => exact .some (ih hword)

end Relocate

/-! ## What follows -/

/-- Nothing behind the word can belong to its last statement: on the surface that ends statements
with line breaks, the word ends with one. -/
def Ended (surface : Surface) (word : List Token) : Prop :=
  ∀ token, surface = .myrmidon → word.getLast? = some token → token.kind = .endOfLine

theorem Ended.of_append {surface : Surface} (h : Ended surface (u ++ v)) : Ended surface v := by
  intro token hsurface hlast
  refine h token hsurface ?_
  rw [List.getLast?_append, hlast, Option.some_or]

/-- An expression at the end has to be followed by its terminator. -/
theorem Terminator.change {least : Nat} (h : Terminator g.surface v next)
    (hu : Expression g least levels u tree) (hended : Ended g.surface (u ++ v)) :
    Terminator g.surface v next' := by
  cases h with
  | taken htoken => exact .taken htoken
  | ahead hsurface _ =>
    obtain ⟨token, rest, rfl, -⟩ := hu.starts
    rw [List.append_nil] at hended
    have hlast := List.getLast?_eq_some_getLast (List.cons_ne_nil token rest)
    exact absurd (hended _ hsurface hlast) (hu.kinds _ (List.getLast_mem _)).ne.2.1

/-- **A word that is ended** stays the same phrase in front of anything but `else`. -/
theorem Derives.change {phrase : Phrase} (h : Derives g phrase levels word next tree)
    (hended : Ended g.surface word) (hnext : next' ≠ .elseWord) :
    Derives g phrase levels word next' tree := by
  induction h with
  | @assignment _ target assign _ _ _ _ _ hname hassign hvalue hend =>
    exact .assignment hname hassign hvalue
      (hend.change hvalue (Ended.of_append (u := [target, assign]) hended))
  | expression hvalue hend => exact .expression hvalue (hend.change hvalue hended)
  | @loop _ keyword u _ _ _ _ hkey hcond hbody ih =>
    refine .loop hkey ?_ (ih (Ended.of_append (u := keyword :: u) hended))
    rw [hbody.front_eq (by simp)]
    exact hcond
  | @alone _ keyword u _ _ _ _ hkey hcond hbody _ ih =>
    refine .alone hkey ?_ (ih (Ended.of_append (u := keyword :: u) hended)) hnext
    rw [hbody.front_eq (by simp)]
    exact hcond
  | @both _ keyword middle u v w _ _ _ _ hkey hcond hthen hmiddle _ _ ih =>
    have hended' : Ended g.surface ((keyword :: (u ++ (v ++ [middle]))) ++ w) := by
      simpa using hended
    exact .both hkey hcond hthen hmiddle (ih hended'.of_append)
  | more hlist hmember _ ih =>
    refine .more ?_ (ih hended.of_append)
    rw [hmember.front_eq (by simp)]
    exact hlist
  | block hopen hlist hclose _ => exact .block hopen hlist hclose
  | bodyStatement hmyrmidon _ ih => exact .bodyStatement hmyrmidon (ih hended)
  | bodyBlock hsml _ ih => exact .bodyBlock hsml (ih hended)
  | ofConditional _ ih => exact .ofConditional (ih hended)
  | ofBlock _ ih => exact .ofBlock (ih hended)
  | ofBody _ ih => exact .ofBody (ih hended)
  | chained hsml _ ih => exact .chained hsml (ih hended)
  | empty htoken => exact .empty htoken
  | ofStatement _ ih => exact .ofStatement (ih hended)
  | first _ ih => exact .first (ih hended)
  | none => exact .none
  | some _ ih => exact .some (ih hended)

/-! ## The tree -/

/-- The members of a list, added one by one to another one. -/
theorem Derives.several_append {list : Node} (hu : Derives g .several levels u (front v next) list)
    (hv : Derives g .several levels v next tree) :
    ∃ joined, Derives g .several levels (u ++ v) next joined ∧
      joined.statements = list.statements ++ tree.statements := by
  generalize hphrase : Phrase.several = phrase at hv
  induction hv with
  | first hmember _ => exact ⟨_, .more hu hmember, Node.statements_sequence _ _⟩
  | @more _ u' v' _ list' tree _ hmember ihlist _ =>
    rw [front_append] at hu
    obtain ⟨joined, hjoined, hstatements⟩ := ihlist hu rfl
    refine ⟨.sequence joined tree, ?_, ?_⟩
    · rw [← List.append_assoc]
      exact .more hjoined hmember
    · rw [Node.statements_sequence, Node.statements_sequence, hstatements, List.append_assoc]
  | _ => cases hphrase

/-- A program does not start with `else`. -/
theorem Program.ne_else (h : Program g levels word tree) : front word .endOfFile ≠ .elseWord := by
  cases h with
  | none => exact nofun
  | some h => exact h.ne_else (by simp)

/-- **Two programs in a row** are a program, with the statements of both. -/
theorem Program.append {body : Node} (hu : Program g levels u body) (hended : Ended g.surface u)
    (hv : Program g levels v tree) :
    ∃ joined, Program g levels (u ++ v) joined ∧
      joined.statements = body.statements ++ tree.statements := by
  have hchanged := Derives.change hu hended hv.ne_else
  cases hv with
  | none =>
    refine ⟨body, ?_, ?_⟩
    · rw [List.append_nil]
      exact hu
    · rw [Node.statements_eos, List.append_nil]
  | some hv =>
    cases hchanged with
    | none =>
      refine ⟨tree, .some hv, ?_⟩
      rw [Node.statements_eos, List.nil_append]
    | some hu =>
      obtain ⟨joined, hjoined, hstatements⟩ := hu.several_append hv
      exact ⟨joined, .some hjoined, hstatements⟩

end TwinSyntax.Phrases
