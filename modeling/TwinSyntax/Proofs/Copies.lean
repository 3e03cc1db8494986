import Mathlib.Data.List.Induction
import TwinSyntax.Tree.Compare

/-!
# Copies and comparisons

Copying a tree and comparing two trees keep what is left to do on a stack of their own. Both do what
a recursion over the trees would do.

**Copies** (`copyFrom?_visit`). Whatever else there is to do and whatever is built already, visiting
a tree puts the tree itself on top of what is built. When a node is to be put together, the trees on
top are its children, the last of them uppermost: enough of them can be taken off
(`pop?_reverse_append`), and they fit (`ofParts?_parts`). So copying never fails.

**Comparisons** (`Compares`). In which order pairs are compared plays no part, so it is left open
here: a round takes any pair off the list and puts the pairs of its children anywhere. No round
changes whether all pairs are equal (`Round.equal_iff`), and every round leaves fewer nodes to
compare (`Round.lt`). The comparison that is run is one of these (`compares_equalPairs`).

Main result: `copy_and_equality_structural`.
-/

namespace TwinSyntax.Node

/-! ## Copies -/

/-- What lies on top comes off in the order in which it was put there. -/
theorem pop?_reverse_append (children popped below : List Node) :
    pop? children.length (children.reverse ++ below) popped = some (children ++ popped, below) := by
  induction children using List.reverseRecOn generalizing popped with
  | nil => rfl
  | append_singleton front last ih =>
    rw [List.reverse_append, List.length_append, List.append_assoc front]
    exact ih (last :: popped)

/-- A node is put together from its children, and is the node that it was. -/
theorem copyFrom?_build (n : Node) (rest : List Task) (below : List Node) :
    copyFrom? (.build n :: rest) (n.children.reverse ++ below) = copyFrom? rest (n :: below) := by
  rw [copyFrom?, pop?_reverse_append, List.append_nil]
  dsimp only
  rw [ofParts?_parts]

/-- Trees are visited one after another, if visiting one of them only puts it on top. This holds of
any work on a stack of tasks. -/
theorem work_visits {Tree Task Result : Type} {visit : Tree → Task}
    {work : List Task → List Tree → Result} {trees : List Tree}
    (hvisit : ∀ tree ∈ trees, ∀ rest below,
      work (visit tree :: rest) below = work rest (tree :: below))
    (rest : List Task) (below : List Tree) :
    work (trees.map visit ++ rest) below = work rest (trees.reverse ++ below) := by
  induction trees generalizing below with
  | nil => rfl
  | cons tree trees ih =>
    obtain ⟨htree, htrees⟩ := List.forall_mem_cons.mp hvisit
    rw [List.map_cons, List.cons_append, htree, ih htrees, List.reverse_cons, List.append_assoc]
    rfl

/-- **Visiting a tree puts it on top** of what is built, whatever is left to do. -/
theorem copyFrom?_visit (n : Node) (rest : List Task) (below : List Node) :
    copyFrom? (.visit n :: rest) below = copyFrom? rest (n :: below) := by
  induction n using children_induction generalizing rest below with
  | step n ih => rw [copyFrom?, work_visits ih, copyFrom?_build]

theorem copyFrom?_root (n : Node) : copyFrom? [.visit n] [] = some [n] := by
  rw [copyFrom?_visit, copyFrom?]

theorem copy_eq (n : Node) : n.copy = n := by
  rw [copy, copyFrom?_root]

/-! ## Comparisons -/

/-- One round of a comparison. A pair of nodes that agree is taken off the list, from anywhere, and
the pairs of their children are put there, in any order. -/
inductive Round : List (Node × Node) → List (Node × Node) → Prop
  | children {pairs rest next : List (Node × Node)} {a b : Node} :
      pairs.Perm ((a, b) :: rest) → agree a b = true →
      next.Perm (a.children.zip b.children ++ rest) → Round pairs next

/-- A comparison of all pairs on a list, to its verdict. -/
inductive Compares : List (Node × Node) → Bool → Prop
  | done : Compares [] true
  | differ {pairs : List (Node × Node)} {a b : Node} :
      (a, b) ∈ pairs → agree a b = false → Compares pairs false
  | round {pairs next : List (Node × Node)} {verdict : Bool} :
      Round pairs next → Compares next verdict → Compares pairs verdict

variable {pairs next : List (Node × Node)} {a b : Node} {verdict : Bool}

/-- The two trees of every pair are equal. -/
def AllEqual (pairs : List (Node × Node)) : Prop := ∀ pair ∈ pairs, pair.1 = pair.2

theorem allEqual_cons : AllEqual ((a, b) :: pairs) ↔ a = b ∧ AllEqual pairs := List.forall_mem_cons

theorem allEqual_append : AllEqual (pairs ++ next) ↔ AllEqual pairs ∧ AllEqual next :=
  List.forall_mem_append

theorem allEqual_of_perm (h : pairs.Perm next) : AllEqual pairs ↔ AllEqual next :=
  forall_congr' fun _ => imp_congr_left h.mem_iff

/-- Of lists of one length, no member is lost when they are paired. -/
theorem allEqual_zip {xs ys : List Node} (h : xs.length = ys.length) :
    AllEqual (xs.zip ys) ↔ xs = ys := by
  induction xs generalizing ys with
  | nil =>
    cases ys with
    | nil => exact iff_of_true (List.forall_mem_nil _) rfl
    | cons y ys => cases h
  | cons x xs ih =>
    cases ys with
    | nil => cases h
    | cons y ys =>
      rw [List.zip_cons_cons, allEqual_cons, ih (Nat.succ.inj h), List.cons_eq_cons]

theorem agree_iff : agree a b = true ↔ a.kind = b.kind ∧ a.payload? = b.payload? ∧
    a.origin? = b.origin? ∧ a.children.length = b.children.length := by
  simp only [agree, Bool.and_eq_true, beq_iff_eq, and_assoc]

theorem ne_of_agree_eq_false (h : agree a b = false) : a ≠ b := by
  rintro rfl
  rw [agree_iff.mpr ⟨rfl, rfl, rfl, rfl⟩] at h
  cases h

/-- Nodes that agree are equal if their children are. -/
theorem eq_iff_of_agree (h : agree a b = true) : a = b ↔ AllEqual (a.children.zip b.children) := by
  obtain ⟨hkind, hpayload, horigin, hlength⟩ := agree_iff.mp h
  rw [allEqual_zip hlength]
  exact ⟨congrArg children, eq_of_parts hkind hpayload horigin⟩

/-- **A round changes nothing about equality.** -/
theorem Round.equal_iff (h : Round pairs next) : AllEqual pairs ↔ AllEqual next := by
  cases h with
  | children hpairs hagree hnext =>
    rw [allEqual_of_perm hpairs, allEqual_of_perm hnext, allEqual_cons, allEqual_append,
      eq_iff_of_agree hagree]

theorem totalSize_perm {xs ys : List Node} (h : xs.Perm ys) : totalSize xs = totalSize ys := by
  induction h with
  | nil => rfl
  | cons x _ ih => rw [totalSize, totalSize, ih]
  | swap x y xs => simp only [totalSize, Nat.add_left_comm]
  | trans _ _ ih ih' => exact ih.trans ih'

/-- **A round leaves fewer nodes to compare.** -/
theorem Round.lt (h : Round pairs next) :
    totalSize (next.map (·.1)) < totalSize (pairs.map (·.1)) := by
  cases h with
  | @children rest _ a b hpairs _ hnext =>
    have hle := totalSize_map_zip_le a.children b.children
    have hsize := size_eq a
    rw [totalSize_perm (hpairs.map _), totalSize_perm (hnext.map _), List.map_append, List.map_cons,
      totalSize_append, totalSize]
    dsimp only
    omega

/-- No comparison goes on for ever, whichever pairs it takes. -/
theorem wellFounded_round : WellFounded fun next pairs => Round pairs next := by
  have hmeasure := (measure fun pairs : List (Node × Node) => totalSize (pairs.map (·.1))).wf
  refine Subrelation.wf ?_ hmeasure
  intro next pairs h
  exact h.lt

theorem Compares.verdict_iff (h : Compares pairs verdict) : verdict = true ↔ AllEqual pairs := by
  induction h with
  | done => exact iff_of_true rfl (List.forall_mem_nil _)
  | differ hmem hagree =>
    refine iff_of_false Bool.false_ne_true fun hequal => ?_
    exact ne_of_agree_eq_false hagree (hequal _ hmem)
  | round hround _ ih => exact ih.trans hround.equal_iff.symm

/-- The comparison that is run takes the first pair and puts the pairs of its children in front. -/
theorem compares_equalPairs (pairs : List (Node × Node)) : Compares pairs (equalPairs pairs) := by
  fun_induction equalPairs pairs with
  | case1 => exact .done
  | case2 a b rest ih =>
    cases hagree : agree a b with
    | false => exact .differ List.mem_cons_self hagree
    | true => exact .round (.children (.refl _) hagree (.refl _)) ih

theorem beq_iff (a b : Node) : (a == b) = true ↔ a = b := by
  have h : equalPairs [(a, b)] = true ↔ AllEqual [(a, b)] := (compares_equalPairs _).verdict_iff
  rw [allEqual_cons] at h
  exact h.trans (and_iff_left (List.forall_mem_nil _))

/-- **Copies and comparisons are structural.** Copying a tree ends with the tree itself, put
together from the parts of its nodes: the trees that a node needs are always there, and nothing is
left over. Two trees are found equal exactly if they are. The order in which pairs are compared does
not matter: whichever it is, the verdict is the same one, and there is no comparison without end. -/
theorem copy_and_equality_structural :
    (∀ n : Node, copyFrom? [.visit n] [] = some [n] ∧ n.copy = n) ∧
    (∀ a b : Node, (a == b) = true ↔ a = b) ∧
    (∀ (a b : Node) (verdict : Bool), Compares [(a, b)] verdict ↔ (verdict = true ↔ a = b)) ∧
    WellFounded fun next pairs => Round pairs next := by
  refine ⟨fun n => ⟨copyFrom?_root n, copy_eq n⟩, beq_iff, fun a b verdict => ?_, wellFounded_round⟩
  have hrun : Compares [(a, b)] (a == b) := compares_equalPairs [(a, b)]
  constructor
  · intro h
    rw [h.verdict_iff, ← hrun.verdict_iff, beq_iff]
  · intro h
    have hverdict : verdict = (a == b) := Bool.eq_iff_iff.mpr (h.trans (beq_iff a b).symm)
    exact hverdict ▸ hrun

end TwinSyntax.Node
