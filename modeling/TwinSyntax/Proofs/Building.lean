import Mathlib.Data.List.Basic
import Mathlib.Data.Set.List
import TwinSyntax.Proofs.Copies
import TwinSyntax.Proofs.Shapes
import TwinSyntax.Tree.Record

/-!
# Building nodes

A node is stored as a record of four fields, and nothing about a record keeps its fields from
contradicting each other. There is one way to fill a record that looks at the fields it is given.
The others do not look: leaves, sentinels, roots and copies are filled as they are.

**Fields that fit** (`WellFormed`). A kind goes with a number of children, with a value or none, and
with a location or none. The way that looks succeeds exactly if the fields fit and the kind is no
leaf (`exists_operand_iff`).

**Copies** (`cloneFrom?_visit`). Visiting a record puts the record itself on top of what is built,
whatever lies there and whatever is left to do. So when a record is to be put together, its children
lie on top, the last of them uppermost. No check is needed for the copy to have the fields of the
original.

**Histories** (`Built`). A record that one comes by was filled in one of these ways, from records
that one came by before, or it is a child of one. The induction goes over the ways. Each of them has
to answer for the four fields that it fills; what lies below is well formed by induction
(`Built.wellFormed`).

**Trees** (`Node.record`). The records below which everything is well formed are those of the trees
(`exists_record_iff`), so the type of trees leaves out nothing that can be built, and has nothing
that cannot. Building from parts does the same to a tree as to its record (`record_interior`).

Main result: `built_nodes_are_well_formed`.
-/

namespace TwinSyntax

/-- The numbers of children that go with a kind: a sentinel is an empty statement or joins two, a
program and a negation are about one thing, a conditional has two branches, leaves have nothing
below them, and everything else has two sides. -/
def Operand.Takes (count : Nat) : Operand → Prop
  | eos => count = 0 ∨ count = 2
  | program | negate => count = 1
  | conditional => count = 3
  | integer | number | identifier => count = 0
  | assign | loop | relation _ | arithmetic _ => count = 2

theorem Operand.acceptsArity_iff {kind : Operand} {count : Nat} :
    kind.acceptsArity count = true ↔ kind.Takes count := by
  cases kind <;> simp [acceptsArity, arities, Takes]

namespace Record

variable {kind : Operand} {origin : Option Location} {children : List Record} {r m : Record}
  {refusal : MalformedNode}

/-! ## Fields that fit -/

/-- The fields of a record go with each other. -/
structure WellFormed (r : Record) : Prop where
  /-- There are as many children as the kind takes. -/
  arity : r.kind.Takes r.children.length
  /-- Leaves have a value, and it is of their kind; nothing else has one. -/
  payload : r.payload?.map Payload.kind = if r.kind.isLeaf then some r.kind else none
  /-- Sentinels come from nowhere, and everything else from somewhere. -/
  origin : r.origin? = none ↔ r.kind = .eos

/-- The records that a tree of records is made of, itself among them. -/
inductive Within : Record → Record → Prop
  | root {tree : Record} : Within tree tree
  | deeper {r child tree : Record} : child ∈ tree.children → Within r child → Within r tree

/-- There are records whose fields contradict each other. -/
example : ¬ (⟨.negate, [], none, none⟩ : Record).WellFormed := fun h => nomatch h.arity

/-! ## The checked way -/

/-- Fields that pass all checks are filled in as they are. -/
theorem operand_of_checks (hleaf : kind.isLeaf = false)
    (harity : kind.acceptsArity children.length = true) (horigin : origin = none ↔ kind = .eos) :
    operand kind origin children = .ok ⟨kind, children, none, origin⟩ := by
  rw [operand.eq_def, hleaf, harity]
  cases origin with
  | none =>
    obtain rfl := horigin.mp rfl
    rfl
  | some place =>
    have hkind : kind ≠ .eos := fun heos => nomatch horigin.mpr heos
    cases kind with
    | eos => exact absurd rfl hkind
    | _ => rfl

theorem WellFormed.operand_eq (h : (⟨kind, children, none, origin⟩ : Record).WellFormed) :
    operand kind origin children = .ok ⟨kind, children, none, origin⟩ := by
  have hleaf : kind.isLeaf = false := by simpa using h.payload
  exact operand_of_checks hleaf (Operand.acceptsArity_iff.mpr h.arity) h.origin

/-- What comes out of the checked way has passed the checks, and has the fields that were given. -/
theorem checks_of_operand (h : operand kind origin children = .ok r) :
    (kind.isLeaf = false ∧ kind.acceptsArity children.length = true ∧
      (origin = none ↔ kind = .eos)) ∧ r = ⟨kind, children, none, origin⟩ := by
  unfold operand at h
  split at h
  · cases h
  next hleaf =>
  split at h
  · cases h
  next harity =>
  refine ⟨⟨by simpa using hleaf, by simpa using harity, ?_⟩, ?_⟩
  · split at h
    · cases h
    · exact iff_of_true rfl rfl
    · next hkind => exact iff_of_false nofun fun heos => hkind heos
    · cases h
  · split at h
    · cases h
    · exact (Except.ok.inj h).symm
    · exact (Except.ok.inj h).symm
    · cases h

/-- The checked way names the first thing that is wrong with the fields, whatever the children
are. -/
theorem refusal_of_operand {nodes : List Node} (hlength : children.length = nodes.length)
    (h : operand kind origin children = .error refusal) :
    refusal = ⟨kind, Node.defect kind nodes⟩ := by
  unfold operand at h
  rw [hlength] at h
  unfold Node.defect
  split at h
  · next hleaf => rw [if_pos hleaf, Except.error.inj h]
  next hleaf =>
  split at h
  · next harity => rw [if_neg hleaf, if_pos harity, Except.error.inj h]
  next harity =>
  rw [if_neg hleaf, if_neg harity]
  split at h
  · rw [if_pos rfl, Except.error.inj h]
  · cases h
  · cases h
  · next hkind => rw [if_neg hkind, Except.error.inj h]

/-- **The checked way succeeds exactly on fields that fit.** -/
theorem exists_operand_iff : (∃ r, operand kind origin children = .ok r) ↔
    kind.isLeaf = false ∧ kind.acceptsArity children.length = true ∧
      (origin = none ↔ kind = .eos) := by
  constructor
  · rintro ⟨r, hr⟩
    exact (checks_of_operand hr).1
  · rintro ⟨hleaf, harity, horigin⟩
    exact ⟨_, operand_of_checks hleaf harity horigin⟩

/-! ## Copies -/

theorem mk_fields (r : Record) : (⟨r.kind, r.children, r.payload?, r.origin?⟩ : Record) = r := by
  cases r
  rfl

/-- A record is put together from its children, and is the record that it was. -/
theorem cloneFrom?_build (r : Record) (rest : List Task) (below : List Record) :
    cloneFrom? (.build r :: rest) (r.children.reverse ++ below) = cloneFrom? rest (r :: below) := by
  have hlength : r.children.reverse.length = r.children.length := List.length_reverse
  have henough : ¬ (r.children.reverse ++ below).length < r.children.length := by
    rw [List.length_append]
    omega
  rw [cloneFrom?]
  dsimp only
  rw [if_neg henough, List.take_left' hlength, List.drop_left' hlength, List.reverse_reverse,
    mk_fields]

/-- **Visiting a record puts it on top** of what is built, whatever is left to do. -/
theorem cloneFrom?_visit (r : Record) (rest : List Task) (below : List Record) :
    cloneFrom? (.visit r :: rest) below = cloneFrom? rest (r :: below) := by
  induction r using children_induction generalizing rest below with
  | step r ih => rw [cloneFrom?, Node.work_visits ih, cloneFrom?_build]

/-- A copy is always there, and is the record that it is a copy of. -/
theorem clone_eq (r : Record) : r.clone = some r := by
  rw [clone, cloneFrom?_visit, cloneFrom?]
  rfl

/-! ## Histories -/

/-- The records that one can come by. -/
inductive Built : Record → Prop
  /-- Filled with a check. -/
  | operand {kind : Operand} {origin : Option Location} {children : List Record} {r : Record} :
      (∀ child ∈ children, Built child) → operand kind origin children = .ok r → Built r
  | integer (origin : Location) (value : Int) : Built (integer origin value)
  | number (origin : Location) (value : Rat) : Built (number origin value)
  | identifier (origin : Location) (name : String) : Built (identifier origin name)
  /-- An empty statement. -/
  | eos : Built eos
  /-- Two statements joined. -/
  | sequence {first second : Record} : Built first → Built second → Built (sequence first second)
  /-- A root around a body. -/
  | program {body : Record} (origin : Location) : Built body → Built (program origin body)
  /-- A copy. -/
  | clone {r copy : Record} : Built r → r.clone = some copy → Built copy
  /-- A child. -/
  | child {r child : Record} {index : Nat} : Built r → r.child? index = some child → Built child

/-- Fields that pass all checks fit. -/
theorem wellFormed_operand (h : operand kind origin children = .ok r) : r.WellFormed := by
  obtain ⟨⟨hleaf, harity, horigin⟩, rfl⟩ := checks_of_operand h
  exact ⟨Operand.acceptsArity_iff.mp harity, by rw [hleaf]; rfl, horigin⟩

theorem wellFormed_leaf (origin : Location) (value : Payload) : (leaf origin value).WellFormed := by
  cases value <;> exact ⟨rfl, rfl, iff_of_false nofun nofun⟩

theorem wellFormed_eos : eos.WellFormed := ⟨Or.inl rfl, rfl, iff_of_true rfl rfl⟩

theorem wellFormed_sequence (first second : Record) : (sequence first second).WellFormed :=
  ⟨Or.inr rfl, rfl, iff_of_true rfl rfl⟩

theorem wellFormed_program (origin : Location) (body : Record) : (program origin body).WellFormed :=
  ⟨rfl, rfl, iff_of_false nofun nofun⟩

/-- All records of a tree are well formed if its root is, and all those below its children are. -/
theorem wellFormed_of_children (hroot : r.WellFormed)
    (hbelow : ∀ child ∈ r.children, ∀ m : Record, m.Within child → m.WellFormed)
    (hm : m.Within r) : m.WellFormed := by
  cases hm with
  | root => exact hroot
  | deeper hchild hm => exact hbelow _ hchild m hm

/-- **No way of filling a record breaks the rules**, checked or not. -/
theorem Built.wellFormed (h : Built r) (hm : m.Within r) : m.WellFormed := by
  induction h generalizing m with
  | operand _ hok ih =>
    have hroot := wellFormed_operand hok
    obtain ⟨-, rfl⟩ := checks_of_operand hok
    exact wellFormed_of_children hroot (fun child hchild m => ih child hchild) hm
  | integer | number | identifier =>
    exact wellFormed_of_children (wellFormed_leaf _ _) (List.forall_mem_nil _) hm
  | eos => exact wellFormed_of_children wellFormed_eos (List.forall_mem_nil _) hm
  | sequence _ _ ihfirst ihsecond =>
    refine wellFormed_of_children (wellFormed_sequence _ _) ?_ hm
    exact List.forall_mem_cons.mpr
      ⟨fun m => ihfirst, List.forall_mem_singleton.mpr fun m => ihsecond⟩
  | program origin _ ih =>
    refine wellFormed_of_children (wellFormed_program origin _) ?_ hm
    exact List.forall_mem_singleton.mpr fun m => ih
  | @clone r copy _ hcopy ih =>
    obtain rfl : r = copy := Option.some.inj ((clone_eq r).symm.trans hcopy)
    exact ih hm
  | child _ hchild ih => exact ih (.deeper (List.mem_of_getElem? hchild) hm)

/-! ## Trees -/

/-- The fields of a node fit. -/
theorem wellFormed_record (n : Node) : n.record.WellFormed := by
  cases n with
  | leaf value origin => exact wellFormed_leaf origin value
  | eos => exact wellFormed_eos
  | sequence first second => exact wellFormed_sequence _ _
  | program origin body => exact wellFormed_program origin _
  | _ => exact ⟨rfl, rfl, iff_of_false nofun nofun⟩

/-- Of lists of nodes, none is lost when they are stored if none of the nodes is. -/
theorem nodes_eq_of_records {xs ys : List Node}
    (hnode : ∀ x ∈ xs, ∀ y : Node, x.record = y.record → x = y)
    (h : xs.map Node.record = ys.map Node.record) : xs = ys := by
  induction xs generalizing ys with
  | nil => exact (List.map_eq_nil_iff.mp h.symm).symm
  | cons x xs ih =>
    obtain ⟨hx, hxs⟩ := List.forall_mem_cons.mp hnode
    cases ys with
    | nil => cases h
    | cons y ys =>
      obtain ⟨hhead, htail⟩ := List.cons.inj h
      rw [hx y hhead, ih hxs htail]

theorem record_injective : Function.Injective Node.record := by
  intro a b
  induction a using Node.children_induction generalizing b with
  | step a ih =>
    intro h
    rw [a.record_eq, b.record_eq] at h
    obtain ⟨hkind, hchildren, hpayload, horigin⟩ := Record.mk.inj h
    exact Node.eq_of_parts hkind hpayload horigin
      (nodes_eq_of_records (fun c hc _ => @ih c hc _) hchildren)

/-- A node that is put together from parts is stored as these parts. -/
theorem record_of_interior? {nodes : List Node} {n : Node}
    (h : Node.interior? kind origin nodes = some n) :
    n.record = ⟨kind, nodes.map Node.record, none, origin⟩ := by
  unfold Node.interior? at h
  split at h
  case h_10 => cases h
  all_goals
    obtain rfl := Option.some.inj h
    rfl

/-- Parts that fit, without a value, can be put together. -/
theorem exists_interior? {nodes : List Node} (hleaf : kind.isLeaf = false)
    (harity : kind.Takes nodes.length) (horigin : origin = none ↔ kind = .eos) :
    ∃ n, Node.interior? kind origin nodes = some n := by
  have hlocated (hkind : kind ≠ .eos) : ∃ place, origin = some place :=
    Option.ne_none_iff_exists'.mp fun hnone => hkind (horigin.mp hnone)
  cases kind with
  | eos =>
    obtain rfl := horigin.mpr rfl
    rcases harity with hlength | hlength
    · obtain rfl := List.length_eq_zero_iff.mp hlength
      exact ⟨_, rfl⟩
    · obtain ⟨first, second, rfl⟩ := List.length_eq_two.mp hlength
      exact ⟨_, rfl⟩
  | program | negate =>
    obtain ⟨place, rfl⟩ := hlocated nofun
    obtain ⟨child, rfl⟩ := List.length_eq_one_iff.mp harity
    exact ⟨_, rfl⟩
  | conditional =>
    obtain ⟨place, rfl⟩ := hlocated nofun
    obtain ⟨condition, thenBranch, elseBranch, rfl⟩ := List.length_eq_three.mp harity
    exact ⟨_, rfl⟩
  | assign | loop | relation rel | arithmetic op =>
    obtain ⟨place, rfl⟩ := hlocated nofun
    obtain ⟨left, right, rfl⟩ := List.length_eq_two.mp harity
    exact ⟨_, rfl⟩
  | integer | number | identifier => cases hleaf

/-- A record of nodes is a node if its fields fit. -/
theorem WellFormed.exists_node {nodes : List Node} {payload : Option Payload}
    (h : (⟨kind, nodes.map Node.record, payload, origin⟩ : Record).WellFormed) :
    ∃ n : Node, n.record = ⟨kind, nodes.map Node.record, payload, origin⟩ := by
  obtain ⟨harity, hpayload, horigin⟩ := h
  dsimp only at harity hpayload horigin
  rw [List.length_map] at harity
  cases hleaf : kind.isLeaf with
  | false =>
    rw [hleaf] at hpayload
    obtain rfl := Option.map_eq_none_iff.mp hpayload
    obtain ⟨n, hn⟩ := exists_interior? hleaf harity horigin
    exact ⟨n, record_of_interior? hn⟩
  | true =>
    rw [hleaf, if_pos rfl] at hpayload
    obtain ⟨value, rfl, rfl⟩ := Option.map_eq_some_iff.mp hpayload
    have hplace : origin ≠ none := fun hnone => by
      rw [horigin.mp hnone] at hleaf
      cases hleaf
    obtain ⟨place, rfl⟩ := Option.ne_none_iff_exists'.mp hplace
    have hlength : nodes.length = 0 := by cases value <;> exact harity
    obtain rfl := List.length_eq_zero_iff.mp hlength
    exact ⟨.leaf value place, rfl⟩

/-- Everything below a node is well formed. -/
theorem wellFormed_of_within_record {n : Node} (hm : m.Within n.record) : m.WellFormed := by
  induction n using Node.children_induction generalizing m with
  | step n ih =>
    refine wellFormed_of_children (wellFormed_record n) (fun child hchild m hm => ?_) hm
    rw [n.record_eq] at hchild
    obtain ⟨c, hc, rfl⟩ := List.mem_map.mp hchild
    exact ih c hc hm

/-- **The trees are the records below which all fields fit.** -/
theorem exists_record_iff :
    (∃ n : Node, n.record = r) ↔ ∀ m : Record, m.Within r → m.WellFormed := by
  constructor
  · rintro ⟨n, rfl⟩ m hm
    exact wellFormed_of_within_record hm
  · intro h
    induction r using children_induction with
    | step r ih =>
      have hnodes : r.children ∈ Set.range (List.map Node.record) := by
        rw [Set.range_list_map]
        exact fun child hchild => ih child hchild fun m hm => h m (.deeper hchild hm)
      obtain ⟨nodes, hnodes⟩ := hnodes
      have hroot := h r .root
      rw [← mk_fields r, ← hnodes] at hroot
      obtain ⟨n, hn⟩ := hroot.exists_node
      exact ⟨n, by rw [hn, hnodes, mk_fields]⟩

/-- Every tree can be built, from the leaves up. -/
theorem built_record (n : Node) : n.record.Built := by
  induction n using Node.children_induction with
  | step n ih =>
    have hchildren : ∀ child ∈ n.children.map Node.record, Built child := List.forall_mem_map.mpr ih
    have hroot := wellFormed_record n
    cases n with
    | leaf value origin =>
      cases value with
      | integer value => exact .integer origin value
      | number value => exact .number origin value
      | identifier name => exact .identifier origin name
    | _ => exact .operand hchildren hroot.operand_eq

/-- **What can be built is what is a tree.** -/
theorem built_iff_exists_node : r.Built ↔ ∃ n : Node, n.record = r := by
  constructor
  · intro h
    exact exists_record_iff.mpr fun m hm => h.wellFormed hm
  · rintro ⟨n, rfl⟩
    exact built_record n

/-- A tree is built from parts as its record is from the records of the parts, and the same is wrong
with the parts if it is not. -/
theorem record_interior (kind : Operand) (origin : Option Location) (nodes : List Node) :
    (Node.interior kind origin nodes).map Node.record =
      operand kind origin (nodes.map Node.record) := by
  cases hnode : Node.interior? kind origin nodes with
  | some n =>
    have hrecord := record_of_interior? hnode
    have hfits := wellFormed_record n
    rw [hrecord] at hfits
    rw [Node.interior, hnode, hfits.operand_eq]
    exact congrArg Except.ok hrecord
  | none =>
    rw [Node.interior, hnode]
    cases hrecord : operand kind origin (nodes.map Node.record) with
    | ok r =>
      obtain ⟨⟨hleaf, harity, horigin⟩, -⟩ := checks_of_operand hrecord
      rw [Operand.acceptsArity_iff, List.length_map] at harity
      obtain ⟨n, hn⟩ := exists_interior? hleaf harity horigin
      cases hnode.symm.trans hn
    | error refusal =>
      rw [refusal_of_operand (List.length_map _) hrecord]
      rfl

/-- **Only well-formed nodes are built.** The checked way to fill a record succeeds exactly if the
kind is no leaf, takes as many children as there are, and goes with a location or with none as
given; the record has the fields that were given then. A copy has the fields of the original, and is
always there. A record that was filled in any of the ways, however many steps ago and from whatever
records, has below it only records whose fields fit each other. These records are the trees: every
one is a tree, every tree is one, and none is two trees. Building a tree from parts, taking a child
and copying do to the tree what they do to its record. -/
theorem built_nodes_are_well_formed :
    (∀ (kind : Operand) (origin : Option Location) (children : List Record),
      (∃ r, operand kind origin children = .ok r) ↔
        kind.isLeaf = false ∧ kind.acceptsArity children.length = true ∧
          (origin = none ↔ kind = .eos)) ∧
    (∀ (kind : Operand) (origin : Option Location) (children : List Record) (r : Record),
      operand kind origin children = .ok r → r = ⟨kind, children, none, origin⟩) ∧
    (∀ r : Record, r.clone = some r) ∧
    (∀ r m : Record, r.Built → m.Within r → m.WellFormed) ∧
    (∀ r : Record, r.Built ↔ ∃ n : Node, n.record = r) ∧
    Function.Injective Node.record ∧
    (∀ (kind : Operand) (origin : Option Location) (nodes : List Node),
      (Node.interior kind origin nodes).map Node.record =
        operand kind origin (nodes.map Node.record)) ∧
    (∀ (n : Node) (index : Nat), n.children[index]?.map Node.record = n.record.child? index) ∧
    (∀ n : Node, some n.copy.record = n.record.clone) := by
  refine ⟨fun _ _ _ => exists_operand_iff, fun _ _ _ _ hok => (checks_of_operand hok).2, clone_eq,
    fun _ _ hr hm => hr.wellFormed hm, fun _ => built_iff_exists_node, record_injective,
    record_interior, fun n index => ?_, fun n => ?_⟩
  · rw [n.record_eq, child?, List.getElem?_map]
  · rw [Node.copy_eq, clone_eq]

end Record

end TwinSyntax
