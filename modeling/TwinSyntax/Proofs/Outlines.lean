import TwinSyntax.Proofs.Legible
import TwinSyntax.Proofs.Preorder
import TwinSyntax.Proofs.Relocation
import TwinSyntax.Tree.Render
import TwinSyntax.Viewer.TreePane

/-!
# An outline determines its tree

**Rows** (`rows_readable`). A list of rows, parents before children, each with its depth. Behind the
rows of a tree comes a row that is no deeper than the root of the tree, or none: that is where its
children end. So trees with equal rows have equal roots and as many children, with equal rows again.
What a row holds of a node determines all of it but the text of its line (`same_of_row`).

**Lines** (`written_inj`). The outline of a tree is the text of its rows, one on each line. Depth,
kind, value and span are read back from a line in this order. No line break is in a line, so the
lines can be read back from the outline (`lines_inj`).

Main result: `outline_determines_tree`.
-/

namespace TwinSyntax

/-- The span alone, without the text of its line. -/
def Location.bare (location : Location) : Location := { location with lineText := "" }

namespace Node

variable {a b n : Node} {depth : Nat}

/-! ## Rows -/

/-- The rows of a tree whose root is at this depth. -/
def rows (depth : Nat) (n : Node) : List TreeRow :=
  (n.preorder depth).map fun (depth, node) => TreeRow.ofNode depth node

theorem rows_eq (depth : Nat) (n : Node) :
    n.rows depth = TreeRow.ofNode depth n :: n.children.flatMap (rows (depth + 1)) := by
  rw [rows, preorder_eq, List.map_cons, List.map_flatMap]
  rfl

theorem ofTree_eq_rows (n : Node) : TreeRow.ofTree n = n.rows 0 := by
  rw [TreeRow.ofTree, walk_eq_preorder]
  rfl

/-- Values of one kind with the same text are equal. -/
theorem payload?_inj (hkind : a.kind = b.kind)
    (h : a.payload?.map Payload.render = b.payload?.map Payload.render) :
    a.payload? = b.payload? := by
  have hkinds := payload?_kind_congr hkind
  cases ha : a.payload? with
  | none =>
    rw [ha] at h
    exact (Option.map_eq_none_iff.mp h.symm).symm
  | some value =>
    rw [ha] at h hkinds
    obtain ⟨value', hvalue', hrender⟩ := Option.map_eq_some_iff.mp h.symm
    rw [hvalue', Option.map_some, Option.map_some] at hkinds
    rw [hvalue', Payload.render_inj (Option.some.inj hkinds) hrender.symm]

/-- **A row determines its node**, but for its children and the text of its line. -/
theorem same_of_row (h : TreeRow.ofNode depth a = TreeRow.ofNode depth b)
    (hchildren :
      a.children.map (relocate Location.bare) = b.children.map (relocate Location.bare)) :
    a.relocate Location.bare = b.relocate Location.bare := by
  obtain ⟨-, hkind, hpayload, hspan⟩ := TreeRow.mk.inj h
  refine relocate_eq_of_parts hkind (payload?_inj hkind hpayload) ?_ hchildren
  have hbare : Location.bare = (fun span => ⟨span, ""⟩) ∘ Location.span := rfl
  rw [hbare, ← Option.map_map, ← Option.map_map, hspan]

/-- The next row belongs to a tree further up. -/
def Above (depth : Nat) (rest : List TreeRow) : Prop := ∀ row ∈ rest.head?, row.depth < depth

variable {rest rest' : List TreeRow}

/-- The tree can be read back from its rows, whatever stands behind them. -/
def RowsReadable (a : Node) : Prop :=
  ∀ ⦃b : Node⦄ ⦃depth : Nat⦄ ⦃rest rest' : List TreeRow⦄, Above (depth + 1) rest →
    Above (depth + 1) rest' → a.rows depth ++ rest = b.rows depth ++ rest' →
    a.relocate Location.bare = b.relocate Location.bare ∧ rest = rest'

theorem above_siblings (h : Above depth rest) (siblings : List Node) :
    Above (depth + 1) (siblings.flatMap (rows depth) ++ rest) := by
  cases siblings with
  | nil => exact fun row hrow => Nat.lt_succ_of_lt (h row hrow)
  | cons n siblings =>
    intro row hrow
    rw [List.flatMap_cons, rows_eq] at hrow
    cases hrow
    exact Nat.lt_succ_self depth

/-- Where rows further up come next, there are no siblings. -/
theorem not_above_sibling {siblings : List Node} :
    ¬ Above depth ((n :: siblings).flatMap (rows depth) ++ rest) := by
  intro h
  rw [List.flatMap_cons, rows_eq] at h
  exact absurd (h _ rfl) (Nat.lt_irrefl depth)

/-- **Siblings are read one after another**, and there are as many of them. -/
theorem siblings_readable {xs ys : List Node} (hxs : ∀ x ∈ xs, RowsReadable x)
    (hrest : Above depth rest) (hrest' : Above depth rest')
    (h : xs.flatMap (rows depth) ++ rest = ys.flatMap (rows depth) ++ rest') :
    xs.map (relocate Location.bare) = ys.map (relocate Location.bare) ∧ rest = rest' := by
  induction xs generalizing ys with
  | nil =>
    cases ys with
    | nil => exact ⟨rfl, h⟩
    | cons y ys =>
      rw [List.flatMap_nil, List.nil_append] at h
      exact absurd (h ▸ hrest) not_above_sibling
  | cons x xs ih =>
    cases ys with
    | nil =>
      rw [List.flatMap_nil, List.nil_append] at h
      exact absurd (h ▸ hrest') not_above_sibling
    | cons y ys =>
      obtain ⟨hx, hxs⟩ := List.forall_mem_cons.mp hxs
      rw [List.flatMap_cons, List.flatMap_cons, List.append_assoc, List.append_assoc] at h
      obtain ⟨hsame, hmore⟩ := hx (above_siblings hrest xs) (above_siblings hrest' ys) h
      obtain ⟨hsame', hend⟩ := ih hxs hmore
      rw [List.map_cons, List.map_cons, hsame, hsame']
      exact ⟨rfl, hend⟩

/-- **A tree can be read back from its rows.** -/
theorem rows_readable (a : Node) : RowsReadable a := by
  induction a using children_induction with
  | step a ih =>
    intro b depth rest rest' hrest hrest' h
    rw [rows_eq, rows_eq, List.cons_append, List.cons_append] at h
    obtain ⟨hrow, hmore⟩ := List.cons.inj h
    obtain ⟨hchildren, hend⟩ := siblings_readable ih hrest hrest' hmore
    exact ⟨same_of_row hrow hchildren, hend⟩

theorem same_of_rows (h : TreeRow.ofTree a = TreeRow.ofTree b) :
    a.relocate Location.bare = b.relocate Location.bare := by
  rw [ofTree_eq_rows, ofTree_eq_rows] at h
  have hnil : Above 1 [] := nofun
  exact (rows_readable a hnil hnil (congrArg (· ++ []) h)).1

/-- Rows hold nothing of the text of a line. -/
theorem rows_bare (depth : Nat) (n : Node) :
    (n.relocate Location.bare).rows depth = n.rows depth := by
  induction n using children_induction generalizing depth with
  | step n ih =>
    have hrow : TreeRow.ofNode depth (n.relocate Location.bare) = TreeRow.ofNode depth n := by
      rw [TreeRow.ofNode, kind_relocate, payload?_relocate, origin?_relocate, Option.map_map]
      rfl
    rw [rows_eq, rows_eq, children_relocate, List.flatMap_map, hrow]
    exact congrArg (_ :: ·) (List.flatMap_congr fun child hchild => ih child hchild (depth + 1))

theorem ofTree_eq_iff :
    TreeRow.ofTree a = TreeRow.ofTree b ↔ a.relocate Location.bare = b.relocate Location.bare := by
  refine ⟨same_of_rows, fun h => ?_⟩
  rw [ofTree_eq_rows, ofTree_eq_rows, ← rows_bare, h, rows_bare]

end Node

/-! ## Lines -/

namespace TreeRow

/-- What the line of a row holds of the value. -/
def valueText (row : TreeRow) : List Char :=
  match row.payload? with
  | some payload => ' ' :: payload.toList
  | none => []

/-- What the line of a row holds of the span. -/
def placeText (row : TreeRow) : List Char :=
  match row.span? with
  | some span => ' ' :: ' ' :: '[' :: (span.render.toList ++ [']'])
  | none => []

/-- The line of a row in an outline. -/
def written (row : TreeRow) : List Char :=
  List.replicate (2 * row.depth) ' ' ++ (row.kind.name.toList ++ (row.valueText ++ row.placeText))

/-- A row that can be read back from its line. -/
structure Legible (row : TreeRow) : Prop where
  /-- The value has no separators in it. -/
  plain {payload : String} :
    row.payload? = some payload → ∀ c ∈ payload.toList, Payload.isPlain c = true
  /-- Leaves have a value, and nothing else has one. -/
  valued : row.payload?.isSome = row.kind.isLeaf
  /-- Sentinels come from nowhere, and nothing else does. -/
  placed : row.span?.isNone = (row.kind == .eos)

variable {row row' : TreeRow}

theorem legible_ofNode {n : Node} (depth : Nat) (h : n.PlainNames) : (ofNode depth n).Legible where
  plain hpayload := by
    obtain ⟨value, hvalue, rfl⟩ := Option.map_eq_some_iff.mp hpayload
    exact Payload.isPlain_of_mem_render (h.payload hvalue)
  valued := by
    have hkind := congrArg Option.isSome n.payload?_kind
    rw [Option.isSome_map] at hkind
    rw [ofNode, Option.isSome_map, hkind]
    cases n.kind.isLeaf <;> rfl
  placed := by
    rw [ofNode, Option.isNone_map, Bool.eq_iff_iff, Option.isNone_iff_eq_none, n.origin?_eq_none,
      beq_iff_eq]

/-! ### Reading a line -/

theorem stopped_placeText : Stopped Payload.isPlain row.placeText := by
  rw [placeText]
  split
  · exact stopped_cons.mpr rfl
  · exact stopped_nil

theorem stopped_valueText : Stopped Char.isAlpha (row.valueText ++ row.placeText) := by
  rw [valueText]
  split
  · exact stopped_cons.mpr rfl
  · rw [placeText]
    split
    · exact stopped_cons.mpr rfl
    · exact stopped_nil

theorem stopped_name (kind : Operand) (rest : List Char) :
    Stopped (· == ' ') (kind.name.toList ++ rest) := by
  have hall : ∀ kind ∈ Operand.all, kind.name.toList ≠ [] := by decide +kernel
  obtain ⟨c, name, hname⟩ := List.exists_cons_of_ne_nil (hall kind kind.mem_all)
  have halpha : c.isAlpha = true := Operand.isAlpha_of_mem_name c (hname ▸ List.mem_cons_self)
  rw [hname, List.cons_append, stopped_cons, beq_eq_false_iff_ne]
  rintro rfl
  cases halpha

theorem depth_inj (h : row.written = row'.written) : row.depth = row'.depth ∧
    row.kind.name.toList ++ (row.valueText ++ row.placeText) =
      row'.kind.name.toList ++ (row'.valueText ++ row'.placeText) := by
  have hspaces (count : Nat) : ∀ c ∈ List.replicate count ' ', (c == ' ') = true := fun c hc =>
    beq_iff_eq.mpr (List.eq_of_mem_replicate hc)
  obtain ⟨hspace, hrest⟩ := run_inj (hspaces _) (hspaces _) (stopped_name _ _) (stopped_name _ _) h
  have hlength := congrArg List.length hspace
  rw [List.length_replicate, List.length_replicate] at hlength
  exact ⟨by omega, hrest⟩

theorem kind_inj (h : row.kind.name.toList ++ (row.valueText ++ row.placeText) =
      row'.kind.name.toList ++ (row'.valueText ++ row'.placeText)) :
    row.kind = row'.kind ∧ row.valueText ++ row.placeText = row'.valueText ++ row'.placeText := by
  obtain ⟨hname, hrest⟩ := run_inj Operand.isAlpha_of_mem_name Operand.isAlpha_of_mem_name
    stopped_valueText stopped_valueText h
  exact ⟨Operand.name_inj (String.toList_inj.mp hname), hrest⟩

theorem payload_inj (hrow : row.Legible) (hrow' : row'.Legible) (hkind : row.kind = row'.kind)
    (h : row.valueText ++ row.placeText = row'.valueText ++ row'.placeText) :
    row.payload? = row'.payload? ∧ row.placeText = row'.placeText := by
  have hvalued : row.payload?.isSome = row'.payload?.isSome := by
    rw [hrow.valued, hrow'.valued, hkind]
  cases hpayload : row.payload? with
  | none =>
    rw [hpayload, Option.isSome_none] at hvalued
    have hpayload' := Option.isSome_eq_false_iff.mp hvalued.symm
    rw [Option.isNone_iff_eq_none] at hpayload'
    rw [valueText, valueText, hpayload, hpayload'] at h
    exact ⟨hpayload'.symm, h⟩
  | some payload =>
    rw [hpayload, Option.isSome_some] at hvalued
    obtain ⟨payload', hpayload'⟩ := Option.isSome_iff_exists.mp hvalued.symm
    rw [valueText, valueText, hpayload, hpayload'] at h
    obtain ⟨htext, hplace⟩ :=
      run_inj (hrow.plain hpayload) (hrow'.plain hpayload') stopped_placeText
      stopped_placeText (List.cons.inj h).2
    exact ⟨by rw [hpayload', String.toList_inj.mp htext], hplace⟩

theorem span_inj (hrow : row.Legible) (hrow' : row'.Legible) (hkind : row.kind = row'.kind)
    (h : row.placeText = row'.placeText) : row.span? = row'.span? := by
  have hplaced : row.span?.isNone = row'.span?.isNone := by
    rw [hrow.placed, hrow'.placed, hkind]
  rw [placeText, placeText] at h
  cases hspan : row.span? <;> cases hspan' : row'.span? <;> rw [hspan, hspan'] at h hplaced
  · cases hplaced
  · cases hplaced
  · have hrender := List.append_cancel_right (List.cons.inj (List.cons.inj (List.cons.inj h).2).2).2
    rw [Span.render_inj (String.toList_inj.mp hrender)]

/-- **A row can be read back from its line.** -/
theorem written_inj (hrow : row.Legible) (hrow' : row'.Legible) (h : row.written = row'.written) :
    row = row' := by
  obtain ⟨hdepth, hnamed⟩ := depth_inj h
  obtain ⟨hkind, hvalued⟩ := kind_inj hnamed
  obtain ⟨hpayload, hplaced⟩ := payload_inj hrow hrow' hkind hvalued
  have hspan := span_inj hrow hrow' hkind hplaced
  cases row
  cases row'
  cases hdepth
  cases hkind
  cases hpayload
  cases hspan
  rfl

/-! ### Reading the lines -/

/-- Whether `c` stands on a line. -/
def onLine (c : Char) : Bool := c != '\n'

theorem onLine_of_class (among : Char → Bool) {c : Char} (hbreak : among '\n' = false)
    (h : among c = true) : onLine c = true := by
  rw [onLine, bne_iff_ne]
  rintro rfl
  rw [hbreak] at h
  cases h

theorem onLine_render (span : Span) : ∀ c ∈ span.render.toList, onLine c = true := by
  have hdigits (n : Nat) : ∀ c ∈ (toString n).toList, onLine c = true := fun c hc =>
    onLine_of_class Char.isDigit rfl (isDigit_of_mem_natural c hc)
  have htext {text : String} (h : text.toList.all onLine = true) :
      ∀ c ∈ text.toList, onLine c = true :=
    List.all_eq_true.mp h
  simp only [Span.render, String.toList_append, List.forall_mem_append]
  exact ⟨⟨⟨⟨⟨htext rfl, hdigits _⟩, htext rfl⟩, hdigits _⟩, htext rfl⟩, hdigits _⟩

theorem onLine_written (hrow : row.Legible) : ∀ c ∈ row.written, onLine c = true := by
  have hname : ∀ c ∈ row.kind.name.toList, onLine c = true := fun c hc =>
    onLine_of_class Char.isAlpha rfl (Operand.isAlpha_of_mem_name c hc)
  have hvalue : ∀ c ∈ row.valueText, onLine c = true := by
    rw [valueText]
    split
    · next payload hpayload =>
      refine List.forall_mem_cons.mpr ⟨rfl, fun c hc => ?_⟩
      exact onLine_of_class Payload.isPlain rfl (hrow.plain hpayload c hc)
    · exact List.forall_mem_nil _
  have hplace : ∀ c ∈ row.placeText, onLine c = true := by
    rw [placeText]
    split
    · next span _ =>
      simp only [List.forall_mem_cons, List.forall_mem_append]
      exact ⟨rfl, rfl, rfl, onLine_render span, rfl, List.forall_mem_nil _⟩
    · exact List.forall_mem_nil _
  have hspaces : ∀ c ∈ List.replicate (2 * row.depth) ' ', onLine c = true := fun c hc =>
    List.eq_of_mem_replicate hc ▸ rfl
  simp only [written, List.forall_mem_append]
  exact ⟨hspaces, hname, hvalue, hplace⟩

/-- **Rows can be read back from their lines.** -/
theorem lines_inj {rows rows' : List TreeRow} (hrows : ∀ row ∈ rows, row.Legible)
    (hrows' : ∀ row ∈ rows', row.Legible)
    (h : (rows.flatMap fun row => row.written ++ ['\n']) =
      rows'.flatMap fun row => row.written ++ ['\n']) : rows = rows' := by
  induction rows generalizing rows' with
  | nil =>
    cases rows' with
    | nil => rfl
    | cons row' rows' => simp at h
  | cons row rows ih =>
    cases rows' with
    | nil => simp at h
    | cons row' rows' =>
      obtain ⟨hrow, hrows⟩ := List.forall_mem_cons.mp hrows
      obtain ⟨hrow', hrows'⟩ := List.forall_mem_cons.mp hrows'
      rw [List.flatMap_cons, List.flatMap_cons, List.append_assoc, List.append_assoc] at h
      obtain ⟨hline, hmore⟩ := run_inj (onLine_written hrow) (onLine_written hrow')
        (stopped_cons.mpr rfl) (stopped_cons.mpr rfl) h
      rw [written_inj hrow hrow' hline, ih hrows hrows' (List.cons.inj hmore).2]

end TreeRow

/-! ## Outlines -/

namespace Node

variable {a b : Node}

theorem toList_label (depth : Nat) (n : Node) : n.label.toList =
    n.kind.name.toList ++
      ((TreeRow.ofNode depth n).valueText ++ (TreeRow.ofNode depth n).placeText) := by
  rw [label, TreeRow.valueText, TreeRow.placeText, TreeRow.ofNode]
  cases n.payload? <;> cases n.origin? <;> simp

/-- **An outline is the text of the rows**, one on each line. -/
theorem toList_outline (n : Node) :
    n.outline.toList = (TreeRow.ofTree n).flatMap fun row => row.written ++ ['\n'] := by
  have hlines (tops : List (Nat × Node)) (out : String) :
      (tops.foldl (fun out (depth, node) => out.pushn ' ' (2 * depth) ++ node.label ++ "\n")
        out).toList = out.toList ++ (tops.map fun (depth, node) =>
          TreeRow.ofNode depth node).flatMap fun row => row.written ++ ['\n'] := by
    induction tops generalizing out with
    | nil => simp
    | cons top tops ih =>
      rw [List.foldl_cons, ih]
      simp [toList_pushn, toList_label top.1 top.2, TreeRow.written, TreeRow.ofNode]
  rw [outline, hlines]
  rfl

theorem legible_of_mem_rows (depth : Nat) (h : a.PlainNames) :
    ∀ row ∈ a.rows depth, row.Legible := by
  induction a using children_induction generalizing depth with
  | step a ih =>
    rw [rows_eq]
    refine List.forall_mem_cons.mpr ⟨TreeRow.legible_ofNode depth h, fun row hrow => ?_⟩
    obtain ⟨child, hchild, hrow⟩ := List.mem_flatMap.mp hrow
    exact ih child hchild (depth + 1) (h.child hchild) row hrow

theorem ofTree_of_outline (ha : a.PlainNames) (hb : b.PlainNames) (h : a.outline = b.outline) :
    TreeRow.ofTree a = TreeRow.ofTree b := by
  have hlines := congrArg String.toList h
  rw [toList_outline, toList_outline] at hlines
  refine TreeRow.lines_inj ?_ ?_ hlines
  · rw [ofTree_eq_rows]
    exact legible_of_mem_rows 0 ha
  · rw [ofTree_eq_rows]
    exact legible_of_mem_rows 0 hb

/-- **An outline determines its tree.** Trees whose names are made of letters, digits and
underscores have the same outline exactly if they are the same tree, up to the texts of their lines.
Trees have the same rows exactly if they are, whatever their names are made of. -/
theorem outline_determines_tree :
    (∀ a b : Node, a.PlainNames → b.PlainNames →
      (a.outline = b.outline ↔ a.relocate Location.bare = b.relocate Location.bare)) ∧
    ∀ a b : Node,
      TreeRow.ofTree a = TreeRow.ofTree b ↔
        a.relocate Location.bare = b.relocate Location.bare := by
  refine ⟨fun a b ha hb => ⟨fun h => ?_, fun h => ?_⟩, fun a b => ofTree_eq_iff⟩
  · exact ofTree_eq_iff.mp (ofTree_of_outline ha hb h)
  · rw [← String.toList_inj, toList_outline, toList_outline, ofTree_eq_iff.mpr h]

/-- Two chains of the same statements, which differ in depths only, and one of a line with another
text. -/
theorem outline_determines_chains :
    let name (text : String) : Node := leaf (.identifier "x_1") ⟨⟨1, 1, 4⟩, text⟩
    (∀ text, (name text).PlainNames) ∧
    (sequence (name "x_1;") eos).outline = (sequence (name "x_1 ;") eos).outline ∧
    (sequence (sequence (name "x_1;") eos) eos).outline ≠
      (sequence (name "x_1;") (sequence eos eos)).outline := by
  intro name
  have hname : ∀ text, (name text).PlainNames := fun text =>
    plainNames_leaf.mpr
      (List.all_eq_true.mp (by decide : "x_1".toList.all Lexeme.continuesWord = true))
  have heos : eos.PlainNames := plainNames_of_parts nofun nofun
  have hjoin {first second : Node} (hfirst : first.PlainNames) (hsecond : second.PlainNames) :
      (sequence first second).PlainNames :=
    plainNames_of_parts nofun
      (List.forall_mem_cons.mpr ⟨hfirst, List.forall_mem_singleton.mpr hsecond⟩)
  refine ⟨hname, ?_, fun h => ?_⟩
  · exact (outline_determines_tree.1 _ _ (hjoin (hname _) heos) (hjoin (hname _) heos)).mpr rfl
  · have hsame := (outline_determines_tree.1 _ _ (hjoin (hjoin (hname _) heos) heos)
      (hjoin (hname _) (hjoin heos heos))).mp h
    cases hsame

end Node

end TwinSyntax
