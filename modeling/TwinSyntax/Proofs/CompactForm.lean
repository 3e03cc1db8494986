import TwinSyntax.Proofs.Layout
import TwinSyntax.Proofs.Legible
import TwinSyntax.Proofs.Relocation
import TwinSyntax.Tree.Render

/-!
# The compact form of a tree

`Node.render` keeps the pieces that it still has to write on a stack.

**Recursion** (`render_eq_compact`). It writes what a recursion over the tree would write: a stack
writes what its pieces stand for, one after another (`renderPieces_eq`).

**Reading back** (`readable`). If two compact forms are equal, so are the trees, up to their
locations. The induction is on the first tree, whatever the second one is, and whatever stands
behind both: a comma, a closing bracket or nothing. The name of a kind stops in front of these, and
in front of an opening bracket. A value stops in front of its closing bracket. Behind a child stands
a comma if there is another child, and a bracket if there is none (`children_readable`).

Main result: `render_recursive_and_readable`.
-/

namespace TwinSyntax.Node

/-! ## Recursion -/

/-- Parts in brackets, with commas between them. -/
def bracketed (parts : List String) : String := "(" ++ ", ".intercalate parts ++ ")"

/-- The compact form of the tree, put together from those of its children. -/
def compact : Node → String
  | leaf value _ => value.kind.name ++ bracketed [value.render]
  | eos => Operand.eos.name
  | sequence first second => Operand.eos.name ++ bracketed [first.compact, second.compact]
  | program _ body => Operand.program.name ++ bracketed [body.compact]
  | assign _ target value => Operand.assign.name ++ bracketed [target.compact, value.compact]
  | loop _ condition body => Operand.loop.name ++ bracketed [condition.compact, body.compact]
  | conditional _ condition thenBranch elseBranch =>
    Operand.conditional.name ++
      bracketed [condition.compact, thenBranch.compact, elseBranch.compact]
  | relation rel _ left right =>
    (Operand.relation rel).name ++ bracketed [left.compact, right.compact]
  | arithmetic op _ left right =>
    (Operand.arithmetic op).name ++ bracketed [left.compact, right.compact]
  | negate _ argument => Operand.negate.name ++ bracketed [argument.compact]

/-- What stands between the brackets behind the name of the kind. -/
def parts (n : Node) : List String :=
  match n.payload? with
  | some value => [value.render]
  | none => n.children.map compact

theorem compact_eq (n : Node) :
    n.compact = n.kind.name ++ if n.parts = [] then "" else bracketed n.parts := by
  cases n <;> simp [compact, parts, kind, payload?, children]

/-- What a piece stands for. -/
def written : Piece → List Char
  | .tree node => node.compact.toList
  | .text text => text.toList

theorem written_separated (children : List Node) :
    (separated children).flatMap written = (", ".intercalate (children.map compact)).toList := by
  fun_induction separated children with
  | case1 => rfl
  | case2 last => simp [written]
  | case3 child rest hne ih =>
    have hrest : rest.map compact ≠ [] := mt List.map_eq_nil_iff.mp hne
    rw [List.map_cons, String.intercalate_cons_of_ne_nil hrest, List.flatMap_cons,
      List.flatMap_cons, ih]
    simp [written]

/-- **A stack writes what its pieces stand for**, one after another. -/
theorem renderPieces_eq (pieces : List Piece) (out : String) :
    (renderPieces pieces out).toList = out.toList ++ pieces.flatMap written := by
  fun_induction renderPieces pieces out with
  | case1 out => simp
  | case2 out text rest ih => simp [ih, written]
  | case3 out node rest value hvalue ih => simp [ih, written, compact_eq, parts, hvalue, bracketed]
  | case4 out node rest hnone hempty ih =>
    have hempty : node.children = [] := List.isEmpty_iff.mp hempty
    simp [ih, written, compact_eq, parts, hnone, hempty]
  | case5 out node rest hnone hchildren ih =>
    have hparts : node.children ≠ [] := mt List.isEmpty_iff.mpr hchildren
    rw [ih, List.flatMap_append, written_separated]
    simp [written, compact_eq, parts, hnone, hparts, bracketed]

theorem render_eq_compact (n : Node) : n.render = n.compact := by
  rw [← String.toList_inj, render, renderPieces_eq]
  simp [written]

/-- The compact form of a tree, in terms of those of its children. -/
theorem render_eq (n : Node) :
    n.render = n.kind.name ++
      match n.payload?, n.children with
      | some value, _ => "(" ++ value.render ++ ")"
      | none, [] => ""
      | none, children => "(" ++ ", ".intercalate (children.map render) ++ ")" := by
  have hrender : render = compact := funext render_eq_compact
  rw [hrender, compact_eq, parts]
  cases n <;> simp [payload?, children, bracketed]

/-! ## Reading back -/

/-- What may stand behind a tree: a comma, a closing bracket or nothing. -/
def Closed (rest : List Char) : Prop := ∀ c ∈ rest.head?, c = ',' ∨ c = ')'

/-- What stands behind the name of the kind. -/
def tail (n : Node) : List Char :=
  if n.parts = [] then [] else '(' :: ((", ".intercalate n.parts).toList ++ [')'])

theorem toList_compact (n : Node) : n.compact.toList = n.kind.name.toList ++ n.tail := by
  rw [compact_eq, String.toList_append, tail]
  split
  · rfl
  · simp [bracketed]

variable {a b : Node} {rest rest' : List Char}

theorem Closed.stopped (h : Closed rest) (n : Node) : Stopped Char.isAlpha (n.tail ++ rest) := by
  rw [tail]
  split
  · intro c hc
    rcases h c hc with rfl | rfl <;> rfl
  · exact stopped_cons.mpr rfl

/-- The kinds are read first. -/
theorem kind_readable (hrest : Closed rest) (hrest' : Closed rest')
    (h : a.compact.toList ++ rest = b.compact.toList ++ rest') :
    a.kind = b.kind ∧ a.tail ++ rest = b.tail ++ rest' := by
  rw [toList_compact, toList_compact, List.append_assoc, List.append_assoc] at h
  obtain ⟨hname, htail⟩ := run_inj Operand.isAlpha_of_mem_name Operand.isAlpha_of_mem_name
    (hrest.stopped a) (hrest'.stopped b) h
  exact ⟨Operand.name_inj (String.toList_inj.mp hname), htail⟩

/-- The tree can be read back from its compact form, whatever may stand behind. -/
def Readable (a : Node) : Prop :=
  ∀ ⦃b : Node⦄ ⦃rest rest' : List Char⦄, b.PlainNames → Closed rest → Closed rest' →
    a.compact.toList ++ rest = b.compact.toList ++ rest' →
    a.relocate nowhere = b.relocate nowhere ∧ rest = rest'

/-- What stands behind a child that has the siblings `more` behind it. -/
def following (more : List Node) (rest : List Char) : List Char :=
  match more with
  | [] => ')' :: rest
  | more => ',' :: ' ' :: ((", ".intercalate (more.map compact)).toList ++ ')' :: rest)

theorem toList_children (child : Node) (more : List Node) (rest : List Char) :
    (", ".intercalate ((child :: more).map compact)).toList ++ ')' :: rest =
      child.compact.toList ++ following more rest := by
  cases more with
  | nil => simp [following]
  | cons next more => simp [following]

theorem closed_following (more : List Node) (rest : List Char) : Closed (following more rest) := by
  intro c hc
  cases more with
  | nil =>
    cases hc
    exact .inr rfl
  | cons =>
    cases hc
    exact .inl rfl

/-- **Children are read one after another**, and there are as many of them. -/
theorem children_readable {xs ys : List Node} (hxs : ∀ x ∈ xs, Readable x)
    (hys : ∀ y ∈ ys, y.PlainNames) (hne : xs ≠ []) (hne' : ys ≠ [])
    (h : (", ".intercalate (xs.map compact)).toList ++ ')' :: rest =
      (", ".intercalate (ys.map compact)).toList ++ ')' :: rest') :
    xs.map (relocate nowhere) = ys.map (relocate nowhere) ∧ rest = rest' := by
  induction xs generalizing ys with
  | nil => exact absurd rfl hne
  | cons x xs ih =>
    obtain ⟨y, ys, rfl⟩ := List.exists_cons_of_ne_nil hne'
    obtain ⟨hx, hxs⟩ := List.forall_mem_cons.mp hxs
    obtain ⟨hy, hys⟩ := List.forall_mem_cons.mp hys
    rw [toList_children, toList_children] at h
    obtain ⟨hsame, hfollowing⟩ := hx hy (closed_following xs rest) (closed_following ys rest') h
    rw [List.map_cons, List.map_cons, hsame]
    cases xs with
    | nil =>
      cases ys with
      | nil => exact ⟨rfl, (List.cons.inj hfollowing).2⟩
      | cons y' ys => simp [following] at hfollowing
    | cons x' xs =>
      cases ys with
      | nil => simp [following] at hfollowing
      | cons y' ys =>
        have hmore := (List.cons.inj (List.cons.inj hfollowing).2).2
        obtain ⟨hsame', hrest⟩ := ih hxs hys nofun nofun hmore
        exact ⟨congrArg _ hsame', hrest⟩

theorem tail_of_value {value : Payload} (h : a.payload? = some value) :
    a.tail = '(' :: (value.render.toList ++ [')']) := by
  rw [tail, parts, h]
  simp

theorem tail_of_children (h : a.payload? = none) (hne : a.children ≠ []) :
    a.tail = '(' :: ((", ".intercalate (a.children.map compact)).toList ++ [')']) := by
  rw [tail, parts, h]
  simp [hne]

theorem tail_of_nothing (h : a.payload? = none) (hnil : a.children = []) : a.tail = [] := by
  rw [tail, parts, h]
  simp [hnil]

/-- Values of one kind are read up to the bracket behind them. -/
theorem value_readable {value value' : Payload} (hvalue : a.payload? = some value)
    (hvalue' : b.payload? = some value') (hkind : value.kind = value'.kind) (hplain : value.Plain)
    (hplain' : value'.Plain) (h : a.tail ++ rest = b.tail ++ rest') :
    value = value' ∧ rest = rest' := by
  rw [tail_of_value hvalue, tail_of_value hvalue', List.cons_append, List.cons_append,
    List.append_assoc, List.append_assoc] at h
  obtain ⟨hrender, hrest⟩ := run_inj (Payload.isPlain_of_mem_render hplain)
    (Payload.isPlain_of_mem_render hplain') (stopped_cons.mpr rfl) (stopped_cons.mpr rfl)
    (List.cons.inj h).2
  exact ⟨Payload.render_inj hkind (String.toList_inj.mp hrender), (List.cons.inj hrest).2⟩

theorem not_closed_bracket : ¬ Closed ('(' :: rest) := by
  intro h
  rcases h '(' rfl with h | h <;> cases h

/-- What is not a leaf has children, or it has none. -/
theorem interior_readable (hleft : a.payload? = none) (hright : b.payload? = none)
    (hchildren : ∀ child ∈ a.children, Readable child)
    (hplain : ∀ child ∈ b.children, child.PlainNames) (hrest : Closed rest) (hrest' : Closed rest')
    (h : a.tail ++ rest = b.tail ++ rest') :
    a.children.map (relocate nowhere) = b.children.map (relocate nowhere) ∧ rest = rest' := by
  by_cases hnil : a.children = []
  · rw [tail_of_nothing hleft hnil, List.nil_append] at h
    by_cases hnil' : b.children = []
    · rw [tail_of_nothing hright hnil', List.nil_append] at h
      rw [hnil, hnil']
      exact ⟨rfl, h⟩
    · rw [h, tail_of_children hright hnil'] at hrest
      exact absurd hrest not_closed_bracket
  · by_cases hnil' : b.children = []
    · rw [tail_of_nothing hright hnil', List.nil_append] at h
      rw [← h, tail_of_children hleft hnil] at hrest'
      exact absurd hrest' not_closed_bracket
    · rw [tail_of_children hleft hnil, tail_of_children hright hnil', List.cons_append,
        List.cons_append, List.append_assoc, List.append_assoc] at h
      exact children_readable hchildren hplain hnil hnil' (List.cons.inj h).2

/-- Nodes of one kind have locations, or they have none. -/
theorem origin_nowhere (h : a.kind = b.kind) : a.origin?.map nowhere = b.origin?.map nowhere := by
  have hnone : a.origin? = none ↔ b.origin? = none := by
    rw [origin?_eq_none, origin?_eq_none, h]
  cases ha : a.origin? <;> cases hb : b.origin? <;> simp_all [nowhere]

/-- **A compact form can be read back.** -/
theorem readable (ha : a.PlainNames) : Readable a := by
  induction a using children_induction with
  | step a ih =>
    intro b rest rest' hb hrest hrest' h
    obtain ⟨hkind, htail⟩ := kind_readable hrest hrest' h
    have hkinds := payload?_kind_congr hkind
    cases hvalue : a.payload? with
    | some value =>
      rw [hvalue] at hkinds
      obtain ⟨value', hvalue', hkind'⟩ := Option.map_eq_some_iff.mp hkinds.symm
      obtain ⟨rfl, rfl⟩ := value_readable hvalue hvalue' hkind'.symm (ha.payload hvalue)
        (hb.payload hvalue') htail
      refine ⟨relocate_eq_of_parts hkind (hvalue.trans hvalue'.symm) (origin_nowhere hkind) ?_, rfl⟩
      rw [children_of_value hvalue, children_of_value hvalue']
    | none =>
      rw [hvalue] at hkinds
      have hnone : b.payload? = none := Option.map_eq_none_iff.mp hkinds.symm
      obtain ⟨hchildren, rfl⟩ := interior_readable hvalue hnone
        (fun child hchild => ih child hchild (ha.child hchild))
        (fun child hchild => hb.child hchild) hrest hrest' htail
      exact ⟨relocate_eq_of_parts hkind (hvalue.trans hnone.symm) (origin_nowhere hkind) hchildren,
        rfl⟩

/-! ## Both -/

/-- Locations are not written. -/
theorem compact_relocate (place : Location → Location) (n : Node) :
    (n.relocate place).compact = n.compact := by
  induction n <;> simp_all [relocate, compact]

/-- **The compact form is recursive and unambiguous.** It is the name of the kind, and in brackets
the value of a leaf or the compact forms of the children, if there are any. Trees whose names are
made of letters, digits and underscores have the same compact form exactly if they are the same
tree, up to locations. -/
theorem render_recursive_and_readable :
    (∀ n : Node, n.render = n.kind.name ++
      match n.payload?, n.children with
      | some value, _ => "(" ++ value.render ++ ")"
      | none, [] => ""
      | none, children => "(" ++ ", ".intercalate (children.map render) ++ ")") ∧
    ∀ a b : Node, a.PlainNames → b.PlainNames →
      (a.render = b.render ↔ a.relocate nowhere = b.relocate nowhere) := by
  refine ⟨render_eq, fun a b ha hb => ⟨fun h => ?_, fun h => ?_⟩⟩
  · rw [render_eq_compact, render_eq_compact] at h
    have hnil : Closed [] := nofun
    exact (readable ha hb hnil hnil (congrArg (fun text => text.toList ++ []) h)).1
  · rw [render_eq_compact, render_eq_compact, ← compact_relocate nowhere a, h, compact_relocate]

/-- A difference at two places, and one in which the text of a value is that of another kind. -/
theorem render_readable_of_differences :
    let difference (place : Location) (seven : Payload) : Node :=
      arithmetic .sub place (leaf (.identifier "x_1") place) (leaf seven place)
    let here : Location := ⟨⟨1, 5, 6⟩, "x_1 - 7"⟩
    let there : Location := ⟨⟨3, 1, 2⟩, ""⟩
    (∀ place seven, seven = .integer 7 ∨ seven = .number 7 → (difference place seven).PlainNames) ∧
    (difference here (.integer 7)).render = (difference there (.integer 7)).render ∧
    (difference here (.integer 7)).render ≠ (difference here (.number 7)).render := by
  intro difference here there
  have hplain : ∀ place seven, seven = Payload.integer 7 ∨ seven = .number 7 →
      (difference place seven).PlainNames := by
    intro place seven hseven
    refine plainNames_of_parts nofun
      (List.forall_mem_cons.mpr ⟨?_, List.forall_mem_singleton.mpr ?_⟩)
    · have hname : "x_1".toList.all Lexeme.continuesWord = true := by decide
      exact plainNames_leaf.mpr (List.all_eq_true.mp hname)
    · rcases hseven with rfl | rfl <;> exact plainNames_leaf.mpr trivial
  have hseven := hplain here _ (.inl rfl)
  refine ⟨hplain, ?_, fun h => ?_⟩
  · exact (render_recursive_and_readable.2 _ _ hseven (hplain there _ (.inl rfl))).mpr rfl
  · have hsame := (render_recursive_and_readable.2 _ _ hseven (hplain here _ (.inr rfl))).mp h
    cases hsame

end TwinSyntax.Node
