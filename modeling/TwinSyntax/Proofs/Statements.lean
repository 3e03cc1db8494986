import TwinSyntax.Proofs.Relocation

/-!
# The statements of a tree

`Node.statements` keeps the nodes that it still has to visit on a stack. What it yields is what a
recursion over the tree yields (`statements_of_joins`, `statements_of_not_joins`): a stack yields
what its nodes yield, one after another (`statementsFrom_append`).
-/

namespace TwinSyntax.Node

/-- A node that stands for the statements below it. -/
def Joins (n : Node) : Prop := n.kind = .program ∨ n.kind = .eos

theorem statementsFrom_of_joins {n : Node} (h : n.Joins) (rest : List Node) (found : Array Node) :
    statementsFrom (n :: rest) found = statementsFrom (n.children ++ rest) found := by
  rw [statementsFrom]
  rcases h with h | h <;> rw [h]

theorem statementsFrom_of_not_joins {n : Node} (h : ¬ n.Joins) (rest : List Node)
    (found : Array Node) :
    statementsFrom (n :: rest) found = statementsFrom rest (found.push n) := by
  rw [statementsFrom]
  split
  · next hkind => exact absurd (.inl hkind) h
  · next hkind => exact absurd (.inr hkind) h
  · rfl

/-- Of two stacks, the one on top is visited first. -/
theorem statementsFrom_append (stack stack' : List Node) (found : Array Node) :
    statementsFrom (stack ++ stack') found =
      statementsFrom stack' (statementsFrom stack found) := by
  fun_induction statementsFrom stack found with
  | case1 found => rfl
  | case2 found n rest hkind ih =>
    rw [List.cons_append, statementsFrom_of_joins (.inl hkind), ← List.append_assoc]
    exact ih
  | case3 found n rest hkind ih =>
    rw [List.cons_append, statementsFrom_of_joins (.inr hkind), ← List.append_assoc]
    exact ih
  | case4 found n rest hprogram hsentinel ih =>
    rw [List.cons_append, statementsFrom_of_not_joins (not_or_intro hprogram hsentinel)]
    exact ih

/-- What was found stays in front. -/
theorem statementsFrom_found (stack : List Node) (front found : Array Node) :
    statementsFrom stack (front ++ found) = front ++ statementsFrom stack found := by
  fun_induction statementsFrom stack found with
  | case1 found => rw [statementsFrom]
  | case2 found n rest hkind ih =>
    rw [statementsFrom_of_joins (.inl hkind)]
    exact ih
  | case3 found n rest hkind ih =>
    rw [statementsFrom_of_joins (.inr hkind)]
    exact ih
  | case4 found n rest hprogram hsentinel ih =>
    rw [statementsFrom_of_not_joins (not_or_intro hprogram hsentinel), ← Array.append_push]
    exact ih

/-- **A stack yields what its nodes yield**, one after another. -/
theorem statementsFrom_eq (stack : List Node) (found : Array Node) :
    (statementsFrom stack found).toList = found.toList ++ stack.flatMap statements := by
  induction stack generalizing found with
  | nil =>
    rw [statementsFrom, List.flatMap_nil, List.append_nil]
  | cons n rest ih =>
    have hfound := statementsFrom_found [n] found #[]
    rw [Array.append_empty] at hfound
    rw [← List.singleton_append, statementsFrom_append, ih, hfound, Array.toList_append,
      List.flatMap_append, List.flatMap_singleton, statements, List.append_assoc]

theorem statements_of_joins {n : Node} (h : n.Joins) :
    n.statements = n.children.flatMap statements := by
  rw [statements, statementsFrom_of_joins h, List.append_nil, statementsFrom_eq]
  rfl

theorem statements_of_not_joins {n : Node} (h : ¬ n.Joins) : n.statements = [n] := by
  rw [statements, statementsFrom_of_not_joins h, statementsFrom]
  rfl

@[simp] theorem statements_eos : eos.statements = [] := statements_of_joins (.inr rfl)

@[simp] theorem statements_program (origin : Location) (body : Node) :
    (program origin body).statements = body.statements := by
  rw [statements_of_joins (.inl rfl)]
  exact List.flatMap_singleton statements body

@[simp] theorem statements_sequence (first second : Node) :
    (sequence first second).statements = first.statements ++ second.statements := by
  rw [statements_of_joins (.inr rfl)]
  simp [children]

/-! ## Other locations -/

/-- The statements of a tree with other locations. -/
theorem statements_relocate (place : Location → Location) (n : Node) :
    (n.relocate place).statements = n.statements.map (relocate place) := by
  induction n using children_induction with
  | step n ih =>
    by_cases h : n.Joins
    · have h' : (n.relocate place).Joins := by
        rw [Joins, kind_relocate]
        exact h
      rw [statements_of_joins h, statements_of_joins h', children_relocate, List.flatMap_map,
        List.map_flatMap]
      exact congrArg List.flatten (List.map_congr_left ih)
    · have h' : ¬ (n.relocate place).Joins := by
        rw [Joins, kind_relocate]
        exact h
      rw [statements_of_not_joins h, statements_of_not_joins h']
      rfl

end TwinSyntax.Node
