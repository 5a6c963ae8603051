/-
# ModelExport.Proofs.Forest.Append — one program after another

A program is put after another by raising every handle in it by the number of
nodes that stand before (`append`). Making a node under raised handles is the same
before and after this (`push_append`), so whatever is built on a program is that
program with the block that would be built on nothing. What the first program
holds is asked for as before, and what the second holds under raised handles.
-/
import ModelExport.Forest

set_option autoImplicit false

namespace ModelExport

/-- A construct with the handles in it raised. -/
def Construct.shift (offset : Nat) : Construct → Construct
  | .networkFunction name file weights => .networkFunction name file (weights.map (· + offset))
  | .call (.node handle) type binding => .call (.node (handle + offset)) type binding
  | other => other

/-- A node with the handles in it raised. -/
def Node.shift (offset : Nat) (node : Node) : Node :=
  ⟨node.construct.shift offset, node.parent.map (· + offset), node.children.map (· + offset)⟩

@[simp] theorem Construct.functionName?_shift (offset : Nat) (construct : Construct) :
    (construct.shift offset).functionName? = construct.functionName? := by
  unfold shift
  split <;> rfl

theorem Node.shift_addChild (offset handle : Nat) (node : Node) :
    (node.addChild handle).shift offset = (node.shift offset).addChild (handle + offset) := by
  simp [shift, addChild]

namespace Forest

/-- A program with another after it. -/
def append (forest other : Forest) : Forest :=
  ⟨forest.nodes ++ other.nodes.map (Node.shift forest.size),
    forest.roots ++ other.roots.map (· + forest.size)⟩

@[simp] theorem size_append (forest other : Forest) :
    (forest.append other).size = forest.size + other.size := by
  simp [append, size]

theorem append_empty (forest : Forest) : forest.append empty = forest := by
  simp [append, empty]

theorem getElem?_append (forest other : Forest) (handle : Handle) :
    (forest.append other).nodes[handle]? =
      if handle < forest.size then forest.nodes[handle]?
      else other.nodes[handle - forest.size]?.map (Node.shift forest.size) := by
  rw [append, Array.getElem?_append, Array.getElem?_map]
  rfl

/-- A node behind others is changed where it stands behind them. -/
theorem modify_append (front back : Array Node) (handle : Nat) (change raised : Node → Node)
    (moved : ∀ node, (change node).shift front.size = raised (node.shift front.size)) :
    (front ++ back.map (Node.shift front.size)).modify (handle + front.size) raised =
      front ++ (back.modify handle change).map (Node.shift front.size) := by
  apply Array.ext_getElem?
  intro place
  simp only [Array.getElem?_modify, Array.getElem?_append, Array.getElem?_map]
  by_cases before : place < front.size
  · have apart : handle + front.size ≠ place := by omega
    rw [if_neg apart, if_pos before, if_pos before]
  · rw [if_neg before, if_neg before]
    by_cases here : handle + front.size = place
    · have same : handle = place - front.size := by omega
      rw [if_pos here, if_pos same, Option.map_map, Option.map_map]
      congr 1
      funext node
      exact (moved node).symm
    · have apart : handle ≠ place - front.size := by omega
      rw [if_neg here, if_neg apart]

/-- **A node made under a raised handle is a node raised after it was made.** -/
theorem push_append (forest other : Forest) (parent : Option Handle) (construct : Construct) :
    (forest.append other).push (parent.map (· + forest.size)) (construct.shift forest.size) =
      forest.append (other.push parent construct) := by
  cases parent with
  | none =>
      simp only [push, append, Option.map_none, size, Array.size_append, Array.size_map,
        Array.append_push, Array.map_push, List.map_append, List.append_assoc]
      rw [Nat.add_comm forest.nodes.size]
      rfl
  | some owner =>
      have raised (node : Node) : (node.addChild other.size).shift forest.size =
          (node.shift forest.size).addChild (forest.append other).size := by
        rw [Node.shift_addChild, size_append, Nat.add_comm]
      have modified : (forest.append other).nodes.modify (owner + forest.size)
            (Node.addChild (forest.append other).size) =
          forest.nodes ++ (other.nodes.modify owner (Node.addChild other.size)).map
            (Node.shift forest.size) :=
        modify_append forest.nodes other.nodes owner _ _ raised
      simp only [push, Option.map_some, modified]
      simp only [append, Array.map_push, Array.append_push]
      rfl

/-! ## Asking -/

theorem construct?_append (forest other : Forest) (handle : Handle) :
    (forest.append other).construct? handle =
      if handle < forest.size then forest.construct? handle
      else (other.construct? (handle - forest.size)).map (Construct.shift forest.size) := by
  simp only [construct?, getElem?_append]
  split
  · rfl
  · rw [Option.map_map, Option.map_map]
    rfl

theorem lt_size_of_construct? {forest : Forest} {handle : Handle} {construct : Construct}
    (found : forest.construct? handle = some construct) : handle < forest.size := by
  obtain ⟨node, there, -⟩ := Option.map_eq_some_iff.1 found
  exact (Array.getElem?_eq_some_iff.1 there).1

/-- A function of the first program keeps its handle. -/
theorem functionName?_append_left {forest : Forest} {handle : Handle} {name : String}
    (named : forest.functionName? handle = some name) (other : Forest) :
    (forest.append other).functionName? handle = some name := by
  obtain ⟨construct, found, -⟩ := Option.bind_eq_some_iff.1 named
  rw [functionName?, construct?_append, if_pos (lt_size_of_construct? found)]
  exact named

/-- A function of the second program is found under its raised handle. -/
theorem functionName?_append_right (forest other : Forest) (handle : Handle) :
    (forest.append other).functionName? (handle + forest.size) = other.functionName? handle := by
  rw [functionName?, construct?_append, if_neg (Nat.not_lt.2 (Nat.le_add_left _ _)),
    Nat.add_sub_cancel, functionName?]
  cases other.construct? handle with
  | none => rfl
  | some construct => exact construct.functionName?_shift forest.size

end Forest

end ModelExport
