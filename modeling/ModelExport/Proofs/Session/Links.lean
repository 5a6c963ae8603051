/-
# ModelExport.Proofs.Session.Links — the handles of blocks

The handles in a block are those of its own nodes: the children of the class and of
the entry point are the nodes that follow them, the function that makes the model
holds at most the handle of the array before it, and the one call by handle invokes
that function. So a block is closed, and so are blocks one after the other.
-/
import Mathlib.Data.List.Induction
import ModelExport.Proofs.Forest.Part
import ModelExport.Proofs.Session.Run

set_option autoImplicit false

namespace ModelExport

/-- The items in the middle of a list stand at the places behind its front. -/
theorem map_getElem?_range' {α : Type} (front middle back : List α) :
    (List.range' front.length middle.length).map
        (fun place => (front ++ (middle ++ back))[place]?) = middle.map some := by
  apply List.ext_getElem
  · rw [List.length_map, List.length_range', List.length_map]
  intro index _ inside
  rw [List.length_map] at inside
  have behind : front.length ≤ front.length + index := Nat.le_add_right _ _
  have place : front.length + index - front.length = index := Nat.add_sub_cancel_left _ _
  simp only [List.getElem_map, List.getElem_range', Nat.one_mul]
  rw [List.getElem?_append_right behind, place, List.getElem?_append_left inside,
    List.getElem?_eq_getElem inside]

namespace Block

variable {block : Block}

theorem children_forest (block : Block) :
    block.forest.children 4 = List.range' 5 (block.members.length + 1) := rfl

/-- The children of the class are its members and the entry point. -/
theorem map_nodes_children (block : Block) :
    (block.forest.children 4).map (fun child => block.nodes[child]?) =
      (block.members.map (Forest.leaf (some 4)) ++ [block.mainNode]).map some := by
  have listed := map_getElem?_range' (block.headers.map (Forest.leaf none) ++ [block.classNode])
    (block.members.map (Forest.leaf (some 4)) ++ [block.mainNode])
    (block.statements.map (Forest.leaf (some block.mainHandle)))
  rw [List.length_append, List.length_append, List.length_map, List.length_map, length_headers,
    List.length_singleton, List.length_singleton] at listed
  rw [children_forest, ← listed]
  simp only [nodes, List.append_assoc]

/-- The children of the entry point are its statements. -/
theorem map_nodes_statements (block : Block) :
    block.mainNode.children.map (fun child => block.nodes[child]?) =
      (block.statements.map (Forest.leaf (some block.mainHandle))).map some := by
  have listed := map_getElem?_range' (block.headers.map (Forest.leaf none) ++ [block.classNode] ++
    block.members.map (Forest.leaf (some 4)) ++ [block.mainNode])
    (block.statements.map (Forest.leaf (some block.mainHandle))) []
  have place : (block.headers.map (Forest.leaf none) ++ [block.classNode] ++
      block.members.map (Forest.leaf (some 4)) ++ [block.mainNode]).length =
        block.mainHandle + 1 := by
    simp only [List.length_append, List.length_map, List.length_singleton, length_headers,
      mainHandle]
  rw [place, List.length_map, List.append_nil] at listed
  exact listed

theorem size_forest (block : Block) :
    block.forest.size = block.mainHandle + 1 + block.statements.length := by
  have length : block.nodes.length = 5 + block.members.length + 1 + block.statements.length := by
    simp only [nodes, List.length_append, List.length_map, List.length_singleton, length_headers]
  rw [forest, Forest.size, List.size_toArray, length, mainHandle]

/-- A node of a block is one of its comments, the class, a member, the entry point or a
statement. -/
theorem mem_nodes {node : Node} :
    node ∈ block.nodes ↔
      (∃ construct ∈ block.headers, node = Forest.leaf none construct) ∨ node = block.classNode ∨
      (∃ construct ∈ block.members, node = Forest.leaf (some 4) construct) ∨
      node = block.mainNode ∨
      ∃ construct ∈ block.statements, node = Forest.leaf (some block.mainHandle) construct := by
  simp only [nodes, List.mem_append, List.mem_map, List.mem_singleton, eq_comm, or_assoc]

theorem child_lt_size {node : Node} (member : node ∈ block.nodes) {child : Handle}
    (below : child ∈ node.children) : child < block.forest.size := by
  rw [size_forest]
  obtain ⟨construct, -, rfl⟩ | rfl | ⟨construct, -, rfl⟩ | rfl | ⟨construct, -, rfl⟩ :=
    mem_nodes.1 member
  · cases below
  · obtain ⟨-, bound⟩ := List.mem_range'_1.1 below
    exact Nat.lt_of_lt_of_le bound (Nat.le_add_right _ _)
  · cases below
  · exact (List.mem_range'_1.1 below).2
  · cases below

/-- The only member that holds a handle is the function that makes the model. -/
theorem link_of_mem_members {construct : Construct} (member : construct ∈ block.members)
    {link : Handle} (held : link ∈ construct.links) :
    link = block.weightsHandle ∧ block.trainingMembers.length < block.members.length := by
  obtain ⟨file, -, rfl | rfl⟩ | ⟨file, modelled, ⟨values, -, rfl⟩ | rfl⟩ :=
    cases_of_mem_members member
  · cases held
  · cases held
  · cases held
  have among : block.networkFunction file ∈ block.modelMembers := by simp [modelMembers, modelled]
  refine ⟨?_, ?_⟩
  · simp only [networkFunction, Construct.links, Option.mem_toList, Option.map_eq_some_iff] at held
    obtain ⟨values, -, same⟩ := held
    exact same.symm
  · rw [members, List.length_append]
    exact Nat.lt_add_of_pos_right (List.length_pos_of_mem among)

theorem link_lt_size {node : Node} (member : node ∈ block.nodes) {link : Handle}
    (held : link ∈ node.construct.links) : link < block.forest.size := by
  rw [size_forest, mainHandle]
  obtain ⟨construct, among, rfl⟩ | rfl | ⟨construct, among, rfl⟩ | rfl | ⟨construct, among, rfl⟩ :=
    mem_nodes.1 member
  · obtain ⟨text, -, rfl⟩ := List.mem_map.1 among
    cases held
  · cases held
  · obtain ⟨rfl, longer⟩ := link_of_mem_members among held
    have bound : 5 + block.trainingMembers.length <
        5 + block.members.length + 1 + block.statements.length := by omega
    exact bound
  · cases held
  · simp only [statements, List.mem_append, List.mem_ite_nil_right, List.mem_singleton] at among
    rcases among with (⟨-, rfl⟩ | ⟨-, rfl⟩) | rfl
    · obtain rfl := List.mem_singleton.1 held
      have bound : 4 + block.members.length <
          5 + block.members.length + 1 + block.statements.length := by omega
      exact bound
    · cases held
    · cases held

theorem forest_closed (block : Block) : block.forest.Closed := by
  constructor
  · intro root member
    have old : root < 5 := List.mem_range.1 member
    have bound : 5 ≤ 5 + block.members.length + 1 + block.statements.length := by omega
    rw [size_forest, mainHandle]
    exact Nat.lt_of_lt_of_le old bound
  · intro handle child below
    unfold Forest.children at below
    rw [forest, List.getElem?_toArray] at below
    cases found : block.nodes[handle]? with
    | none =>
        rw [found] at below
        cases below
    | some node =>
        rw [found] at below
        exact child_lt_size (List.mem_of_getElem? found) below
  · intro handle construct found link held
    rw [construct?_forest] at found
    obtain ⟨node, there, rfl⟩ := Option.map_eq_some_iff.1 found
    exact link_lt_size (List.mem_of_getElem? there) held

end Block

theorem Observed.blocks_closed (separates : Bool) (generations : List Generation) :
    (blocks separates generations).Closed := by
  induction generations using List.reverseRecOn with
  | nil => exact Forest.empty_closed
  | append_singleton earlier last ih =>
      rw [blocks_concat]
      exact Forest.append_closed ih (last.block separates).forest_closed

end ModelExport
