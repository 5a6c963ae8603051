/-
# ModelExport.Proofs.Session.Calls — the calls of a block

A block holds two calls at most, both in its entry point: one of the function that
makes the model, by its handle, and one of the loader of the rows, by its name. The
first is made only when there is a model, and then its handle is that of the last
member before the entry point. So a block is callable by itself. The function that
makes the model looks for its parameters where their array stands (`linked`).
-/
import ModelExport.Proofs.Document.Callable
import ModelExport.Proofs.Session.Block

set_option autoImplicit false

namespace ModelExport.Block

theorem construct?_forest (block : Block) (handle : Handle) :
    block.forest.construct? handle = block.nodes[handle]?.map Node.construct := by
  rw [Forest.construct?, forest, List.getElem?_toArray]

/-- A member stands behind the comments, the class and the members before it. -/
theorem construct?_member {block : Block} {before after : List Construct} {construct : Construct}
    (split : block.members = before ++ construct :: after) :
    block.forest.construct? (5 + before.length) = some construct := by
  let front := block.headers.map (Forest.leaf none) ++ [block.classNode] ++
    before.map (Forest.leaf (some 4))
  have nodes : block.nodes = front ++ Forest.leaf (some 4) construct ::
      (after.map (Forest.leaf (some 4)) ++ [block.mainNode] ++
        block.statements.map (Forest.leaf (some block.mainHandle))) := by
    simp [nodes, split, front]
  have place : front.length = 5 + before.length := by
    simp only [front, List.length_append, List.length_map, List.length_singleton, length_headers]
  rw [construct?_forest, nodes, ← place, List.getElem?_append_right (Nat.le_refl _), Nat.sub_self]
  rfl

/-- The last member before the entry point is the function that makes the model. -/
theorem construct?_networkHandle {block : Block} {file : Path}
    (modelled : block.model? = some file) :
    block.forest.construct? block.networkHandle = some (block.networkFunction file) := by
  let front := block.trainingMembers ++
    (block.weights.map (Construct.arrayLiteral Forest.weightsName)).toList
  have split : block.members = front ++ [block.networkFunction file] := by
    simp only [members, modelMembers, modelled, front, List.append_assoc]
  have place : 4 + block.members.length = 5 + front.length := by
    rw [split, List.length_append, List.length_singleton]
    omega
  rw [networkHandle, place]
  exact construct?_member split

/-- The array of parameters stands where the function that makes the model looks for it. -/
theorem construct?_weightsHandle {block : Block} {file : Path} {values : List Binary64}
    (modelled : block.model? = some file) (written : block.weights = some values) :
    block.forest.construct? block.weightsHandle =
      some (.arrayLiteral Forest.weightsName values) := by
  have split : block.members = block.trainingMembers ++
      .arrayLiteral Forest.weightsName values :: [block.networkFunction file] := by
    simp [members, modelMembers, modelled, written]
  exact construct?_member split

/-- The call of the model in the entry point finds the function that makes it. -/
theorem functionName?_networkHandle {block : Block} (modelled : block.model?.isSome = true) :
    block.forest.functionName? block.networkHandle = some Session.networkName := by
  obtain ⟨file, named⟩ := Option.isSome_iff_exists.1 modelled
  rw [Forest.functionName?, construct?_networkHandle named]
  rfl

/-- A member before the entry point concerns training, if there is a training file, or the model, if
there is a model file. -/
theorem cases_of_mem_members {block : Block} {construct : Construct}
    (member : construct ∈ block.members) :
    (∃ file, block.data? = some file ∧
      (construct = .embeddedTraining file block.rows ∨ construct = .trainingLoader file)) ∨
    ∃ file, block.model? = some file ∧
      ((∃ values, block.weights = some values ∧
        construct = .arrayLiteral Forest.weightsName values) ∨
      construct = block.networkFunction file) := by
  rcases List.mem_append.1 member with trained | modelled
  · unfold trainingMembers at trained
    cases named : block.data? with
    | none => simp [named] at trained
    | some file =>
        simp only [named, List.mem_cons, List.mem_replicate] at trained
        exact .inl ⟨file, rfl, trained.imp_right And.right⟩
  · unfold modelMembers at modelled
    cases named : block.model? with
    | none => simp [named] at modelled
    | some file =>
        simp only [named, List.mem_append, Option.mem_toList, Option.map_eq_some_iff,
          List.mem_singleton] at modelled
        refine .inr ⟨file, rfl, modelled.imp_left ?_⟩
        rintro ⟨values, written, rfl⟩
        exact ⟨values, written, rfl⟩

/-- No member before the entry point is a call. -/
theorem call_not_mem_members (block : Block) (callee : Callee) (type binding : String) :
    Construct.call callee type binding ∉ block.members := by
  intro among
  obtain ⟨file, -, same | same⟩ | ⟨file, -, ⟨values, -, same⟩ | same⟩ :=
    cases_of_mem_members among
  all_goals cases same

/-- The calls of a block invoke the function that makes its model, and the loader by its name. -/
theorem callee_of_mem {block : Block} {node : Node} (member : node ∈ block.nodes)
    {callee : Callee} {type binding : String} (call : node.construct = .call callee type binding) :
    (callee = .node block.networkHandle ∧ block.model?.isSome = true) ∨
      callee = .named Construct.loaderName := by
  simp only [nodes, List.mem_append, List.mem_singleton, List.mem_map] at member
  rcases member with (((⟨header, among, rfl⟩ | rfl) | ⟨construct, among, rfl⟩) | rfl) |
    ⟨statement, among, rfl⟩
  · obtain ⟨text, -, rfl⟩ := List.mem_map.1 among
    cases call
  · cases call
  · obtain rfl : construct = .call callee type binding := call
    exact absurd among (block.call_not_mem_members callee type binding)
  · cases call
  · obtain rfl : statement = .call callee type binding := call
    simp only [statements, List.mem_append, List.mem_ite_nil_right, List.mem_singleton,
      Construct.call.injEq, reduceCtorEq, or_false] at among
    rcases among with ⟨modelled, invoked, -⟩ | ⟨-, invoked, -⟩
    · exact .inl ⟨invoked, modelled⟩
    · exact .inr invoked

/-- The handles in a block are those of its own nodes. -/
structure Linked (block : Block) : Prop where
  /-- The entry point calls the function that makes the model. -/
  network : ∀ file, block.model? = some file →
    block.forest.construct? block.networkHandle = some (block.networkFunction file)
  /-- That function takes the parameters from the array that holds them. -/
  weights : ∀ file values, block.model? = some file → block.weights = some values →
    block.forest.construct? block.weightsHandle = some (.arrayLiteral Forest.weightsName values)

theorem linked (block : Block) : block.Linked :=
  ⟨fun _ => construct?_networkHandle, fun _ _ => construct?_weightsHandle⟩

/-- **Every call of a block finds its function.** -/
theorem forest_callable (block : Block) : block.forest.Callable := by
  intro handle callee type binding found
  rw [construct?_forest] at found
  obtain ⟨node, there, call⟩ := Option.map_eq_some_iff.1 found
  obtain ⟨rfl, modelled⟩ | rfl := callee_of_mem (List.mem_of_getElem? there) call
  · exact ⟨_, functionName?_networkHandle modelled⟩
  · exact ⟨_, rfl⟩

end ModelExport.Block
