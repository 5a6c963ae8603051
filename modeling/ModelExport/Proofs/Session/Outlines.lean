/-
# ModelExport.Proofs.Session.Outlines — what the class of a block says

The members of the class of a block, in the order in which they are written: the
training rows when embedding, the parameters of the model, the loaders of the rows,
the function that makes the model, and the entry point. Every handle is resolved,
so the function that makes the model names the array of its parameters and the entry
point the functions that it calls. `spelledClass_forest` is the class with the phrases
of these members, under any flag, whatever flag the block was made with.
-/
import ModelExport.Proofs.Document.Phrases
import ModelExport.Proofs.Session.Arrays

set_option autoImplicit false

namespace ModelExport.Block

/-! ## The outlines of its nodes -/

/-- The statement that a construct in the entry point is. A call by handle invokes the function that
makes the model. -/
def statementOf : Construct → Option Statement
  | .comment text => some (.comment text)
  | .call (.node _) type binding => some (.call Session.networkName type binding)
  | .call (.named name) type binding => some (.call name type binding)
  | _ => none

/-- The statements of the entry point, with the names of the functions that they call. -/
def said (block : Block) : List Statement :=
  (if block.model?.isSome then
    [.call Session.networkName Construct.methodType "method"] else []) ++
  (if block.data?.isSome && block.separates then
    [.call Construct.loaderName Construct.dataSetType "training"] else []) ++
  [.comment Session.trailer]

/-- The member that a child of the class is. The function that makes the model takes its parameters
from the array that holds them. -/
def memberOf (block : Block) : Construct → Option Member
  | .arrayLiteral name values => some (.array name values)
  | .embeddedTraining _ rows => rows.map .rows
  | .networkFunction name file _ =>
      some (.network name file (block.weights.map fun _ => Forest.weightsName) [])
  | .trainingLoader file => some (.loader file [])
  | .mainFunction => some (.main block.said)
  | _ => none

variable (block : Block)

theorem filterMap_statementOf : block.statements.filterMap statementOf = block.said := by
  unfold statements said
  cases block.model?.isSome <;> cases (block.data?.isSome && block.separates) <;> rfl

theorem construct?_of_stands {handle : Handle} {node : Node}
    (stands : block.nodes[handle]? = some node) :
    block.forest.construct? handle = some node.construct := by
  rw [construct?_forest, stands, Option.map_some]

theorem children_of_stands {handle : Handle} {node : Node}
    (stands : block.nodes[handle]? = some node) : block.forest.children handle = node.children := by
  rw [Forest.children, forest, List.getElem?_toArray, stands]

theorem statement_forest {handle : Handle} {node : Node}
    (stands : block.nodes[handle]? = some node)
    (among : node ∈ block.statements.map (Forest.leaf (some block.mainHandle))) :
    block.forest.statement handle = .ok (statementOf node.construct) := by
  rw [Forest.statement, block.construct?_of_stands stands]
  obtain ⟨construct, member, rfl⟩ := List.mem_map.1 among
  simp only [statements, List.mem_append, List.mem_ite_nil_right, List.mem_singleton] at member
  rcases member with (⟨modelled, rfl⟩ | ⟨-, rfl⟩) | rfl
  · have named : block.forest.calleeName? (.node block.networkHandle) = some Session.networkName :=
      functionName?_networkHandle modelled
    simp only [Forest.leaf, named, statementOf]
  · rfl
  · rfl

/-- The body of the entry point. -/
theorem body_main {handle : Handle} (stands : block.nodes[handle]? = some block.mainNode) :
    block.forest.body handle = .ok block.said := by
  have each : ∀ child ∈ block.mainNode.children,
      ∀ node ∈ block.statements.map (Forest.leaf (some block.mainHandle)),
      block.nodes[child]? = some node →
        block.forest.statement child = .ok (statementOf node.construct) :=
    fun _ _ _ among there => block.statement_forest there among
  rw [Forest.body, block.children_of_stands stands, mapM_of_keys block.map_nodes_statements each,
    map_ok, List.map_map, List.filterMap_map, ← filterMap_statementOf]
  rfl

/-- The members before the entry point have no body. -/
theorem body_leaf {handle : Handle} {parent : Option Handle} {construct : Construct}
    (stands : block.nodes[handle]? = some (Forest.leaf parent construct)) :
    block.forest.body handle = .ok [] := by
  rw [Forest.body, block.children_of_stands stands]
  rfl

theorem member_forest {handle : Handle} {node : Node}
    (stands : block.nodes[handle]? = some node)
    (among : node ∈ block.members.map (Forest.leaf (some 4)) ++ [block.mainNode]) :
    block.forest.member handle = .ok (block.memberOf node.construct) := by
  rw [Forest.member, block.construct?_of_stands stands]
  rcases List.mem_append.1 among with leaf | entry
  · obtain ⟨construct, member, rfl⟩ := List.mem_map.1 leaf
    have empty := block.body_leaf stands
    obtain ⟨file, -, rfl | rfl⟩ | ⟨file, modelled, ⟨values, -, rfl⟩ | rfl⟩ :=
      cases_of_mem_members member
    · rfl
    · simp only [Forest.leaf, empty, map_ok, memberOf]
    · rfl
    -- the function points at an array exactly when there are parameters, and then finds them
    have resolved : (block.weights.map fun _ => block.weightsHandle).bind block.forest.arrayName? =
        block.weights.map fun _ => Forest.weightsName := by
      cases written : block.weights with
      | none => rfl
      | some values =>
          rw [Option.map_some, Option.bind_some, Forest.arrayName?,
            construct?_weightsHandle modelled written]
          rfl
    simp only [Forest.leaf, networkFunction, empty, map_ok, memberOf, resolved]
  · obtain rfl := List.mem_singleton.1 entry
    simp only [mainNode, block.body_main stands, map_ok, memberOf]

/-! ## The members of its class -/

/-- The training rows, when embedding. -/
def rowsOutline (embed : Bool) : List Member :=
  if embed && block.data?.isSome then (block.rows.map Member.rows).toList else []

/-- The parameters of the model. -/
def weightsOutline : List Member :=
  if block.model?.isSome then (block.weights.map (Member.array Forest.weightsName)).toList else []

/-- The functions that load the training rows. -/
def loaderOutlines : List Member :=
  block.data?.elim [] fun file =>
    List.replicate (if block.separates then 2 else 1) (.loader file [])

/-- The function that makes the model. -/
def networkOutline : List Member :=
  (block.model?.map fun file => Member.network Session.networkName file
    (block.weights.map fun _ => Forest.weightsName) []).toList

/-- The members of the class. -/
def outlines (embed : Bool) : List Member :=
  block.rowsOutline embed ++ block.weightsOutline ++ block.loaderOutlines ++ block.networkOutline ++
    [.main block.said]

/-- The kinds of members, and when there are any. -/
theorem mem_outlines {embed : Bool} {member : Member} :
    member ∈ block.outlines embed ↔
      ((embed && block.data?.isSome) = true ∧ ∃ set, block.rows = some set ∧ member = .rows set) ∨
      (block.model?.isSome = true ∧ ∃ values, block.weights = some values ∧
        member = .array Forest.weightsName values) ∨
      (∃ file, block.data? = some file ∧ member = .loader file []) ∨
      (∃ file, block.model? = some file ∧ member = .network Session.networkName file
        (block.weights.map fun _ => Forest.weightsName) []) ∨
      member = .main block.said := by
  have loaders : member ∈ block.loaderOutlines ↔
      ∃ file, block.data? = some file ∧ member = .loader file [] := by
    unfold loaderOutlines
    cases block.data? <;> cases block.separates <;> simp
  simp only [outlines, rowsOutline, weightsOutline, networkOutline, loaders, List.mem_append,
    List.mem_ite_nil_right, Option.mem_toList, Option.map_eq_some_iff, List.mem_singleton,
    @eq_comm _ _ member, or_assoc]

theorem rowsOutline_eq (embed : Bool) :
    (block.trainingMembers.filter (Construct.declares embed)).filterMap block.memberOf =
      block.rowsOutline embed := by
  unfold trainingMembers rowsOutline
  cases block.data? with
  | none => cases embed <;> rfl
  | some file => cases block.separates <;> cases block.rows <;> cases embed <;> rfl

theorem weightsOutline_eq (embed : Bool) :
    (block.modelMembers.filter (Construct.declares embed)).filterMap block.memberOf =
      block.weightsOutline := by
  unfold modelMembers weightsOutline
  cases block.model? with
  | none => rfl
  | some file => cases block.weights <;> rfl

theorem loaderOutlines_eq :
    (block.trainingMembers.filter Construct.isCode).filterMap block.memberOf =
      block.loaderOutlines := by
  unfold trainingMembers loaderOutlines
  cases block.data? with
  | none => rfl
  | some file => cases block.separates <;> cases block.rows <;> rfl

theorem networkOutline_eq :
    (block.modelMembers.filter Construct.isCode).filterMap block.memberOf =
      block.networkOutline := by
  unfold modelMembers networkOutline
  cases block.model? with
  | none => rfl
  | some file =>
      cases written : block.weights <;>
        simp [List.filter_cons, Construct.isCode, networkFunction, memberOf, written]

/-- No member before the entry point is another entry point. -/
theorem filter_isMain_members : block.members.filter Construct.isMain = [] := by
  rw [List.filter_eq_nil_iff]
  intro construct member passed
  obtain ⟨file, -, rfl | rfl⟩ | ⟨file, -, ⟨values, -, rfl⟩ | rfl⟩ := cases_of_mem_members member
  all_goals cases passed

theorem outlines_eq (embed : Bool) :
    (Construct.ordered embed (block.members ++ [.mainFunction])).filterMap block.memberOf =
      block.outlines embed := by
  have entered : ([.mainFunction] : List Construct).filter Construct.isMain = [.mainFunction] := rfl
  have declared : ([.mainFunction] : List Construct).filter (Construct.declares embed) = [] := rfl
  have coded : ([.mainFunction] : List Construct).filter Construct.isCode = [] := rfl
  rw [Construct.ordered, List.filter_append, List.filter_append, List.filter_append, declared,
    coded, entered, filter_isMain_members, members, List.filter_append, List.filter_append]
  simp only [List.filterMap_append, List.append_nil, List.nil_append, List.append_assoc, outlines,
    rowsOutline_eq, weightsOutline_eq, loaderOutlines_eq, networkOutline_eq]
  rfl

/-- Whether training rows are written into the class. -/
def writesRows (embed : Bool) : Bool := embed && block.data?.isSome && block.rows.isSome

/-- The class with the phrases of its members. -/
def spelled (embed : Bool) : SpelledClass :=
  ⟨block.className, (block.outlines embed).map (Member.phrases embed (block.writesRows embed))⟩

theorem members_forest (embed : Bool) :
    block.forest.members embed (block.forest.children 4) = .ok (block.outlines embed) := by
  have known := Forest.map_construct?_order block.map_construct?_children embed
  have each : ∀ child ∈ block.forest.order embed (block.forest.children 4),
      ∀ construct ∈ Construct.ordered embed (block.members ++ [.mainFunction]),
      block.forest.construct? child = some construct →
        block.forest.member child = .ok (block.memberOf construct) := by
    intro child ordered construct _ found
    -- a construct does not tell where its node stands, so the node is looked up among the children
    have inside := List.mem_map_of_mem (f := fun child => block.nodes[child]?)
      (Forest.mem_order.1 ordered).1
    rw [map_nodes_children] at inside
    obtain ⟨node, among, stands⟩ := List.mem_map.1 inside
    rw [block.construct?_of_stands stands.symm, Option.some.injEq] at found
    rw [block.member_forest stands.symm among, found]
  rw [Forest.members, mapM_of_keys known each, map_ok, List.filterMap_map, ← outlines_eq]
  rfl

theorem writesRows_forest (embed : Bool) :
    block.forest.writesRows embed (block.forest.children 4) = block.writesRows embed := by
  have held : block.members.any Construct.holdsRows =
      (block.data?.isSome && block.rows.isSome) := by
    have model : block.modelMembers.any Construct.holdsRows = false := by
      unfold modelMembers
      cases block.model? with
      | none => rfl
      | some file => cases block.weights <;> rfl
    rw [members, List.any_append, model, Bool.or_false, trainingMembers]
    cases block.data? with
    | none => rfl
    | some file => cases block.separates <;> cases block.rows <;> rfl
  have entry : [Construct.mainFunction].any Construct.holdsRows = false := rfl
  rw [Forest.writesRows, Forest.any_passes_of_constructs block.map_construct?_children,
    List.any_append, held, entry, Bool.or_false, writesRows, Bool.and_assoc]

/-- **The class of a block says its outlines.** -/
theorem spelledClass_forest (embed : Bool) :
    block.forest.spelledClass embed 4 = .ok (block.spelled embed) := by
  have name : block.forest.className 4 = block.className := rfl
  rw [Forest.spelledClass, members_forest, writesRows_forest, name]
  rfl

end ModelExport.Block
