/-
# ModelExport.Proofs.Session.Block — what one generation adds to a program

A block is four comments and a class among the roots. The members of the class are
those on training, those on the model and the entry point, and the statements of
the entry point follow it. `Block.forest` is the block by itself, node by node, and
`build_eq` says that building adds exactly this, with its handles raised by the
nodes that were there before, whatever these are.
-/
import ModelExport.Session
import ModelExport.Proofs.Fold
import ModelExport.Proofs.Forest.Siblings

set_option autoImplicit false

namespace ModelExport

/-- All that a block depends on. -/
structure Block where
  stamp : Stamp
  className : String
  /-- Whether the entry point calls the function that loads the training rows. -/
  separates : Bool
  model? : Option Path
  /-- The parameters of the model, if they are written into the program. -/
  weights : Option (List Binary64)
  data? : Option Path
  /-- The training rows, if they are written into the program. -/
  rows : Option TrainingSet

namespace Block

/-- The comments at the head. -/
def headers (block : Block) : List Construct := (Session.headerTexts block.stamp).map .comment

/-- The members on training: the rows, and the function that loads them, twice where it is
called. -/
def trainingMembers (block : Block) : List Construct :=
  match block.data? with
  | none => []
  | some file =>
      .embeddedTraining file block.rows ::
        List.replicate (if block.separates then 2 else 1) (.trainingLoader file)

/-- The handle of the array of parameters, if they are written: four comments, the class and the
members on training are older. -/
def weightsHandle (block : Block) : Handle := 5 + block.trainingMembers.length

/-- The function that makes the model in a file, from the array if there is one. -/
def networkFunction (block : Block) (file : Path) : Construct :=
  .networkFunction Session.networkName file (block.weights.map fun _ => block.weightsHandle)

/-- The members on the model: its parameters if they are written, and the function that makes it. -/
def modelMembers (block : Block) : List Construct :=
  match block.model? with
  | none => []
  | some file =>
      (block.weights.map (Construct.arrayLiteral Forest.weightsName)).toList ++
        [block.networkFunction file]

/-- The members before the entry point. -/
def members (block : Block) : List Construct := block.trainingMembers ++ block.modelMembers

/-- The handle of the entry point: all other members are older. -/
def mainHandle (block : Block) : Handle := 5 + block.members.length

/-- The handle of the function that makes the model, the last member before the entry point. -/
def networkHandle (block : Block) : Handle := 4 + block.members.length

/-- The statements of the entry point. -/
def statements (block : Block) : List Construct :=
  (if block.model?.isSome then
    [.call (.node block.networkHandle) Construct.methodType "method"] else []) ++
  (if block.data?.isSome && block.separates then
    [.call (.named Construct.loaderName) Construct.dataSetType "training"] else []) ++
  [.comment Session.trailer]

/-- The class, with its members and the entry point as children. -/
def classNode (block : Block) : Node :=
  ⟨.classBody block.className, none, List.range' 5 (block.members.length + 1)⟩

/-- The entry point, with its statements as children. -/
def mainNode (block : Block) : Node :=
  ⟨.mainFunction, some 4, List.range' (block.mainHandle + 1) block.statements.length⟩

/-- The nodes in the order of their making. -/
def nodes (block : Block) : List Node :=
  block.headers.map (Forest.leaf none) ++ [block.classNode] ++
    block.members.map (Forest.leaf (some 4)) ++ [block.mainNode] ++
    block.statements.map (Forest.leaf (some block.mainHandle))

/-- The block by itself. -/
def forest (block : Block) : Forest := ⟨block.nodes.toArray, [0, 1, 2, 3, 4]⟩

theorem length_headers (block : Block) : block.headers.length = 4 := rfl

/-- The nodes of a block, made one after the other. -/
theorem forest_eq_pushAll (block : Block) :
    (((Forest.empty.pushAll none (block.headers ++ [.classBody block.className])).pushAll (some 4)
        (block.members ++ [.mainFunction])).pushAll (some block.mainHandle) block.statements) =
      block.forest := by
  have roots : Forest.empty.pushAll none (block.headers ++ [.classBody block.className]) =
      ⟨(block.headers.map (Forest.leaf none) ++
        Forest.leaf none (.classBody block.className) :: []).toArray, [0, 1, 2, 3, 4]⟩ := by
    have made := Forest.pushAll_roots [] [] (block.headers ++ [.classBody block.className])
    rw [List.map_append] at made
    exact made
  have filled := Forest.pushAll_under (block.headers.map (Forest.leaf none)) []
    (Forest.leaf none (.classBody block.className)) [0, 1, 2, 3, 4]
    (block.members ++ [.mainFunction])
  rw [List.length_map, length_headers] at filled
  have joined : block.headers.map (Forest.leaf none) ++
        Forest.adopt (List.range' (4 + 1 + ([] : List Node).length)
          (block.members ++ [Construct.mainFunction]).length)
          (Forest.leaf none (.classBody block.className)) ::
        ([] ++ (block.members ++ [Construct.mainFunction]).map (Forest.leaf (some 4))) =
      (block.headers.map (Forest.leaf none) ++ [block.classNode] ++
        block.members.map (Forest.leaf (some 4))) ++ Forest.leaf (some 4) .mainFunction :: [] := by
    simp [classNode, Forest.adopt, Forest.leaf]
  have entered := Forest.pushAll_under
    (block.headers.map (Forest.leaf none) ++ [block.classNode] ++
      block.members.map (Forest.leaf (some 4))) []
    (Forest.leaf (some 4) .mainFunction) [0, 1, 2, 3, 4] block.statements
  have place : (block.headers.map (Forest.leaf none) ++ [block.classNode] ++
      block.members.map (Forest.leaf (some 4))).length = block.mainHandle := by
    simp only [List.length_append, List.length_map, List.length_singleton, length_headers,
      mainHandle]
  rw [place] at entered
  rw [roots, filled, joined, entered, forest, nodes]
  simp [mainNode, Forest.adopt, Forest.leaf]

/-- A block after a program, made one node after the other under raised handles. -/
theorem append_forest (forest : Forest) (block : Block) :
    forest.append block.forest =
      ((forest.pushAll none (block.headers ++ [.classBody block.className])).pushAll
        (some (4 + forest.size))
        ((block.members ++ [Construct.mainFunction]).map (Construct.shift forest.size))).pushAll
        (some (block.mainHandle + forest.size))
        (block.statements.map (Construct.shift forest.size)) := by
  have roots := Forest.pushAll_append forest .empty none
    (block.headers ++ [.classBody block.className])
  rw [Forest.append_empty] at roots
  have same : (block.headers ++ [Construct.classBody block.className]).map
      (Construct.shift forest.size) = block.headers ++ [.classBody block.className] := rfl
  rw [same, Option.map_none] at roots
  rw [← forest_eq_pushAll, ← Forest.pushAll_append, ← Forest.pushAll_append, ← roots]
  rfl

end Block

namespace Session

/-! ## Building -/

theorem addHeader_eq (forest : Forest) (block : Block) :
    addHeader forest block.stamp = forest.pushAll none block.headers := rfl

theorem addTraining_eq (forest : Forest) (parent : Handle) (block : Block) :
    addTraining forest parent block.data? block.rows block.separates =
      forest.pushAll (some parent) block.trainingMembers := by
  unfold addTraining Block.trainingMembers
  cases block.data? with
  | none => rfl
  | some file => cases block.separates <;> rfl

theorem shift_trainingMembers (block : Block) (offset : Nat) :
    block.trainingMembers.map (Construct.shift offset) = block.trainingMembers := by
  unfold Block.trainingMembers
  cases block.data? with
  | none => rfl
  | some file => cases block.separates <;> rfl

/-- The members on the model, added where their handles are raised by an offset. -/
theorem addModel_eq {forest : Forest} {offset : Nat} (parent : Handle) (block : Block)
    (model : Option Model) (weights : block.weights = model.bind Model.parameters?)
    (encodable : ∀ read, model = some read → ∃ parameters, read.parameters? = some parameters)
    (free : forest.size = 5 + block.trainingMembers.length + offset) :
    addModel forest parent block.model? model =
      (.ok (if block.model?.isSome then some (block.networkHandle + offset) else none),
        forest.pushAll (some parent) (block.modelMembers.map (Construct.shift offset))) := by
  unfold addModel addNetwork Block.networkHandle Block.members Block.modelMembers
    Block.networkFunction
  cases block.model? with
  | none => rfl
  | some file =>
      cases model with
      | none =>
          have handle : forest.size = 4 + (block.trainingMembers.length + 1) + offset := by omega
          rw [weights, List.length_append]
          simp only [Option.bind_none, Option.map_none, Option.toList_none, List.nil_append,
            List.length_singleton, ← handle]
          rfl
      | some read =>
          obtain ⟨parameters, listed⟩ := encodable read rfl
          have handle : forest.size + 1 = 4 + (block.trainingMembers.length + 2) + offset := by
            omega
          rw [weights, List.length_append]
          simp only [Option.bind_some, listed, forest.addWeights_of_some parent listed,
            Option.map_some, Option.toList_some, List.singleton_append, Option.isSome_some, if_true,
            List.length_cons, List.length_nil, ← handle]
          simp only [Forest.addNetworkFunction, Forest.handle_push, Forest.size_push]
          rw [free]
          rfl

/-- The entry point with its statements, added where handles are raised by an offset. -/
theorem addEntryPoint_eq (forest : Forest) (offset : Nat) (parent : Handle) (block : Block) :
    addEntryPoint forest parent
        (if block.model?.isSome then some (block.networkHandle + offset) else none)
        (block.data?.isSome && block.separates) =
      (forest.push (some parent) .mainFunction).pushAll (some forest.size)
        (block.statements.map (Construct.shift offset)) := by
  unfold addEntryPoint Block.statements
  cases block.model?.isSome <;> cases (block.data?.isSome && block.separates) <;> rfl

/-- The block that a session adds for what was read. -/
def block (session : Session) (inputs : Inputs) (model? data? : Option Path) : Block :=
  ⟨session.stamp, session.className, session.renderer.style.separatesTraining, model?,
    inputs.model.bind Model.parameters?, data?, inputs.rows⟩

/-- **Building adds one block at the end of the program**, if the model that was read is
encodable. -/
theorem build_eq {session : Session} {inputs : Inputs}
    (encodable : ∀ read, inputs.model = some read →
      ∃ parameters, read.parameters? = some parameters) (model? data? : Option Path) :
    session.build inputs model? data? =
      (.ok (), { session with
        program := session.program.append (session.block inputs model? data?).forest }) := by
  let block := session.block inputs model? data?
  let offset := session.program.size
  let opened := session.program.pushAll none (block.headers ++ [.classBody block.className])
  have headed : addHeader session.program session.stamp =
      session.program.pushAll none block.headers := addHeader_eq session.program block
  have parent : ((addHeader session.program session.stamp).addClass session.className).handle =
      4 + offset := by
    rw [Forest.addClass, Forest.handle_push, headed, Forest.size_pushAll, block.length_headers,
      Nat.add_comm]
  have classed : (addHeader session.program session.stamp).addClass session.className = opened := by
    simp only [opened, Forest.pushAll_concat, headed]
    rfl
  have trained : addTraining opened (4 + offset) data? inputs.rows
        session.renderer.style.separatesTraining =
      opened.pushAll (some (4 + offset)) (block.trainingMembers.map (Construct.shift offset)) := by
    rw [shift_trainingMembers]
    exact addTraining_eq opened (4 + offset) block
  have free : (opened.pushAll (some (4 + offset))
      (block.trainingMembers.map (Construct.shift offset))).size =
        5 + block.trainingMembers.length + offset := by
    simp only [opened, Forest.size_pushAll, List.length_append, List.length_map,
      List.length_singleton, block.length_headers]
    omega
  have modelled := addModel_eq (4 + offset) block inputs.model rfl encodable free
  have entered := addEntryPoint_eq (opened.pushAll (some (4 + offset))
    (block.members.map (Construct.shift offset))) offset (4 + offset) block
  have main : (opened.pushAll (some (4 + offset))
      (block.members.map (Construct.shift offset))).size = block.mainHandle + offset := by
    simp only [opened, Forest.size_pushAll, List.length_append, List.length_map,
      List.length_singleton, block.length_headers, Block.mainHandle]
    omega
  rw [main] at entered
  simp only [build, classed, parent, trained]
  rw [show addModel _ _ model? inputs.model = _ from modelled]
  simp only [← Forest.pushAll_concat, ← List.map_append]
  refine congrArg (fun program => ((.ok () : Outcome), { session with program := program }))
    (entered.trans ?_)
  rw [Block.append_forest, List.map_append, Forest.pushAll_concat]
  rfl

end Session

end ModelExport
