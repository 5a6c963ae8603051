/-
# ModelExport.Proofs.Forest.Embed — parameters written into a program

Embedding makes one node: an array that is the last child of its class and holds
every parameter of the model in its place. `Gains` says what one more node changes,
and that nothing else changes; a model that cannot be encoded is refused, and the
program is as it was.
-/
import ModelExport.Embed
import ModelExport.Proofs.Forest.Builder
import ModelExport.Proofs.Model.Parameters

set_option autoImplicit false

namespace ModelExport

namespace Forest

/-- The second program is the first with one node more, the last child of its parent. -/
structure Gains (before after : Forest) (parent : Handle) (construct : Construct) : Prop where
  size : after.size = before.size + 1
  fresh : after.nodes[before.size]? = some ⟨construct, some parent, []⟩
  /-- The parent has one child more, and is the same otherwise. -/
  owner : after.nodes[parent]? = before.nodes[parent]?.map fun node =>
    ⟨node.construct, node.parent, node.children ++ [before.size]⟩
  others : ∀ handle, handle ≠ before.size → handle ≠ parent →
    after.nodes[handle]? = before.nodes[handle]?
  roots : after.roots = before.roots

theorem push_gains {forest : Forest} {parent : Handle} (inside : parent < forest.size)
    (construct : Construct) :
    forest.Gains (forest.push (some parent) construct) parent construct := by
  have older : parent ≠ forest.size := Nat.ne_of_lt inside
  constructor
  · exact size_push forest (some parent) construct
  · rw [getElem?_push, if_pos rfl]
  · rw [getElem?_push, if_neg older, if_pos rfl]
    rfl
  · intro handle old apart
    have stranger : some parent ≠ some handle := fun same => apart (Option.some.inj same).symm
    rw [getElem?_push, if_neg old, if_neg stranger]
  · rfl

/-- **Embedding loses, adds and reorders no parameter.** The array holds the parameters in their
order, as many as were counted beforehand; a buffer of that size is filled by them whatever it
held. If the model is a feed-forward network that was read, they are as many as its layers ask
for, however the text of it was decoded. -/
theorem addWeights_exact (forest : Forest) {parent : Handle} (inside : parent < forest.size)
    (model : Model) :
    match model.stored? with
    | none => forest.addWeights parent model = (.error (.unsupportedModel model.kind), forest)
    | some values =>
        (∃ after, forest.addWeights parent model = (.ok forest.size, after) ∧
          forest.Gains after parent (.arrayLiteral "WEIGHTS" values)) ∧
        model.parameterCount? = some values.length ∧
        (∀ buffer, buffer.length = values.length → model.encode? buffer = some values) ∧
        ∀ decode path text network, Model.ofText decode path text = .ok model →
          model = .basicNetwork network →
            values.length = BasicNetwork.weightSum network.layers := by
  have listed := model.parameters?_eq_stored?
  cases stored : model.stored? with
  | none => exact forest.addWeights_of_none parent (listed.trans stored)
  | some values =>
      refine ⟨⟨_, forest.addWeights_of_some parent (listed.trans stored), ?_⟩, ?_, ?_, ?_⟩
      · exact push_gains inside (.arrayLiteral weightsName values)
      · rw [Model.parameterCount?_eq, stored, Option.map_some]
      · intro buffer sized
        exact Model.encode?_eq_stored? stored buffer sized
      · intro decode path text network read kind
        subst kind
        have weights : network.weights = values := Option.some.inj stored
        rw [← weights]
        exact BasicNetwork.length_weights_of_ofText read

/-- Centers of three lengths, one of them empty. -/
def ragged : RbfNetwork :=
  ⟨2, [[.ofMagnitude false 1, .ofMagnitude true 1], [], [.ofMagnitude false 2]], [.zero],
    [.ofMagnitude true 0]⟩

/-- A file with two layers and the weights between them. -/
def twoLayers : String :=
  "\x7b\"kind\":\"basic_network\",\"layers\":[\x7b\"neurons\":1,\"bias\":true\x7d," ++
    "\x7b\"neurons\":1\x7d],\"weights\":[0.5,-2]\x7d"

theorem addWeights_exact_ragged :
    let forest : Forest := empty.addClass "Net"
    (∃ after, forest.addWeights 0 (.rbfNetwork ragged) = (.ok 1, after) ∧
      forest.Gains after 0 (.arrayLiteral "WEIGHTS" [.ofMagnitude false 1, .ofMagnitude true 1,
        .ofMagnitude false 2, .zero, .ofMagnitude true 0])) ∧
    ∃ network, Model.ofJson ⟨"net.json"⟩ twoLayers = .ok (.basicNetwork network) ∧
      network.weights.length = BasicNetwork.weightSum network.layers := by
  intro forest
  have inside : 0 < forest.size := by decide
  refine ⟨(forest.addWeights_exact inside (.rbfNetwork ragged)).1, ?_⟩
  have read : ∃ network, Model.ofJson ⟨"net.json"⟩ twoLayers = .ok (.basicNetwork network) :=
    ⟨⟨[⟨1, true, .sigmoid⟩, ⟨1, false, .sigmoid⟩], [⟨0x3fe0000000000000⟩, ⟨0xc000000000000000⟩]⟩,
      toOption_eq_some.1 (by decide +kernel)⟩
  obtain ⟨network, found⟩ := read
  have promised := forest.addWeights_exact inside (.basicNetwork network)
  exact ⟨network, found, promised.2.2.2 _ _ _ network found rfl⟩

end Forest

end ModelExport
