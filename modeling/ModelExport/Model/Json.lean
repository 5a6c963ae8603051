/-
# ModelExport.Model.Json — reading a model

A model file holds an object with a member `kind`, wherever it stands, or a list
whose first item is the kind; the other members or items are the fields of that
kind of model. The whole value is read first, and the kind judged as soon as it
is met; then the fields are decoded, and faults found there have no place. A
feed-forward network must store exactly the weights its layers ask for.
-/
import ModelExport.FileMap
import ModelExport.Json.Decode
import ModelExport.Model

set_option autoImplicit false

namespace ModelExport

/-- Why a model could not be loaded. -/
inductive ModelError where
  | io (error : IoError)
  | malformed (path : Path) (error : Json.Error)
  /-- The layers ask for one number of weights, and another is stored. -/
  | shape (path : Path) (expected actual : Nat)
  | overflow (path : Path)

namespace ModelError

def message : ModelError → String
  | .io error => error.message
  | .malformed path error => "malformed model file " ++ path.text ++ ": " ++ error.message
  | .shape path expected actual =>
      "model file " ++ path.text ++ " declares " ++ toString expected ++ " weights but stores " ++
        toString actual
  | .overflow path =>
      "model file " ++ path.text ++ " declares more weights than can be addressed"

end ModelError

namespace Model

open Json (Cause Decoder Fault Reader Taken Value)
open Json.Decode

/-! ## The fields of each kind -/

/-- An activation by its name. -/
def activationNamed (name : String) : Except Cause Activation :=
  match name with
  | "linear" => .ok .linear
  | "sigmoid" => .ok .sigmoid
  | "tanh" => .ok .tanh
  | "relu" => .ok .relu
  | other => .error (.unknownVariant other ["linear", "sigmoid", "tanh", "relu"])

/-- An activation: its name, or an object with its name as the only key and nothing as its value. -/
def decodeActivation : Decoder Activation
  | .string name => activationNamed name
  | .object [(name, value)] => do
      let activation ← activationNamed name
      match value with
      | .null => .ok activation
      | .object [] => .ok activation
      | other => refuse "unit" other
  | .object _ => .error (.invalidValue .map "map with a single key")
  | value => refuse "string or map" value

/-- The fields of a layer that were given so far. -/
structure LayerFields where
  neurons : Option UInt64
  bias : Option Bool
  activation : Option Activation

def decodeLayer : Decoder Layer :=
  record "struct Layer" (⟨none, none, none⟩ : LayerFields)
    (fun given (name, value) => do
      match name with
      | "neurons" => .ok { given with neurons := ← once name given.neurons count value }
      | "bias" => .ok { given with bias := ← once name given.bias boolean value }
      | "activation" =>
          .ok { given with activation := ← once name given.activation decodeActivation value }
      | _ => .ok given)
    (fun given => do
      .ok ⟨← required "neurons" given.neurons, given.bias.getD false,
        given.activation.getD .sigmoid⟩)
    (fun values => do
      let (neurons, rest) ← element "struct Layer with 3 elements" 0 count values
      let (bias, rest) ← elementOr false boolean rest
      let (activation, rest) ← elementOr .sigmoid decodeActivation rest
      noMore 3 rest
      .ok ⟨neurons, bias, activation⟩)

/-- The fields of a feed-forward network that were given so far. -/
structure BasicNetworkFields where
  layers : Option (List Layer)
  weights : Option (List Binary64)

def decodeBasicNetwork : Decoder BasicNetwork :=
  record "struct BasicNetwork" (⟨none, none⟩ : BasicNetworkFields)
    (fun given (name, value) => do
      match name with
      | "layers" => .ok { given with layers := ← once name given.layers (listOf decodeLayer) value }
      | "weights" => .ok { given with weights := ← once name given.weights (listOf double) value }
      | _ => .ok given)
    (fun given => do
      .ok ⟨← required "layers" given.layers, ← required "weights" given.weights⟩)
    (fun values => do
      let expected := "struct BasicNetwork with 2 elements"
      let (layers, rest) ← element expected 0 (listOf decodeLayer) values
      let (weights, rest) ← element expected 1 (listOf double) rest
      noMore 2 rest
      .ok ⟨layers, weights⟩)

/-- The fields of a radial basis function network that were given so far. -/
structure RbfNetworkFields where
  inputCount : Option UInt64
  centers : Option (List (List Binary64))
  widths : Option (List Binary64)
  outputWeights : Option (List Binary64)

def decodeRbfNetwork : Decoder RbfNetwork :=
  record "struct RbfNetwork" (⟨none, none, none, none⟩ : RbfNetworkFields)
    (fun given (name, value) => do
      match name with
      | "input_count" => .ok { given with inputCount := ← once name given.inputCount count value }
      | "centers" =>
          .ok { given with centers := ← once name given.centers (listOf (listOf double)) value }
      | "widths" => .ok { given with widths := ← once name given.widths (listOf double) value }
      | "output_weights" =>
          .ok { given with outputWeights := ← once name given.outputWeights (listOf double) value }
      | _ => .ok given)
    (fun given => do
      .ok ⟨← required "input_count" given.inputCount, ← required "centers" given.centers,
        ← required "widths" given.widths, ← required "output_weights" given.outputWeights⟩)
    (fun values => do
      let expected := "struct RbfNetwork with 4 elements"
      let (inputCount, rest) ← element expected 0 count values
      let (centers, rest) ← element expected 1 (listOf (listOf double)) rest
      let (widths, rest) ← element expected 2 (listOf double) rest
      let (outputWeights, rest) ← element expected 3 (listOf double) rest
      noMore 4 rest
      .ok ⟨inputCount, centers, widths, outputWeights⟩)

/-- The fields of a support vector machine that were given so far. -/
structure SupportVectorMachineFields where
  inputCount : Option UInt64
  supportVectors : Option (List (List Binary64))
  coefficients : Option (List Binary64)
  bias : Option Binary64

def decodeSupportVectorMachine : Decoder SupportVectorMachine :=
  record "struct SupportVectorMachine" (⟨none, none, none, none⟩ : SupportVectorMachineFields)
    (fun given (name, value) => do
      match name with
      | "input_count" => .ok { given with inputCount := ← once name given.inputCount count value }
      | "support_vectors" =>
          .ok { given with
            supportVectors := ← once name given.supportVectors (listOf (listOf double)) value }
      | "coefficients" =>
          .ok { given with coefficients := ← once name given.coefficients (listOf double) value }
      | "bias" => .ok { given with bias := ← once name given.bias double value }
      | _ => .ok given)
    (fun given => do
      .ok ⟨← required "input_count" given.inputCount,
        ← required "support_vectors" given.supportVectors,
        ← required "coefficients" given.coefficients, given.bias.getD .zero⟩)
    (fun values => do
      let expected := "struct SupportVectorMachine with 4 elements"
      let (inputCount, rest) ← element expected 0 count values
      let (supportVectors, rest) ← element expected 1 (listOf (listOf double)) rest
      let (coefficients, rest) ← element expected 2 (listOf double) rest
      let (bias, rest) ← elementOr .zero double rest
      noMore 4 rest
      .ok ⟨inputCount, supportVectors, coefficients, bias⟩)

/-- The fields of a model of a given kind. -/
def decodeFields : Kind → Decoder Model
  | .basicNetwork, value => (decodeBasicNetwork value).map .basicNetwork
  | .rbfNetwork, value => (decodeRbfNetwork value).map .rbfNetwork
  | .supportVectorMachine, value => (decodeSupportVectorMachine value).map .supportVectorMachine

/-! ## The kind and the rest -/

/-- The name of a kind in model files. -/
def kindNamed (name : String) : Except Cause Kind :=
  match name with
  | "basic_network" => .ok .basicNetwork
  | "rbf_network" => .ok .rbfNetwork
  | "svm" => .ok .supportVectorMachine
  | other => .error (.unknownVariant other ["basic_network", "rbf_network", "svm"])

def readKind : Reader Kind :=
  Json.typed "variant identifier" fun
    | .string name => kindNamed name
    | other => .error (.invalidType other.found "variant identifier")

/-- How many brackets may stand around a part of a member. -/
def depthLimit : Nat := 126

/-- The kind, if it was met, and the other members. -/
structure TaggedMembers where
  kind : Option Kind
  others : List (String × Value)

/-- Read a member of a model after its key. -/
def readMember (given : TaggedMembers) (name : String) : Reader TaggedMembers := fun text =>
  if name = "kind" then
    if given.kind.isSome then
      .error (.before (.duplicateField "kind") (Json.afterClosing .object text))
    else (Json.member readKind text).map fun taken => taken.map fun kind =>
      { given with kind := some kind }
  else (Json.member (Json.value depthLimit) text).map fun taken => taken.map fun value =>
    { given with others := given.others ++ [(name, value)] }

/-- Read the kind of a model and the value that holds its fields. -/
def readTagged : Reader (Kind × Value) := fun text =>
  match Json.next? text with
  | some ⟨'[', rest, shorter⟩ => do
      match ← Json.nextItem readKind true rest with
      | none => .error (.before (.missingField "kind") (Json.afterClosing .list rest))
      | some kind =>
          let others ← Json.items (Json.value depthLimit) false kind.rest
          let whole := others.map fun values => (kind.value, Value.list values)
          .ok ((kind.andTake whole).inside shorter)
  | some ⟨'\x7b', rest, shorter⟩ => do
      let all ← Json.members readMember ⟨none, []⟩ true rest
      match all.value.kind with
      | none => .error (.before (.missingField "kind") all.rest)
      | some kind =>
          .ok ((all.map fun given => (kind, Value.object given.others)).inside shorter)
  | _ => Json.refuse "internally tagged enum PersistedModel" text

/-- The model that a text in JSON holds. -/
def decode (text : String) : Except Json.Error Model :=
  let read : Except Fault Model := do
    let tagged ← readTagged text.toList
    match decodeFields tagged.value.1 tagged.value.2 with
    | .error cause => .error (.unplaced cause)
    | .ok model =>
        Json.finish tagged.rest
        .ok model
  read.mapError (Fault.locate text.toList)

/-- Refuse a feed-forward network that does not store the weights its layers ask for. -/
def checkWeights (path : Path) : Model → Except ModelError Model
  | .basicNetwork network =>
      match network.expectedWeightCount? with
      | none => .error (.overflow path)
      | some expected =>
          if expected = network.weights.length then .ok (.basicNetwork network)
          else .error (.shape path expected network.weights.length)
  | model => .ok model

/-- The model that a text holds, given how texts are decoded. The path is named in messages only. -/
def ofText (decode : String → Except Json.Error Model) (path : Path) (text : String) :
    Except ModelError Model := do
  let model ← (decode text).mapError (.malformed path)
  checkWeights path model

/-- The model that a text in JSON holds, if it stores the right number of weights. -/
def ofJson (path : Path) (text : String) : Except ModelError Model := ofText decode path text

/-- The model that a file holds, given how files are read. -/
def load (read : Path → Except IoError String) (path : Path) : Except ModelError Model := do
  let text ← (read path).mapError .io
  ofJson path text

end Model

end ModelExport
