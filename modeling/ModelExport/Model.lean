/-
# ModelExport.Model — trained models

Three kinds of model: feed-forward networks, radial basis function networks and
support vector machines. The first two can be encoded: their parameters have a
fixed order in one flat list. A feed-forward network stores its weights flat,
layer pair by layer pair; how many there have to be follows from its layers,
and is counted in 64 bits at every step.
-/
import ModelExport.Binary64

set_option autoImplicit false

namespace ModelExport

/-- The activation function of a layer. -/
inductive Activation where
  | linear
  | sigmoid
  | tanh
  | relu
deriving DecidableEq

/-- One layer of a feed-forward network. -/
structure Layer where
  neurons : UInt64
  /-- Whether the layer feeds a bias neuron into the next one. -/
  bias : Bool
  activation : Activation
deriving DecidableEq

/-- A fully connected feed-forward network. -/
structure BasicNetwork where
  layers : List Layer
  weights : List Binary64
deriving DecidableEq

/-- A radial basis function network: one hidden layer of centers, linear output weights. -/
structure RbfNetwork where
  inputCount : UInt64
  centers : List (List Binary64)
  widths : List Binary64
  outputWeights : List Binary64
deriving DecidableEq

/-- A kernel machine described by its support vectors. -/
structure SupportVectorMachine where
  inputCount : UInt64
  supportVectors : List (List Binary64)
  coefficients : List Binary64
  bias : Binary64
deriving DecidableEq

/-- A trained model. -/
inductive Model where
  | basicNetwork (network : BasicNetwork)
  | rbfNetwork (network : RbfNetwork)
  | supportVectorMachine (machine : SupportVectorMachine)
deriving DecidableEq

namespace Layer

/-- The values that one neuron of the next layer receives. -/
def fanIn (layer : Layer) : Nat := layer.neurons.toNat + if layer.bias then 1 else 0

end Layer

namespace BasicNetwork

/-- `2 ^ 64`: the least count that 64 bits do not hold. -/
def countLimit : Nat := 0x10000000000000000

/-- A count, if 64 bits hold it. -/
def counted (n : Nat) : Option Nat := if n < countLimit then some n else none

/-- The weights between consecutive layers added to a count. Every sum and product on the way has
to fit in 64 bits. -/
def addWeights (total : Nat) : List Layer → Option Nat
  | source :: target :: rest => do
      let fanIn ← counted source.fanIn
      let weights ← counted (fanIn * target.neurons.toNat)
      let sum ← counted (total + weights)
      addWeights sum (target :: rest)
  | _ => some total

/-- How many weights the layers ask for; nothing if 64 bits cannot count them. -/
def expectedWeightCount? (network : BasicNetwork) : Option Nat := addWeights 0 network.layers

/-- The weights between consecutive layers, counted without a limit. -/
def weightSum : List Layer → Nat
  | source :: target :: rest => source.fanIn * target.neurons.toNat + weightSum (target :: rest)
  | _ => 0

/-- The neurons of the first layer. -/
def inputCount (network : BasicNetwork) : UInt64 := (network.layers.head?.map Layer.neurons).getD 0

/-- The neurons of the last layer. -/
def outputCount (network : BasicNetwork) : UInt64 :=
  (network.layers.getLast?.map Layer.neurons).getD 0

end BasicNetwork

namespace Model

/-- The kinds of model. -/
inductive Kind where
  | basicNetwork
  | rbfNetwork
  | supportVectorMachine
deriving DecidableEq

/-- The name of a kind in messages. -/
def Kind.name : Kind → String
  | .basicNetwork => "basic network"
  | .rbfNetwork => "RBF network"
  | .supportVectorMachine => "support vector machine"

def kind : Model → Kind
  | .basicNetwork _ => .basicNetwork
  | .rbfNetwork _ => .rbfNetwork
  | .supportVectorMachine _ => .supportVectorMachine

/-- How many parameters an encodable model has, told from the sizes of its parts. A support vector
machine cannot be encoded. -/
def parameterCount? : Model → Option Nat
  | .basicNetwork network => some network.weights.length
  | .rbfNetwork network =>
      some (network.centers.foldr (fun center count => center.length + count) 0 +
        network.widths.length + network.outputWeights.length)
  | .supportVectorMachine _ => none

/-- A buffer overwritten from its front. Values that find no slot are lost, and slots that get no
value stay as they are. -/
def overwrite (buffer values : List Binary64) : List Binary64 :=
  List.zipWith (fun _ value => value) buffer values ++ buffer.drop values.length

/-- A buffer with the parameters of an encodable model in it: the weights of a feed-forward
network, for which the buffer has to have exactly their number of slots, or the centers row by
row, the widths and the output weights. -/
def encode? (buffer : List Binary64) : Model → Option (List Binary64)
  | .basicNetwork network =>
      if buffer.length = network.weights.length then some network.weights else none
  | .rbfNetwork network =>
      some (overwrite buffer (network.centers.flatten ++ network.widths ++ network.outputWeights))
  | .supportVectorMachine _ => none

/-- The parameters in one list, by way of a buffer with a slot for each of them. -/
def parameters? (model : Model) : Option (List Binary64) :=
  model.parameterCount?.bind fun count => model.encode? (List.replicate count .zero)

/-- Whether programs can be generated for a model. -/
def isSupported (model? : Option Model) : Bool :=
  match model? with
  | some model => model.kind == .basicNetwork
  | none => false

end Model

end ModelExport
