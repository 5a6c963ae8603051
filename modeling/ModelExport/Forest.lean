/-
# ModelExport.Forest — programs before they are spelled

A program is a forest of nodes. A node has a kind, a parent unless it is a root,
and children in the order of their making. A handle is the number of nodes that
were made before, so a parent has a smaller handle than its children. A call may
point at another node; that node keeps its own parent.
-/
import ModelExport.Path
import ModelExport.TrainingSet

set_option autoImplicit false

namespace ModelExport

/-- The number of a node in the order of making. -/
abbrev Handle := Nat

/-- What a call invokes. -/
inductive Callee where
  /-- A function of the same program. -/
  | node (handle : Handle)
  /-- A function by its name. -/
  | named (name : String)
deriving DecidableEq

/-- What a node stands for. -/
inductive Construct where
  | comment (text : String)
  | classBody (name : String)
  /-- A function whose body is its children. -/
  | function (name : String)
  /-- The entry point. -/
  | mainFunction
  /-- A function that makes a trained model from a file, seeded from an array if one is given. -/
  | networkFunction (name : String) (file : Path) (weights : Option Handle)
  | arrayLiteral (name : String) (values : List Binary64)
  /-- A typed variable bound to the result of a call. -/
  | call (callee : Callee) (type binding : String)
  /-- Training rows written into the program, if there are any. -/
  | embeddedTraining (file : Path) (rows : Option TrainingSet)
  /-- A function that loads the training rows. -/
  | trainingLoader (file : Path)
deriving DecidableEq

namespace Construct

/-- The name of the function that loads the training rows. -/
def loaderName : String := "createTraining"

/-- The name of the entry point. -/
def mainName : String := "main"

/-- The type of a trained model. -/
def methodType : String := "MLMethod"

/-- The type of a training set. -/
def dataSetType : String := "MLDataSet"

/-- Whether the node is spelled as a function. -/
def isFunction : Construct → Bool
  | .function _ => true
  | .mainFunction => true
  | .networkFunction _ _ _ => true
  | .trainingLoader _ => true
  | _ => false

/-- The name of a function. -/
def functionName? : Construct → Option String
  | .function name => some name
  | .networkFunction name _ _ => some name
  | .mainFunction => some mainName
  | .trainingLoader _ => some loaderName
  | _ => none

/-- The name of an array. -/
def arrayName? : Construct → Option String
  | .arrayLiteral name _ => some name
  | _ => none

def isClass : Construct → Bool
  | .classBody _ => true
  | _ => false

end Construct

/-- A node of a program. -/
structure Node where
  construct : Construct
  parent : Option Handle
  children : List Handle
deriving DecidableEq

namespace Node

def addChild (handle : Handle) (node : Node) : Node :=
  { node with children := node.children ++ [handle] }

end Node

/-- A program. -/
structure Forest where
  nodes : Array Node
  /-- The nodes without a parent. -/
  roots : List Handle
deriving DecidableEq

/-- A program with the handle of the node that was made last. -/
structure Grown extends Forest where
  handle : Handle
deriving DecidableEq

/-- A program that has grown is a program. -/
instance : Coe Grown Forest := ⟨Grown.toForest⟩

namespace Forest

def empty : Forest := ⟨#[], []⟩

/-- How many nodes there are. -/
def size (forest : Forest) : Nat := forest.nodes.size

/-! ## Making nodes -/

/-- The program with one more node, a root or the last child of its parent. Its handle is the number
of the nodes before it. -/
def push (forest : Forest) (parent : Option Handle) (construct : Construct) : Grown where
  toForest :=
    match parent with
    | none => ⟨forest.nodes.push ⟨construct, none, []⟩, forest.roots ++ [forest.size]⟩
    | some owner =>
        ⟨(forest.nodes.modify owner (Node.addChild forest.size)).push ⟨construct, some owner, []⟩,
          forest.roots⟩
  handle := forest.size

def addTopComment (forest : Forest) (text : String) : Grown := forest.push none (.comment text)

def addClass (forest : Forest) (name : String) : Grown := forest.push none (.classBody name)

def addComment (forest : Forest) (parent : Handle) (text : String) : Grown :=
  forest.push (some parent) (.comment text)

def addMain (forest : Forest) (parent : Handle) : Grown := forest.push (some parent) .mainFunction

def addFunction (forest : Forest) (parent : Handle) (name : String) : Grown :=
  forest.push (some parent) (.function name)

def addNetworkFunction (forest : Forest) (parent : Handle) (name : String) (file : Path)
    (weights : Option Handle) : Grown :=
  forest.push (some parent) (.networkFunction name file weights)

def addArray (forest : Forest) (parent : Handle) (name : String) (values : List Binary64) : Grown :=
  forest.push (some parent) (.arrayLiteral name values)

def addCall (forest : Forest) (parent : Handle) (callee : Callee) (type binding : String) : Grown :=
  forest.push (some parent) (.call callee type binding)

def addEmbeddedTraining (forest : Forest) (parent : Handle) (file : Path)
    (rows : Option TrainingSet) : Grown :=
  forest.push (some parent) (.embeddedTraining file rows)

def addTrainingLoader (forest : Forest) (parent : Handle) (file : Path) : Grown :=
  forest.push (some parent) (.trainingLoader file)

/-! ## Asking -/

def construct? (forest : Forest) (handle : Handle) : Option Construct :=
  forest.nodes[handle]?.map Node.construct

def children (forest : Forest) (handle : Handle) : List Handle :=
  match forest.nodes[handle]? with
  | some node => node.children
  | none => []

/-- The roots that are classes. -/
def classes (forest : Forest) : List Handle :=
  forest.roots.filter fun root => (forest.construct? root).any Construct.isClass

/-- The texts of the roots that are comments. -/
def topComments (forest : Forest) : List String :=
  forest.roots.filterMap fun root =>
    match forest.construct? root with
    | some (.comment text) => some text
    | _ => none

/-- The name of a function node; nothing for any other handle. -/
def functionName? (forest : Forest) (handle : Handle) : Option String :=
  (forest.construct? handle).bind Construct.functionName?

/-- The name of an array node; nothing for any other handle. -/
def arrayName? (forest : Forest) (handle : Handle) : Option String :=
  (forest.construct? handle).bind Construct.arrayName?

/-- The name of the function that a call invokes. -/
def calleeName? (forest : Forest) : Callee → Option String
  | .node handle => forest.functionName? handle
  | .named name => some name

/-- The handle of a new node is the number of the nodes before it. -/
theorem handle_push (forest : Forest) (parent : Option Handle) (construct : Construct) :
    (forest.push parent construct).handle = forest.size := rfl

theorem size_push (forest : Forest) (parent : Option Handle) (construct : Construct) :
    (forest.push parent construct).size = forest.size + 1 := by
  cases parent <;> simp [push, size]

end Forest

end ModelExport
