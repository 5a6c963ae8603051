/-
# ModelExport.Session — generating step by step

A session generates for one target. A generation of a program adds the nodes of
one block to the session's program, a header and a class, and renders the whole
again; a template is filled anew each time. Every input file is read, and the
model found encodable, before the program changes.
-/
import ModelExport.Embed
import ModelExport.Renderer
import ModelExport.Text.Quoted

set_option autoImplicit false

namespace ModelExport

/-- How far a session has come. -/
inductive Progress where
  | empty
  /-- A program was made, but no document of it. -/
  | built
  | rendered
deriving DecidableEq

def Progress.tag : Progress → String
  | .empty => "Empty"
  | .built => "Built"
  | .rendered => "Rendered"

/-- How models and training sets are loaded. -/
structure Loaders where
  model : Path → Except ModelError Model
  trainingSet : Path → Except TrainingError TrainingSet

namespace Loaders

/-- Loaders of the file formats, given how files are read. -/
def ofRead (read : Path → Except IoError String) : Loaders := ⟨Model.load read, TrainingSet.load read⟩

end Loaders

/-- What was read for a generation: nothing unless it embeds. -/
structure Inputs where
  model : Option Model
  rows : Option TrainingSet

/-- A session. -/
structure Session where
  target : Target
  embed : Bool
  className : String
  renderer : Renderer
  program : Forest
  progress : Progress
  stamp : Stamp

namespace Session

/-- A session that has generated nothing. -/
def start (target : Target) (stamp : Stamp) (settings : Settings) : Except Failure Session :=
  (Renderer.ofTarget target settings).map fun renderer =>
    ⟨target, false, settings.className, renderer, .empty, .empty, stamp⟩

def withClassName (session : Session) (name : String) : Session := { session with className := name }

def setEmbed (session : Session) (embed : Bool) : Session := { session with embed := embed }

/-- The document of the last successful generation. -/
def document (session : Session) : String := session.renderer.contents

/-! ## One block -/

/-- The name of the function that makes the model. -/
def networkName : String := "createNetwork"

/-- The comment that ends the entry point. -/
def trailer : String :=
  "Network and/or data is now loaded, you can add code to train, evaluate, etc."

/-- The comments at the head of a block. -/
def headerTexts (stamp : Stamp) : List String :=
  ["Code generated by " ++ stamp.tool ++ " v" ++ stamp.version, "Generation Date: " ++ stamp.time,
    "Generated code may be used freely", stamp.homepage]

/-- A program with the header comments of a block. -/
def addHeader (forest : Forest) (stamp : Stamp) : Forest :=
  (headerTexts stamp).foldl (fun forest text => forest.addTopComment text) forest

/-- A program with the members of a class that concern training, if there is a training file: the
rows, and the function that loads them, twice where the entry point calls it. -/
def addTraining (forest : Forest) (parent : Handle) (data? : Option Path)
    (rows : Option TrainingSet) (separates : Bool) : Forest :=
  match data? with
  | none => forest
  | some file =>
      let embedded := forest.addEmbeddedTraining parent file rows
      let doubled := if separates then embedded.addTrainingLoader parent file else embedded
      doubled.addTrainingLoader parent file

/-- Add the members of a class that concern the model: its parameters, if it was read, and the
function that makes it, whose handle comes along. A model that cannot be encoded adds nothing. -/
def addNetwork (forest : Forest) (parent : Handle) (file : Path) (model : Option Model) :
    Except Failure Handle × Forest :=
  match model with
  | none =>
      let made := forest.addNetworkFunction parent networkName file none
      (.ok made.handle, made)
  | some model =>
      match forest.addWeights parent model with
      | (.error failure, kept) => (.error failure, kept)
      | (.ok weights, embedded) =>
          let made := embedded.addNetworkFunction parent networkName file (some weights)
          (.ok made.handle, made)

/-- Add the members of a class that concern the model, if there is a model file. -/
def addModel (forest : Forest) (parent : Handle) (model? : Option Path) (model : Option Model) :
    Except Failure (Option Handle) × Forest :=
  match model? with
  | none => (.ok none, forest)
  | some file =>
      let (made, grown) := addNetwork forest parent file model
      (made.map some, grown)

/-- A program with the entry point of a class, which is handed the function that makes the model
and told whether to load training rows. -/
def addEntryPoint (forest : Forest) (parent : Handle) (network : Option Handle)
    (callsLoader : Bool) : Forest :=
  let entered := forest.addMain parent
  let main := entered.handle
  let modelled : Forest :=
    match network with
    | none => entered
    | some handle => entered.addCall main (.node handle) Construct.methodType "method"
  let trained : Forest :=
    if callsLoader then
      modelled.addCall main (.named Construct.loaderName) Construct.dataSetType "training"
    else modelled
  trained.addComment main trailer

/-! ## Generating -/

/-- Refuse a model whose parameters have no fixed order. -/
def requireEncodable (model : Model) : Outcome :=
  match model.parameters? with
  | some _ => .ok ()
  | none => .error (.unsupportedModel model.kind)

/-- Read the files of a generation if it embeds: first the model, which has to be encodable, then
the training rows. -/
def readInputs (embed : Bool) (loaders : Loaders) (model? data? : Option Path) :
    Except Failure Inputs :=
  if embed then do
    let model ← model?.mapM fun path => (loaders.model path).mapError Failure.model
    model.forM requireEncodable
    let rows ← data?.mapM fun path => (loaders.trainingSet path).mapError Failure.trainingSet
    .ok ⟨model, rows⟩
  else .ok ⟨none, none⟩

/-- Add a block to the program, part by part. What was added before a fault stays. -/
def build (session : Session) (inputs : Inputs) (model? data? : Option Path) : Outcome × Session :=
  let separates := session.renderer.style.separatesTraining
  let headed := addHeader session.program session.stamp
  let opened := headed.addClass session.className
  let parent := opened.handle
  let trained := addTraining opened parent data? inputs.rows separates
  match addModel trained parent model? inputs.model with
  | (.error failure, spoilt) => (.error failure, { session with program := spoilt })
  | (.ok network, modelled) =>
      let entered := addEntryPoint modelled parent network (data?.isSome && separates)
      (.ok (), { session with program := entered })

/-- Note that there is a program, unless there is a document already. -/
def noteBuilt (session : Session) : Session :=
  { session with progress := if session.progress = .empty then .built else session.progress }

/-- Take a document, or keep the old one if there is none. -/
def adopt (session : Session) (made : Except Failure String) : Outcome × Session :=
  match session.renderer.adopt made with
  | (.ok (), renderer) => (.ok (), { session with renderer := renderer, progress := .rendered })
  | (.error failure, renderer) => (.error failure, { session with renderer := renderer })

/-- Generate a program for a model file and a training file, of which either may be absent. -/
def generate (session : Session) (loaders : Loaders) (model? data? : Option Path) :
    Outcome × Session :=
  match session.renderer.expect .program "generate" with
  | .error failure => (.error failure, session)
  | .ok () =>
      match readInputs session.embed loaders model? data? with
      | .error failure => (.error failure, session)
      | .ok inputs =>
          match session.build inputs model? data? with
          | (.error failure, spoilt) => (.error failure, spoilt)
          | (.ok (), grown) =>
              let built := grown.noteBuilt
              built.adopt (built.renderer.spell "generate" built.program built.embed)

/-- The model file and the training file that a script names. -/
def configuredFiles (script : Analyst) : Except Failure (Option Path × Option Path) := do
  let model? ← (script.resolveConfigured Analyst.modelFileKey).mapError Failure.analyst
  let data? ← (script.resolveConfigured Analyst.trainingFileKey).mapError Failure.analyst
  .ok (model?, data?)

/-- Generate from a script: a program for the files it names, or a template filled with it. -/
def generateFromAnalyst (session : Session) (loaders : Loaders) (script : Analyst) :
    Outcome × Session :=
  match session.renderer.family with
  | .program =>
      match configuredFiles script with
      | .error failure => (.error failure, session)
      | .ok (model?, data?) => session.generate loaders model? data?
  | .template => session.adopt (session.renderer.fill "generate_from_analyst" script session.stamp)

/-- A session in one line. -/
def summary (session : Session) : String :=
  "CodeGeneration \x7b target: " ++ session.target.tag ++ ", embed_data: " ++
    toString session.embed ++ ", class_name: " ++
    .ofList (Text.quoted session.className.toList) ++ ", state: " ++ session.progress.tag ++
    ", nodes: " ++ toString session.program.size ++ " \x7d"

end Session

end ModelExport
