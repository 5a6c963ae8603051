/-
# ModelExport.Failure — why a generation fails

Every cause has a text, a code, and perhaps a hint at what to do.
-/
import ModelExport.Analyst
import ModelExport.Model.Json
import ModelExport.Target
import ModelExport.TrainingSet

set_option autoImplicit false

namespace ModelExport

/-- Why a document could not be generated or written. -/
inductive Failure where
  /-- The target generates nothing. -/
  | configuration
  /-- The parameters of a model that has none in a fixed order were to be embedded. -/
  | unsupportedModel (kind : Model.Kind)
  /-- An operation was used on a target of the other family. -/
  | wrongFamily (operation : String) (expected actual : Family)
  /-- A call points at a node that is not a function. -/
  | invalidCallTarget (binding : String)
  | model (error : ModelError)
  | trainingSet (error : TrainingError)
  | analyst (error : AnalystError)
  | write (path : Path) (error : IoError)

namespace Failure

def message : Failure → String
  | .configuration => "no target language has been specified for code generation"
  | .unsupportedModel kind =>
      "cannot embed the parameters of a " ++ kind.name ++ ": the model is not encodable"
  | .wrongFamily operation expected actual =>
      "`" ++ operation ++ "` needs a " ++ expected.name ++ " renderer but this session uses a " ++
        actual.name ++ " renderer"
  | .invalidCallTarget binding => "call binding `" ++ binding ++ "` does not target a function"
  | .model error => error.message
  | .trainingSet error => error.message
  | .analyst error => error.message
  | .write path error => "failed to write " ++ path.text ++ ": " ++ error.message

/-- The code of a failure, shown first when it is reported. -/
def code : Failure → String
  | .configuration => "mlgen::configuration"
  | .unsupportedModel _ => "mlgen::unsupported_model"
  | .wrongFamily _ _ _ => "mlgen::invalid_renderer_use"
  | .invalidCallTarget _ => "mlgen::invalid_call_target"
  | .model _ => "mlgen::model"
  | .trainingSet _ => "mlgen::dataset"
  | .analyst _ => "mlgen::analyst"
  | .write _ _ => "mlgen::io"

/-- What to do about a failure. -/
def help? : Failure → Option String
  | .configuration => some "pass a target such as `--target java`; `mlgen targets` lists them"
  | .unsupportedModel _ =>
      some "generate without `--embed` to load the model file at runtime"
  | _ => none

end Failure

end ModelExport
