/-
# ModelExport.Embed — model parameters as a literal array
-/
import ModelExport.Failure
import ModelExport.Forest

set_option autoImplicit false

namespace ModelExport.Forest

/-- The name of the array that holds the parameters of a model. -/
def weightsName : String := "WEIGHTS"

/-- The program with an array of all parameters of a model as the last child of a class. A model
that cannot be encoded is refused. -/
def embedWeights (forest : Forest) (parent : Handle) (model : Model) : Except Failure Grown :=
  match model.parameters? with
  | none => .error (.unsupportedModel model.kind)
  | some parameters => .ok (forest.addArray parent weightsName parameters)

/-- Embed the parameters of a model. The handle of the array comes along, and after a refusal the
program is as it was. -/
def addWeights (forest : Forest) (parent : Handle) (model : Model) :
    Except Failure Handle × Forest :=
  match forest.embedWeights parent model with
  | .ok grown => (.ok grown.handle, grown)
  | .error failure => (.error failure, forest)

theorem addWeights_of_some (forest : Forest) (parent : Handle) {model : Model}
    {parameters : List Binary64} (listed : model.parameters? = some parameters) :
    forest.addWeights parent model =
      (.ok forest.size,
        (forest.push (some parent) (.arrayLiteral weightsName parameters)).toForest) := by
  rw [addWeights, embedWeights, listed]
  rfl

theorem addWeights_of_none (forest : Forest) (parent : Handle) {model : Model}
    (unlisted : model.parameters? = none) :
    forest.addWeights parent model = (.error (.unsupportedModel model.kind), forest) := by
  rw [addWeights, embedWeights, unlisted]

end ModelExport.Forest
