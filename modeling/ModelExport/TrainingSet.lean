/-
# ModelExport.TrainingSet — training rows

A training set pairs rows of input with rows of ideal output. A training file
holds an object with the members `input` and `ideal`, or a list of the two, and
both must have the same number of rows. Fields are read as they are met, so
faults come in the order of the text.
-/
import ModelExport.FileMap
import ModelExport.Json.Decode

set_option autoImplicit false

namespace ModelExport

/-- Rows of input and rows of ideal output. -/
structure TrainingSet where
  input : List (List Binary64)
  ideal : List (List Binary64)
deriving DecidableEq

/-- Why a training set could not be loaded. -/
inductive TrainingError where
  | io (error : IoError)
  | malformed (path : Path) (error : Json.Error)
  | rowMismatch (path : Path) (inputs ideals : Nat)

namespace TrainingError

def message : TrainingError → String
  | .io error => error.message
  | .malformed path error => "malformed training file " ++ path.text ++ ": " ++ error.message
  | .rowMismatch path inputs ideals =>
      "training file " ++ path.text ++ " has " ++ toString inputs ++ " input rows but " ++
        toString ideals ++ " ideal rows"

end TrainingError

namespace TrainingSet

open Json (Fault Reader)

/-- The number of input rows. -/
def rowCount (set : TrainingSet) : Nat := set.input.length

def isEmpty (set : TrainingSet) : Bool := set.input.isEmpty

def readDouble : Reader Binary64 := Json.typed "f64" Json.Decode.double

def readRows : Reader (List (List Binary64)) := Json.listOf (Json.listOf readDouble)

/-- The fields that were given so far. -/
structure Fields where
  input : Option (List (List Binary64))
  ideal : Option (List (List Binary64))

/-- Read a member after its key. -/
def readMember (given : Fields) (name : String) : Reader Fields := fun text =>
  let repeated : Fault := .before (.duplicateField name) (Json.afterClosing .object text)
  match name with
  | "input" =>
      if given.input.isSome then .error repeated
      else (Json.member readRows text).map fun taken => taken.map fun rows =>
        { given with input := some rows }
  | "ideal" =>
      if given.ideal.isSome then .error repeated
      else (Json.member readRows text).map fun taken => taken.map fun rows =>
        { given with ideal := some rows }
  | _ => Json.skipMember given text

/-- Read a training set. -/
def reader : Reader TrainingSet := fun text =>
  match Json.next? text with
  | some ⟨'[', rest, shorter⟩ => do
      let expected := "struct TrainingSet with 2 elements"
      match ← Json.nextItem readRows true rest with
      | none => .error (.before (.invalidLength 0 expected) (Json.afterClosing .list rest))
      | some input =>
          match ← Json.nextItem readRows false input.rest with
          | none => .error (.before (.invalidLength 1 expected) (Json.afterClosing .list input.rest))
          | some ideal =>
              let done ← Json.close .list ideal.rest
              let set : TrainingSet := ⟨input.value, ideal.value⟩
              .ok ((input.andTake (ideal.andTake (done.map fun _ => set))).inside shorter)
  | some ⟨'\x7b', rest, shorter⟩ => do
      let all ← Json.members readMember ⟨none, none⟩ true rest
      let field := fun (name : String) (given : Option (List (List Binary64))) =>
        (Json.Decode.required name given).mapError fun cause => Fault.before cause all.rest
      let input ← field "input" all.value.input
      let ideal ← field "ideal" all.value.ideal
      .ok ((all.map fun _ => (⟨input, ideal⟩ : TrainingSet)).inside shorter)
  | _ => Json.refuse "struct TrainingSet" text

/-- The rows that a text in JSON holds. -/
def decode (text : String) : Except Json.Error TrainingSet :=
  (Json.document reader text.toList).mapError (Fault.locate text.toList)

/-- The training set that a text holds, given how texts are decoded: as many rows of input as of
ideal output. The path is named in messages only. -/
def ofText (decode : String → Except Json.Error TrainingSet) (path : Path) (text : String) :
    Except TrainingError TrainingSet := do
  let set ← (decode text).mapError (.malformed path)
  if set.input.length = set.ideal.length then .ok set
  else .error (.rowMismatch path set.input.length set.ideal.length)

/-- The training set that a text in JSON holds. -/
def ofJson (path : Path) (text : String) : Except TrainingError TrainingSet :=
  ofText decode path text

/-- The training set that a file holds, given how files are read. -/
def load (read : Path → Except IoError String) (path : Path) : Except TrainingError TrainingSet := do
  let text ← (read path).mapError .io
  ofJson path text

end TrainingSet

end ModelExport
