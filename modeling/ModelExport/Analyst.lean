/-
# ModelExport.Analyst — analyst scripts

A script pairs a model with training data: properties with text values, and
names of files under identifiers. A property names a file by its identifier,
with white space around it ignored; a missing or blank property names no file. A
bare file name is taken from the base directory, any other stands as it is.
-/
import ModelExport.FileMap
import ModelExport.Json.Decode
import ModelExport.Text.Blank

set_option autoImplicit false

namespace ModelExport

/-- Texts under keys. -/
structure Table where
  entries : List (String × String)
deriving DecidableEq

namespace Table

def empty : Table := ⟨[]⟩

def get? (table : Table) (key : String) : Option String := table.entries.lookup key

/-- The table with a text under a key, in place of any other one. -/
def put (table : Table) (key text : String) : Table :=
  ⟨(key, text) :: table.entries.filter fun entry => entry.1 != key⟩

end Table

/-- An analyst script. -/
structure Analyst where
  /-- The directory that bare file names are taken from. -/
  baseDirectory : Option Path
  properties : Table
  /-- File names under their identifiers. -/
  files : Table
deriving DecidableEq

/-- Why an analyst script could not be loaded, or a file not found in it. -/
inductive AnalystError where
  | io (error : IoError)
  | malformed (path : Path) (error : Json.Error)
  | undefinedFile (identifier : String)

namespace AnalystError

def message : AnalystError → String
  | .io error => error.message
  | .malformed path error => "malformed analyst script " ++ path.text ++ ": " ++ error.message
  | .undefinedFile identifier => "undefined file identifier: " ++ identifier

end AnalystError

namespace Analyst

def empty : Analyst := ⟨none, .empty, .empty⟩

/-! ## The properties that have a meaning -/

/-- The identifier of the model file. -/
def modelFileKey : String := "ML:CONFIG_machineLearningFile"

/-- The identifier of the training file. -/
def trainingFileKey : String := "ML:CONFIG_trainingFile"

/-- The kind of machine-learning method. -/
def typeKey : String := "ML:CONFIG_type"

/-- The architecture of the machine-learning method. -/
def architectureKey : String := "ML:CONFIG_architecture"

/-- The keys in the order in which they are documented. -/
def knownKeys : List String := [modelFileKey, trainingFileKey, typeKey, architectureKey]

/-! ## Building and asking -/

def withBaseDirectory (script : Analyst) (directory : Path) : Analyst :=
  { script with baseDirectory := some directory }

def setProperty (script : Analyst) (key value : String) : Analyst :=
  { script with properties := script.properties.put key value }

def defineFile (script : Analyst) (identifier name : String) : Analyst :=
  { script with files := script.files.put identifier name }

def property? (script : Analyst) (key : String) : Option String := script.properties.get? key

/-- The path of a file by its identifier. -/
def resolve (script : Analyst) (identifier : String) : Except AnalystError Path :=
  match script.files.get? identifier with
  | none => .error (.undefinedFile identifier)
  | some name =>
      let file : Path := ⟨name⟩
      match script.baseDirectory with
      | some base => .ok (if file.isBare then base.join file else file)
      | none => .ok file

/-- The identifier that a property names a file by. -/
def configuredIdentifier? (script : Analyst) (key : String) : Option String :=
  match script.property? key with
  | none => none
  | some value =>
      match Text.trim value.toList with
      | [] => none
      | identifier => some (.ofList identifier)

/-- The path of the file that a property names, if it names one. -/
def resolveConfigured (script : Analyst) (key : String) : Except AnalystError (Option Path) :=
  match script.configuredIdentifier? key with
  | none => .ok none
  | some identifier => (script.resolve identifier).map some

/-! ## Reading a script -/

open Json (Fault Reader Value)

def readText : Reader String :=
  Json.typed "a string" fun
    | .string text => .ok text
    | other => .error (.invalidType other.found "a string")

/-- A path, or nothing. -/
def readPath : Reader (Option Path) :=
  Json.typed "path string" fun
    | .null => .ok none
    | .string text => .ok (some ⟨text⟩)
    | other => .error (.invalidType other.found "path string")

/-- Texts under keys. The last member with a key counts. -/
def readTable : Reader Table := fun text =>
  match Json.next? text with
  | some ⟨'\x7b', rest, shorter⟩ =>
      let step := fun (table : Table) (key : String) =>
        Json.member fun text => (readText text).map fun taken => taken.map (table.put key)
      (Json.members step .empty true rest).map fun taken => taken.inside shorter
  | _ => Json.refuse "a map" text

/-- The fields that were given so far. -/
structure Fields where
  baseDirectory : Option (Option Path)
  properties : Option Table
  files : Option Table

namespace Fields

def none : Fields := ⟨.none, .none, .none⟩

/-- The script with the given fields; the others are empty. -/
def script (given : Fields) : Analyst :=
  ⟨given.baseDirectory.join, given.properties.getD .empty, given.files.getD .empty⟩

end Fields

/-- Read a member after its key. -/
def readMember (given : Fields) (name : String) : Reader Fields := fun text =>
  let repeated : Fault := .before (.duplicateField name) (Json.afterClosing .object text)
  match name with
  | "base_dir" =>
      if given.baseDirectory.isSome then .error repeated
      else (Json.member readPath text).map fun taken => taken.map fun path =>
        { given with baseDirectory := some path }
  | "properties" =>
      if given.properties.isSome then .error repeated
      else (Json.member readTable text).map fun taken => taken.map fun table =>
        { given with properties := some table }
  | "files" =>
      if given.files.isSome then .error repeated
      else (Json.member readTable text).map fun taken => taken.map fun table =>
        { given with files := some table }
  | _ => Json.skipMember given text

/-- Read a script from the items of a list. Fields may be left out at the end. -/
def readItems : Reader Analyst := fun text => do
  let base ← Json.itemOr none readPath true text
  let properties ← Json.itemOr .empty readTable false base.rest
  let files ← Json.itemOr .empty readTable false properties.rest
  let done ← Json.close .list files.rest
  let script : Analyst := ⟨base.value, properties.value, files.value⟩
  .ok (base.andTake (properties.andTake (files.andTake (done.map fun _ => script))))

/-- Read a script, from an object or from a list of its fields. -/
def reader : Reader Analyst := fun text =>
  match Json.next? text with
  | some ⟨'[', rest, shorter⟩ =>
      (readItems rest).map fun taken => taken.inside shorter
  | some ⟨'\x7b', rest, shorter⟩ => do
      let given ← Json.members readMember Fields.none true rest
      .ok ((given.map Fields.script).inside shorter)
  | _ => Json.refuse "struct AnalystScript" text

/-- The script that a text in JSON holds. -/
def decode (text : String) : Except Json.Error Analyst :=
  (Json.document reader text.toList).mapError (Fault.locate text.toList)

/-- The script that a text holds, as it stands there, given how texts are decoded. The path is named
in messages only. -/
def ofText (decode : String → Except Json.Error Analyst) (path : Path) (text : String) :
    Except AnalystError Analyst :=
  (decode text).mapError (.malformed path)

/-- The script with a base directory: its own, or else the directory that holds the script. -/
def placedAt (script : Analyst) (path : Path) : Analyst :=
  match script.baseDirectory with
  | some _ => script
  | none => { script with baseDirectory := path.parent? }

/-- The script that a file holds, given how texts are decoded and how files are read. -/
def loadBy (decode : String → Except Json.Error Analyst) (read : Path → Except IoError String)
    (path : Path) : Except AnalystError Analyst := do
  let text ← (read path).mapError .io
  let script ← ofText decode path text
  .ok (script.placedAt path)

/-- The script in JSON that a file holds, given how files are read. -/
def load : (Path → Except IoError String) → Path → Except AnalystError Analyst := loadBy decode

end Analyst

end ModelExport
