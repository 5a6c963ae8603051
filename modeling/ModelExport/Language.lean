/-
# ModelExport.Language — how constructs are spelled

Three languages, and for each construct of a program the steps that write it.
Constructs that open a block leave the level one higher, and the matching ends
lower it again. Comments are spelled alike in all three: one `//` per line, and
a space after it unless the line is empty.
-/
import ModelExport.Binary64.Notation
import ModelExport.Layout
import ModelExport.Path
import ModelExport.Text.Escaped
import ModelExport.Text.Lines
import ModelExport.Text.Uppercase
import ModelExport.Text.Verbatim

set_option autoImplicit false

namespace ModelExport

open Layout (Step line)

/-- A language in which programs are spelled. -/
inductive Language where
  /-- A public class of static members. -/
  | java
  /-- Braces on lines of their own, names of functions in upper case, verbatim paths. -/
  | csharp
  /-- A module that exposes its entry point and is run at once. -/
  | javascript
deriving DecidableEq

namespace Language

/-- Every language. -/
def all : List Language := [.java, .csharp, .javascript]

/-- Whether the entry point may call a function that loads the training rows. A browser cannot
read training files. -/
def separatesTraining : Language → Bool
  | .java => true
  | .csharp => true
  | .javascript => false

/-! ## Comments -/

/-- One line of a comment. -/
def commentLine (content : List Char) : String :=
  if content = [] then "//" else "// " ++ .ofList content

/-- A comment, each line of the text on a line of its own. -/
def comment (text : String) : List Step :=
  if text = "" then line "//"
  else (Text.lines text.toList).flatMap fun content => line (commentLine content)

/-! ## Values -/

/-- The spelling of a number that is not finite. -/
def nonFinite (language : Language) (x : Binary64) : String :=
  match language with
  | .java =>
      if x.isNaN then "Double.NaN"
      else if x.isNegative || x.isZero then "Double.NEGATIVE_INFINITY"
      else "Double.POSITIVE_INFINITY"
  | .csharp =>
      if x.isNaN then "double.NaN"
      else if x.isNegative || x.isZero then "double.NegativeInfinity"
      else "double.PositiveInfinity"
  | .javascript =>
      if x.isNaN then "NaN"
      else if x.isNegative || x.isZero then "-Infinity"
      else "Infinity"

/-- The spelling of a number. -/
def double (language : Language) (x : Binary64) : String :=
  if x.isFinite then .ofList (DecimalNotation.source.render x) else language.nonFinite x

/-- Numbers with commas between them. -/
def doubles (language : Language) (values : List Binary64) : String :=
  ", ".intercalate (values.map language.double)

/-- A path as a literal. -/
def pathLiteral (language : Language) (file : Path) : String :=
  match language with
  | .java => .ofList (Text.Escaped.literal file.text.toList)
  | .csharp => .ofList (Text.Verbatim.literal file.text.toList)
  | .javascript => .ofList (Text.Escaped.literal file.text.toList)

/-- A list cut into pieces of a given length, the last one perhaps shorter. Zero counts as one. -/
def pieces {α : Type} (length : Nat) (values : List α) : List (List α) :=
  match values with
  | [] => []
  | value :: rest =>
      ((value :: rest).take (max length 1)) :: pieces length ((value :: rest).drop (max length 1))
termination_by values.length
decreasing_by simp only [List.length_drop, List.length_cons]; omega

/-- Lines with a comma after each but the last. -/
def commaLines : List String → List Step
  | [] => []
  | [last] => line last
  | text :: others => line (text ++ ",") ++ commaLines others

/-- One row of a matrix. -/
def row (language : Language) (values : List Binary64) : String :=
  match language with
  | .java => "\x7b" ++ language.doubles values ++ "\x7d"
  | .csharp => "new double[] \x7b " ++ language.doubles values ++ " \x7d"
  | .javascript => "[" ++ language.doubles values ++ "]"

/-- The front of the declaration of a constant with so many dimensions. -/
def declaration (language : Language) (dimensions : Nat) (name : String) : String :=
  let brackets := String.join (List.replicate dimensions "[]")
  match language with
  | .java => "public static final double" ++ brackets ++ " " ++ name
  | .csharp => "public static readonly double" ++ brackets ++ " " ++ name
  | .javascript => "var " ++ name

/-- The whole initializer of a constant without values. -/
def emptyInitializer : Language → String
  | .java => "\x7b\x7d;"
  | .csharp => "\x7b \x7d;"
  | .javascript => "[];"

/-- The first line of an initializer. -/
def initializerStart : Language → String
  | .java => "\x7b"
  | .csharp => "\x7b"
  | .javascript => "["

/-- The last line of an initializer. -/
def initializerEnd : Language → String
  | .java => "\x7d;"
  | .csharp => "\x7d;"
  | .javascript => "];"

/-- A constant whose values stand on the given lines. -/
def constant (language : Language) (dimensions : Nat) (name : String) (lines : List String) :
    List Step :=
  let front := language.declaration dimensions name ++ " = "
  if lines = [] then line (front ++ language.emptyInitializer)
  else
    line (front ++ language.initializerStart) ++ [.indent] ++ commaLines lines ++ [.dedent] ++
      line language.initializerEnd

/-- A constant array of numbers, so many on a line. -/
def array (language : Language) (name : String) (values : List Binary64) (perLine : Nat) :
    List Step :=
  language.constant 1 name ((pieces perLine values).map language.doubles)

/-- A constant array of rows, one on a line. -/
def matrix (language : Language) (name : String) (rows : List (List Binary64)) : List Step :=
  language.constant 2 name (rows.map language.row)

/-! ## Blocks -/

/-- The imports that follow the header comments. -/
def prologue : Language → List Step
  | .java => line "import java.io.File;" ++ line "import mlgen.runtime.*;" ++ [.newline]
  | .csharp => line "using System;" ++ line "using Mlgen.Runtime;" ++ [.newline]
  | .javascript => []

/-- A block whose brace ends the line of its header. -/
def openBlock (header : String) : List Step := line (header ++ " \x7b") ++ [.indent]

/-- A block whose brace stands on a line of its own. -/
def openBlockBelow (header : String) : List Step := line header ++ line "\x7b" ++ [.indent]

/-- The end of a block. -/
def closeBlock : List Step := [.dedent] ++ line "\x7d"

def openClass (language : Language) (name : String) : List Step :=
  match language with
  | .java => openBlock ("public class " ++ name)
  | .csharp => openBlockBelow ("public class " ++ name)
  | .javascript =>
      openBlock ("var " ++ name ++ " = (function ()") ++ line "'use strict';" ++ [.newline]

def closeClass (language : Language) (name : String) : List Step :=
  match language with
  | .java => closeBlock
  | .csharp => closeBlock
  | .javascript =>
      [.newline] ++ line "return \x7b main: main \x7d;" ++ [.dedent] ++ line "\x7d)();" ++
        [.newline] ++ line (name ++ ".main();")

/-- How the name of a function is spelled, where it is declared and where it is called. -/
def functionName (language : Language) (name : String) : String :=
  match language with
  | .java => name
  | .csharp => .ofList (Text.capitalize name.toList)
  | .javascript => name

/-- The head of a function; one without a type gives nothing back. -/
def openFunction (language : Language) (name : String) (type? : Option String) : List Step :=
  match language with
  | .java =>
      openBlock ("public static " ++ type?.getD "void" ++ " " ++ language.functionName name ++ "()")
  | .csharp =>
      openBlockBelow
        ("public static " ++ type?.getD "void" ++ " " ++ language.functionName name ++ "()")
  | .javascript => openBlock ("function " ++ language.functionName name ++ "()")

def closeFunction : List Step := closeBlock

/-- The head of the entry point. -/
def openMain : Language → List Step
  | .java => openBlock "public static void main(String[] args)"
  | .csharp => openBlockBelow "public static void Main(string[] args)"
  | .javascript => openBlock "function main()"

/-! ## Statements -/

/-- A variable bound to the value of an expression. -/
def bind (language : Language) (type binding expression : String) : List Step :=
  match language with
  | .java => line (type ++ " " ++ binding ++ " = " ++ expression ++ ";")
  | .csharp => line (type ++ " " ++ binding ++ " = " ++ expression ++ ";")
  | .javascript => line ("var " ++ binding ++ " = " ++ expression ++ ";")

/-- A model loaded from a file. -/
def loadModel (language : Language) (binding type : String) (file : Path) : List Step :=
  let path := language.pathLiteral file
  language.bind type binding <|
    match language with
    | .java => "ModelIO.loadMethod(new File(" ++ path ++ "))"
    | .csharp => "ModelIO.LoadMethod(" ++ path ++ ")"
    | .javascript => "mlgen.loadMethod(" ++ path ++ ")"

/-- The parameters of a model overwritten from an array. -/
def decodeWeights (language : Language) (binding weights : String) : List Step :=
  let arguments := "(" ++ binding ++ ", " ++ weights ++ ");"
  match language with
  | .java => line ("ModelIO.decodeFromArray" ++ arguments)
  | .csharp => line ("ModelIO.DecodeFromArray" ++ arguments)
  | .javascript => line ("mlgen.decodeFromArray" ++ arguments)

/-- Training rows loaded from a file. -/
def loadTrainingFile (language : Language) (binding type : String) (file : Path) : List Step :=
  let path := language.pathLiteral file
  language.bind type binding <|
    match language with
    | .java => "ModelIO.loadTraining(new File(" ++ path ++ "))"
    | .csharp => "ModelIO.LoadTraining(" ++ path ++ ")"
    | .javascript => "mlgen.loadTraining(" ++ path ++ ")"

/-- Training rows made from the arrays of the program. -/
def loadTrainingArrays (language : Language) (binding type input ideal : String) : List Step :=
  let arguments := "(" ++ input ++ ", " ++ ideal ++ ")"
  language.bind type binding <|
    match language with
    | .java => "ModelIO.dataSet" ++ arguments
    | .csharp => "ModelIO.DataSet" ++ arguments
    | .javascript => "mlgen.dataSet" ++ arguments

def returnValue (binding : String) : List Step := line ("return " ++ binding ++ ";")

/-- A variable bound to the result of a function. -/
def call (language : Language) (function type binding : String) : List Step :=
  language.bind type binding (language.functionName function ++ "()")

end Language

end ModelExport
