/-
# ModelExport.Template.Canned — templates for trading terminals

A canned template is filled from an analyst script and a stamp. The tool, its
version, the time and the two files have keys of their own, which a script cannot
change; every other key stands for the property of that name. Both files are
looked up whether or not the template mentions them. Values are put in as they
are, without regard to what stands around them.
-/
import ModelExport.Analyst
import ModelExport.Failure
import ModelExport.Stamp
import ModelExport.Template

set_option autoImplicit false

namespace ModelExport

/-- A named template. -/
structure CannedTemplate where
  name : String
  text : String
deriving DecidableEq

namespace CannedTemplate

/-- Lines, each with a line feed after it. -/
def joinLines (lines : List String) : String := String.join (lines.map (· ++ "\n"))

/-- An indicator for MetaTrader 4. -/
def mql4 : CannedTemplate where
  name := "mql4"
  text := joinLines [
    "//+------------------------------------------------------------------+",
    "//| Code generated by \x7b\x7bGENERATOR\x7d\x7d v\x7b\x7bVERSION\x7d\x7d",
    "//| Generation Date: \x7b\x7bGENERATED_AT\x7d\x7d",
    "//| Generated code may be used freely",
    "//+------------------------------------------------------------------+",
    "#property copyright \"Generated by \x7b\x7bGENERATOR\x7d\x7d\"",
    "#property indicator_chart_window",
    "#property indicator_buffers 1",
    "",
    "#import \"mlgen_bridge.dll\"",
    "int    MLLoadMethod(string file);",
    "int    MLLoadTraining(string file);",
    "double MLCompute(int handle, double &input[], int count);",
    "void   MLRelease(int handle);",
    "#import",
    "",
    "// Model type: \x7b\x7bML:CONFIG_type\x7d\x7d",
    "// Architecture: \x7b\x7bML:CONFIG_architecture\x7d\x7d",
    "string MODEL_FILE = \"\x7b\x7bMODEL_FILE\x7d\x7d\";",
    "string TRAINING_FILE = \"\x7b\x7bTRAINING_FILE\x7d\x7d\";",
    "",
    "double Prediction[];",
    "int    network = -1;",
    "",
    "int init()",
    "\x7b",
    "   SetIndexBuffer(0, Prediction);",
    "   network = MLLoadMethod(MODEL_FILE);",
    "   return(0);",
    "\x7d",
    "",
    "int deinit()",
    "\x7b",
    "   if (network >= 0)",
    "      MLRelease(network);",
    "   return(0);",
    "\x7d",
    "",
    "int start()",
    "\x7b",
    "   double input[1];",
    "   int counted = IndicatorCounted();",
    "   for (int i = Bars - counted - 1; i >= 0; i--)",
    "   \x7b",
    "      input[0] = Close[i];",
    "      Prediction[i] = MLCompute(network, input, 1);",
    "   \x7d",
    "   return(0);",
    "\x7d"]

/-- An indicator for NinjaTrader. -/
def ninjascript : CannedTemplate where
  name := "ninjascript"
  text := joinLines [
    "// Code generated by \x7b\x7bGENERATOR\x7d\x7d v\x7b\x7bVERSION\x7d\x7d",
    "// Generation Date: \x7b\x7bGENERATED_AT\x7d\x7d",
    "// Generated code may be used freely",
    "using System;",
    "using NinjaTrader.Cbi;",
    "using NinjaTrader.NinjaScript;",
    "using NinjaTrader.NinjaScript.Indicators;",
    "using Mlgen.Runtime;",
    "",
    "namespace NinjaTrader.NinjaScript.Indicators",
    "\x7b",
    "    // Model type: \x7b\x7bML:CONFIG_type\x7d\x7d",
    "    // Architecture: \x7b\x7bML:CONFIG_architecture\x7d\x7d",
    "    public class MlgenIndicator : Indicator",
    "    \x7b",
    "        private const string ModelFile = @\"\x7b\x7bMODEL_FILE\x7d\x7d\";",
    "        private const string TrainingFile = @\"\x7b\x7bTRAINING_FILE\x7d\x7d\";",
    "",
    "        private MLMethod network;",
    "",
    "        protected override void OnStateChange()",
    "        \x7b",
    "            if (State == State.SetDefaults)",
    "            \x7b",
    "                Name = \"MlgenIndicator\";",
    "                Calculate = Calculate.OnBarClose;",
    "                AddPlot(System.Windows.Media.Brushes.Orange, \"Prediction\");",
    "            \x7d",
    "            else if (State == State.DataLoaded)",
    "            \x7b",
    "                network = ModelIO.LoadMethod(ModelFile);",
    "            \x7d",
    "        \x7d",
    "",
    "        protected override void OnBarUpdate()",
    "        \x7b",
    "            double[] input = \x7b Close[0] \x7d;",
    "            Value[0] = ModelIO.Compute(network, input)[0];",
    "        \x7d",
    "    \x7d",
    "\x7d"]

/-- What the keys of a template stand for. -/
structure Values where
  stamp : Stamp
  modelFile : Option Path
  trainingFile : Option Path
  /-- The properties behind all other keys. -/
  script : Analyst

/-- The text of a path, empty if there is none. -/
def pathText (path? : Option Path) : String := (path?.map Path.text).getD ""

/-- The value of a key. -/
def Values.value? (values : Values) (key : String) : Option String :=
  match key with
  | "GENERATOR" => some values.stamp.tool
  | "VERSION" => some values.stamp.version
  | "GENERATED_AT" => some values.stamp.time
  | "MODEL_FILE" => some (pathText values.modelFile)
  | "TRAINING_FILE" => some (pathText values.trainingFile)
  | other => values.script.property? other

/-- The values that a script and a stamp give, once both files are found. -/
def values (script : Analyst) (stamp : Stamp) : Except Failure Values := do
  let modelFile ← (script.resolveConfigured Analyst.modelFileKey).mapError .analyst
  let trainingFile ← (script.resolveConfigured Analyst.trainingFileKey).mapError .analyst
  .ok ⟨stamp, modelFile, trainingFile, script⟩

/-- The template with the values of its keys. -/
def fill (template : CannedTemplate) (values : Values) : String :=
  .ofList (Template.fill
    (fun key => (values.value? (.ofList key)).map String.toList) template.text.toList)

/-- The document that a script makes of a template. -/
def document (template : CannedTemplate) (script : Analyst) (stamp : Stamp) :
    Except Failure String :=
  (values script stamp).map template.fill

end CannedTemplate

end ModelExport
