/-
# ModelExport.Proofs.Template.Files — file names in indicators

Both indicators assign the model file and the training file to constants, as string
literals. The template has the quotes and the path is put between them as it is, so
it is a question of the path what the literal denotes. It is read back exactly when
all its characters stand for themselves in literals of the indicator
(`file_reads_back_iff`): a quote breaks either kind of literal, and a backslash those
of MetaTrader.
-/
import ModelExport.Proofs.Fold
import ModelExport.Proofs.Template.Pieces
import ModelExport.Proofs.Text.Literal
import ModelExport.Template.Canned

set_option autoImplicit false

namespace ModelExport

open Template

/-- The indicators that there are templates for. -/
inductive Indicator where
  | mql4
  | ninjascript
deriving DecidableEq

/-- The files that an indicator names. -/
inductive NamedFile where
  | model
  | training
deriving DecidableEq

namespace NamedFile

/-- The placeholder of the path. -/
def key : NamedFile → String
  | .model => "MODEL_FILE"
  | .training => "TRAINING_FILE"

/-- The property that names the file in a script. -/
def property : NamedFile → String
  | .model => Analyst.modelFileKey
  | .training => Analyst.trainingFileKey

end NamedFile

namespace CannedTemplate

/-- What pieces of a template are filled to. -/
def Values.filled (values : Values) (parts : List Piece) : List Char :=
  parts.flatMap (Piece.fill fun key => (values.value? (.ofList key)).map String.toList)

/-- The path of a file. -/
def Values.file? (values : Values) : NamedFile → Option Path
  | .model => values.modelFile
  | .training => values.trainingFile

theorem Values.value?_key (values : Values) (file : NamedFile) :
    values.value? file.key = some (pathText (values.file? file)) := by
  cases file <;> rfl

/-- The values of a script have its files. -/
theorem resolveConfigured_of_values {script : Analyst} {stamp : Stamp} {found : Values}
    (asked : values script stamp = .ok found) (file : NamedFile) :
    script.resolveConfigured file.property = .ok (found.file? file) := by
  unfold values at asked
  cases model : script.resolveConfigured Analyst.modelFileKey with
  | error error => rw [model] at asked; cases asked
  | ok model? =>
      cases training : script.resolveConfigured Analyst.trainingFileKey with
      | error error => rw [model, training] at asked; cases asked
      | ok training? =>
          rw [model, training] at asked
          cases asked
          cases file
          · exact model
          · exact training

theorem toList_joinLines (lines : List String) :
    (joinLines lines).toList = lines.flatMap fun line => line.toList ++ ['\n'] := by
  unfold joinLines
  induction lines with
  | nil => rfl
  | cons line rest ih =>
      rw [List.map_cons, String.join_cons, String.toList_append, ih, String.toList_append]
      rfl

end CannedTemplate

namespace Indicator

def template : Indicator → CannedTemplate
  | .mql4 => .mql4
  | .ninjascript => .ninjascript

/-- The declaration of a file's constant, up to the opening quote. -/
def opening : Indicator → NamedFile → String
  | .mql4, .model => "string MODEL_FILE = \""
  | .mql4, .training => "string TRAINING_FILE = \""
  | .ninjascript, .model => "private const string ModelFile = @\""
  | .ninjascript, .training => "private const string TrainingFile = @\""

/-- The end of the declaration, from the closing quote on. -/
def closing : String := "\";\n"

/-- The pieces of the template. -/
def parts (indicator : Indicator) : List Piece := pieces indicator.template.text.toList

/-- What a document has before the path of a file. -/
def front (indicator : Indicator) (file : NamedFile) (values : CannedTemplate.Values) : List Char :=
  values.filled (before file.key.toList indicator.parts)

/-- What a document has behind the path of a file. -/
def back (indicator : Indicator) (file : NamedFile) (values : CannedTemplate.Values) : List Char :=
  values.filled (behind file.key.toList indicator.parts)

/-- Both templates declare both files in this way. -/
theorem encloses_parts (indicator : Indicator) (file : NamedFile) :
    encloses (indicator.opening file).toList closing.toList file.key.toList indicator.parts =
      true := by
  -- the characters of the lines are listed first: taken one by one from the text they cost more
  have declares : (cut? 20 indicator.template.text.toList).any (fun parts =>
      [NamedFile.model, .training].all fun file =>
        encloses (indicator.opening file).toList closing.toList file.key.toList parts) = true := by
    cases indicator with
    | mql4 =>
        rw [template, CannedTemplate.mql4, CannedTemplate.toList_joinLines]
        simp only [List.flatMap_cons, List.flatMap_nil]
        repeat rw [String.toList_ofList]
        decide +kernel
    | ninjascript =>
        rw [template, CannedTemplate.ninjascript, CannedTemplate.toList_joinLines]
        simp only [List.flatMap_cons, List.flatMap_nil]
        repeat rw [String.toList_ofList]
        decide +kernel
  obtain ⟨parts, cut, declared⟩ := (Option.any_eq_true _ _).1 declares
  rw [Indicator.parts, pieces_eq_of_cut? cut]
  exact List.all_eq_true.1 declared file (by cases file <;> decide)

/-- What follows the opening quote of a literal is read as a text, up to the closing quote and what
is left after it. -/
def Reads (indicator : Indicator) (dialect : Text.Dialect) (source text left : List Char) : Prop :=
  match indicator with
  | .mql4 => dialect.Reads source text left
  | .ninjascript => Text.Verbatim.inside? source = some (text, left)

/-- A character that stands for itself in literals of the indicator. -/
def Free (indicator : Indicator) (dialect : Text.Dialect) (c : Char) : Prop :=
  match indicator with
  | .mql4 => dialect.Free c
  | .ninjascript => c ≠ '"'

/-- A text before the end of a declaration is read back exactly when all its characters stand for
themselves. -/
theorem reads_iff (indicator : Indicator) (dialect : Text.Dialect) (text : List Char)
    {back : List Char} (ends : closing.toList <+: back) :
    indicator.Reads dialect (text ++ back) text back.tail ↔
      ∀ c ∈ text, indicator.Free dialect c := by
  obtain ⟨rest, rfl⟩ := ends
  have listed : closing.toList ++ rest = '"' :: ';' :: '\n' :: rest :=
    congrArg (· ++ rest) (show closing.toList = ['"', ';', '\n'] by decide)
  rw [listed, List.tail_cons]
  cases indicator with
  | mql4 => exact Text.Dialect.reads_append_iff text _
  | ninjascript =>
      have ends : (';' :: '\n' :: rest).head? ≠ some '"' := by
        rw [List.head?_cons]
        decide
      exact (Text.Verbatim.inside?_append_iff text ends).trans List.forall_mem_ne'.symm

/-- **A document has the path of a file between the quotes of its declaration.** -/
theorem document_eq (indicator : Indicator) (file : NamedFile) {script : Analyst} {stamp : Stamp}
    {text : String} (rendered : indicator.template.document script stamp = .ok text) :
    ∃ values, CannedTemplate.values script stamp = .ok values ∧
      text.toList = indicator.front file values ++
        (CannedTemplate.pathText (values.file? file)).toList ++ indicator.back file values ∧
      (indicator.opening file).toList <:+ indicator.front file values ∧
      closing.toList <+: indicator.back file values := by
  obtain ⟨values, asked, rfl⟩ := map_eq_ok.1 rendered
  have enclosed := fill_of_encloses (indicator.encloses_parts file)
    fun key => (values.value? (.ofList key)).map String.toList
  have key : values.value? (.ofList file.key.toList) =
      some (CannedTemplate.pathText (values.file? file)) := by
    rw [String.ofList_toList]
    exact values.value?_key file
  simp only [key, Option.map_some, Option.getD_some] at enclosed
  refine ⟨values, asked, ?_, enclosed.2⟩
  rw [CannedTemplate.fill, String.toList_ofList]
  exact enclosed.1

/-- **The path of a file is read back from a document exactly when all its characters stand for
themselves.** Reading starts behind the opening quote of the file's declaration and has to end with
the closing quote of the template. -/
theorem file_reads_back_iff (indicator : Indicator) (dialect : Text.Dialect) (file : NamedFile)
    {script : Analyst} {stamp : Stamp} {text : String}
    (rendered : indicator.template.document script stamp = .ok text) :
    ∃ values path?, CannedTemplate.values script stamp = .ok values ∧
      script.resolveConfigured file.property = .ok path? ∧
      let front := indicator.front file values
      let path := (CannedTemplate.pathText path?).toList
      let back := indicator.back file values
      text.toList = front ++ path ++ back ∧ (indicator.opening file).toList <:+ front ∧
        closing.toList <+: back ∧
        (indicator.Reads dialect (path ++ back) path back.tail ↔
          ∀ c ∈ path, indicator.Free dialect c) := by
  obtain ⟨values, asked, split, opens, closes⟩ := indicator.document_eq file rendered
  refine ⟨values, values.file? file, asked, CannedTemplate.resolveConfigured_of_values asked file,
    split, opens, closes, ?_⟩
  exact indicator.reads_iff dialect (CannedTemplate.pathText (values.file? file)).toList closes

/-- A script that names a model file. -/
def naming (name : String) : Analyst :=
  (Analyst.empty.setProperty Analyst.modelFileKey "NET").defineFile "NET" name

/-- What a template is filled with from that script. -/
def named (name : String) : CannedTemplate.Values :=
  ⟨.current "today", some ⟨name⟩, none, naming name⟩

theorem values_naming (name : String) :
    CannedTemplate.values (naming name) (.current "today") = .ok (named name) := rfl

theorem document_naming (template : CannedTemplate) (name : String) :
    template.document (naming name) (.current "today") = .ok (template.fill (named name)) := by
  rw [CannedTemplate.document, values_naming, map_ok]

theorem file_reads_back_iff_plain :
    let text := CannedTemplate.mql4.fill (named "/work/net.json")
    let back := mql4.back .model (named "/work/net.json")
    mql4.template.document (naming "/work/net.json") (.current "today") = .ok text ∧
      (mql4.opening .model).toList <:+ mql4.front .model (named "/work/net.json") ∧
      mql4.Reads .oneLine ("/work/net.json".toList ++ back) "/work/net.json".toList back.tail := by
  intro text back
  have rendered : mql4.template.document (naming "/work/net.json") (.current "today") = .ok text :=
    document_naming .mql4 "/work/net.json"
  obtain ⟨values, path?, asked, resolved, -, opens, -, readBack⟩ :=
    file_reads_back_iff .mql4 .oneLine .model rendered
  obtain rfl : values = named "/work/net.json" := Except.ok.inj asked.symm
  obtain rfl : path? = some ⟨"/work/net.json"⟩ := Except.ok.inj resolved.symm
  refine ⟨rendered, opens, readBack.2 ?_⟩
  have plain : "/work/net.json".toList.all (fun c =>
      c != '"' && c != '\\' && !(c == '\n' || c == '\r')) = true := by decide
  intro c member
  have free := List.all_eq_true.1 plain c member
  simp only [Bool.and_eq_true, bne_iff_ne, Bool.not_eq_true'] at free
  exact ⟨free.1.1, free.1.2, free.2⟩

/-- **In no dialect does MetaTrader read every path back**, because a backslash starts an escape. -/
theorem file_misread :
    ¬ ∃ dialect : Text.Dialect, ∀ (indicator : Indicator) (file : NamedFile) (script : Analyst)
        (stamp : Stamp) (text : String) (values : CannedTemplate.Values) (path? : Option Path),
      indicator.template.document script stamp = .ok text →
      CannedTemplate.values script stamp = .ok values →
      script.resolveConfigured file.property = .ok path? →
      indicator.Reads dialect ((CannedTemplate.pathText path?).toList ++ indicator.back file values)
        (CannedTemplate.pathText path?).toList (indicator.back file values).tail := by
  rintro ⟨dialect, all⟩
  let path := "C:\\net.json"
  have rendered : mql4.template.document (naming path) (.current "today") =
      .ok (CannedTemplate.mql4.fill (named path)) := document_naming .mql4 path
  have reads := all .mql4 .model _ _ _ _ (some ⟨path⟩) rendered (values_naming path) rfl
  obtain ⟨values, asked, -, -, closes⟩ := mql4.document_eq .model rendered
  obtain rfl : values = named path := Except.ok.inj asked.symm
  have free := (mql4.reads_iff dialect path.toList closes).1 reads '\\' (by decide)
  exact free.2.1 rfl

end Indicator

end ModelExport
