/-
# ModelExport.Proofs.Template.Values — what the keys of a template stand for

Five keys are reserved: they stand for parts of the stamp and for the paths of the
two files. Every other key stands for the property of that name, and for nothing if
there is none (`Meaning`). A script makes a document of a template exactly when it
defines the files that it names, and then the document is the template with these
meanings (`document_eq_ok`); otherwise the failure tells the first identifier that is
not defined (`document_eq_error`). Whether the template mentions the files is of no
account. Two scripts with the same files make the same document if they agree on the
properties that the template asks for (`document_congr`).
-/
import ModelExport.Proofs.Analyst.Names
import ModelExport.Proofs.Session.Run
import ModelExport.Proofs.Template.Grammar

set_option autoImplicit false

namespace ModelExport

namespace CannedTemplate

/-- The keys that no property stands behind. -/
def reservedKeys : List String :=
  ["GENERATOR", "VERSION", "GENERATED_AT", "MODEL_FILE", "TRAINING_FILE"]

/-- What all keys stand for. -/
structure Meaning (script : Analyst) (stamp : Stamp) (value : String → String) : Prop where
  tool : value "GENERATOR" = stamp.tool
  version : value "VERSION" = stamp.version
  time : value "GENERATED_AT" = stamp.time
  modelFile : script.Locates Analyst.modelFileKey (value "MODEL_FILE")
  trainingFile : script.Locates Analyst.trainingFileKey (value "TRAINING_FILE")
  property : ∀ key, key ∉ reservedKeys → value key = (script.property? key).getD ""

/-- A text is the template with every key replaced by what it stands for. -/
def Makes (template : CannedTemplate) (script : Analyst) (stamp : Stamp) (text : String) : Prop :=
  ∃ value, Meaning script stamp value ∧
    Template.Filled (fun key => (value (.ofList key)).toList) template.text.toList text.toList

variable {template : CannedTemplate} {script : Analyst} {stamp : Stamp}

theorem Values.value?_of_free (values : Values) {key : String} (free : key ∉ reservedKeys) :
    values.value? key = values.script.property? key := by
  simp only [reservedKeys, List.mem_cons, List.not_mem_nil, or_false, not_or] at free
  obtain ⟨tool, version, time, model, training⟩ := free
  exact Values.value?.eq_6 values key tool version time model training

/-- A meaning of all keys is that of the values with the files of the script. -/
theorem Meaning.eq_value? {value : String → String} (meaning : Meaning script stamp value) :
    ∃ model? data?, Session.configuredFiles script = .ok (model?, data?) ∧
      ∀ key, value key = ((Values.mk stamp model? data? script).value? key).getD "" := by
  obtain ⟨model?, model, named⟩ := Analyst.locates_iff.1 meaning.modelFile
  obtain ⟨data?, training, trained⟩ := Analyst.locates_iff.1 meaning.trainingFile
  refine ⟨model?, data?, Session.configuredFiles_eq_ok.2 ⟨model, training⟩, fun key => ?_⟩
  by_cases free : key ∈ reservedKeys
  · simp only [reservedKeys, List.mem_cons, List.not_mem_nil, or_false] at free
    rcases free with rfl | rfl | rfl | rfl | rfl
    · exact meaning.tool
    · exact meaning.version
    · exact meaning.time
    · exact named
    · exact trained
  · rw [Values.value?_of_free _ free]
    exact meaning.property key free

theorem meaning_value? {model? data? : Option Path}
    (found : Session.configuredFiles script = .ok (model?, data?)) :
    Meaning script stamp fun key => ((Values.mk stamp model? data? script).value? key).getD "" := by
  obtain ⟨model, training⟩ := Session.configuredFiles_eq_ok.1 found
  refine ⟨rfl, rfl, rfl, Analyst.locates_iff.2 ⟨model?, model, rfl⟩,
    Analyst.locates_iff.2 ⟨data?, training, rfl⟩, fun key free => ?_⟩
  rw [Values.value?_of_free _ free]

/-- A document needs nothing of a script but its files and its properties. -/
theorem document_eq (template : CannedTemplate) (script : Analyst) (stamp : Stamp) :
    template.document script stamp =
      (Session.configuredFiles script).map fun files =>
        template.fill ⟨stamp, files.1, files.2, script⟩ := by
  rw [document, Session.values_eq, map_map]
  rfl

theorem fill_eq (template : CannedTemplate) (values : Values) :
    (template.fill values).toList =
      Template.fill (fun key => some ((values.value? (.ofList key)).getD "").toList)
        template.text.toList := by
  rw [fill, String.toList_ofList]
  apply Template.fill_congr
  intro key _
  cases values.value? (.ofList key) <;> rfl

/-- **A document is the template with every key replaced by what it stands for.** -/
theorem document_eq_ok {text : String} :
    template.document script stamp = .ok text ↔ template.Makes script stamp text := by
  rw [document_eq, map_eq_ok]
  constructor
  · rintro ⟨⟨model?, data?⟩, found, rfl⟩
    refine ⟨_, meaning_value? found, ?_⟩
    rw [Template.filled_iff, fill_eq]
  · rintro ⟨value, meaning, filled⟩
    obtain ⟨model?, data?, found, values⟩ := meaning.eq_value?
    refine ⟨(model?, data?), found, String.toList_inj.1 ?_⟩
    rw [Template.filled_iff.1 filled, fill_eq]
    simp only [values]

/-- **There is none exactly when the script names a file that it does not define.** -/
theorem document_eq_error {failure : Failure} :
    template.document script stamp = .error failure ↔
      ∃ identifier, script.Blames identifier ∧ failure = .analyst (.undefinedFile identifier) := by
  rw [document_eq, ← Session.configuredFiles_eq_error]
  cases Session.configuredFiles script <;> simp

/-- Scripts with the same files make one document if they agree on the properties that the template
asks for. -/
theorem document_congr {twin : Analyst}
    (files : Session.configuredFiles twin = Session.configuredFiles script)
    (same : ∀ key ∈ Template.keys template.text.toList, String.ofList key ∉ reservedKeys →
      twin.property? (.ofList key) = script.property? (.ofList key)) :
    template.document twin stamp = template.document script stamp := by
  rw [document_eq, document_eq, files]
  cases Session.configuredFiles script with
  | error failure => rfl
  | ok found =>
      refine congrArg Except.ok (String.toList_inj.1 ?_)
      rw [fill_eq, fill_eq]
      apply Template.fill_congr
      intro key asked
      by_cases free : String.ofList key ∈ reservedKeys
      · simp only [reservedKeys, List.mem_cons, List.not_mem_nil, or_false] at free
        rcases free with known | known | known | known | known <;> rw [known] <;> rfl
      · simp only [Values.value?_of_free _ free, same key asked free]

end CannedTemplate

end ModelExport
