/-
# ModelExport.Proofs.Analyst.Names — the files that a script names

A property names a file by an identifier, its value without the white space around
it, unless nothing is left (`Names`). Looking such a file up fails exactly when the
script does not define the identifier, and the failure tells it
(`resolveConfigured_eq_error`); of the two files of a script the model file is looked
up first (`configuredFiles_eq_error`). What is found depends on the property, the
entry of its identifier and the base directory only (`Agrees.resolveConfigured_eq`).
-/
import ModelExport.Proofs.Fold
import ModelExport.Session

set_option autoImplicit false

namespace ModelExport

namespace Analyst

/-- The properties that name files, in the order in which the files are looked up. -/
def fileKeys : List String := [modelFileKey, trainingFileKey]

/-- A property names a file by an identifier. -/
structure Names (script : Analyst) (key identifier : String) : Prop where
  trimmed : ∃ value, script.property? key = some value ∧
    Text.trim value.toList = identifier.toList
  filled : identifier ≠ ""

/-- A property names a file that the script does not define. -/
structure Misnames (script : Analyst) (key identifier : String) : Prop where
  names : script.Names key identifier
  undefined : script.files.get? identifier = none

/-- A text is the path of the file that a property names, or empty because it names none. -/
def Locates (script : Analyst) (key text : String) : Prop :=
  (∃ identifier path, script.Names key identifier ∧ script.resolve identifier = .ok path ∧
    text = path.text) ∨
  (∀ identifier, ¬ script.Names key identifier) ∧ text = ""

/-- Of the files that a script names, an identifier is the first that it does not define. -/
def Blames (script : Analyst) (identifier : String) : Prop :=
  script.Misnames modelFileKey identifier ∨
    (∀ other, ¬ script.Misnames modelFileKey other) ∧ script.Misnames trainingFileKey identifier

/-- A script defines all files that it names. -/
def Defines (script : Analyst) : Prop :=
  ∀ key ∈ fileKeys, ∀ identifier, ¬ script.Misnames key identifier

variable {script : Analyst} {key : String}

/-! ## Looking up one file -/

theorem configuredIdentifier?_eq_some {identifier : String} :
    script.configuredIdentifier? key = some identifier ↔ script.Names key identifier := by
  unfold configuredIdentifier?
  cases asked : script.property? key with
  | none =>
      simp only [reduceCtorEq, false_iff]
      rintro ⟨⟨value, found, -⟩, -⟩
      rw [asked] at found
      cases found
  | some value =>
      cases trimmed : Text.trim value.toList with
      | nil =>
          simp only [trimmed, reduceCtorEq, false_iff]
          rintro ⟨⟨other, found, same⟩, filled⟩
          rw [asked] at found
          cases found
          rw [trimmed] at same
          exact filled (String.toList_eq_nil_iff.1 same.symm)
      | cons first rest =>
          simp only [trimmed, Option.some.injEq]
          constructor
          · rintro rfl
            refine ⟨⟨value, asked, by rw [trimmed, String.toList_ofList]⟩, fun empty => ?_⟩
            have listed := congrArg String.toList empty
            rw [String.toList_ofList] at listed
            cases listed
          · rintro ⟨⟨other, found, same⟩, -⟩
            rw [asked] at found
            cases found
            rw [← trimmed, same, String.ofList_toList]

/-- A property names one file at most. -/
theorem Names.unique {identifier other : String} (names : script.Names key identifier)
    (again : script.Names key other) : identifier = other := by
  have first := configuredIdentifier?_eq_some.2 names
  rw [configuredIdentifier?_eq_some.2 again] at first
  exact (Option.some.inj first).symm

theorem resolve_eq_error {identifier : String} {error : AnalystError} :
    script.resolve identifier = .error error ↔
      script.files.get? identifier = none ∧ error = .undefinedFile identifier := by
  unfold resolve
  cases script.files.get? identifier with
  | none => simp [eq_comm]
  | some name => cases script.baseDirectory <;> simp

/-- **Looking up the file of a property fails exactly when its identifier is not defined.** -/
theorem resolveConfigured_eq_error {error : AnalystError} :
    script.resolveConfigured key = .error error ↔
      ∃ identifier, script.Misnames key identifier ∧ error = .undefinedFile identifier := by
  unfold resolveConfigured
  cases named : script.configuredIdentifier? key with
  | none =>
      simp only [reduceCtorEq, false_iff]
      rintro ⟨identifier, ⟨names, -⟩, -⟩
      rw [configuredIdentifier?_eq_some.2 names] at named
      cases named
  | some identifier =>
      have names := configuredIdentifier?_eq_some.1 named
      cases found : script.resolve identifier with
      | ok path =>
          simp only [found, map_ok, reduceCtorEq, false_iff]
          rintro ⟨other, ⟨again, undefined⟩, told⟩
          obtain rfl := names.unique again
          rw [resolve_eq_error.2 ⟨undefined, told⟩] at found
          cases found
      | error other =>
          obtain ⟨undefined, rfl⟩ := resolve_eq_error.1 found
          simp only [found, map_error, Except.error.injEq]
          constructor
          · rintro rfl
            exact ⟨identifier, ⟨names, undefined⟩, rfl⟩
          · rintro ⟨other, ⟨again, -⟩, rfl⟩
            rw [names.unique again]

/-- Otherwise it finds the path of the file, or that there is none. -/
theorem exists_resolveConfigured :
    (∃ path?, script.resolveConfigured key = .ok path?) ↔
      ∀ identifier, ¬ script.Misnames key identifier := by
  cases found : script.resolveConfigured key with
  | ok path? =>
      refine iff_of_true ⟨path?, rfl⟩ fun identifier misnames => ?_
      rw [resolveConfigured_eq_error.2 ⟨identifier, misnames, rfl⟩] at found
      cases found
  | error error =>
      obtain ⟨identifier, misnames, -⟩ := resolveConfigured_eq_error.1 found
      refine iff_of_false ?_ fun none => none identifier misnames
      rintro ⟨path?, ⟨⟩⟩

theorem resolveConfigured_eq_some {path : Path} :
    script.resolveConfigured key = .ok (some path) ↔
      ∃ identifier, script.Names key identifier ∧ script.resolve identifier = .ok path := by
  simp only [← configuredIdentifier?_eq_some, resolveConfigured]
  cases script.configuredIdentifier? key with
  | none => simp
  | some identifier => simp [map_eq_ok]

theorem resolveConfigured_eq_none :
    script.resolveConfigured key = .ok none ↔ ∀ identifier, ¬ script.Names key identifier := by
  simp only [← configuredIdentifier?_eq_some, resolveConfigured]
  cases script.configuredIdentifier? key with
  | none => simp
  | some identifier => simp [map_eq_ok]

theorem locates_iff {text : String} :
    script.Locates key text ↔
      ∃ path?, script.resolveConfigured key = .ok path? ∧ text = (path?.map Path.text).getD "" := by
  rw [Locates]
  constructor
  · rintro (⟨identifier, path, names, found, rfl⟩ | ⟨none, rfl⟩)
    · exact ⟨some path, resolveConfigured_eq_some.2 ⟨identifier, names, found⟩, rfl⟩
    · exact ⟨.none, resolveConfigured_eq_none.2 none, rfl⟩
  · rintro ⟨_ | path, found, rfl⟩
    · exact .inr ⟨resolveConfigured_eq_none.1 found, rfl⟩
    · obtain ⟨identifier, names, resolved⟩ := resolveConfigured_eq_some.1 found
      exact .inl ⟨identifier, path, names, resolved, rfl⟩

/-! ## Scripts that agree -/

/-- Two scripts agree on some properties and on the files that they name. -/
structure Agrees (script twin : Analyst) (keys : List String) : Prop where
  base : twin.baseDirectory = script.baseDirectory
  properties : ∀ key ∈ keys, twin.property? key = script.property? key
  files : ∀ key ∈ fileKeys, ∀ identifier, script.Names key identifier →
    twin.files.get? identifier = script.files.get? identifier

namespace Agrees

variable {twin : Analyst} {keys : List String}

theorem mono {fewer : List String} (agrees : script.Agrees twin keys) (among : fewer ⊆ keys) :
    script.Agrees twin fewer :=
  ⟨agrees.base, fun key member => agrees.properties key (among member), agrees.files⟩

/-- **Scripts that agree on the property of a file find the same file.** -/
theorem resolveConfigured_eq (agrees : script.Agrees twin keys) (asked : key ∈ keys)
    (file : key ∈ fileKeys) : twin.resolveConfigured key = script.resolveConfigured key := by
  have named : twin.configuredIdentifier? key = script.configuredIdentifier? key := by
    rw [configuredIdentifier?, configuredIdentifier?, agrees.properties key asked]
  unfold resolveConfigured
  rw [named]
  cases known : script.configuredIdentifier? key with
  | none => rfl
  | some identifier =>
      have same := agrees.files key file identifier (configuredIdentifier?_eq_some.1 known)
      simp only [resolve, same, agrees.base]

end Agrees

/-- Two scripts differ in nothing but some properties. -/
structure AgreesBeside (script twin : Analyst) (keys : List String) : Prop where
  base : twin.baseDirectory = script.baseDirectory
  properties : ∀ key, key ∉ keys → twin.property? key = script.property? key
  files : ∀ identifier, twin.files.get? identifier = script.files.get? identifier

theorem AgreesBeside.agrees {twin : Analyst} {keys others : List String}
    (agrees : script.AgreesBeside twin keys) (apart : ∀ key ∈ others, key ∉ keys) :
    script.Agrees twin others where
  base := agrees.base
  properties key member := agrees.properties key (apart key member)
  files _ _ identifier _ := agrees.files identifier

end Analyst

/-! ## Both files of a script -/

namespace Session

variable {script : Analyst}

theorem configuredFiles_eq_ok {model? data? : Option Path} :
    configuredFiles script = .ok (model?, data?) ↔
      script.resolveConfigured Analyst.modelFileKey = .ok model? ∧
        script.resolveConfigured Analyst.trainingFileKey = .ok data? := by
  unfold configuredFiles
  cases script.resolveConfigured Analyst.modelFileKey with
  | error error => simp
  | ok found => cases script.resolveConfigured Analyst.trainingFileKey <;> simp

/-- **Looking up the two files of a script fails with the first that it does not define.** -/
theorem configuredFiles_eq_error {failure : Failure} :
    configuredFiles script = .error failure ↔
      ∃ identifier, script.Blames identifier ∧ failure = .analyst (.undefinedFile identifier) := by
  unfold configuredFiles
  cases model : script.resolveConfigured Analyst.modelFileKey with
  | error error =>
      obtain ⟨identifier, misnames, rfl⟩ := Analyst.resolveConfigured_eq_error.1 model
      simp only [mapError_error, error_bind, Except.error.injEq]
      constructor
      · rintro rfl
        exact ⟨identifier, .inl misnames, rfl⟩
      · rintro ⟨other, again | ⟨defined, -⟩, rfl⟩
        · rw [misnames.names.unique again.names]
        · exact absurd misnames (defined identifier)
  | ok model? =>
      have defined := Analyst.exists_resolveConfigured.1 ⟨model?, model⟩
      simp only [mapError_ok, ok_bind]
      cases training : script.resolveConfigured Analyst.trainingFileKey with
      | error error =>
          obtain ⟨identifier, misnames, rfl⟩ := Analyst.resolveConfigured_eq_error.1 training
          simp only [mapError_error, error_bind, Except.error.injEq]
          constructor
          · rintro rfl
            exact ⟨identifier, .inr ⟨defined, misnames⟩, rfl⟩
          · rintro ⟨other, again | ⟨-, again⟩, rfl⟩
            · exact absurd again (defined other)
            · rw [misnames.names.unique again.names]
      | ok data? =>
          have trained := Analyst.exists_resolveConfigured.1 ⟨data?, training⟩
          simp only [mapError_ok, ok_bind, reduceCtorEq, false_iff]
          rintro ⟨identifier, misnames | ⟨-, misnames⟩, -⟩
          · exact defined identifier misnames
          · exact trained identifier misnames

/-- It succeeds exactly when the script defines them. -/
theorem exists_configuredFiles :
    (∃ model? data?, configuredFiles script = .ok (model?, data?)) ↔ script.Defines := by
  simp only [configuredFiles_eq_ok, exists_and_left, exists_and_right,
    Analyst.exists_resolveConfigured, Analyst.Defines, Analyst.fileKeys, List.forall_mem_cons]
  rw [and_iff_left (List.forall_mem_nil _)]

/-- Scripts that agree on both properties have the same files. -/
theorem configuredFiles_eq_of_agrees {twin : Analyst}
    (agrees : script.Agrees twin Analyst.fileKeys) :
    configuredFiles twin = configuredFiles script := by
  have model : Analyst.modelFileKey ∈ Analyst.fileKeys := List.mem_cons_self
  have training : Analyst.trainingFileKey ∈ Analyst.fileKeys :=
    List.mem_cons_of_mem _ List.mem_cons_self
  unfold configuredFiles
  rw [agrees.resolveConfigured_eq model model, agrees.resolveConfigured_eq training training]

end Session

end ModelExport
