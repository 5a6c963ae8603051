/-
# ModelExport.Proofs.Analyst.Resolve — where the files of a script are

A name with a directory in front stands as it is, and a bare name is taken from the
base directory (`resolve_of_defined`). A script that names no base directory takes
bare names from the directory that holds it, so that what it finds there stands
beside it (`exists_resolve_beside`); every path that can be read is held by a
directory (`FileMap.exists_parent?_of_read`).
-/
import ModelExport.Proofs.Analyst.Names
import ModelExport.Proofs.FileMap.Write
import ModelExport.Proofs.Path.Components
import ModelExport.Proofs.Text.Blank

set_option autoImplicit false

namespace ModelExport

/-! ## Paths that can be read -/

namespace FileMap

/-- Idle segments lead nowhere. -/
theorem walk_idle {files : FileMap} {place : Place} (stands : files.lookup? place = some .directory)
    {segments : List (List Char)} (idle : ∀ segment ∈ segments, Path.isIdle segment = true) :
    files.walk place segments = .ok place := by
  induction segments with
  | nil => rfl
  | cons segment rest ih =>
      obtain ⟨first, later⟩ := List.forall_mem_cons.1 idle
      rw [walk, stands]
      dsimp only
      rw [if_pos first, ih later]

/-- **A path that can be read is held by a directory.** -/
theorem exists_parent?_of_read {files : FileMap} {p : Path} {text : String}
    (read : files.read p = .ok text) : ∃ directory, p.parent? = some directory := by
  obtain ⟨place, names, stands⟩ := read_eq_ok.1 read
  cases held : p.parent? with
  | some directory => exact ⟨directory, rfl⟩
  | none =>
      -- such a path leads no further than where it starts, which is a directory
      have idle := Path.idle_of_parent?_eq_none held
      have start : files.lookup? (Place.start p) = some .directory := if_pos rfl
      rw [Names, locate, walk_idle start idle] at names
      split at names
      · cases names
      · split at names
        · cases names
        · split at names
          · cases names
          · obtain rfl := Except.ok.inj names
            rw [start] at stands
            cases stands

end FileMap

namespace Analyst

/-- Where a name is found: a path from the root or of more than one component stands as it is, and
any other is put behind the base directory, if there is one, and a separator. -/
def Finds (base? : Option Path) (name path : Path) : Prop :=
  if name.isAbsolute = true ∨ 2 ≤ name.components.length then path = name
  else path.text = (base?.elim "" fun base => base.text ++ base.separator) ++ name.text

variable {script : Analyst} {key : String}

/-- A property names a file by what is left of its value without the white space around it. -/
theorem names_trimmed {value : String} (found : script.property? key = some value)
    (filled : ¬ Text.IsBlank value.toList) :
    script.Names key (.ofList (Text.trim value.toList)) where
  trimmed := ⟨value, found, String.toList_ofList.symm⟩
  filled := by
    rw [Ne, ← String.toList_eq_nil_iff, String.toList_ofList, Text.trim_eq_nil]
    exact filled

/-- It names none if it is missing or blank. -/
theorem not_names_iff : (∀ identifier, ¬ script.Names key identifier) ↔
    ∀ value, script.property? key = some value → Text.IsBlank value.toList := by
  constructor
  · intro nothing value found
    by_contra filled
    exact nothing _ (names_trimmed found filled)
  · rintro blank identifier ⟨⟨value, found, trimmed⟩, filled⟩
    rw [Text.trim_eq_nil.2 (blank value found)] at trimmed
    exact filled (String.toList_eq_nil_iff.1 trimmed.symm)

/-- The path of a defined name: a bare one is taken from the base directory. -/
theorem resolve_eq {identifier name : String} (found : script.files.get? identifier = some name) :
    script.resolve identifier = .ok (script.baseDirectory.elim ⟨name⟩ fun base =>
      if Path.isBare ⟨name⟩ then base.join ⟨name⟩ else ⟨name⟩) := by
  rw [resolve, found]
  cases script.baseDirectory <;> rfl

/-- **A defined name is found where it should be.** -/
theorem resolve_of_defined {identifier name : String}
    (found : script.files.get? identifier = some name) :
    ∃ path, script.resolve identifier = .ok path ∧ Finds script.baseDirectory ⟨name⟩ path := by
  refine ⟨_, resolve_eq found, ?_⟩
  have bare := Path.isBare_iff ⟨name⟩
  cases script.baseDirectory with
  | none =>
      rw [Option.elim_none, Finds, Option.elim_none]
      split
      · rfl
      · exact String.empty_append.symm
  | some base =>
      rw [Option.elim_some, Finds, Option.elim_some]
      by_cases absolute : Path.isAbsolute ⟨name⟩ = true
      · rw [if_pos (.inl absolute), Path.join_of_absolute absolute, ite_self]
      · by_cases single : Path.isBare ⟨name⟩ = true
        · have few := bare.1 single
          rw [if_pos single, if_neg (not_or.2 ⟨absolute, Nat.not_le.2 (Nat.lt_succ_of_le few)⟩),
            Path.join_of_relative (Bool.eq_false_iff.2 absolute)]
        · have many : 2 ≤ (Path.components ⟨name⟩).length :=
            Nat.lt_of_not_le fun few => single (bare.2 few)
          rw [if_neg single, if_pos (.inr many)]

/-- A script that is loaded is the one in its file, and has the directory of the file for a base
directory if it names none. -/
theorem loadBy_of_unplaced {decode : String → Except Json.Error Analyst}
    {read : Path → Except IoError String} {path : Path} {text : String} {raw : Analyst}
    (given : read path = .ok text) (held : ofText decode path text = .ok raw)
    (unplaced : raw.baseDirectory = none) :
    loadBy decode read path = .ok { raw with baseDirectory := path.parent? } := by
  rw [loadBy, given, mapError_ok, ok_bind, held, ok_bind, placedAt, unplaced]

/-- **A single name is found beside the script**, if the base directory is the one that holds it. -/
theorem parent?_of_resolve {path directory : Path} (held : path.parent? = some directory)
    (based : script.baseDirectory = some directory) {identifier name : String}
    (found : script.files.get? identifier = some name) (single : Path.IsSingle ⟨name⟩) :
    ∃ file, script.resolve identifier = .ok file ∧ file.parent? = some directory := by
  obtain ⟨c, alone, -⟩ := single.alone
  have bare : Path.isBare ⟨name⟩ = true := by
    rw [Path.isBare_iff, alone]
    exact Nat.le_refl 1
  refine ⟨_, resolve_eq found, ?_⟩
  rw [based, Option.elim_some, if_pos bare]
  exact Path.parent?_join held single

/-- **A property finds its file where its name says.** A missing or blank property names no file;
any other names one by its value without the white space around it, and the failure of an identifier
that is not defined tells it. A path from the root or of more than one component stands as it is,
any other is put behind the base directory and a separator. So a single name in a script that was
loaded, and gives no base directory, is held by the directory that holds the script, and there is
one for every script that can be read. -/
theorem configured_file_found :
    (∀ (script : Analyst) (key : String),
      (script.resolveConfigured key = .ok none ↔
        ∀ value, script.property? key = some value → Text.IsBlank value.toList) ∧
      ∀ value, script.property? key = some value → ¬ Text.IsBlank value.toList →
        let identifier := String.ofList (Text.trim value.toList)
        script.resolveConfigured key = (script.resolve identifier).map some ∧
          ∀ error, script.resolveConfigured key = .error error ↔
            script.files.get? identifier = none ∧ error = .undefinedFile identifier) ∧
    (∀ (script : Analyst) (identifier name : String), script.files.get? identifier = some name →
      ∃ path, script.resolve identifier = .ok path ∧ Finds script.baseDirectory ⟨name⟩ path) ∧
    (∀ (decode : String → Except Json.Error Analyst) (read : Path → Except IoError String)
        (path : Path) (text : String) (raw : Analyst),
      read path = .ok text → ofText decode path text = .ok raw → raw.baseDirectory = none →
      ∃ script, loadBy decode read path = .ok script ∧
        script.properties = raw.properties ∧ script.files = raw.files ∧
          ∀ directory, path.parent? = some directory →
            ∀ identifier name, script.files.get? identifier = some name → Path.IsSingle ⟨name⟩ →
              ∃ file, script.resolve identifier = .ok file ∧ file.parent? = some directory) ∧
    ∀ (files : FileMap) (path : Path) (text : String), files.read path = .ok text →
      ∃ directory, path.parent? = some directory := by
  refine ⟨fun script key => ⟨resolveConfigured_eq_none.trans not_names_iff, ?_⟩,
    fun script identifier name found => resolve_of_defined found, ?_,
    fun files path text => FileMap.exists_parent?_of_read⟩
  · intro value found filled identifier
    have named := configuredIdentifier?_eq_some.2 (names_trimmed found filled)
    have asked : script.resolveConfigured key = (script.resolve identifier).map some := by
      rw [resolveConfigured, named]
    refine ⟨asked, fun error => ?_⟩
    rw [asked, ← resolve_eq_error]
    cases script.resolve identifier <;> simp
  · intro decode read path text raw given held unplaced
    refine ⟨_, loadBy_of_unplaced given held unplaced, rfl, rfl, ?_⟩
    intro directory above identifier name found single
    exact parent?_of_resolve above above found single

/-- A script beside which there are files. -/
def beside : String :=
  "[null, \x7b\"M\": \" F \", \"T\": \" \"\x7d, \x7b\"F\": \"net.json\"\x7d]"

theorem configured_file_found_beside :
    let path : Path := ⟨"runs//a.json"⟩
    let files := FileMap.empty.create path (.file (.text beside))
    let raw : Analyst := ⟨none, ⟨[("T", " "), ("M", " F ")]⟩, ⟨[("F", "net.json")]⟩⟩
    files.read path = .ok beside ∧ ofText decode path beside = .ok raw ∧
      ∃ script file directory, load files.read path = .ok script ∧
        script.resolveConfigured "T" = .ok none ∧
        script.resolveConfigured "M" = .ok (some file) ∧
        Finds script.baseDirectory ⟨"net.json"⟩ file ∧
        path.parent? = some directory ∧ file.parent? = some directory := by
  intro path files raw
  have given : files.read path = .ok beside := toOption_eq_some.1 (by decide +kernel)
  have held : ofText decode path beside = .ok raw := toOption_eq_some.1 (by decide +kernel)
  have single : Path.IsSingle ⟨"net.json"⟩ := ⟨by decide, "net.json".toList, by decide, by decide⟩
  obtain ⟨configured, defined, loaded, readable⟩ := configured_file_found
  obtain ⟨directory, above⟩ := readable files path beside given
  obtain ⟨script, made, properties, named, stands⟩ :=
    loaded decode files.read path beside raw given held rfl
  have found : script.files.get? "F" = some "net.json" := by rw [named]; decide
  have blank : script.property? "T" = some " " := by rw [property?, properties]; decide
  have value : script.property? "M" = some " F " := by rw [property?, properties]; decide
  have filled : ¬ Text.IsBlank " F ".toList := by
    rw [← Text.trim_eq_nil]
    decide
  obtain ⟨file, resolved, above'⟩ := stands directory above "F" "net.json" found single
  obtain ⟨same, again, finds⟩ := defined script "F" "net.json" found
  obtain rfl : same = file := Except.ok.inj (again.symm.trans resolved)
  have asked := ((configured script "M").2 " F " value filled).1
  refine ⟨given, held, script, same, directory, made, ?_, ?_, finds, above, above'⟩
  · refine (configured script "T").1.2 fun other known => ?_
    obtain rfl : " " = other := Option.some.inj (blank.symm.trans known)
    exact Text.isBlank_spaces 1
  · have trimmed : String.ofList (Text.trim " F ".toList) = "F" := by decide
    rw [asked, trimmed, resolved]
    rfl

end Analyst

end ModelExport
