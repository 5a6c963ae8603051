/-
# ModelExport.Proofs.FileMap.Write — what writing a file changes

Writing succeeds exactly when the path has a last name and names a place where no
directory stands, whatever the text (`write_eq_ok`). Then the text stands at that
place, every other place keeps what stood there, and every path still names the place
that it named (`Replaced`). A `Writer` is any way to write that does so or fails without
an effect, for whatever cause; writing to a file map is one (`FileMap.writer`).
-/
import ModelExport.FileMap
import ModelExport.Proofs.Fold

set_option autoImplicit false

namespace ModelExport

/-- What stands under one key is not affected by the entries of another. -/
theorem lookup_filter_of_ne {κ β : Type} [DecidableEq κ] {key other : κ} (apart : other ≠ key)
    (entries : List (κ × β)) :
    (entries.filter fun entry => entry.1 != key).lookup other = entries.lookup other := by
  induction entries with
  | nil => rfl
  | cons entry rest ih =>
      obtain ⟨found, held⟩ := entry
      by_cases same : found = key
      · have passed : (other == key) = false := beq_false_of_ne apart
        simp [same, List.lookup_cons, passed, ih]
      · simp [same, List.lookup_cons, ih]

/-- A path has no last name: it ends in a slash, or is empty. -/
def Path.IsOpen (p : Path) : Prop := (Path.segments p.text.toList).getLast? = some []

namespace FileMap

/-- A path names a place, whether or not something stands there. -/
def Names (files : FileMap) (p : Path) (place : Place) : Prop :=
  files.locate p (Path.segments p.text.toList) = .ok place

variable {files : FileMap} {place : Place}

/-! ## Putting a file at a place -/

theorem lookup?_put_of_ne {other : Place} (apart : other ≠ place) (entry : Entry) :
    (files.put place entry).lookup? other = files.lookup? other := by
  have passed : (other == place) = false := beq_false_of_ne apart
  simp only [lookup?, put, List.lookup_cons, passed, lookup_filter_of_ne apart]

theorem names_ne_nil (free : files.lookup? place ≠ some .directory) : place.names ≠ [] :=
  fun anchor => free (if_pos anchor)

/-- **Putting a file where no directory stands leads no path elsewhere.** -/
theorem walk_put (free : files.lookup? place ≠ some .directory) (contents : Contents)
    (segments : List (List Char)) (start reached : Place) :
    (files.put place (.file contents)).walk start segments = .ok reached ↔
      files.walk start segments = .ok reached := by
  induction segments generalizing start with
  | nil => rfl
  | cons segment rest ih =>
      rw [walk, walk]
      by_cases here : start = place
      · -- no path leads on from the place, neither before nor after
        rw [here, lookup?_put_self _ _ _ (names_ne_nil free)]
        cases stands : files.lookup? place with
        | none => exact iff_of_false nofun nofun
        | some entry =>
            cases entry with
            | file held => exact iff_of_false nofun nofun
            | directory => exact absurd stands free
      · rw [lookup?_put_of_ne here]
        cases files.lookup? start with
        | none => exact Iff.rfl
        | some entry =>
            cases entry with
            | file held => exact Iff.rfl
            | directory =>
                dsimp only
                split
                · exact ih start
                · split
                  · exact ih start.up
                  · split
                    · exact Iff.rfl
                    · exact ih _

theorem names_put (free : files.lookup? place ≠ some .directory) (contents : Contents) (p : Path)
    (other : Place) :
    (files.put place (.file contents)).Names p other ↔ files.Names p other := by
  simp only [Names, locate]
  split
  · exact Iff.rfl
  · split
    · exact Iff.rfl
    · split
      · exact Iff.rfl
      · exact walk_put free contents _ _ other

/-! ## Reading and writing -/

theorem read_eq_ok {p : Path} {text : String} :
    files.read p = .ok text ↔
      ∃ place, files.Names p place ∧ files.lookup? place = some (.file (.text text)) := by
  rw [read, bind_eq_ok]
  refine exists_congr fun place => and_congr_right fun _ => ?_
  cases files.lookup? place with
  | none => simp
  | some entry =>
      cases entry with
      | directory => simp
      | file contents => cases contents <;> simp

/-- Without the empty segments at its end a path is shorter, or it has none there. -/
theorem stripped_cases (segments : List (List Char)) :
    let named := (segments.reverse.dropWhile (· == [])).reverse
    segments.getLast? = some [] ∧ named.length < segments.length ∨
      segments.getLast? ≠ some [] ∧ named = segments := by
  obtain ⟨backwards, rfl⟩ : ∃ backwards, segments = backwards.reverse :=
    ⟨segments.reverse, segments.reverse_reverse.symm⟩
  rw [List.reverse_reverse, List.getLast?_reverse]
  cases backwards with
  | nil => exact .inr ⟨nofun, rfl⟩
  | cons last rest =>
      by_cases empty : last = []
      · refine .inl ⟨congrArg some empty, ?_⟩
        rw [empty, List.dropWhile_cons_of_pos rfl, List.length_reverse, List.length_reverse]
        exact Nat.lt_succ_of_le (List.dropWhile_suffix _).length_le
      · refine .inr ⟨fun same => empty (Option.some.inj same), ?_⟩
        rw [List.dropWhile_cons_of_neg (by simpa using empty)]

/-- **When writing succeeds, and what it makes.** -/
theorem write_eq_ok {p : Path} {text : String} {after : FileMap} :
    files.write p text = .ok after ↔
      ¬ p.IsOpen ∧ ∃ place, files.Names p place ∧ files.lookup? place ≠ some .directory ∧
        after = files.put place (.file (.text text)) := by
  obtain ⟨ends, shorter⟩ | ⟨closed, whole⟩ := stripped_cases (Path.segments p.text.toList)
  · refine iff_of_false ?_ fun made => made.1 ends
    simp only [write, shorter, if_true]
    intro written
    obtain ⟨place, -, refused⟩ := bind_eq_ok.1 written
    cases refused
  · simp only [write, whole, Nat.lt_irrefl, if_false]
    rw [bind_eq_ok, and_iff_right (show ¬ p.IsOpen from closed)]
    refine exists_congr fun place => and_congr_right fun _ => ?_
    cases files.lookup? place with
    | none => simp [eq_comm]
    | some entry => cases entry <;> simp [eq_comm]

/-- A text stands at a place, and nothing else has changed. -/
structure Replaced (before after : FileMap) (place : Place) (text : String) : Prop where
  holds : after.lookup? place = some (.file (.text text))
  others : ∀ other, other ≠ place → after.lookup? other = before.lookup? other
  /-- Every path names what it named before. -/
  names : ∀ p other, after.Names p other ↔ before.Names p other

namespace Replaced

variable {before after : FileMap} {text : String}

/-- The paths of the place read the text. -/
theorem read_eq (replaced : Replaced before after place text) {p : Path}
    (names : before.Names p place) : after.read p = .ok text :=
  read_eq_ok.2 ⟨place, (replaced.names p place).2 names, replaced.holds⟩

/-- All others read what they read before. -/
theorem read_iff_of_apart (replaced : Replaced before after place text) {p : Path}
    (apart : ¬ before.Names p place) (held : String) :
    after.read p = .ok held ↔ before.read p = .ok held := by
  rw [read_eq_ok, read_eq_ok]
  refine exists_congr fun other => ?_
  rw [replaced.names]
  refine and_congr_right fun names => ?_
  rw [replaced.others]
  rintro rfl
  exact apart names

end Replaced

theorem store_eq_ok {p : Path} {text : String} {after : FileMap} :
    files.store p text = (.ok (), after) ↔ files.write p text = .ok after := by
  rw [store]
  cases files.write p text <;> simp

theorem store_eq_error {p : Path} {text : String} {error : IoError} {after : FileMap} :
    files.store p text = (.error error, after) ↔
      files.write p text = .error error ∧ after = files := by
  rw [store]
  cases files.write p text <;> simp [eq_comm]

/-- **A write that succeeds replaces one file.** -/
theorem replaced_of_write {p : Path} {text : String} {after : FileMap}
    (written : files.write p text = .ok after) :
    ∃ place, files.Names p place ∧ Replaced files after place text := by
  obtain ⟨-, place, names, free, rfl⟩ := write_eq_ok.1 written
  refine ⟨place, names, lookup?_put_self _ _ _ (names_ne_nil free), ?_, ?_⟩
  · exact fun other apart => lookup?_put_of_ne apart _
  · exact names_put free _

end FileMap

/-- A way to write files: a write replaces one file, or it fails and changes nothing. -/
structure Writer where
  write : Writing
  replaces : ∀ {files after : FileMap} {p : Path} {text : String},
    write files p text = (.ok (), after) →
      ∃ place, files.Names p place ∧ FileMap.Replaced files after place text
  keeps : ∀ {files after : FileMap} {p : Path} {text : String} {error : IoError},
    write files p text = (.error error, after) → after = files

/-- Writing to a file map. -/
def FileMap.writer : Writer where
  write := store
  replaces stored := replaced_of_write (store_eq_ok.1 stored)
  keeps failed := (store_eq_error.1 failed).2

end ModelExport
