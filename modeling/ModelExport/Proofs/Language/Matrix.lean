/-
# ModelExport.Proofs.Language.Matrix — matrices read back

A matrix has one line for each of its rows, with a comma behind it unless it is the
last. What stands between the brackets of a row lists the spellings of its values,
and a row without values is blank there; so the lines give back the table of the
spellings (`declaresMatrix_matrix`), and the text says which table it was
(`written_matrix_inj`).
-/
import ModelExport.Proofs.Language.Array

set_option autoImplicit false

namespace ModelExport.Language

open Layout
open Text (Solid IsBlank between? cells listed)

/-- What a row starts with. -/
def rowStart : Language → String
  | .java => "\x7b"
  | .csharp => "new double[] \x7b"
  | .javascript => "["

/-- What a row ends with. -/
def rowEnd : Language → String
  | .java => "\x7d"
  | .csharp => "\x7d"
  | .javascript => "]"

variable (language : Language)

/-- The words of a row, read between its brackets from a line that closes as told. -/
def readRow? (closing line : List Char) : Option (List (List Char)) :=
  (between? language.rowStart.toList (language.rowEnd.toList ++ closing) (unindent line)).map cells

/-- The words of all rows, read from lines that close with a comma, except the last. -/
def readRows? : List (List Char) → Option (List (List (List Char)))
  | [] => some []
  | [last] => (language.readRow? [] last).map fun row => [row]
  | line :: others =>
      (language.readRow? [','] line).bind fun row => (readRows? others).map (row :: ·)

/-- A text declares a constant of two dimensions whose lines give a table. -/
def DeclaresMatrix (width level : Nat) (name text : String) (table : List (List (List Char))) :
    Prop :=
  ∃ lines, language.Declares width level 2 name text lines ∧
    language.readRows? lines = some table

/-- A text declares one table only. -/
theorem DeclaresMatrix.unique {language : Language} {width level : Nat} {name text : String}
    {table other : List (List (List Char))}
    (declares : language.DeclaresMatrix width level name text table)
    (again : language.DeclaresMatrix width level name text other) : table = other := by
  obtain ⟨lines, declared, read⟩ := declares
  obtain ⟨same, declared', read'⟩ := again
  rw [declared.unique declared', read'] at read
  exact (Option.some.inj read).symm

/-- The spellings of the values of a row. -/
def words (values : List Binary64) : List (List Char) := values.map language.word

/-- The space inside the brackets of a row. -/
def rowGap : Language → List Char
  | .java => []
  | .csharp => [' ']
  | .javascript => []

theorem isBlank_rowGap : IsBlank language.rowGap := by
  cases language with
  | java => exact Text.isBlank_nil
  | csharp => exact Text.isBlank_spaces 1
  | javascript => exact Text.isBlank_nil

theorem toList_row (values : List Binary64) :
    (language.row values).toList = language.rowStart.toList ++
      (language.rowGap ++ listed (language.words values) ++ language.rowGap) ++
        language.rowEnd.toList := by
  unfold row
  cases language <;> simp [rowStart, rowEnd, rowGap, toList_doubles, words]

/-- The margin of a line is dropped if what stands behind it starts with no space. -/
theorem unindent_lineAt (width level : Nat) {text : String} {c : Char} {rest : List Char}
    (starts : text.toList = c :: rest) (solid : c ≠ ' ') :
    unindent (lineAt width level text) = text.toList := by
  have margin : ∀ space ∈ List.replicate (indentation width level) ' ', (space == ' ') = true :=
    fun space member => beq_iff_eq.2 (List.mem_replicate.1 member).2
  rw [unindent, lineAt, List.dropWhile_append_of_pos margin, starts,
    List.dropWhile_cons_of_neg (by simpa using solid)]

/-- A row starts with no space. -/
theorem row_starts (values : List Binary64) :
    ∃ c rest, (language.row values).toList = c :: rest ∧ c ≠ ' ' := by
  rw [toList_row]
  cases language with
  | java => exact ⟨_, _, rfl, by decide⟩
  | csharp => exact ⟨_, _, rfl, by decide⟩
  | javascript => exact ⟨_, _, rfl, by decide⟩

/-- **A row is read back from its line.** -/
theorem readRow?_lineAt (width level : Nat) (values : List Binary64) (closing : String) :
    language.readRow? closing.toList (lineAt width level (language.row values ++ closing)) =
      some (language.words values) := by
  obtain ⟨c, rest, starts, solid⟩ := language.row_starts values
  have closed : (language.row values ++ closing).toList = c :: (rest ++ closing.toList) := by
    rw [String.toList_append, starts, List.cons_append]
  have read : cells (language.rowGap ++ listed (language.words values) ++ language.rowGap) =
      language.words values :=
    Text.cells_listed language.solid_of_mem_words language.isBlank_rowGap language.isBlank_rowGap
  rw [readRow?, unindent_lineAt width level closed solid, String.toList_append, toList_row,
    List.append_assoc _ _ closing.toList, Text.between?_append, Option.map_some, read]

theorem readRows?_cons {others : List (List Char)} (more : others ≠ []) (line : List Char) :
    language.readRows? (line :: others) =
      (language.readRow? [','] line).bind fun row =>
        (language.readRows? others).map (row :: ·) := by
  rw [readRows?]
  exact more

/-- **A table is read back from the lines of its rows.** -/
theorem readRows?_lines (width level : Nat) (rows : List (List Binary64)) :
    language.readRows? ((punctuated (rows.map language.row)).map (lineAt width level)) =
      some (rows.map language.words) := by
  induction rows with
  | nil => rfl
  | cons row rest ih =>
      by_cases last : rest = []
      · subst last
        have read := language.readRow?_lineAt width level row ""
        rw [String.append_empty] at read
        exact congrArg (Option.map _) read
      · have more : rest.map language.row ≠ [] := fun none => last (List.map_eq_nil_iff.1 none)
        have lines : (punctuated (rest.map language.row)).map (lineAt width level) ≠ [] :=
          fun none => more (punctuated_eq_nil.1 (List.map_eq_nil_iff.1 none))
        have read := language.readRow?_lineAt width level row ","
        rw [List.map_cons, punctuated_cons more, List.map_cons, readRows?_cons _ lines, ih]
        exact congrArg (Option.bind · _) read

theorem oneLine_row (values : List Binary64) : OneLine (language.row values) where
  filled := by
    obtain ⟨c, rest, starts, -⟩ := language.row_starts values
    rw [Ne, ← String.toList_eq_nil_iff, starts]
    exact List.cons_ne_nil c rest
  single := by
    have front : '\n' ∉ language.rowStart.toList := by cases language <;> decide
    have gap : '\n' ∉ language.rowGap := by cases language <;> decide
    have back : '\n' ∉ language.rowEnd.toList := by cases language <;> decide
    have inside : '\n' ∉ listed (language.words values) :=
      Text.newline_not_mem_listed language.solid_of_mem_words
    simp only [toList_row, List.mem_append, front, gap, inside, back, or_self, not_false_iff]

/-- **A matrix declares the table of the spellings of its values.** -/
theorem declaresMatrix_matrix (width level : Nat) {name : String} (single : '\n' ∉ name.toList)
    (rows : List (List Binary64)) :
    language.DeclaresMatrix width level name (written width level (language.matrix name rows))
      (rows.map language.words) := by
  have whole : ∀ text ∈ rows.map language.row, OneLine text := by
    rw [List.forall_mem_map]
    exact fun values _ => language.oneLine_row values
  exact ⟨_, language.declares_constant single whole width level 2,
    language.readRows?_lines width (level + 1) rows⟩

/-- **Two matrices have one text exactly if their values are spelled alike, row by row.** -/
theorem written_matrix_inj (width level : Nat) {name : String} (single : '\n' ∉ name.toList)
    (rows others : List (List Binary64)) :
    written width level (language.matrix name rows) =
        written width level (language.matrix name others) ↔
      rows.map language.words = others.map language.words := by
  constructor
  · intro same
    have declares := language.declaresMatrix_matrix width level single others
    rw [← same] at declares
    exact (language.declaresMatrix_matrix width level single rows).unique declares
  · intro alike
    have spelt (table : List (List Binary64)) : table.map language.row =
        (table.map language.words).map fun row => .ofList (language.rowStart.toList ++
          (language.rowGap ++ listed row ++ language.rowGap) ++ language.rowEnd.toList) := by
      rw [List.map_map]
      refine List.map_congr_left fun values _ => ?_
      rw [Function.comp_apply, ← toList_row, String.ofList_toList]
    rw [matrix, matrix, spelt rows, spelt others, alike]

end ModelExport.Language
