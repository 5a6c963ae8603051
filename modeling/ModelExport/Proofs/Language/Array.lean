/-
# ModelExport.Proofs.Language.Array — arrays read back

The values of an array stand between its first line and its last, so many on a line
and the rest on the last one (`length_pieces`). A comma ends every line but the last, so
that the lines put together, with any white space between them, list the spellings of
the values (`parts_intercalate`).
-/
import ModelExport.Proofs.Language.Double
import ModelExport.Proofs.Language.Initializer
import ModelExport.Proofs.Language.Wrap

set_option autoImplicit false

namespace ModelExport

open Layout
open Text (Solid IsBlank parts cells listed)

/-- Lines hold words, so many on a line. -/
structure Text.Wraps (lines words : List (List Char)) (perLine : Nat) : Prop where
  /-- There are as many lines as the words need. -/
  count : lines.length = (words.length + perLine - 1) / perLine
  /-- Every line but the last is full and ends in a comma. -/
  full : ∀ line ∈ lines.dropLast, ∃ held, line = held ++ [','] ∧ (cells held).length = perLine
  /-- The last line holds the words that remain, and ends in no comma. -/
  last : ∀ line ∈ lines.getLast?, line.getLast? ≠ some ',' ∧
    1 ≤ (cells line).length ∧ (cells line).length ≤ perLine ∧
      (lines.length - 1) * perLine + (cells line).length = words.length
  /-- The lines put together list the words. -/
  read : ∀ glue, IsBlank glue → cells (glue.intercalate lines) = words

namespace Language

/-! ## Pieces -/

section

variable {α : Type} (length : Nat) (values : List α)

/-- There are as many pieces as the values need. -/
theorem length_pieces :
    (pieces length values).length = (values.length + max length 1 - 1) / max length 1 := by
  have positive : 0 < max length 1 := by omega
  fun_induction pieces length values with
  | case1 => rw [List.length_nil, List.length_nil, Nat.div_eq_of_lt (by omega)]
  | case2 value rest ih =>
      have some : 0 < (value :: rest).length := Nat.succ_pos _
      rw [List.length_cons, ih, List.length_drop, ← Nat.add_div_right _ positive]
      obtain more | few := Nat.le_total (max length 1) (value :: rest).length
      · congr 1
        omega
      · rw [Nat.div_eq_of_lt_le (k := 1) (by omega) (by omega),
          Nat.div_eq_of_lt_le (k := 1) (by omega) (by omega)]

/-- Every piece but the last is full. -/
theorem length_of_mem_dropLast_pieces {piece : List α}
    (member : piece ∈ (pieces length values).dropLast) : piece.length = max length 1 := by
  fun_induction pieces length values with
  | case1 => cases member
  | case2 value rest ih =>
      by_cases last : pieces length ((value :: rest).drop (max length 1)) = []
      · rw [last] at member
        cases member
      · rw [List.dropLast_cons_of_ne_nil last] at member
        obtain rfl | later := List.mem_cons.1 member
        · have more : (value :: rest).drop (max length 1) ≠ [] := fun none =>
            last (pieces_eq_nil.2 none)
          rw [Ne, List.drop_eq_nil_iff] at more
          rw [List.length_take]
          omega
        · exact ih later

/-- The last piece has what the others leave. -/
theorem length_of_getLast?_pieces {piece : List α}
    (last : (pieces length values).getLast? = some piece) :
    1 ≤ piece.length ∧ piece.length ≤ max length 1 ∧
      ((pieces length values).length - 1) * max length 1 + piece.length = values.length := by
  fun_induction pieces length values with
  | case1 => cases last
  | case2 value rest ih =>
      by_cases only : pieces length ((value :: rest).drop (max length 1)) = []
      · have all := List.drop_eq_nil_iff.1 (pieces_eq_nil.1 only)
        rw [only, List.getLast?_singleton, List.take_of_length_le all] at last
        cases last
        rw [only]
        refine ⟨?_, all, ?_⟩ <;> simp
      · rw [List.getLast?_cons_of_ne_nil only] at last
        obtain ⟨some, few, total⟩ := ih last
        refine ⟨some, few, ?_⟩
        obtain ⟨others, count⟩ := Nat.exists_eq_add_one_of_ne_zero
          fun none => only (List.length_eq_zero_iff.1 none)
        rw [List.length_drop, count, Nat.add_sub_cancel] at total
        rw [List.length_cons, Nat.add_sub_cancel, count, Nat.add_one_mul]
        omega

end

theorem dropLast_punctuated (texts : List String) :
    (punctuated texts).dropLast = texts.dropLast.map (· ++ ",") := by
  fun_induction punctuated texts with
  | case1 => rfl
  | case2 last => rfl
  | case3 text others more ih =>
      have filled : others ≠ [] := fun none => more none
      rw [List.dropLast_cons_of_ne_nil fun none => filled (punctuated_eq_nil.1 none), ih,
        List.dropLast_cons_of_ne_nil filled, List.map_cons]

theorem getLast?_punctuated (texts : List String) :
    (punctuated texts).getLast? = texts.getLast? := by
  fun_induction punctuated texts with
  | case1 => rfl
  | case2 last => rfl
  | case3 text others more ih =>
      have filled : others ≠ [] := fun none => more none
      rw [List.getLast?_cons_of_ne_nil fun none => filled (punctuated_eq_nil.1 none), ih,
        List.getLast?_cons_of_ne_nil filled]

/-! ## Lines of values -/

variable (language : Language)

/-- The spelling of a number, character by character. -/
def word (x : Binary64) : List Char := (language.double x).toList

theorem solid_of_mem_words {values : List Binary64} :
    ∀ word ∈ values.map language.word, Solid word := by
  rw [List.forall_mem_map]
  exact fun x _ => language.solid_double x

theorem toList_doubles (values : List Binary64) :
    (language.doubles values).toList = listed (values.map language.word) := by
  rw [doubles, String.toList_intercalate, List.map_map]
  rfl

theorem lineAt_doubles (width level : Nat) (values : List Binary64) :
    lineAt width level (language.doubles values) =
      List.replicate (indentation width level) ' ' ++ listed (values.map language.word) ++ [] := by
  rw [lineAt, toList_doubles, List.append_nil]

theorem cells_lineAt_doubles (width level : Nat) (values : List Binary64) :
    cells (lineAt width level (language.doubles values)) = values.map language.word := by
  rw [lineAt_doubles]
  exact Text.cells_listed language.solid_of_mem_words (Text.isBlank_spaces _) Text.isBlank_nil

/-- **The lines of an array list its values**, with any white space before them and between
them. -/
theorem parts_intercalate (width level : Nat) {glue : List Char} (blank : IsBlank glue)
    {rows : List (List Binary64)} (some : rows ≠ []) (filled : ∀ row ∈ rows, row ≠ [])
    {before : List Char} (front : IsBlank before) :
    parts (before ++ glue.intercalate
        ((punctuated (rows.map language.doubles)).map (lineAt width level))) =
      rows.flatten.map language.word := by
  induction rows generalizing before with
  | nil => exact absurd rfl some
  | cons row rest ih =>
      obtain ⟨first, later⟩ := List.forall_mem_cons.1 filled
      have margin : IsBlank (before ++ List.replicate (indentation width level) ' ') :=
        front.append (Text.isBlank_spaces _)
      have own : parts (before ++ List.replicate (indentation width level) ' ' ++
          listed (row.map language.word) ++ []) = row.map language.word :=
        Text.parts_listed (fun none => first (List.map_eq_nil_iff.1 none))
          language.solid_of_mem_words margin Text.isBlank_nil
      by_cases last : rest = []
      · subst last
        rw [List.map_singleton, punctuated, List.map_singleton, List.intercalate_singleton,
          lineAt_doubles, List.flatten_singleton]
        simpa using own
      · have texts : rest.map language.doubles ≠ [] := fun none => last (List.map_eq_nil_iff.1 none)
        have more : (punctuated (rest.map language.doubles)).map (lineAt width level) ≠ [] :=
          fun none => texts (punctuated_eq_nil.1 (List.map_eq_nil_iff.1 none))
        have spelt : before ++ glue.intercalate
              ((punctuated ((row :: rest).map language.doubles)).map (lineAt width level)) =
            (before ++ List.replicate (indentation width level) ' ' ++
                listed (row.map language.word) ++ []) ++
              ',' :: (glue ++ glue.intercalate
                ((punctuated (rest.map language.doubles)).map (lineAt width level))) := by
          rw [List.map_cons, punctuated_cons texts, List.map_cons,
            List.intercalate_cons_of_ne_nil more]
          simp [lineAt, toList_doubles]
        rw [spelt, Text.parts_append, own, ih last later blank, List.flatten_cons, List.map_append]

theorem oneLine_doubles {values : List Binary64} (filled : values ≠ []) :
    OneLine (language.doubles values) where
  filled := by
    rw [Ne, ← String.toList_eq_nil_iff, toList_doubles]
    exact Text.listed_ne_nil (fun none => filled (List.map_eq_nil_iff.1 none))
      language.solid_of_mem_words
  single := by
    rw [toList_doubles]
    exact Text.newline_not_mem_listed language.solid_of_mem_words

/-- **The values of an array are read back from its lines.** -/
theorem wraps_pieces (width level perLine : Nat) (values : List Binary64) :
    Text.Wraps
      ((punctuated ((pieces perLine values).map language.doubles)).map (lineAt width level))
      (values.map language.word) (max perLine 1) where
  count := by
    rw [List.length_map, length_punctuated, List.length_map, length_pieces, List.length_map]
  full := by
    intro line member
    rw [← List.map_dropLast, dropLast_punctuated, ← List.map_dropLast, List.map_map,
      List.map_map] at member
    obtain ⟨piece, among, rfl⟩ := List.mem_map.1 member
    refine ⟨lineAt width level (language.doubles piece), ?_, ?_⟩
    · simp [lineAt]
    · rw [cells_lineAt_doubles, List.length_map, length_of_mem_dropLast_pieces _ _ among]
  last := by
    intro line final
    rw [List.getLast?_map, getLast?_punctuated, List.getLast?_map, Option.map_map] at final
    obtain ⟨piece, among, rfl⟩ := Option.map_eq_some_iff.1 final
    have filled := ne_nil_of_mem_pieces (List.mem_of_getLast? among)
    refine ⟨?_, ?_⟩
    · intro comma
      have empty := Text.nil_mem_parts comma
      rw [Function.comp_apply, lineAt_doubles, Text.parts_listed
        (fun none => filled (List.map_eq_nil_iff.1 none)) language.solid_of_mem_words
        (Text.isBlank_spaces _) Text.isBlank_nil] at empty
      exact (language.solid_of_mem_words _ empty).filled rfl
    · rw [Function.comp_apply, cells_lineAt_doubles, List.length_map, List.length_map,
        length_punctuated, List.length_map, List.length_map]
      exact length_of_getLast?_pieces perLine values among
  read := by
    intro glue blank
    by_cases none : values = []
    · subst none
      rw [pieces]
      exact Text.cells_blank Text.isBlank_nil
    · have some : pieces perLine values ≠ [] := fun empty => none (pieces_eq_nil.1 empty)
      have lined := language.parts_intercalate width level blank some
        (fun _ => ne_nil_of_mem_pieces) Text.isBlank_nil
      rw [flatten_pieces] at lined
      exact Text.cells_of_parts lined fun word member =>
        (language.solid_of_mem_words word member).filled

/-- **An array is read back exactly.** Its values stand between the first line of its declaration
and the last, so many on a line, where none counts as one, or on no line if there are none; the
lines put together list the spellings of the values, and a value that is no finite number is spelled
by the constant of the language for it. -/
theorem array_reads_back (language : Language) (width level perLine : Nat) {name : String}
    (single : '\n' ∉ name.toList) (values : List Binary64) :
    (∃ lines, language.Declares width level 1 name
        (written width level (language.array name values perLine)) lines ∧
      Text.Wraps lines (values.map language.word) (max perLine 1)) ∧
    ∀ x, x.isFinite = false → language.double x =
      if x.isNaN then language.nanName
      else if x.isNegative then language.negativeInfinityName
      else language.infinityName := by
  refine ⟨⟨_, ?_, language.wraps_pieces width (level + 1) perLine values⟩,
    fun x => language.double_of_not_isFinite⟩
  have whole : ∀ text ∈ (pieces perLine values).map language.doubles, OneLine text := by
    rw [List.forall_mem_map]
    exact fun piece member => language.oneLine_doubles (ne_nil_of_mem_pieces member)
  exact language.declares_constant single whole width level 1

/-- Positive infinity, the only infinity that is not negative. -/
def infinity : Binary64 := .ofMagnitude false Binary64.infinityBits

theorem array_reads_back_wrapped :
    '\n' ∉ "W".toList ∧ ∃ lines, Language.java.Declares 4 1 1 "W"
        (written 4 1 (Language.java.array "W" [.zero, infinity, .zero] 2)) lines ∧
      lines.length = 2 ∧
      cells (['\n'].intercalate lines) =
        ["0.0".toList, "Double.POSITIVE_INFINITY".toList, "0.0".toList] := by
  have single : '\n' ∉ "W".toList := by decide
  obtain ⟨⟨lines, declares, wraps⟩, -⟩ :=
    array_reads_back .java 4 1 2 single [.zero, infinity, .zero]
  refine ⟨single, lines, declares, wraps.count, ?_⟩
  have blank : IsBlank ['\n'] := fun c member => by rw [List.mem_singleton.1 member]; rfl
  rw [wraps.read ['\n'] blank]
  decide

end Language

end ModelExport
