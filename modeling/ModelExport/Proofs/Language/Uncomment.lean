/-
# ModelExport.Proofs.Language.Uncomment — the text of a comment read back

What a comment writes is cut at its line feeds. Without the margin, the slashes and
the one space after them each line is a line of the text, in order, and nothing is
left over (`comment_reads_back`). An empty line is written without the space, so its
comment ends in the slashes; a line of the text that starts with a space keeps it,
because only one is taken off.
-/
import Mathlib.Data.List.Forall2
import ModelExport.Proofs.Language.Comment
import ModelExport.Proofs.Language.Initializer

set_option autoImplicit false

namespace ModelExport.Language

open Layout

/-- What a line of source text says as a comment: the line without its margin, the two slashes and
the space after them, if there is one. -/
def uncomment? (margin : Nat) (line : List Char) : Option (List Char) :=
  ((List.replicate margin ' ' ++ ['/', '/']).isPrefixOf? line).map fun rest =>
    ([' '].isPrefixOf? rest).getD rest

/-- A line of source text is the comment of a line of text, and has no space behind the slashes of
an empty one. -/
structure Carries (margin : Nat) (line content : List Char) : Prop where
  read : uncomment? margin line = some content
  unspaced : content = [] → line.getLast? ≠ some ' '

theorem uncomment?_append (margin : Nat) (rest : List Char) :
    uncomment? margin (List.replicate margin ' ' ++ ['/', '/'] ++ rest) =
      some (([' '].isPrefixOf? rest).getD rest) := by
  rw [uncomment?, List.isPrefixOf?_eq_some_iff_append_eq.2 rfl, Option.map_some]

theorem carries_commentLine (width level : Nat) (content : List Char) :
    Carries (indentation width level) (lineAt width level (commentLine content)) content := by
  by_cases empty : content = []
  · subst empty
    have spelt : lineAt width level (commentLine []) =
        List.replicate (indentation width level) ' ' ++ ['/', '/'] ++ [] := (List.append_nil _).symm
    rw [spelt]
    exact ⟨uncomment?_append _ [], fun _ => by simp⟩
  · have spelt : lineAt width level (commentLine content) =
        List.replicate (indentation width level) ' ' ++ ['/', '/'] ++ (' ' :: content) := by
      rw [lineAt, commentLine, if_neg empty]
      simp
    rw [spelt]
    refine ⟨?_, fun none => absurd none empty⟩
    rw [uncomment?_append]
    rfl

theorem oneLine_commentLine {content : List Char} (unbroken : '\n' ∉ content) :
    OneLine (commentLine content) where
  filled := commentLine_ne_empty content
  single := by
    rw [commentLine]
    split
    · decide
    · simp [unbroken]

theorem newline_not_mem_commentLines {text : String} {content : List Char}
    (member : content ∈ commentLines text) : '\n' ∉ content := by
  rw [commentLines] at member
  split at member
  · rw [List.mem_singleton.1 member]
    exact List.not_mem_nil
  · exact Text.newline_not_mem_lines member

/-- The rows of a comment are the lines of its text, each as a comment at the margin. -/
theorem rows_comment (width level : Nat) (text : String) :
    rows (written width level (comment text)) =
      (commentLines text).map (fun content => lineAt width level (commentLine content)) ++
        [[]] := by
  have whole : ∀ line ∈ (commentLines text).map commentLine, OneLine line :=
    List.forall_mem_map.2 fun content member =>
      oneLine_commentLine (newline_not_mem_commentLines member)
  have read := rows_lines whole width level ""
  rw [String.append_empty, List.flatMap_map, ← comment_eq, List.map_map] at read
  exact read

/-- **A comment loses no text.** From the start of a line on, at any level, it writes one row for
each line of its text and ends the last one; the rows say the lines of the text, in order, and the
empty text counts as one empty line. -/
theorem comment_reads_back (width level : Nat) (before text : String) :
    ∃ output contents emitted,
      Page.run width ⟨before, level, true⟩ (comment text) = ⟨before ++ output, level, true⟩ ∧
      Text.Lined text.toList contents ∧
      rows output = emitted ++ [[]] ∧
      List.Forall₂ (Carries (indentation width level)) emitted
        (if text = "" then [[]] else contents) := by
  refine ⟨written width level (comment text), Text.lines text.toList,
    (commentLines text).map fun content => lineAt width level (commentLine content),
    (leads_comment level text).run_eq width before, Text.lined_lines _,
    rows_comment width level text, ?_⟩
  rw [List.forall₂_map_left_iff, ← commentLines, List.forall₂_same]
  exact fun content _ => carries_commentLine width level content

end ModelExport.Language
