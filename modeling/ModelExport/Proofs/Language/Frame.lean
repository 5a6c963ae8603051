/-
# ModelExport.Proofs.Language.Frame — every construct is framed by lines

Comments, constants and functions start and end with a line that is not blank, in
each language and whatever they hold.
-/
import ModelExport.Language
import ModelExport.Proofs.Layout.Frame
import ModelExport.Proofs.Text.Lines

set_option autoImplicit false

namespace ModelExport.Language

open Layout

/-! ## Comments -/

theorem opens_commentLine (content : List Char) : Opens (commentLine content) := by
  rw [commentLine]
  split
  · exact ⟨'/', ['/'], rfl, by decide⟩
  · exact Opens.append ⟨'/', ['/', ' '], rfl, by decide⟩ _

theorem closes_commentLine {content : List Char} (plain : '\n' ∉ content) :
    Closes (commentLine content) := by
  rw [commentLine]
  split
  · exact ⟨['/'], '/', rfl, by decide⟩
  · rename_i filled
    refine Closes.prepend ⟨content.dropLast, content.getLast filled, ?_, ?_⟩ _
    · rw [String.toList_ofList, List.dropLast_concat_getLast]
    · exact fun last => plain (last ▸ List.getLast_mem filled)

theorem begins_comment (text : String) : Begins (comment text) := by
  rw [comment]
  split
  · exact begins_line ⟨'/', ['/'], rfl, by decide⟩
  · rename_i filled
    have nonempty : Text.lines text.toList ≠ [] := Text.lines_ne_nil (by simpa using filled)
    cases read : Text.lines text.toList with
    | nil => exact absurd read nonempty
    | cons content others => exact (begins_line (opens_commentLine content)).append _

theorem ends_comment (text : String) : Ends (comment text) := by
  rw [comment]
  split
  · exact ends_line ⟨['/'], '/', rfl, by decide⟩
  · rename_i filled
    have nonempty : Text.lines text.toList ≠ [] := Text.lines_ne_nil (by simpa using filled)
    have plain := Text.newline_not_mem_lines (List.getLast_mem nonempty)
    rw [← List.dropLast_concat_getLast nonempty, List.flatMap_append, List.flatMap_singleton]
    exact (ends_line (closes_commentLine plain)).prepend _

/-! ## Constants -/

theorem opens_declaration (language : Language) (dimensions : Nat) (name : String) :
    Opens (language.declaration dimensions name) := by
  cases language with
  | java =>
      have front : Opens "public static final double" := ⟨'p', _, rfl, by decide⟩
      exact ((front.append _).append " ").append name
  | csharp =>
      have front : Opens "public static readonly double" := ⟨'p', _, rfl, by decide⟩
      exact ((front.append _).append " ").append name
  | javascript =>
      have front : Opens "var " := ⟨'v', _, rfl, by decide⟩
      exact front.append name

theorem begins_constant (language : Language) (dimensions : Nat) (name : String)
    (lines : List String) : Begins (language.constant dimensions name lines) := by
  have opened (rest : String) :
      Begins (line (language.declaration dimensions name ++ " = " ++ rest)) :=
    begins_line (((opens_declaration language dimensions name).append _).append _)
  rw [constant]
  split
  · exact opened _
  · simp only [List.append_assoc]
    exact (opened _).append _

theorem ends_constant (language : Language) (dimensions : Nat) (name : String)
    (lines : List String) : Ends (language.constant dimensions name lines) := by
  rw [constant]
  split
  · refine ends_line (Closes.prepend ⟨language.emptyInitializer.toList.dropLast, ';', ?_,
      by decide⟩ _)
    cases language <;> rfl
  · refine Ends.prepend (ends_line ⟨language.initializerEnd.toList.dropLast, ';', ?_, by decide⟩) _
    cases language <;> rfl

/-! ## Functions -/

theorem begins_openBlock {header : String} (opens : Opens header) : Begins (openBlock header) :=
  (begins_line (opens.append _)).append _

theorem begins_openBlockBelow {header : String} (opens : Opens header) :
    Begins (openBlockBelow header) := by
  rw [openBlockBelow, List.append_assoc]
  exact (begins_line opens).append _

theorem begins_openFunction (language : Language) (name : String) (type? : Option String) :
    Begins (language.openFunction name type?) := by
  have declared : Opens ("public static " ++ type?.getD "void" ++ " " ++
      language.functionName name ++ "()") :=
    Opens.append (Opens.append (Opens.append (Opens.append ⟨'p', _, rfl, by decide⟩ _) _) _) _
  cases language with
  | java => exact begins_openBlock declared
  | csharp => exact begins_openBlockBelow declared
  | javascript =>
      have front : Opens "function " := ⟨'f', _, rfl, by decide⟩
      exact begins_openBlock ((front.append _).append _)

theorem begins_openMain (language : Language) : Begins language.openMain := by
  cases language with
  | java => exact begins_openBlock ⟨'p', _, rfl, by decide⟩
  | csharp => exact begins_openBlockBelow ⟨'p', _, rfl, by decide⟩
  | javascript => exact begins_openBlock ⟨'f', _, rfl, by decide⟩

theorem ends_closeFunction : Ends closeFunction :=
  Ends.prepend (ends_line ⟨[], '\x7d', rfl, by decide⟩) _

end ModelExport.Language
