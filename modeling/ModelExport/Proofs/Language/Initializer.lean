/-
# ModelExport.Proofs.Language.Initializer — the lines of a constant

A constant is declared on one line if it has no values, and otherwise by an opening
line, lines of values with a comma behind each but the last, and a closing line
(`declares_constant`). A text declares its lines in one way only (`Declares.unique`),
so whatever is read from those lines is read from the text.
-/
import ModelExport.Proofs.Language.Level
import ModelExport.Proofs.Layout.Ink

set_option autoImplicit false

namespace ModelExport

open Layout

namespace Layout

/-- A line at a level, without its ending. -/
def lineAt (width level : Nat) (text : String) : List Char :=
  List.replicate (indentation width level) ' ' ++ text.toList

/-- A text that makes one line of a page, and not a blank one. -/
structure OneLine (text : String) : Prop where
  filled : text ≠ ""
  single : '\n' ∉ text.toList

theorem OneLine.append {front : String} (whole : OneLine front) {back : String}
    (single : '\n' ∉ back.toList) : OneLine (front ++ back) where
  filled := by simp [whole.filled]
  single := by simp [whole.single, single]

theorem rows_lineAt {text : String} (whole : OneLine text) (width level : Nat) (rest : String) :
    rows (written width level (line text) ++ rest) = lineAt width level text :: rows rest := by
  have unbroken : '\n' ∉ lineAt width level text := by
    intro member
    obtain spaces | inside := List.mem_append.1 member
    · cases (List.mem_replicate.1 spaces).2
    · exact whole.single inside
  have spelt : (written width level (line text) ++ rest).toList =
      lineAt width level text ++ '\n' :: rest.toList := by
    simp [written_line whole.filled, lineAt, Page.spaces]
  rw [rows, spelt, List.splitOn_append_cons_self_of_not_mem unbroken]
  rfl

/-- Lines one after the other are the rows of what they write. -/
theorem rows_lines {texts : List String} (whole : ∀ text ∈ texts, OneLine text)
    (width level : Nat) (rest : String) :
    rows (written width level (texts.flatMap line) ++ rest) =
      texts.map (lineAt width level) ++ rows rest := by
  induction texts with
  | nil =>
      have nothing : written width level [] = "" := rfl
      rw [List.flatMap_nil, nothing, String.empty_append]
      rfl
  | cons text others ih =>
      obtain ⟨first, later⟩ := List.forall_mem_cons.1 whole
      rw [List.flatMap_cons, (leads_line level text).written_append
        (Leads.flatMap others fun other _ => leads_line level other), String.append_assoc,
        rows_lineAt first, ih later]
      rfl

end Layout

namespace Language

/-- Texts with a comma behind each but the last. -/
def punctuated : List String → List String
  | [] => []
  | [last] => [last]
  | text :: others => (text ++ ",") :: punctuated others

theorem punctuated_cons {others : List String} (more : others ≠ []) (text : String) :
    punctuated (text :: others) = (text ++ ",") :: punctuated others := by
  rw [punctuated]
  exact more

theorem commaLines_eq (texts : List String) :
    commaLines texts = (punctuated texts).flatMap line := by
  fun_induction commaLines texts with
  | case1 => rfl
  | case2 last => exact (List.append_nil _).symm
  | case3 text others more ih => rw [punctuated, List.flatMap_cons, ih]; exact more

@[simp] theorem length_punctuated (texts : List String) :
    (punctuated texts).length = texts.length := by
  fun_induction punctuated texts with
  | case1 => rfl
  | case2 last => rfl
  | case3 text others more ih => rw [List.length_cons, ih, List.length_cons]

theorem punctuated_eq_nil {texts : List String} : punctuated texts = [] ↔ texts = [] := by
  rw [← List.length_eq_zero_iff, length_punctuated, List.length_eq_zero_iff]

theorem oneLine_of_mem_punctuated {texts : List String} (whole : ∀ text ∈ texts, OneLine text) :
    ∀ text ∈ punctuated texts, OneLine text := by
  fun_induction punctuated texts with
  | case1 => exact whole
  | case2 last => exact whole
  | case3 text others more ih =>
      obtain ⟨first, later⟩ := List.forall_mem_cons.1 whole
      exact List.forall_mem_cons.2 ⟨first.append (by decide), ih later⟩

variable (language : Language)

/-- A text declares a constant with the given lines of values: an empty initializer on one line if
there are none, and an opening and a closing line around them otherwise. -/
def Declares (width level dimensions : Nat) (name text : String) (lines : List (List Char)) :
    Prop :=
  let front := language.declaration dimensions name ++ " = "
  rows text =
    if lines = [] then [lineAt width level (front ++ language.emptyInitializer), []]
    else
      lineAt width level (front ++ language.initializerStart) ::
        (lines ++ [lineAt width level language.initializerEnd, []])

variable {language} {width level dimensions : Nat} {name : String}

/-- The lines of values of a constant are what stands between the first line and the last. -/
theorem Declares.lines_eq {text : String} {lines : List (List Char)}
    (declares : language.Declares width level dimensions name text lines) :
    lines = ((rows text).drop 1).dropLast.dropLast := by
  rw [show rows text = _ from declares]
  split
  · assumption
  · rw [List.drop_succ_cons, List.drop_zero, List.dropLast_append_of_ne_nil (List.cons_ne_nil _ _)]
    exact List.dropLast_concat.symm

/-- **A text declares its lines in one way only.** -/
theorem Declares.unique {text : String} {lines others : List (List Char)}
    (declares : language.Declares width level dimensions name text lines)
    (again : language.Declares width level dimensions name text others) : lines = others :=
  declares.lines_eq.trans again.lines_eq.symm

theorem oneLine_declaration (language : Language) (single : '\n' ∉ name.toList)
    (dimensions : Nat) : OneLine (language.declaration dimensions name ++ " = ") := by
  have named (front : String) (filled : front ≠ "") (plain : '\n' ∉ front.toList) :
      OneLine (front ++ name ++ " = ") :=
    OneLine.append (OneLine.append ⟨filled, plain⟩ single) (by decide)
  cases language with
  | java => exact named _ (by simp) (by simp)
  | csharp => exact named _ (by simp) (by simp)
  | javascript => exact named "var " (by decide) (by decide)

/-- **A constant is declared with its lines of values, a level further in.** -/
theorem declares_constant (language : Language) (single : '\n' ∉ name.toList)
    {texts : List String} (whole : ∀ text ∈ texts, OneLine text)
    (width level dimensions : Nat) :
    language.Declares width level dimensions name
      (written width level (language.constant dimensions name texts))
      ((punctuated texts).map (lineAt width (level + 1))) := by
  have front := oneLine_declaration language single dimensions
  have alone {text : String} (one : OneLine text) :
      rows (written width level (line text)) = [lineAt width level text, []] := by
    have read := rows_lineAt one width level ""
    rwa [String.append_empty] at read
  have lines : (punctuated texts).map (lineAt width (level + 1)) = [] ↔ texts = [] := by
    rw [List.map_eq_nil_iff, punctuated_eq_nil]
  by_cases empty : texts = []
  · rw [Declares, constant, if_pos empty, if_pos (lines.2 empty)]
    exact alone (front.append (by cases language <;> decide))
  · rw [Declares, constant, if_neg empty, if_neg fun none => empty (lines.1 none), commaLines_eq]
    have opening : OneLine (language.declaration dimensions name ++ " = " ++
        language.initializerStart) := front.append (by cases language <;> decide)
    have closing : OneLine language.initializerEnd := by
      cases language <;> exact ⟨by decide, by decide⟩
    have opened := (leads_line level (language.declaration dimensions name ++ " = " ++
      language.initializerStart)).append (leads_indent level)
    have filled : Leads (level + 1) (level + 1) ((punctuated texts).flatMap line) :=
      Leads.flatMap _ fun text _ => leads_line (level + 1) text
    have listed := (opened.append filled).append (leads_dedent level)
    rw [listed.written_append (leads_line level _),
      (opened.append filled).written_append (leads_dedent level), opened.written_append filled,
      (leads_line level _).written_append (leads_indent level)]
    have steady : written width level [.indent] = "" ∧ written width (level + 1) [.dedent] = "" :=
      ⟨rfl, rfl⟩
    rw [steady.1, steady.2, String.append_empty, String.append_empty, String.append_assoc,
      rows_lineAt opening, rows_lines (oneLine_of_mem_punctuated whole), alone closing]

end Language

end ModelExport
