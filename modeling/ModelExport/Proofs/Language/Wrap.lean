/-
# ModelExport.Proofs.Language.Wrap — how an array is wrapped into lines

The values of an array are cut into pieces, one on a line, with a comma after each
but the last; within a line commas stand between them too. So wherever the cuts are,
there is one comma between any two values (`inkOf_array`): the number of values on a
line decides where lines end, and nothing else.
-/
import ModelExport.Proofs.Language.Level
import ModelExport.Proofs.Layout.Ink

set_option autoImplicit false

namespace ModelExport

open Layout

/-! ## Joining -/

section

variable {α : Type} (separator : List α)

theorem intercalate_append {front back : List (List α)} (filled : front ≠ []) (more : back ≠ []) :
    separator.intercalate (front ++ back) =
      separator.intercalate front ++ separator ++ separator.intercalate back := by
  induction front with
  | nil => exact absurd rfl filled
  | cons part rest ih =>
      by_cases last : rest = []
      · subst last
        rw [List.singleton_append, List.intercalate_singleton,
          List.intercalate_cons_of_ne_nil more]
      · rw [List.cons_append, List.intercalate_cons_of_ne_nil (List.append_ne_nil_of_left_ne_nil
          last back), ih last, List.intercalate_cons_of_ne_nil last]
        simp only [List.append_assoc]

/-- Parts joined one by one, and then joined with the same separator, are joined in one go. -/
theorem intercalate_flatten {parts : List (List (List α))} (filled : ∀ part ∈ parts, part ≠ []) :
    separator.intercalate (parts.map separator.intercalate) =
      separator.intercalate parts.flatten := by
  induction parts with
  | nil => rfl
  | cons part rest ih =>
      obtain ⟨first, later⟩ := List.forall_mem_cons.1 filled
      by_cases last : rest = []
      · subst last
        rw [List.flatten_singleton]
        exact List.intercalate_singleton
      · have more : rest.flatten ≠ [] := by
          obtain ⟨next, member⟩ := List.exists_mem_of_ne_nil rest last
          exact fun none => later next member (List.flatten_eq_nil_iff.1 none next member)
        rw [List.map_cons, List.intercalate_cons_of_ne_nil (by simpa using last), ih later,
          List.flatten_cons, intercalate_append separator first more]

end

theorem ink_intercalate (separator : List Char) (parts : List (List Char)) :
    ink (separator.intercalate parts) = (ink separator).intercalate (parts.map ink) := by
  induction parts with
  | nil => rfl
  | cons part rest ih =>
      by_cases last : rest = []
      · subst last
        simp
      · rw [List.intercalate_cons_of_ne_nil last, ink_append, ink_append, ih, List.map_cons,
          List.intercalate_cons_of_ne_nil (by simpa using last)]

/-! ## Pieces -/

namespace Language

variable {α : Type}

/-- Cutting a list into pieces loses nothing. -/
theorem flatten_pieces (length : Nat) (values : List α) :
    (pieces length values).flatten = values := by
  fun_induction pieces length values with
  | case1 => rfl
  | case2 value rest ih => rw [List.flatten_cons, ih, List.take_append_drop]

/-- No piece is empty. -/
theorem ne_nil_of_mem_pieces {length : Nat} {values piece : List α}
    (member : piece ∈ pieces length values) : piece ≠ [] := by
  fun_induction pieces length values with
  | case1 => cases member
  | case2 value rest ih =>
      rcases List.mem_cons.1 member with rfl | later
      · rw [Ne, List.take_eq_nil_iff]
        rintro (zero | empty)
        · omega
        · cases empty
      · exact ih later

/-- Zero values on a line count as one. -/
theorem pieces_congr {length other : Nat} (same : max length 1 = max other 1) (values : List α) :
    pieces length values = pieces other values := by
  fun_induction pieces length values with
  | case1 => rw [pieces]
  | case2 value rest ih => rw [ih, same, pieces]

theorem pieces_eq_nil {length : Nat} {values : List α} :
    pieces length values = [] ↔ values = [] := by
  cases values with
  | nil => rw [pieces]; exact iff_of_true rfl rfl
  | cons value rest => rw [pieces]; exact iff_of_false (List.cons_ne_nil _ _) (List.cons_ne_nil _ _)

/-! ## Ink -/

variable (language : Language)

theorem inkOf_commaLines (lines : List String) :
    inkOf (commaLines lines) = [','].intercalate (lines.map fun text => ink text.toList) := by
  fun_induction commaLines lines with
  | case1 => rfl
  | case2 last => simp
  | case3 text others unending ih =>
      have more : others.map (fun text => ink text.toList) ≠ [] := by simpa using unending
      rw [inkOf_append, ih, inkOf_line, List.map_cons, List.intercalate_cons_of_ne_nil more,
        String.toList_append, ink_append]
      rfl

/-- The ink of numbers: a comma between any two. -/
theorem ink_doubles (values : List Binary64) :
    ink (language.doubles values).toList =
      [','].intercalate (values.map fun x => ink (language.double x).toList) := by
  rw [doubles, String.toList_intercalate, ink_intercalate, List.map_map, List.map_map]
  rfl

theorem inkOf_constant (dimensions : Nat) (name : String) (lines : List String) :
    inkOf (language.constant dimensions name lines) =
      ink (language.declaration dimensions name ++ " = ").toList ++
        if lines = [] then ink language.emptyInitializer.toList
        else ink language.initializerStart.toList ++
          [','].intercalate (lines.map fun text => ink text.toList) ++
          ink language.initializerEnd.toList := by
  rw [constant]
  split
  · rw [inkOf_line, String.toList_append, ink_append]
  · simp only [inkOf_append, inkOf_line, inkOf_commaLines, String.toList_append, ink_append,
      List.append_assoc]
    rfl

/-- **Where the lines of an array end does not change its ink.** -/
theorem inkOf_array (name : String) (values : List Binary64) (perLine : Nat) :
    inkOf (language.array name values perLine) =
      ink (language.declaration 1 name ++ " = ").toList ++
        if values = [] then ink language.emptyInitializer.toList
        else ink language.initializerStart.toList ++ ink (language.doubles values).toList ++
          ink language.initializerEnd.toList := by
  have joined : ((pieces perLine values).map language.doubles).map (fun text => ink text.toList) =
      ((pieces perLine values).map (List.map fun x => ink (language.double x).toList)).map
        [','].intercalate := by
    rw [List.map_map, List.map_map]
    exact List.map_congr_left fun piece _ => language.ink_doubles piece
  have filled : ∀ part ∈ (pieces perLine values).map
      (List.map fun x => ink (language.double x).toList), part ≠ [] := by
    intro part member
    obtain ⟨piece, inside, rfl⟩ := List.mem_map.1 member
    exact fun none => ne_nil_of_mem_pieces inside (List.map_eq_nil_iff.1 none)
  rw [array, inkOf_constant, joined, intercalate_flatten _ filled, ← List.map_flatten,
    flatten_pieces, ← ink_doubles]
  simp only [List.map_eq_nil_iff, pieces_eq_nil]

end Language

end ModelExport
