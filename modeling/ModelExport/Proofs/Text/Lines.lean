/-
# ModelExport.Proofs.Text.Lines — what lines hold

A line holds no line feed, and only the empty text has no line. `Lined` says how a
text is put together from its lines and their endings; the lines of a text are the
only ones that it is put together from (`lined_iff`).
-/
import ModelExport.Text.Lines

set_option autoImplicit false

namespace ModelExport.Text

theorem newline_not_mem_lines {text line : List Char} (member : line ∈ lines text) :
    '\n' ∉ line := by
  induction text using lines.induct generalizing line with
  | case1 => simp [lines] at member
  | case2 rest ih =>
      rcases List.mem_cons.1 member with rfl | later
      · exact List.not_mem_nil
      · exact ih later
  | case3 rest ih =>
      rcases List.mem_cons.1 member with rfl | later
      · exact List.not_mem_nil
      · exact ih later
  | case4 c rest plain paired ended ih =>
      rw [lines, ended] at member
      · rw [List.mem_singleton.1 member]
        simpa using Ne.symm plain
      all_goals assumption
  | case5 c rest plain paired first others read ih =>
      rw [lines, read] at member
      · rcases List.mem_cons.1 member with rfl | later
        · have inside : '\n' ∉ first := ih (by rw [read]; exact List.mem_cons_self)
          simpa [inside] using Ne.symm plain
        · exact ih (by rw [read]; exact List.mem_cons_of_mem _ later)
      all_goals assumption

theorem lines_ne_nil {text : List Char} (filled : text ≠ []) : lines text ≠ [] := by
  cases text using lines.fun_cases <;> simp_all [lines]

/-! ## Lines and their endings -/

/-- A text is made of lines: each ends with a line feed or with a carriage return and a line feed,
only the last may be left open, and an open line is not empty. A line that ends with a line feed
alone does not itself end in a carriage return. -/
inductive Lined : List Char → List (List Char) → Prop where
  | nil : Lined [] []
  | unended {line : List Char} (filled : line ≠ []) (unbroken : '\n' ∉ line) : Lined line [line]
  | fed (line : List Char) {rest : List Char} {others : List (List Char)} (unbroken : '\n' ∉ line)
      (plain : line.getLast? ≠ some '\r') (later : Lined rest others) :
      Lined (line ++ '\n' :: rest) (line :: others)
  | returned (line : List Char) {rest : List Char} {others : List (List Char)}
      (unbroken : '\n' ∉ line) (later : Lined rest others) :
      Lined (line ++ '\r' :: '\n' :: rest) (line :: others)

/-- A character that is no ending belongs to the first line. -/
theorem lines_cons {c : Char} {rest first : List Char} {others : List (List Char)}
    (unbroken : c ≠ '\n') (unpaired : ∀ back, c = '\r' → rest = '\n' :: back → False)
    (read : lines rest = first :: others) : lines (c :: rest) = (c :: first) :: others := by
  rw [lines, read]
  · exact fun fed => unbroken fed
  · exact unpaired

theorem lines_unbroken {line : List Char} (filled : line ≠ []) (unbroken : '\n' ∉ line) :
    lines line = [line] := by
  induction line with
  | nil => exact absurd rfl filled
  | cons c line ih =>
      have other : c ≠ '\n' := (List.ne_of_not_mem_cons unbroken).symm
      have later : '\n' ∉ line := List.not_mem_of_not_mem_cons unbroken
      have unpaired : ∀ back, c = '\r' → line = '\n' :: back → False := by
        rintro back - rfl
        exact later List.mem_cons_self
      by_cases last : line = []
      · subst last
        rw [lines]
        · rfl
        · exact fun fed => other fed
        · exact unpaired
      · exact lines_cons other unpaired (ih last later)

theorem lines_fed {line : List Char} (unbroken : '\n' ∉ line)
    (plain : line.getLast? ≠ some '\r') (rest : List Char) :
    lines (line ++ '\n' :: rest) = line :: lines rest := by
  induction line with
  | nil => rfl
  | cons c line ih =>
      have other : c ≠ '\n' := (List.ne_of_not_mem_cons unbroken).symm
      have later : '\n' ∉ line := List.not_mem_of_not_mem_cons unbroken
      cases line with
      | nil =>
          refine lines_cons other ?_ rfl
          rintro back rfl -
          exact plain rfl
      | cons next line =>
          refine lines_cons other ?_ (ih later (by rwa [List.getLast?_cons_cons] at plain))
          rintro back - fed
          exact later (by rw [(List.cons.inj fed).1]; exact List.mem_cons_self)

theorem lines_returned {line : List Char} (unbroken : '\n' ∉ line) (rest : List Char) :
    lines (line ++ '\r' :: '\n' :: rest) = line :: lines rest := by
  induction line with
  | nil => rfl
  | cons c line ih =>
      have other : c ≠ '\n' := (List.ne_of_not_mem_cons unbroken).symm
      have later : '\n' ∉ line := List.not_mem_of_not_mem_cons unbroken
      refine lines_cons other ?_ (ih later)
      rintro back - fed
      cases line with
      | nil => cases (List.cons.inj fed).1
      | cons next line => exact later (by rw [(List.cons.inj fed).1]; exact List.mem_cons_self)

/-- One more character on the first line. -/
theorem Lined.cons {c : Char} {rest first : List Char} {others : List (List Char)}
    (lined : Lined rest (first :: others)) (unbroken : c ≠ '\n')
    (unpaired : ∀ back, c = '\r' → rest = '\n' :: back → False) :
    Lined (c :: rest) ((c :: first) :: others) := by
  have longer {line : List Char} (free : '\n' ∉ line) : '\n' ∉ c :: line :=
    List.not_mem_cons_of_ne_of_not_mem unbroken.symm free
  cases lined with
  | unended filled free => exact .unended (List.cons_ne_nil _ _) (longer free)
  | fed _ free plain later =>
      refine .fed (c :: first) (longer free) ?_ later
      cases first with
      | nil => exact fun last => unpaired _ (Option.some.inj last) rfl
      | cons next first => rwa [List.getLast?_cons_cons]
  | returned _ free later => exact .returned (c :: first) (longer free) later

theorem lined_lines (text : List Char) : Lined text (lines text) := by
  induction text using lines.induct with
  | case1 => exact .nil
  | case2 rest ih => exact .fed [] List.not_mem_nil nofun ih
  | case3 rest ih => exact .returned [] List.not_mem_nil ih
  | case4 c rest plain paired ended ih =>
      obtain rfl : rest = [] := Decidable.byContradiction fun filled => lines_ne_nil filled ended
      have alone : '\n' ∉ [c] :=
        List.not_mem_cons_of_ne_of_not_mem (Ne.symm plain) List.not_mem_nil
      rw [lines_unbroken (List.cons_ne_nil c []) alone]
      exact .unended (List.cons_ne_nil c []) alone
  | case5 c rest plain paired first others read ih =>
      rw [lines_cons plain paired read]
      rw [read] at ih
      exact ih.cons plain paired

/-- **A text is made of its lines, and of no others.** -/
theorem lined_iff {text : List Char} {contents : List (List Char)} :
    Lined text contents ↔ lines text = contents := by
  constructor
  · intro lined
    induction lined with
    | nil => rfl
    | unended filled unbroken => exact lines_unbroken filled unbroken
    | fed line unbroken plain later ih => rw [lines_fed unbroken plain, ih]
    | returned line unbroken later ih => rw [lines_returned unbroken, ih]
  · rintro rfl
    exact lined_lines text

end ModelExport.Text
