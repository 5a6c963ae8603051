/-
# ModelExport.Proofs.Text.Cells — values between commas

The cells of a text are what stands between its commas, without the white space
around it, and a blank text has none. Words that hold no commas and no white space
are read back from a list of them, whatever white space stands around it
(`cells_listed`), and a list goes on behind a comma (`parts_append`).
-/
import ModelExport.Proofs.Text.Blank

set_option autoImplicit false

namespace ModelExport.Text

/-- What stands between the commas of a text, without the white space around it. -/
def parts (text : List Char) : List (List Char) := (text.splitOn ',').map trim

/-- The values of a text; a blank one has none. -/
def cells (text : List Char) : List (List Char) := if trim text = [] then [] else parts text

/-- What stands between a front and a back, if a text has both. -/
def between? (front back text : List Char) : Option (List Char) :=
  let inside := (text.drop front.length).take (text.length - front.length - back.length)
  if text = front ++ inside ++ back then some inside else none

/-- A word that can stand between commas. -/
structure Solid (word : List Char) : Prop where
  filled : word ≠ []
  unparted : ',' ∉ word
  unblank : ∀ c ∈ word, isBlank c = false

/-- Words with a comma and a space between any two. -/
def listed (words : List (List Char)) : List Char := [',', ' '].intercalate words

theorem between?_append (front inside back : List Char) :
    between? front back (front ++ inside ++ back) = some inside := by
  have read : ((front ++ inside ++ back).drop front.length).take
      ((front ++ inside ++ back).length - front.length - back.length) = inside := by
    rw [List.append_assoc, List.drop_left]
    exact List.take_left' (by simp only [List.length_append]; omega)
  rw [between?, read, if_pos rfl]

/-- A comma parts the cells before it from those after it. -/
theorem parts_append (front back : List Char) :
    parts (front ++ ',' :: back) = parts front ++ parts back := by
  rw [parts, List.splitOn_append_cons_self, List.map_append]
  rfl

theorem parts_of_unparted {text : List Char} (unparted : ',' ∉ text) :
    parts text = [trim text] := by
  rw [parts, List.splitOn_eq_singleton unparted, List.map_singleton]

theorem IsBlank.unparted {text : List Char} (blank : IsBlank text) : ',' ∉ text := fun member =>
  absurd (blank ',' member) (by decide)

/-- One word, with white space around it. -/
theorem parts_word {before word after : List Char} (front : IsBlank before) (solid : Solid word)
    (back : IsBlank after) : parts (before ++ word ++ after) = [word] := by
  have unparted : ',' ∉ before ++ word ++ after := by
    simp only [List.mem_append, front.unparted, solid.unparted, back.unparted, or_self,
      not_false_iff]
  rw [parts_of_unparted unparted, trim_around front back solid.filled solid.unblank]

theorem parts_listed {words : List (List Char)} (filled : words ≠ [])
    (solid : ∀ word ∈ words, Solid word) {before after : List Char} (front : IsBlank before)
    (back : IsBlank after) : parts (before ++ listed words ++ after) = words := by
  induction words generalizing before with
  | nil => exact absurd rfl filled
  | cons word rest ih =>
      obtain ⟨first, later⟩ := List.forall_mem_cons.1 solid
      by_cases last : rest = []
      · subst last
        rw [listed, List.intercalate_singleton]
        exact parts_word front first back
      · have space : IsBlank [' '] := isBlank_spaces 1
        have spelt : before ++ listed (word :: rest) ++ after =
            (before ++ word ++ []) ++ ',' :: ([' '] ++ listed rest ++ after) := by
          rw [listed, List.intercalate_cons_of_ne_nil last]
          simp [listed]
        rw [spelt, parts_append, parts_word front first isBlank_nil, ih last later space]
        rfl

theorem cells_blank {text : List Char} (blank : IsBlank text) : cells text = [] :=
  if_pos (trim_eq_nil.2 blank)

/-- Parts of which none is empty are cells. -/
theorem cells_of_parts {text : List Char} {words : List (List Char)} (read : parts text = words)
    (filled : ∀ word ∈ words, word ≠ []) : cells text = words := by
  by_cases nothing : trim text = []
  · rw [parts_of_unparted (trim_eq_nil.1 nothing).unparted, nothing] at read
    exact absurd rfl (filled [] (read ▸ List.mem_singleton_self []))
  · rw [cells, if_neg nothing, read]

/-- **Words are read back from a list of them**, with any white space around it. -/
theorem cells_listed {words : List (List Char)} (solid : ∀ word ∈ words, Solid word)
    {before after : List Char} (front : IsBlank before) (back : IsBlank after) :
    cells (before ++ listed words ++ after) = words := by
  by_cases none : words = []
  · subst none
    exact cells_blank ((front.append isBlank_nil).append back)
  · exact cells_of_parts (parts_listed none solid front back) fun word member =>
      (solid word member).filled

theorem mem_listed {words : List (List Char)} {c : Char} (member : c ∈ listed words) :
    c = ',' ∨ c = ' ' ∨ ∃ word ∈ words, c ∈ word := by
  induction words with
  | nil => cases member
  | cons word rest ih =>
      by_cases last : rest = []
      · subst last
        rw [listed, List.intercalate_singleton] at member
        exact .inr (.inr ⟨word, List.mem_cons_self, member⟩)
      · rw [listed, List.intercalate_cons_of_ne_nil last] at member
        simp only [List.mem_append, List.mem_cons, List.not_mem_nil, or_false] at member
        obtain (inside | comma | space) | later := member
        · exact .inr (.inr ⟨word, List.mem_cons_self, inside⟩)
        · exact .inl comma
        · exact .inr (.inl space)
        · obtain comma | space | ⟨other, among, inside⟩ := ih later
          · exact .inl comma
          · exact .inr (.inl space)
          · exact .inr (.inr ⟨other, List.mem_cons_of_mem _ among, inside⟩)

/-- A list of words stands on one line. -/
theorem newline_not_mem_listed {words : List (List Char)} (solid : ∀ word ∈ words, Solid word) :
    '\n' ∉ listed words := by
  intro member
  obtain comma | space | ⟨word, among, inside⟩ := mem_listed member
  · exact absurd comma (by decide)
  · exact absurd space (by decide)
  · exact absurd ((solid word among).unblank '\n' inside) (by decide)

theorem listed_ne_nil {words : List (List Char)} (filled : words ≠ [])
    (solid : ∀ word ∈ words, Solid word) : listed words ≠ [] := by
  intro nothing
  have read := cells_listed solid isBlank_nil isBlank_nil
  rw [nothing] at read
  exact filled (read.symm.trans (cells_blank isBlank_nil))

/-- A text that ends in a comma has an empty part at its end. -/
theorem nil_mem_parts {text : List Char} (comma : text.getLast? = some ',') : [] ∈ parts text := by
  obtain ⟨front, rfl⟩ := List.getLast?_eq_some_iff.1 comma
  have last : [] ∈ parts [] := List.mem_singleton_self []
  rw [parts_append]
  exact List.mem_append_right _ last

end ModelExport.Text
