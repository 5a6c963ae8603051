/-
# ModelExport.Proofs.Text.Blank — what trimming leaves

Trimming leaves nothing of a text exactly when all of it is white space
(`trim_eq_nil`), and of a text that starts and ends with something else it leaves
everything, whatever white space stands around it (`trim_around`).
-/
import Mathlib.Data.List.DropRight
import Mathlib.Data.List.TakeWhile
import ModelExport.Text.Blank

set_option autoImplicit false

namespace ModelExport.Text

/-- A text of white space only. -/
def IsBlank (text : List Char) : Prop := ∀ c ∈ text, isBlank c = true

theorem isBlank_nil : IsBlank [] := List.forall_mem_nil _

theorem IsBlank.append {front back : List Char} (before : IsBlank front) (after : IsBlank back) :
    IsBlank (front ++ back) := List.forall_mem_append.2 ⟨before, after⟩

theorem isBlank_spaces (count : Nat) : IsBlank (List.replicate count ' ') := by
  intro c member
  rw [(List.mem_replicate.1 member).2]
  rfl

theorem trimStart_append {front : List Char} (blank : IsBlank front) (text : List Char) :
    trimStart (front ++ text) = trimStart text :=
  List.dropWhile_append_of_pos blank

theorem trimEnd_append {back : List Char} (blank : IsBlank back) (text : List Char) :
    trimEnd (text ++ back) = trimEnd text := by
  rw [trimEnd, List.reverse_append,
    List.dropWhile_append_of_pos fun c member => blank c (List.mem_reverse.1 member), trimEnd]

theorem trimStart_cons {c : Char} (solid : isBlank c = false) (rest : List Char) :
    trimStart (c :: rest) = c :: rest := by
  rw [trimStart, List.dropWhile_cons_of_neg (by simp [solid])]

theorem trimEnd_concat {c : Char} (solid : isBlank c = false) (front : List Char) :
    trimEnd (front ++ [c]) = front ++ [c] :=
  List.rdropWhile_concat_neg isBlank front c (by simp [solid])

/-- **Trimming leaves nothing of white space, and something of everything else.** -/
theorem trim_eq_nil {text : List Char} : trim text = [] ↔ IsBlank text := by
  constructor
  · intro nothing
    rw [trim, trimEnd, List.reverse_eq_nil_iff, List.dropWhile_eq_nil_iff] at nothing
    have inner : trimStart text = [] := by
      cases started : trimStart text with
      | nil => rfl
      | cons c rest =>
          -- what is left starts with something else, and yet all of it is white space
          have solid := List.head?_dropWhile_not isBlank text
          rw [← trimStart, started, List.head?_cons] at solid
          have blank := nothing c (by rw [started]; simp)
          simp [blank] at solid
    rwa [trimStart, List.dropWhile_eq_nil_iff] at inner
  · intro blank
    have nothing := trimStart_append blank []
    rw [List.append_nil] at nothing
    rw [trim, nothing]
    rfl

/-- White space around a text that neither starts nor ends with it is dropped. -/
theorem trim_around {before word after : List Char} (front : IsBlank before)
    (back : IsBlank after) (filled : word ≠ []) (solid : ∀ c ∈ word, isBlank c = false) :
    trim (before ++ word ++ after) = word := by
  have started : trimStart (word ++ after) = word ++ after := by
    cases word with
    | nil => exact absurd rfl filled
    | cons c rest => exact trimStart_cons (solid c List.mem_cons_self) _
  have ended : trimEnd word = word := by
    have last := solid _ (List.getLast_mem filled)
    rw [← List.dropLast_concat_getLast filled]
    exact trimEnd_concat last _
  rw [trim, List.append_assoc, trimStart_append front, started, trimEnd_append back, ended]

end ModelExport.Text
