/-
# ModelExport.Proofs.Layout.Frame — texts that start and end with a line of their own

A text is framed if its first line holds something and so does its last, which is
ended by a line feed. Between two framed texts a single line feed is therefore one
blank line, no more and no less. Steps frame what they write if they start by
writing and end with a line (`framed_written`).
-/
import ModelExport.Proofs.Layout.Level

set_option autoImplicit false

namespace ModelExport.Layout

/-- The text starts, and not with a line feed. -/
def Opens (text : String) : Prop := ∃ first rest, text.toList = first :: rest ∧ first ≠ '\n'

/-- The text ends, and not with a line feed. -/
def Closes (text : String) : Prop := ∃ front last, text.toList = front ++ [last] ∧ last ≠ '\n'

/-- Neither the first line nor the last is blank, and the last is ended. -/
def Framed (text : String) : Prop := Opens text ∧ ∃ body, text = body ++ "\n" ∧ Closes body

/-- The steps start by writing something that starts no new line. -/
def Begins (steps : List Step) : Prop := ∃ text rest, steps = .write text :: rest ∧ Opens text

/-- The steps end with a line that is not blank. -/
def Ends (steps : List Step) : Prop := ∃ front text, steps = front ++ line text ∧ Closes text

theorem Opens.append {text : String} (opens : Opens text) (more : String) :
    Opens (text ++ more) := by
  obtain ⟨first, rest, spelt, solid⟩ := opens
  exact ⟨first, rest ++ more.toList, by rw [String.toList_append, spelt, List.cons_append], solid⟩

theorem Closes.prepend {text : String} (closes : Closes text) (before : String) :
    Closes (before ++ text) := by
  obtain ⟨front, last, spelt, solid⟩ := closes
  exact ⟨before.toList ++ front, last, by rw [String.toList_append, spelt, List.append_assoc],
    solid⟩

theorem Opens.ne_empty {text : String} (opens : Opens text) : text ≠ "" := by
  rintro rfl
  obtain ⟨first, rest, spelt, -⟩ := opens
  simp at spelt

theorem Closes.ne_empty {text : String} (closes : Closes text) : text ≠ "" := by
  rintro rfl
  obtain ⟨front, last, spelt, -⟩ := closes
  simp at spelt

theorem Begins.append {steps : List Step} (begins : Begins steps) (more : List Step) :
    Begins (steps ++ more) := by
  obtain ⟨text, rest, rfl, opens⟩ := begins
  exact ⟨text, rest ++ more, rfl, opens⟩

theorem Ends.prepend {steps : List Step} (ends : Ends steps) (before : List Step) :
    Ends (before ++ steps) := by
  obtain ⟨front, text, rfl, closes⟩ := ends
  exact ⟨before ++ front, text, (List.append_assoc _ _ _).symm, closes⟩

theorem begins_line {text : String} (opens : Opens text) : Begins (line text) :=
  ⟨text, [.newline], rfl, opens⟩

theorem ends_line {text : String} (closes : Closes text) : Ends (line text) :=
  ⟨[], text, rfl, closes⟩

/-- The margin of a line does not make it blank. -/
theorem Opens.indented {text : String} (opens : Opens text) (count : Nat) :
    Opens (Page.spaces count ++ text) := by
  cases count with
  | zero => exact opens
  | succ count =>
      refine Opens.append ⟨' ', List.replicate count ' ', ?_, by decide⟩ text
      rw [Page.spaces, String.toList_ofList, List.replicate_succ]

/-- The first text stands at the margin of its level. -/
theorem written_write {text : String} (solid : text ≠ "") (rest : List Step) (width level : Nat) :
    ∃ back, written width level (.write text :: rest) =
      Page.spaces (indentation width level) ++ text ++ back := by
  have moved := Page.run_behind width (Page.spaces (indentation width level) ++ text)
    ⟨"", level, false⟩ rest
  rw [Page.behind, String.append_empty] at moved
  refine ⟨(Page.run width ⟨"", level, false⟩ rest).text, ?_⟩
  rw [written, Page.run_cons, Page.step, if_neg solid]
  simp only [if_true, String.empty_append, moved, Page.behind]

theorem Begins.opens_written {steps : List Step} (begins : Begins steps) (width level : Nat) :
    Opens (written width level steps) := by
  obtain ⟨text, rest, rfl, opens⟩ := begins
  obtain ⟨back, spelt⟩ := written_write opens.ne_empty rest width level
  rw [spelt]
  exact (opens.indented _).append _

theorem Ends.written_eq {steps : List Step} (ends : Ends steps) (width level : Nat) :
    ∃ body, written width level steps = body ++ "\n" ∧ Closes body := by
  obtain ⟨front, text, rfl, closes⟩ := ends
  rw [written, Page.run_append]
  generalize Page.run width ⟨"", level, true⟩ front = before
  refine ⟨before.text ++ (if before.atLineStart then
    Page.spaces (indentation width before.level) else "") ++ text, ?_, closes.prepend _⟩
  simp only [line, Page.run_cons, Page.run_nil, Page.step, if_neg closes.ne_empty]

theorem framed_written {steps : List Step} (begins : Begins steps) (ends : Ends steps)
    (width level : Nat) : Framed (written width level steps) :=
  ⟨begins.opens_written width level, ends.written_eq width level⟩

end ModelExport.Layout
