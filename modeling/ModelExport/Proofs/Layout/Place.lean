/-
# ModelExport.Proofs.Layout.Place — where a part of a text stands

Steps that stand on their own write their text wherever on a page they are carried
out. So the text of a list of steps shows the text of each part that it places at a
level, from the start of a line on (`Places.shows`), and a part of a part is a part
(`Places.trans`).
-/
import ModelExport.Proofs.Layout.Level

set_option autoImplicit false

namespace ModelExport.Layout

/-- After the text a line starts. -/
def EndsLine (text : String) : Prop := text = "" ∨ ∃ front, text = front ++ "\n"

/-- The text has the part in it, from the start of a line on. -/
def Shows (text part : String) : Prop :=
  ∃ before after, text = before ++ part ++ after ∧ EndsLine before

theorem step_endsLine (width : Nat) {page : Page} (step : Step)
    (ends : page.atLineStart = true → EndsLine page.text) :
    (page.step width step).atLineStart = true → EndsLine (page.step width step).text := by
  cases step with
  | indent => exact ends
  | dedent => exact ends
  | write text =>
      rw [Page.step]
      split
      · exact ends
      · intro start
        cases start
  | newline => exact fun _ => .inr ⟨page.text, rfl⟩

/-- Whatever the steps are, a page says of itself whether it is at the start of a line. -/
theorem run_endsLine (width : Nat) {page : Page} (steps : List Step)
    (ends : page.atLineStart = true → EndsLine page.text) :
    (page.run width steps).atLineStart = true → EndsLine (page.run width steps).text := by
  induction steps generalizing page with
  | nil => exact ends
  | cons first rest ih => exact ih (step_endsLine width first ends)

theorem Leads.endsLine {before after : Nat} {steps : List Step} (leads : Leads before after steps)
    (width : Nat) : EndsLine (written width before steps) :=
  run_endsLine width steps (fun _ => .inl rfl) (leads width).2

/-- Begun at one level, the steps come to a part of theirs at the start of a line at another. -/
def Places (start level : Nat) (part whole : List Step) : Prop :=
  ∃ front back, whole = front ++ part ++ back ∧ Leads start level front

namespace Places

variable {start between level : Nat} {part middle whole : List Step}

theorem refl (level : Nat) (steps : List Step) : Places level level steps steps :=
  ⟨[], [], (List.append_nil _).symm, leads_nil level⟩

theorem trans (outer : Places start between middle whole)
    (inner : Places between level part middle) : Places start level part whole := by
  obtain ⟨front, back, rfl, leads⟩ := outer
  obtain ⟨first, last, rfl, later⟩ := inner
  exact ⟨front ++ first, last ++ back, by simp only [List.append_assoc], leads.append later⟩

theorem append (places : Places start level part whole) (more : List Step) :
    Places start level part (whole ++ more) := by
  obtain ⟨front, back, rfl, leads⟩ := places
  exact ⟨front, back ++ more, by simp only [List.append_assoc], leads⟩

theorem behind {front : List Step} (leads : Leads start between front)
    (places : Places between level part whole) : Places start level part (front ++ whole) :=
  trans ⟨front, [], (List.append_nil _).symm, leads⟩ places

/-- One of several parts, one after the other. -/
theorem flatMap {α : Type} {spell : α → List Step} {parts : List α}
    (each : ∀ part ∈ parts, Leads level level (spell part)) {part : α} (member : part ∈ parts) :
    Places level level (spell part) (parts.flatMap spell) := by
  obtain ⟨front, back, rfl⟩ := List.append_of_mem member
  refine ⟨front.flatMap spell, back.flatMap spell, ?_, ?_⟩
  · rw [List.flatMap_append, List.flatMap_cons, List.append_assoc]
  · exact Leads.flatMap front fun other inside => each other (List.mem_append_left _ inside)

/-- One of several parts with blank lines between them. -/
theorem intercalate {parts : List (List Step)} (each : ∀ part ∈ parts, Leads level level part)
    (member : part ∈ parts) : Places level level part ([Step.newline].intercalate parts) := by
  induction parts with
  | nil => cases member
  | cons first rest ih =>
      obtain ⟨own, others⟩ := List.forall_mem_cons.1 each
      cases rest with
      | nil =>
          rw [List.intercalate_singleton, List.mem_singleton.1 member]
          exact refl level first
      | cons next rest =>
          rw [List.intercalate_cons_cons]
          obtain rfl | later := List.mem_cons.1 member
          · exact ((refl level part).append _).append _
          · exact behind (own.append (leads_newline level)) (ih others later)

/-- **A text shows the parts that its steps place.** -/
theorem shows {after : Nat} (places : Places start level part whole)
    (leads : Leads level after part) (width : Nat) :
    Shows (written width start whole) (written width level part) := by
  obtain ⟨front, back, rfl, before⟩ := places
  obtain ⟨rest, spelt⟩ :=
    Page.exists_text_run width (Page.run width ⟨"", start, true⟩ (front ++ part)) back
  refine ⟨written width start front, rest, ?_, before.endsLine width⟩
  rw [← before.written_append leads, written, Page.run_append]
  exact spelt

end Places

end ModelExport.Layout
