/-
# ModelExport.Proofs.Document.Reflow — layout settings change the layout only

A program has its phrases before there is a layout (`text_eq_phrases`), so two
layouts of it have one fault or none, and the same phrases to spell. A phrase has
the same ink in every layout, because arrays are wrapped without touching what
stands in them; and if as many values go on a line it has the same steps. What the
steps write differs then in the margins of lines alone (`Layout.rows_render`).
-/
import ModelExport.Proofs.Document.Phrases
import ModelExport.Proofs.Forest.Builder
import ModelExport.Proofs.Language.Wrap

set_option autoImplicit false

namespace ModelExport

open Layout

namespace Phrase

variable (language : Language) {perLine other : Nat}

/-- The ink of a phrase is that of every layout. -/
theorem inkOf_steps (perLine other : Nat) (phrase : Phrase) :
    inkOf (phrase.steps language perLine) = inkOf (phrase.steps language other) := by
  cases phrase with
  | array name values =>
      exact (language.inkOf_array name values perLine).trans
        (language.inkOf_array name values other).symm
  | _ => rfl

theorem inkOf_allSteps (perLine other : Nat) (phrases : List Phrase) :
    inkOf (allSteps language perLine phrases) = inkOf (allSteps language other phrases) := by
  induction phrases with
  | nil => rfl
  | cons phrase rest ih =>
      rw [allSteps_cons, allSteps_cons, inkOf_append, inkOf_append, ih,
        inkOf_steps language perLine other phrase]

/-- With as many values on a line a phrase has the same steps. -/
theorem steps_congr (same : max perLine 1 = max other 1) :
    steps language perLine = steps language other := by
  funext phrase
  cases phrase with
  | array name values =>
      rw [steps, Language.array, Language.pieces_congr same values]
      rfl
  | _ => rfl

end Phrase

namespace Document

/-- **Layout settings change the layout only.** In two layouts of a program, with levels and lines
of any width, either the same fault is met, or two texts are made with the same ink; and if equally
many values go on a line, where none counts as one, the texts have equally many lines, each the same
but for the spaces that it starts with. -/
theorem texts_reflow (language : Language) (embed : Bool) (forest : Forest)
    (indentWidth indentWidth' valuesPerLine valuesPerLine' : Nat) :
    let document := Document.mk language indentWidth valuesPerLine embed forest
    let document' := Document.mk language indentWidth' valuesPerLine' embed forest
    (∃ failure, document.text = .error failure ∧ document'.text = .error failure) ∨
      ∃ text text', document.text = .ok text ∧ document'.text = .ok text' ∧
        ink text.toList = ink text'.toList ∧
        (max valuesPerLine 1 = max valuesPerLine' 1 →
          (rows text).length = (rows text').length ∧
          (rows text).map unindent = (rows text').map unindent) := by
  intro document document'
  have spelt := document.text_eq_phrases
  have spelt' := document'.text_eq_phrases
  cases asked : forest.phrases embed with
  | error failure =>
      rw [asked] at spelt spelt'
      exact .inl ⟨failure, spelt, spelt'⟩
  | ok phrases =>
      rw [asked] at spelt spelt'
      refine .inr ⟨render indentWidth (Phrase.allSteps language valuesPerLine phrases),
        render indentWidth' (Phrase.allSteps language valuesPerLine' phrases), spelt, spelt', ?_,
        fun same => ?_⟩
      · rw [ink_render, ink_render]
        exact Phrase.inkOf_allSteps language _ _ phrases
      · have steps : Phrase.allSteps language valuesPerLine phrases =
            Phrase.allSteps language valuesPerLine' phrases := by
          rw [Phrase.allSteps, Phrase.steps_congr language same, Phrase.allSteps]
        have lines := rows_render indentWidth indentWidth'
          (Phrase.allSteps language valuesPerLine phrases)
        have count := congrArg List.length lines
        rw [List.length_map, List.length_map] at count
        rw [← steps]
        exact ⟨count, lines⟩

/-- A class with an array of two numbers. -/
def pair : Forest := Forest.ofBuilders [.classBody "A", .array 0 "W" [.zero, .zero]]

theorem texts_reflow_pair :
    let document := Document.mk .java 4 0 false pair
    let document' := Document.mk .java 2 1 false pair
    ∃ text text', document.text = .ok text ∧ document'.text = .ok text' ∧ text ≠ text' ∧
      max 0 1 = max 1 1 ∧ ink text.toList = ink text'.toList ∧
      (rows text).map unindent = (rows text').map unindent := by
  intro document document'
  have distinct : document.text.toOption ≠ document'.text.toOption := by decide +kernel
  obtain ⟨failure, failed, failed'⟩ | ⟨text, text', made, made', inked, lined⟩ :=
    texts_reflow .java false pair 4 2 0 1
  · rw [show document.text = _ from failed, show document'.text = _ from failed'] at distinct
    exact absurd rfl distinct
  · refine ⟨text, text', made, made', ?_, rfl, inked, (lined rfl).2⟩
    rintro rfl
    rw [show document.text = _ from made, show document'.text = _ from made'] at distinct
    exact distinct rfl

end Document

end ModelExport
