/-
# ModelExport.Proofs.Layout.Depth — the level along a list of steps

The level of a page depends on nothing but the indents and dedents so far
(`Page.level_run`). A dedent at the outermost level does nothing; to see that steps
never come to one it is enough to look at their ends: begun one level further in,
they must end one level further in, because a dedent that did nothing would have
brought the two runs together (`Leads.level_pos`).
-/
import ModelExport.Proofs.Layout.Level

set_option autoImplicit false

namespace ModelExport.Layout

/-- The level after a step. -/
def Step.levelFrom (level : Nat) : Step → Nat
  | .indent => level + 1
  | .dedent => level - 1
  | _ => level

/-- The level after steps: the indents less the dedents, where each dedent stops at the outermost
level. -/
def levelAfter (level : Nat) (steps : List Step) : Nat := steps.foldl Step.levelFrom level

@[simp] theorem levelAfter_nil (level : Nat) : levelAfter level [] = level := rfl

@[simp] theorem levelAfter_cons (level : Nat) (first : Step) (rest : List Step) :
    levelAfter level (first :: rest) = levelAfter (first.levelFrom level) rest := rfl

@[simp] theorem levelAfter_append (level : Nat) (front back : List Step) :
    levelAfter level (front ++ back) = levelAfter (levelAfter level front) back :=
  List.foldl_append

theorem Page.level_step (width : Nat) (page : Page) (step : Step) :
    (page.step width step).level = step.levelFrom page.level := by
  cases step with
  | write text =>
      rw [Page.step]
      split <;> rfl
  | _ => rfl

theorem Page.level_run (width : Nat) (page : Page) (steps : List Step) :
    (page.run width steps).level = levelAfter page.level steps := by
  induction steps generalizing page with
  | nil => rfl
  | cons first rest ih => rw [Page.run_cons, ih, Page.level_step, levelAfter_cons]

theorem Leads.levelAfter_eq {before after : Nat} {steps : List Step}
    (leads : Leads before after steps) : levelAfter before steps = after :=
  (Page.level_run 0 ⟨"", before, true⟩ steps).symm.trans (leads 0).1

/-- Steps do not lead two runs further apart that are one level apart at most. -/
theorem levelAfter_le_succ {low high : Nat} (close : high ≤ low + 1) (steps : List Step) :
    levelAfter high steps ≤ levelAfter low steps + 1 := by
  induction steps generalizing low high with
  | nil => exact close
  | cons first rest ih =>
      refine ih ?_
      cases first <;> simp only [Step.levelFrom] <;> omega

/-- **Steps that lead from level to level, also one level further in, never dedent at the outermost
level.** -/
theorem Leads.level_pos {before after : Nat} {steps : List Step} (own : Leads before after steps)
    (raised : Leads (before + 1) (after + 1) steps) {front back : List Step}
    (reached : steps = front ++ .dedent :: back) : 0 < levelAfter before front := by
  have low := own.levelAfter_eq
  have high := raised.levelAfter_eq
  rw [reached, levelAfter_append, levelAfter_cons] at low high
  have close := levelAfter_le_succ (Nat.le_refl (before + 1)) front
  refine Nat.pos_of_ne_zero fun outermost => ?_
  have met : Step.levelFrom (levelAfter (before + 1) front) .dedent =
      Step.levelFrom (levelAfter before front) .dedent := by
    simp only [Step.levelFrom]
    omega
  rw [met, low] at high
  omega

end ModelExport.Layout
