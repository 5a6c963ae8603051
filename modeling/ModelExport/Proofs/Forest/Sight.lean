/-
# ModelExport.Proofs.Forest.Sight — what the outline of a node depends on

The sight of a node is its construct, with the name for the handle that it holds,
and the same of its children. Nodes with one sight have one outline, be it in the
same program or in another (`member_eq_of_sight`): siblings, grandchildren and the
handles themselves play no part.
-/
import ModelExport.Proofs.Forest.Outline

set_option autoImplicit false

namespace ModelExport.Forest

/-- The name for the handle that a construct holds, if it holds one that has a name. -/
def linkedName? (forest : Forest) : Construct → Option String
  | .networkFunction _ _ weights => weights.bind forest.arrayName?
  | .call callee _ _ => forest.calleeName? callee
  | _ => none

/-- The construct of a node, with the name for the handle that it holds. -/
def label? (forest : Forest) (handle : Handle) : Option (Construct × Option String) :=
  (forest.construct? handle).map fun construct => (construct, forest.linkedName? construct)

/-- What can be seen from a node: its own label, and those of its direct children in order. -/
def sight (forest : Forest) (handle : Handle) :
    Option (Construct × Option String) × List (Option (Construct × Option String)) :=
  (forest.label? handle, (forest.children handle).map forest.label?)

variable {forest other : Forest} {handle twin : Handle}

theorem label?_eq_none (found : forest.construct? handle = none) : forest.label? handle = none := by
  rw [label?, found, Option.map_none]

theorem label?_eq_some {construct : Construct} (found : forest.construct? handle = some construct) :
    forest.label? handle = some (construct, forest.linkedName? construct) := by
  rw [label?, found, Option.map_some]

/-- Equal labels have equal constructs, and equal names for what these hold. -/
theorem construct?_of_label? (same : forest.label? handle = other.label? twin) :
    (forest.construct? handle = none ∧ other.construct? twin = none) ∨
      ∃ construct, forest.construct? handle = some construct ∧
        other.construct? twin = some construct ∧
        forest.linkedName? construct = other.linkedName? construct := by
  cases found : forest.construct? handle with
  | none =>
      rw [label?_eq_none found] at same
      exact .inl ⟨rfl, Option.map_eq_none_iff.1 same.symm⟩
  | some construct =>
      rw [label?_eq_some found] at same
      obtain ⟨construct', found', both⟩ := Option.map_eq_some_iff.1 same.symm
      obtain ⟨rfl, named⟩ := Prod.mk.inj both
      exact .inr ⟨construct', rfl, found', named.symm⟩

theorem statement_eq_of_label? (same : forest.label? handle = other.label? twin) :
    forest.statement handle = other.statement twin := by
  unfold statement
  obtain ⟨found, found'⟩ | ⟨construct, found, found', named⟩ := construct?_of_label? same
  · rw [found, found']
  · rw [found, found']
    cases construct with
    | call callee type binding =>
        have callees : forest.calleeName? callee = other.calleeName? callee := named
        simp only [callees]
    | _ => rfl

theorem mapM_statement_eq {children twins : List Handle}
    (same : children.map forest.label? = twins.map other.label?) :
    children.mapM forest.statement = twins.mapM other.statement := by
  induction children generalizing twins with
  | nil => rw [List.map_eq_nil_iff.1 same.symm, List.mapM_nil, List.mapM_nil]
  | cons child rest ih =>
      cases twins with
      | nil => cases same
      | cons twin others =>
          obtain ⟨first, later⟩ := List.cons.inj same
          rw [List.mapM_cons, List.mapM_cons, statement_eq_of_label? first, ih later]

/-- **The outline of a node depends on its sight only.** -/
theorem member_eq_of_sight (same : forest.sight handle = other.sight twin) :
    forest.member handle = other.member twin := by
  obtain ⟨own, below⟩ := Prod.mk.inj same
  have bodies : forest.body handle = other.body twin := by
    rw [body, body, mapM_statement_eq below]
  unfold member
  obtain ⟨found, found'⟩ | ⟨construct, found, found', named⟩ := construct?_of_label? own
  · rw [found, found']
  · rw [found, found']
    cases construct with
    | networkFunction name file weights =>
        have arrays : weights.bind forest.arrayName? = weights.bind other.arrayName? := named
        simp only [bodies, arrays]
    | function name => simp only [bodies]
    | trainingLoader file => simp only [bodies]
    | mainFunction => simp only [bodies]
    | _ => rfl

end ModelExport.Forest
