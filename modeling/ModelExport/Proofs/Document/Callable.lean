/-
# ModelExport.Proofs.Document.Callable — programs whose calls all find a function

The only fault of spelling is a call that points at a node that is no function. In
a callable program there is none (`dangling_of_callable`), so it is always spelled
(`text_of_callable`). A callable program after another leaves both callable.
-/
import ModelExport.Proofs.Document.Fault
import ModelExport.Proofs.Forest.Append

set_option autoImplicit false

namespace ModelExport

/-- Every call finds the function that it invokes. -/
def Forest.Callable (forest : Forest) : Prop :=
  ∀ handle callee type binding,
    forest.construct? handle = some (.call callee type binding) →
      ∃ name, forest.calleeName? callee = some name

namespace Forest

theorem empty_callable : Callable empty := by
  intro handle callee type binding found
  simp [construct?, empty] at found

theorem append_callable {forest other : Forest} (first : forest.Callable)
    (second : other.Callable) : (forest.append other).Callable := by
  intro handle callee type binding found
  cases callee with
  | named name => exact ⟨name, rfl⟩
  | node target =>
      rw [construct?_append] at found
      split at found
      · obtain ⟨name, named⟩ := first handle _ type binding found
        exact ⟨name, functionName?_append_left named other⟩
      · obtain ⟨construct, there, raised⟩ := Option.map_eq_some_iff.1 found
        -- only a call is raised to a call, and its target with it
        cases construct with
        | call callee type' binding' =>
            cases callee with
            | named name => cases raised
            | node target' =>
                obtain ⟨name, named⟩ := second _ _ _ _ there
                cases raised
                exact ⟨name, (functionName?_append_right forest other target').trans named⟩
        | _ => cases raised

/-- In a callable program no call dangles. -/
theorem dangling_of_callable {forest : Forest} (callable : forest.Callable) :
    forest.dangling = [] := by
  by_contra faulty
  obtain ⟨call, binding, -, target, type, found, misses⟩ := dangling_ne_nil_iff.1 faulty
  obtain ⟨name, named⟩ := callable call (.node target) type binding found
  obtain ⟨construct, pointed, named⟩ := Option.bind_eq_some_iff.1 named
  have aimless := misses construct pointed
  rw [← construct.isSome_functionName?, named] at aimless
  cases aimless

end Forest

/-- **A callable program is spelled**, in every language and layout. -/
theorem Document.text_of_callable {document : Document} (callable : document.forest.Callable) :
    ∃ text, document.text = .ok text :=
  exists_text_iff.2 (Forest.dangling_of_callable callable)

end ModelExport
