/-
# ModelExport.Proofs.Model.Parameters — a buffer that is filled exactly

The parameters of a model go through a buffer that is sized by one count and
filled from another list. The two agree: the count is the length of the list
(`parameterCount?_eq`), so every slot is overwritten and no value is lost, whatever
the buffer held (`encode?_eq_stored?`). How many weights a feed-forward network
stores follows from its layers once it was read: the count that fits 64 bits at
every step is the exact one (`addWeights_eq_some`), and this however texts are decoded
(`length_weights_of_ofText`).
-/
import ModelExport.Model.Json
import ModelExport.Proofs.Fold

set_option autoImplicit false

namespace ModelExport

namespace Model

/-- The parameters of an encodable model in their order, read off its parts. -/
def stored? : Model → Option (List Binary64)
  | .basicNetwork network => some network.weights
  | .rbfNetwork network =>
      some (network.centers.flatten ++ network.widths ++ network.outputWeights)
  | .supportVectorMachine _ => none

/-! ## The buffer -/

theorem foldr_length_eq (centers : List (List Binary64)) :
    centers.foldr (fun center count => center.length + count) 0 = centers.flatten.length := by
  induction centers with
  | nil => rfl
  | cons center rest ih =>
      rw [List.foldr_cons, ih, List.flatten_cons, List.length_append]

/-- The count is the length of the list that goes into the buffer. -/
theorem parameterCount?_eq (model : Model) :
    model.parameterCount? = model.stored?.map List.length := by
  cases model with
  | basicNetwork network => rfl
  | rbfNetwork network =>
      simp only [parameterCount?, stored?, Option.map_some, List.length_append, foldr_length_eq]
  | supportVectorMachine machine => rfl

/-- A buffer with as many slots as there are values holds nothing else afterwards. -/
theorem overwrite_eq (buffer values : List Binary64) (sized : buffer.length = values.length) :
    overwrite buffer values = values := by
  induction buffer generalizing values with
  | nil =>
      have none_left : values = [] := List.eq_nil_of_length_eq_zero sized.symm
      subst none_left
      rfl
  | cons slot slots ih =>
      cases values with
      | nil => simp at sized
      | cons value values =>
          have rest : slots.length = values.length := by simpa using sized
          exact congrArg (value :: ·) (ih values rest)

/-- **A buffer of the right size is overwritten in every slot, and takes every parameter.** -/
theorem encode?_eq_stored? {model : Model} {values : List Binary64}
    (stored : model.stored? = some values) (buffer : List Binary64)
    (sized : buffer.length = values.length) : model.encode? buffer = some values := by
  cases model with
  | basicNetwork network =>
      have same : network.weights = values := Option.some.inj stored
      rw [encode?, if_pos (by rw [sized, same]), same]
  | rbfNetwork network =>
      have same := Option.some.inj stored
      rw [encode?, same, overwrite_eq buffer values sized]
  | supportVectorMachine machine => cases stored

theorem parameters?_eq_stored? (model : Model) : model.parameters? = model.stored? := by
  rw [parameters?, parameterCount?_eq]
  cases stored : model.stored? with
  | none => rfl
  | some values =>
      exact encode?_eq_stored? stored (List.replicate values.length .zero) List.length_replicate

end Model

/-! ## The weights that layers ask for -/

namespace BasicNetwork

theorem counted_eq_some {n m : Nat} (fits : counted n = some m) : n = m := by
  unfold counted at fits
  split at fits
  · exact Option.some.inj fits
  · cases fits

/-- A count that 64 bits hold at every step is the exact sum. -/
theorem addWeights_eq_some {layers : List Layer} {total sum : Nat}
    (added : addWeights total layers = some sum) : sum = total + weightSum layers := by
  induction layers generalizing total with
  | nil =>
      simp only [addWeights, Option.some.injEq] at added
      simp only [weightSum, ← added, Nat.add_zero]
  | cons source rest ih =>
      cases rest with
      | nil =>
          simp only [addWeights, Option.some.injEq] at added
          simp only [weightSum, ← added, Nat.add_zero]
      | cons target rest =>
          simp only [addWeights, Option.bind_eq_bind, Option.bind_eq_some_iff] at added
          obtain ⟨fanIn, first, weights, second, partSum, third, later⟩ := added
          have exact_fanIn := counted_eq_some first
          have exact_weights := counted_eq_some second
          have exact_sum := counted_eq_some third
          have whole := ih later
          subst exact_fanIn exact_weights exact_sum
          simp only [weightSum]
          omega

/-- A feed-forward network that was read stores the weights its layers ask for, counted without a
limit. -/
theorem length_weights_of_ofText {decode : String → Except Json.Error Model} {path : Path}
    {text : String} {network : BasicNetwork}
    (read : Model.ofText decode path text = .ok (.basicNetwork network)) :
    network.weights.length = weightSum network.layers := by
  unfold Model.ofText at read
  obtain ⟨model, -, checked⟩ := bind_eq_ok.1 read
  unfold Model.checkWeights at checked
  split at checked
  · rename_i stored
    cases counted : stored.expectedWeightCount? with
    | none =>
        rw [counted] at checked
        cases checked
    | some expected =>
        rw [counted] at checked
        dsimp only at checked
        split at checked
        · rename_i agrees
          have same : stored = network := by
            injection checked with same
            injection same
          subst same
          have total := addWeights_eq_some counted
          omega
        · cases checked
  · rename_i other
    have same := Except.ok.inj checked
    exact absurd same (other network)

end BasicNetwork

end ModelExport
