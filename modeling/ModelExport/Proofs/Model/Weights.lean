/-
# ModelExport.Proofs.Model.Weights — counting in 64 bits what an exact sum asks for

How many weights a network stores is counted with a check at every step, and an
exact sum that fits could still be missed on the way. Products and partial sums are
never larger than the whole sum, so they fit if it does. The values that a layer
feeds on are a factor only, which a layer without neurons cancels: a layer of
2^64 - 1 neurons with a bias, and no neuron after it, is refused although it asks for
no weights (`Stranded`). Anywhere else the count is the exact sum if 64 bits hold it,
and nothing if they do not (`addWeights_eq_counted`), and a network that is read is
judged by the exact sum (`weighed_iff`), whatever decodes it.
-/
import ModelExport.Proofs.Model.Parameters

set_option autoImplicit false

namespace ModelExport

namespace BasicNetwork

/-! ## One count -/

theorem counted_of_lt {n : Nat} (fits : n < countLimit) : counted n = some n := if_pos fits

theorem counted_of_le {n : Nat} (exceeds : countLimit ≤ n) : counted n = none :=
  if_neg (Nat.not_lt.2 exceeds)

/-- Only a layer of 2^64 - 1 neurons with a bias feeds on more values than 64 bits count. -/
theorem countLimit_le_fanIn_iff (layer : Layer) :
    countLimit ≤ layer.fanIn ↔ layer.neurons.toNat + 1 = countLimit ∧ layer.bias = true := by
  have bound : layer.neurons.toNat < countLimit := layer.neurons.toNat_lt
  cases biased : layer.bias with
  | false => simp [Layer.fanIn, biased, bound]
  | true =>
      simp only [Layer.fanIn, biased, if_true, and_true]
      omega

/-- A step of the count succeeds exactly if the layer feeds on values that 64 bits count and the
new total fits; the product in between is no larger than that total. -/
theorem addWeights_cons (total : Nat) (source target : Layer) (rest : List Layer) :
    addWeights total (source :: target :: rest) =
      if source.fanIn < countLimit ∧ total + source.fanIn * target.neurons.toNat < countLimit then
        addWeights (total + source.fanIn * target.neurons.toNat) (target :: rest)
      else none := by
  rw [addWeights]
  by_cases fed : source.fanIn < countLimit
  · by_cases fits : total + source.fanIn * target.neurons.toNat < countLimit
    · have product := Nat.lt_of_le_of_lt (Nat.le_add_left _ total) fits
      rw [if_pos ⟨fed, fits⟩, counted_of_lt fed]
      simp only [Option.bind_eq_bind, Option.bind_some, counted_of_lt product, counted_of_lt fits]
    · rw [if_neg fun both => fits both.2, counted_of_lt fed]
      cases weighed : counted (source.fanIn * target.neurons.toNat) with
      | none => simp only [Option.bind_eq_bind, Option.bind_some, weighed, Option.bind_none]
      | some weights =>
          obtain rfl := counted_eq_some weighed
          simp only [Option.bind_eq_bind, Option.bind_some, weighed,
            counted_of_le (Nat.not_lt.1 fits), Option.bind_none]
  · rw [if_neg fun both => fed both.1, counted_of_le (Nat.not_lt.1 fed)]
    rfl

/-! ## The count of all layers -/

/-- Some layer feeds on more values than 64 bits count, and a layer without neurons comes after
it. -/
def Stranded (layers : List Layer) : Prop :=
  ∃ front source target rest, layers = front ++ source :: target :: rest ∧
    source.neurons.toNat + 1 = countLimit ∧ source.bias = true ∧ target.neurons = 0

theorem Stranded.cons {layers : List Layer} (stranded : Stranded layers) (first : Layer) :
    Stranded (first :: layers) := by
  obtain ⟨front, source, target, rest, rfl, full, biased, idle⟩ := stranded
  exact ⟨first :: front, source, target, rest, rfl, full, biased, idle⟩

/-- No count gets past layers that none gets past, whatever it has to do before. -/
theorem addWeights_cons_eq_none {layers : List Layer}
    (stops : ∀ total, addWeights total layers = none) (first : Layer) (total : Nat) :
    addWeights total (first :: layers) = none := by
  cases layers with
  | nil => cases stops total
  | cons second rest =>
      rw [addWeights_cons]
      split
      · exact stops _
      · rfl

theorem addWeights_of_stranded {layers : List Layer} (stranded : Stranded layers) (total : Nat) :
    addWeights total layers = none := by
  obtain ⟨front, source, target, rest, rfl, full, biased, -⟩ := stranded
  have unfed := Nat.not_lt.2 ((countLimit_le_fanIn_iff source).2 ⟨full, biased⟩)
  induction front generalizing total with
  | nil => rw [List.nil_append, addWeights_cons, if_neg fun both => unfed both.1]
  | cons first front ih => exact addWeights_cons_eq_none ih first total

/-- Where no layer is stranded, a layer feeds on values that 64 bits count if its product fits. -/
theorem fanIn_lt_of_mul_lt {source target : Layer} {rest : List Layer}
    (free : ¬ Stranded (source :: target :: rest))
    (fits : source.fanIn * target.neurons.toNat < countLimit) : source.fanIn < countLimit := by
  refine Nat.lt_of_not_le fun unfed => free ?_
  obtain ⟨full, biased⟩ := (countLimit_le_fanIn_iff source).1 unfed
  refine ⟨[], source, target, rest, rfl, full, biased, UInt64.toNat_inj.1 ?_⟩
  -- a single neuron would make the product as large as the factor
  refine Nat.eq_zero_of_not_pos fun neuron => ?_
  have grows := Nat.le_mul_of_pos_right source.fanIn neuron
  omega

/-- **The count is the exact sum if 64 bits hold it, and nothing if they do not**, where no layer
is stranded. -/
theorem addWeights_eq_counted {layers : List Layer} (free : ¬ Stranded layers) {total : Nat}
    (small : total < countLimit) :
    addWeights total layers = counted (total + weightSum layers) := by
  induction layers generalizing total with
  | nil => exact (counted_of_lt small).symm
  | cons source layers ih =>
      cases layers with
      | nil => exact (counted_of_lt small).symm
      | cons target rest =>
          have later : ¬ Stranded (target :: rest) := fun stranded => free (stranded.cons source)
          rw [addWeights_cons, weightSum, ← Nat.add_assoc]
          by_cases fits : total + source.fanIn * target.neurons.toNat < countLimit
          · have product := Nat.lt_of_le_of_lt (Nat.le_add_left _ total) fits
            rw [if_pos ⟨fanIn_lt_of_mul_lt free product, fits⟩, ih later fits]
          · -- a part of the sum is too large, and so is the whole
            have exceeds := Nat.le_trans (Nat.not_lt.1 fits)
              (Nat.le_add_right _ (weightSum (target :: rest)))
            rw [if_neg fun both => fits both.2, counted_of_le exceeds]

/-! ## Networks that are read -/

/-- The weights of a network are counted exactly, and a text that it is decoded from is judged by
the exact count. -/
structure Weighed (decode : String → Except Json.Error Model) (network : BasicNetwork) : Prop where
  fits : weightSum network.layers < countLimit →
    network.expectedWeightCount? = some (weightSum network.layers)
  exceeds : countLimit ≤ weightSum network.layers → network.expectedWeightCount? = none
  accepted : ∀ path text, decode text = .ok (.basicNetwork network) →
    (Model.ofText decode path text = .ok (.basicNetwork network) ↔
      network.weights.length = weightSum network.layers ∧ weightSum network.layers < countLimit)
  overflow : ∀ path text, decode text = .ok (.basicNetwork network) →
    (Model.ofText decode path text = .error (.overflow path) ↔
      countLimit ≤ weightSum network.layers)
  shape : ∀ path text, decode text = .ok (.basicNetwork network) →
    weightSum network.layers < countLimit → network.weights.length ≠ weightSum network.layers →
      Model.ofText decode path text =
        .error (.shape path (weightSum network.layers) network.weights.length)

variable {decode : String → Except Json.Error Model} {network : BasicNetwork}

theorem ofText_of_decode {text : String} (held : decode text = .ok (.basicNetwork network))
    (path : Path) :
    Model.ofText decode path text = Model.checkWeights path (.basicNetwork network) := by
  rw [Model.ofText, held, mapError_ok, ok_bind]

theorem checkWeights_of_none (uncounted : network.expectedWeightCount? = none) (path : Path) :
    Model.checkWeights path (.basicNetwork network) = .error (.overflow path) := by
  rw [Model.checkWeights, uncounted]

theorem checkWeights_of_some {sum : Nat} (count : network.expectedWeightCount? = some sum)
    (path : Path) :
    Model.checkWeights path (.basicNetwork network) =
      if sum = network.weights.length then .ok (.basicNetwork network)
      else .error (.shape path sum network.weights.length) := by
  rw [Model.checkWeights, count]

theorem weighed_of_count
    (count : network.expectedWeightCount? = counted (weightSum network.layers)) :
    network.Weighed decode := by
  by_cases small : weightSum network.layers < countLimit
  · rw [counted_of_lt small] at count
    have judged (path : Path) := checkWeights_of_some count path
    refine ⟨fun _ => count, fun large => absurd small (Nat.not_lt.2 large), ?_, ?_, ?_⟩
    · intro path text held
      rw [ofText_of_decode held, judged, and_iff_left small, eq_comm (b := weightSum _)]
      split
      · next same => exact iff_of_true rfl same
      · next apart => exact iff_of_false nofun apart
    · intro path text held
      rw [ofText_of_decode held, judged]
      refine iff_of_false (fun failed => ?_) (Nat.not_le.2 small)
      split at failed <;> cases failed
    · intro path text held _ apart
      rw [ofText_of_decode held, judged, if_neg apart.symm]
  · have large := Nat.not_lt.1 small
    rw [counted_of_le large] at count
    have judged (path : Path) := checkWeights_of_none count path
    refine ⟨fun fits => absurd fits small, fun _ => count, ?_, ?_, ?_⟩
    · intro path text held
      rw [ofText_of_decode held, judged]
      exact iff_of_false nofun fun both => small both.2
    · intro path text held
      rw [ofText_of_decode held, judged]
      exact iff_of_true rfl large
    · exact fun _ _ _ fits => absurd fits small

/-- **A network is counted and judged by the exact sum of its weights, unless a layer is stranded
and the sum fits all the same**, however texts are decoded. With a stranded layer it always counts
as too large. -/
theorem weighed_iff (decode : String → Except Json.Error Model) (network : BasicNetwork) :
    (network.Weighed decode ↔
      ¬ (Stranded network.layers ∧ weightSum network.layers < countLimit)) ∧
    (Stranded network.layers → network.expectedWeightCount? = none ∧
      ∀ path text, decode text = .ok (.basicNetwork network) →
        Model.ofText decode path text = .error (.overflow path)) := by
  have refused (stranded : Stranded network.layers) : network.expectedWeightCount? = none :=
    addWeights_of_stranded stranded 0
  refine ⟨⟨?_, ?_⟩, ?_⟩
  · rintro weighed ⟨stranded, small⟩
    exact Option.some_ne_none _ ((weighed.fits small).symm.trans (refused stranded))
  · intro sound
    apply weighed_of_count
    by_cases stranded : Stranded network.layers
    · have large := Nat.not_lt.1 fun small => sound ⟨stranded, small⟩
      rw [refused stranded, counted_of_le large]
    · rw [expectedWeightCount?, addWeights_eq_counted stranded (by decide), Nat.zero_add]
  · intro stranded
    refine ⟨refused stranded, fun path text held => ?_⟩
    rw [ofText_of_decode held, checkWeights_of_none (refused stranded)]

/-- A file with two layers, a bias, and as many weights as these ask for. -/
def balanced : String := "[\"basic_network\",[[2,true],[1]],[0,0,0]]"

/-- The widest layer with a bias, and a layer without neurons after it. They ask for no weights,
and none are stored. -/
def widest : String := "[\"basic_network\",[[18446744073709551615,true],[0]],[]]"

def widestNetwork : BasicNetwork :=
  ⟨[⟨0xFFFFFFFFFFFFFFFF, true, .sigmoid⟩, ⟨0, false, .sigmoid⟩], []⟩

theorem widest_read : Model.decode widest = .ok (.basicNetwork widestNetwork) :=
  toOption_eq_some.1 (by decide +kernel)

theorem widest_stranded : Stranded widestNetwork.layers :=
  ⟨[], _, _, [], rfl, by decide, rfl, rfl⟩

theorem weighed_iff_small :
    ∃ network, Model.decode balanced = .ok (.basicNetwork network) ∧
      ¬ Stranded network.layers ∧ network.expectedWeightCount? = some 3 ∧
      Model.ofJson ⟨"net.json"⟩ balanced = .ok (.basicNetwork network) ∧
      Model.ofJson ⟨"net.json"⟩ widest = .error (.overflow ⟨"net.json"⟩) := by
  let network : BasicNetwork :=
    ⟨[⟨2, true, .sigmoid⟩, ⟨1, false, .sigmoid⟩], [.zero, .zero, .zero]⟩
  have held : Model.decode balanced = .ok (.basicNetwork network) :=
    toOption_eq_some.1 (by decide +kernel)
  have free : ¬ Stranded network.layers := by
    intro stranded
    have stopped := addWeights_of_stranded stranded 0
    revert stopped
    decide
  have weighed := (weighed_iff Model.decode network).1.2 fun both => free both.1
  exact ⟨network, held, free, weighed.fits (by decide),
    (weighed.accepted _ _ held).2 ⟨rfl, by decide⟩,
    ((weighed_iff Model.decode widestNetwork).2 widest_stranded).2 _ _ widest_read⟩

/-- **Not every network is counted exactly**: a network of the widest layer and an empty one asks
for no weights and stores none, and is refused as too large. -/
theorem widest_miscounted : ¬ ∀ network : BasicNetwork, network.Weighed Model.decode := by
  intro claim
  have count := (claim widestNetwork).fits (by decide)
  rw [expectedWeightCount?, addWeights_of_stranded widest_stranded] at count
  cases count

end BasicNetwork

end ModelExport
