/-
# ModelExport.Proofs.Forest.Part — a program as part of another

A program is part of another when its nodes stand there one after the other, with
the handles in them raised by one offset (`Part`). The first and the second program
of an `append` are such parts. What a node of the part says is what it says under
its raised handle in the whole: its statement, its body, the member it is, and the
order of the members of a class. For this no handle in the part may point outside
it (`Closed`): a handle that points at nothing could find a node of the whole.
-/
import ModelExport.Proofs.Forest.Append
import ModelExport.Proofs.Forest.Outline
import Mathlib.Data.List.Basic

set_option autoImplicit false

namespace ModelExport

namespace Construct

/-- The handles that a construct holds. -/
def links : Construct → List Handle
  | .networkFunction _ _ weights => weights.toList
  | .call (.node handle) _ _ => [handle]
  | _ => []

variable (offset : Nat) (construct : Construct)

theorem shift_zero : construct.shift 0 = construct := by
  unfold shift
  split <;> simp

@[simp] theorem arrayName?_shift : (construct.shift offset).arrayName? = construct.arrayName? := by
  unfold shift
  split <;> rfl

@[simp] theorem isClass_shift : (construct.shift offset).isClass = construct.isClass := by
  unfold shift
  split <;> rfl

@[simp] theorem declares_shift (embed : Bool) :
    (construct.shift offset).declares embed = construct.declares embed := by
  unfold shift
  split <;> rfl

@[simp] theorem isCode_shift : (construct.shift offset).isCode = construct.isCode := by
  unfold shift
  split <;> rfl

@[simp] theorem isMain_shift : (construct.shift offset).isMain = construct.isMain := by
  unfold shift
  split <;> rfl

end Construct

theorem Node.shift_zero (node : Node) : node.shift 0 = node := by
  have keeps : (fun handle : Handle => handle + 0) = id := rfl
  rw [Node.shift, Construct.shift_zero, keeps, Option.map_id, List.map_id, id]

namespace Forest

/-- No handle in a program points outside it. -/
structure Closed (forest : Forest) : Prop where
  roots : ∀ root ∈ forest.roots, root < forest.size
  children : ∀ handle, ∀ child ∈ forest.children handle, child < forest.size
  links : ∀ handle construct, forest.construct? handle = some construct →
    ∀ link ∈ construct.links, link < forest.size

/-- The nodes of the first program stand in the second, under handles raised by the offset. -/
structure Part (part whole : Forest) (offset : Nat) : Prop where
  closed : part.Closed
  nodes : ∀ handle, handle < part.size →
    whole.nodes[handle + offset]? = part.nodes[handle]?.map (Node.shift offset)

theorem part_append_left {forest : Forest} (closed : forest.Closed) (other : Forest) :
    Part forest (forest.append other) 0 := by
  refine ⟨closed, ?_⟩
  intro handle inside
  have same : Node.shift 0 = id := funext Node.shift_zero
  rw [Nat.add_zero, getElem?_append, if_pos inside, same, Option.map_id, id]

theorem part_append_right {other : Forest} (closed : other.Closed) (forest : Forest) :
    Part other (forest.append other) forest.size := by
  refine ⟨closed, ?_⟩
  intro handle _
  have behind : ¬ handle + forest.size < forest.size := by omega
  rw [getElem?_append, if_neg behind, Nat.add_sub_cancel]

namespace Part

variable {part whole : Forest} {offset : Nat} (within : Part part whole offset)
variable {handle : Handle} (inside : handle < part.size)

include within inside

/-! ## What a node says -/

theorem construct? :
    whole.construct? (handle + offset) =
      (part.construct? handle).map (Construct.shift offset) := by
  rw [Forest.construct?, within.nodes handle inside, Forest.construct?, Option.map_map,
    Option.map_map]
  rfl

theorem children :
    whole.children (handle + offset) = (part.children handle).map (· + offset) := by
  rw [Forest.children, within.nodes handle inside, Forest.children]
  cases part.nodes[handle]? <;> rfl

theorem passes {test : Construct → Bool}
    (blind : ∀ construct : Construct, test (construct.shift offset) = test construct) :
    whole.passes test (handle + offset) = part.passes test handle := by
  rw [Forest.passes, within.construct? inside, Forest.passes]
  cases part.construct? handle with
  | none => rfl
  | some construct => exact blind construct

theorem functionName? :
    whole.functionName? (handle + offset) = part.functionName? handle := by
  rw [Forest.functionName?, within.construct? inside, Forest.functionName?]
  cases part.construct? handle with
  | none => rfl
  | some construct => exact construct.functionName?_shift offset

theorem arrayName? : whole.arrayName? (handle + offset) = part.arrayName? handle := by
  rw [Forest.arrayName?, within.construct? inside, Forest.arrayName?]
  cases part.construct? handle with
  | none => rfl
  | some construct => exact construct.arrayName?_shift offset

theorem statement : whole.statement (handle + offset) = part.statement handle := by
  unfold Forest.statement
  rw [within.construct? inside]
  cases found : part.construct? handle with
  | none => rfl
  | some construct =>
      cases construct with
      | call callee type binding =>
          cases callee with
          | named name => rfl
          | node target =>
              -- the target is a node of the part, so its name is the same in the whole
              have known : target < part.size :=
                within.closed.links handle _ found target (List.mem_singleton.2 rfl)
              have named : whole.calleeName? (.node (target + offset)) =
                  part.calleeName? (.node target) := within.functionName? known
              simp only [Option.map_some, Construct.shift, named]
      | _ => rfl

theorem body : whole.body (handle + offset) = part.body handle := by
  have below : ∀ child ∈ part.children handle,
      whole.statement (child + offset) = part.statement child := by
    intro child member
    exact within.statement (within.closed.children handle child member)
  rw [Forest.body, within.children inside, mapM_map_eq below, Forest.body]

/-- **A node is the same member in the whole as in the part.** -/
theorem member : whole.member (handle + offset) = part.member handle := by
  have filled := within.body inside
  unfold Forest.member
  rw [within.construct? inside]
  cases found : part.construct? handle with
  | none => rfl
  | some construct =>
      cases construct with
      | function name => simp only [Option.map_some, Construct.shift, filled]
      | mainFunction => simp only [Option.map_some, Construct.shift, filled]
      | trainingLoader file => simp only [Option.map_some, Construct.shift, filled]
      | networkFunction name file weights =>
          have named : (weights.map (· + offset)).bind whole.arrayName? =
              weights.bind part.arrayName? := by
            cases weights with
            | none => rfl
            | some array =>
                have known : array < part.size :=
                  within.closed.links handle _ found array (List.mem_singleton.2 rfl)
                exact within.arrayName? known
          simp only [Option.map_some, Construct.shift, filled, named]
      | call callee type binding => cases callee <;> rfl
      | _ => rfl

omit inside

/-! ## What a class says -/

/-- A test that does not look at handles picks the same nodes. -/
theorem filter_passes {test : Construct → Bool}
    (blind : ∀ construct : Construct, test (construct.shift offset) = test construct)
    {handles : List Handle} (known : ∀ handle ∈ handles, handle < part.size) :
    (handles.map (· + offset)).filter (whole.passes test) =
      (handles.filter (part.passes test)).map (· + offset) := by
  rw [List.filter_map]
  congr 1
  apply List.filter_congr
  intro handle member
  exact within.passes (known handle member) blind

/-- Nor does it find one where there was none. -/
theorem any_passes {test : Construct → Bool}
    (blind : ∀ construct : Construct, test (construct.shift offset) = test construct)
    {handles : List Handle} (known : ∀ handle ∈ handles, handle < part.size) :
    (handles.map (· + offset)).any (whole.passes test) = handles.any (part.passes test) := by
  induction handles with
  | nil => rfl
  | cons handle rest ih =>
      obtain ⟨first, later⟩ := List.forall_mem_cons.1 known
      rw [List.map_cons, List.any_cons, List.any_cons, within.passes first blind, ih later]

theorem order {handles : List Handle} (known : ∀ handle ∈ handles, handle < part.size)
    (embed : Bool) :
    whole.order embed (handles.map (· + offset)) =
      (part.order embed handles).map (· + offset) := by
  have arrays := within.filter_passes (Construct.declares_shift offset · embed) known
  have code := within.filter_passes (Construct.isCode_shift offset) known
  have mains := within.filter_passes (Construct.isMain_shift offset) known
  rw [Forest.order, arrays, code, mains, Forest.order, List.map_append, List.map_append]

end Part

/-! ## The roots of one program after another -/

theorem children_append (forest other : Forest) (handle : Handle) :
    (forest.append other).children handle =
      if handle < forest.size then forest.children handle
      else (other.children (handle - forest.size)).map (· + forest.size) := by
  unfold children
  rw [getElem?_append]
  by_cases old : handle < forest.size
  · rw [if_pos old, if_pos old]
  · rw [if_neg old, if_neg old]
    cases other.nodes[handle - forest.size]? <;> rfl

theorem lt_size_append_left {forest : Forest} {handle : Handle} (inside : handle < forest.size)
    (other : Forest) : handle < (forest.append other).size := by
  rw [size_append]
  exact Nat.lt_of_lt_of_le inside (Nat.le_add_right _ _)

theorem lt_size_append_right {other : Forest} {handle : Handle} (inside : handle < other.size)
    (forest : Forest) : handle + forest.size < (forest.append other).size := by
  rw [size_append, Nat.add_comm forest.size]
  exact Nat.add_lt_add_right inside _

theorem append_closed {forest other : Forest} (first : forest.Closed) (second : other.Closed) :
    (forest.append other).Closed := by
  constructor
  · intro root member
    rcases List.mem_append.1 member with old | new
    · exact lt_size_append_left (first.roots root old) other
    · obtain ⟨own, known, rfl⟩ := List.mem_map.1 new
      exact lt_size_append_right (second.roots own known) forest
  · intro handle child member
    rw [children_append] at member
    split at member
    · exact lt_size_append_left (first.children handle child member) other
    · obtain ⟨own, known, rfl⟩ := List.mem_map.1 member
      exact lt_size_append_right (second.children _ own known) forest
  · intro handle construct found link held
    rw [construct?_append] at found
    split at found
    · exact lt_size_append_left (first.links handle construct found link held) other
    · obtain ⟨own, known, rfl⟩ := Option.map_eq_some_iff.1 found
      -- only two constructs hold handles, and both are raised with their nodes
      cases own with
      | networkFunction name file weights =>
          obtain ⟨array, named, rfl⟩ := Option.map_eq_some_iff.1 (Option.mem_toList.1 held)
          have inside : array < other.size :=
            second.links _ _ known array (Option.mem_toList.2 named)
          exact lt_size_append_right inside forest
      | call callee type binding =>
          cases callee with
          | named name => cases held
          | node target =>
              have raised : link = target + forest.size := List.mem_singleton.1 held
              rw [raised]
              exact lt_size_append_right
                (second.links _ _ known target (List.mem_singleton.2 rfl)) forest
      | _ => cases held

theorem empty_closed : Closed empty where
  roots := nofun
  children := fun handle child member => by
    rw [Forest.children, empty, Array.getElem?_empty] at member
    cases member
  links := fun handle construct found => by
    simp [Forest.construct?, empty] at found

variable {forest other : Forest}

theorem classes_append (first : forest.Closed) (second : other.Closed) :
    (forest.append other).classes = forest.classes ++ other.classes.map (· + forest.size) := by
  have left := part_append_left first other
  have right := part_append_right second forest
  have before := left.filter_passes (Construct.isClass_shift 0) first.roots
  have behind := right.filter_passes (Construct.isClass_shift forest.size) second.roots
  have keeps : (fun handle : Handle => handle + 0) = id := rfl
  rw [keeps, List.map_id, List.map_id] at before
  have split : (forest.append other).roots = forest.roots ++ other.roots.map (· + forest.size) :=
    rfl
  unfold passes at before behind
  rw [classes, split, List.filter_append, before, behind]
  rfl

theorem topComments_append (first : forest.Closed) (second : other.Closed) :
    (forest.append other).topComments = forest.topComments ++ other.topComments := by
  have left := part_append_left first other
  have right := part_append_right second forest
  have split : (forest.append other).roots = forest.roots ++ other.roots.map (· + forest.size) :=
    rfl
  rw [topComments, split, List.filterMap_append, List.filterMap_map]
  congr 1
  · apply List.filterMap_congr
    intro root member
    have found := left.construct? (first.roots root member)
    rw [Nat.add_zero] at found
    rw [found]
    cases forest.construct? root with
    | none => rfl
    | some construct => rw [Option.map_some, construct.shift_zero]
  · apply List.filterMap_congr
    intro root member
    rw [Function.comp_apply, right.construct? (second.roots root member)]
    cases other.construct? root with
    | none => rfl
    | some construct =>
        cases construct with
        | call callee type binding => cases callee <;> rfl
        | _ => rfl

end Forest

end ModelExport
