/-
# ModelExport.Proofs.Document.Fault — the calls that no document can spell

A call dangles if it points at a node that is no function, or at no node at all.
Spelling reaches the calls in the functions of the classes, the entry points of a
class last; calls that stand anywhere else are not met. The first dangling call on
that way is the fault of the whole document, and without one there is a text
(`text_eq_error_iff`, `exists_text_iff`). Neither the language nor the layout nor the
flag of embedding has a part in this: members that only embedding writes have no
statements (`flatMap_order`).

In a program that was made call by call, what spelling reaches is told by the
parents that the nodes record (`Made.reaches_iff`).
-/
import ModelExport.Proofs.Document.Steps
import ModelExport.Proofs.Forest.Arena

set_option autoImplicit false

namespace ModelExport

namespace Construct

/-- Whether a construct is a function other than the entry point. -/
def isHelper (construct : Construct) : Bool := construct.isFunction && !construct.isMain

/-- What has a name as a function is a function. -/
theorem isSome_functionName? (construct : Construct) :
    construct.functionName?.isSome = construct.isFunction := by
  cases construct <;> rfl

end Construct

/-- What is read of the items that are kept is read of all items, with nothing for the others. -/
theorem flatMap_filter {α β : Type} (keeps : α → Bool) (read : α → List β) (items : List α) :
    (items.filter keeps).flatMap read =
      items.flatMap fun item => if keeps item then read item else [] := by
  induction items with
  | nil => rfl
  | cons item rest ih =>
      rw [List.flatMap_cons, ← ih]
      by_cases kept : keeps item = true
      · rw [List.filter_cons_of_pos kept, List.flatMap_cons, if_pos kept]
      · rw [List.filter_cons_of_neg kept, if_neg kept, List.nil_append]

namespace Forest

variable (forest : Forest)

/-! ## Dangling calls -/

/-- The binding of a call that points at a node that is no function, or at no node at all. -/
def dangling? (handle : Handle) : Option String :=
  match forest.construct? handle with
  | some (.call (.node target) _ binding) =>
      if forest.passes Construct.isFunction target then none else some binding
  | _ => none

/-- The bindings of the dangling calls in the body of a function, in order. -/
def danglingIn (function : Handle) : List String :=
  (forest.children function).filterMap forest.dangling?

/-- The functions among the children of a class, the entry points last. -/
def functions (owner : Handle) : List Handle :=
  (forest.children owner).filter (forest.passes Construct.isHelper) ++
    (forest.children owner).filter (forest.passes Construct.isMain)

/-- The bindings of the dangling calls in the functions of the classes, in the order in which a
document has them. -/
def dangling : List String :=
  forest.classes.flatMap fun owner => (forest.functions owner).flatMap forest.danglingIn

/-! ## The first fault -/

theorem fault?_statement (handle : Handle) :
    fault? (forest.statement handle) =
      (forest.dangling? handle).map Failure.invalidCallTarget := by
  unfold statement dangling?
  cases forest.construct? handle with
  | none => rfl
  | some construct =>
      cases construct with
      | call callee type binding =>
          cases callee with
          | named name => rfl
          | node target =>
              dsimp only [calleeName?]
              rw [functionName?, passes]
              cases forest.construct? target with
              | none => rfl
              | some pointed =>
                  rw [Option.bind_some, Option.any_some, ← pointed.isSome_functionName?]
                  cases pointed.functionName? <;> rfl
      | _ => rfl

theorem fault?_body (handle : Handle) :
    fault? (forest.body handle) =
      ((forest.danglingIn handle).map Failure.invalidCallTarget).head? := by
  have each : ∀ child ∈ forest.children handle, fault? (forest.statement child) =
      ((forest.dangling? child).map Failure.invalidCallTarget).toList.head? := by
    intro child _
    rw [fault?_statement, Option.head?_toList]
  rw [body, fault?_map, fault?_mapM each, danglingIn, List.map_filterMap,
    List.filterMap_eq_flatMap_toList]

/-- The dangling calls that are met with a child of a class: those of its body, if it is a
function. -/
def danglingAt (handle : Handle) : List String :=
  if forest.passes Construct.isFunction handle then forest.danglingIn handle else []

theorem fault?_member (handle : Handle) :
    fault? (forest.member handle) =
      ((forest.danglingAt handle).map Failure.invalidCallTarget).head? := by
  unfold member danglingAt passes
  cases forest.construct? handle with
  | none => rfl
  | some construct =>
      cases construct with
      | function name => exact (fault?_map _ _).trans (forest.fault?_body handle)
      | mainFunction => exact (fault?_map _ _).trans (forest.fault?_body handle)
      | networkFunction name file weights =>
          exact (fault?_map _ _).trans (forest.fault?_body handle)
      | trainingLoader file => exact (fault?_map _ _).trans (forest.fault?_body handle)
      | _ => rfl

/-- Of the members of a class only the functions have calls, whether or not rows are embedded. -/
theorem flatMap_order (embed : Bool) (owner : Handle) :
    (forest.order embed (forest.children owner)).flatMap forest.danglingAt =
      (forest.functions owner).flatMap forest.danglingIn := by
  have declared (child : Handle) : (if forest.passes (Construct.declares embed) child
      then forest.danglingAt child else []) = [] := by
    unfold danglingAt passes
    cases forest.construct? child with
    | none => rfl
    | some construct => cases construct <;> simp [Construct.isFunction, Construct.declares]
  have coded (child : Handle) : (if forest.passes Construct.isCode child
      then forest.danglingAt child else []) =
        if forest.passes Construct.isHelper child then forest.danglingIn child else [] := by
    unfold danglingAt passes
    cases forest.construct? child with
    | none => rfl
    | some construct => cases construct <;> rfl
  have entered (child : Handle) : (if forest.passes Construct.isMain child
      then forest.danglingAt child else []) =
        if forest.passes Construct.isMain child then forest.danglingIn child else [] := by
    unfold danglingAt passes
    cases forest.construct? child with
    | none => rfl
    | some construct => cases construct <;> rfl
  simp only [order, functions, List.flatMap_append, flatMap_filter, declared, coded, entered]
  rw [List.flatMap_eq_nil_iff.2 fun _ _ => rfl, List.nil_append]

theorem fault?_members (embed : Bool) (owner : Handle) :
    fault? (forest.members embed (forest.children owner)) =
      (((forest.functions owner).flatMap forest.danglingIn).map
        Failure.invalidCallTarget).head? := by
  rw [members, fault?_map, fault?_mapM fun child _ => forest.fault?_member child,
    ← forest.flatMap_order embed, List.map_flatMap]

/-! ## Which calls are reached -/

/-- A call in a function of a class. -/
def Reaches (call : Handle) : Prop :=
  ∃ owner ∈ forest.classes, ∃ function ∈ forest.children owner,
    forest.passes Construct.isFunction function = true ∧ call ∈ forest.children function

/-- A call that points at a node that is no function, or at no node at all. -/
def Dangles (call : Handle) (binding : String) : Prop :=
  ∃ target type, forest.construct? call = some (.call (.node target) type binding) ∧
    ∀ construct, forest.construct? target = some construct → construct.isFunction = false

variable {forest}

theorem dangling?_eq_some {call : Handle} {binding : String} :
    forest.dangling? call = some binding ↔ forest.Dangles call binding := by
  have aimless (target : Handle) : forest.passes Construct.isFunction target = false ↔
      ∀ construct, forest.construct? target = some construct → construct.isFunction = false := by
    cases found : forest.construct? target <;> simp [passes, found]
  unfold dangling?
  constructor
  · intro found
    split at found
    · next target type name known =>
      split at found
      · cases found
      · next misses =>
        cases found
        exact ⟨target, type, known, (aimless target).1 (Bool.eq_false_iff.2 misses)⟩
    · cases found
  · rintro ⟨target, type, known, misses⟩
    simp only [known, (aimless target).2 misses, Bool.false_eq_true, if_false]

theorem mem_functions {owner function : Handle} : function ∈ forest.functions owner ↔
    function ∈ forest.children owner ∧ forest.passes Construct.isFunction function = true := by
  have kinds : forest.passes Construct.isFunction function = true ↔
      forest.passes Construct.isHelper function = true ∨
        forest.passes Construct.isMain function = true := by
    unfold passes
    cases forest.construct? function with
    | none => simp
    | some construct =>
        cases construct <;> simp [Construct.isHelper, Construct.isFunction, Construct.isMain]
  rw [functions, List.mem_append, List.mem_filter, List.mem_filter, kinds, and_or_left]

/-- **The bindings that are told are those of the dangling calls that are reached.** -/
theorem mem_dangling {binding : String} :
    binding ∈ forest.dangling ↔ ∃ call, forest.Reaches call ∧ forest.Dangles call binding := by
  simp only [dangling, danglingIn, List.mem_flatMap, List.mem_filterMap, dangling?_eq_some,
    mem_functions, Reaches]
  constructor
  · rintro ⟨owner, among, function, ⟨child, spelt⟩, call, inside, dangles⟩
    exact ⟨call, ⟨owner, among, function, child, spelt, inside⟩, dangles⟩
  · rintro ⟨call, ⟨owner, among, function, child, spelt, inside⟩, dangles⟩
    exact ⟨owner, among, function, ⟨child, spelt⟩, call, inside, dangles⟩

/-- So there is a fault exactly if such a call is reached. -/
theorem dangling_ne_nil_iff : forest.dangling ≠ [] ↔
    ∃ call binding, forest.Reaches call ∧ forest.Dangles call binding := by
  constructor
  · intro faulty
    obtain ⟨binding, member⟩ := List.exists_mem_of_ne_nil _ faulty
    obtain ⟨call, reached⟩ := mem_dangling.1 member
    exact ⟨call, binding, reached⟩
  · rintro ⟨call, binding, reached⟩
    exact List.ne_nil_of_mem (mem_dangling.2 ⟨call, reached⟩)

/-- By what the nodes record, a node is below a function below a class. -/
def StandsInFunction (forest : Forest) (call : Handle) : Prop :=
  ∃ statement function owner : Node, ∃ inner outer : Handle,
    forest.nodes[call]? = some statement ∧ statement.parent = some inner ∧
      forest.nodes[inner]? = some function ∧ function.construct.isFunction = true ∧
      function.parent = some outer ∧
        forest.nodes[outer]? = some owner ∧ owner.construct.isClass = true

/-- A class that was made by a call is a root. -/
theorem Made.parent_of_isClass {handles : List Handle} {forest : Forest}
    (made : Made handles forest) {handle : Handle} {node : Node}
    (found : forest.nodes[handle]? = some node) (isClass : node.construct.isClass = true) :
    node.parent = none := by
  induction made generalizing node with
  | new => cases found
  | @call handles before made call names ih =>
      rw [build_eq_push, getElem?_push] at found
      split at found
      · cases found
        cases call with
        | classBody name => rfl
        | _ => cases isClass
      · split at found
        · obtain ⟨old, known, rfl⟩ := Option.map_eq_some_iff.1 found
          have root := ih known isClass
          exact root
        · exact ih found isClass

theorem passes_iff {test : Construct → Bool} {handle : Handle} :
    forest.passes test handle = true ↔
      ∃ node : Node, forest.nodes[handle]? = some node ∧ test node.construct = true := by
  rw [passes, construct?, Option.any_map, Option.any_eq_true]

/-- **What spelling reaches is told by the parents**, in a program that was made call by call. -/
theorem Made.reaches_iff {handles : List Handle} {forest : Forest} (made : Made handles forest)
    (call : Handle) : forest.Reaches call ↔ forest.StandsInFunction call := by
  have agrees := made.rooted.toAgrees
  constructor
  · rintro ⟨outer, among, inner, child, spelt, inside⟩
    obtain ⟨root, class'⟩ := List.mem_filter.1 among
    obtain ⟨owner, owned, isClass⟩ := passes_iff.1 class'
    obtain ⟨function, found, isFunction⟩ := passes_iff.1 spelt
    obtain ⟨same, found', below⟩ := (agrees.children outer inner).1 child
    obtain rfl : function = same := Option.some.inj (found.symm.trans found')
    obtain ⟨statement, stands, within⟩ := (agrees.children inner call).1 inside
    exact ⟨statement, function, owner, inner, outer, stands, within, found, isFunction, below,
      owned, isClass⟩
  · rintro ⟨statement, function, owner, inner, outer, stands, within, found, isFunction, below,
      owned, isClass⟩
    have root : outer ∈ forest.roots :=
      (agrees.roots outer).2 ⟨owner, owned, made.parent_of_isClass owned isClass⟩
    exact ⟨outer, List.mem_filter.2 ⟨root, passes_iff.2 ⟨owner, owned, isClass⟩⟩,
      inner, (agrees.children outer inner).2 ⟨function, found, below⟩,
      passes_iff.2 ⟨function, found, isFunction⟩,
      (agrees.children inner call).2 ⟨statement, stands, within⟩⟩

end Forest

namespace Document

variable (document : Document)

theorem fault?_classSteps {owner : Handle} (among : owner ∈ document.forest.classes) :
    fault? (document.classSteps owner) =
      (((document.forest.functions owner).flatMap document.forest.danglingIn).map
        Failure.invalidCallTarget).head? := by
  obtain ⟨construct, found, passed⟩ := Forest.passes_eq_true.1 (List.mem_filter.1 among).2
  cases construct with
  | classBody name =>
      rw [classSteps, found]
      exact (fault?_map _ _).trans (document.forest.fault?_members document.embed owner)
  | _ => cases passed

/-- **The fault of a document is its first dangling call.** -/
theorem fault?_text :
    fault? document.text = (document.forest.dangling.map Failure.invalidCallTarget).head? := by
  rw [text, fault?_map, page_eq_steps, fault?_map, steps, fault?_map,
    fault?_mapM fun owner among => document.fault?_classSteps among, Forest.dangling,
    List.map_flatMap]

variable {document}

theorem text_eq_error_iff {failure : Failure} : document.text = .error failure ↔
    ∃ binding, document.forest.dangling.head? = some binding ∧
      failure = .invalidCallTarget binding := by
  rw [← fault?_eq_some, fault?_text, List.head?_map, Option.map_eq_some_iff]
  simp only [eq_comm]

theorem exists_text_iff : (∃ text, document.text = .ok text) ↔ document.forest.dangling = [] := by
  rw [← fault?_eq_none, fault?_text, List.head?_eq_none_iff, List.map_eq_nil_iff]

end Document

end ModelExport
