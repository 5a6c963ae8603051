/-
# ModelExport.Proofs.Forest.Builder — programs made call by call

Every program is made from the empty one by calls that each make one node. The
new node is asked for under the handle that the call gives back, no other construct
changes (`getElem?_push`), and the only list of children that changes is that of the
parent, at its end (`children_push`). Hence the roots, and the children of every
node, stand in the order of their making, none of them twice (`ofBuilders_ordered`).
-/
import ModelExport.Forest

set_option autoImplicit false

namespace ModelExport

/-- A call that makes a node. -/
inductive Builder where
  | topComment (text : String)
  | classBody (name : String)
  | comment (parent : Handle) (text : String)
  | main (parent : Handle)
  | function (parent : Handle) (name : String)
  | network (parent : Handle) (name : String) (file : Path) (weights : Option Handle)
  | array (parent : Handle) (name : String) (values : List Binary64)
  | call (parent : Handle) (callee : Callee) (type binding : String)
  | embeddedTraining (parent : Handle) (file : Path) (rows : Option TrainingSet)
  | trainingLoader (parent : Handle) (file : Path)

/-- The parent that a call names; none for a root. -/
def Builder.parent? : Builder → Option Handle
  | .topComment _ => none
  | .classBody _ => none
  | .comment parent _ => some parent
  | .main parent => some parent
  | .function parent _ => some parent
  | .network parent _ _ _ => some parent
  | .array parent _ _ => some parent
  | .call parent _ _ _ => some parent
  | .embeddedTraining parent _ _ => some parent
  | .trainingLoader parent _ => some parent

/-- What the node of a call stands for. -/
def Builder.construct : Builder → Construct
  | .topComment text => .comment text
  | .classBody name => .classBody name
  | .comment _ text => .comment text
  | .main _ => .mainFunction
  | .function _ name => .function name
  | .network _ name file weights => .networkFunction name file weights
  | .array _ name values => .arrayLiteral name values
  | .call _ callee type binding => .call callee type binding
  | .embeddedTraining _ file rows => .embeddedTraining file rows
  | .trainingLoader _ file => .trainingLoader file

namespace Forest

/-- Carry out a call. -/
def build (forest : Forest) : Builder → Grown
  | .topComment text => forest.addTopComment text
  | .classBody name => forest.addClass name
  | .comment parent text => forest.addComment parent text
  | .main parent => forest.addMain parent
  | .function parent name => forest.addFunction parent name
  | .network parent name file weights => forest.addNetworkFunction parent name file weights
  | .array parent name values => forest.addArray parent name values
  | .call parent callee type binding => forest.addCall parent callee type binding
  | .embeddedTraining parent file rows => forest.addEmbeddedTraining parent file rows
  | .trainingLoader parent file => forest.addTrainingLoader parent file

/-- Carry out calls, one after the other. -/
def buildAll (forest : Forest) (calls : List Builder) : Forest :=
  calls.foldl (fun forest call => forest.build call) forest

/-- The program that a sequence of calls makes. -/
def ofBuilders (calls : List Builder) : Forest := empty.buildAll calls

theorem buildAll_cons (forest : Forest) (call : Builder) (rest : List Builder) :
    forest.buildAll (call :: rest) = (forest.build call : Forest).buildAll rest := rfl

/-- Every call is one push. -/
theorem build_eq_push (forest : Forest) (call : Builder) :
    forest.build call = forest.push call.parent? call.construct := by
  cases call <;> rfl

/-! ## One push -/

theorem getElem?_push (forest : Forest) (parent : Option Handle) (construct : Construct)
    (handle : Handle) :
    (forest.push parent construct).nodes[handle]? =
      if handle = forest.size then some ⟨construct, parent, []⟩
      else if parent = some handle then forest.nodes[handle]?.map (Node.addChild forest.size)
      else forest.nodes[handle]? := by
  cases parent with
  | none => simp [push, size, Array.getElem?_push]
  | some owner =>
      simp only [push, size, Array.getElem?_push, Array.size_modify, Array.getElem?_modify,
        Option.some.injEq]

theorem children_push (forest : Forest) (parent : Option Handle) (construct : Construct)
    (handle : Handle) :
    (forest.push parent construct).children handle =
      if parent = some handle ∧ handle < forest.size then forest.children handle ++ [forest.size]
      else forest.children handle := by
  simp only [children, getElem?_push]
  by_cases fresh : handle = forest.size
  · simp [fresh, size]
  rw [if_neg fresh]
  by_cases owner : parent = some handle
  · cases found : forest.nodes[handle]? with
    | none =>
        have outside : ¬ handle < forest.size :=
          Nat.not_lt.2 (Array.getElem?_eq_none_iff.1 found)
        simp [owner, outside]
    | some node =>
        have inside : handle < forest.size := (Array.getElem?_eq_some_iff.1 found).1
        simp [owner, inside, Node.addChild]
  · simp [owner]

/-! ## The order of nodes -/

/-- The handles of a list are below a bound, and in the order of their making. -/
def Increasing (bound : Nat) (handles : List Handle) : Prop :=
  handles.Pairwise (· < ·) ∧ ∀ handle ∈ handles, handle < bound

theorem Increasing.mono {bound more : Nat} {handles : List Handle}
    (increasing : Increasing bound handles) (le : bound ≤ more) : Increasing more handles :=
  ⟨increasing.1, fun handle member => Nat.lt_of_lt_of_le (increasing.2 handle member) le⟩

theorem Increasing.append {bound : Nat} {handles : List Handle}
    (increasing : Increasing bound handles) : Increasing (bound + 1) (handles ++ [bound]) := by
  refine ⟨List.pairwise_append.2 ⟨increasing.1, List.pairwise_singleton _ _, ?_⟩, ?_⟩
  · intro handle member last fresh
    rw [List.mem_singleton.1 fresh]
    exact increasing.2 handle member
  · intro handle member
    rcases List.mem_append.1 member with old | fresh
    · exact Nat.lt_succ_of_lt (increasing.2 handle old)
    · rw [List.mem_singleton.1 fresh]
      exact Nat.lt_succ_self _

theorem Increasing.nodup {bound : Nat} {handles : List Handle}
    (increasing : Increasing bound handles) : handles.Nodup :=
  increasing.1.imp fun less => Nat.ne_of_lt less

/-- The roots, and the children of every node, are nodes in the order of their making. -/
structure Ordered (forest : Forest) : Prop where
  roots : Increasing forest.size forest.roots
  children : ∀ handle, Increasing forest.size (forest.children handle)

theorem empty_ordered : Ordered empty where
  roots := ⟨List.Pairwise.nil, fun _ member => nomatch member⟩
  children := fun handle => by
    rw [Forest.children, empty, Array.getElem?_empty]
    exact ⟨List.Pairwise.nil, fun _ member => nomatch member⟩

theorem push_ordered {forest : Forest} (ordered : forest.Ordered) (parent : Option Handle)
    (construct : Construct) : (forest.push parent construct).Ordered where
  roots := by
    rw [size_push]
    cases parent with
    | none => exact ordered.roots.append
    | some handle => exact ordered.roots.mono (Nat.le_succ _)
  children := fun handle => by
    rw [children_push, size_push]
    split
    · exact (ordered.children handle).append
    · exact (ordered.children handle).mono (Nat.le_succ _)

/-- **Whatever is made call by call has its roots and its children in order.** -/
theorem ofBuilders_ordered (calls : List Builder) : (ofBuilders calls).Ordered := by
  suffices run : ∀ (calls : List Builder) (forest : Forest), forest.Ordered →
      (forest.buildAll calls).Ordered from run calls empty empty_ordered
  intro calls
  induction calls with
  | nil => exact fun _ ordered => ordered
  | cons call rest ih =>
      intro forest ordered
      rw [buildAll_cons, build_eq_push]
      exact ih _ (push_ordered ordered call.parent? call.construct)

end Forest

end ModelExport
