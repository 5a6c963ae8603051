/-
# ModelExport.Proofs.Forest.Siblings — several nodes under one parent

Nodes made one after the other under one parent take the handles that follow, and
the parent gets them as further children in that order. `pushAll_roots` and
`pushAll_under` are the programs that come of this, node by node.
-/
import ModelExport.Proofs.Forest.Append

set_option autoImplicit false

namespace ModelExport.Forest

/-- A program with several more nodes under one parent. -/
def pushAll (forest : Forest) (parent : Option Handle) (constructs : List Construct) : Forest :=
  constructs.foldl (fun forest construct => forest.push parent construct) forest

@[simp] theorem pushAll_nil (forest : Forest) (parent : Option Handle) :
    forest.pushAll parent [] = forest := rfl

@[simp] theorem pushAll_cons (forest : Forest) (parent : Option Handle) (first : Construct)
    (rest : List Construct) :
    forest.pushAll parent (first :: rest) = (forest.push parent first).pushAll parent rest := rfl

theorem pushAll_concat (forest : Forest) (parent : Option Handle) (front back : List Construct) :
    forest.pushAll parent (front ++ back) = (forest.pushAll parent front).pushAll parent back :=
  List.foldl_append

@[simp] theorem size_pushAll (forest : Forest) (parent : Option Handle)
    (constructs : List Construct) :
    (forest.pushAll parent constructs).size = forest.size + constructs.length := by
  induction constructs generalizing forest with
  | nil => rfl
  | cons first rest ih =>
      rw [pushAll_cons, ih, size_push, List.length_cons]
      omega

/-- Nodes made under a raised handle are nodes raised after they were made. -/
theorem pushAll_append (forest other : Forest) (parent : Option Handle)
    (constructs : List Construct) :
    (forest.append other).pushAll (parent.map (· + forest.size))
        (constructs.map (Construct.shift forest.size)) =
      forest.append (other.pushAll parent constructs) := by
  induction constructs generalizing other with
  | nil => rfl
  | cons first rest ih => rw [List.map_cons, pushAll_cons, push_append, ih, pushAll_cons]

/-! ## What comes of it -/

/-- A node without children. -/
def leaf (parent : Option Handle) (construct : Construct) : Node := ⟨construct, parent, []⟩

/-- A node with further children. -/
def adopt (handles : List Handle) (node : Node) : Node :=
  ⟨node.construct, node.parent, node.children ++ handles⟩

theorem pushAll_roots (nodes : List Node) (roots : List Handle) (constructs : List Construct) :
    pushAll ⟨nodes.toArray, roots⟩ none constructs =
      ⟨(nodes ++ constructs.map (leaf none)).toArray,
        roots ++ List.range' nodes.length constructs.length⟩ := by
  induction constructs generalizing nodes roots with
  | nil => simp
  | cons first rest ih =>
      have made : (push ⟨nodes.toArray, roots⟩ none first : Forest) =
          ⟨(nodes ++ [leaf none first]).toArray, roots ++ [nodes.length]⟩ := by
        simp [push, size, leaf]
      rw [pushAll_cons, made, ih]
      simp [List.range'_succ]

theorem push_under (before after : List Node) (owner : Node) (roots : List Handle)
    (construct : Construct) :
    (push ⟨(before ++ owner :: after).toArray, roots⟩ (some before.length) construct : Forest) =
      ⟨(before ++ owner.addChild (before.length + 1 + after.length) ::
        (after ++ [leaf (some before.length) construct])).toArray, roots⟩ := by
  have changed (change : Node → Node) :
      (before ++ owner :: after).modify before.length change = before ++ change owner :: after := by
    induction before with
    | nil => rfl
    | cons first rest ih => exact congrArg (first :: ·) ih
  have free : before.length + (after.length + 1) = before.length + 1 + after.length := by omega
  simp [push, size, leaf, changed, free]

theorem pushAll_under (before after : List Node) (owner : Node) (roots : List Handle)
    (constructs : List Construct) :
    pushAll ⟨(before ++ owner :: after).toArray, roots⟩ (some before.length) constructs =
      ⟨(before ++ adopt (List.range' (before.length + 1 + after.length) constructs.length) owner ::
        (after ++ constructs.map (leaf (some before.length)))).toArray, roots⟩ := by
  induction constructs generalizing owner after with
  | nil => simp [adopt]
  | cons first rest ih =>
      rw [pushAll_cons, push_under, ih]
      simp [adopt, Node.addChild, List.range'_succ, Nat.add_assoc]

end ModelExport.Forest
