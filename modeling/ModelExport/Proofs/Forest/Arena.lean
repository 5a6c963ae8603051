/-
# ModelExport.Proofs.Forest.Arena — programs are forests in the order of their making

A call gives back the handle of the node that it makes, and a caller can only name
parents that it was given (`Made`). Recorded parents, lists of children and the list
of roots are three accounts of one thing, and every call keeps them in agreement
(`Adds.keeps`): a node stands in the one list that its parent tells, once, and
behind everything older. `Walk` is the order in which nodes are met from the top
down. A new node is met as often as its parent is (`Walk.grow`), so each node of a
program is met exactly once (`made_rooted`).
-/
import Mathlib.Data.List.Nodup
import ModelExport.Proofs.Forest.Builder

set_option autoImplicit false

namespace ModelExport.Forest

/-! ## Calls and their handles -/

/-- The call names no parent, or one of the given handles. -/
def Names (handles : List Handle) (call : Builder) : Prop :=
  ∀ parent, call.parent? = some parent → parent ∈ handles

/-- A program that was made call by call, with the handles that were given back. Every call names a
parent that an earlier call gave back. -/
inductive Made : List Handle → Forest → Prop where
  | new : Made [] empty
  | call {handles : List Handle} {forest : Forest} (made : Made handles forest) (call : Builder)
      (names : Names handles call) :
      Made (handles ++ [(forest.build call).handle]) (forest.build call)

/-- The handles that were given back are those of all nodes. -/
theorem Made.mem_handles {handles : List Handle} {forest : Forest} (made : Made handles forest)
    (handle : Handle) : handle ∈ handles ↔ handle < forest.size := by
  induction made with
  | new => exact iff_of_false List.not_mem_nil (Nat.not_lt_zero handle)
  | call made call names ih =>
      rw [List.mem_append, List.mem_singleton, ih, build_eq_push, handle_push, size_push,
        Nat.lt_succ_iff_lt_or_eq]

/-- So a parent that a call may name is a node. -/
theorem Made.inside {handles : List Handle} {forest : Forest} (made : Made handles forest)
    {call : Builder} (names : Names handles call) (parent : Handle)
    (named : call.parent? = some parent) : parent < forest.size :=
  (made.mem_handles parent).1 (names parent named)

/-! ## What a call changes -/

/-- A call gives back the number of the nodes before it and adds one node, at the end of the one
list that its parent tells. -/
structure Adds (before : Forest) (call : Builder) (handle : Handle) (after : Forest) : Prop where
  number : handle = before.size
  size : after.size = before.size + 1
  fresh : after.nodes[handle]? = some ⟨call.construct, call.parent?, []⟩
  /-- What there was stands for the same and has the same parent. -/
  kept : ∀ (old : Handle) (node : Node), before.nodes[old]? = some node →
    ∃ children, after.nodes[old]? = some ⟨node.construct, node.parent, children⟩
  roots : after.roots = if call.parent? = none then before.roots ++ [handle] else before.roots
  children : ∀ owner, after.children owner =
    if call.parent? = some owner then before.children owner ++ [handle] else before.children owner

/-- An older node has the same construct and the same parent after one more call. -/
theorem exists_getElem?_push {forest : Forest} {old : Handle} {node : Node}
    (found : forest.nodes[old]? = some node) (parent : Option Handle) (construct : Construct) :
    ∃ children, (forest.push parent construct).nodes[old]? =
      some ⟨node.construct, node.parent, children⟩ := by
  have older : old ≠ forest.size := Nat.ne_of_lt (Array.getElem?_eq_some_iff.1 found).1
  rw [getElem?_push, if_neg older, found]
  split
  · exact ⟨_, rfl⟩
  · exact ⟨_, rfl⟩

theorem build_adds {forest : Forest} {call : Builder}
    (inside : ∀ parent, call.parent? = some parent → parent < forest.size) :
    forest.Adds call (forest.build call).handle (forest.build call) := by
  rw [build_eq_push, handle_push]
  refine ⟨rfl, size_push _ _ _, ?_, ?_, ?_, ?_⟩
  · rw [getElem?_push, if_pos rfl]
  · exact fun old node found => exists_getElem?_push found _ _
  · cases call.parent? <;> rfl
  · intro owner
    rw [children_push]
    by_cases named : call.parent? = some owner
    · rw [if_pos ⟨named, inside owner named⟩, if_pos named]
    · rw [if_neg fun both => named both.1, if_neg named]

/-- Whatever is made later, a handle stands for the same construct under the same parent. -/
theorem buildAll_kept (calls : List Builder) {forest : Forest} {handle : Handle} {node : Node}
    (found : forest.nodes[handle]? = some node) :
    ∃ children, (forest.buildAll calls).nodes[handle]? =
      some ⟨node.construct, node.parent, children⟩ := by
  induction calls generalizing forest node with
  | nil => exact ⟨node.children, found⟩
  | cons call rest ih =>
      obtain ⟨children, kept⟩ := exists_getElem?_push found call.parent? call.construct
      have later := ih kept
      rwa [buildAll_cons, build_eq_push]

/-! ## Three accounts of one thing -/

/-- Parents are older, and the lists say what the nodes record. -/
structure Agrees (forest : Forest) : Prop where
  older : ∀ (handle parent : Handle) (node : Node), forest.nodes[handle]? = some node →
    node.parent = some parent → parent < handle
  roots : ∀ handle, handle ∈ forest.roots ↔
    ∃ node : Node, forest.nodes[handle]? = some node ∧ node.parent = none
  children : ∀ owner handle, handle ∈ forest.children owner ↔
    ∃ node : Node, forest.nodes[handle]? = some node ∧ node.parent = some owner

theorem empty_agrees : Agrees empty where
  older := fun _ _ _ found => nomatch found
  roots := fun _ => iff_of_false List.not_mem_nil fun ⟨_, found, _⟩ => nomatch found
  children := fun _ _ => iff_of_false List.not_mem_nil fun ⟨_, found, _⟩ => nomatch found

namespace Adds

variable {before after : Forest} {call : Builder} {handle : Handle}

/-- A node after a call is an older one with the parent that it had, or the new one. -/
theorem exists_iff (adds : Adds before call handle after) (other : Handle)
    (parent : Option Handle) :
    (∃ node : Node, after.nodes[other]? = some node ∧ node.parent = parent) ↔
      (∃ node : Node, before.nodes[other]? = some node ∧ node.parent = parent) ∨
        (other = handle ∧ call.parent? = parent) := by
  constructor
  · rintro ⟨node, found, same⟩
    have bound : other < before.size + 1 := adds.size ▸ (Array.getElem?_eq_some_iff.1 found).1
    obtain old | new := Nat.lt_succ_iff_lt_or_eq.1 bound
    · have known : before.nodes[other]? = some before.nodes[other] :=
        Array.getElem?_eq_getElem old
      obtain ⟨children, kept⟩ := adds.kept other _ known
      obtain rfl := Option.some.inj (found.symm.trans kept)
      exact .inl ⟨_, known, same⟩
    · obtain rfl : other = handle := new.trans adds.number.symm
      obtain rfl := Option.some.inj (found.symm.trans adds.fresh)
      exact .inr ⟨rfl, same⟩
  · rintro (⟨node, found, same⟩ | ⟨rfl, same⟩)
    · obtain ⟨children, kept⟩ := adds.kept other node found
      exact ⟨_, kept, same⟩
    · exact ⟨_, adds.fresh, same⟩

/-- **A call keeps the three accounts in agreement**, if its parent was there. -/
theorem keeps (adds : Adds before call handle after)
    (inside : ∀ parent, call.parent? = some parent → parent < before.size)
    (agrees : before.Agrees) : after.Agrees := by
  refine ⟨?_, ?_, ?_⟩
  · intro other parent node found named
    obtain ⟨old, known, same⟩ | ⟨rfl, fresh⟩ := (adds.exists_iff other (some parent)).1
      ⟨node, found, named⟩
    · exact agrees.older other parent old known same
    · rw [adds.number]
      exact inside parent fresh
  · intro other
    rw [adds.exists_iff, adds.roots, ← agrees.roots]
    by_cases root : call.parent? = none
    · simp [root]
    · simp [root]
  · intro owner other
    rw [adds.exists_iff, adds.children, ← agrees.children]
    by_cases named : call.parent? = some owner
    · simp [named]
    · simp [named]

end Adds

/-! ## From the top down -/

/-- A walk from some nodes: each of them is met, then what is below it, then the next one. -/
inductive Walk (forest : Forest) : List Handle → List Handle → Prop where
  | nil : Walk forest [] []
  | cons {handle : Handle} {rest below others : List Handle}
      (down : Walk forest (forest.children handle) below) (on : Walk forest rest others) :
      Walk forest (handle :: rest) (handle :: (below ++ others))

namespace Walk

variable {forest : Forest} {handles more visited others : List Handle}

/-- There is one walk from given nodes at most. -/
theorem unique (walk : Walk forest handles visited) (other : Walk forest handles others) :
    others = visited := by
  induction walk generalizing others with
  | nil => cases other; rfl
  | cons down on first later =>
      cases other with
      | cons down' on' => rw [first down', later on']

theorem append (walk : Walk forest handles visited) (next : Walk forest more others) :
    Walk forest (handles ++ more) (visited ++ others) := by
  induction walk with
  | nil => exact next
  | cons down on first later =>
      rw [List.cons_append, List.cons_append, List.append_assoc]
      exact .cons down later

theorem single {handle : Handle} (bare : forest.children handle = []) :
    Walk forest [handle] [handle] := by
  have below : Walk forest (forest.children handle) [] := by
    rw [bare]
    exact .nil
  exact .cons below .nil

variable {after : Forest} {call : Builder} {fresh : Handle}

/-- **A new node is met as often as its parent**, and everything else as before. -/
theorem grow (walk : Walk forest handles visited) (adds : Adds forest call fresh after) :
    ∃ now, Walk after handles now ∧ ∀ handle, now.count handle =
      visited.count handle + if handle = fresh then call.parent?.elim 0 visited.count else 0 := by
  have last : Walk after [fresh] [fresh] := single (by rw [Forest.children, adds.fresh])
  induction walk with
  | nil =>
      refine ⟨[], .nil, fun handle => ?_⟩
      cases call.parent? <;> simp
  | @cons owner rest below others down on first later =>
      obtain ⟨under, downwards, counted⟩ := first
      obtain ⟨beyond, onwards, counted'⟩ := later
      have children := adds.children owner
      by_cases named : call.parent? = some owner
      · rw [if_pos named] at children
        have below' : Walk after (after.children owner) (under ++ [fresh]) :=
          children ▸ downwards.append last
        refine ⟨_, .cons below' onwards, fun handle => ?_⟩
        simp only [named, Option.elim_some] at counted counted' ⊢
        simp only [List.count_cons, List.count_append, List.count_nil, counted, counted',
          beq_iff_eq, eq_comm (a := fresh), if_true]
        split <;> omega
      · rw [if_neg named] at children
        have below' : Walk after (after.children owner) under := children ▸ downwards
        refine ⟨_, .cons below' onwards, fun handle => ?_⟩
        cases parent : call.parent? with
        | none =>
            simp only [parent, Option.elim_none] at counted counted' ⊢
            simp only [List.count_cons, List.count_append, counted, counted', ite_self]
            omega
        | some other =>
            have apart : owner ≠ other := fun same => named (by rw [parent, same])
            simp only [parent, Option.elim_some] at counted counted' ⊢
            simp only [List.count_cons, List.count_append, counted, counted', beq_iff_eq,
              if_neg apart]
            split <;> omega

end Walk

/-- A walk from the roots that meets every node once. -/
def Met (forest : Forest) : Prop :=
  ∃ visited, forest.Walk forest.roots visited ∧
    ∀ handle, visited.count handle = if handle < forest.size then 1 else 0

theorem empty_met : Met empty :=
  ⟨[], .nil, fun handle => (if_neg (Nat.not_lt_zero handle)).symm⟩

/-- Below a bound and at the bound is below the next one. -/
theorem below_succ (handle bound : Nat) :
    (if handle < bound then 1 else 0) + (if handle = bound then 1 else 0) =
      if handle < bound + 1 then 1 else 0 := by
  split <;> split <;> split <;> omega

/-- **A call keeps it that every node is met once**, if its parent was there. -/
theorem Adds.met {before after : Forest} {call : Builder} {fresh : Handle}
    (adds : Adds before call fresh after)
    (inside : ∀ parent, call.parent? = some parent → parent < before.size) (met : before.Met) :
    after.Met := by
  obtain ⟨visited, walk, counted⟩ := met
  obtain ⟨now, walks, grown⟩ := walk.grow adds
  have roots := adds.roots
  cases parent : call.parent? with
  | none =>
      rw [if_pos parent] at roots
      have last : Walk after [fresh] [fresh] :=
        Walk.single (by rw [Forest.children, adds.fresh])
      refine ⟨now ++ [fresh], roots ▸ walks.append last, fun handle => ?_⟩
      simp only [parent, Option.elim_none, ite_self, counted] at grown
      rw [List.count_append, grown, adds.size, adds.number, ← below_succ handle before.size,
        List.count_singleton]
      simp only [Nat.add_zero, beq_iff_eq, eq_comm (a := before.size)]
  | some owner =>
      rw [if_neg (by rw [parent]; exact Option.some_ne_none owner)] at roots
      refine ⟨now, roots ▸ walks, fun handle => ?_⟩
      simp only [parent, Option.elim_some, counted, if_pos (inside owner parent)] at grown
      rw [grown, adds.size, adds.number, ← below_succ handle before.size]

/-! ## Whole programs -/

/-- A program that was made call by call is in order, and every node of it is met once. -/
theorem Made.invariant {handles : List Handle} {forest : Forest} (made : Made handles forest) :
    forest.Agrees ∧ forest.Met ∧ forest.Ordered := by
  induction made with
  | new => exact ⟨empty_agrees, empty_met, empty_ordered⟩
  | call made call names ih =>
      obtain ⟨agrees, met, ordered⟩ := ih
      have adds := build_adds (made.inside names)
      refine ⟨adds.keeps (made.inside names) agrees, adds.met (made.inside names) met, ?_⟩
      rw [build_eq_push]
      exact push_ordered ordered _ _

/-- A forest in the order of its making. -/
structure Rooted (forest : Forest) : Prop extends Agrees forest where
  /-- A node with a parent stands once among the children of that parent, and nowhere else. -/
  owned : ∀ (handle parent : Handle) (node : Node), forest.nodes[handle]? = some node →
    node.parent = some parent → (forest.children parent).count handle = 1 ∧
      ∀ other, handle ∈ forest.children other → other = parent
  /-- Roots and children stand in the order of their making. -/
  increasing : forest.roots.Pairwise (· < ·) ∧
    ∀ owner, (forest.children owner).Pairwise (· < ·)
  /-- Going down from the roots, in the only way there is, meets every node once. -/
  walked : ∃ visited, forest.Walk forest.roots visited ∧
    (∀ others, forest.Walk forest.roots others → others = visited) ∧
    ∀ handle, visited.count handle = if handle < forest.size then 1 else 0

theorem Made.rooted {handles : List Handle} {forest : Forest} (made : Made handles forest) :
    forest.Rooted := by
  obtain ⟨agrees, ⟨visited, walk, counted⟩, ordered⟩ := made.invariant
  refine ⟨agrees, ?_, ⟨ordered.roots.1, fun owner => (ordered.children owner).1⟩,
    visited, walk, fun others other => walk.unique other, counted⟩
  intro handle parent node found named
  have member : handle ∈ forest.children parent := (agrees.children _ _).2 ⟨node, found, named⟩
  refine ⟨List.count_eq_one_of_mem (ordered.children parent).nodup member, ?_⟩
  intro other among
  obtain ⟨same, found', named'⟩ := (agrees.children other handle).1 among
  obtain rfl := Option.some.inj (found.symm.trans found')
  exact Option.some.inj (named'.symm.trans named)

/-- **Every program that is made call by call is a forest in the order of its making.** One more
call gives back the number of nodes so far and adds one node at the end of one list; what a handle
stands for, and its parent, stay the same whatever is made later. -/
theorem made_rooted {handles : List Handle} {forest : Forest} (made : Made handles forest) :
    forest.Rooted ∧
      (∀ call, Names handles call →
        forest.Adds call (forest.build call).handle (forest.build call)) ∧
      ∀ (later : List Builder) (handle : Handle) (node : Node),
        forest.nodes[handle]? = some node →
        ∃ children, (forest.buildAll later).nodes[handle]? =
          some ⟨node.construct, node.parent, children⟩ :=
  ⟨made.rooted, fun _ names => build_adds (made.inside names),
    fun later _ _ found => buildAll_kept later found⟩

/-- A class whose entry point has a statement with a comment below it, a comment among the roots,
and a late array. -/
def nested : List Builder :=
  [.classBody "A", .main 0, .topComment "note", .call 1 (.named "f") "T" "x", .comment 3 "deep",
    .array 0 "W" []]

theorem made_rooted_nested :
    let forest := ofBuilders nested
    Made [0, 1, 2, 3, 4, 5] forest ∧ forest.Rooted ∧ forest.roots = [0, 2] ∧
      forest.children 0 = [1, 5] ∧
      forest.Adds (.function 0 "g") 6 (ofBuilders (nested ++ [.function 0 "g"])) := by
  intro forest
  have root {handles : List Handle} {call : Builder} (root : call.parent? = none) :
      Names handles call := fun parent named => nomatch root.symm.trans named
  have child {handles : List Handle} {call : Builder} {parent : Handle}
      (named : call.parent? = some parent) (member : parent ∈ handles) : Names handles call :=
    fun other same => Option.some.inj (named.symm.trans same) ▸ member
  have made : Made [0, 1, 2, 3, 4, 5] forest :=
    (((((Made.new.call (.classBody "A") (root rfl)).call (.main 0) (child rfl (by decide))).call
      (.topComment "note") (root rfl)).call (.call 1 (.named "f") "T" "x")
        (child rfl (by decide))).call (.comment 3 "deep") (child rfl (by decide))).call
          (.array 0 "W" []) (child rfl (by decide))
  obtain ⟨rooted, adds, -⟩ := made_rooted made
  exact ⟨made, rooted, by decide, by decide, adds (.function 0 "g") (child rfl (by decide))⟩

end ModelExport.Forest
