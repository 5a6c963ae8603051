/-
# ModelExport.Proofs.Forest.Outline — what a program says, without handles

The outline of a node is its own content with that of its direct children, where
every handle is replaced by the name that it stands for. The outline of a call
that points at no function is a fault. A class has its members in three groups,
each in the order of the children: arrays and rows, comments and functions, and
the entry points (`Forest.order`). Neither the language nor the layout has a part
in any of this, and the flag of embedding only decides whether rows are members.
-/
import ModelExport.Failure
import ModelExport.Forest
import ModelExport.Proofs.Fold

set_option autoImplicit false

namespace ModelExport

/-- A statement of a function, with the name of the function that it calls. -/
inductive Statement where
  | comment (text : String)
  | array (name : String) (values : List Binary64)
  | call (function type binding : String)

/-- A member of a class, with the names that it mentions. -/
inductive Member where
  | array (name : String) (values : List Binary64)
  | rows (set : TrainingSet)
  | comment (text : String)
  | function (name : String) (body : List Statement)
  | network (name : String) (file : Path) (weights : Option String) (body : List Statement)
  | loader (file : Path) (body : List Statement)
  | main (body : List Statement)

namespace Construct

/-- Whether a child of a class declares arrays. -/
def declares (embed : Bool) : Construct → Bool
  | .arrayLiteral _ _ => true
  | .embeddedTraining _ (some _) => embed
  | _ => false

/-- Whether a child of a class is a comment, or a function other than the entry point. -/
def isCode : Construct → Bool
  | .comment _ => true
  | .function _ => true
  | .networkFunction _ _ _ => true
  | .trainingLoader _ => true
  | _ => false

def isMain : Construct → Bool
  | .mainFunction => true
  | _ => false

/-- Whether a child of a class becomes a member. -/
def isMember (embed : Bool) (construct : Construct) : Bool :=
  construct.declares embed || construct.isCode || construct.isMain

/-- A construct belongs to one group at most. -/
theorem apart (embed : Bool) (construct : Construct) :
    ¬ (construct.declares embed = true ∧ construct.isCode = true) ∧
      ¬ (construct.declares embed = true ∧ construct.isMain = true) ∧
      ¬ (construct.isCode = true ∧ construct.isMain = true) := by
  cases construct <;> simp [declares, isCode, isMain]

/-- The constructs of the children of a class that become members, in the order of the members. -/
def ordered (embed : Bool) (constructs : List Construct) : List Construct :=
  constructs.filter (declares embed) ++ constructs.filter isCode ++ constructs.filter isMain

end Construct

namespace Forest

/-- The statement that a child of a function is, if it is one. -/
def statement (forest : Forest) (handle : Handle) : Except Failure (Option Statement) :=
  match forest.construct? handle with
  | some (.comment text) => .ok (some (.comment text))
  | some (.arrayLiteral name values) => .ok (some (.array name values))
  | some (.call callee type binding) =>
      match forest.calleeName? callee with
      | some name => .ok (some (.call name type binding))
      | none => .error (.invalidCallTarget binding)
  | _ => .ok none

/-- The statements of a function. -/
def body (forest : Forest) (handle : Handle) : Except Failure (List Statement) :=
  ((forest.children handle).mapM forest.statement).map fun found => found.filterMap id

/-- The member that a child of a class is, if it is one. -/
def member (forest : Forest) (handle : Handle) : Except Failure (Option Member) :=
  match forest.construct? handle with
  | some (.arrayLiteral name values) => .ok (some (.array name values))
  | some (.embeddedTraining _ rows) => .ok (rows.map .rows)
  | some (.comment text) => .ok (some (.comment text))
  | some (.function name) => (forest.body handle).map fun body => some (.function name body)
  | some (.networkFunction name file weights) =>
      (forest.body handle).map fun body =>
        some (.network name file (weights.bind forest.arrayName?) body)
  | some (.trainingLoader file) => (forest.body handle).map fun body => some (.loader file body)
  | some .mainFunction => (forest.body handle).map fun body => some (.main body)
  | _ => .ok none

/-- Whether the construct of a node passes a test. -/
def passes (forest : Forest) (test : Construct → Bool) (handle : Handle) : Bool :=
  (forest.construct? handle).any test

/-- The children of a class that become members, in the order in which they are written. -/
def order (forest : Forest) (embed : Bool) (children : List Handle) : List Handle :=
  children.filter (forest.passes (Construct.declares embed)) ++
    children.filter (forest.passes Construct.isCode) ++
    children.filter (forest.passes Construct.isMain)

/-- The members of a class with the given children. -/
def members (forest : Forest) (embed : Bool) (children : List Handle) :
    Except Failure (List Member) :=
  ((forest.order embed children).mapM forest.member).map fun found => found.filterMap id

/-! ## The order of members -/

theorem passes_eq_true {forest : Forest} {test : Construct → Bool} {handle : Handle} :
    forest.passes test handle = true ↔
      ∃ construct, forest.construct? handle = some construct ∧ test construct = true :=
  Option.any_eq_true _ _

/-- The order of children is that of their constructs. -/
theorem map_construct?_order {forest : Forest} {children : List Handle}
    {constructs : List Construct}
    (known : children.map forest.construct? = constructs.map some) (embed : Bool) :
    (forest.order embed children).map forest.construct? =
      (Construct.ordered embed constructs).map some := by
  have group (test : Construct → Bool) :
      (children.filter (forest.passes test)).map forest.construct? =
        (constructs.filter test).map some :=
    calc (children.filter (forest.passes test)).map forest.construct?
        = (children.map forest.construct?).filter (Option.any test) := List.filter_map.symm
      _ = (constructs.map some).filter (Option.any test) := by rw [known]
      _ = (constructs.filter test).map some := List.filter_map
  rw [order, Construct.ordered, List.map_append, List.map_append, group, group, group,
    List.map_append, List.map_append]

/-- A test is passed by some child if it is passed by some construct. -/
theorem any_passes_of_constructs {forest : Forest} {children : List Handle}
    {constructs : List Construct} (known : children.map forest.construct? = constructs.map some)
    (test : Construct → Bool) : children.any (forest.passes test) = constructs.any test :=
  calc children.any (forest.passes test)
      = (children.map forest.construct?).any (Option.any test) := List.any_map.symm
    _ = (constructs.map some).any (Option.any test) := by rw [known]
    _ = constructs.any test := List.any_map

/-- Every child that becomes a member is in the order, and nothing else. -/
theorem mem_order {forest : Forest} {embed : Bool} {children : List Handle} {child : Handle} :
    child ∈ forest.order embed children ↔
      child ∈ children ∧ forest.passes (Construct.isMember embed) child = true := by
  simp only [order, List.mem_append, List.mem_filter, ← and_or_left]
  refine and_congr_right fun _ => ?_
  cases found : forest.construct? child <;> simp [passes, found, Construct.isMember]

/-- A child that becomes a member is in one group. -/
theorem order_singleton {forest : Forest} {embed : Bool} {child : Handle}
    (passed : forest.passes (Construct.isMember embed) child = true) :
    forest.order embed [child] = [child] := by
  obtain ⟨construct, found, passed⟩ := passes_eq_true.1 passed
  obtain ⟨noCode, noMain, apart⟩ := construct.apart embed
  simp only [Construct.isMember, Bool.or_eq_true, or_assoc] at passed
  simp only [order, passes, found, Option.any_some, List.filter_cons, List.filter_nil]
  obtain declared | code | main := passed
  · simp_all
  · simp_all
  · simp_all

/-- No child is written twice. -/
theorem nodup_order {forest : Forest} {children : List Handle} (distinct : children.Nodup)
    (embed : Bool) : (forest.order embed children).Nodup := by
  have groups {test other : Construct → Bool} (exclusive : ∀ construct,
      ¬ (test construct = true ∧ other construct = true)) (handle : Handle)
      (member : handle ∈ children.filter (forest.passes test)) :
      handle ∉ children.filter (forest.passes other) := by
    intro again
    obtain ⟨construct, found, passed⟩ := passes_eq_true.1 (List.mem_filter.1 member).2
    obtain ⟨same, found', passed'⟩ := passes_eq_true.1 (List.mem_filter.1 again).2
    obtain rfl : construct = same := Option.some.inj (found.symm.trans found')
    exact exclusive construct ⟨passed, passed'⟩
  have arrays := groups (fun construct => (construct.apart embed).1)
  have constants := groups (fun construct => (construct.apart embed).2.1)
  have code := groups (fun construct => (construct.apart embed).2.2)
  refine List.nodup_append.2 ⟨List.nodup_append.2 ⟨distinct.filter _, distinct.filter _, ?_⟩,
    distinct.filter _, ?_⟩
  · rintro handle member _ again rfl
    exact arrays handle member again
  · rintro handle member _ again rfl
    rcases List.mem_append.1 member with declared | coded
    · exact constants handle declared again
    · exact code handle coded again

/-- A child in the order is a member, unless its outline is a fault. -/
theorem member_of_isMember {forest : Forest} {embed : Bool} {handle : Handle}
    (passed : forest.passes (Construct.isMember embed) handle = true) {found : Option Member}
    (asked : forest.member handle = .ok found) : ∃ member, found = some member := by
  obtain ⟨construct, known, passed⟩ := passes_eq_true.1 passed
  rw [member, known] at asked
  cases construct with
  | comment text => exact ⟨_, (Except.ok.inj asked).symm⟩
  | arrayLiteral name values => exact ⟨_, (Except.ok.inj asked).symm⟩
  | embeddedTraining file rows =>
      cases rows with
      | none => cases passed
      | some set => exact ⟨_, (Except.ok.inj asked).symm⟩
  | function name =>
      obtain ⟨body, -, rfl⟩ := map_eq_ok.1 asked
      exact ⟨_, rfl⟩
  | mainFunction =>
      obtain ⟨body, -, rfl⟩ := map_eq_ok.1 asked
      exact ⟨_, rfl⟩
  | networkFunction name file weights =>
      obtain ⟨body, -, rfl⟩ := map_eq_ok.1 asked
      exact ⟨_, rfl⟩
  | trainingLoader file =>
      obtain ⟨body, -, rfl⟩ := map_eq_ok.1 asked
      exact ⟨_, rfl⟩
  | classBody name => cases passed
  | call callee type binding => cases passed

/-- So all children in the order are members. -/
theorem exists_members {forest : Forest} {embed : Bool} {children : List Handle}
    {found : List (Option Member)}
    (asked : (forest.order embed children).mapM forest.member = .ok found) :
    ∃ members : List Member, found = members.map some := by
  have present : ∀ answer ∈ found, ∃ member, answer = some member := by
    intro answer inside
    obtain ⟨child, ordered, answered⟩ := exists_of_mem_mapM asked inside
    exact member_of_isMember (mem_order.1 ordered).2 answered
  clear asked
  induction found with
  | nil => exact ⟨[], rfl⟩
  | cons answer rest ih =>
      obtain ⟨own, others⟩ := List.forall_mem_cons.1 present
      obtain ⟨member, rfl⟩ := own
      obtain ⟨members, rfl⟩ := ih others
      exact ⟨member :: members, rfl⟩

end Forest

end ModelExport
