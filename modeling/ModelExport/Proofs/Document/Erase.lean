/-
# ModelExport.Proofs.Document.Erase — what the flag of embedding leaves out

Spelled without embedding, a program says what it would say if it had nothing
embedded: no training rows, and no array for any model to take its parameters from.
The flag is looked at in three places, for the rows of a class, for the source of
its loaders and for the parameters of a network; `Forest.erase` takes the two
payloads away once and for all. `phrases_erase` says that the three places agree
with it, phrase by phrase, whatever the program is: it need not be one that a
session builds, and the arrays that handles point at need not be there.
-/
import ModelExport.Proofs.Document.Phrases
import ModelExport.Proofs.Forest.Builder

set_option autoImplicit false

namespace ModelExport

namespace Construct

/-- A construct without rows, and without the array that parameters come from. -/
def erase : Construct → Construct
  | .networkFunction name file _ => .networkFunction name file none
  | .embeddedTraining file _ => .embeddedTraining file none
  | other => other

variable (construct : Construct)

@[simp] theorem functionName?_erase : construct.erase.functionName? = construct.functionName? := by
  cases construct <;> rfl

@[simp] theorem className?_erase : construct.erase.className? = construct.className? := by
  cases construct <;> rfl

@[simp] theorem isClass_erase : construct.erase.isClass = construct.isClass := by
  cases construct <;> rfl

@[simp] theorem isCode_erase : construct.erase.isCode = construct.isCode := by
  cases construct <;> rfl

@[simp] theorem isMain_erase : construct.erase.isMain = construct.isMain := by
  cases construct <;> rfl

@[simp] theorem holdsRows_erase : construct.erase.holdsRows = false := by
  cases construct <;> rfl

/-- With nothing embedded, the flag makes no difference to what is declared. -/
@[simp] theorem declares_erase : construct.erase.declares true = construct.declares false := by
  cases construct with
  | embeddedTraining file rows => cases rows <;> rfl
  | _ => rfl

end Construct

/-- A node whose construct is erased; it stands where it stood. -/
def Node.erase (node : Node) : Node := { node with construct := node.construct.erase }

/-- A member whose parameters come from the file. -/
def Member.erase : Member → Member
  | .network name file _ body => .network name file none body
  | other => other

/-- Without embedding a member says what it says erased. -/
theorem Member.phrases_erase (member : Member) (arrays : Bool) :
    member.erase.phrases true arrays = member.phrases false arrays := by
  cases member with
  | network name file weights body => cases weights <;> rfl
  | _ => rfl

namespace Forest

/-- A program with all its constructs erased. -/
def erase (forest : Forest) : Forest := ⟨forest.nodes.map Node.erase, forest.roots⟩

variable (forest : Forest) (handle : Handle)

/-! ## Asking an erased program -/

@[simp] theorem construct?_erase :
    forest.erase.construct? handle = (forest.construct? handle).map Construct.erase := by
  rw [construct?, erase, Array.getElem?_map, construct?, Option.map_map, Option.map_map]
  rfl

@[simp] theorem children_erase : forest.erase.children handle = forest.children handle := by
  rw [children, erase, Array.getElem?_map, children]
  cases forest.nodes[handle]? <;> rfl

theorem passes_erase {test erased : Construct → Bool}
    (same : ∀ construct : Construct, erased construct.erase = test construct) :
    forest.erase.passes erased handle = forest.passes test handle := by
  rw [passes, construct?_erase, passes, Option.any_map]
  congr 1
  exact funext same

@[simp] theorem functionName?_erase :
    forest.erase.functionName? handle = forest.functionName? handle := by
  rw [functionName?, construct?_erase, functionName?]
  cases forest.construct? handle with
  | none => rfl
  | some construct => exact construct.functionName?_erase

@[simp] theorem className_erase : forest.erase.className handle = forest.className handle := by
  rw [className, construct?_erase, className]
  cases forest.construct? handle with
  | none => rfl
  | some construct => exact congrArg (Option.getD · "") construct.className?_erase

theorem classes_erase : forest.erase.classes = forest.classes := by
  have same (root : Handle) : forest.erase.passes Construct.isClass root =
      forest.passes Construct.isClass root :=
    forest.passes_erase root Construct.isClass_erase
  exact List.filter_congr fun root _ => same root

theorem topComments_erase : forest.erase.topComments = forest.topComments := by
  rw [topComments, topComments]
  congr 1
  funext root
  rw [construct?_erase]
  cases forest.construct? root with
  | none => rfl
  | some construct => cases construct <;> rfl

/-! ## Outlines -/

/-- A statement holds no payload. -/
theorem statement_erase : forest.erase.statement handle = forest.statement handle := by
  unfold statement
  rw [construct?_erase]
  cases forest.construct? handle with
  | none => rfl
  | some construct =>
      cases construct with
      | call callee type binding =>
          have named : forest.erase.calleeName? callee = forest.calleeName? callee := by
            cases callee with
            | node target => exact forest.functionName?_erase target
            | named name => rfl
          simp only [Option.map_some, Construct.erase, named]
      | _ => rfl

theorem body_erase : forest.erase.body handle = forest.body handle := by
  have same : forest.erase.statement = forest.statement := funext forest.statement_erase
  rw [body, children_erase, same, body]

/-- With nothing embedded the members are those without embedding. -/
theorem order_erase (children : List Handle) :
    forest.erase.order true children = forest.order false children := by
  have same {test erased : Construct → Bool}
      (agree : ∀ construct : Construct, erased construct.erase = test construct) :
      forest.erase.passes erased = forest.passes test :=
    funext fun handle => forest.passes_erase handle agree
  rw [order, order, same Construct.declares_erase, same Construct.isCode_erase,
    same Construct.isMain_erase]

/-- A member without embedding, seen in the erased program. -/
theorem member_erase (isMember : forest.passes (Construct.isMember false) handle = true) :
    forest.erase.member handle = (forest.member handle).map (Option.map Member.erase) := by
  obtain ⟨construct, found, passed⟩ := passes_eq_true.1 isMember
  unfold member
  rw [construct?_erase, found, body_erase]
  cases construct with
  | embeddedTraining file rows =>
      -- rows are no member, so this one would have to pass without any
      cases rows <;> cases passed
  | networkFunction name file weights => cases forest.body handle <;> rfl
  | function name => cases forest.body handle <;> rfl
  | trainingLoader file => cases forest.body handle <;> rfl
  | mainFunction => cases forest.body handle <;> rfl
  | _ => rfl

theorem members_erase (children : List Handle) :
    forest.erase.members true children =
      (forest.members false children).map (List.map Member.erase) := by
  have asked := mapM_eq_map fun handle (ordered : handle ∈ forest.order false children) =>
    forest.member_erase handle (mem_order.1 ordered).2
  rw [members, order_erase, asked, members, map_map, map_map]
  congr 1
  funext found
  rw [Function.comp_apply, Function.comp_apply, List.filterMap_map, List.map_filterMap]
  rfl

/-! ## Phrases -/

/-- No class of an erased program has training rows. -/
theorem writesRows_erase (children : List Handle) :
    forest.erase.writesRows true children = false := by
  have none_holds : forest.erase.passes Construct.holdsRows = forest.passes fun _ => false :=
    funext fun child => forest.passes_erase child Construct.holdsRows_erase
  rw [writesRows, none_holds, Bool.true_and, List.any_eq_false]
  intro child _ passed
  obtain ⟨construct, -, never⟩ := passes_eq_true.1 passed
  cases never

theorem spelledClass_erase :
    forest.erase.spelledClass true handle = forest.spelledClass false handle := by
  rw [spelledClass, spelledClass, children_erase, members_erase, className_erase,
    writesRows_erase, map_map]
  congr 1
  funext members
  have each : Member.phrases true false ∘ Member.erase = Member.phrases false false :=
    funext fun member => member.phrases_erase false
  rw [Function.comp_apply, List.map_map, each]
  rfl

/-- **Without embedding a program says what it says erased.** -/
theorem phrases_erase : forest.erase.phrases true = forest.phrases false := by
  have classes : forest.erase.spelledClass true = forest.spelledClass false :=
    funext forest.spelledClass_erase
  rw [phrases, spelledClasses, classes_erase, classes, phrases, spelledClasses]
  congr 1
  funext classes
  rw [phrasesAround, topComments_erase, phrasesAround]

end Forest

namespace Document

/-- **The flag of embedding is the erasure of what is embedded**: a program spelled without
embedding comes to the same, be it a text or a fault, as the erased program spelled with it. So
programs that are the same when erased are the same without embedding. -/
theorem text_unembedded (language : Language) (indentWidth valuesPerLine : Nat) (forest : Forest) :
    (Document.mk language indentWidth valuesPerLine false forest).text =
        (Document.mk language indentWidth valuesPerLine true forest.erase).text ∧
      ∀ other : Forest, other.erase = forest.erase →
        (Document.mk language indentWidth valuesPerLine false other).text =
          (Document.mk language indentWidth valuesPerLine false forest).text := by
  have erased (forest : Forest) :
      (Document.mk language indentWidth valuesPerLine false forest).text =
        (Document.mk language indentWidth valuesPerLine true forest.erase).text := by
    rw [text_eq_phrases, text_eq_phrases, forest.phrases_erase]
  refine ⟨erased forest, fun other same => ?_⟩
  rw [erased other, erased forest, same]

/-- A class with an array, a model, training rows and their loader. -/
def payload (weights : Option Handle) (rows : Option TrainingSet) : Forest :=
  Forest.ofBuilders [.classBody "A", .array 0 "W" [.zero], .network 0 "model" ⟨"m.json"⟩ weights,
    .embeddedTraining 0 ⟨"rows.csv"⟩ rows, .trainingLoader 0 ⟨"rows.csv"⟩]

theorem text_unembedded_payload :
    let full := payload (some 1) (some ⟨[[.zero]], [[.zero]]⟩)
    let bare := payload none none
    bare.erase = full.erase ∧ bare ≠ full ∧
      (Document.mk .java 4 8 false full).text = (Document.mk .java 4 8 true full.erase).text ∧
      (Document.mk .java 4 8 false bare).text = (Document.mk .java 4 8 false full).text := by
  intro full bare
  have same : bare.erase = full.erase := by decide +kernel
  obtain ⟨erased, blind⟩ := text_unembedded .java 4 8 full
  exact ⟨same, by decide +kernel, erased, blind bare same⟩

end Document

end ModelExport
