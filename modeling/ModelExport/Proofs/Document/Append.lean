/-
# ModelExport.Proofs.Document.Append — the text of one program after another

The text of a program has three parts: the comments among the roots, the prologue,
and the classes. The first and the last are put together from the roots one by one,
and what a class says does not depend on where its nodes stand (`classText_part`).
So the comments of one program after another are those of the first and then those
of the second, and so are the classes; the prologue is there once.
-/
import ModelExport.Proofs.Document.Phrases
import ModelExport.Proofs.Document.Reference
import ModelExport.Proofs.Forest.Part

set_option autoImplicit false

namespace ModelExport

@[simp] theorem Construct.holdsRows_shift (offset : Nat) (construct : Construct) :
    (construct.shift offset).holdsRows = construct.holdsRows := by
  unfold shift
  split <;> rfl

theorem Forest.writesRows_part {part whole : Forest} {offset : Nat} (embed : Bool)
    (within : Part part whole offset) {children : List Handle}
    (known : ∀ child ∈ children, child < part.size) :
    whole.writesRows embed (children.map (· + offset)) = part.writesRows embed children := by
  rw [writesRows, within.any_passes (Construct.holdsRows_shift offset) known, writesRows]

namespace Document

variable (document : Document)

/-- The document of another program, spelled in the same way. -/
def on (forest : Forest) : Document := { document with forest := forest }

/-- The text of the comments among the roots. -/
def headerText : String :=
  String.join (document.forest.topComments.map fun text =>
    document.written 0 (Language.comment text))

/-- The text of the imports. -/
def prologueText : String := document.written 0 document.language.prologue

/-- The text of the classes. -/
def classesText : String := String.join (document.forest.classes.map document.classText)

theorem reference_eq :
    document.reference = document.headerText ++ document.prologueText ++ document.classesText :=
  rfl

/-! ## A class in a larger program -/

section

variable {part whole : Forest} {offset : Nat} (within : Forest.Part part whole offset)
include within

theorem hasArrays_part {children : List Handle}
    (known : ∀ child ∈ children, child < part.size) :
    (document.on whole).hasArrays (children.map (· + offset)) =
      (document.on part).hasArrays children := by
  rw [hasArrays_eq, hasArrays_eq]
  exact Forest.writesRows_part document.embed within known

theorem memberTexts_part {children : List Handle}
    (known : ∀ child ∈ children, child < part.size) :
    (document.on whole).memberTexts (children.map (· + offset)) =
      (document.on part).memberTexts children := by
  have ordered : (document.on whole).forest.order (document.on whole).embed
        (children.map (· + offset)) =
      ((document.on part).forest.order (document.on part).embed children).map (· + offset) :=
    within.order known document.embed
  rw [memberTexts, ordered, document.hasArrays_part within known, memberTexts, List.map_map]
  apply List.map_congr_left
  intro child member
  have inside : child < part.size := known child (Forest.mem_order.1 member).1
  have same : (document.on whole).forest.member (child + offset) =
      (document.on part).forest.member child := within.member inside
  rw [Function.comp_apply, memberText, memberText, same]
  rfl

/-- **The text of a class does not depend on where its nodes stand.** -/
theorem classText_part {handle : Handle} (inside : handle < part.size) :
    (document.on whole).classText (handle + offset) = (document.on part).classText handle := by
  have found : (document.on whole).forest.construct? (handle + offset) =
      ((document.on part).forest.construct? handle).map (Construct.shift offset) :=
    within.construct? inside
  have below : (document.on whole).forest.children (handle + offset) =
      ((document.on part).forest.children handle).map (· + offset) := within.children inside
  have members := document.memberTexts_part within (within.closed.children handle)
  unfold classText
  rw [found, below]
  cases (document.on part).forest.construct? handle with
  | none => rfl
  | some construct =>
      cases construct with
      | classBody name =>
          exact congrArg (fun texts => document.written 0 (document.language.openClass name) ++
            "\n".intercalate texts ++ document.written 1 (document.language.closeClass name))
            members
      | call callee type binding => cases callee <;> rfl
      | _ => rfl

end

/-! ## One program after another -/

variable {forest other : Forest} (first : forest.Closed) (second : other.Closed)
include first second

/-- What is read off the classes of one program after another, if it does not depend on where
their nodes stand. -/
theorem map_classes_append {α : Type} (read : Forest → Handle → α)
    (blind : ∀ {part whole : Forest} {offset : Nat}, Forest.Part part whole offset →
      ∀ {handle : Handle}, handle < part.size → read whole (handle + offset) = read part handle) :
    (forest.append other).classes.map (read (forest.append other)) =
      forest.classes.map (read forest) ++ other.classes.map (read other) := by
  have left := Forest.part_append_left first other
  have right := Forest.part_append_right second forest
  rw [Forest.classes_append first second, List.map_append, List.map_map]
  congr 1
  · apply List.map_congr_left
    intro handle member
    exact blind left (first.roots handle (List.mem_of_mem_filter member))
  · apply List.map_congr_left
    intro handle member
    exact blind right (second.roots handle (List.mem_of_mem_filter member))

theorem headerText_append :
    (document.on (forest.append other)).headerText =
      (document.on forest).headerText ++ (document.on other).headerText := by
  have comments : (document.on (forest.append other)).forest.topComments =
      (document.on forest).forest.topComments ++ (document.on other).forest.topComments :=
    Forest.topComments_append first second
  rw [headerText, comments, List.map_append, String.join_append]
  rfl

theorem classesText_append :
    (document.on (forest.append other)).classesText =
      (document.on forest).classesText ++ (document.on other).classesText := by
  have classes := map_classes_append first second
    (fun program => (document.on program).classText) (document.classText_part ·)
  rw [classesText, show (document.on (forest.append other)).forest.classes.map _ = _ from classes,
    String.join_append]
  rfl

end Document

end ModelExport
