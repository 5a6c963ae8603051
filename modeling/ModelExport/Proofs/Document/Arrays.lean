/-
# ModelExport.Proofs.Document.Arrays — the constants that a class declares

A class declares constants for its arrays and, when embedding, for its training
rows. `classArrays` lists their names in the order of the text, and the text has the
declaration of each name that is listed (`reference_declares`). The names come from
the constructs of the children alone (`classArrays_eq`), and they do not depend on
where the nodes of the class stand (`classArrays_part`).
-/
import ModelExport.Proofs.Document.Append

set_option autoImplicit false

namespace ModelExport

/-! ## A text in a text -/

/-- The first text has the second one in it. -/
def Holds (text part : String) : Prop := ∃ front back, text = front ++ part ++ back

namespace Holds

variable {text part : String}

theorem append (holds : Holds text part) (more : String) : Holds (text ++ more) part := by
  obtain ⟨front, back, rfl⟩ := holds
  exact ⟨front, back ++ more, String.append_assoc⟩

theorem prepend (holds : Holds text part) (before : String) : Holds (before ++ text) part := by
  obtain ⟨front, back, rfl⟩ := holds
  exact ⟨before ++ front, back, by simp only [String.append_assoc]⟩

theorem join {texts : List String} (holds : Holds text part) (member : text ∈ texts) :
    Holds (String.join texts) part := by
  induction texts with
  | nil => cases member
  | cons first rest ih =>
      rw [String.join_cons]
      rcases List.mem_cons.1 member with rfl | later
      · exact holds.append _
      · exact (ih later).prepend first

theorem intercalate {texts : List String} (holds : Holds text part) (member : text ∈ texts)
    (separator : String) : Holds (separator.intercalate texts) part := by
  induction texts with
  | nil => cases member
  | cons first rest ih =>
      cases rest with
      | nil =>
          obtain rfl := List.mem_singleton.1 member
          rwa [String.intercalate_singleton]
      | cons next rest =>
          rw [String.intercalate_cons_cons]
          rcases List.mem_cons.1 member with rfl | later
          · exact (holds.append separator).append _
          · exact (ih later).prepend _

end Holds

/-! ## Constants -/

/-- The constants that a member of a class declares. -/
def Member.arrays : Member → List String
  | .array name _ => [name]
  | .rows _ => [Document.inputName, Document.idealName]
  | _ => []

/-- The constants that a construct declares among the members of a class. -/
def Construct.arrays (embed : Bool) : Construct → List String
  | .arrayLiteral name _ => [name]
  | .embeddedTraining _ (some _) => if embed then [Document.inputName, Document.idealName] else []
  | _ => []

/-- A constant is spelled with its declaration. -/
theorem Language.holds_constant (language : Language) (width level dimensions : Nat)
    (name : String) (lines : List String) :
    Holds (Layout.written width level (language.constant dimensions name lines))
      (language.declaration dimensions name ++ " = ") := by
  have opened (rest : String) (more : List Layout.Step) :
      Holds (Layout.written width level
        (.write (language.declaration dimensions name ++ " = " ++ rest) :: more))
        (language.declaration dimensions name ++ " = ") := by
    have solid := (((opens_declaration language dimensions name).append " = ").append rest).ne_empty
    obtain ⟨back, spelt⟩ := Layout.written_write solid more width level
    exact ⟨Layout.Page.spaces (Layout.indentation width level), rest ++ back, by
      rw [spelt]; simp only [String.append_assoc]⟩
  rw [constant]
  split
  · exact opened _ _
  · exact opened _ _

namespace Document

variable (document : Document)

/-- The constants that a child of a class declares, if it is a member. -/
def memberArrays (child : Handle) : List String :=
  match document.forest.member child with
  | .ok (some member) => member.arrays
  | _ => []

/-- The constants that a class declares, in their order. -/
def classArrays (handle : Handle) : List String :=
  (document.forest.order document.embed (document.forest.children handle)).flatMap
    document.memberArrays

/-- The text has the declaration of a constant in it. -/
def Declares (text name : String) : Prop :=
  ∃ dimensions, Holds text (document.language.declaration dimensions name ++ " = ")

/-- The text of a member declares each of its constants. -/
theorem memberText_declares {child : Handle} {name : String}
    (listed : name ∈ document.memberArrays child) (arrays : Bool) :
    document.Declares (document.memberText arrays child) name := by
  have constant (dimensions : Nat) (lines : List String) :
      Holds (document.written 1 (document.language.constant dimensions name lines))
        (document.language.declaration dimensions name ++ " = ") :=
    document.language.holds_constant document.indentWidth 1 dimensions name lines
  rw [memberText]
  rw [memberArrays] at listed
  cases found : document.forest.member child with
  | error failure => rw [found] at listed; cases listed
  | ok answer =>
    rw [found] at listed
    rcases answer with _ | member
    · cases listed
    cases member with
    | array own values =>
        obtain rfl := List.mem_singleton.1 listed
        exact ⟨1, constant 1 _⟩
    | rows set =>
        have both : document.written 1 (document.memberSteps arrays (.rows set)) =
            document.written 1 (document.language.matrix inputName set.input) ++
              document.written 1 (document.language.matrix idealName set.ideal) :=
          (document.language.leads_matrix 1 inputName set.input).written_append
            (document.language.leads_matrix 1 idealName set.ideal) document.indentWidth
        dsimp only
        rw [both]
        rcases List.mem_pair.1 listed with rfl | rfl
        · exact ⟨2, (constant 2 _).append _⟩
        · exact ⟨2, (constant 2 _).prepend _⟩
    | _ => cases listed

/-- **The text of a program declares each constant of its classes.** -/
theorem reference_declares {handle : Handle} (isClass : handle ∈ document.forest.classes)
    {name : String} (listed : name ∈ document.classArrays handle) :
    document.Declares document.reference name := by
  obtain ⟨child, ordered, own⟩ := List.mem_flatMap.1 listed
  obtain ⟨dimensions, holds⟩ := document.memberText_declares own
    (document.hasArrays (document.forest.children handle))
  have members := holds.intercalate (List.mem_map_of_mem ordered) "\n"
  have whole : Holds (document.classText handle)
      (document.language.declaration dimensions name ++ " = ") := by
    obtain ⟨construct, found, passed⟩ := Forest.passes_eq_true.1 (List.mem_filter.1 isClass).2
    rw [classText, found]
    cases construct with
    | classBody name => exact (members.prepend _).append _
    | _ => cases passed
  exact ⟨dimensions, (whole.join (List.mem_map_of_mem isClass)).prepend _⟩

/-! ## From the constructs -/

/-- A child lists the constants of its construct; a function lists none, whether or not it has an
outline. -/
theorem memberArrays_eq {child : Handle} {construct : Construct}
    (found : document.forest.construct? child = some construct) :
    document.memberArrays child = construct.arrays true := by
  unfold memberArrays Forest.member
  rw [found]
  cases construct with
  | function name => dsimp only; cases document.forest.body child <;> rfl
  | networkFunction name file weights => dsimp only; cases document.forest.body child <;> rfl
  | trainingLoader file => dsimp only; cases document.forest.body child <;> rfl
  | mainFunction => dsimp only; cases document.forest.body child <;> rfl
  | embeddedTraining file rows => cases rows <;> rfl
  | _ => rfl

/-- A group of members without constants. -/
theorem flatMap_memberArrays_eq_nil (test : Construct → Bool)
    (quiet : ∀ construct : Construct, test construct = true → construct.arrays true = [])
    (children : List Handle) :
    (children.filter (document.forest.passes test)).flatMap document.memberArrays = [] := by
  rw [List.flatMap_eq_nil_iff]
  intro child member
  obtain ⟨construct, found, passed⟩ := Forest.passes_eq_true.1 (List.mem_filter.1 member).2
  rw [document.memberArrays_eq found, quiet construct passed]

/-- **The constants of a class are those of its children.** -/
theorem classArrays_eq (handle : Handle) :
    document.classArrays handle = (document.forest.children handle).flatMap fun child =>
      (document.forest.construct? child).elim [] (Construct.arrays document.embed) := by
  have code := document.flatMap_memberArrays_eq_nil Construct.isCode
    (fun construct passed => by cases construct <;> first | rfl | cases passed)
    (document.forest.children handle)
  have mains := document.flatMap_memberArrays_eq_nil Construct.isMain
    (fun construct passed => by cases construct <;> first | rfl | cases passed)
    (document.forest.children handle)
  rw [classArrays, Forest.order, List.flatMap_append, List.flatMap_append, code, mains,
    List.append_nil, List.append_nil]
  induction document.forest.children handle with
  | nil => rfl
  | cons child rest ih =>
      rw [List.filter_cons, List.flatMap_cons, ← ih, Forest.passes]
      cases found : document.forest.construct? child with
      | none => rfl
      | some construct =>
          have listed : construct.arrays document.embed =
              if construct.declares document.embed then construct.arrays true else [] := by
            cases construct with
            | embeddedTraining file rows => cases rows <;> rfl
            | _ => rfl
          simp only [Option.any_some, Option.elim_some]
          rw [listed]
          split
          · rw [List.flatMap_cons, document.memberArrays_eq found]
          · rfl

/-! ## In a larger program -/

/-- **The constants of a class do not depend on where its nodes stand.** -/
theorem classArrays_part {part whole : Forest} {offset : Nat}
    (within : Forest.Part part whole offset) {handle : Handle} (inside : handle < part.size) :
    (document.on whole).classArrays (handle + offset) = (document.on part).classArrays handle := by
  have below : (document.on whole).forest.children (handle + offset) =
      ((document.on part).forest.children handle).map (· + offset) := within.children inside
  rw [classArrays_eq, classArrays_eq, below, List.flatMap_map]
  apply List.flatMap_congr
  intro child member
  have found : (document.on whole).forest.construct? (child + offset) =
      ((document.on part).forest.construct? child).map (Construct.shift offset) :=
    within.construct? (within.closed.children handle child member)
  rw [found]
  cases (document.on part).forest.construct? child with
  | none => rfl
  | some construct =>
      cases construct with
      | call callee type binding => cases callee <;> rfl
      | _ => rfl

end Document

end ModelExport
