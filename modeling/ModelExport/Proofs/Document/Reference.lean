/-
# ModelExport.Proofs.Document.Reference — the text of a program, put together from parts

The reference says what a document is without carrying a page along: the comments
among the roots, the prologue, and the classes, each of them its opening, its
members with a blank line between any two, and its closing. Every part is what its
own steps write on a clean page. `spell_eq_reference` says that a document that is
made at all is this text, that the members of a class are its eligible children,
each once and in the order of the three groups, and that the text of a member is
decided by the sight of its node.
-/
import ModelExport.Renderer
import ModelExport.Proofs.Document.Steps
import ModelExport.Proofs.Forest.Builder
import ModelExport.Proofs.Forest.Sight
import ModelExport.Proofs.Language.Frame
import ModelExport.Proofs.Language.Level

set_option autoImplicit false

namespace ModelExport

open Layout

/-! ## Members stand on their own -/

theorem Statement.leads_steps (language : Language) (perLine level : Nat) (statement : Statement) :
    Leads level level (statement.steps language perLine) := by
  cases statement with
  | comment text => exact Language.leads_comment level text
  | array name values => exact language.leads_array level name values perLine
  | call function type binding => exact language.leads_call level function type binding

namespace Member

variable (language : Language) (perLine : Nat) (embed arrays : Bool)

theorem leads_networkStart (level : Nat) (file : Path) (array? : Option String) :
    Leads level level (Document.networkStart language file array?) := by
  refine (language.leads_loadModel level _ _ file).append ?_
  cases array? with
  | none => exact leads_nil level
  | some name => exact language.leads_decodeWeights level _ name

theorem leads_loaderStart (level : Nat) (file : Path) :
    Leads level level (Document.loaderStart language file arrays) := by
  cases arrays with
  | true => exact language.leads_loadTrainingArrays level _ _ _ _
  | false => exact language.leads_loadTrainingFile level _ _ file

/-- A member leaves the page where it found it: at the start of a line, at the same level. -/
theorem leads_steps (level : Nat) (member : Member) :
    Leads level level (member.steps language perLine embed arrays) := by
  have inside (body : List Statement) :
      Leads (level + 1) (level + 1) (body.flatMap (Statement.steps language perLine)) :=
    Leads.flatMap body fun statement _ => statement.leads_steps language perLine (level + 1)
  cases member with
  | array name values => exact language.leads_array level name values perLine
  | rows set =>
      exact (language.leads_matrix level _ set.input).append
        (language.leads_matrix level _ set.ideal)
  | comment text => exact Language.leads_comment level text
  | function name body =>
      have opened := (language.leads_openFunction level name none).append (inside body)
      exact opened.append (Language.leads_closeFunction level)
  | network name file weights body =>
      have opened := (language.leads_openFunction level name (some Construct.methodType)).append
        (leads_networkStart language (level + 1) file (weights.filter fun _ => embed))
      have filled := (opened.append (inside body)).append
        (Language.leads_returnValue (level + 1) Document.networkBinding)
      exact filled.append (Language.leads_closeFunction level)
  | loader file body =>
      have opened := (language.leads_openFunction level Construct.loaderName
        (some Construct.dataSetType)).append (leads_loaderStart language arrays (level + 1) file)
      have filled := (opened.append (inside body)).append
        (Language.leads_returnValue (level + 1) Document.trainingBinding)
      exact filled.append (Language.leads_closeFunction level)
  | main body =>
      have opened := (language.leads_openMain level).append (inside body)
      exact opened.append (Language.leads_closeFunction level)

theorem begins_steps (member : Member) : Begins (member.steps language perLine embed arrays) := by
  cases member with
  | array name values => exact language.begins_constant 1 name _
  | rows set => exact (language.begins_constant 2 _ _).append _
  | comment text => exact Language.begins_comment text
  | function name body => exact ((language.begins_openFunction name none).append _).append _
  | network name file weights body =>
      exact ((((language.begins_openFunction name _).append _).append _).append _).append _
  | loader file body =>
      exact ((((language.begins_openFunction _ _).append _).append _).append _).append _
  | main body => exact (language.begins_openMain.append _).append _

theorem ends_steps (member : Member) : Ends (member.steps language perLine embed arrays) := by
  cases member with
  | array name values => exact language.ends_constant 1 name _
  | rows set => exact (language.ends_constant 2 _ _).prepend _
  | comment text => exact Language.ends_comment text
  | _ => exact Language.ends_closeFunction.prepend _

end Member

namespace Document

variable (document : Document)

/-! ## The reference -/

/-- What steps write at a level of a document, on a clean page. -/
def written (level : Nat) (steps : List Step) : String :=
  Layout.written document.indentWidth level steps

/-- The text of the member that a child of a class is. -/
def memberText (arrays : Bool) (child : Handle) : String :=
  match document.forest.member child with
  | .ok (some member) => document.written 1 (document.memberSteps arrays member)
  | _ => ""

/-- The texts of the members of a class, in their order. -/
def memberTexts (children : List Handle) : List String :=
  (document.forest.order document.embed children).map
    (document.memberText (document.hasArrays children))

/-- The text of a class; nothing for any other construct. -/
def classText (handle : Handle) : String :=
  match document.forest.construct? handle with
  | some (.classBody name) =>
      document.written 0 (document.language.openClass name) ++
        "\n".intercalate (document.memberTexts (document.forest.children handle)) ++
        document.written 1 (document.language.closeClass name)
  | _ => ""

/-- The text of a program. -/
def reference : String :=
  String.join (document.forest.topComments.map fun text =>
      document.written 0 (Language.comment text)) ++
    document.written 0 document.language.prologue ++
    String.join (document.forest.classes.map document.classText)

/-! ## A document is its reference -/

/-- The members of a class, each written on a clean page. -/
theorem written_members {children : List Handle} {members : List Member}
    (asked : document.forest.members document.embed children = .ok members) :
    (members.map (document.memberSteps (document.hasArrays children))).map (document.written 1) =
      document.memberTexts children := by
  obtain ⟨found, all, rfl⟩ := map_eq_ok.1 asked
  have read : document.memberTexts children = found.map fun answer =>
      answer.elim "" fun member =>
        document.written 1 (document.memberSteps (document.hasArrays children) member) :=
    map_of_mapM (fun child answer answered => by
      rw [memberText, answered]
      cases answer <;> rfl) all
  -- the children in the order all have members, so leaving out those without changes nothing
  obtain ⟨members, rfl⟩ := Forest.exists_members all
  simp [read, Function.comp_def]

/-- A class that has steps is written as its text, from level to level. -/
theorem written_class {handle : Handle} {steps : List Step}
    (asked : document.classSteps handle = .ok steps) :
    Leads 0 0 steps ∧ document.written 0 steps = document.classText handle := by
  unfold classSteps at asked
  unfold classText
  cases found : document.forest.construct? handle with
  | none =>
      rw [found] at asked
      obtain rfl := Except.ok.inj asked
      exact ⟨leads_nil 0, rfl⟩
  | some construct =>
      rw [found] at asked
      cases construct with
      | classBody name =>
          obtain ⟨members, read, rfl⟩ := map_eq_ok.1 asked
          have opens := document.language.leads_openClass 0 name
          have closes := document.language.leads_closeClass 0 name
          have each : ∀ part ∈ members.map
              (document.memberSteps (document.hasArrays (document.forest.children handle))),
              Leads 1 1 part := by
            intro part inside
            obtain ⟨member, -, rfl⟩ := List.mem_map.1 inside
            exact member.leads_steps _ _ _ _ 1
          have filled := Leads.intercalate _ each
          refine ⟨(opens.append filled).append closes, ?_⟩
          rw [written, (opens.append filled).written_append closes, opens.written_append filled,
            Leads.written_intercalate _ each]
          exact congrArg (fun texts => document.written 0 (document.language.openClass name) ++
            "\n".intercalate texts ++ document.written 1 (document.language.closeClass name))
            (document.written_members read)
      | _ =>
          obtain rfl := Except.ok.inj asked
          exact ⟨leads_nil 0, rfl⟩

/-- The comments among the roots, each written on a clean page. -/
theorem written_header :
    Leads 0 0 document.headerSteps ∧ document.written 0 document.headerSteps =
      String.join (document.forest.topComments.map fun text =>
        document.written 0 (Language.comment text)) :=
  ⟨Leads.flatMap _ fun text _ => Language.leads_comment 0 text,
    Leads.written_flatMap _ (fun text _ => Language.leads_comment 0 text) _⟩

/-- **A document that is made is its reference.** -/
theorem text_eq_reference {text : String} (made : document.text = .ok text) :
    text = document.reference := by
  rw [Document.text, page_eq_steps, map_map] at made
  obtain ⟨steps, asked, rfl⟩ := map_eq_ok.1 made
  obtain ⟨parts, all, rfl⟩ := map_eq_ok.1 asked
  have each : ∀ part ∈ parts, Leads 0 0 (id part) := by
    intro part inside
    obtain ⟨handle, -, answered⟩ := exists_of_mem_mapM all inside
    exact (document.written_class answered).1
  have texts : document.forest.classes.map document.classText = parts.map (document.written 0) :=
    map_of_mapM (fun handle part answered => (document.written_class answered).2.symm) all
  obtain ⟨header, spelt⟩ := document.written_header
  have prologue := document.language.leads_prologue 0
  have classes := Leads.flatMap parts each
  have joined : document.written 0 (parts.flatMap id) =
      String.join (parts.map (document.written 0)) := Leads.written_flatMap parts each _
  rw [← List.flatMap_id]
  calc document.written 0
        (document.headerSteps ++ document.language.prologue ++ parts.flatMap id)
      = document.written 0 document.headerSteps ++
          document.written 0 document.language.prologue ++
          document.written 0 (parts.flatMap id) := by
        simp only [written, (header.append prologue).written_append classes,
          header.written_append prologue]
    _ = document.reference := by rw [spelt, joined, reference, texts]

/-! ## The members of a document -/

/-- The member of a child in the order, once its class has steps. -/
theorem memberText_eq {handle : Handle} {name : String} {steps : List Step}
    (found : document.forest.construct? handle = some (.classBody name))
    (asked : document.classSteps handle = .ok steps) {child : Handle}
    (ordered : child ∈ document.forest.order document.embed (document.forest.children handle))
    (arrays : Bool) :
    ∃ member, document.memberText arrays child =
      document.written 1 (document.memberSteps arrays member) := by
  rw [classSteps, found] at asked
  obtain ⟨members, read, -⟩ := map_eq_ok.1 asked
  obtain ⟨answers, all, -⟩ := map_eq_ok.1 read
  obtain ⟨answer, answered⟩ := exists_of_mapM all ordered
  obtain ⟨member, rfl⟩ := Forest.member_of_isMember (Forest.mem_order.1 ordered).2 answered
  exact ⟨member, by rw [memberText, answered]⟩

/-- **A program that is made call by call and spelled at all is its reference.** In every class the
members are the eligible children, each once, and the text of each stands on lines of its own and
is decided by the sight of its node. -/
theorem rendered_eq_reference {calls : List Builder} {text : String}
    (built : document.forest = Forest.ofBuilders calls) (rendered : document.text = .ok text) :
    text = document.reference ∧ document.forest.roots.Pairwise (· < ·) ∧
      ∀ handle ∈ document.forest.classes,
        let children := document.forest.children handle
        let order := document.forest.order document.embed children
        let arrays := document.hasArrays children
        children.Pairwise (· < ·) ∧ order.Nodup ∧
          (∀ child, child ∈ order ↔
            child ∈ children ∧ document.forest.passes (Construct.isMember document.embed) child) ∧
          ∀ child ∈ order, Framed (document.memberText arrays child) ∧
            ∀ (other : Forest) (twin : Handle), other.sight twin = document.forest.sight child →
              { document with forest := other }.memberText arrays twin =
                document.memberText arrays child := by
  have inOrder : document.forest.Ordered := built ▸ Forest.ofBuilders_ordered calls
  refine ⟨document.text_eq_reference rendered, inOrder.roots.1, ?_⟩
  intro handle isClass children order arrays
  have increasing := inOrder.children handle
  refine ⟨increasing.1, Forest.nodup_order increasing.nodup _, fun child => Forest.mem_order, ?_⟩
  intro child ordered
  -- the document was made, so this class has steps and each of its members an outline
  rw [Document.text, page_eq_steps, map_map] at rendered
  obtain ⟨steps, asked, -⟩ := map_eq_ok.1 rendered
  obtain ⟨parts, all, -⟩ := map_eq_ok.1 asked
  obtain ⟨part, spelt⟩ := exists_of_mapM all isClass
  obtain ⟨construct, found, passed⟩ := Forest.passes_eq_true.1 (List.mem_filter.1 isClass).2
  constructor
  · cases construct with
    | classBody name =>
        obtain ⟨member, read⟩ := document.memberText_eq found spelt ordered arrays
        rw [read]
        exact framed_written (member.begins_steps _ _ _ _) (member.ends_steps _ _ _ _) _ _
    | _ => cases passed
  · intro other twin same
    rw [memberText, memberText, Forest.member_eq_of_sight same]
    rfl

/-- A program whose members and comments were made out of order. -/
def unordered : List Builder :=
  [.topComment "one", .classBody "A", .main 1, .comment 1 "note", .topComment "two",
    .array 1 "W" []]

def unorderedText : String :=
  "// one\n// two\nimport java.io.File;\nimport mlgen.runtime.*;\n\npublic class A \x7b\n" ++
    "    public static final double[] W = \x7b\x7d;\n\n    // note\n\n" ++
    "    public static void main(String[] args) \x7b\n    \x7d\n\x7d\n"

theorem rendered_eq_reference_unordered :
    let document : Document := ⟨.java, 4, 8, false, Forest.ofBuilders unordered⟩
    document.text = .ok unorderedText ∧ unorderedText = document.reference := by
  intro document
  have built : document.forest = Forest.ofBuilders unordered := rfl
  have rendered : document.text = .ok unorderedText := toOption_eq_some.1 (by decide +kernel)
  exact ⟨rendered, (document.rendered_eq_reference built rendered).1⟩

end Document

end ModelExport
