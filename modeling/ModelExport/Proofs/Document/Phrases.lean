/-
# ModelExport.Proofs.Document.Phrases — a document as a list of phrases

A phrase is one thing that a language is asked to spell: a comment, the head of a
function, an array, a statement. `Forest.phrases` lists the phrases of a program in
the order of the document, class by class and member by member; the flag of
embedding and the program decide them, or the fault that there is, and neither the
language nor the layout has a part in it. `text_eq_phrases` says that the text of a
program is its phrases, spelled one after the other on a blank page. So whatever
holds of every phrase in every layout holds of documents, and whatever two programs
say in the same phrases they say in the same text.
-/
import ModelExport.Proofs.Document.Steps

set_option autoImplicit false

namespace ModelExport

open Layout (Step Page)

/-- One thing that a language is asked to spell. -/
inductive Phrase where
  | comment (text : String)
  /-- The imports that follow the header comments. -/
  | prologue
  | openClass (name : String)
  | closeClass (name : String)
  /-- The blank line between members. -/
  | gap
  | array (name : String) (values : List Binary64)
  | matrix (name : String) (rows : List (List Binary64))
  | openFunction (name : String) (type? : Option String)
  | openMain
  | closeFunction
  | loadModel (file : Path)
  /-- The parameters of the model overwritten from an array. -/
  | decodeWeights (weights : String)
  | loadTrainingFile (file : Path)
  /-- Training rows made from two matrices. -/
  | loadTrainingArrays (input ideal : String)
  | returnValue (binding : String)
  | call (function type binding : String)
deriving DecidableEq

namespace Phrase

/-- The steps that write a phrase. -/
def steps (language : Language) (perLine : Nat) : Phrase → List Step
  | .comment text => Language.comment text
  | .prologue => language.prologue
  | .openClass name => language.openClass name
  | .closeClass name => language.closeClass name
  | .gap => [.newline]
  | .array name values => language.array name values perLine
  | .matrix name rows => language.matrix name rows
  | .openFunction name type? => language.openFunction name type?
  | .openMain => language.openMain
  | .closeFunction => Language.closeFunction
  | .loadModel file => language.loadModel Document.networkBinding Construct.methodType file
  | .decodeWeights weights => language.decodeWeights Document.networkBinding weights
  | .loadTrainingFile file =>
      language.loadTrainingFile Document.trainingBinding Construct.dataSetType file
  | .loadTrainingArrays input ideal =>
      language.loadTrainingArrays Document.trainingBinding Construct.dataSetType input ideal
  | .returnValue binding => Language.returnValue binding
  | .call function type binding => language.call function type binding

/-- The steps that write phrases one after the other. -/
def allSteps (language : Language) (perLine : Nat) (phrases : List Phrase) : List Step :=
  phrases.flatMap (steps language perLine)

@[simp] theorem allSteps_nil (language : Language) (perLine : Nat) :
    allSteps language perLine [] = [] := rfl

@[simp] theorem allSteps_cons (language : Language) (perLine : Nat) (first : Phrase)
    (rest : List Phrase) : allSteps language perLine (first :: rest) =
      first.steps language perLine ++ allSteps language perLine rest := List.flatMap_cons

@[simp] theorem allSteps_append (language : Language) (perLine : Nat) (front back : List Phrase) :
    allSteps language perLine (front ++ back) =
      allSteps language perLine front ++ allSteps language perLine back := List.flatMap_append

/-- Members with gaps between them are written with blank lines between them. -/
theorem allSteps_intercalate (language : Language) (perLine : Nat) (members : List (List Phrase)) :
    allSteps language perLine ([gap].intercalate members) =
      [Step.newline].intercalate (members.map (allSteps language perLine)) := by
  induction members with
  | nil => rfl
  | cons member rest ih =>
      cases rest with
      | nil => simp
      | cons next rest =>
          rw [List.intercalate_cons_cons, List.map_cons, List.map_cons,
            List.intercalate_cons_cons, allSteps_append, allSteps_append, ih]
          rfl

end Phrase

/-! ## From outlines -/

/-- The phrase of a statement. -/
def Statement.phrase : Statement → Phrase
  | .comment text => .comment text
  | .array name values => .array name values
  | .call function type binding => .call function type binding

/-- The phrases of a member of a class. Rows and parameters are used only when embedding, and
`arrays` tells whether the class has training rows. -/
def Member.phrases (embed arrays : Bool) : Member → List Phrase
  | .array name values => [.array name values]
  | .rows set =>
      [.matrix Document.inputName set.input, .matrix Document.idealName set.ideal]
  | .comment text => [.comment text]
  | .function name body =>
      .openFunction name none :: (body.map Statement.phrase ++ [.closeFunction])
  | .network name file weights body =>
      .openFunction name (some Construct.methodType) :: .loadModel file ::
        (((weights.filter fun _ => embed).map Phrase.decodeWeights).toList ++
          (body.map Statement.phrase ++
            [.returnValue Document.networkBinding, .closeFunction]))
  | .loader file body =>
      [.openFunction Construct.loaderName (some Construct.dataSetType),
        if arrays then .loadTrainingArrays Document.inputName Document.idealName
        else .loadTrainingFile file] ++
        (body.map Statement.phrase ++ [.returnValue Document.trainingBinding, .closeFunction])
  | .main body => .openMain :: (body.map Statement.phrase ++ [.closeFunction])

theorem Statement.allSteps_map_phrase (language : Language) (perLine : Nat)
    (body : List Statement) :
    Phrase.allSteps language perLine (body.map phrase) = body.flatMap (steps language perLine) := by
  rw [Phrase.allSteps, List.flatMap_map]
  congr 1
  funext statement
  cases statement <;> rfl

/-- A member is written by its phrases. -/
theorem Member.steps_eq (language : Language) (perLine : Nat) (embed arrays : Bool)
    (member : Member) :
    member.steps language perLine embed arrays =
      Phrase.allSteps language perLine (member.phrases embed arrays) := by
  cases member with
  | network name file weights body =>
      simp only [steps, phrases, Phrase.allSteps_cons, Phrase.allSteps_append,
        Statement.allSteps_map_phrase, Document.networkStart]
      cases weights.filter fun _ => embed <;> simp [Phrase.steps]
  | loader file body =>
      simp only [steps, phrases, Phrase.allSteps_cons, Phrase.allSteps_append,
        Statement.allSteps_map_phrase, Document.loaderStart]
      cases arrays <;> simp [Phrase.steps]
  | _ => simp [steps, phrases, Phrase.steps, Statement.allSteps_map_phrase]

/-- A class as it is spelled. -/
structure SpelledClass where
  name : String
  /-- The phrases of each member. -/
  members : List (List Phrase)

/-- The phrases of a class. -/
def SpelledClass.phrases (spelled : SpelledClass) : List Phrase :=
  .openClass spelled.name :: ([Phrase.gap].intercalate spelled.members ++
    [.closeClass spelled.name])

/-- Whether a construct holds training rows. -/
def Construct.holdsRows : Construct → Bool
  | .embeddedTraining _ (some _) => true
  | _ => false

/-- The name of a class. -/
def Construct.className? : Construct → Option String
  | .classBody name => some name
  | _ => none

namespace Forest

variable (forest : Forest) (embed : Bool)

/-- Whether training rows are written into a class with the given children. -/
def writesRows (children : List Handle) : Bool :=
  embed && children.any (forest.passes Construct.holdsRows)

/-- The name of a class; empty for any other construct. -/
def className (handle : Handle) : String :=
  ((forest.construct? handle).bind Construct.className?).getD ""

/-- A class with the phrases of its members. -/
def spelledClass (handle : Handle) : Except Failure SpelledClass :=
  let children := forest.children handle
  (forest.members embed children).map fun members =>
    ⟨forest.className handle, members.map (Member.phrases embed (forest.writesRows embed children))⟩

/-- The classes of a program. -/
def spelledClasses : Except Failure (List SpelledClass) :=
  forest.classes.mapM (forest.spelledClass embed)

/-- The phrases of a program with the given classes. -/
def phrasesAround (classes : List SpelledClass) : List Phrase :=
  forest.topComments.map Phrase.comment ++ .prologue :: classes.flatMap SpelledClass.phrases

/-- The phrases of a program. -/
def phrases : Except Failure (List Phrase) :=
  (forest.spelledClasses embed).map forest.phrasesAround

/-- A class among the roots has a name. -/
theorem construct?_of_mem_classes {forest : Forest} {handle : Handle}
    (isClass : handle ∈ forest.classes) :
    forest.construct? handle = some (.classBody (forest.className handle)) := by
  obtain ⟨construct, found, passed⟩ := passes_eq_true.1 (List.mem_filter.1 isClass).2
  cases construct with
  | classBody name => rw [className, found]; rfl
  | _ => cases passed

end Forest

/-! ## Documents -/

namespace Document

variable (document : Document)

theorem hasArrays_eq (children : List Handle) :
    document.hasArrays children = document.forest.writesRows document.embed children := by
  have same : document.holdsRows = document.forest.passes Construct.holdsRows := by
    funext handle
    rw [holdsRows, Forest.passes]
    cases document.forest.construct? handle with
    | none => rfl
    | some construct =>
        cases construct with
        | embeddedTraining file rows => cases rows <;> rfl
        | _ => rfl
  rw [hasArrays, same]
  rfl

/-- A class is written by its phrases. -/
theorem classSteps_eq {handle : Handle} (isClass : handle ∈ document.forest.classes) :
    document.classSteps handle = (document.forest.spelledClass document.embed handle).map
      fun spelled => Phrase.allSteps document.language document.valuesPerLine spelled.phrases := by
  have each (children : List Handle) : document.memberSteps (document.hasArrays children) =
      Phrase.allSteps document.language document.valuesPerLine ∘
        Member.phrases document.embed (document.forest.writesRows document.embed children) := by
    funext member
    rw [hasArrays_eq]
    exact member.steps_eq _ _ _ _
  rw [classSteps, Forest.construct?_of_mem_classes isClass, Forest.spelledClass, map_map]
  dsimp only
  congr 1
  funext members
  simp only [Function.comp_apply, SpelledClass.phrases, Phrase.allSteps_cons,
    Phrase.allSteps_append, Phrase.allSteps_nil, List.append_nil, Phrase.allSteps_intercalate,
    List.map_map, each, Phrase.steps, List.append_assoc]

theorem headerSteps_eq :
    document.headerSteps = Phrase.allSteps document.language document.valuesPerLine
      (document.forest.topComments.map Phrase.comment) := by
  rw [headerSteps, Phrase.allSteps, List.flatMap_map]
  rfl

/-- The steps of a program write its phrases. -/
theorem steps_eq_phrases :
    document.steps = (document.forest.phrases document.embed).map
      (Phrase.allSteps document.language document.valuesPerLine) := by
  have classes := mapM_eq_map fun handle isClass => document.classSteps_eq isClass
  have flattened (spelled : List SpelledClass) :
      (spelled.map fun spelled =>
          Phrase.allSteps document.language document.valuesPerLine spelled.phrases).flatten =
        Phrase.allSteps document.language document.valuesPerLine
          (spelled.flatMap SpelledClass.phrases) := by
    rw [Phrase.allSteps, List.flatMap_assoc, List.flatMap_def]
    rfl
  rw [steps, classes, Forest.phrases, Forest.spelledClasses, map_map, map_map]
  congr 1
  funext spelled
  rw [Function.comp_apply, flattened, Function.comp_apply, Forest.phrasesAround,
    Phrase.allSteps_append, Phrase.allSteps_cons, headerSteps_eq, List.append_assoc]
  rfl

/-- **The text of a program is its phrases, spelled one after the other on a blank page.** -/
theorem text_eq_phrases :
    document.text = (document.forest.phrases document.embed).map fun phrases =>
      Layout.render document.indentWidth
        (Phrase.allSteps document.language document.valuesPerLine phrases) := by
  rw [Document.text, page_eq_steps, steps_eq_phrases, map_map, map_map]
  rfl

end Document

end ModelExport
