/-
# ModelExport.Proofs.Document.Trace — the way through a program

The trace of a document tells what is written in which order, with the parts marked:
comments, imports and classes outside everything, members in classes, statements in
functions, and lines of values in constants, which stand in a member or a statement.
A call that points nowhere stops it in the middle of all blocks that are open then.
A document is what its trace leads to, page or fault, and so is each of its classes,
functions and statements on any page (`told`).
-/
import ModelExport.Proofs.Document.Steps
import ModelExport.Proofs.Language.Initializer
import ModelExport.Proofs.Layout.Trace

set_option autoImplicit false

namespace ModelExport

open Layout

namespace Language

/-- A constant that stands on some tier. Each line of values is a part of its own. -/
def constantTrace (language : Language) (tier : Tier) (dimensions : Nat) (name : String)
    (lines : List String) : Trace Failure :=
  let front := language.declaration dimensions name ++ " = "
  if lines = [] then .does (line (front ++ language.emptyInitializer))
  else
    .all [.does (line (front ++ language.initializerStart) ++ [.indent]),
      .all ((punctuated lines).map fun text => (Trace.does (line text)).part (.values tier)),
      .does ([.dedent] ++ line language.initializerEnd)]

theorem steps?_constantTrace (language : Language) (tier : Tier) (dimensions : Nat)
    (name : String) (lines : List String) :
    (language.constantTrace tier dimensions name lines).steps? =
      .ok (language.constant dimensions name lines) := by
  rw [constantTrace, constant]
  split
  · exact Trace.steps?_does _
  · rw [Trace.steps?_all_cons, Trace.steps?_all_cons, Trace.steps?_all_cons, Trace.steps?_does,
      Trace.steps?_does, Trace.steps?_all_parts, commaLines_eq]
    simp

end Language

namespace Document

variable (document : Document)

/-! ## The trace -/

/-- An array that stands on some tier. -/
def arrayTrace (tier : Tier) (name : String) (values : List Binary64) : Trace Failure :=
  document.language.constantTrace tier 1 name
    ((Language.pieces document.valuesPerLine values).map document.language.doubles)

/-- A matrix that stands on some tier. -/
def matrixTrace (tier : Tier) (name : String) (rows : List (List Binary64)) : Trace Failure :=
  document.language.constantTrace tier 2 name (rows.map document.language.row)

/-- A child of a function. -/
def statementTrace (handle : Handle) : Trace Failure :=
  match document.forest.construct? handle with
  | some (.comment text) => Trace.part .statement (.does (Language.comment text))
  | some (.arrayLiteral name values) =>
      Trace.part .statement (document.arrayTrace .statement name values)
  | some (.call callee type binding) =>
      Trace.part .statement <|
        match document.forest.calleeName? callee with
        | some name => .does (document.language.call name type binding)
        | none => .stops (.invalidCallTarget binding)
  | _ => .does []

/-- The children of a function. -/
def bodyTrace (handle : Handle) : Trace Failure :=
  .all ((document.forest.children handle).map document.statementTrace)

/-- A function other than the entry point; nothing for any other construct. -/
def functionTrace (arrays : Bool) (handle : Handle) : Trace Failure :=
  match document.forest.construct? handle with
  | some (.function name) =>
      .all [.does (document.language.openFunction name none), document.bodyTrace handle,
        .does Language.closeFunction]
  | some (.networkFunction name file weights) =>
      .all [.does (document.language.openFunction name (some Construct.methodType)),
        Trace.part .statement
          (.does (document.language.loadModel networkBinding Construct.methodType file)),
        .all ((document.weightsArray? weights).toList.map fun array =>
          Trace.part .statement (.does (document.language.decodeWeights networkBinding array))),
        document.bodyTrace handle,
        Trace.part .statement (.does (Language.returnValue networkBinding)),
        .does Language.closeFunction]
  | some (.trainingLoader file) =>
      .all [.does
          (document.language.openFunction Construct.loaderName (some Construct.dataSetType)),
        Trace.part .statement (.does (loaderStart document.language file arrays)),
        document.bodyTrace handle,
        Trace.part .statement (.does (Language.returnValue trainingBinding)),
        .does Language.closeFunction]
  | _ => .does []

/-- A child of a class that is a member of it. -/
def memberTrace (arrays : Bool) (handle : Handle) : Trace Failure :=
  Trace.part .member <|
    match document.forest.construct? handle with
    | some (.arrayLiteral name values) => document.arrayTrace .member name values
    | some (.embeddedTraining _ (some rows)) =>
        .all [document.matrixTrace .member inputName rows.input,
          document.matrixTrace .member idealName rows.ideal]
    | some (.comment text) => .does (Language.comment text)
    | some .mainFunction =>
        .all [.does document.language.openMain, document.bodyTrace handle,
          .does Language.closeFunction]
    | _ => document.functionTrace arrays handle

/-- A class; nothing for any other construct. -/
def classTrace (handle : Handle) : Trace Failure :=
  match document.forest.construct? handle with
  | some (.classBody name) =>
      let children := document.forest.children handle
      Trace.part .item <|
        .all [.does (document.language.openClass name),
          .spaced ((document.forest.order document.embed children).map
            (document.memberTrace (document.hasArrays children))),
          .does (document.language.closeClass name)]
  | _ => .does []

/-- A whole program. -/
def trace : Trace Failure :=
  .all [.all (document.forest.topComments.map fun text =>
      Trace.part .item (.does (Language.comment text))),
    Trace.part .item (.does document.language.prologue),
    .all (document.forest.classes.map document.classTrace)]

/-! ## A document is what its trace leads to -/

theorem steps?_statementTrace (handle : Handle) :
    (document.statementTrace handle).steps? =
      (document.forest.statement handle).map document.childSteps := by
  unfold statementTrace Forest.statement
  cases document.forest.construct? handle with
  | none => rfl
  | some construct =>
      cases construct with
      | comment text => simp [childSteps, Statement.steps]
      | arrayLiteral name values =>
          simp [arrayTrace, Language.steps?_constantTrace, childSteps, Statement.steps,
            Language.array]
      | call callee type binding =>
          dsimp only
          cases document.forest.calleeName? callee <;> simp [childSteps, Statement.steps]
      | _ => rfl

theorem steps?_bodyTrace (handle : Handle) :
    (document.bodyTrace handle).steps? =
      (document.forest.body handle).map fun body =>
        body.flatMap (Statement.steps document.language document.valuesPerLine) := by
  have each := mapM_eq_map fun child (_ : child ∈ document.forest.children handle) =>
    document.steps?_statementTrace child
  rw [bodyTrace, Trace.steps?_all_map, each, Forest.body, map_map, map_map]
  congr 1
  funext found
  rw [Function.comp_apply, Function.comp_apply, ← flatMap_childSteps, List.flatMap_def]

theorem networkStart_eq (language : Language) (file : Path) (array? : Option String) :
    networkStart language file array? =
      language.loadModel networkBinding Construct.methodType file ++
        array?.toList.flatMap (language.decodeWeights networkBinding) := by
  cases array? with
  | none => rfl
  | some array => exact congrArg _ (List.append_nil _).symm

theorem steps?_memberTrace (arrays : Bool) (handle : Handle) :
    (document.memberTrace arrays handle).steps? =
      (document.forest.member handle).map fun member =>
        member.elim [] (document.memberSteps arrays) := by
  have body := document.steps?_bodyTrace handle
  rw [memberTrace, Trace.steps?_part]
  unfold functionTrace Forest.member
  cases document.forest.construct? handle with
  | none => rfl
  | some construct =>
      cases construct with
      | comment text => simp [memberSteps, Member.steps]
      | arrayLiteral name values =>
          simp [arrayTrace, Language.steps?_constantTrace, memberSteps, Member.steps,
            Language.array]
      | embeddedTraining file rows =>
          cases rows with
          | none => rfl
          | some set =>
              simp [matrixTrace, Language.steps?_constantTrace, memberSteps, Member.steps,
                Language.matrix]
      | function name =>
          dsimp only
          simp only [Trace.steps?_all_cons, Trace.steps?_does, body]
          cases document.forest.body handle <;> simp [memberSteps, Member.steps]
      | networkFunction name file weights =>
          simp only [Trace.steps?_all_cons, Trace.steps?_does, Trace.steps?_part, body,
            Trace.steps?_all_parts]
          cases document.forest.body handle <;>
            simp [memberSteps, Member.steps, networkStart_eq, weightsArray?]
      | trainingLoader file =>
          simp only [Trace.steps?_all_cons, Trace.steps?_does, Trace.steps?_part, body]
          cases document.forest.body handle <;> simp [memberSteps, Member.steps]
      | mainFunction =>
          simp only [Trace.steps?_all_cons, Trace.steps?_does, body]
          cases document.forest.body handle <;> simp [memberSteps, Member.steps]
      | _ => rfl

/-- The members of a class, with a blank line between any two. -/
theorem steps?_spaced_memberTrace (arrays : Bool) (children : List Handle) :
    (Trace.spaced ((document.forest.order document.embed children).map
        (document.memberTrace arrays))).steps? =
      (document.forest.members document.embed children).map fun members =>
        [Step.newline].intercalate (members.map (document.memberSteps arrays)) := by
  have each := mapM_eq_map fun child (_ : child ∈ document.forest.order document.embed children) =>
    document.steps?_memberTrace arrays child
  rw [Trace.steps?_spaced_map, each, Forest.members]
  cases asked : (document.forest.order document.embed children).mapM document.forest.member with
  | error fault => rfl
  | ok found =>
      obtain ⟨members, rfl⟩ := Forest.exists_members asked
      simp [Function.comp_def]

theorem steps?_classTrace (handle : Handle) :
    (document.classTrace handle).steps? = document.classSteps handle := by
  unfold classTrace classSteps
  cases document.forest.construct? handle with
  | none => rfl
  | some construct =>
      cases construct with
      | classBody name =>
          dsimp only
          rw [Trace.steps?_part, Trace.steps?_all_cons, Trace.steps?_all_cons,
            Trace.steps?_all_cons, Trace.steps?_does, Trace.steps?_does,
            steps?_spaced_memberTrace]
          cases document.forest.members document.embed (document.forest.children handle) <;> simp
      | _ => rfl

theorem steps?_trace : document.trace.steps? = document.steps := by
  have classes : (Trace.all (document.forest.classes.map document.classTrace)).steps? =
      (document.forest.classes.mapM document.classSteps).map List.flatten := by
    rw [Trace.steps?_all_map]
    simp only [steps?_classTrace]
  rw [trace, Trace.steps?_all_cons, Trace.steps?_all_cons, Trace.steps?_all_cons, classes,
    Trace.steps?_all_parts, Trace.steps?_part, Trace.steps?_does, steps]
  cases document.forest.classes.mapM document.classSteps <;> simp [headerSteps]

/-- The traces of a document tell what is written: whatever page they are carried out on, a trace
leads it where the document does, or to the same fault. -/
structure Told : Prop where
  array : ∀ page tier name values,
    .ok (document.put page (document.language.array name values document.valuesPerLine)) =
      (document.arrayTrace tier name values).outcome document.indentWidth page
  matrix : ∀ page tier name rows,
    .ok (document.put page (document.language.matrix name rows)) =
      (document.matrixTrace tier name rows).outcome document.indentWidth page
  statement : ∀ page handle, document.statement page handle =
    (document.statementTrace handle).outcome document.indentWidth page
  body : ∀ page handle, document.body page handle =
    (document.bodyTrace handle).outcome document.indentWidth page
  function : ∀ arrays page handle, document.function arrays page handle =
    (document.functionTrace arrays handle).outcome document.indentWidth page
  /-- One child of a class goes through all three passes, and at most one of them writes it. -/
  member : ∀ arrays page handle,
    document.forest.passes (Construct.isMember document.embed) handle = true →
      (document.codeMember arrays (document.dataMember ⟨page, true⟩ handle) handle >>= fun coded =>
          document.mainMember coded handle).map Inside.page =
        (document.memberTrace arrays handle).outcome document.indentWidth page
  classBody : ∀ page handle, document.classBody page handle =
    (document.classTrace handle).outcome document.indentWidth page
  page : document.page = document.trace.outcome document.indentWidth Page.blank

theorem function_eq_outcome (arrays : Bool) (page : Page) (handle : Handle) :
    document.function arrays page handle =
      (document.functionTrace arrays handle).outcome document.indentWidth page := by
  have told := document.steps?_bodyTrace handle
  rw [Trace.outcome_eq]
  unfold function functionTrace
  cases document.forest.construct? handle with
  | none => rfl
  | some construct =>
      cases construct with
      | function name =>
          simp only [Trace.steps?_all_cons, Trace.steps?_does, told, body_eq]
          cases document.forest.body handle <;> simp [put]
      | networkFunction name file weights =>
          simp only [Trace.steps?_all_cons, Trace.steps?_does, Trace.steps?_part, told,
            Trace.steps?_all_parts, body_eq]
          cases document.forest.body handle <;> simp [put, networkStart_eq]
      | trainingLoader file =>
          simp only [Trace.steps?_all_cons, Trace.steps?_does, Trace.steps?_part, told, body_eq]
          cases document.forest.body handle <;> simp [put]
      | _ => rfl

theorem member_eq_outcome (arrays : Bool) (page : Page) {handle : Handle}
    (passed : document.forest.passes (Construct.isMember document.embed) handle = true) :
    (document.codeMember arrays (document.dataMember ⟨page, true⟩ handle) handle >>= fun coded =>
        document.mainMember coded handle).map Inside.page =
      (document.memberTrace arrays handle).outcome document.indentWidth page := by
  have entered := document.passes_eq arrays [handle] ⟨page, true⟩
  simp only [List.foldl_cons, List.foldl_nil, List.foldlM_cons, List.foldlM_nil, bind_pure,
    Forest.order_singleton passed, List.mapM_cons, List.mapM_nil] at entered
  rw [Trace.outcome_eq, steps?_memberTrace, entered]
  cases document.forest.member handle with
  | error fault => rfl
  | ok found => cases found <;> rfl

/-- **A document is what its trace leads to**, and so are its classes, members, functions,
statements and arrays. -/
theorem told : document.Told where
  array page tier name values := by
    rw [Trace.outcome_eq, arrayTrace, Language.steps?_constantTrace]
    rfl
  matrix page tier name rows := by
    rw [Trace.outcome_eq, matrixTrace, Language.steps?_constantTrace]
    rfl
  statement page handle := by
    rw [statement_eq, Trace.outcome_eq, steps?_statementTrace, map_map]
    rfl
  body page handle := by
    rw [body_eq, Trace.outcome_eq, steps?_bodyTrace, map_map]
    rfl
  function := document.function_eq_outcome
  member arrays page _ := document.member_eq_outcome arrays page
  classBody page handle := by
    rw [classBody_eq, Trace.outcome_eq, steps?_classTrace]
    rfl
  page := by
    rw [Trace.outcome_eq, steps?_trace, page_eq_steps]
    rfl

end Document

end ModelExport
