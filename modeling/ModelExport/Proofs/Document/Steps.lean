/-
# ModelExport.Proofs.Document.Steps — a document as one list of steps

Writing a program carries a page through the whole of it. The same document is
written by a list of steps that is put together beforehand from the outlines of
the classes: `steps` is that list, or the first fault among the outlines, and
`page_eq_steps` says that writing a program is carrying out its steps on a blank
page. The passes over a class turn into one list of members with a blank line
between any two of them (`classBody_eq`).
-/
import ModelExport.Document
import ModelExport.Proofs.Fold
import ModelExport.Proofs.Forest.Outline
import ModelExport.Proofs.Layout.Level

set_option autoImplicit false

namespace ModelExport

open Layout (Step Page)

/-! ## Spelling an outline -/

/-- The steps that write a statement. -/
def Statement.steps (language : Language) (perLine : Nat) : Statement → List Step
  | .comment text => Language.comment text
  | .array name values => language.array name values perLine
  | .call function type binding => language.call function type binding

/-- The steps that write a member of a class. Rows and parameters are used only when embedding,
and `arrays` tells whether the class has training rows. -/
def Member.steps (language : Language) (perLine : Nat) (embed arrays : Bool) : Member → List Step
  | .array name values => language.array name values perLine
  | .rows set =>
      language.matrix Document.inputName set.input ++ language.matrix Document.idealName set.ideal
  | .comment text => Language.comment text
  | .function name body =>
      language.openFunction name none ++ body.flatMap (Statement.steps language perLine) ++
        Language.closeFunction
  | .network name file weights body =>
      language.openFunction name (some Construct.methodType) ++
        Document.networkStart language file (weights.filter fun _ => embed) ++
        body.flatMap (Statement.steps language perLine) ++
        Language.returnValue Document.networkBinding ++ Language.closeFunction
  | .loader file body =>
      language.openFunction Construct.loaderName (some Construct.dataSetType) ++
        Document.loaderStart language file arrays ++
        body.flatMap (Statement.steps language perLine) ++
        Language.returnValue Document.trainingBinding ++ Language.closeFunction
  | .main body =>
      language.openMain ++ body.flatMap (Statement.steps language perLine) ++ Language.closeFunction

namespace Document

variable (document : Document)

/-- The steps that write a member of a class, given whether training rows are written into it. -/
def memberSteps (arrays : Bool) : Member → List Step :=
  Member.steps document.language document.valuesPerLine document.embed arrays

/-- The steps that write a class; none for any other construct. -/
def classSteps (handle : Handle) : Except Failure (List Step) :=
  match document.forest.construct? handle with
  | some (.classBody name) =>
      let children := document.forest.children handle
      (document.forest.members document.embed children).map fun members =>
        document.language.openClass name ++
          [Step.newline].intercalate
            (members.map (document.memberSteps (document.hasArrays children))) ++
          document.language.closeClass name
  | _ => .ok []

/-- The steps that write the comments among the roots. -/
def headerSteps : List Step := document.forest.topComments.flatMap Language.comment

/-- The steps that write a program. -/
def steps : Except Failure (List Step) :=
  (document.forest.classes.mapM document.classSteps).map fun parts =>
    document.headerSteps ++ document.language.prologue ++ parts.flatten

/-! ## Carrying steps out one after the other -/

@[simp] theorem put_append (page : Page) (front back : List Step) :
    document.put page (front ++ back) = document.put (document.put page front) back :=
  Page.run_append _ _ _ _

theorem foldl_put {α : Type} (spell : α → List Step) (parts : List α) (page : Page) :
    parts.foldl (fun page part => document.put page (spell part)) page =
      document.put page (parts.flatMap spell) := by
  induction parts generalizing page with
  | nil => rfl
  | cons part rest ih => rw [List.foldl_cons, ih, List.flatMap_cons, put_append]

/-! ## Functions -/

/-- The steps that write a child of a function. -/
def childSteps (found : Option Statement) : List Step :=
  found.elim [] (Statement.steps document.language document.valuesPerLine)

theorem flatMap_childSteps (found : List (Option Statement)) :
    found.flatMap document.childSteps =
      (found.filterMap id).flatMap (Statement.steps document.language document.valuesPerLine) := by
  induction found with
  | nil => rfl
  | cons first rest ih =>
      cases first with
      | none => simpa [childSteps] using ih
      | some statement => simp [childSteps, ih]

theorem statement_eq (page : Page) (handle : Handle) :
    document.statement page handle =
      (document.forest.statement handle).map fun found =>
        document.put page (document.childSteps found) := by
  unfold statement Forest.statement
  cases document.forest.construct? handle with
  | none => rfl
  | some construct =>
      cases construct with
      | call callee type binding =>
          dsimp only
          cases document.forest.calleeName? callee <;> rfl
      | _ => rfl

theorem body_eq (page : Page) (handle : Handle) :
    document.body page handle =
      (document.forest.body handle).map fun body =>
        document.put page
          (body.flatMap (Statement.steps document.language document.valuesPerLine)) := by
  rw [body, foldlM_eq_mapM document.statement_eq, Forest.body, map_map]
  simp only [foldl_put, flatMap_childSteps, Function.comp_def]

theorem function_eq (arrays : Bool) (page : Page) (handle : Handle)
    {construct : Construct} (found : document.forest.construct? handle = some construct)
    (isFunction : construct.isFunction = true) (apart : construct.isMain = false) :
    document.function arrays page handle =
      (document.forest.member handle).map fun member =>
        document.put page (member.elim [] (document.memberSteps arrays)) := by
  unfold function Forest.member
  rw [found]
  cases construct with
  | function name =>
      simp only [body_eq]
      cases document.forest.body handle <;> simp [memberSteps, Member.steps]
  | networkFunction name file weights =>
      simp only [body_eq]
      cases document.forest.body handle <;> simp [memberSteps, Member.steps, weightsArray?]
  | trainingLoader file =>
      simp only [body_eq]
      cases document.forest.body handle <;> simp [memberSteps, Member.steps]
  | mainFunction => simp [Construct.isMain] at apart
  | _ => simp [Construct.isFunction] at isFunction

/-! ## Classes -/

/-- The state inside a class after one more member; nothing happens if there is none. -/
def enter (arrays : Bool) (inside : Inside) : Option Member → Inside
  | none => inside
  | some member =>
      ⟨document.put (document.separate inside) (document.memberSteps arrays member), false⟩

/-- The first pass, put as a step that never fails. -/
theorem dataMember_eq (arrays : Bool) (inside : Inside) (handle : Handle) :
    (.ok (document.dataMember inside handle) : Except Failure Inside) =
      if document.forest.passes (Construct.declares document.embed) handle then
        (document.forest.member handle).map (document.enter arrays inside)
      else .ok inside := by
  unfold dataMember Forest.member Forest.passes
  cases document.forest.construct? handle with
  | none => rfl
  | some construct =>
      cases construct with
      | embeddedTraining file rows =>
          cases rows with
          | none => rfl
          | some set =>
              cases embedding : document.embed <;>
                simp [Construct.declares, enter, memberSteps, Member.steps]
      | _ => rfl

/-- The second pass. -/
theorem codeMember_eq (arrays : Bool) (inside : Inside) (handle : Handle) :
    document.codeMember arrays inside handle =
      if document.forest.passes Construct.isCode handle then
        (document.forest.member handle).map (document.enter arrays inside)
      else .ok inside := by
  unfold codeMember Forest.passes
  cases found : document.forest.construct? handle with
  | none => rfl
  | some construct =>
      have spelt := document.function_eq arrays (document.separate inside) handle found
      -- a function is always a member, so each of the three is written after a separation
      have written (code : construct.isFunction = true) (apart : construct.isMain = false) :
          (do let page ← document.function arrays (document.separate inside) handle
              .ok ⟨page, false⟩ : Except Failure Inside) =
            (document.forest.member handle).map (document.enter arrays inside) := by
        rw [spelt code apart, Forest.member, found]
        cases construct with
        | mainFunction => simp [Construct.isMain] at apart
        | function name => cases document.forest.body handle <;> rfl
        | networkFunction name file weights => cases document.forest.body handle <;> rfl
        | trainingLoader file => cases document.forest.body handle <;> rfl
        | _ => simp [Construct.isFunction] at code
      cases construct with
      | comment text =>
          simp [Construct.isCode, Forest.member, found, enter, memberSteps, Member.steps]
      | function name => exact written rfl rfl
      | networkFunction name file weights => exact written rfl rfl
      | trainingLoader file => exact written rfl rfl
      | _ => rfl

/-- The third pass. -/
theorem mainMember_eq (arrays : Bool) (inside : Inside) (handle : Handle) :
    document.mainMember inside handle =
      if document.forest.passes Construct.isMain handle then
        (document.forest.member handle).map (document.enter arrays inside)
      else .ok inside := by
  unfold mainMember Forest.member Forest.passes
  cases document.forest.construct? handle with
  | none => rfl
  | some construct =>
      cases construct with
      | mainFunction =>
          simp only [body_eq]
          cases document.forest.body handle <;>
            simp [Construct.isMain, enter, memberSteps, Member.steps]
      | _ => rfl

/-- Parts with a separator between them: every part but the first comes after one. -/
theorem intercalate_cons {α : Type} (separator : α) (first : List α) (rest : List (List α)) :
    [separator].intercalate (first :: rest) = first ++ rest.flatMap (separator :: ·) := by
  induction rest generalizing first with
  | nil => simp
  | cons next rest ih => simp [List.intercalate_cons_cons, ih]

theorem foldl_enter (arrays : Bool) (found : List (Option Member)) (page : Page)
    (first : Bool) :
    found.foldl (document.enter arrays) ⟨page, first⟩ =
      (found.filterMap id).foldl
        (fun inside member => document.enter arrays inside (some member)) ⟨page, first⟩ := by
  induction found generalizing page first with
  | nil => rfl
  | cons head rest ih =>
      cases head with
      | none => exact ih page first
      | some member => exact ih _ _

/-- **A blank line stands between any two members.** -/
theorem foldl_enter_page (arrays : Bool) (members : List Member) (page : Page) :
    (members.foldl (fun inside member => document.enter arrays inside (some member))
        ⟨page, true⟩).page =
      document.put page
        ([Step.newline].intercalate (members.map (document.memberSteps arrays))) := by
  have later : ∀ (rest : List Member) (page : Page),
      (rest.foldl (fun inside member => document.enter arrays inside (some member))
          ⟨page, false⟩).page =
        document.put page
          (rest.flatMap fun member => .newline :: document.memberSteps arrays member) := by
    intro rest
    induction rest with
    | nil => exact fun page => rfl
    | cons member rest ih =>
        intro page
        rw [List.foldl_cons, List.flatMap_cons, put_append]
        exact ih _
  cases members with
  | nil => rfl
  | cons member rest =>
      rw [List.foldl_cons, List.map_cons, intercalate_cons, put_append, List.flatMap_map]
      exact later rest _

/-- The three passes over the children, as one pass over the members in their order. -/
theorem passes_eq (arrays : Bool) (children : List Handle) (opened : Inside) :
    (do let coded ← children.foldlM (document.codeMember arrays)
          (children.foldl document.dataMember opened)
        children.foldlM document.mainMember coded) =
      ((document.forest.order document.embed children).mapM document.forest.member).map
        fun found => found.foldl (document.enter arrays) opened := by
  have declared : (.ok (children.foldl document.dataMember opened) : Except Failure Inside) =
      ((children.filter (document.forest.passes (Construct.declares document.embed))).mapM
        document.forest.member).map fun found => found.foldl (document.enter arrays) opened :=
    (List.foldlM_pure (m := Except Failure)).symm.trans
      (foldlM_eq_mapM_filter (document.dataMember_eq arrays) children opened)
  have coded := foldlM_eq_mapM_filter (document.codeMember_eq arrays) children
  have entered := foldlM_eq_mapM_filter (document.mainMember_eq arrays) children
  rw [Forest.order, List.mapM_append, List.mapM_append]
  obtain ⟨data, asked, folded⟩ := map_eq_ok.1 declared.symm
  rw [asked, ← folded, coded]
  cases (children.filter (document.forest.passes Construct.isCode)).mapM
      document.forest.member with
  | error fault => rfl
  | ok code =>
      simp only [map_ok, ok_bind, entered]
      cases (children.filter (document.forest.passes Construct.isMain)).mapM
          document.forest.member with
      | error fault => rfl
      | ok mains => simp [List.foldl_append]

theorem classBody_eq (page : Page) (handle : Handle) :
    document.classBody page handle = (document.classSteps handle).map (document.put page) := by
  unfold classBody classSteps
  cases document.forest.construct? handle with
  | none => rfl
  | some construct =>
      cases construct with
      | classBody name =>
          have passes := document.passes_eq
            (document.hasArrays (document.forest.children handle)) (document.forest.children handle)
            ⟨document.put page (document.language.openClass name), true⟩
          simp only [← bind_assoc] at passes ⊢
          rw [passes, Forest.members]
          generalize (document.forest.order document.embed
            (document.forest.children handle)).mapM document.forest.member = asked
          cases asked with
          | error fault => rfl
          | ok found =>
              simp only [map_ok, ok_bind, foldl_enter, foldl_enter_page, put_append]
      | _ => rfl

theorem header_eq (page : Page) : document.header page = document.put page document.headerSteps :=
  document.foldl_put Language.comment document.forest.topComments page

/-- **Writing a program is carrying out its steps on a blank page.** -/
theorem page_eq_steps : document.page = document.steps.map (document.put Page.blank) := by
  rw [page, foldlM_eq_mapM document.classBody_eq, header_eq, steps, map_map]
  congr 1
  funext parts
  simp only [Function.comp_apply, put_append]
  exact (document.foldl_put id parts _).trans (by rw [List.flatMap_id])

end Document

end ModelExport
