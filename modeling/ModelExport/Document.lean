/-
# ModelExport.Document — the spelling of a whole program

Comments among the roots come first, wherever they stand, then the prologue, then
each class. A class is gone through three times: for the arrays (and, when
embedding, the training rows), for comments and functions, and for the entry
point. A blank line precedes every member but the first, so what is carried from
child to child is the page and whether it already holds a member. The one fault
is a call that points at a node that is no function; the first such call met is
named, and nothing of the page is kept.
-/
import ModelExport.Failure
import ModelExport.Forest
import ModelExport.Language
import ModelExport.Settings

set_option autoImplicit false

namespace ModelExport

open Layout (Step Page)

/-- Everything that the spelling of a program depends on. -/
structure Document where
  language : Language
  /-- Spaces per level of indentation. -/
  indentWidth : Nat
  valuesPerLine : Nat
  /-- Whether parameters and rows in the program are written, or left to be loaded. -/
  embed : Bool
  forest : Forest

namespace Document

/-- The name of the array of training input. -/
def inputName : String := "INPUT_DATA"

/-- The name of the array of ideal output. -/
def idealName : String := "IDEAL_DATA"

/-- The model inside the function that makes it. -/
def networkBinding : String := "network"

/-- The training rows inside the function that loads them. -/
def trainingBinding : String := "training"

/-- A page with steps carried out on it. -/
def put (document : Document) (page : Page) (steps : List Step) : Page :=
  page.run document.indentWidth steps

/-! ## Functions -/

/-- A child of a function, written. Constructs that are no statements are left out. -/
def statement (document : Document) (page : Page) (handle : Handle) : Except Failure Page :=
  match document.forest.construct? handle with
  | some (.comment text) => .ok (document.put page (Language.comment text))
  | some (.arrayLiteral name values) =>
      .ok (document.put page (document.language.array name values document.valuesPerLine))
  | some (.call callee type binding) =>
      match document.forest.calleeName? callee with
      | some name => .ok (document.put page (document.language.call name type binding))
      | none => .error (.invalidCallTarget binding)
  | _ => .ok page

/-- The children of a function, written in order. -/
def body (document : Document) (page : Page) (handle : Handle) : Except Failure Page :=
  (document.forest.children handle).foldlM document.statement page

/-- The array that the parameters of a network come from, when embedding. -/
def weightsArray? (document : Document) (weights : Option Handle) : Option String :=
  (weights.bind document.forest.arrayName?).filter fun _ => document.embed

/-- What precedes the body of a network function: the model is loaded, and its parameters are
overwritten from an array if there is one. -/
def networkStart (language : Language) (file : Path) (array? : Option String) : List Step :=
  language.loadModel networkBinding Construct.methodType file ++
    match array? with
    | some name => language.decodeWeights networkBinding name
    | none => []

/-- What precedes the body of a training loader: the rows come from the arrays of the class if it
has them, and from the file otherwise. -/
def loaderStart (language : Language) (file : Path) (arrays : Bool) : List Step :=
  if arrays then
    language.loadTrainingArrays trainingBinding Construct.dataSetType inputName idealName
  else language.loadTrainingFile trainingBinding Construct.dataSetType file

/-- A function other than the entry point, written; nothing for any other construct. -/
def function (document : Document) (arrays : Bool) (page : Page) (handle : Handle) :
    Except Failure Page :=
  match document.forest.construct? handle with
  | some (.function name) => do
      let opened := document.put page (document.language.openFunction name none)
      let filled ← document.body opened handle
      .ok (document.put filled Language.closeFunction)
  | some (.networkFunction name file weights) => do
      let opened := document.put page
        (document.language.openFunction name (some Construct.methodType))
      let loaded := document.put opened
        (networkStart document.language file (document.weightsArray? weights))
      let filled ← document.body loaded handle
      let returned := document.put filled (Language.returnValue networkBinding)
      .ok (document.put returned Language.closeFunction)
  | some (.trainingLoader file) => do
      let opened := document.put page
        (document.language.openFunction Construct.loaderName (some Construct.dataSetType))
      let loaded := document.put opened (loaderStart document.language file arrays)
      let filled ← document.body loaded handle
      let returned := document.put filled (Language.returnValue trainingBinding)
      .ok (document.put returned Language.closeFunction)
  | _ => .ok page

/-! ## Classes -/

/-- A page inside a class, and whether the class has no member on it yet. -/
structure Inside where
  page : Page
  first : Bool

/-- The page where the next member of a class begins, after a blank line if it is not the first. -/
def separate (document : Document) (inside : Inside) : Page :=
  if inside.first then inside.page else document.put inside.page [.newline]

/-- The arrays that a child of a class declares, written. -/
def dataMember (document : Document) (inside : Inside) (handle : Handle) : Inside :=
  match document.forest.construct? handle with
  | some (.arrayLiteral name values) =>
      ⟨document.put (document.separate inside)
        (document.language.array name values document.valuesPerLine), false⟩
  | some (.embeddedTraining _ (some rows)) =>
      if document.embed then
        let opened := document.separate inside
        let half := document.put opened (document.language.matrix inputName rows.input)
        ⟨document.put half (document.language.matrix idealName rows.ideal), false⟩
      else inside
  | _ => inside

/-- The comment or function, other than the entry point, that a child of a class is, written. -/
def codeMember (document : Document) (arrays : Bool) (inside : Inside) (handle : Handle) :
    Except Failure Inside :=
  match document.forest.construct? handle with
  | some .mainFunction => .ok inside
  | some (.comment text) =>
      .ok ⟨document.put (document.separate inside) (Language.comment text), false⟩
  | some construct =>
      if construct.isFunction then do
        let page ← document.function arrays (document.separate inside) handle
        .ok ⟨page, false⟩
      else .ok inside
  | none => .ok inside

/-- The entry point that a child of a class is, written. -/
def mainMember (document : Document) (inside : Inside) (handle : Handle) : Except Failure Inside :=
  match document.forest.construct? handle with
  | some .mainFunction => do
      let opened := document.put (document.separate inside) document.language.openMain
      let filled ← document.body opened handle
      .ok ⟨document.put filled Language.closeFunction, false⟩
  | _ => .ok inside

/-- Whether a node holds training rows. -/
def holdsRows (document : Document) (handle : Handle) : Bool :=
  match document.forest.construct? handle with
  | some (.embeddedTraining _ (some _)) => true
  | _ => false

/-- Whether training rows are written into a class with the given children. -/
def hasArrays (document : Document) (children : List Handle) : Bool :=
  document.embed && children.any document.holdsRows

/-- A class, written; nothing for any other construct. -/
def classBody (document : Document) (page : Page) (handle : Handle) : Except Failure Page :=
  match document.forest.construct? handle with
  | some (.classBody name) => do
      let children := document.forest.children handle
      let arrays := document.hasArrays children
      let opened : Inside := ⟨document.put page (document.language.openClass name), true⟩
      let declared := children.foldl document.dataMember opened
      let coded ← children.foldlM (document.codeMember arrays) declared
      let entered ← children.foldlM document.mainMember coded
      .ok (document.put entered.page (document.language.closeClass name))
  | _ => .ok page

/-- The comments among the roots, written. -/
def header (document : Document) (page : Page) : Page :=
  document.forest.topComments.foldl
    (fun page text => document.put page (Language.comment text)) page

/-- A program, written on a blank page. -/
def page (document : Document) : Except Failure Page :=
  let opened := document.put (document.header Page.blank) document.language.prologue
  document.forest.classes.foldlM document.classBody opened

/-- The text of a program. -/
def text (document : Document) : Except Failure String := document.page.map Page.text

end Document

end ModelExport
