/-
# ModelExport.Proofs.Document.Names — declarations and calls agree on names

A function is declared by a line that stands around its identifier
(`Language.declarationLine`), and called by another (`Language.callLine`). Whatever
kind of function it is, its member begins with its declaration
(`Member.begins_declaration`); the entry point, whose head is spelled apart, is no
exception. A call means a function by its node or by its name (`Callee.Means`), and
in a program that is spelled the two lines stand around one identifier
(`names_agree`).
-/
import ModelExport.Proofs.Document.Fault
import ModelExport.Proofs.Document.Place

set_option autoImplicit false

namespace ModelExport

open Layout

/-! ## Lines around an identifier -/

/-- The first of the steps write a line. -/
def Layout.Heads (text : String) (steps : List Step) : Prop := ∃ rest, steps = line text ++ rest

theorem Layout.Heads.append {text : String} {steps : List Step} (heads : Heads text steps)
    (more : List Step) : Heads text (steps ++ more) := by
  obtain ⟨rest, rfl⟩ := heads
  exact ⟨rest ++ more, List.append_assoc _ _ _⟩

/-- The text of the steps starts with the line. -/
theorem Layout.Heads.written_eq {text : String} {steps : List Step} (heads : Heads text steps)
    (width level : Nat) :
    ∃ back, written width level steps = written width level (line text) ++ back := by
  obtain ⟨rest, rfl⟩ := heads
  obtain ⟨back, spelt⟩ :=
    Page.exists_text_run width (Page.run width ⟨"", level, true⟩ (line text)) rest
  exact ⟨back, by rw [written, Page.run_append, spelt, written]⟩

/-- The type of what a function gives back. -/
def Construct.resultType : Construct → String
  | .networkFunction _ _ _ => "MLMethod"
  | .trainingLoader _ => "MLDataSet"
  | _ => "void"

namespace Language

/-- What the entry point is given; no other function is given anything. -/
def parameters (language : Language) (construct : Construct) : String :=
  if construct.isMain then
    match language with
    | .java => "(String[] args)"
    | .csharp => "(string[] args)"
    | .javascript => "()"
  else "()"

/-- The line that declares a function under an identifier. -/
def declarationLine (language : Language) (construct : Construct) (identifier : String) : String :=
  match language with
  | .java =>
      "public static " ++ construct.resultType ++ " " ++ identifier ++
        language.parameters construct ++ " \x7b"
  | .csharp =>
      "public static " ++ construct.resultType ++ " " ++ identifier ++ language.parameters construct
  | .javascript => "function " ++ identifier ++ language.parameters construct ++ " \x7b"

/-- The line that binds a variable to what a function of an identifier gives back. -/
def callLine (language : Language) (type binding identifier : String) : String :=
  match language with
  | .java => type ++ " " ++ binding ++ " = " ++ identifier ++ "();"
  | .csharp => type ++ " " ++ binding ++ " = " ++ identifier ++ "();"
  | .javascript => "var " ++ binding ++ " = " ++ identifier ++ "();"

variable (language : Language)

theorem call_eq (function type binding : String) :
    language.call function type binding =
      line (language.callLine type binding (language.functionName function)) := by
  cases language <;> simp only [call, bind, callLine, String.append_assoc] <;> rfl

/-- The head of a function begins with the line that declares it. -/
theorem heads_openFunction {construct : Construct} {type? : Option String}
    (apart : construct.isMain = false) (typed : type?.getD "void" = construct.resultType)
    (name : String) :
    Heads (language.declarationLine construct (language.functionName name))
      (language.openFunction name type?) := by
  have given : language.parameters construct = "()" := if_neg (Bool.eq_false_iff.1 apart)
  unfold declarationLine
  rw [given, ← typed]
  cases language with
  | java => exact ⟨[.indent], rfl⟩
  | csharp => exact ⟨line "\x7b" ++ [.indent], rfl⟩
  | javascript => exact ⟨[.indent], rfl⟩

/-- The head of the entry point begins with the line that declares a function of its name. -/
theorem heads_openMain :
    Heads (language.declarationLine .mainFunction (language.functionName Construct.mainName))
      language.openMain := by
  cases language with
  | java => exact ⟨[.indent], by decide⟩
  | csharp => exact ⟨line "\x7b" ++ [.indent], by decide⟩
  | javascript => exact ⟨[.indent], by decide⟩

end Language

/-! ## Members and statements -/

/-- A call means a function: it points at its node, or it has its name. -/
inductive Callee.Means (forest : Forest) : Callee → Handle → Prop where
  | node (handle : Handle) : Means forest (.node handle) handle
  | function {handle : Handle} {name : String} :
      forest.construct? handle = some (.function name) → Means forest (.named name) handle
  | network {handle : Handle} {name : String} {file : Path} {weights : Option Handle} :
      forest.construct? handle = some (.networkFunction name file weights) →
        Means forest (.named name) handle
  | loader {handle : Handle} {file : Path} :
      forest.construct? handle = some (.trainingLoader file) →
        Means forest (.named "createTraining") handle
  | main {handle : Handle} :
      forest.construct? handle = some .mainFunction → Means forest (.named "main") handle

/-- Only functions have names as functions. -/
theorem Construct.isFunction_of_functionName? {construct : Construct} {name : String}
    (named : construct.functionName? = some name) : construct.isFunction = true := by
  rw [← construct.isSome_functionName?, named, Option.isSome_some]

namespace Forest

variable {forest : Forest} {handle : Handle} {construct : Construct}

/-- What is asked for by a call is the name of the function that it means. -/
theorem calleeName?_of_means (found : forest.construct? handle = some construct) {name : String}
    (named : construct.functionName? = some name) {callee : Callee}
    (means : callee.Means forest handle) : forest.calleeName? callee = some name := by
  have known (other : Construct) (again : forest.construct? handle = some other) :
      other.functionName? = some name := by
    rw [found] at again
    exact Option.some.inj again ▸ named
  cases means with
  | node => rw [calleeName?, functionName?, found, Option.bind_some, named]
  | function stands => exact known _ stands
  | network stands => exact known _ stands
  | loader stands => exact known _ stands
  | main stands => exact known _ stands

/-- A function among the children of a class is a member of it, whether or not rows are embedded. -/
theorem mem_order_of_isFunction {children : List Handle} (inside : handle ∈ children)
    (passed : forest.passes Construct.isFunction handle = true) (embed : Bool) :
    handle ∈ forest.order embed children := by
  obtain ⟨construct, found, isFunction⟩ := passes_eq_true.1 passed
  refine mem_order.2 ⟨inside, passes_eq_true.2 ⟨construct, found, ?_⟩⟩
  cases construct <;> simp_all [Construct.isMember, Construct.isCode, Construct.isMain,
    Construct.isFunction]

/-- The member that a function is has its kind, its name and its body. -/
theorem member_function_cases (found : forest.construct? handle = some construct)
    (isFunction : construct.isFunction = true) {member : Member}
    (read : forest.member handle = .ok (some member)) :
    ∃ body, forest.body handle = .ok body ∧
      ((∃ name, construct = .function name ∧ member = .function name body) ∨
      (∃ name file weights, construct = .networkFunction name file weights ∧
        member = .network name file (weights.bind forest.arrayName?) body) ∨
      (∃ file, construct = .trainingLoader file ∧ member = .loader file body) ∨
      construct = .mainFunction ∧ member = .main body) := by
  rw [Forest.member, found] at read
  cases construct with
  | function name =>
      obtain ⟨body, asked, made⟩ := map_eq_ok.1 read
      exact ⟨body, asked, .inl ⟨name, rfl, (Option.some.inj made).symm⟩⟩
  | networkFunction name file weights =>
      obtain ⟨body, asked, made⟩ := map_eq_ok.1 read
      exact ⟨body, asked, .inr (.inl ⟨name, file, weights, rfl, (Option.some.inj made).symm⟩)⟩
  | trainingLoader file =>
      obtain ⟨body, asked, made⟩ := map_eq_ok.1 read
      exact ⟨body, asked, .inr (.inr (.inl ⟨file, rfl, (Option.some.inj made).symm⟩))⟩
  | mainFunction =>
      obtain ⟨body, asked, made⟩ := map_eq_ok.1 read
      exact ⟨body, asked, .inr (.inr (.inr ⟨rfl, (Option.some.inj made).symm⟩))⟩
  | _ => cases isFunction

/-- The body of a function has the statements that its children are. -/
theorem mem_body_of_member {function child : Handle} {member : Member} {statement : Statement}
    (read : forest.member function = .ok (some member))
    (passed : forest.passes Construct.isFunction function = true)
    (inside : child ∈ forest.children function)
    (spelt : forest.statement child = .ok (some statement)) : statement ∈ member.body := by
  obtain ⟨construct, found, isFunction⟩ := passes_eq_true.1 passed
  obtain ⟨body, asked, kinds⟩ := member_function_cases found isFunction read
  obtain ⟨answers, all, rfl⟩ := map_eq_ok.1 asked
  obtain ⟨answer, among, answered⟩ := exists_mem_of_mapM all inside
  rw [spelt] at answered
  have listed : statement ∈ answers.filterMap id :=
    List.mem_filterMap.2 ⟨answer, among, (Except.ok.inj answered).symm⟩
  obtain ⟨name, -, rfl⟩ | ⟨name, file, weights, -, rfl⟩ | ⟨file, -, rfl⟩ | ⟨-, rfl⟩ := kinds
  · exact listed
  · exact listed
  · exact listed
  · exact listed

end Forest

/-- **The member of a function begins with its declaration**, whatever kind it is. -/
theorem Member.heads_steps {forest : Forest} {handle : Handle} {construct : Construct}
    (found : forest.construct? handle = some construct) {name : String}
    (named : construct.functionName? = some name) {member : Member}
    (read : forest.member handle = .ok (some member)) (language : Language) (perLine : Nat)
    (embed arrays : Bool) :
    Heads (language.declarationLine construct (language.functionName name))
      (member.steps language perLine embed arrays) := by
  have isFunction := Construct.isFunction_of_functionName? named
  obtain ⟨body, -, ⟨own, rfl, rfl⟩ | ⟨own, file, weights, rfl, rfl⟩ | ⟨file, rfl, rfl⟩ | ⟨rfl, rfl⟩⟩ :=
    Forest.member_function_cases found isFunction read
  · obtain rfl := Option.some.inj named
    exact ((language.heads_openFunction rfl rfl own).append _).append _
  · obtain rfl := Option.some.inj named
    exact ((((language.heads_openFunction rfl rfl own).append _).append _).append _).append _
  · obtain rfl := Option.some.inj named
    exact ((((language.heads_openFunction rfl rfl _).append _).append _).append _).append _
  · obtain rfl := Option.some.inj named
    exact (language.heads_openMain.append _).append _

namespace Document

variable {document : Document}

/-- The text of the statement that a child of a function is. -/
def statementText (document : Document) (child : Handle) : String :=
  match document.forest.statement child with
  | .ok (some statement) =>
      document.written 2 (statement.steps document.language document.valuesPerLine)
  | _ => ""

/-- A function among the children of a class is shown, and its text starts with its declaration. -/
theorem shows_declaration {text : String} (made : document.text = .ok text) {owner handle : Handle}
    (among : owner ∈ document.forest.classes) (inside : handle ∈ document.forest.children owner)
    {construct : Construct} (found : document.forest.construct? handle = some construct)
    {name : String} (named : construct.functionName? = some name) :
    let part := document.memberText (document.hasArrays (document.forest.children owner)) handle
    Shows text part ∧ ∃ back, part = document.written 1
      (line (document.language.declarationLine construct (document.language.functionName name))) ++
        back := by
  obtain ⟨steps, asked, rfl⟩ := text_eq_ok.1 made
  have isFunction := Construct.isFunction_of_functionName? named
  have ordered := Forest.mem_order_of_isFunction inside
    (Forest.passes_eq_true.2 ⟨construct, found, isFunction⟩) document.embed
  obtain ⟨member, read, places⟩ := places_member asked among ordered
  rw [document.memberText_of_member read]
  exact ⟨places.shows (member.leads_steps _ _ _ _ 1) document.indentWidth,
    (Member.heads_steps found named read _ _ _ _).written_eq document.indentWidth 1⟩

/-- A call that is reached is shown. -/
theorem shows_call {text : String} (made : document.text = .ok text) {call : Handle}
    (reached : document.forest.Reaches call) {callee : Callee} {type binding name : String}
    (calls : document.forest.construct? call = some (.call callee type binding))
    (asked : document.forest.calleeName? callee = some name) :
    Shows text (document.statementText call) ∧ document.statementText call =
      document.written 2
        (line (document.language.callLine type binding (document.language.functionName name))) := by
  obtain ⟨steps, spelt, rfl⟩ := text_eq_ok.1 made
  obtain ⟨owner, among, caller, inside, isFunction, below⟩ := reached
  obtain ⟨member, read, outer⟩ :=
    places_member spelt among (Forest.mem_order_of_isFunction inside isFunction document.embed)
  have stated : document.forest.statement call = .ok (some (.call name type binding)) := by
    rw [Forest.statement, calls]
    dsimp only
    rw [asked]
  have inner := Member.places_statement document.language document.valuesPerLine document.embed
    (document.hasArrays (document.forest.children owner)) 1
    (Forest.mem_body_of_member read isFunction below stated)
  have shown := (outer.trans inner).shows (Statement.leads_steps _ _ 2 _) document.indentWidth
  rw [statementText, stated]
  refine ⟨shown, ?_⟩
  rw [← document.language.call_eq]
  rfl

/-- **Declarations and calls agree on names.** When a function is written as a member of a class,
and a call that means it is written in a function of some class, the same identifier stands in the
line of the declaration and in that of the call. -/
theorem names_agree {text : String} (made : document.text = .ok text) {owner handle : Handle}
    (among : owner ∈ document.forest.classes) (inside : handle ∈ document.forest.children owner)
    {construct : Construct} (found : document.forest.construct? handle = some construct)
    (isFunction : construct.isFunction = true) {call : Handle}
    (reached : document.forest.Reaches call) {callee : Callee} {type binding : String}
    (calls : document.forest.construct? call = some (.call callee type binding))
    (means : callee.Means document.forest handle) :
    ∃ name identifier declaration, construct.functionName? = some name ∧
      identifier = document.language.functionName name ∧
      declaration = document.memberText
        (document.hasArrays (document.forest.children owner)) handle ∧
      Shows text declaration ∧
      (∃ back, declaration = document.written 1
        (line (document.language.declarationLine construct identifier)) ++ back) ∧
      Shows text (document.statementText call) ∧
      document.statementText call =
        document.written 2 (line (document.language.callLine type binding identifier)) := by
  have known : construct.functionName?.isSome = true :=
    construct.isSome_functionName?.trans isFunction
  obtain ⟨name, named⟩ := Option.isSome_iff_exists.1 known
  obtain ⟨shown, heads⟩ := shows_declaration made among inside found named
  obtain ⟨written, spelt⟩ :=
    shows_call made reached calls (Forest.calleeName?_of_means found named means)
  exact ⟨name, _, _, named, rfl, rfl, shown, heads, written, spelt⟩

/-- A class with a function whose name grows in upper case, and a call of that name. -/
def calling : Forest :=
  Forest.ofBuilders [.classBody "A", .function 0 "\u00dfeta", .main 0,
    .call 2 (.named "\u00dfeta") "T" "a"]

theorem names_agree_calling :
    let document : Document := ⟨.csharp, 4, 8, false, calling⟩
    calling.construct? 1 = some (.function "\u00dfeta") ∧ calling.Reaches 3 ∧
      Callee.Means calling (.named "\u00dfeta") 1 ∧
      ∃ text declaration, document.text = .ok text ∧ Shows text declaration ∧
        (∃ back, declaration =
          document.written 1 (line "public static void SSeta()") ++ back) ∧
        Shows text (document.statementText 3) ∧
        document.statementText 3 = document.written 2 (line "T a = SSeta();") := by
  intro document
  have found : calling.construct? 1 = some (.function "\u00dfeta") := by decide +kernel
  have reached : calling.Reaches 3 :=
    ⟨0, by decide +kernel, 2, by decide +kernel, by decide +kernel, by decide +kernel⟩
  have means : Callee.Means calling (.named "\u00dfeta") 1 := .function found
  have owner : 0 ∈ calling.classes := by decide +kernel
  have calls : calling.construct? 3 = some (.call (.named "\u00dfeta") "T" "a") := by decide +kernel
  obtain ⟨text, made⟩ := exists_text_iff.2 (show document.forest.dangling = [] by decide +kernel)
  obtain ⟨name, identifier, declaration, named, rfl, -, shown, heads, called, spelt⟩ :=
    names_agree made owner (by decide +kernel) found rfl reached calls means
  obtain rfl := Option.some.inj named
  have declared : document.language.declarationLine (.function "\u00dfeta")
      (document.language.functionName "\u00dfeta") = "public static void SSeta()" := by
    decide +kernel
  have bound : document.language.callLine "T" "a" (document.language.functionName "\u00dfeta") =
      "T a = SSeta();" := by decide +kernel
  rw [declared] at heads
  rw [bound] at spelt
  exact ⟨found, reached, means, text, declaration, made, shown, heads, called, spelt⟩

end Document

end ModelExport
