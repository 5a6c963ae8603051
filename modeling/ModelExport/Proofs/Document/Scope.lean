/-
# ModelExport.Proofs.Document.Scope — what a class declares, and what it uses

A class declares functions and arrays, and its phrases use them by name: parameters
are decoded from an array, training rows are made from two matrices, and the entry
point calls functions. A name is used before the language has a say, so two functions
are the same to the reader of a document if the language spells them the same.
`Scoped` says that a class declares all that it uses, its entry point once, and what
is written into it once at most. It can be read off the members of the class, before
they are spelled (`scoped_of_members`). What a class says does not depend on where its
nodes stand (`spelledClass_part`).
-/
import Mathlib.Data.List.Nodup
import ModelExport.Session
import ModelExport.Proofs.Document.Append

set_option autoImplicit false

namespace ModelExport

namespace Phrase

/-- The function that a phrase declares. -/
def function? : Phrase → Option String
  | .openFunction name _ => some name
  | .openMain => some Construct.mainName
  | _ => none

/-- The array that a phrase declares, with values or with rows. -/
def array? : Phrase → Option String
  | .array name _ => some name
  | .matrix name _ => some name
  | _ => none

end Phrase

namespace SpelledClass

variable (spelled : SpelledClass)

/-- The phrases of all members. -/
def body : List Phrase := spelled.members.flatten

/-- The functions that a class declares, as a language spells their names. -/
def functions (language : Language) : List String :=
  (spelled.body.filterMap Phrase.function?).map language.functionName

/-- The arrays that a class declares. -/
def arrays : List String := spelled.body.filterMap Phrase.array?

/-- A class declares what it uses. -/
structure Scoped (language : Language) : Prop where
  /-- Parameters are decoded from an array of the class. -/
  weights : ∀ name, .decodeWeights name ∈ spelled.body → ∃ values, .array name values ∈ spelled.body
  /-- Training rows are made from the two matrices of the class. -/
  rows : ∀ input ideal, .loadTrainingArrays input ideal ∈ spelled.body →
    input = Document.inputName ∧ ideal = Document.idealName ∧
      (∃ values, .matrix input values ∈ spelled.body) ∧
      ∃ values, .matrix ideal values ∈ spelled.body
  /-- The entry point calls functions of the class. -/
  calls : ∀ member ∈ spelled.members, .openMain ∈ member → ∀ function type binding,
    .call function type binding ∈ member →
      language.functionName function ∈ spelled.functions language
  main : (spelled.functions language).count (language.functionName Construct.mainName) = 1
  network : (spelled.functions language).count (language.functionName Session.networkName) ≤ 1
  /-- No array is declared twice. -/
  once : spelled.arrays.count Forest.weightsName ≤ 1 ∧
    spelled.arrays.count Document.inputName ≤ 1 ∧ spelled.arrays.count Document.idealName ≤ 1

end SpelledClass

/-! ## From outlines -/

/-- The array that a statement declares. -/
def Statement.array? : Statement → Option String
  | .array name _ => some name
  | _ => none

/-- The function that a member declares. -/
def Member.function? : Member → Option String
  | .function name _ => some name
  | .network name _ _ _ => some name
  | .loader _ _ => some Construct.loaderName
  | .main _ => some Construct.mainName
  | _ => none

/-- The arrays that a member declares, be it inside a function. -/
def Member.declared : Member → List String
  | .array name _ => [name]
  | .rows _ => [Document.inputName, Document.idealName]
  | .comment _ => []
  | .function _ body => body.filterMap Statement.array?
  | .network _ _ _ body => body.filterMap Statement.array?
  | .loader _ body => body.filterMap Statement.array?
  | .main body => body.filterMap Statement.array?

namespace Statement

@[simp] theorem phrase_ne_openMain (statement : Statement) : statement.phrase ≠ .openMain := by
  cases statement <;> nofun

@[simp] theorem phrase_ne_decodeWeights (statement : Statement) (weights : String) :
    statement.phrase ≠ .decodeWeights weights := by
  cases statement <;> nofun

@[simp] theorem phrase_ne_loadTrainingArrays (statement : Statement) (input ideal : String) :
    statement.phrase ≠ .loadTrainingArrays input ideal := by
  cases statement <;> nofun

theorem phrase_eq_call {statement : Statement} {function type binding : String} :
    statement.phrase = .call function type binding ↔ statement = .call function type binding := by
  cases statement <;> simp [phrase]

/-- A statement declares no function. -/
@[simp] theorem function?_comp_phrase : Phrase.function? ∘ phrase = fun _ => none := by
  funext statement
  cases statement <;> rfl

@[simp] theorem array?_comp_phrase : Phrase.array? ∘ phrase = array? := by
  funext statement
  cases statement <;> rfl

end Statement

namespace Member

variable {embed arrays : Bool} {member : Member}

theorem filterMap_function? :
    (member.phrases embed arrays).filterMap Phrase.function? = member.function?.toList := by
  cases member with
  | network name file weights body =>
      cases weights <;> cases embed <;>
        simp [phrases, List.filterMap_cons, function?, Phrase.function?]
  | loader file body =>
      cases arrays <;> simp [phrases, List.filterMap_cons, function?, Phrase.function?]
  | _ => simp [phrases, List.filterMap_cons, function?, Phrase.function?]

theorem filterMap_array? :
    (member.phrases embed arrays).filterMap Phrase.array? = member.declared := by
  cases member with
  | network name file weights body =>
      cases weights <;> cases embed <;>
        simp [phrases, List.filterMap_cons, Member.declared, Phrase.array?]
  | loader file body =>
      cases arrays <;> simp [phrases, List.filterMap_cons, Member.declared, Phrase.array?]
  | _ => simp [phrases, List.filterMap_cons, Member.declared, Phrase.array?]

/-- Parameters are decoded in a function that makes a model, when embedding. -/
theorem decodeWeights_mem {array : String} :
    .decodeWeights array ∈ member.phrases embed arrays ↔
      embed = true ∧ ∃ name file body, member = .network name file (some array) body := by
  cases member with
  | network name file weights body =>
      cases weights <;> cases embed <;> simp [phrases]
  | loader file body => cases arrays <;> simp [phrases]
  | _ => simp [phrases]

/-- Training rows are made from the matrices in a loader, if the class has them. -/
theorem loadTrainingArrays_mem {input ideal : String} :
    .loadTrainingArrays input ideal ∈ member.phrases embed arrays ↔
      (arrays = true ∧ input = Document.inputName ∧ ideal = Document.idealName) ∧
        ∃ file body, member = .loader file body := by
  cases member with
  | network name file weights body => cases weights <;> cases embed <;> simp [phrases]
  | loader file body => cases arrays <;> simp [phrases]
  | _ => simp [phrases]

theorem openMain_mem :
    .openMain ∈ member.phrases embed arrays ↔ ∃ body, member = .main body := by
  cases member with
  | network name file weights body => cases weights <;> cases embed <;> simp [phrases]
  | loader file body => cases arrays <;> simp [phrases]
  | _ => simp [phrases]

/-- The calls of the entry point are those among its statements. -/
theorem call_mem_main {body : List Statement} {function type binding : String} :
    .call function type binding ∈ (Member.main body).phrases embed arrays ↔
      .call function type binding ∈ body := by
  simp [phrases, Statement.phrase_eq_call]

end Member

namespace SpelledClass

variable {name : String} {members : List Member} {embed arrays : Bool} {language : Language}

theorem functions_of_members :
    functions ⟨name, members.map (Member.phrases embed arrays)⟩ language =
      (members.filterMap Member.function?).map language.functionName := by
  rw [functions, body, List.filterMap_flatten, List.map_map, List.filterMap_eq_flatMap_toList]
  simp only [Function.comp_def, Member.filterMap_function?, ← List.flatMap_def]

theorem arrays_of_members :
    SpelledClass.arrays ⟨name, members.map (Member.phrases embed arrays)⟩ =
      members.flatMap Member.declared := by
  rw [SpelledClass.arrays, body, List.filterMap_flatten, List.map_map]
  simp only [Function.comp_def, Member.filterMap_array?, ← List.flatMap_def]

theorem mem_body_of_members {phrase : Phrase} :
    phrase ∈ body ⟨name, members.map (Member.phrases embed arrays)⟩ ↔
      ∃ member ∈ members, phrase ∈ member.phrases embed arrays := by
  rw [body, ← List.flatMap_def, List.mem_flatMap]

/-- A class is scoped if its members declare what they use. -/
theorem scoped_of_members
    (weights : ∀ called file array body, .network called file (some array) body ∈ members →
      ∃ values, .array array values ∈ members)
    (rows : arrays = true → ∃ set, .rows set ∈ members)
    (calls : ∀ body, .main body ∈ members → ∀ function type binding,
      .call function type binding ∈ body → function ∈ members.filterMap Member.function?)
    (main : ((members.filterMap Member.function?).map language.functionName).count
      (language.functionName Construct.mainName) = 1)
    (network : ((members.filterMap Member.function?).map language.functionName).count
      (language.functionName Session.networkName) ≤ 1)
    (once : (members.flatMap Member.declared).Nodup) :
    Scoped ⟨name, members.map (Member.phrases embed arrays)⟩ language := by
  have single := List.nodup_iff_count_le_one.1 once
  refine ⟨?_, ?_, ?_, ?_, ?_, ?_⟩
  · intro array decoded
    obtain ⟨member, among, decoded⟩ := mem_body_of_members.1 decoded
    obtain ⟨-, called, file, body, rfl⟩ := Member.decodeWeights_mem.1 decoded
    obtain ⟨values, declared⟩ := weights called file array body among
    exact ⟨values, mem_body_of_members.2 ⟨_, declared, List.mem_cons_self⟩⟩
  · intro input ideal loaded
    obtain ⟨member, among, loaded⟩ := mem_body_of_members.1 loaded
    obtain ⟨⟨held, rfl, rfl⟩, -⟩ := Member.loadTrainingArrays_mem.1 loaded
    obtain ⟨set, declared⟩ := rows held
    exact ⟨rfl, rfl, ⟨_, mem_body_of_members.2 ⟨_, declared, List.mem_cons_self⟩⟩,
      _, mem_body_of_members.2 ⟨_, declared, List.mem_cons_of_mem _ List.mem_cons_self⟩⟩
  · intro spelled among entered function type binding called
    obtain ⟨member, inside, rfl⟩ := List.mem_map.1 among
    obtain ⟨body, rfl⟩ := Member.openMain_mem.1 entered
    rw [functions_of_members]
    exact List.mem_map_of_mem
      (calls body inside function type binding (Member.call_mem_main.1 called))
  · rwa [functions_of_members]
  · rwa [functions_of_members]
  · rw [arrays_of_members]
    exact ⟨single _, single _, single _⟩

end SpelledClass

/-- **What a class says does not depend on where its nodes stand.** -/
theorem Forest.spelledClass_part {part whole : Forest} {offset : Nat} (embed : Bool)
    (within : Part part whole offset) {handle : Handle} (inside : handle < part.size) :
    whole.spelledClass embed (handle + offset) = part.spelledClass embed handle := by
  have known := within.closed.children handle
  have members : whole.members embed ((part.children handle).map (· + offset)) =
      part.members embed (part.children handle) := by
    have same : ∀ child ∈ part.order embed (part.children handle),
        whole.member (child + offset) = part.member child :=
      fun child ordered => within.member (known child (mem_order.1 ordered).1)
    rw [Forest.members, within.order known embed, mapM_map_eq same, Forest.members]
  have name : whole.className (handle + offset) = part.className handle := by
    rw [className, within.construct? inside, className]
    cases part.construct? handle with
    | none => rfl
    | some construct =>
        cases construct with
        | call callee type binding => cases callee <;> rfl
        | _ => rfl
  have rows : whole.writesRows embed ((part.children handle).map (· + offset)) =
      part.writesRows embed (part.children handle) := writesRows_part embed within known
  rw [spelledClass, within.children inside, members, name, rows]
  rfl

end ModelExport
