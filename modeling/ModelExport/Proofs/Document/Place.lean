/-
# ModelExport.Proofs.Document.Place — where members and statements stand

The steps of a document place those of each class at the outermost level, a class
places those of each member one level further in (`places_member`), and a function
places those of each of its statements one level further in again
(`Member.places_statement`).
-/
import ModelExport.Proofs.Document.Reference
import ModelExport.Proofs.Layout.Place

set_option autoImplicit false

namespace ModelExport

open Layout

/-- The statements of a member; only functions have any. -/
def Member.body : Member → List Statement
  | .function _ body => body
  | .network _ _ _ body => body
  | .loader _ body => body
  | .main body => body
  | _ => []

/-- **A function places its statements a level further in.** -/
theorem Member.places_statement (language : Language) (perLine : Nat) (embed arrays : Bool)
    (level : Nat) {member : Member} {statement : Statement} (among : statement ∈ member.body) :
    Places level (level + 1) (statement.steps language perLine)
      (member.steps language perLine embed arrays) := by
  have inside {body : List Statement} (listed : statement ∈ body) :
      Places (level + 1) (level + 1) (statement.steps language perLine)
        (body.flatMap (Statement.steps language perLine)) :=
    Places.flatMap (fun other _ => other.leads_steps language perLine (level + 1)) listed
  cases member with
  | function name body =>
      exact ((inside among).behind (language.leads_openFunction level name none)).append _
  | network name file weights body =>
      have opened := (language.leads_openFunction level name (some Construct.methodType)).append
        (leads_networkStart language (level + 1) file (weights.filter fun _ => embed))
      exact (((inside among).behind opened).append _).append _
  | loader file body =>
      have opened := (language.leads_openFunction level Construct.loaderName
        (some Construct.dataSetType)).append (leads_loaderStart language arrays (level + 1) file)
      exact (((inside among).behind opened).append _).append _
  | main body => exact ((inside among).behind (language.leads_openMain level)).append _
  | _ => cases among

namespace Document

variable {document : Document}

theorem memberText_of_member (document : Document) {child : Handle} {member : Member}
    (read : document.forest.member child = .ok (some member)) (arrays : Bool) :
    document.memberText arrays child =
      document.written 1 (document.memberSteps arrays member) := by
  rw [memberText, read]

theorem places_class {steps : List Step} (made : document.steps = .ok steps) {owner : Handle}
    (among : owner ∈ document.forest.classes) :
    ∃ part, document.classSteps owner = .ok part ∧ Places 0 0 part steps := by
  obtain ⟨parts, all, rfl⟩ := map_eq_ok.1 made
  obtain ⟨part, listed, answered⟩ := exists_mem_of_mapM all among
  have each : ∀ part ∈ parts, Leads 0 0 (id part) := by
    intro part inside
    obtain ⟨handle, -, known⟩ := exists_of_mem_mapM all inside
    exact (document.written_class known).1
  have front := document.written_header.1.append (document.language.leads_prologue 0)
  rw [← List.flatMap_id]
  exact ⟨part, answered, (Places.flatMap each listed).behind front⟩

/-- **A document places the members of its classes a level further in.** -/
theorem places_member {steps : List Step} (made : document.steps = .ok steps) {owner child : Handle}
    (among : owner ∈ document.forest.classes)
    (ordered : child ∈ document.forest.order document.embed (document.forest.children owner)) :
    ∃ member, document.forest.member child = .ok (some member) ∧
      Places 0 1 (document.memberSteps
        (document.hasArrays (document.forest.children owner)) member) steps := by
  obtain ⟨part, asked, outer⟩ := places_class made among
  obtain ⟨construct, found, passed⟩ := Forest.passes_eq_true.1 (List.mem_filter.1 among).2
  cases construct with
  | classBody name =>
      rw [classSteps, found] at asked
      obtain ⟨members, read, rfl⟩ := map_eq_ok.1 asked
      obtain ⟨answers, all, rfl⟩ := map_eq_ok.1 read
      obtain ⟨answer, listed, answered⟩ := exists_mem_of_mapM all ordered
      obtain ⟨member, rfl⟩ := Forest.member_of_isMember (Forest.mem_order.1 ordered).2 answered
      refine ⟨member, answered, outer.trans (Places.append (Places.behind
        (document.language.leads_openClass 0 name) (Places.intercalate ?_ ?_)) _)⟩
      · rw [List.forall_mem_map]
        exact fun other _ => other.leads_steps _ _ _ _ 1
      · exact List.mem_map_of_mem (List.mem_filterMap.2 ⟨some member, listed, rfl⟩)
  | _ => cases passed

/-- The text of a document is what its steps write. -/
theorem text_eq_ok {text : String} : document.text = .ok text ↔
    ∃ steps, document.steps = .ok steps ∧ document.written 0 steps = text := by
  rw [Document.text, page_eq_steps, map_map]
  exact map_eq_ok

end Document

end ModelExport
