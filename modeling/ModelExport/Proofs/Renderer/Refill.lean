/-
# ModelExport.Proofs.Renderer.Refill — a template filled again and again

A renderer of a template is handed one script after the other. A script that defines
the files it names leaves its own document, whatever stood there before; any other is
refused and leaves everything as it was (`refill_cases`). So after any course of
scripts the document is that of the last one that was not refused, or empty if all were
(`refillAll_latest`), and what the next one will do is laid down in `Refilled`.
-/
import Mathlib.Data.List.Induction
import ModelExport.Proofs.Template.Values

set_option autoImplicit false

namespace ModelExport

open CannedTemplate (reservedKeys)

namespace Renderer

/-- Fill the renderer's template with a script, or keep the document if the script is refused. -/
def refill (renderer : Renderer) (script : Analyst) (stamp : Stamp) : Outcome × Renderer :=
  renderer.adopt (renderer.fill "generate" script stamp)

/-- A script, and the stamp of the time at which it is handed over. -/
abbrev Turn := Analyst × Stamp

/-- Fill the renderer's template with scripts one after the other. -/
def refillAll (renderer : Renderer) (turns : List Turn) : Renderer :=
  turns.foldl (fun renderer turn => (renderer.refill turn.1 turn.2).2) renderer

variable {template : CannedTemplate}

theorem refill_eq (template : CannedTemplate) (contents : String) (script : Analyst)
    (stamp : Stamp) :
    (Renderer.mk (.template template) contents).refill script stamp =
      (Renderer.mk (.template template) contents).adopt (template.document script stamp) := rfl

/-- **A script is refused and changes nothing, or it leaves its own document.** -/
theorem refill_cases (template : CannedTemplate) (contents : String) (script : Analyst)
    (stamp : Stamp) :
    (∃ identifier, script.Blames identifier ∧
      (Renderer.mk (.template template) contents).refill script stamp =
        (.error (.analyst (.undefinedFile identifier)), ⟨.template template, contents⟩)) ∨
    ∃ text, template.Makes script stamp text ∧
      (Renderer.mk (.template template) contents).refill script stamp =
        (.ok (), ⟨.template template, text⟩) := by
  rw [refill_eq]
  cases made : template.document script stamp with
  | error failure =>
      obtain ⟨identifier, blames, rfl⟩ := CannedTemplate.document_eq_error.1 made
      exact .inl ⟨identifier, blames, rfl⟩
  | ok text => exact .inr ⟨text, CannedTemplate.document_eq_ok.1 made, rfl⟩

/-- Of the scripts handed over, the last one that is not refused made a text. -/
def Latest (template : CannedTemplate) (turns : List Turn) (text : String) : Prop :=
  ∃ earlier script stamp later, turns = earlier ++ (script, stamp) :: later ∧
    template.Makes script stamp text ∧ ∀ turn ∈ later, ¬ turn.1.Defines

end Renderer

/-- A script that is refused does not define its files. -/
theorem Analyst.Blames.not_defines {script : Analyst} {identifier : String}
    (blames : script.Blames identifier) : ¬ script.Defines := by
  intro defines
  rcases blames with model | ⟨-, training⟩
  · exact defines modelFileKey List.mem_cons_self identifier model
  · exact defines trainingFileKey (List.mem_cons_of_mem _ List.mem_cons_self) identifier training

/-- A script that makes a document does. -/
theorem CannedTemplate.Makes.defines {template : CannedTemplate} {script : Analyst} {stamp : Stamp}
    {text : String} (makes : template.Makes script stamp text) : script.Defines := by
  obtain ⟨value, meaning, -⟩ := makes
  obtain ⟨model?, data?, found, -⟩ := meaning.eq_value?
  exact Session.exists_configuredFiles.1 ⟨model?, data?, found⟩

namespace Renderer

variable {template : CannedTemplate}

/-- **After any course of scripts the document is that of the last one that was not refused.** -/
theorem refillAll_latest (template : CannedTemplate) (turns : List Turn) :
    ∃ contents, (ofStyle (.template template)).refillAll turns = ⟨.template template, contents⟩ ∧
      (Latest template turns contents ∨
        contents = "" ∧ ∀ turn ∈ turns, ¬ turn.1.Defines) := by
  -- from the last script backwards, because the last one decides
  induction turns using List.reverseRecOn with
  | nil => exact ⟨"", rfl, .inr ⟨rfl, List.forall_mem_nil _⟩⟩
  | append_singleton past turn ih =>
      obtain ⟨contents, run, before⟩ := ih
      have stepped : (ofStyle (.template template)).refillAll (past ++ [turn]) =
          ((Renderer.mk (.template template) contents).refill turn.1 turn.2).2 := by
        rw [← run, refillAll, List.foldl_append]
        rfl
      rw [stepped]
      obtain ⟨identifier, blames, refused⟩ | ⟨text, makes, filled⟩ :=
        refill_cases template contents turn.1 turn.2
      · refine ⟨contents, by rw [refused], ?_⟩
        have last : ∀ other ∈ [turn], ¬ other.1.Defines :=
          List.forall_mem_singleton.2 blames.not_defines
        obtain ⟨earlier, script, stamp, later, rfl, made, since⟩ | ⟨rfl, none⟩ := before
        · refine .inl ⟨earlier, script, stamp, later ++ [turn], by simp, made, ?_⟩
          exact List.forall_mem_append.2 ⟨since, last⟩
        · exact .inr ⟨rfl, List.forall_mem_append.2 ⟨none, last⟩⟩
      · refine ⟨text, by rw [filled], .inl ⟨past, turn.1, turn.2, [], rfl, makes, ?_⟩⟩
        exact List.forall_mem_nil _

/-- What comes of handing a script to a renderer that has been handed others before. -/
structure Refilled (template : CannedTemplate) (before : Renderer) (script : Analyst)
    (stamp : Stamp) : Prop where
  /-- It is refused exactly when a property names a file that it does not define. -/
  refused : (∃ failure, (before.refill script stamp).1 = .error failure) ↔
    ∃ key ∈ Analyst.fileKeys, ∃ identifier, script.Misnames key identifier
  /-- Then the failure tells the first such identifier, and nothing changes. -/
  told : ∀ failure, (before.refill script stamp).1 = .error failure →
    (before.refill script stamp).2 = before ∧
      ∃ identifier, script.Blames identifier ∧ failure = .analyst (.undefinedFile identifier)
  /-- Otherwise the document is the template with every key replaced by what it stands for. -/
  made : (before.refill script stamp).1 = .ok () →
    template.Makes script stamp (before.refill script stamp).2.contents
  /-- What stood there before is of no account. -/
  forgets : ∀ contents, (before.refill script stamp).1 = .ok () →
    { before with contents := contents }.refill script stamp = before.refill script stamp
  /-- Neither are properties that are named like a reserved key. -/
  shadowed : ∀ twin, script.AgreesBeside twin reservedKeys →
    before.refill twin stamp = before.refill script stamp

/-- **One script is refused or makes its own document**, whatever stands there. -/
theorem refilled (template : CannedTemplate) (contents : String) (script : Analyst)
    (stamp : Stamp) : Refilled template ⟨.template template, contents⟩ script stamp := by
  have shadowed (twin : Analyst) (agrees : script.AgreesBeside twin reservedKeys) :
      (Renderer.mk (.template template) contents).refill twin stamp =
        (Renderer.mk (.template template) contents).refill script stamp := by
    rw [refill_eq, refill_eq]
    have agreed : script.Agrees twin Analyst.fileKeys := agrees.agrees (by decide)
    have files := Session.configuredFiles_eq_of_agrees agreed
    rw [CannedTemplate.document_congr files fun key _ free => agrees.properties _ free]
  obtain ⟨identifier, blames, refused⟩ | ⟨text, makes, filled⟩ :=
    refill_cases template contents script stamp
  · refine ⟨?_, ?_, ?_, ?_, shadowed⟩
    · refine iff_of_true ⟨_, by rw [refused]⟩ ?_
      rcases blames with model | ⟨-, training⟩
      · exact ⟨_, List.mem_cons_self, identifier, model⟩
      · exact ⟨_, List.mem_cons_of_mem _ List.mem_cons_self, identifier, training⟩
    · intro failure failed
      rw [refused] at failed ⊢
      cases failed
      exact ⟨rfl, identifier, blames, rfl⟩
    · intro succeeded
      rw [refused] at succeeded
      cases succeeded
    · intro other succeeded
      rw [refused] at succeeded
      cases succeeded
  · refine ⟨?_, ?_, ?_, ?_, shadowed⟩
    · refine iff_of_false ?_ ?_
      · rintro ⟨failure, failed⟩
        rw [filled] at failed
        cases failed
      · rintro ⟨key, file, identifier, misnames⟩
        exact makes.defines key file identifier misnames
    · intro failure failed
      rw [filled] at failed
      cases failed
    · intro _
      rw [filled]
      exact makes
    · intro other _
      rw [filled, refill_eq, CannedTemplate.document_eq_ok.2 makes]
      rfl

/-- **What a template is filled with is decided by the script at hand and its stamp**, after any
course of scripts; the document before it is that of the last one that was not refused. -/
theorem refilled_after (template : CannedTemplate) (past : List Turn) (script : Analyst)
    (stamp : Stamp) :
    let before := (ofStyle (.template template)).refillAll past
    Refilled template before script stamp ∧
      (Latest template past before.contents ∨
        before.contents = "" ∧ ∀ turn ∈ past, ¬ turn.1.Defines) := by
  obtain ⟨contents, run, history⟩ := refillAll_latest template past
  rw [run]
  exact ⟨refilled template contents script stamp, history⟩

end Renderer

end ModelExport
