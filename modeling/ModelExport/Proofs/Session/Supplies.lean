/-
# ModelExport.Proofs.Session.Supplies — what a generation needs

A session can be started for every target that has a family. A generation needs a
renderer of programs and, if the session embeds, a model file and a training file
that load, as far as they are given, with a model that is encodable
(`exists_generate`). From a script it needs that the script defines its files; the
files themselves are needed only for a program that embeds
(`exists_generateFromAnalyst`).
-/
import ModelExport.Proofs.Session.Contract
import ModelExport.Proofs.Renderer.Refill

set_option autoImplicit false

namespace ModelExport

/-- A model that can be embedded loads, and so do training rows, as far as files are given. -/
structure Loaders.Supplies (loaders : Loaders) (model? data? : Option Path) : Prop where
  model : ∀ path, model? = some path →
    ∃ model parameters, loaders.model path = .ok model ∧ model.parameters? = some parameters
  rows : ∀ path, data? = some path → ∃ rows, loaders.trainingSet path = .ok rows

theorem exists_style (target : Target) (settings : Settings) :
    (∃ style, Style.ofTarget target settings = .ok style) ↔
      ∃ family, target.family? = some family := by
  cases target <;> simp [Style.ofTarget, Target.family?]

namespace Session

variable {session : Session} {loaders : Loaders} {model? data? : Option Path}

/-- A new session has the renderer of its target, and an empty program. -/
theorem start_eq_ok {target : Target} {stamp : Stamp} {settings : Settings} {first : Session} :
    start target stamp settings = .ok first ↔
      ∃ style, Style.ofTarget target settings = .ok style ∧
        first = ⟨target, false, settings.className, .ofStyle style, .empty, .empty, stamp⟩ := by
  unfold start Renderer.ofTarget
  cases Style.ofTarget target settings <;> simp [eq_comm]

/-- A session of a template adopts the document of the script. -/
theorem generateFromAnalyst_eq_adopt {template : CannedTemplate}
    (fills : session.renderer.style = .template template) (loaders : Loaders) (script : Analyst) :
    session.generateFromAnalyst loaders script =
      session.adopt (template.document script session.stamp) := by
  simp only [generateFromAnalyst, Renderer.family, Renderer.fill, fills, Style.family]

/-- A session can be started for a target with a family. -/
theorem exists_start (target : Target) (stamp : Stamp) (settings : Settings) :
    (∃ first, start target stamp settings = .ok first) ↔
      ∃ family, target.family? = some family := by
  rw [← exists_style target settings]
  simp only [start_eq_ok]
  constructor
  · rintro ⟨first, style, chosen, -⟩
    exact ⟨style, chosen⟩
  · rintro ⟨style, chosen⟩
    exact ⟨_, style, chosen, rfl⟩

theorem modelChecks_iff :
    (modelLoads loaders model? = .ok () ∧ modelEncodable loaders model? = .ok ()) ↔
      ∀ path, model? = some path → ∃ model parameters,
        loaders.model path = .ok model ∧ model.parameters? = some parameters := by
  unfold modelLoads modelEncodable
  cases model? with
  | none => simp
  | some path =>
      cases loaded : loaders.model path with
      | error error => simp [loaded]
      | ok model => cases listed : model.parameters? <;> simp [loaded, requireEncodable, listed]

theorem dataLoads_iff :
    dataLoads loaders data? = .ok () ↔
      ∀ path, data? = some path → ∃ rows, loaders.trainingSet path = .ok rows := by
  unfold dataLoads
  cases data? with
  | none => simp
  | some path => cases loaded : loaders.trainingSet path <;> simp [loaded]

/-- **The checks of reading tell whether everything that is read is there.** -/
theorem readChecks_iff (embed : Bool) :
    (∀ check ∈ readChecks embed loaders model? data?, check = .ok ()) ↔
      (embed = true → loaders.Supplies model? data?) := by
  cases embed with
  | false => simp [readChecks]
  | true =>
      simp only [readChecks, if_true, List.forall_mem_cons, List.not_mem_nil, false_implies,
        implies_true, and_true, forall_const, ← and_assoc, modelChecks_iff, dataLoads_iff]
      constructor
      · rintro ⟨model, rows⟩
        exact ⟨model, rows⟩
      · rintro ⟨model, rows⟩
        exact ⟨model, rows⟩

/-- **When a generation succeeds.** -/
theorem exists_generate (callable : session.program.Callable) :
    (∃ last, session.generate loaders model? data? = (.ok (), last)) ↔
      session.renderer.family = .program ∧
        (session.embed = true → loaders.Supplies model? data?) := by
  have decided : (∃ last, session.generate loaders model? data? = (.ok (), last)) ↔
      firstFailure (session.checks loaders model? data?) = .ok () := by
    obtain ⟨failure, stepped, checked, -⟩ | ⟨text, -, checked, -, -, stepped⟩ :=
      generate_cases callable loaders model? data?
    · rw [stepped, checked]
      exact iff_of_false (by rintro ⟨last, ⟨⟩⟩) nofun
    · rw [stepped, checked]
      exact iff_of_true ⟨_, rfl⟩ rfl
  have expected : session.renderer.expect .program "generate" = .ok () ↔
      session.renderer.family = .program := by
    unfold Renderer.expect
    split <;> simp_all
  rw [decided, firstFailure_eq_ok, checks, List.forall_mem_cons, expected, readChecks_iff]

/-- **When a generation from a script succeeds.** -/
theorem exists_generateFromAnalyst (callable : session.program.Callable) (script : Analyst) :
    (∃ last, session.generateFromAnalyst loaders script = (.ok (), last)) ↔
      script.Defines ∧ (session.renderer.family = .program → session.embed = true →
        ∀ model? data?, configuredFiles script = .ok (model?, data?) →
          loaders.Supplies model? data?) := by
  cases family : session.renderer.family with
  | program =>
      cases named : configuredFiles script with
      | error failure =>
          obtain ⟨identifier, blames, -⟩ := configuredFiles_eq_error.1 named
          refine iff_of_false ?_ fun needs => blames.not_defines needs.1
          simp only [generateFromAnalyst, family, named]
          rintro ⟨last, ⟨⟩⟩
      | ok files =>
          obtain ⟨model?, data?⟩ := files
          have defines := exists_configuredFiles.1 ⟨model?, data?, named⟩
          simp only [generateFromAnalyst, family, named, exists_generate callable, true_and,
            and_iff_right defines, forall_const, Except.ok.injEq, Prod.mk.injEq]
          constructor
          · rintro supplies embeds _ _ ⟨rfl, rfl⟩
            exact supplies embeds
          · exact fun supplies embeds => supplies embeds model? data? ⟨rfl, rfl⟩
  | template =>
      simp only [reduceCtorEq, false_implies, and_true]
      cases style : session.renderer.style with
      | program language settings =>
          rw [Renderer.family, style] at family
          cases family
      | template template =>
          rw [generateFromAnalyst_eq_adopt style]
          cases made : template.document script session.stamp with
          | error failure =>
              obtain ⟨identifier, blames, -⟩ := CannedTemplate.document_eq_error.1 made
              exact iff_of_false (by rintro ⟨last, ⟨⟩⟩) blames.not_defines
          | ok text => exact iff_of_true ⟨_, rfl⟩ (CannedTemplate.document_eq_ok.1 made).defines

/-! ## New sessions -/

variable {target : Target} {stamp : Stamp} {settings : Settings} {first : Session}

/-- A new session has the family of its target, and its empty program is callable. -/
theorem new_of_start (started : start target stamp settings = .ok first) :
    target.family? = some first.renderer.family ∧ first.program.Callable := by
  obtain ⟨style, chosen, rfl⟩ := start_eq_ok.1 started
  exact ⟨family_of_ofTarget chosen, Forest.empty_callable⟩

theorem exists_generate_of_start (started : start target stamp settings = .ok first)
    (embed : Bool) :
    (∃ last, (first.setEmbed embed).generate loaders model? data? = (.ok (), last)) ↔
      target.family? = some .program ∧ (embed = true → loaders.Supplies model? data?) := by
  obtain ⟨family, empty⟩ := new_of_start started
  have callable : (first.setEmbed embed).program.Callable := empty
  rw [exists_generate callable, family, Option.some.injEq]
  rfl

theorem exists_generateFromAnalyst_of_start (started : start target stamp settings = .ok first)
    (embed : Bool) (script : Analyst) :
    (∃ last, (first.setEmbed embed).generateFromAnalyst loaders script = (.ok (), last)) ↔
      script.Defines ∧ (target.family? = some .program → embed = true →
        ∀ model? data?, configuredFiles script = .ok (model?, data?) →
          loaders.Supplies model? data?) := by
  obtain ⟨family, empty⟩ := new_of_start started
  have callable : (first.setEmbed embed).program.Callable := empty
  rw [exists_generateFromAnalyst callable, family, Option.some.injEq]
  rfl

end Session

end ModelExport
