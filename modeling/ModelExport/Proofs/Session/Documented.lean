/-
# ModelExport.Proofs.Session.Documented — what a generation takes from a script

A generation from a script looks at the properties that are documented, at the
entries of the files that two of them name, and at the base directory. Scripts that
agree on these cannot be told apart (`generateFromAnalyst_documented`): a session
comes to the same end and to the same state with either, in every state. Programs do
not even depend on the type and the architecture, and templates on nothing of the
session but its renderer and its stamp. So neither can courses of operations be told
apart that differ in such scripts only (`run_eq_of_alike`).
-/
import Mathlib.Data.List.Forall2
import ModelExport.Proofs.Session.Supplies
import ModelExport.Proofs.Template.Remarks

set_option autoImplicit false

namespace ModelExport

theorem Analyst.fileKeys_subset : Analyst.fileKeys ⊆ Analyst.knownKeys := by decide

/-- **The templates of indicators ask for documented properties only.** -/
theorem Indicator.document_congr (indicator : Indicator) {script twin : Analyst}
    (agrees : script.Agrees twin Analyst.knownKeys) (stamp : Stamp) :
    indicator.template.document twin stamp = indicator.template.document script stamp := by
  have files := Session.configuredFiles_eq_of_agrees (agrees.mono Analyst.fileKeys_subset)
  refine CannedTemplate.document_congr files fun key asked free => agrees.properties _ ?_
  obtain ⟨name, known, rfl⟩ := List.mem_map.1 ((indicator.mem_keys_iff key).1 asked)
  rw [String.ofList_toList] at free ⊢
  have described := (List.mem_append.1 known).resolve_left free
  have among : [Analyst.typeKey, Analyst.architectureKey] ⊆ Analyst.knownKeys := by decide
  exact among described

/-- The template of a target is that of an indicator. -/
theorem template_of_ofTarget {target : Target} {settings : Settings} {style : Style}
    (chosen : Style.ofTarget target settings = .ok style)
    (fills : target.family? = some .template) :
    ∃ indicator : Indicator, style = .template indicator.template := by
  cases target <;> cases chosen
  case mql4 => exact ⟨.mql4, rfl⟩
  case ninjascript => exact ⟨.ninjascript, rfl⟩
  all_goals cases fills

namespace Session

variable {session : Session} {script twin : Analyst}

/-- The session with other settings, and with another program. -/
def dressed (session : Session) (embed : Bool) (name : String) (program : Forest) : Session :=
  { session with embed := embed, className := name, program := program }

/-- A session of programs takes nothing from a script but its files. -/
theorem generateFromAnalyst_eq_of_files (spells : session.renderer.family = .program)
    (same : configuredFiles twin = configuredFiles script) (loaders : Loaders) :
    session.generateFromAnalyst loaders twin = session.generateFromAnalyst loaders script := by
  simp only [generateFromAnalyst, spells, same]

/-- **Scripts that agree on everything documented cannot be told apart by one generation.** -/
theorem generateFromAnalyst_congr {target : Target} {settings : Settings}
    (chosen : Style.ofTarget target settings = .ok session.renderer.style)
    (agrees : script.Agrees twin Analyst.knownKeys) (loaders : Loaders) :
    session.generateFromAnalyst loaders twin = session.generateFromAnalyst loaders script := by
  have family := family_of_ofTarget chosen
  cases spells : session.renderer.style.family with
  | program =>
      exact generateFromAnalyst_eq_of_files spells
        (configuredFiles_eq_of_agrees (agrees.mono Analyst.fileKeys_subset)) loaders
  | template =>
      obtain ⟨indicator, fills⟩ := template_of_ofTarget chosen (by rw [family, spells])
      rw [generateFromAnalyst_eq_adopt fills, generateFromAnalyst_eq_adopt fills,
        indicator.document_congr agrees]

/-- Settings and programs pass through when a document is adopted. -/
theorem adopt_dressed (session : Session) (embed : Bool) (name : String) (program : Forest)
    (made : Except Failure String) :
    (session.dressed embed name program).adopt made =
      ((session.adopt made).1, (session.adopt made).2.dressed embed name program) := by
  cases made <;> rfl

/-- All that a generation from a script depends on. -/
structure Documented (target : Target) (session : Session) (loaders : Loaders) (script : Analyst) :
    Prop where
  /-- Of the script these are the documented properties and the files that they name. -/
  known : ∀ twin, script.Agrees twin Analyst.knownKeys →
    session.generateFromAnalyst loaders twin = session.generateFromAnalyst loaders script
  /-- A program depends on the files alone. -/
  programs : target.family? = some .program → ∀ twin, script.Agrees twin Analyst.fileKeys →
    session.generateFromAnalyst loaders twin = session.generateFromAnalyst loaders script
  /-- A template depends on no setting, on no program and on no other file, and changes none. -/
  templates : target.family? = some .template → ∀ others embed name program,
    (session.dressed embed name program).generateFromAnalyst others script =
      ((session.generateFromAnalyst loaders script).1,
        (session.generateFromAnalyst loaders script).2.dressed embed name program)

/-- **A generation depends on what is documented of a script only**, in every state of a session
and whatever files there are. -/
theorem generateFromAnalyst_documented {target : Target} {settings : Settings}
    (chosen : Style.ofTarget target settings = .ok session.renderer.style) (loaders : Loaders)
    (script : Analyst) : Documented target session loaders script where
  known _ agrees := generateFromAnalyst_congr chosen agrees loaders
  programs spells twin agrees := by
    rw [family_of_ofTarget chosen] at spells
    exact generateFromAnalyst_eq_of_files (Option.some.inj spells)
      (configuredFiles_eq_of_agrees agrees) loaders
  templates templated others embed name program := by
    obtain ⟨indicator, fills⟩ := template_of_ofTarget chosen templated
    have dressed : (session.dressed embed name program).renderer.style =
        .template indicator.template := fills
    rw [generateFromAnalyst_eq_adopt dressed, generateFromAnalyst_eq_adopt fills]
    exact adopt_dressed session embed name program _

theorem generateFromAnalyst_documented_mql4 :
    let session : Session := ⟨.mql4, false, "MlgenExample", .ofStyle (.template .mql4), .empty,
      .empty, .current "today"⟩
    let script := Indicator.naming "/work/net.json"
    let twin := (script.setProperty "GENERATOR" "nobody").defineFile "ROWS" "rows.csv"
    Style.ofTarget .mql4 .standard = .ok session.renderer.style ∧ twin ≠ script ∧
      session.generateFromAnalyst Observed.unencodable twin =
        session.generateFromAnalyst Observed.unencodable script := by
  intro session script twin
  have chosen : Style.ofTarget .mql4 .standard = .ok session.renderer.style := rfl
  refine ⟨chosen, by decide, ?_⟩
  refine (generateFromAnalyst_documented chosen Observed.unencodable script).known twin
    ⟨rfl, by decide, fun key file identifier names => ?_⟩
  have named := Analyst.configuredIdentifier?_eq_some.2 names
  have cases : ∀ key ∈ Analyst.fileKeys, ∀ identifier ∈ script.configuredIdentifier? key,
      twin.files.get? identifier = script.files.get? identifier := by decide
  exact cases key file identifier named

end Session

/-! ## Courses of operations -/

/-- Two operations are the same, or they generate from scripts that agree on everything documented. -/
inductive Operation.Alike : Operation → Operation → Prop where
  | same (operation : Operation) : Alike operation operation
  | agree {loaders : Loaders} {script twin : Analyst}
      (agrees : script.Agrees twin Analyst.knownKeys) :
      Alike (.generateFromAnalyst loaders script) (.generateFromAnalyst loaders twin)

namespace Observed

variable {target : Target} {settings : Settings}

theorem step_eq_of_alike {observed : Observed}
    (chosen : Style.ofTarget target settings = .ok observed.session.renderer.style)
    {operation other : Operation} (alike : operation.Alike other) :
    observed.step other = observed.step operation := by
  cases alike with
  | same => rfl
  | agree agrees =>
      have files := Session.configuredFiles_eq_of_agrees (agrees.mono Analyst.fileKeys_subset)
      simp only [step, Session.step, Session.attempt?, Operation.generates, files,
        Session.generateFromAnalyst_congr chosen agrees]

/-- **Neither can courses of operations be told apart by what is not documented of scripts.** -/
theorem run_eq_of_alike {stamp : Stamp} {first : Session}
    (started : Session.start target stamp settings = .ok first) {operations others : List Operation}
    (alike : List.Forall₂ Operation.Alike operations others) :
    (start first).run others = (start first).run operations := by
  obtain ⟨style, chosen, sound⟩ := start_sound started
  generalize start first = observed at sound ⊢
  -- the style is kept by every step, so that each state is one of the target
  induction alike generalizing observed with
  | nil => rfl
  | @cons operation other rest more alike _ ih =>
      have stepped : observed.step other = observed.step operation :=
        step_eq_of_alike (by rw [sound.keeps]; exact chosen) alike
      rw [run, run, List.foldl_cons, List.foldl_cons, stepped]
      exact ih _ (sound.step operation)

end Observed

end ModelExport
