/-
# ModelExport.Proofs.Session.Generate — what a generation does

A generation of a program makes its checks in order: the renderer spells programs
and, when the session embeds, the model loads, it is encodable, and the training
rows load. The first check that fails is the failure, and the session stays as it
is. If none fails, the program grows by one block and is spelled again. Spelling
cannot fail, because a callable program stays callable (`generate_cases`).
-/
import ModelExport.Proofs.Session.Calls

set_option autoImplicit false

namespace ModelExport

/-- The first failure among some checks; success if there is none. -/
def firstFailure : List Outcome → Outcome
  | [] => .ok ()
  | .error failure :: _ => .error failure
  | .ok () :: rest => firstFailure rest

namespace Session

/-! ## Checks -/

/-- The model file, if there is one, loads. -/
def modelLoads (loaders : Loaders) (model? : Option Path) : Outcome :=
  match model?.map loaders.model with
  | some (.error error) => .error (.model error)
  | _ => .ok ()

/-- The model, if there is one that loads, is encodable. -/
def modelEncodable (loaders : Loaders) (model? : Option Path) : Outcome :=
  match model?.map loaders.model with
  | some (.ok model) => requireEncodable model
  | _ => .ok ()

/-- The training file, if there is one, loads. -/
def dataLoads (loaders : Loaders) (data? : Option Path) : Outcome :=
  match data?.map loaders.trainingSet with
  | some (.error error) => .error (.trainingSet error)
  | _ => .ok ()

/-- The checks of reading, none of which is made without embedding. -/
def readChecks (embed : Bool) (loaders : Loaders) (model? data? : Option Path) : List Outcome :=
  if embed then
    [modelLoads loaders model?, modelEncodable loaders model?, dataLoads loaders data?]
  else []

/-- All checks of a generation, in their order. -/
def checks (session : Session) (loaders : Loaders) (model? data? : Option Path) : List Outcome :=
  session.renderer.expect .program "generate" :: readChecks session.embed loaders model? data?

/-- The parameters that a generation writes: those of the model, if it embeds and there is one. -/
def weightsRead (embed : Bool) (loaders : Loaders) (model? : Option Path) :
    Option (List Binary64) :=
  if embed then model?.bind fun path => (loaders.model path).toOption.bind Model.parameters?
  else none

/-- The rows that a generation writes, if it embeds and there is a training file. -/
def rowsRead (embed : Bool) (loaders : Loaders) (data? : Option Path) : Option TrainingSet :=
  if embed then data?.bind fun path => (loaders.trainingSet path).toOption else none

/-- The model of a generation that embeds, which is encodable. -/
def readModel (loaders : Loaders) (model? : Option Path) : Except Failure (Option Model) := do
  let model ← model?.mapM fun path => (loaders.model path).mapError Failure.model
  model.forM requireEncodable
  .ok model

/-- The training rows of a generation that embeds. -/
def readRows (loaders : Loaders) (data? : Option Path) : Except Failure (Option TrainingSet) :=
  data?.mapM fun path => (loaders.trainingSet path).mapError Failure.trainingSet

theorem readInputs_embedding (loaders : Loaders) (model? data? : Option Path) :
    readInputs true loaders model? data? =
      (readModel loaders model? >>= fun model =>
        readRows loaders data? >>= fun rows => .ok ⟨model, rows⟩) := by
  unfold readInputs readModel readRows
  rw [if_pos rfl]
  simp only [bind_assoc, ok_bind]

theorem readModel_cases (loaders : Loaders) (model? : Option Path) :
    (∃ failure, readModel loaders model? = .error failure ∧
      (∀ more, firstFailure (modelLoads loaders model? :: modelEncodable loaders model? :: more) =
        .error failure) ∧ ∀ binding, failure ≠ .invalidCallTarget binding) ∨
    ∃ model, readModel loaders model? = .ok model ∧
      modelLoads loaders model? = .ok () ∧ modelEncodable loaders model? = .ok () ∧
      (∀ read, model = some read → ∃ parameters, read.parameters? = some parameters) ∧
      model.bind Model.parameters? = weightsRead true loaders model? ∧
      (weightsRead true loaders model?).isSome = model?.isSome := by
  cases model? with
  | none => exact .inr ⟨none, rfl, rfl, rfl, nofun, rfl, rfl⟩
  | some path =>
      unfold readModel modelLoads modelEncodable weightsRead
      cases loaded : loaders.model path with
      | error error =>
          refine .inl ⟨.model error, ?_, fun more => ?_, fun binding => nofun⟩
          · simp [loaded]
          · simp [loaded, firstFailure]
      | ok model =>
          cases listed : model.parameters? with
          | none =>
              refine .inl ⟨.unsupportedModel model.kind, ?_, fun more => ?_, fun binding => nofun⟩
              · simp [loaded, requireEncodable, listed]
              · simp [loaded, firstFailure, requireEncodable, listed]
          | some parameters =>
              refine .inr ⟨some model, ?_, ?_, ?_, ?_, ?_, ?_⟩
              · simp [loaded, requireEncodable, listed]
              · simp [loaded]
              · simp [loaded, requireEncodable, listed]
              · rintro read ⟨⟩
                exact ⟨parameters, listed⟩
              · simp [loaded, Except.toOption, listed]
              · simp [loaded, Except.toOption, listed]

theorem readRows_cases (loaders : Loaders) (data? : Option Path) :
    (∃ error, readRows loaders data? = .error (.trainingSet error) ∧
      dataLoads loaders data? = .error (.trainingSet error)) ∨
    ∃ rows, readRows loaders data? = .ok rows ∧ dataLoads loaders data? = .ok () ∧
      rows = rowsRead true loaders data? ∧ rows.isSome = data?.isSome := by
  cases data? with
  | none => exact .inr ⟨none, rfl, rfl, rfl, rfl⟩
  | some path =>
      unfold readRows dataLoads rowsRead
      cases loaded : loaders.trainingSet path with
      | error error => exact .inl ⟨error, by simp [loaded], by simp [loaded]⟩
      | ok rows =>
          refine .inr ⟨some rows, ?_, ?_, ?_, rfl⟩
          · simp [loaded]
          · simp [loaded]
          · simp [loaded, Except.toOption]

end Session

/-- What is known of inputs that were read. -/
structure Inputs.Faithful (inputs : Inputs) (embed : Bool) (loaders : Loaders)
    (model? data? : Option Path) : Prop where
  encodable : ∀ read, inputs.model = some read → ∃ parameters, read.parameters? = some parameters
  weights : inputs.model.bind Model.parameters? = Session.weightsRead embed loaders model?
  rows : inputs.rows = Session.rowsRead embed loaders data?
  /-- The parameters of the model are at hand exactly when the generation embeds. -/
  writesWeights : (Session.weightsRead embed loaders model?).isSome = (embed && model?.isSome)
  /-- So are the training rows. -/
  writesRows : (Session.rowsRead embed loaders data?).isSome = (embed && data?.isSome)

namespace Session

/-- **Reading fails with the first check that fails, and otherwise finds what is to be written.** -/
theorem readInputs_cases (embed : Bool) (loaders : Loaders) (model? data? : Option Path) :
    (∃ failure, readInputs embed loaders model? data? = .error failure ∧
      firstFailure (readChecks embed loaders model? data?) = .error failure ∧
      ∀ binding, failure ≠ .invalidCallTarget binding) ∨
    ∃ inputs, readInputs embed loaders model? data? = .ok inputs ∧
      firstFailure (readChecks embed loaders model? data?) = .ok () ∧
      inputs.Faithful embed loaders model? data? := by
  cases embed with
  | false =>
      exact .inr ⟨⟨none, none⟩, rfl, rfl, nofun, rfl, rfl, rfl, rfl⟩
  | true =>
      rw [readInputs_embedding, readChecks, if_pos rfl]
      obtain ⟨failure, read, checked, apart⟩ |
        ⟨model, read, loads, encodes, encodable, weights, writes⟩ := readModel_cases loaders model?
      · exact .inl ⟨failure, by rw [read, error_bind], checked _, apart⟩
      rw [read, ok_bind, loads, encodes]
      obtain ⟨error, read, checked⟩ | ⟨rows, read, checked, found, some⟩ :=
        readRows_cases loaders data?
      · exact .inl ⟨.trainingSet error, by rw [read, error_bind], by rw [checked]; rfl,
          fun binding => nofun⟩
      · refine .inr ⟨⟨model, rows⟩, by rw [read, ok_bind], by rw [checked]; rfl, encodable, weights,
          found, ?_, ?_⟩
        · rw [writes, Bool.true_and]
        · rw [← found, some, Bool.true_and]

end Session

/-! ## One generation -/

/-- What a generation was made from. -/
structure Generation where
  stamp : Stamp
  className : String
  embed : Bool
  loaders : Loaders
  model? : Option Path
  data? : Option Path

namespace Generation

/-- The parameters that it writes into the program. -/
def weights (generation : Generation) : Option (List Binary64) :=
  Session.weightsRead generation.embed generation.loaders generation.model?

/-- The training rows that it writes into the program. -/
def rows (generation : Generation) : Option TrainingSet :=
  Session.rowsRead generation.embed generation.loaders generation.data?

/-- The block that it adds, given whether the entry point calls the loader of the rows. -/
def block (generation : Generation) (separates : Bool) : Block where
  stamp := generation.stamp
  className := generation.className
  separates := separates
  model? := generation.model?
  weights := generation.weights
  data? := generation.data?
  rows := generation.rows

/-- Parameters and rows are written into the program exactly when the generation embeds. -/
structure Embeds (generation : Generation) : Prop where
  weights : generation.weights.isSome = (generation.embed && generation.model?.isSome)
  rows : generation.rows.isSome = (generation.embed && generation.data?.isSome)

end Generation

namespace Session

/-- What a generation in this state of a session is made from. -/
def generation (session : Session) (loaders : Loaders) (model? data? : Option Path) : Generation :=
  ⟨session.stamp, session.className, session.embed, loaders, model?, data?⟩

/-- The block that a generation in this state of a session adds. -/
def nextBlock (session : Session) (loaders : Loaders) (model? data? : Option Path) : Block :=
  (session.generation loaders model? data?).block session.renderer.style.separatesTraining

/-- The session with one block more, and a document of its program. -/
def grown (session : Session) (block : Block) (text : String) : Session :=
  { session with
    program := session.program.append block.forest
    renderer := { session.renderer with contents := text }
    progress := .rendered }

theorem block_eq_nextBlock {session : Session} {inputs : Inputs} {loaders : Loaders}
    {model? data? : Option Path}
    (faithful : inputs.Faithful session.embed loaders model? data?) :
    session.block inputs model? data? = session.nextBlock loaders model? data? := by
  rw [block, nextBlock, Generation.block, faithful.weights, faithful.rows]
  rfl

/-- A renderer of programs spells a callable program. -/
theorem spell_of_callable {renderer : Renderer} (spells : renderer.family = .program)
    {forest : Forest} (callable : forest.Callable) (operation : String) (embed : Bool) :
    ∃ text, renderer.spell operation forest embed = .ok text := by
  unfold Renderer.spell
  cases style : renderer.style with
  | program language settings => exact Document.text_of_callable callable
  | template template =>
      rw [Renderer.family, style] at spells
      cases spells

/-- **A generation fails with the first check that fails and changes nothing, or it adds one block
and spells the program again.** -/
theorem generate_cases {session : Session} (callable : session.program.Callable)
    (loaders : Loaders) (model? data? : Option Path) :
    (∃ failure, session.generate loaders model? data? = (.error failure, session) ∧
      firstFailure (session.checks loaders model? data?) = .error failure ∧
      ∀ binding, failure ≠ .invalidCallTarget binding) ∨
    ∃ text, session.renderer.family = .program ∧
      firstFailure (session.checks loaders model? data?) = .ok () ∧
      (session.generation loaders model? data?).Embeds ∧
      session.renderer.spell "generate" (session.program.append
        (session.nextBlock loaders model? data?).forest) session.embed = .ok text ∧
      session.generate loaders model? data? =
        (.ok (), session.grown (session.nextBlock loaders model? data?) text) := by
  unfold generate checks
  by_cases spells : session.renderer.family = .program
  · have expected : session.renderer.expect .program "generate" = .ok () := if_pos spells
    rw [expected]
    obtain ⟨failure, read, checked, apart⟩ | ⟨inputs, read, checked, faithful⟩ :=
      readInputs_cases session.embed loaders model? data?
    · exact .inl ⟨failure, by rw [read], checked, apart⟩
    · have next := Forest.append_callable callable
        (session.nextBlock loaders model? data?).forest_callable
      obtain ⟨text, spelt⟩ := spell_of_callable spells next "generate" session.embed
      have embeds : (session.generation loaders model? data?).Embeds :=
        ⟨faithful.writesWeights, faithful.writesRows⟩
      refine .inr ⟨text, spells, checked, embeds, spelt, ?_⟩
      simp only [read, build_eq faithful.encodable, block_eq_nextBlock faithful, noteBuilt, spelt,
        adopt, Renderer.adopt, grown]
  · have refused : session.renderer.expect .program "generate" =
        .error (.wrongFamily "generate" .program session.renderer.family) := if_neg spells
    rw [refused]
    exact .inl ⟨_, rfl, rfl, nofun⟩

end Session

end ModelExport
