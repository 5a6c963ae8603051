/-
# ModelExport.Proofs.Session.Run — sessions over any course of operations

A session is observed over operations of any number and order: what it generated
so far is kept beside it, a `Generation` for every block. One operation fails and
changes nothing, or sets something that only later generations look at, or adds a
block, or fills the template (`step_cases`). From this every state that can be
reached is `Sound`: its program is the blocks of its generations one after the
other, and its document is that program spelled anew as the last generation
embedded.
-/
import ModelExport.Proofs.Session.Generate

set_option autoImplicit false

namespace ModelExport

/-- Something that happens to a session. -/
inductive Operation where
  | setEmbed (embed : Bool)
  | setClassName (name : String)
  /-- Time goes on, and with it what generated files say of their making. -/
  | restamp (stamp : Stamp)
  | generate (loaders : Loaders) (model? data? : Option Path)
  | generateFromAnalyst (loaders : Loaders) (script : Analyst)
  | save (files : FileMap) (path : Path)

/-- Whether an operation is meant to make a document. -/
def Operation.generates : Operation → Bool
  | .generate _ _ _ => true
  | .generateFromAnalyst _ _ => true
  | _ => false

namespace Session

/-- Carry out an operation. -/
def step (session : Session) : Operation → Outcome × Session
  | .setEmbed embed => (.ok (), session.setEmbed embed)
  | .setClassName name => (.ok (), session.withClassName name)
  | .restamp stamp => (.ok (), { session with stamp := stamp })
  | .generate loaders model? data? => session.generate loaders model? data?
  | .generateFromAnalyst loaders script => session.generateFromAnalyst loaders script
  | .save files path => ((session.renderer.save files path).map fun _ => (), session)

/-- The generation of a program that an operation attempts. -/
def attempt? (session : Session) : Operation → Option Generation
  | .generate loaders model? data? => some (session.generation loaders model? data?)
  | .generateFromAnalyst loaders script =>
      match session.renderer.family, configuredFiles script with
      | .program, .ok (model?, data?) => some (session.generation loaders model? data?)
      | _, _ => none
  | _ => none

/-- The session with another setting, or with several. -/
def reset (session : Session) (embed : Bool) (name : String) (stamp : Stamp) : Session :=
  { session with embed := embed, className := name, stamp := stamp }

/-- The session with a template filled. -/
def filled (session : Session) (text : String) : Session :=
  { session with renderer := { session.renderer with contents := text }, progress := .rendered }

/-- How an operation changes a session whose program is callable. -/
inductive Change (session : Session) (operation : Operation) : Prop where
  | failed (failure : Failure)
      (found : ∀ binding, failure ≠ .invalidCallTarget binding)
      (stepped : session.step operation = (.error failure, session))
  | set (embed : Bool) (name : String) (stamp : Stamp)
      (quiet : operation.generates = false)
      (stepped : session.step operation = (.ok (), session.reset embed name stamp))
  | grew (generation : Generation) (text : String)
      (spells : session.renderer.family = .program)
      (loud : operation.generates = true)
      (attempted : session.attempt? operation = some generation)
      (embeds : generation.Embeds)
      (spelt : session.renderer.spell "generate" (session.program.append
        (generation.block session.renderer.style.separatesTraining).forest) generation.embed =
          .ok text)
      (stepped : session.step operation = (.ok (),
        session.grown (generation.block session.renderer.style.separatesTraining) text))
  | filled (text : String)
      (fills : session.renderer.family = .template)
      (loud : operation.generates = true)
      (apart : session.attempt? operation = none)
      (stepped : session.step operation = (.ok (), session.filled text))

theorem attempt?_of_quiet {session : Session} {operation : Operation}
    (quiet : operation.generates = false) : session.attempt? operation = none := by
  cases operation <;> first | rfl | cases quiet

/-- Looking up the files of a script fails for no other cause than the script. -/
theorem configuredFiles_cases (script : Analyst) :
    (∃ error, configuredFiles script = .error (.analyst error)) ∨
      ∃ model? data?, configuredFiles script = .ok (model?, data?) := by
  unfold configuredFiles
  cases script.resolveConfigured Analyst.modelFileKey with
  | error error => exact .inl ⟨error, rfl⟩
  | ok model? =>
      cases script.resolveConfigured Analyst.trainingFileKey with
      | error error => exact .inl ⟨error, rfl⟩
      | ok data? => exact .inr ⟨model?, data?, rfl⟩

/-- A template needs nothing of a script but its two files. -/
theorem values_eq (script : Analyst) (stamp : Stamp) :
    CannedTemplate.values script stamp =
      (configuredFiles script).map fun files => ⟨stamp, files.1, files.2, script⟩ := by
  unfold CannedTemplate.values configuredFiles
  cases script.resolveConfigured Analyst.modelFileKey with
  | error error => rfl
  | ok model? => cases script.resolveConfigured Analyst.trainingFileKey <;> rfl

/-- So filling a template fails for no other cause either. -/
theorem fill_cases {renderer : Renderer} (fills : renderer.family = .template) (operation : String)
    (script : Analyst) (stamp : Stamp) :
    (∃ error, renderer.fill operation script stamp = .error (.analyst error)) ∨
      ∃ text, renderer.fill operation script stamp = .ok text := by
  unfold Renderer.fill
  cases style : renderer.style with
  | program language settings =>
      rw [Renderer.family, style] at fills
      cases fills
  | template template =>
      simp only [CannedTemplate.document, values_eq]
      obtain ⟨error, named⟩ | ⟨model?, data?, named⟩ := configuredFiles_cases script
      · exact .inl ⟨error, by rw [named]; rfl⟩
      · exact .inr ⟨_, by rw [named]; rfl⟩

/-- **Every operation changes a session in one of four ways.** -/
theorem change_of_step {session : Session} (callable : session.program.Callable)
    (operation : Operation) : session.Change operation := by
  cases operation with
  | setEmbed embed => exact .set embed session.className session.stamp rfl rfl
  | setClassName name => exact .set session.embed name session.stamp rfl rfl
  | restamp stamp => exact .set session.embed session.className stamp rfl rfl
  | save files path =>
      cases written : files.write path session.renderer.contents with
      | error error =>
          refine .failed (.write path error) nofun ?_
          simp [step, Renderer.save, written]
      | ok more =>
          refine .set session.embed session.className session.stamp rfl ?_
          simp [step, Renderer.save, written, reset]
  | generate loaders model? data? =>
      obtain ⟨failure, stepped, -, found⟩ | ⟨text, spells, -, embeds, spelt, stepped⟩ :=
        generate_cases callable loaders model? data?
      · exact .failed failure found stepped
      · exact .grew _ text spells rfl rfl embeds spelt stepped
  | generateFromAnalyst loaders script =>
      cases family : session.renderer.family with
      | program =>
          obtain ⟨error, named⟩ | ⟨model?, data?, named⟩ := configuredFiles_cases script
          · refine .failed (.analyst error) nofun ?_
            simp [step, generateFromAnalyst, family, named]
          have same : session.step (.generateFromAnalyst loaders script) =
              session.generate loaders model? data? := by
            simp [step, generateFromAnalyst, family, named]
          obtain ⟨failure, stepped, -, found⟩ | ⟨text, spells, -, embeds, spelt, stepped⟩ :=
            generate_cases callable loaders model? data?
          · exact .failed failure found (same.trans stepped)
          · exact .grew _ text spells rfl (by simp [attempt?, family, named]) embeds spelt
              (same.trans stepped)
      | template =>
          obtain ⟨error, filling⟩ | ⟨text, filling⟩ :=
            fill_cases family "generate_from_analyst" script session.stamp
          · refine .failed (.analyst error) nofun ?_
            simp [step, generateFromAnalyst, family, filling, adopt, Renderer.adopt]
          · refine .filled text family rfl (by simp [attempt?, family]) ?_
            simp [step, generateFromAnalyst, family, filling, adopt, Renderer.adopt, filled]

end Session

/-! ## Observing a session -/

/-- A session, with what it has generated so far. -/
structure Observed where
  session : Session
  /-- The successful generations of programs, in their order. -/
  generations : List Generation
  /-- Whether a generation, of a program or from a template, has succeeded. -/
  succeeded : Bool

namespace Observed

/-- A session that is new. -/
def start (session : Session) : Observed := ⟨session, [], false⟩

/-- Carry out an operation, and note the generation if it succeeds. -/
def step (observed : Observed) (operation : Operation) : Observed :=
  match observed.session.step operation with
  | (.error _, after) => { observed with session := after }
  | (.ok (), after) =>
      ⟨after, observed.generations ++ (observed.session.attempt? operation).toList,
        observed.succeeded || operation.generates⟩

/-- Carry out operations in order. -/
def run (observed : Observed) (operations : List Operation) : Observed :=
  operations.foldl step observed

/-- The blocks of some generations, one after the other. -/
def blocks (separates : Bool) (generations : List Generation) : Forest :=
  generations.foldl (fun forest generation => forest.append (generation.block separates).forest)
    .empty

/-- What holds of every session that can be reached. -/
structure Sound (style : Style) (observed : Observed) : Prop where
  keeps : observed.session.renderer.style = style
  program : observed.session.program = blocks style.separatesTraining observed.generations
  callable : observed.session.program.Callable
  embeds : ∀ generation ∈ observed.generations, generation.Embeds
  progress : observed.session.progress = if observed.succeeded then .rendered else .empty
  empty : observed.succeeded = false → observed.session.document = ""
  rendered : style.family = .program → observed.succeeded = true →
    ∃ last, observed.generations.getLast? = some last ∧
      observed.session.renderer.spell "generate" observed.session.program last.embed =
        .ok observed.session.document

theorem blocks_concat (separates : Bool) (generations : List Generation) (last : Generation) :
    blocks separates (generations ++ [last]) =
      (blocks separates generations).append (last.block separates).forest := by
  rw [blocks, List.foldl_append]
  rfl

theorem start_sound {target : Target} {stamp : Stamp} {settings : Settings} {first : Session}
    (started : Session.start target stamp settings = .ok first) :
    ∃ style, Style.ofTarget target settings = .ok style ∧ Sound style (start first) := by
  obtain ⟨renderer, made, rfl⟩ := map_eq_ok.1 started
  obtain ⟨style, chosen, rfl⟩ := map_eq_ok.1 made
  refine ⟨style, chosen, ⟨rfl, rfl, Forest.empty_callable, nofun, rfl, fun _ => rfl, nofun⟩⟩

/-- **One operation keeps a session sound.** -/
theorem Sound.step {style : Style} {observed : Observed} (sound : Sound style observed)
    (operation : Operation) : Sound style (observed.step operation) := by
  have change := Session.change_of_step sound.callable operation
  cases change with
  | failed failure found stepped =>
      rw [Observed.step, stepped]
      exact sound
  | set embed name stamp quiet stepped =>
      rw [Observed.step, stepped, Session.attempt?_of_quiet quiet, quiet]
      simp only [Option.toList_none, List.append_nil, Bool.or_false]
      exact ⟨sound.keeps, sound.program, sound.callable, sound.embeds, sound.progress, sound.empty,
        sound.rendered⟩
  | grew generation text spells loud attempted embeds spelt stepped =>
      have program : observed.session.program.append
            (generation.block observed.session.renderer.style.separatesTraining).forest =
          blocks style.separatesTraining (observed.generations ++ [generation]) := by
        rw [blocks_concat, ← sound.program, sound.keeps]
      rw [Observed.step, stepped, attempted, loud]
      refine ⟨sound.keeps, program, ?_, ?_, ?_, ?_, ?_⟩
      · exact Forest.append_callable sound.callable (Block.forest_callable _)
      · intro other member
        rcases List.mem_append.1 member with before | now
        · exact sound.embeds other before
        · rwa [List.mem_singleton.1 now]
      · simp [Session.grown]
      · intro none
        simp at none
      · intro _ _
        exact ⟨generation, List.getLast?_concat, spelt⟩
  | filled text fills loud apart stepped =>
      rw [Observed.step, stepped, apart, loud, Option.toList_none, List.append_nil]
      refine ⟨sound.keeps, sound.program, sound.callable, sound.embeds, ?_, ?_, ?_⟩
      · simp [Session.filled]
      · intro none
        simp at none
      · intro spells
        rw [Renderer.family, sound.keeps, spells] at fills
        cases fills

/-- **So does any course of operations.** -/
theorem Sound.run {style : Style} {observed : Observed} (sound : Sound style observed)
    (operations : List Operation) : Sound style (observed.run operations) := by
  induction operations generalizing observed with
  | nil => exact sound
  | cons operation rest ih => exact ih (sound.step operation)

end Observed

end ModelExport
