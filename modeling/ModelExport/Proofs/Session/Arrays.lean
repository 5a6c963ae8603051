/-
# ModelExport.Proofs.Session.Arrays — the constants that remain in a document

The whole program is spelled again at every generation, as the session embeds at
that moment, so the flag of today meets blocks that were made under another one.
Training rows are looked at with the flag of today, and none are written when it is
off. Parameters are not: an array that a block once got is declared in every later
document. `constants_of_generate` says which constants each class declares under
any flag, and `arrays_of_unembedded` what is left of them without embedding.
-/
import ModelExport.Proofs.Document.Arrays
import ModelExport.Proofs.Session.Contract
import ModelExport.Proofs.Session.Links

set_option autoImplicit false

namespace ModelExport

/-! ## The constants of a block -/

namespace Block

variable (block : Block)

theorem classes_forest : block.forest.classes = [4] := rfl

/-- The children of the class are its members and the entry point. -/
theorem map_construct?_children :
    (block.forest.children 4).map block.forest.construct? =
      (block.members ++ [Construct.mainFunction]).map some := by
  have constructs := congrArg (List.map (Option.map Node.construct)) block.map_nodes_children
  simp only [List.map_map, List.map_append] at constructs ⊢
  rw [show block.forest.construct? = _ from funext block.construct?_forest]
  exact constructs

/-- The constants that a block declares, spelled with a flag. -/
def constants (block : Block) (embed : Bool) : List String :=
  (if block.data?.isSome && block.rows.isSome && embed then
    [Document.inputName, Document.idealName] else []) ++
  if block.model?.isSome && block.weights.isSome then [Forest.weightsName] else []

theorem flatMap_members (embed : Bool) :
    (block.members ++ [Construct.mainFunction]).flatMap (Construct.arrays embed) =
      block.constants embed := by
  have training : block.trainingMembers.flatMap (Construct.arrays embed) =
      if block.data?.isSome && block.rows.isSome && embed then
        [Document.inputName, Document.idealName] else [] := by
    unfold trainingMembers
    cases block.data? with
    | none => rfl
    | some file =>
        cases block.rows with
        | none => cases block.separates <;> rfl
        | some rows => cases block.separates <;> cases embed <;> rfl
  have model : block.modelMembers.flatMap (Construct.arrays embed) =
      if block.model?.isSome && block.weights.isSome then [Forest.weightsName] else [] := by
    unfold modelMembers
    cases block.model? with
    | none => rfl
    | some file => cases block.weights <;> rfl
  rw [members, List.flatMap_append, List.flatMap_append, training, model, constants]
  exact List.append_nil _

/-- **The class of a block declares its constants.** -/
theorem classArrays_forest (document : Document) :
    (document.on block.forest).classArrays 4 = block.constants document.embed := by
  have listed := congrArg (List.flatMap fun construct? =>
    Option.elim construct? [] (Construct.arrays document.embed)) block.map_construct?_children
  rw [List.flatMap_map, List.flatMap_map] at listed
  rw [Document.classArrays_eq, ← block.flatMap_members]
  exact listed

end Block

/-! ## The constants of a program -/

/-- The constants that a generation declares in a document that is spelled with a flag. -/
def Generation.constants (generation : Generation) (embed : Bool) : List String :=
  (if embed && generation.embed && generation.data?.isSome then
    [Document.inputName, Document.idealName] else []) ++
  if generation.embed && generation.model?.isSome then [Forest.weightsName] else []

theorem Generation.constants_block {generation : Generation} (embeds : generation.Embeds)
    (separates embed : Bool) :
    (generation.block separates).constants embed = generation.constants embed := by
  have weights : (generation.block separates).weights.isSome =
      (generation.embed && generation.model?.isSome) := embeds.weights
  have rows : (generation.block separates).rows.isSome =
      (generation.embed && generation.data?.isSome) := embeds.rows
  rw [Block.constants, weights, rows, constants, block]
  cases generation.embed <;> cases generation.model? <;> cases generation.data? <;>
    cases embed <;> rfl

/-- Without the flag only the parameters of a model are left. -/
theorem Generation.constants_eq_nil {generation : Generation} :
    generation.constants false = [] ↔
      ¬ (generation.embed = true ∧ generation.model?.isSome = true) := by
  rw [constants]
  cases generation.embed <;> cases generation.model? <;> simp

namespace Observed

/-- The classes of a program, spelled with a flag, declare the constants of its generations. -/
theorem map_classArrays_blocks (document : Document) (separates : Bool)
    {generations : List Generation} (embeds : ∀ generation ∈ generations, generation.Embeds) :
    (blocks separates generations).classes.map
        (document.on (blocks separates generations)).classArrays =
      generations.map fun generation => generation.constants document.embed := by
  induction generations using List.reverseRecOn with
  | nil => rfl
  | append_singleton earlier last ih =>
      obtain ⟨before, now⟩ := List.forall_mem_append.1 embeds
      have added := Document.map_classes_append (blocks_closed separates earlier)
        (last.block separates).forest_closed
        (fun program => (document.on program).classArrays) (document.classArrays_part ·)
      have declared : (document.on (last.block separates).forest).classArrays 4 =
          last.constants document.embed := by
        rw [Block.classArrays_forest, last.constants_block (now last List.mem_cons_self)]
      rw [Block.classes_forest, List.map_singleton, declared, ih before] at added
      rw [blocks_concat, added, List.map_append, List.map_singleton]

/-- **A generation spells the classes of all generations so far under its own flag.** -/
theorem constants_of_generate {language : Language} {settings : Settings} {before : Observed}
    (sound : Sound (.program language settings) before) {loaders : Loaders}
    {model? data? : Option Path}
    (generated : (before.session.generate loaders model? data?).1 = .ok ()) :
    let after := (before.session.generate loaders model? data?).2
    let document := after.spelled language settings
    document.embed = before.session.embed ∧ document.text = .ok after.document ∧
      document.forest.classes.map document.classArrays =
        (before.generations ++ [before.session.generation loaders model? data?]).map
          fun generation => generation.constants before.session.embed := by
  obtain ⟨failure, failed, -, -⟩ | ⟨text, -, -, embeds, spelt, grown⟩ :=
    Session.generate_cases sound.callable loaders model? data?
  · rw [failed] at generated
    cases generated
  let generations := before.generations ++ [before.session.generation loaders model? data?]
  have program : before.session.program.append
        (before.session.nextBlock loaders model? data?).forest =
      blocks language.separatesTraining generations := by
    rw [blocks_concat, Session.nextBlock, sound.program, sound.keeps]
    rfl
  have all : ∀ generation ∈ generations, generation.Embeds := by
    intro generation member
    rcases List.mem_append.1 member with earlier | now
    · exact sound.embeds generation earlier
    · rwa [List.mem_singleton.1 now]
  rw [grown]
  intro after document
  refine ⟨rfl, ?_, ?_⟩
  · rw [Renderer.spell, sound.keeps] at spelt
    exact spelt
  · have declared := map_classArrays_blocks document language.separatesTraining all
    rw [← program] at declared
    exact declared

/-- **Without embedding a document keeps the parameters that were embedded before.** A generation
made while the flag is off writes no training rows, but a class declares its parameters exactly
when its own generation embedded a model, and the declaration stands in the document. So no
constants are left if and only if no generation so far embedded a model. -/
theorem arrays_of_unembedded {target : Target} {stamp : Stamp} {settings : Settings}
    {first : Session} (started : Session.start target stamp settings = .ok first)
    (programs : target.family? = some .program) (operations : List Operation)
    (loaders : Loaders) (model? data? : Option Path) :
    let before := (start first).run operations
    let after := (before.session.generate loaders model? data?).2
    before.session.embed = false → (before.session.generate loaders model? data?).1 = .ok () →
    ∃ language, Style.ofTarget target settings = .ok (.program language settings) ∧
      let document := after.spelled language settings
      document.text = .ok after.document ∧
        document.forest.classes.map document.classArrays =
          (before.generations ++ [before.session.generation loaders model? data?]).map
            (fun generation => if generation.embed && generation.model?.isSome then
              [Forest.weightsName] else []) ∧
        (∀ handle ∈ document.forest.classes, ∀ name ∈ document.classArrays handle,
          document.Declares after.document name) ∧
        ((∀ handle ∈ document.forest.classes, document.classArrays handle = []) ↔
          ∀ generation ∈ before.generations,
            ¬ (generation.embed = true ∧ generation.model?.isSome = true)) := by
  intro before after off generated
  obtain ⟨style, chosen, new⟩ := start_sound started
  obtain ⟨language, rfl⟩ := program_of_ofTarget chosen programs
  refine ⟨language, chosen, ?_⟩
  intro document
  obtain ⟨-, made, declared⟩ := constants_of_generate (new.run operations) generated
  rw [off] at declared
  refine ⟨made, declared, ?_, ?_⟩
  · intro handle isClass name listed
    rw [document.text_eq_reference made]
    exact document.reference_declares isClass listed
  have none_declared : (∀ handle ∈ document.forest.classes, document.classArrays handle = []) ↔
      ∀ names ∈ document.forest.classes.map document.classArrays, names = [] := by
    rw [List.forall_mem_map]
  rw [none_declared, declared, List.forall_mem_map, List.forall_mem_append,
    List.forall_mem_singleton, and_iff_left]
  · exact forall_congr' fun generation => forall_congr' fun _ => Generation.constants_eq_nil
  · -- this generation does not embed
    rw [Generation.constants_eq_nil]
    exact fun embedded => Bool.false_ne_true (off.symm.trans embedded.1)

/-- Loaders of a model with one parameter, and of one training row. -/
def oneParameter : Loaders :=
  ⟨fun _ => .ok (.basicNetwork ⟨[⟨1, false, .sigmoid⟩, ⟨1, false, .sigmoid⟩], [.zero]⟩),
    fun _ => .ok ⟨[[.zero]], [[.zero]]⟩⟩

/-- A new session for Java that embeds a model and a training row, and then no more. -/
def relapsed : Observed :=
  (start newJava).run [.setEmbed true, .generate oneParameter (some ⟨"m.json"⟩) (some ⟨"rows.csv"⟩),
    .setEmbed false]

theorem relapsed_generates : relapsed.session.embed = false ∧
    (relapsed.session.generate oneParameter none none).1 = .ok () :=
  ⟨by decide +kernel, toOption_eq_some.1 (by decide +kernel)⟩

theorem arrays_of_unembedded_java :
    let after := (relapsed.session.generate oneParameter none none).2
    let document := after.spelled .java .standard
    Session.start .java (.current "today") .standard = .ok newJava ∧
      Target.java.family? = some .program ∧ relapsed.session.embed = false ∧
      (relapsed.session.generate oneParameter none none).1 = .ok () ∧
      document.text = .ok after.document ∧
      document.forest.classes.map document.classArrays = [["WEIGHTS"], []] ∧
      document.Declares after.document "WEIGHTS" := by
  intro after document
  have started : Session.start .java (.current "today") .standard = .ok newJava := rfl
  obtain ⟨off, generated⟩ := relapsed_generates
  obtain ⟨language, chosen, made, declared, inText, -⟩ :=
    arrays_of_unembedded started rfl _ oneParameter none none off generated
  cases chosen
  have first : 4 ∈ document.forest.classes := by decide +kernel
  have listed : "WEIGHTS" ∈ document.classArrays 4 := by decide +kernel
  refine ⟨started, rfl, off, generated, made, declared.trans ?_, inText 4 first "WEIGHTS" listed⟩
  decide +kernel

/-- **Embedded parameters are not always left out.** A model was embedded, the flag is turned off,
and the next document still declares the parameters. -/
theorem weights_left_behind :
    ¬ ∀ (target : Target) (stamp : Stamp) (settings : Settings) (first : Session)
        (operations : List Operation) (loaders : Loaders) (model? data? : Option Path),
      Session.start target stamp settings = .ok first → target.family? = some .program →
      let before := (start first).run operations
      let after := (before.session.generate loaders model? data?).2
      before.session.embed = false → (before.session.generate loaders model? data?).1 = .ok () →
      ∀ language, Style.ofTarget target settings = .ok (.program language settings) →
        let document := after.spelled language settings
        ∀ handle ∈ document.forest.classes, ∀ name ∈ document.classArrays handle,
          name ∉ [Forest.weightsName, Document.inputName, Document.idealName] := by
  intro claim
  obtain ⟨off, generated⟩ := relapsed_generates
  let document := (relapsed.session.generate oneParameter none none).2.spelled .java .standard
  have first : 4 ∈ document.forest.classes := by decide +kernel
  have kept : Forest.weightsName ∈ document.classArrays 4 := by decide +kernel
  have declared := claim .java (.current "today") .standard newJava _ oneParameter none none
    rfl rfl off generated .java rfl 4 first Forest.weightsName kept
  exact declared List.mem_cons_self

end Observed

end ModelExport
