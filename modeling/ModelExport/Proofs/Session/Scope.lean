/-
# ModelExport.Proofs.Session.Scope — every document of a session is well scoped

What a class declares and what it uses are decided at different times: whether there
are parameters and rows when its block is made, whether they are written when the
program is spelled, as often as it is spelled, and whether the entry point calls a
loader by the target alone. The class of a block is scoped whatever these are
(`spelled_scoped`), and the classes of a program are those of its blocks
(`map_spelledClass_blocks`). So every document that a session can come to is well
scoped, after any course of operations (`run_scoped`).
-/
import ModelExport.Proofs.Document.Scope
import ModelExport.Proofs.Session.Outlines

set_option autoImplicit false

namespace ModelExport

/-- No language spells two of the functions of a block the same. -/
theorem Language.functionName_apart (language : Language) :
    language.functionName Construct.loaderName ≠ language.functionName Construct.mainName ∧
      language.functionName Session.networkName ≠ language.functionName Construct.mainName ∧
      language.functionName Construct.loaderName ≠ language.functionName Session.networkName := by
  cases language <;> decide

namespace Block

variable (block : Block)

/-- The functions of the class: the loaders, the function that makes the model, and the entry
point. -/
def functions : List String :=
  List.replicate (if block.data?.isSome then if block.separates then 2 else 1 else 0)
      Construct.loaderName ++
    List.replicate (if block.model?.isSome then 1 else 0) Session.networkName ++
    [Construct.mainName]

theorem filterMap_function? (embed : Bool) :
    (block.outlines embed).filterMap Member.function? = block.functions := by
  have rows : (block.rowsOutline embed).filterMap Member.function? = [] := by
    unfold rowsOutline
    split
    · cases block.rows <;> rfl
    · rfl
  have weights : block.weightsOutline.filterMap Member.function? = [] := by
    unfold weightsOutline
    split
    · cases block.weights <;> rfl
    · rfl
  have loaders : block.loaderOutlines.filterMap Member.function? =
      List.replicate (if block.data?.isSome then if block.separates then 2 else 1 else 0)
        Construct.loaderName := by
    unfold loaderOutlines
    cases block.data? with
    | none => rfl
    | some file => cases block.separates <;> rfl
  have network : block.networkOutline.filterMap Member.function? =
      List.replicate (if block.model?.isSome then 1 else 0) Session.networkName := by
    unfold networkOutline
    cases block.model? <;> rfl
  simp only [outlines, List.filterMap_append, rows, weights, loaders, network, functions,
    List.nil_append]
  rfl

/-- The arrays of the class are its constants; the entry point declares none. -/
theorem flatMap_declared (embed : Bool) :
    (block.outlines embed).flatMap Member.declared = block.constants embed := by
  have rows : (block.rowsOutline embed).flatMap Member.declared =
      if block.data?.isSome && block.rows.isSome && embed then
        [Document.inputName, Document.idealName] else [] := by
    unfold rowsOutline
    cases block.data? <;> cases block.rows <;> cases embed <;> rfl
  have weights : block.weightsOutline.flatMap Member.declared =
      if block.model?.isSome && block.weights.isSome then [Forest.weightsName] else [] := by
    unfold weightsOutline
    cases block.model? <;> cases block.weights <;> rfl
  have loaders : block.loaderOutlines.flatMap Member.declared = [] := by
    unfold loaderOutlines
    cases block.data? with
    | none => rfl
    | some file => cases block.separates <;> rfl
  have network : block.networkOutline.flatMap Member.declared = [] := by
    unfold networkOutline
    cases block.model? <;> rfl
  have entry : [Member.main block.said].flatMap Member.declared = [] := by
    unfold said
    cases block.model?.isSome <;> cases (block.data?.isSome && block.separates) <;> rfl
  simp only [outlines, List.flatMap_append, rows, weights, loaders, network, entry, constants,
    List.append_nil]

theorem constants_nodup (embed : Bool) : (block.constants embed).Nodup := by
  unfold constants
  split <;> split <;> decide

/-- The entry point is declared once, in whatever language. -/
theorem count_main (language : Language) :
    (block.functions.map language.functionName).count
      (language.functionName Construct.mainName) = 1 := by
  obtain ⟨loader, network, -⟩ := language.functionName_apart
  simp [functions, List.count_replicate, loader, network]

/-- The function that makes the model is declared once if there is a model. -/
theorem count_network (language : Language) :
    (block.functions.map language.functionName).count
      (language.functionName Session.networkName) = if block.model?.isSome then 1 else 0 := by
  obtain ⟨-, network, loader⟩ := language.functionName_apart
  simp [functions, List.count_replicate, loader, network.symm]

/-- The entry point calls functions of its class. -/
theorem function_mem_of_said {function type binding : String}
    (called : .call function type binding ∈ block.said) : function ∈ block.functions := by
  simp only [said, List.mem_append, List.mem_ite_nil_right, List.mem_singleton,
    Statement.call.injEq, reduceCtorEq, or_false] at called
  rcases called with ⟨modelled, rfl, -, -⟩ | ⟨trained, rfl, -, -⟩
  · simp [functions, modelled]
  · -- the loader is called only where there is a training file, and then there are two
    obtain ⟨given, separates⟩ := Bool.and_eq_true_iff.1 trained
    simp [functions, given, separates]

/-- **The class of a block declares what it uses**, whichever flag it is spelled with. -/
theorem spelled_scoped (embed : Bool) (language : Language) :
    (block.spelled embed).Scoped language := by
  apply SpelledClass.scoped_of_members
  · intro called file array body member
    -- only the function that makes the model decodes parameters, and then they are there
    simp only [mem_outlines, reduceCtorEq, and_false, exists_false, false_or, or_false,
      Member.network.injEq] at member ⊢
    obtain ⟨file, modelled, -, -, named, -⟩ := member
    obtain ⟨values, written, rfl⟩ := Option.map_eq_some_iff.1 named.symm
    exact ⟨values, Option.isSome_of_eq_some modelled, values, written, rfl⟩
  · intro held
    obtain ⟨given, written⟩ := Bool.and_eq_true_iff.1 held
    obtain ⟨set, rows⟩ := Option.isSome_iff_exists.1 written
    exact ⟨set, block.mem_outlines.2 (.inl ⟨given, set, rows, rfl⟩)⟩
  · intro body entry function type binding called
    simp only [mem_outlines, reduceCtorEq, and_false, exists_false, false_or,
      Member.main.injEq] at entry
    rw [filterMap_function?]
    exact block.function_mem_of_said (entry ▸ called)
  · rw [filterMap_function?]
    exact block.count_main language
  · rw [filterMap_function?, count_network]
    split <;> decide
  · rw [flatMap_declared]
    exact block.constants_nodup embed

end Block

namespace Observed

/-- The classes of a program are those of its blocks, spelled with one flag. -/
theorem map_spelledClass_blocks (embed separates : Bool) (generations : List Generation) :
    (blocks separates generations).classes.map
        ((blocks separates generations).spelledClass embed) =
      generations.map fun generation => .ok ((generation.block separates).spelled embed) := by
  induction generations using List.reverseRecOn with
  | nil => rfl
  | append_singleton earlier last ih =>
      have added := Document.map_classes_append (blocks_closed separates earlier)
        (last.block separates).forest_closed (Forest.spelledClass · embed)
        (Forest.spelledClass_part embed)
      rw [Block.classes_forest, List.map_singleton, Block.spelledClass_forest, ih] at added
      rw [blocks_concat, added, List.map_append, List.map_singleton]

/-- **Every document of a session is well scoped.** After any course of operations, and so with the
flag turned on and off at any time, the document is empty, or it is the phrases of one class for
each generation so far, spelled under the flag of the last, and every class declares what it uses,
its entry point once, and nothing that is to be declared once twice. -/
theorem run_scoped {target : Target} {stamp : Stamp} {settings : Settings} {first : Session}
    (started : Session.start target stamp settings = .ok first)
    (programs : target.family? = some .program) (operations : List Operation) :
    let observed := (start first).run operations
    (observed.succeeded = false → observed.session.document = "") ∧
      (observed.succeeded = true → ∃ language last,
        Style.ofTarget target settings = .ok (.program language settings) ∧
        observed.generations.getLast? = some last ∧
        let classes := observed.generations.map fun generation =>
          (generation.block language.separatesTraining).spelled last.embed
        observed.session.program.spelledClasses last.embed = .ok classes ∧
          observed.session.document = Layout.render settings.indentWidth
            (Phrase.allSteps language settings.valuesPerLine
              (observed.session.program.phrasesAround classes)) ∧
          ∀ spelled ∈ classes, spelled.Scoped language) := by
  intro observed
  obtain ⟨style, chosen, new⟩ := start_sound started
  obtain ⟨language, rfl⟩ := program_of_ofTarget chosen programs
  have sound := new.run operations
  refine ⟨sound.empty, fun succeeded => ?_⟩
  obtain ⟨last, latest, spelt⟩ := sound.rendered rfl succeeded
  refine ⟨language, last, chosen, latest, ?_⟩
  intro classes
  have spelled : observed.session.program.spelledClasses last.embed = .ok classes := by
    refine mapM_of_map ?_
    rw [sound.program]
    exact (map_spelledClass_blocks last.embed language.separatesTraining _).trans List.map_map.symm
  refine ⟨spelled, ?_, ?_⟩
  · rw [Renderer.spell, sound.keeps] at spelt
    have written := (Document.text_eq_phrases _).symm.trans spelt
    rw [Forest.phrases, spelled] at written
    exact (Except.ok.inj written).symm
  · rw [List.forall_mem_map]
    exact fun generation _ => Block.spelled_scoped _ last.embed language

theorem run_scoped_java :
    let observed := (start newJava).run [
      .generate oneParameter (some ⟨"m.json"⟩) (some ⟨"rows.csv"⟩), .setEmbed true,
      .generate oneParameter (some ⟨"m.json"⟩) (some ⟨"rows.csv"⟩)]
    Session.start .java (.current "today") .standard = .ok newJava ∧
      Target.java.family? = some .program ∧ observed.succeeded = true ∧
      ∃ classes, observed.session.program.spelledClasses true = .ok classes ∧
        classes.length = 2 ∧ (∀ spelled ∈ classes, spelled.Scoped .java) ∧
        ∃ spelled ∈ classes, .decodeWeights "WEIGHTS" ∈ spelled.body ∧
          .loadTrainingArrays "INPUT_DATA" "IDEAL_DATA" ∈ spelled.body := by
  intro observed
  have started : Session.start .java (.current "today") .standard = .ok newJava := rfl
  have succeeded : observed.succeeded = true := by decide +kernel
  have latest : observed.generations.getLast?.map Generation.embed = some true := by
    decide +kernel
  have two : observed.generations.length = 2 := by decide +kernel
  have used : ∃ generation ∈ observed.generations,
      .decodeWeights "WEIGHTS" ∈ ((generation.block true).spelled true).body ∧
        .loadTrainingArrays "INPUT_DATA" "IDEAL_DATA" ∈
          ((generation.block true).spelled true).body := by
    decide +kernel
  obtain ⟨language, last, chosen, named, spelled, -, declares⟩ :=
    (run_scoped started rfl _).2 succeeded
  cases chosen
  rw [show observed.generations.getLast? = some last from named] at latest
  obtain on : last.embed = true := Option.some.inj latest
  rw [on] at spelled declares
  refine ⟨started, rfl, succeeded, _, spelled, (List.length_map _).trans two, declares, ?_⟩
  obtain ⟨generation, among, uses⟩ := used
  exact ⟨_, List.mem_map_of_mem among, uses⟩

end Observed

end ModelExport
