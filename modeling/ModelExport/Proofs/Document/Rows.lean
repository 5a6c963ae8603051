/-
# ModelExport.Proofs.Document.Rows — training rows in a program

A training set that was read from a file pairs its rows one by one, however the file
was decoded (`TrainingSet.length_of_ofText`). A program that embeds it shows two matrices, one
after the other, and what is read back from them are the same pairs
(`training_reads_back`).
-/
import ModelExport.Proofs.Document.Fault
import ModelExport.Proofs.Document.Place
import ModelExport.Proofs.Language.Matrix

set_option autoImplicit false

namespace ModelExport

open Layout

/-- A training set that is read has as many rows of input as of ideal output. -/
theorem TrainingSet.length_of_ofText {decode : String → Except Json.Error TrainingSet} {path : Path}
    {source : String} {set : TrainingSet} (read : TrainingSet.ofText decode path source = .ok set) :
    set.input.length = set.ideal.length := by
  obtain ⟨held, -, checked⟩ := bind_eq_ok.1 read
  split at checked
  · next equal =>
    obtain rfl := Except.ok.inj checked
    exact equal
  · cases checked

namespace Document

/-- A text declares the rows of a training set in two matrices, in which those that belong together
stand at the same place. -/
def DeclaresPairs (document : Document) (set : TrainingSet) (text : String) : Prop :=
  ∃ input ideal : String, ∃ inputs ideals : List (List (List Char)),
    text = input ++ ideal ∧
      document.language.DeclaresMatrix document.indentWidth 1 "INPUT_DATA" input inputs ∧
      document.language.DeclaresMatrix document.indentWidth 1 "IDEAL_DATA" ideal ideals ∧
      inputs.length = set.input.length ∧ inputs.length = ideals.length ∧
      inputs.zip ideals = (set.input.zip set.ideal).map fun pair =>
        (document.language.words pair.1, document.language.words pair.2)

/-- **The member of a training set declares its pairs.** -/
theorem declaresPairs_written (document : Document) (arrays : Bool) {set : TrainingSet}
    (equal : set.input.length = set.ideal.length) :
    document.DeclaresPairs set (document.written 1 (document.memberSteps arrays (.rows set))) := by
  have input := document.language.leads_matrix 1 inputName set.input
  have ideal := document.language.leads_matrix 1 idealName set.ideal
  have named := document.language.declaresMatrix_matrix document.indentWidth 1
    (show '\n' ∉ inputName.toList by decide) set.input
  have matched := document.language.declaresMatrix_matrix document.indentWidth 1
    (show '\n' ∉ idealName.toList by decide) set.ideal
  refine ⟨_, _, _, _, input.written_append ideal document.indentWidth, named, matched, ?_, ?_, ?_⟩
  · rw [List.length_map]
  · rw [List.length_map, List.length_map, equal]
  · rw [List.zip_map]
    rfl

variable {document : Document}

/-- **A program shows the rows that it embeds.** -/
theorem shows_rows {text : String} (made : document.text = .ok text)
    (embeds : document.embed = true) {owner : Handle} (among : owner ∈ document.forest.classes)
    {child : Handle} (inside : child ∈ document.forest.children owner) {file : Path}
    {set : TrainingSet}
    (found : document.forest.construct? child = some (.embeddedTraining file (some set)))
    (equal : set.input.length = set.ideal.length) :
    ∃ part, Shows text part ∧ document.DeclaresPairs set part := by
  obtain ⟨steps, asked, rfl⟩ := text_eq_ok.1 made
  have ordered : child ∈ document.forest.order document.embed (document.forest.children owner) :=
    Forest.mem_order.2 ⟨inside, Forest.passes_eq_true.2 ⟨_, found, by
      rw [Construct.isMember, Construct.declares, embeds]
      rfl⟩⟩
  obtain ⟨member, read, places⟩ := places_member asked among ordered
  obtain rfl : Member.rows set = member := by
    rw [Forest.member, found] at read
    exact Option.some.inj (Except.ok.inj read)
  exact ⟨_, places.shows (Member.leads_steps _ _ _ _ 1 _) document.indentWidth,
    document.declaresPairs_written _ equal⟩

/-- **Training rows are read back exactly, row by row.** A matrix declares the table of the
spellings of its values, so that its text says which table it was, and one empty row is not the same
as none. What a program embeds of a training set that was read from a file are two such matrices of
one length, which give back its pairs one by one. -/
theorem training_reads_back :
    (∀ (language : Language) (width level : Nat) (name : String), '\n' ∉ name.toList →
      (∀ rows : List (List Binary64),
        language.DeclaresMatrix width level name
            (Layout.written width level (language.matrix name rows)) (rows.map language.words) ∧
          ∀ others, Layout.written width level (language.matrix name rows) =
              Layout.written width level (language.matrix name others) ↔
            rows.map language.words = others.map language.words) ∧
      Layout.written width level (language.matrix name [[]]) ≠
        Layout.written width level (language.matrix name [])) ∧
    ∀ (document : Document) (text : String), document.text = .ok text → document.embed = true →
      ∀ owner ∈ document.forest.classes, ∀ child ∈ document.forest.children owner, ∀ file set,
        document.forest.construct? child = some (.embeddedTraining file (some set)) →
        ∀ decode path source, TrainingSet.ofText decode path source = .ok set →
          ∃ part, Shows text part ∧ document.DeclaresPairs set part := by
  constructor
  · intro language width level name single
    refine ⟨fun rows => ⟨language.declaresMatrix_matrix width level single rows,
      language.written_matrix_inj width level single rows⟩, ?_⟩
    rw [Ne, language.written_matrix_inj width level single]
    exact List.cons_ne_nil _ _
  · intro document text made embeds owner among child inside file set found decode path source read
    exact shows_rows made embeds among inside found (TrainingSet.length_of_ofText read)

/-- A class that embeds two pairs of rows, one of them without input. -/
def paired : Forest :=
  Forest.ofBuilders [.classBody "A",
    .embeddedTraining 0 ⟨"rows.json"⟩ (some ⟨[[.zero], []], [[.zero, .zero], [.zero]]⟩)]

theorem training_reads_back_paired :
    let document : Document := ⟨.csharp, 4, 8, true, paired⟩
    let set : TrainingSet := ⟨[[.zero], []], [[.zero, .zero], [.zero]]⟩
    '\n' ∉ "M".toList ∧
      Language.java.DeclaresMatrix 4 1 "M"
        (Layout.written 4 1 (Language.java.matrix "M" [[], [.zero]])) [[], ["0.0".toList]] ∧
      TrainingSet.ofJson ⟨"rows.json"⟩ "[[[0], []], [[0, 0.0], [0]]]" = .ok set ∧
      ∃ text part, document.text = .ok text ∧ Shows text part ∧
        document.DeclaresPairs set part := by
  intro document set
  have single : '\n' ∉ "M".toList := by decide
  have read : TrainingSet.ofJson ⟨"rows.json"⟩ "[[[0], []], [[0, 0.0], [0]]]" = .ok set :=
    toOption_eq_some.1 (by decide +kernel)
  obtain ⟨text, made⟩ := exists_text_iff.2 (show document.forest.dangling = [] by decide +kernel)
  obtain ⟨part, shown, declares⟩ := training_reads_back.2 document text made rfl
    0 (by decide +kernel) 1 (by decide +kernel) ⟨"rows.json"⟩ set (by decide +kernel) _ _ _ read
  exact ⟨single, ((training_reads_back.1 .java 4 1 "M" single).1 [[], [.zero]]).1, read, text, part,
    made, shown, declares⟩

end Document

end ModelExport
