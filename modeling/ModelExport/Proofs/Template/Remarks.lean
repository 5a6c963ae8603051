/-
# ModelExport.Proofs.Template.Remarks — what stands in the comments of indicators

Both templates have the identity of the tool, the time, and two properties in
comments. The comments end with their lines, and values are put in as they are, so a
line feed or a carriage return in a value leads out of its comment. The document has
as many of them more than the template as the values put in have together, and has
the lines of the template exactly when no value has any; then every comment stays one
(`breaks_document_iff`). Properties are free texts, so it does not always
(`breaks_gained`).
-/
import ModelExport.Proofs.Template.Files
import ModelExport.Proofs.Template.Lines
import ModelExport.Proofs.Template.Values

set_option autoImplicit false

namespace ModelExport

open Template
open Text (breaks rows)

namespace Indicator

/-- The key of the tool. -/
def toolKey : String := "GENERATOR"

/-- The keys that the templates ask for. -/
def askedKeys : List String :=
  CannedTemplate.reservedKeys ++ [Analyst.typeKey, Analyst.architectureKey]

/-- Those whose values stand in comments. -/
def remarkKeys : List String :=
  [toolKey, "VERSION", "GENERATED_AT", Analyst.typeKey, Analyst.architectureKey]

/-- Lines in which a key of a comment stands: comments, and one directive that names the tool. -/
def Bears (line key : List Char) : Prop :=
  Remark line ∨ key = toolKey.toList ∧ line.head? = some '#'

/-- What is true of every line of the templates. -/
structure Sound (line : List Char) : Prop where
  unbroken : breaks line = 0
  contained : SelfContained line
  asked : ∀ key ∈ keys line, key ∈ askedKeys.map String.toList
  remarks : ∀ key ∈ keys line, key ∈ remarkKeys.map String.toList → Bears line key

/-! ## The lines of the templates -/

/-- Whether a line with the given pieces is sound, for given keys. -/
def checkPieces (tool : List Char) (asked remarks : List (List Char)) (line : List Char)
    (parts : List Piece) : Bool :=
  parts.all fun part =>
    match part with
    | .literal text => (cutAt '\x7b' text).isNone
    | .placeholder key => asked.contains key && (!remarks.contains key ||
        ['/', '/'].isPrefixOf (line.dropWhile (· == ' ')) || key == tool && line.head? == some '#')

/-- Whether all lines are sound and every key that may be asked for is asked for. -/
def checkLines (tool : List Char) (asked remarks : List (List Char)) (lines : List (List Char)) :
    Bool :=
  (lines.all fun line => line.all (!Text.isBreak ·) &&
    (cut? 4 line).any (checkPieces tool asked remarks line)) &&
  asked.all fun key => lines.any fun line =>
    (cut? 4 line).any (·.contains (.placeholder key))

theorem sound_of_check {line : List Char} (whole : line.all (!Text.isBreak ·) = true)
    (checked : (cut? 4 line).any (checkPieces toolKey.toList (askedKeys.map String.toList)
      (remarkKeys.map String.toList) line) = true) : Sound line := by
  obtain ⟨parts, cut, sound⟩ := (Option.any_eq_true _ _).1 checked
  have known : pieces line = parts := pieces_eq_of_cut? cut
  have each := List.all_eq_true.1 sound
  have of_key {key : List Char} (member : key ∈ keys line) : .placeholder key ∈ parts := by
    rw [keys, known] at member
    obtain ⟨part, among, named⟩ := List.mem_filterMap.1 member
    cases part with
    | literal text => cases named
    | placeholder other =>
        obtain rfl := Option.some.inj named
        exact among
  refine ⟨?_, ?_, ?_, ?_⟩
  · rw [Text.breaks_eq_zero]
    intro c member
    simpa using List.all_eq_true.1 whole c member
  · intro literal member
    rw [known] at member
    simpa using each _ member
  · intro key member
    have good := each _ (of_key member)
    simp only [Bool.and_eq_true, List.contains_iff_mem] at good
    exact good.1
  · intro key member remark
    have good := each _ (of_key member)
    have among : (remarkKeys.map String.toList).contains key = true :=
      List.contains_iff_mem.2 remark
    simp only [among, Bool.not_true, Bool.false_or, Bool.and_eq_true, Bool.or_eq_true,
      List.isPrefixOf_iff_prefix, beq_iff_eq] at good
    exact good.2

/-- **Both templates consist of sound lines**, and ask for all their keys. -/
theorem exists_lines (indicator : Indicator) :
    ∃ lines : List (List Char), indicator.template.text.toList = lines.flatMap (· ++ ['\n']) ∧
      (∀ line ∈ lines, Sound line) ∧ ∀ key ∈ askedKeys, ∃ line ∈ lines, key.toList ∈ keys line := by
  have joined : ∃ lines, indicator.template.text = CannedTemplate.joinLines lines ∧
      checkLines toolKey.toList (askedKeys.map String.toList) (remarkKeys.map String.toList)
        (lines.map String.toList) = true := by
    cases indicator
    -- the characters are listed first, as for the declarations of files
    all_goals
      refine ⟨_, rfl, ?_⟩
      simp only [askedKeys, remarkKeys, toolKey, CannedTemplate.reservedKeys, Analyst.typeKey,
        Analyst.architectureKey, List.cons_append, List.nil_append, List.map_cons, List.map_nil]
      repeat rw [String.toList_ofList]
      decide +kernel
  obtain ⟨lines, text, checked⟩ := joined
  simp only [checkLines, Bool.and_eq_true, List.all_eq_true, List.any_eq_true] at checked
  obtain ⟨sound, complete⟩ := checked
  refine ⟨lines.map String.toList, ?_, fun line member => ?_, fun key asked => ?_⟩
  · rw [text, CannedTemplate.toList_joinLines, List.flatMap_map]
  · obtain ⟨whole, good⟩ := sound line member
    exact sound_of_check (List.all_eq_true.2 whole) good
  · obtain ⟨line, member, found⟩ := complete _ (List.mem_map_of_mem asked)
    obtain ⟨parts, cut, among⟩ := (Option.any_eq_true _ _).1 found
    refine ⟨line, member, ?_⟩
    rw [keys, pieces_eq_of_cut? cut]
    exact List.mem_filterMap.2 ⟨_, List.contains_iff_mem.1 among, rfl⟩

/-- The templates ask for these keys and no others. -/
theorem mem_keys_iff (indicator : Indicator) (key : List Char) :
    key ∈ keys indicator.template.text.toList ↔ key ∈ askedKeys.map String.toList := by
  obtain ⟨lines, text, sound, complete⟩ := indicator.exists_lines
  rw [text, keys_lines fun line member => (sound line member).contained, List.mem_flatMap]
  constructor
  · rintro ⟨line, member, asked⟩
    exact (sound line member).asked key asked
  · intro member
    obtain ⟨name, asked, rfl⟩ := List.mem_map.1 member
    exact complete name asked

/-! ## Breaks in documents -/

/-- A row of a template with every key replaced by what it stands for. -/
def filledRow (value : String → String) (row : List Char) : List Char :=
  Template.fill (fun key => some (value (.ofList key)).toList) row

/-- A document has the rows of the template, filled, and the remarks among them are remarks. -/
structure KeepsRows (indicator : Indicator) (value : String → String) (text : String) : Prop where
  rows : rows text.toList = (rows indicator.template.text.toList).map (filledRow value)
  remarks : ∀ row ∈ Text.rows indicator.template.text.toList, Remark row →
    Remark (filledRow value row)
  /-- These are the rows in which the values of comments stand. -/
  bears : ∀ row ∈ Text.rows indicator.template.text.toList, ∀ key ∈ remarkKeys,
    key.toList ∈ keys row → Bears row key.toList

variable {indicator : Indicator} {script : Analyst} {stamp : Stamp} {text : String}
  {value : String → String}

theorem breaks_filled
    (filled : Filled (fun key => (value (.ofList key)).toList) indicator.template.text.toList
      text.toList) :
    breaks text.toList = breaks indicator.template.text.toList +
      ((keys indicator.template.text.toList).map fun key =>
        breaks (value (.ofList key)).toList).sum := by
  obtain ⟨lines, whole, sound, -⟩ := indicator.exists_lines
  rw [filled_iff.1 filled, whole]
  exact breaks_fill_lines (fun line member => (sound line member).contained)
    (fun line member => (sound line member).unbroken) _

/-- A document has as many breaks as its template exactly when no value has any. -/
theorem breaks_filled_iff
    (filled : Filled (fun key => (value (.ofList key)).toList) indicator.template.text.toList
      text.toList) :
    breaks text.toList = breaks indicator.template.text.toList ↔
      ∀ key ∈ askedKeys, breaks (value key).toList = 0 := by
  rw [breaks_filled filled, Nat.add_eq_left, List.sum_eq_zero_iff_forall_eq_nat,
    List.forall_mem_map]
  simp only [mem_keys_iff, List.forall_mem_map, String.ofList_toList]

theorem keepsRows_of_filled
    (filled : Filled (fun key => (value (.ofList key)).toList) indicator.template.text.toList
      text.toList)
    (plain : ∀ key ∈ askedKeys, breaks (value key).toList = 0) :
    KeepsRows indicator value text := by
  obtain ⟨lines, whole, sound, -⟩ := indicator.exists_lines
  have contained : ∀ line ∈ lines, SelfContained line :=
    fun line member => (sound line member).contained
  have unbroken : ∀ line ∈ lines, breaks line = 0 := fun line member => (sound line member).unbroken
  refine ⟨?_, fun row _ remark => remark.fill _, fun row member key remark asked => ?_⟩
  · rw [filled_iff.1 filled, whole]
    refine rows_fill_lines contained unbroken fun key asked => ?_
    rw [← whole, mem_keys_iff] at asked
    obtain ⟨name, known, rfl⟩ := List.mem_map.1 asked
    rw [String.ofList_toList]
    exact plain name known
  · rw [whole, Text.rows_lines unbroken] at member
    rcases List.mem_append.1 member with line | last
    · exact (sound row line).remarks _ asked (List.mem_map_of_mem remark)
    · obtain rfl := List.mem_singleton.1 last
      rw [keys, pieces_nil] at asked
      cases asked

/-- **A document has the breaks of its template and those of all values put in.** So it has as many
as the template exactly when no value has any, and then its rows are the rows of the template with
the comments still comments. -/
theorem breaks_document_iff (rendered : indicator.template.document script stamp = .ok text) :
    ∃ value, CannedTemplate.Meaning script stamp value ∧
      breaks text.toList = breaks indicator.template.text.toList +
        ((keys indicator.template.text.toList).map fun key =>
          breaks (value (.ofList key)).toList).sum ∧
      (breaks text.toList = breaks indicator.template.text.toList ↔
        ∀ key ∈ askedKeys, breaks (value key).toList = 0) ∧
      (breaks text.toList = breaks indicator.template.text.toList →
        KeepsRows indicator value text) := by
  obtain ⟨value, meaning, filled⟩ := CannedTemplate.document_eq_ok.1 rendered
  refine ⟨value, meaning, breaks_filled filled, breaks_filled_iff filled, fun same => ?_⟩
  exact keepsRows_of_filled filled ((breaks_filled_iff filled).1 same)

/-- A script that only says what type the method is of. -/
def typed (type : String) : Analyst := Analyst.empty.setProperty Analyst.typeKey type

theorem document_typed (indicator : Indicator) (type : String) (stamp : Stamp) :
    ∃ text, indicator.template.document (typed type) stamp = .ok text := by
  rw [CannedTemplate.document_eq]
  exact ⟨_, rfl⟩

theorem breaks_document_iff_plain :
    ∃ text, mql4.template.document (typed "feedforward") (.current "today") = .ok text ∧
      breaks text.toList = breaks mql4.template.text.toList := by
  obtain ⟨text, rendered⟩ := mql4.document_typed "feedforward" (.current "today")
  obtain ⟨value, meaning, -, whole, -⟩ := breaks_document_iff rendered
  obtain ⟨model?, data?, found, values⟩ := meaning.eq_value?
  obtain ⟨rfl, rfl⟩ : none = model? ∧ none = data? := Prod.mk.inj (Except.ok.inj found)
  refine ⟨text, rendered, whole.2 fun key asked => ?_⟩
  rw [values]
  revert key
  decide

/-- **A type with a line feed in it leaves its comment.** -/
theorem breaks_gained :
    ¬ ∃ indicator : Indicator, ∀ (script : Analyst) (stamp : Stamp) (text : String),
      indicator.template.document script stamp = .ok text →
        breaks text.toList = breaks indicator.template.text.toList := by
  rintro ⟨indicator, kept⟩
  obtain ⟨text, rendered⟩ := indicator.document_typed "a\nb" (.current "today")
  obtain ⟨value, meaning, filled⟩ := CannedTemplate.document_eq_ok.1 rendered
  have plain := (breaks_filled_iff filled).1 (kept _ _ _ rendered) Analyst.typeKey (by decide)
  have broken : value Analyst.typeKey = "a\nb" := meaning.property Analyst.typeKey (by decide)
  rw [broken] at plain
  exact absurd plain (by decide)

end Indicator

end ModelExport
