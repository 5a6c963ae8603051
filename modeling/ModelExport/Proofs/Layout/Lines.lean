/-
# ModelExport.Proofs.Layout.Lines — a page as a list of lines

A page is written step by step, and its margins come late. What comes out is a
document of lines: the line ends part the steps into lines, a line on which nothing
is written is empty, and every other line is its texts behind the spaces of one
level, that of the moment of its first text (`IsLine`). Whether the page is at the
start of a line, and what the level does later on a line, leaves no trace
(`render_lines`).
-/
import ModelExport.Proofs.Layout.Depth
import ModelExport.Proofs.Layout.Ink

set_option autoImplicit false

namespace ModelExport.Layout

/-! ## The lines of steps -/

/-- The text that a step writes. -/
def Step.content : Step → String
  | .write text => text
  | _ => ""

/-- The texts that steps write, one after the other. -/
def contentOf (steps : List Step) : String := String.join (steps.map Step.content)

/-- The steps before the first that writes anything. -/
def lead (steps : List Step) : List Step := steps.takeWhile fun step => step.content = ""

/-- The line that steps write, begun at some level. -/
def lineText (width level : Nat) (steps : List Step) : String :=
  if contentOf steps = "" then ""
  else Page.spaces (indentation width (levelAfter level (lead steps))) ++ contentOf steps

/-- The lines that steps write, given line by line and begun at some level. -/
def lineTexts (width : Nat) : Nat → List (List Step) → List String
  | _, [] => []
  | level, line :: later =>
      lineText width level line :: lineTexts width (levelAfter level line) later

/-- What stands on a line, given its steps and those of all lines before it. -/
structure IsLine (width : Nat) (earlier line : List Step) (text : String) : Prop where
  /-- A line on which nothing is written has no margin either. -/
  blank : (∀ step ∈ line, step.content = "") → text = ""
  /-- The margin is that of the moment of the first text: its level times the width, as words of 64
  bits are multiplied, and so the plain product where 64 bits hold it. -/
  filled : ∀ before first after, line = before ++ .write first :: after →
    (∀ step ∈ before, step.content = "") → first ≠ "" →
      let level := levelAfter 0 (earlier ++ before)
      text = Page.spaces (indentation width level) ++ contentOf line ∧
        (level * width < UInt64.size → text = Page.spaces (level * width) ++ contentOf line)

@[simp] theorem contentOf_nil : contentOf [] = "" := rfl

@[simp] theorem contentOf_cons (first : Step) (rest : List Step) :
    contentOf (first :: rest) = first.content ++ contentOf rest := by
  rw [contentOf, List.map_cons, String.join_cons]
  rfl

theorem contentOf_eq_empty {steps : List Step} :
    contentOf steps = "" ↔ ∀ step ∈ steps, step.content = "" := by
  induction steps with
  | nil => exact iff_of_true rfl (List.forall_mem_nil _)
  | cons first rest ih => rw [contentOf_cons, String.append_eq_empty_iff, ih, List.forall_mem_cons]

/-- Steps that write nothing only move the level of the line behind them. -/
theorem lineText_of_silent (width level : Nat) {before : List Step}
    (silent : ∀ step ∈ before, step.content = "") (later : List Step) :
    lineText width level (before ++ later) = lineText width (levelAfter level before) later := by
  induction before generalizing level with
  | nil => rfl
  | cons first rest ih =>
      obtain ⟨own, others⟩ := List.forall_mem_cons.1 silent
      rw [levelAfter_cons, ← ih _ others, List.cons_append, lineText, lineText, contentOf_cons, own,
        String.empty_append, lead, List.takeWhile_cons_of_pos (by simp [own]), levelAfter_cons]
      rfl

/-- A line that begins with a text has the margin of its level. -/
theorem lineText_of_write (width level : Nat) {text : String} (solid : text ≠ "")
    (later : List Step) : lineText width level (.write text :: later) =
      Page.spaces (indentation width level) ++ (text ++ contentOf later) := by
  have filled : contentOf (.write text :: later) ≠ "" := by simp [Step.content, solid]
  have first : lead (.write text :: later) = [] :=
    List.takeWhile_cons_of_neg fun quiet => solid (of_decide_eq_true quiet)
  rw [lineText, if_neg filled, first, contentOf_cons]
  rfl

theorem isLine_lineText (width : Nat) (earlier line : List Step) :
    IsLine width earlier line (lineText width (levelAfter 0 earlier) line) where
  blank silent := if_pos (contentOf_eq_empty.2 silent)
  filled := by
    rintro before first after rfl silent solid
    have own : contentOf (before ++ .write first :: after) = first ++ contentOf after := by
      rw [contentOf, List.map_append, String.join_append, ← contentOf, contentOf_eq_empty.2 silent,
        String.empty_append]
      exact contentOf_cons _ _
    have written : lineText width (levelAfter 0 earlier) (before ++ .write first :: after) =
        Page.spaces (indentation width (levelAfter 0 (earlier ++ before))) ++
          contentOf (before ++ .write first :: after) := by
      rw [lineText_of_silent width _ silent, lineText_of_write width _ solid, levelAfter_append,
        own]
    refine ⟨written, fun fits => ?_⟩
    rw [written, indentation_of_lt fits]

theorem getElem?_lineTexts (width level : Nat) (lines : List (List Step)) (place : Nat) :
    (lineTexts width level lines)[place]? =
      lines[place]?.map (lineText width (levelAfter level (lines.take place).flatten)) := by
  induction lines generalizing level place with
  | nil => rfl
  | cons line later ih =>
      cases place with
      | zero => rfl
      | succ place =>
          rw [lineTexts, List.getElem?_cons_succ, ih, List.getElem?_cons_succ, List.take_succ_cons,
            List.flatten_cons, levelAfter_append]

/-! ## Writing line by line -/

namespace Page

/-- A step that neither writes nor ends the line moves the level. -/
theorem step_of_silent (width : Nat) (page : Page) {step : Step} (within : step ≠ .newline)
    (quiet : step.content = "") :
    page.step width step = { page with level := step.levelFrom page.level } := by
  cases step with
  | newline => exact absurd rfl within
  | write text => exact if_pos quiet
  | _ => rfl

theorem step_write (width level : Nat) (text : String) (atLineStart : Bool) {more : String}
    (solid : more ≠ "") : Page.step width ⟨text, level, atLineStart⟩ (.write more) =
      ⟨text ++ (if atLineStart then spaces (indentation width level) else "") ++ more, level,
        false⟩ :=
  if_neg solid

/-- On a line that has begun, steps add their texts and nothing else. -/
theorem run_begun (width level : Nat) (text : String) {steps : List Step}
    (within : Step.newline ∉ steps) : Page.run width ⟨text, level, false⟩ steps =
      ⟨text ++ contentOf steps, levelAfter level steps, false⟩ := by
  induction steps generalizing text level with
  | nil => rw [run_nil, contentOf_nil, String.append_empty, levelAfter_nil]
  | cons first rest ih =>
      have later := List.not_mem_of_not_mem_cons within
      by_cases quiet : first.content = ""
      · have own : first ≠ .newline := (List.ne_of_not_mem_cons within).symm
        rw [run_cons, step_of_silent width _ own quiet, ih _ _ later, contentOf_cons, quiet,
          String.empty_append, levelAfter_cons]
      · cases first with
        | write more =>
            have solid : more ≠ "" := quiet
            rw [run_cons, step_write width level text false solid, ih _ _ later, contentOf_cons,
              levelAfter_cons, if_neg Bool.false_ne_true, String.append_empty, String.append_assoc]
            rfl
        | _ => exact absurd rfl quiet

/-- The steps of one line, from its start on: they write the line, and the page is still at its
start only if they write nothing. -/
theorem run_line (width level : Nat) (text : String) {steps : List Step}
    (within : Step.newline ∉ steps) : Page.run width ⟨text, level, true⟩ steps =
      ⟨text ++ lineText width level steps, levelAfter level steps, contentOf steps = ""⟩ := by
  induction steps generalizing level with
  | nil => rw [run_nil, lineText, if_pos contentOf_nil, String.append_empty]; rfl
  | cons first rest ih =>
      have later := List.not_mem_of_not_mem_cons within
      by_cases quiet : first.content = ""
      · have own : first ≠ .newline := (List.ne_of_not_mem_cons within).symm
        have shifted := lineText_of_silent width level (List.forall_mem_singleton.2 quiet) rest
        rw [List.singleton_append] at shifted
        rw [run_cons, step_of_silent width _ own quiet, ih _ later, shifted, contentOf_cons, quiet,
          String.empty_append, levelAfter_cons]
        rfl
      · cases first with
        | write more =>
            have solid : more ≠ "" := quiet
            have filled : ¬ contentOf (.write more :: rest) = "" := by
              rw [contentOf_cons, String.append_eq_empty_iff]
              exact fun both => solid both.1
            rw [run_cons, step_write width level text true solid, run_begun width level _ later,
              lineText_of_write width level solid, levelAfter_cons, decide_eq_false filled,
              if_pos rfl]
            simp only [String.append_assoc]
            rfl
        | _ => exact absurd rfl quiet

/-- **Lines of steps write lines of text.** -/
theorem text_run_lines (width level : Nat) (text : String) {lines : List (List Step)}
    (within : ∀ line ∈ lines, Step.newline ∉ line) :
    (Page.run width ⟨text, level, true⟩ ([Step.newline].intercalate lines)).text =
      text ++ "\n".intercalate (lineTexts width level lines) := by
  induction lines generalizing level text with
  | nil => exact String.append_empty.symm
  | cons line later ih =>
      obtain ⟨own, others⟩ := List.forall_mem_cons.1 within
      have first := run_line width level text own
      cases later with
      | nil =>
          rw [List.intercalate_singleton, first, lineTexts, lineTexts, String.intercalate_singleton]
      | cons next later =>
          have ended : Page.step width
              ⟨text ++ lineText width level line, levelAfter level line, contentOf line = ""⟩
                .newline =
              ⟨text ++ lineText width level line ++ "\n", levelAfter level line, true⟩ := rfl
          rw [List.intercalate_cons_cons, run_append, run_append, first, run_cons, run_nil, ended,
            ih _ _ others]
          simp only [lineTexts, String.intercalate_cons_cons, String.append_assoc]

end Page

/-! ## The lines of a document -/

/-- What a split list has in its pieces it had before, and it was no separator. -/
theorem mem_of_mem_splitOn {α : Type} [BEq α] [LawfulBEq α] {separator : α} {whole piece : List α}
    (among : piece ∈ whole.splitOn separator) :
    ∀ part ∈ piece, part ∈ whole ∧ part ≠ separator := by
  induction whole generalizing piece with
  | nil =>
      rw [List.splitOn_nil, List.mem_singleton] at among
      rw [among]
      exact List.forall_mem_nil _
  | cons first rest ih =>
      have later {piece : List α} (inside : piece ∈ rest.splitOn separator) :
          ∀ part ∈ piece, part ∈ first :: rest ∧ part ≠ separator := fun part listed =>
        ⟨List.mem_cons_of_mem _ (ih inside part listed).1, (ih inside part listed).2⟩
      rw [List.splitOn_cons_eq_if_modifyHead] at among
      split at among
      · obtain rfl | inside := List.mem_cons.1 among
        · exact List.forall_mem_nil _
        · exact later inside
      · rename_i apart
        obtain ⟨head, others, read⟩ := List.exists_cons_of_ne_nil
          (List.splitOn_ne_nil separator rest)
        rw [read, List.modifyHead_cons] at among
        rw [read] at later
        obtain rfl | inside := List.mem_cons.1 among
        · exact List.forall_mem_cons.2
            ⟨⟨List.mem_cons_self, by simpa using apart⟩, later List.mem_cons_self⟩
        · exact later (List.mem_cons_of_mem _ inside)

theorem newline_not_mem_lineText (width level : Nat) {steps : List Step}
    (plain : ∀ step ∈ steps, '\n' ∉ step.content.toList) :
    '\n' ∉ (lineText width level steps).toList := by
  have texts : '\n' ∉ (contentOf steps).toList := by
    rw [contentOf, String.toList_join, List.flatMap_map, List.mem_flatMap]
    rintro ⟨step, among, inside⟩
    exact plain step among inside
  rw [lineText]
  split
  · exact List.not_mem_nil
  · simp [Page.spaces, texts]

theorem newline_not_mem_lineTexts (width level : Nat) {lines : List (List Step)}
    (plain : ∀ line ∈ lines, ∀ step ∈ line, '\n' ∉ step.content.toList) :
    ∀ text ∈ lineTexts width level lines, '\n' ∉ text.toList := by
  induction lines generalizing level with
  | nil => exact List.forall_mem_nil _
  | cons line later ih =>
      obtain ⟨own, others⟩ := List.forall_mem_cons.1 plain
      exact List.forall_mem_cons.2 ⟨newline_not_mem_lineText width level own, ih _ others⟩

/-- Cut at its line feeds, a text of lines gives the lines back. -/
theorem rows_lineTexts (width level : Nat) {lines : List (List Step)} (filled : lines ≠ [])
    (plain : ∀ line ∈ lines, ∀ step ∈ line, '\n' ∉ step.content.toList) :
    rows ("\n".intercalate (lineTexts width level lines)) =
      (lineTexts width level lines).map String.toList := by
  have unbroken : ∀ text ∈ (lineTexts width level lines).map String.toList, '\n' ∉ text :=
    List.forall_mem_map.2 (newline_not_mem_lineTexts width level plain)
  rw [rows, String.toList_intercalate]
  refine List.splitOn_intercalate '\n' unbroken ?_
  obtain ⟨line, later, rfl⟩ := List.exists_cons_of_ne_nil filled
  exact List.cons_ne_nil _ _

/-- **A page is a list of lines.** The text that steps write is their lines with line feeds between
them, each decided by its own steps and the level before it, and what was written stays in front of
whatever is written later. -/
theorem render_lines (width : Nat) {steps : List Step}
    (plain : ∀ step ∈ steps, '\n' ∉ step.content.toList) :
    let lines := steps.splitOn .newline
    let texts := lineTexts width 0 lines
    render width steps = "\n".intercalate texts ∧
      rows (render width steps) = texts.map String.toList ∧
      (∀ (place : Nat) (line : List Step), lines[place]? = some line → ∃ text,
        texts[place]? = some text ∧ IsLine width (lines.take place).flatten line text) ∧
      ∀ more, (render width steps).toList <+: (render width (steps ++ more)).toList := by
  intro lines texts
  have whole : [Step.newline].intercalate lines = steps := List.intercalate_splitOn Step.newline
  have within : ∀ line ∈ lines, Step.newline ∉ line := fun line among inside =>
    (mem_of_mem_splitOn among _ inside).2 rfl
  have written : render width steps = "\n".intercalate texts := by
    have run := Page.text_run_lines width 0 "" within
    rwa [whole, String.empty_append] at run
  refine ⟨written, ?_, ?_, ?_⟩
  · rw [written]
    refine rows_lineTexts width 0 (List.splitOn_ne_nil Step.newline steps) ?_
    exact fun line among step inside => plain step (mem_of_mem_splitOn among step inside).1
  · intro place line found
    have known : texts[place]? =
        lines[place]?.map (lineText width (levelAfter 0 (lines.take place).flatten)) :=
      getElem?_lineTexts width 0 lines place
    exact ⟨_, by rw [known, found, Option.map_some], isLine_lineText width _ line⟩
  · intro more
    obtain ⟨back, later⟩ := Page.exists_text_run width (Page.blank.run width steps) more
    rw [render, render, Page.run_append, later, String.toList_append]
    exact List.prefix_append _ _

/-- Steps whose level moves in the middle of a line and on lines without text, and that dedent more
often than they indent. -/
def restless : List Step :=
  [.dedent, .write "a", .indent, .write " \x7b", .newline] ++
    [.indent, .write "", .dedent, .write "b", .dedent, .dedent, .newline] ++
    [.indent, .newline] ++ [.dedent, .dedent, .indent] ++ line "c" ++ [.dedent] ++ line "\x7d"

/-- Two levels of `2 ^ 63 + 1` spaces are more than 64 bits hold, and leave two. -/
theorem render_lines_restless :
    (∀ step ∈ restless, '\n' ∉ step.content.toList) ∧
      render 2 restless = "a \x7b\n  b\n\n  c\n\x7d\n" ∧
      lineTexts 2 0 (restless.splitOn .newline) = ["a \x7b", "  b", "", "  c", "\x7d", ""] ∧
      rows (render 2 restless) =
        ["a \x7b", "  b", "", "  c", "\x7d", ""].map String.toList ∧
      render 0x8000000000000001 [.indent, .indent, .write "x"] = "  x" := by
  have plain : ∀ step ∈ restless, '\n' ∉ step.content.toList := by decide
  have texts : lineTexts 2 0 (restless.splitOn .newline) =
      ["a \x7b", "  b", "", "  c", "\x7d", ""] := by decide +kernel
  obtain ⟨written, cut, -, -⟩ := render_lines 2 plain
  rw [texts] at written cut
  have wide : lineTexts 0x8000000000000001 0
      ([.indent, .indent, .write "x"].splitOn Step.newline) = ["  x"] := by decide +kernel
  obtain ⟨wrapped, -⟩ := render_lines 0x8000000000000001
    (show ∀ step ∈ [Step.indent, .indent, .write "x"], '\n' ∉ step.content.toList by decide)
  rw [wide] at wrapped
  exact ⟨plain, written, texts, cut, wrapped⟩

end ModelExport.Layout
