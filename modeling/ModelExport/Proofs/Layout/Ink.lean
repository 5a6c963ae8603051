/-
# ModelExport.Proofs.Layout.Ink — what of a text the layout decides

The ink of a text is what is left of it without spaces and line feeds. Steps add
their own ink to that of the page, whatever the width of a level is (`ink_run`).
More is true when only the width changes: two pages that carry out the same steps
keep the same lines, each behind a margin of its own. To follow this line by line is
awkward, because a step may go on with a line that another one began. So the text is
read from left to right with one bit of memory, whether anything but spaces was met
on the line so far (`clear`); `flush` drops the spaces that are met before that, and
`Page.InStep` is what two pages have in common.
-/
import ModelExport.Layout

set_option autoImplicit false

namespace ModelExport.Layout

/-! ## Ink -/

/-- The characters of a text that are neither spaces nor line feeds. -/
def ink (text : List Char) : List Char := text.filter fun c => c != ' ' && c != '\n'

@[simp] theorem ink_append (front back : List Char) : ink (front ++ back) = ink front ++ ink back :=
  List.filter_append _ _

/-- The ink of a step. -/
def Step.ink : Step → List Char
  | .write text => Layout.ink text.toList
  | _ => []

/-- The ink of steps. -/
def inkOf (steps : List Step) : List Char := steps.flatMap Step.ink

@[simp] theorem inkOf_append (front back : List Step) :
    inkOf (front ++ back) = inkOf front ++ inkOf back := List.flatMap_append

@[simp] theorem inkOf_line (text : String) : inkOf (line text) = ink text.toList :=
  List.append_nil _

@[simp] theorem ink_spaces (count : Nat) : ink (Page.spaces count).toList = [] := by
  rw [Page.spaces, String.toList_ofList, ink, List.filter_replicate_of_neg (by decide)]

theorem ink_step (width : Nat) (page : Page) (step : Step) :
    ink (page.step width step).text.toList = ink page.text.toList ++ step.ink := by
  cases step with
  | indent => exact (List.append_nil _).symm
  | dedent => exact (List.append_nil _).symm
  | write text =>
      rw [Page.step]
      split
      · rename_i empty
        subst empty
        exact (List.append_nil _).symm
      · have margin : ink (if page.atLineStart then Page.spaces (indentation width page.level)
            else "").toList = [] := by
          split
          · exact ink_spaces _
          · rfl
        simp only [String.toList_append, ink_append, margin, List.append_nil]
        rfl
  | newline =>
      simp only [Page.step, String.toList_append, ink_append]
      rfl

/-- **Steps add their ink to that of the page.** -/
theorem ink_run (width : Nat) (page : Page) (steps : List Step) :
    ink (page.run width steps).text.toList = ink page.text.toList ++ inkOf steps := by
  induction steps generalizing page with
  | nil => exact (List.append_nil _).symm
  | cons first rest ih =>
      have later := ih (page.step width first)
      rw [ink_step, List.append_assoc] at later
      exact later

theorem ink_render (width : Nat) (steps : List Step) :
    ink (render width steps).toList = inkOf steps :=
  ink_run width Page.blank steps

/-! ## Lines without their margins -/

/-- The lines of a text, parted at line feeds. -/
def rows (text : String) : List (List Char) := text.toList.splitOn '\n'

/-- A line without the spaces that it starts with. -/
def unindent (line : List Char) : List Char := line.dropWhile (· == ' ')

/-- Whether after one more character nothing but spaces was met on the line. -/
def clearAt (clear : Bool) (c : Char) : Bool := c == '\n' || (clear && c == ' ')

/-- Whether after a text nothing but spaces was met on its last line. -/
def clear (before : Bool) (text : List Char) : Bool := text.foldl clearAt before

/-- A text without the spaces that its lines start with. -/
def flush (before : Bool) : List Char → List Char
  | [] => []
  | c :: rest =>
      if before && c == ' ' then flush (clearAt before c) rest
      else c :: flush (clearAt before c) rest

theorem clear_append (before : Bool) (front back : List Char) :
    clear before (front ++ back) = clear (clear before front) back := List.foldl_append

theorem flush_append (before : Bool) (front back : List Char) :
    flush before (front ++ back) = flush before front ++ flush (clear before front) back := by
  induction front generalizing before with
  | nil => rfl
  | cons c front ih =>
      rw [List.cons_append, flush, flush, ih]
      split
      · rfl
      · rfl

/-- Lines without their margins; the first one keeps its spaces if something was met before. -/
def unindentAll (before : Bool) : List (List Char) → List (List Char)
  | [] => []
  | first :: others => (if before then unindent first else first) :: others.map unindent

theorem splitOn_newline (rest : List Char) :
    ('\n' :: rest).splitOn '\n' = [] :: rest.splitOn '\n' :=
  (List.splitOnP_cons_eq_if_modifyHead _ _).trans (if_pos rfl)

theorem splitOn_cons {c : Char} (plain : c ≠ '\n') (rest : List Char) :
    (c :: rest).splitOn '\n' = (rest.splitOn '\n').modifyHead (c :: ·) :=
  (List.splitOnP_cons_eq_if_modifyHead _ _).trans (if_neg fun fed => plain (beq_iff_eq.1 fed))

/-- **Dropping the margins of a text drops them from its lines.** -/
theorem splitOn_flush (before : Bool) (text : List Char) :
    (flush before text).splitOn '\n' = unindentAll before (text.splitOn '\n') := by
  induction text generalizing before with
  | nil => cases before <;> rfl
  | cons c rest ih =>
      obtain ⟨first, others, read⟩ : ∃ first others, rest.splitOn '\n' = first :: others :=
        List.exists_cons_of_ne_nil (List.splitOnP_ne_nil _ rest)
      by_cases fed : c = '\n'
      · subst fed
        have kept : flush before ('\n' :: rest) = '\n' :: flush true rest := by
          cases before <;> rfl
        rw [kept, splitOn_newline, ih, splitOn_newline, read]
        cases before <;> rfl
      have same : clearAt before c = (before && c == ' ') := by
        rw [clearAt, beq_false_of_ne fed, Bool.false_or]
      rw [flush, same, splitOn_cons fed, read, List.modifyHead_cons]
      by_cases dropped : (before && c == ' ') = true
      · -- the line still starts with spaces, of which this is one
        obtain ⟨rfl, spaced⟩ := Bool.and_eq_true_iff.1 dropped
        have less : unindent (c :: first) = unindent first :=
          List.dropWhile_cons_of_pos spaced
        rw [if_pos dropped, dropped, ih, read, unindentAll, unindentAll, less]
        rfl
      · have whole : (if before then unindent (c :: first) else c :: first) = c :: first := by
          cases before with
          | false => rfl
          | true =>
              have solid : ¬ (c == ' ') = true := dropped
              rw [if_pos rfl, unindent, List.dropWhile_cons, if_neg solid]
        rw [if_neg dropped, Bool.eq_false_iff.2 dropped, splitOn_cons fed, ih, read, unindentAll,
          unindentAll, whole]
        rfl

theorem clear_spaces (count : Nat) : clear true (Page.spaces count).toList = true := by
  rw [Page.spaces, String.toList_ofList]
  induction count with
  | zero => rfl
  | succ count ih => exact ih

theorem flush_spaces (count : Nat) : flush true (Page.spaces count).toList = [] := by
  rw [Page.spaces, String.toList_ofList]
  induction count with
  | zero => rfl
  | succ count ih => exact ih

namespace Page

/-- What two pages have in common that carry out the same steps with levels of two widths. -/
structure InStep (page other : Page) : Prop where
  level : page.level = other.level
  atLineStart : page.atLineStart = other.atLineStart
  flush : Layout.flush true page.text.toList = Layout.flush true other.text.toList
  clear : Layout.clear true page.text.toList = Layout.clear true other.text.toList
  /-- At the start of a line there is nothing on it. -/
  start : page.atLineStart = true → Layout.clear true page.text.toList = true

/-- A margin is not seen where a page puts one. -/
theorem flush_margin (page : Page) (width : Nat)
    (start : page.atLineStart = true → Layout.clear true page.text.toList = true)
    (text : String) :
    let margin := if page.atLineStart then spaces (indentation width page.level) else ""
    Layout.flush true (page.text ++ margin ++ text).toList =
        Layout.flush true page.text.toList ++
          Layout.flush (Layout.clear true page.text.toList) text.toList ∧
      Layout.clear true (page.text ++ margin ++ text).toList =
        Layout.clear (Layout.clear true page.text.toList) text.toList := by
  intro margin
  have behind : Layout.flush (Layout.clear true page.text.toList) margin.toList = [] ∧
      Layout.clear (Layout.clear true page.text.toList) margin.toList =
        Layout.clear true page.text.toList := by
    by_cases atStart : page.atLineStart = true
    · simp only [margin, if_pos atStart, start atStart]
      exact ⟨flush_spaces _, clear_spaces _⟩
    · simp only [margin, if_neg atStart]
      exact ⟨rfl, rfl⟩
  simp only [String.toList_append, flush_append, clear_append, behind, List.append_nil]
  trivial

theorem InStep.step {page other : Page} (same : InStep page other) (width width' : Nat)
    (step : Step) : InStep (page.step width step) (other.step width' step) := by
  cases step with
  | indent =>
      exact ⟨congrArg (· + 1) same.level, same.atLineStart, same.flush, same.clear, same.start⟩
  | dedent =>
      exact ⟨congrArg (· - 1) same.level, same.atLineStart, same.flush, same.clear, same.start⟩
  | write text =>
      simp only [Page.step]
      split
      · exact same
      · have start : other.atLineStart = true → Layout.clear true other.text.toList = true := by
          rw [← same.atLineStart, ← same.clear]
          exact same.start
        obtain ⟨written, cleared⟩ := page.flush_margin width same.start text
        obtain ⟨written', cleared'⟩ := other.flush_margin width' start text
        refine ⟨same.level, rfl, ?_, ?_, nofun⟩
        · rw [written, written', same.flush, same.clear]
        · rw [cleared, cleared', same.clear]
  | newline =>
      simp only [Page.step]
      refine ⟨same.level, rfl, ?_, ?_, ?_⟩
      · simp only [String.toList_append, flush_append, same.flush, same.clear]
      · simp only [String.toList_append, clear_append, same.clear]
      · intro _
        simp only [String.toList_append, clear_append]
        rfl

/-- **Pages that were in step stay so**, whatever the widths of their levels. -/
theorem InStep.run {page other : Page} (same : InStep page other) (width width' : Nat)
    (steps : List Step) : InStep (page.run width steps) (other.run width' steps) := by
  induction steps generalizing page other with
  | nil => exact same
  | cons first rest ih => exact ih (same.step width width' first)

end Page

/-- **The width of a level changes the margins of lines only.** -/
theorem rows_render (width width' : Nat) (steps : List Step) :
    (rows (render width steps)).map unindent = (rows (render width' steps)).map unindent := by
  have blank : Page.InStep Page.blank Page.blank := ⟨rfl, rfl, rfl, rfl, fun _ => rfl⟩
  have same := congrArg (List.splitOn '\n') (blank.run width width' steps).flush
  rw [splitOn_flush, splitOn_flush] at same
  have all (text : String) : unindentAll true (text.toList.splitOn '\n') =
      (rows text).map unindent := by
    rw [rows]
    cases text.toList.splitOn '\n' <;> rfl
  rw [all, all] at same
  exact same

end ModelExport.Layout
