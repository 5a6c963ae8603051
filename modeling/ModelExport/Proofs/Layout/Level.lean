/-
# ModelExport.Proofs.Layout.Level — steps that stand on their own

What steps write depends on the page only through its level and on whether it is
at the start of a line (`Page.run_behind`). Steps that begin and end at the start
of a line, at levels that are known, therefore write a text of their own,
`written`, wherever on a page they are carried out: `Leads before after steps`
says that steps lead from one level to another in this way, and `Leads.run_eq`
is what a page looks like after them. Texts of such steps follow one another
without influence (`Leads.written_append`).
-/
import ModelExport.Layout

set_option autoImplicit false

namespace ModelExport.Layout

/-- The margin is a product that drops what 64 bits do not hold. -/
theorem indentation_eq (width level : Nat) :
    indentation width level = level * width % UInt64.size := by
  rw [indentation, UInt64.toNat_mul, UInt64.toNat_ofNat', UInt64.toNat_ofNat', ← Nat.mul_mod]

theorem indentation_of_lt {width level : Nat} (fits : level * width < UInt64.size) :
    indentation width level = level * width := by
  rw [indentation_eq, Nat.mod_eq_of_lt fits]

namespace Page

@[simp] theorem run_nil (width : Nat) (page : Page) : page.run width [] = page := rfl

@[simp] theorem run_cons (width : Nat) (page : Page) (first : Step) (rest : List Step) :
    page.run width (first :: rest) = (page.step width first).run width rest := rfl

@[simp] theorem run_append (width : Nat) (page : Page) (front back : List Step) :
    page.run width (front ++ back) = (page.run width front).run width back :=
  List.foldl_append

/-- The page with a text before everything on it. -/
def behind (text : String) (page : Page) : Page := { page with text := text ++ page.text }

theorem step_behind (width : Nat) (text : String) (page : Page) (step : Step) :
    (page.behind text).step width step = (page.step width step).behind text := by
  cases step with
  | indent => rfl
  | dedent => rfl
  | write more =>
      simp only [Page.step, behind]
      split
      · rfl
      · simp only [String.append_assoc]
        rfl
  | newline => simp only [Page.step, behind, String.append_assoc]

/-- **Steps do not look at what is written.** -/
theorem run_behind (width : Nat) (text : String) (page : Page) (steps : List Step) :
    (page.behind text).run width steps = (page.run width steps).behind text := by
  induction steps generalizing page with
  | nil => rfl
  | cons first rest ih => rw [run_cons, step_behind, ih, run_cons]

/-- The spaces before the next text. -/
def margin (width : Nat) (page : Page) : String :=
  if page.atLineStart then spaces (indentation width page.level) else ""

/-- Whatever is written later, what stands on a page stays in front of it. -/
theorem exists_text_run (width : Nat) (page : Page) (steps : List Step) :
    ∃ back, (page.run width steps).text = page.text ++ back := by
  have moved := run_behind width page.text { page with text := "" } steps
  rw [behind, String.append_empty] at moved
  exact ⟨_, congrArg Page.text moved⟩

/-- A line that is not blank stands behind its margin. -/
theorem exists_text_run_line (width : Nat) (page : Page) {text : String} (solid : text ≠ "")
    (later : List Step) :
    ∃ back, (page.run width (line text ++ later)).text =
      page.text ++ page.margin width ++ text ++ back := by
  obtain ⟨back, written⟩ := exists_text_run width (page.run width (line text)) later
  refine ⟨"\n" ++ back, ?_⟩
  rw [run_append, written, line, run_cons, run_cons, run_nil, step, if_neg solid, step]
  simp only [margin, String.append_assoc]

end Page

/-- What steps write on a clean page at some level. -/
def written (width level : Nat) (steps : List Step) : String :=
  (Page.run width ⟨"", level, true⟩ steps).text

/-- Begun at the start of a line at one level, the steps end at the start of a line at another. -/
def Leads (before after : Nat) (steps : List Step) : Prop :=
  ∀ width, (Page.run width ⟨"", before, true⟩ steps).level = after ∧
    (Page.run width ⟨"", before, true⟩ steps).atLineStart = true

theorem leads_nil (level : Nat) : Leads level level [] := fun _ => ⟨rfl, rfl⟩

theorem leads_newline (level : Nat) : Leads level level [.newline] := fun _ => ⟨rfl, rfl⟩

theorem leads_indent (level : Nat) : Leads level (level + 1) [.indent] := fun _ => ⟨rfl, rfl⟩

theorem leads_dedent (level : Nat) : Leads (level + 1) level [.dedent] := fun _ => ⟨rfl, rfl⟩

theorem leads_line (level : Nat) (text : String) : Leads level level (line text) := by
  intro width
  by_cases blank : text = "" <;> simp [line, Page.step, blank]

/-- A line that is not empty stands behind the margin of its level. -/
theorem written_line {text : String} (solid : text ≠ "") (width level : Nat) :
    written width level (line text) = Page.spaces (indentation width level) ++ text ++ "\n" := by
  simp [written, line, Page.step, solid]

namespace Leads

variable {before between after : Nat} {steps more : List Step}

/-- A page at the start of a line after steps that stand on their own. -/
theorem run_eq (leads : Leads before after steps) (width : Nat) (text : String) :
    Page.run width ⟨text, before, true⟩ steps =
      ⟨text ++ written width before steps, after, true⟩ := by
  have moved := Page.run_behind width text ⟨"", before, true⟩ steps
  obtain ⟨level, start⟩ := leads width
  simp only [Page.behind, String.append_empty, level, start] at moved
  exact moved

theorem append (first : Leads before between steps) (second : Leads between after more) :
    Leads before after (steps ++ more) := by
  intro width
  rw [Page.run_append, first.run_eq, second.run_eq]
  exact ⟨rfl, rfl⟩

theorem written_append (first : Leads before between steps) (second : Leads between after more)
    (width : Nat) : written width before (steps ++ more) =
      written width before steps ++ written width between more := by
  rw [written, Page.run_append, first.run_eq, second.run_eq]
  simp only [String.empty_append]

/-- Parts that stand on their own, one after the other. -/
theorem flatMap {α : Type} {level : Nat} {spell : α → List Step} (parts : List α)
    (each : ∀ part ∈ parts, Leads level level (spell part)) :
    Leads level level (parts.flatMap spell) := by
  induction parts with
  | nil => exact leads_nil level
  | cons part rest ih =>
      rw [List.flatMap_cons]
      exact (each part List.mem_cons_self).append
        (ih fun other member => each other (List.mem_cons_of_mem _ member))

theorem written_flatMap {α : Type} {level : Nat} {spell : α → List Step} (parts : List α)
    (each : ∀ part ∈ parts, Leads level level (spell part)) (width : Nat) :
    written width level (parts.flatMap spell) =
      String.join (parts.map fun part => written width level (spell part)) := by
  induction parts with
  | nil => rfl
  | cons part rest ih =>
      have others : ∀ other ∈ rest, Leads level level (spell other) :=
        fun other member => each other (List.mem_cons_of_mem _ member)
      rw [List.flatMap_cons, (each part List.mem_cons_self).written_append (flatMap rest others),
        ih others, List.map_cons, String.join_cons]

/-- Parts that stand on their own, with a blank line between any two. -/
theorem intercalate {level : Nat} (parts : List (List Step))
    (each : ∀ part ∈ parts, Leads level level part) :
    Leads level level ([Step.newline].intercalate parts) := by
  induction parts with
  | nil => exact leads_nil level
  | cons part rest ih =>
      have others : ∀ other ∈ rest, Leads level level other :=
        fun other member => each other (List.mem_cons_of_mem _ member)
      cases rest with
      | nil => simpa using each part List.mem_cons_self
      | cons next rest =>
          rw [List.intercalate_cons_cons]
          exact ((each part List.mem_cons_self).append (leads_newline level)).append (ih others)

theorem written_intercalate {level : Nat} (parts : List (List Step))
    (each : ∀ part ∈ parts, Leads level level part) (width : Nat) :
    written width level ([Step.newline].intercalate parts) =
      "\n".intercalate (parts.map (written width level)) := by
  induction parts with
  | nil => rfl
  | cons part rest ih =>
      have own := each part List.mem_cons_self
      have others : ∀ other ∈ rest, Leads level level other :=
        fun other member => each other (List.mem_cons_of_mem _ member)
      cases rest with
      | nil => simp
      | cons next rest =>
          have blank : written width level [.newline] = "\n" := rfl
          rw [List.intercalate_cons_cons, List.map_cons, List.map_cons,
            String.intercalate_cons_cons, ← List.map_cons, ← ih others,
            (own.append (leads_newline level)).written_append (intercalate _ others),
            own.written_append (leads_newline level), blank]

end Leads

end ModelExport.Layout
