/-
# ModelExport.Proofs.Renderer.Rerender — programs spelled again and again

A renderer of programs is handed one program after the other. What it makes of one
does not depend on the document before (`render_eq`): a program that can be spelled
leaves the text that a new renderer makes of it, and any other is refused and leaves
the document as it was. So after any course of programs the document is the last of
the texts that were made (`renderAll_eq`). Which programs are refused, and what is
told, is decided by the calls that spelling reaches, and so it is the same under
every setting (`Rendered`).
-/
import ModelExport.Renderer
import ModelExport.Proofs.Document.Fault

set_option autoImplicit false

namespace ModelExport

namespace Renderer

/-- Spell a program in the renderer's language, or keep the document if it cannot be spelled. -/
def render (renderer : Renderer) (forest : Forest) (embed : Bool) : Outcome × Renderer :=
  renderer.adopt (renderer.spell "generate" forest embed)

/-- A program, and whether it is spelled with its data. -/
abbrev Job := Forest × Bool

/-- Spell programs one after the other. -/
def renderAll (renderer : Renderer) (jobs : List Job) : Renderer :=
  jobs.foldl (fun renderer job => (renderer.render job.1 job.2).2) renderer

/-- The document of a new renderer that was handed one program; none if it was refused. -/
def text? (style : Style) (job : Job) : Option String :=
  match (ofStyle style).render job.1 job.2 with
  | (.ok (), renderer) => some renderer.contents
  | (.error _, _) => none

/-! ## One program -/

/-- **What comes of a program does not depend on the document before**, which stays only if the
program is refused. -/
theorem render_eq (style : Style) (contents : String) (forest : Forest) (embed : Bool) :
    (Renderer.mk style contents).render forest embed =
      (((ofStyle style).render forest embed).1,
        ⟨style, (text? style (forest, embed)).getD contents⟩) := by
  have same : (Renderer.mk style contents).spell "generate" forest embed =
      (ofStyle style).spell "generate" forest embed := rfl
  rw [render, text?, render, same]
  cases (ofStyle style).spell "generate" forest embed <;> rfl

/-- **A program is refused and changes nothing, or it leaves its own text.** -/
theorem render_cases (language : Language) (settings : Settings) (forest : Forest) (embed : Bool) :
    (∃ binding, forest.dangling.head? = some binding ∧ ∀ contents,
      (Renderer.mk (.program language settings) contents).render forest embed =
        (.error (.invalidCallTarget binding), ⟨.program language settings, contents⟩)) ∨
    forest.dangling = [] ∧ ∃ text, ∀ contents,
      (Renderer.mk (.program language settings) contents).render forest embed =
        (.ok (), ⟨.program language settings, text⟩) := by
  let document := Document.mk language settings.indentWidth settings.valuesPerLine embed forest
  have adopted (contents : String) :
      (Renderer.mk (.program language settings) contents).render forest embed =
        (Renderer.mk (.program language settings) contents).adopt document.text := rfl
  cases made : document.text with
  | error failure =>
      obtain ⟨binding, first, rfl⟩ := Document.text_eq_error_iff.1 made
      refine .inl ⟨binding, first, fun contents => ?_⟩
      rw [adopted, made, adopt]
  | ok text =>
      refine .inr ⟨Document.exists_text_iff.1 ⟨text, made⟩, text, fun contents => ?_⟩
      rw [adopted, made, adopt]

/-- The outcome is told by the calls that dangle. -/
theorem render_fst (language : Language) (settings : Settings) (contents : String)
    (forest : Forest) (embed : Bool) :
    ((Renderer.mk (.program language settings) contents).render forest embed).1 =
      match forest.dangling.head? with
      | some binding => .error (.invalidCallTarget binding)
      | none => .ok () := by
  obtain ⟨binding, first, refused⟩ | ⟨none, text, spelt⟩ :=
    render_cases language settings forest embed
  · rw [refused, first]
  · rw [spelt, none, List.head?_nil]

/-! ## One program after the other -/

theorem renderAll_cons (renderer : Renderer) (job : Job) (rest : List Job) :
    renderer.renderAll (job :: rest) = (renderer.render job.1 job.2).2.renderAll rest := rfl

/-- **After any course of programs the document is the last that was made**, and the first one if
none was. -/
theorem renderAll_eq (style : Style) (contents : String) (jobs : List Job) :
    (Renderer.mk style contents).renderAll jobs =
      ⟨style, (jobs.filterMap (text? style)).getLastD contents⟩ := by
  induction jobs generalizing contents with
  | nil => rfl
  | cons job rest ih =>
      rw [renderAll_cons, render_eq, ih]
      cases made : text? style job with
      | none => rw [List.filterMap_cons_none made, Option.getD_none]
      | some text => rw [List.filterMap_cons_some made, Option.getD_some, List.getLastD_cons]

/-! ## What a renderer does next -/

/-- What comes of handing a program to a renderer that has been handed others before. -/
structure Rendered (before : Renderer) (forest : Forest) (embed : Bool) : Prop where
  /-- It is refused exactly when a call in a function of a class points at no function. -/
  refused : (∃ failure, (before.render forest embed).1 = .error failure) ↔
    ∃ call binding, forest.Reaches call ∧ forest.Dangles call binding
  /-- Then the failure tells the first such call, and nothing changes. -/
  told : ∀ failure, (before.render forest embed).1 = .error failure →
    (before.render forest embed).2 = before ∧
      ∃ binding, forest.dangling.head? = some binding ∧ failure = .invalidCallTarget binding
  /-- Otherwise a new renderer makes the same document. -/
  made : (before.render forest embed).1 = .ok () →
    before.render forest embed = (ofStyle before.style).render forest embed
  /-- Language, settings, embedding and what was written before have no part in the outcome. -/
  alike : ∀ language settings contents flag,
    ((Renderer.mk (.program language settings) contents).render forest flag).1 =
      (before.render forest embed).1
  /-- In a program that was made call by call the parents tell which calls are reached, and its
  classes are spelled in the order of their making. -/
  recorded : ∀ handles, Forest.Made handles forest →
    forest.classes.Pairwise (· < ·) ∧
      ∀ call, forest.Reaches call ↔ forest.StandsInFunction call

/-- **One program is refused or makes its own document**, whatever stands there. -/
theorem rendered (language : Language) (settings : Settings) (contents : String)
    (forest : Forest) (embed : Bool) :
    Rendered ⟨.program language settings, contents⟩ forest embed := by
  have alike (language' : Language) (settings' : Settings) (contents' : String) (flag : Bool) :
      ((Renderer.mk (.program language' settings') contents').render forest flag).1 =
        ((Renderer.mk (.program language settings) contents).render forest embed).1 := by
    rw [render_fst, render_fst]
  have recorded (handles : List Handle) (made : Forest.Made handles forest) :
      forest.classes.Pairwise (· < ·) ∧
        ∀ call, forest.Reaches call ↔ forest.StandsInFunction call :=
    ⟨made.rooted.increasing.1.filter _, made.reaches_iff⟩
  obtain ⟨binding, first, refused⟩ | ⟨none, text, spelt⟩ :=
    render_cases language settings forest embed
  · refine ⟨?_, ?_, ?_, alike, recorded⟩
    · have faulty := List.ne_nil_of_mem (List.mem_of_head? first)
      exact iff_of_true ⟨_, by rw [refused]⟩ (Forest.dangling_ne_nil_iff.1 faulty)
    · intro failure failed
      rw [refused] at failed ⊢
      cases failed
      exact ⟨rfl, binding, first, rfl⟩
    · intro succeeded
      rw [refused] at succeeded
      cases succeeded
  · refine ⟨?_, ?_, ?_, alike, recorded⟩
    · refine iff_of_false ?_ ?_
      · rintro ⟨failure, failed⟩
        rw [spelt] at failed
        cases failed
      · intro reached
        exact Forest.dangling_ne_nil_iff.2 reached none
    · intro failure failed
      rw [spelt] at failed
      cases failed
    · intro _
      rw [spelt, ofStyle, spelt]

/-- **A program is refused exactly for a call that points at no function, and then nothing
changes**, after any course of programs; the document before it is the last that was made. -/
theorem rendered_after (language : Language) (settings : Settings) (past : List Job)
    (forest : Forest) (embed : Bool) :
    let style := Style.program language settings
    let before := (ofStyle style).renderAll past
    Rendered before forest embed ∧
      before = ⟨style, (past.filterMap (text? style)).getLastD ""⟩ := by
  intro style before
  have run : before = ⟨style, (past.filterMap (text? style)).getLastD ""⟩ :=
    renderAll_eq style "" past
  refine ⟨?_, run⟩
  rw [run]
  exact rendered language settings _ forest embed

/-- A class whose entry point calls an array, and a function, made later, that calls no node. -/
def misdirected : Forest :=
  Forest.ofBuilders [.classBody "A", .main 0, .array 0 "W" [], .call 1 (.node 2) "T" "late",
    .function 0 "f", .call 4 (.node 9) "T" "early"]

/-- The function is written before the entry point, so its call is the one that is told. -/
theorem rendered_after_misdirected :
    let before := (ofStyle (.program .java .standard)).renderAll [(misdirected, true)]
    before.render misdirected false = (.error (.invalidCallTarget "early"), before) := by
  intro before
  obtain ⟨rendered, -⟩ := rendered_after .java .standard [(misdirected, true)] misdirected false
  have reached : misdirected.Reaches 3 := ⟨0, by decide, 1, by decide, by decide, by decide⟩
  have dangles : misdirected.Dangles 3 "late" := by
    refine ⟨2, "T", by decide, fun construct found => ?_⟩
    obtain rfl := Option.some.inj found
    rfl
  obtain ⟨failure, failed⟩ := rendered.refused.2 ⟨3, "late", reached, dangles⟩
  obtain ⟨kept, binding, first, rfl⟩ := rendered.told failure failed
  have blamed : misdirected.dangling.head? = some "early" := by decide
  obtain rfl := Option.some.inj (blamed.symm.trans first)
  exact Prod.ext failed kept

end Renderer

end ModelExport
