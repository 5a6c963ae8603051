/-
# ModelExport.Proofs.Document.Nesting — blocks are opened and closed in balance

Along the whole way through a program the level is that of the blocks which are open:
none around comments, imports and classes, one around the members of a class, two
around the statements of a function, and one more around the values of a constant.
So a dedent always has an indent to undo, and a document ends where it began. This
holds up to the fault of a program that cannot be spelled, too, with the blocks
around the bad call left open (`nesting_balanced`).
-/
import ModelExport.Proofs.Document.Fault
import ModelExport.Proofs.Document.Reference
import ModelExport.Proofs.Document.Trace
import ModelExport.Proofs.Layout.Place

set_option autoImplicit false

namespace ModelExport

open Layout

namespace Language

theorem nests_constantTrace (language : Language) (tier : Tier) (dimensions : Nat) (name : String)
    (lines : List String) :
    (language.constantTrace tier dimensions name lines).Nests tier.depth tier.depth := by
  rw [constantTrace]
  split
  · exact Trace.nests_keeping fun level => leads_line level _
  · have opened : ∀ level, Leads level (level + 1)
        (line (language.declaration dimensions name ++ " = " ++ language.initializerStart) ++
          [.indent]) := fun level => (leads_line level _).append (leads_indent level)
    have closed : ∀ level, Leads (level + 1) level ([.dedent] ++ line language.initializerEnd) :=
      fun level => (leads_dedent level).append (leads_line level _)
    have values : (Trace.all ((punctuated lines).map fun text =>
        Trace.part (.values tier) (.does (line text))) : Trace Failure).Nests
          (Tier.values tier).depth (Tier.values tier).depth :=
      Trace.nests_parts _ (fun text level => leads_line level text) _
    exact (Trace.nests_opening opened).all_cons
      (values.all_cons (Trace.nests_closing closed).all_singleton)

end Language

namespace Document

variable (document : Document)

/-! ## From the inside to the outside -/

theorem nests_statementTrace (handle : Handle) :
    (document.statementTrace handle).Nests Tier.statement.depth Tier.statement.depth := by
  rw [statementTrace]
  split
  · exact Trace.nests_part fun level => Language.leads_comment level _
  · exact (document.language.nests_constantTrace _ _ _ _).part
  · refine Trace.Nests.part ?_
    split
    · exact Trace.nests_keeping fun level => document.language.leads_call level _ _ _
    · exact Trace.nests_stops _
  · exact Trace.nests_all_nil

theorem nests_bodyTrace (handle : Handle) :
    (document.bodyTrace handle).Nests Tier.statement.depth Tier.statement.depth :=
  Trace.nests_all (List.forall_mem_map.2 fun child _ => document.nests_statementTrace child)

/-- What stands between the head of a function and its end is statements. -/
theorem nests_functionTrace (arrays : Bool) (handle : Handle) :
    (document.functionTrace arrays handle).Nests Tier.member.depth Tier.member.depth := by
  have body := document.nests_bodyTrace handle
  have closed : (Trace.all [.does Language.closeFunction] : Trace Failure).Nests
      Tier.statement.depth Tier.member.depth :=
    (Trace.nests_closing Language.leads_closeFunction).all_singleton
  have returned (binding : String) : (Trace.part .statement
      (.does (Language.returnValue binding)) : Trace Failure).Nests
        Tier.statement.depth Tier.statement.depth :=
    Trace.nests_part fun level => Language.leads_returnValue level binding
  rw [functionTrace]
  split
  · rename_i name _
    exact (Trace.nests_opening fun level =>
      document.language.leads_openFunction level name none).all_cons (body.all_cons closed)
  · rename_i name file weights _
    have loaded : (Trace.part .statement (.does (document.language.loadModel networkBinding
        Construct.methodType file)) : Trace Failure).Nests
          Tier.statement.depth Tier.statement.depth :=
      Trace.nests_part fun level => document.language.leads_loadModel level _ _ file
    have decoded : (Trace.all ((document.weightsArray? weights).toList.map fun array =>
        Trace.part .statement (.does (document.language.decodeWeights networkBinding array))) :
          Trace Failure).Nests Tier.statement.depth Tier.statement.depth :=
      Trace.nests_parts _ (fun array level =>
        document.language.leads_decodeWeights level networkBinding array) _
    exact (Trace.nests_opening fun level =>
      document.language.leads_openFunction level name _).all_cons
        (loaded.all_cons (decoded.all_cons (body.all_cons ((returned _).all_cons closed))))
  · rename_i file _
    have loaded : (Trace.part .statement (.does (loaderStart document.language file arrays)) :
        Trace Failure).Nests Tier.statement.depth Tier.statement.depth :=
      Trace.nests_part fun level =>
        Member.leads_loaderStart document.language arrays level file
    exact (Trace.nests_opening fun level =>
      document.language.leads_openFunction level _ _).all_cons
        (loaded.all_cons (body.all_cons ((returned _).all_cons closed)))
  · exact Trace.nests_all_nil

theorem nests_memberTrace (arrays : Bool) (handle : Handle) :
    (document.memberTrace arrays handle).Nests Tier.member.depth Tier.member.depth := by
  refine Trace.Nests.part ?_
  split
  · exact document.language.nests_constantTrace _ _ _ _
  · exact (document.language.nests_constantTrace _ _ _ _).all_cons
      (document.language.nests_constantTrace _ _ _ _).all_singleton
  · exact Trace.nests_keeping fun level => Language.leads_comment level _
  · exact (Trace.nests_opening document.language.leads_openMain).all_cons
      ((document.nests_bodyTrace handle).all_cons
        (Trace.nests_closing Language.leads_closeFunction).all_singleton)
  · exact document.nests_functionTrace arrays handle

theorem nests_classTrace (handle : Handle) :
    (document.classTrace handle).Nests Tier.item.depth Tier.item.depth := by
  rw [classTrace]
  split
  · rename_i name _
    refine Trace.Nests.part ?_
    have closed : (Trace.does (document.language.closeClass name) : Trace Failure).Nests
        Tier.member.depth Tier.item.depth :=
      Trace.nests_closing fun level => document.language.leads_closeClass level name
    exact (Trace.nests_opening fun level => document.language.leads_openClass level name).all_cons
      (Trace.Nests.all_cons (Trace.nests_spaced <|
        List.forall_mem_map.2 fun child _ => document.nests_memberTrace _ child)
        closed.all_singleton)
  · exact Trace.nests_all_nil

theorem nests_trace : document.trace.Nests 0 0 := by
  have header : (Trace.all (document.forest.topComments.map fun text =>
      Trace.part .item (.does (Language.comment text))) : Trace Failure).Nests 0 0 :=
    Trace.nests_parts .item (fun text level => Language.leads_comment level text) _
  have prologue : (Trace.part .item (.does document.language.prologue) :
      Trace Failure).Nests Tier.item.depth Tier.item.depth :=
    Trace.nests_part document.language.leads_prologue
  have classes := Trace.nests_all (List.forall_mem_map.2
    fun handle (_ : handle ∈ document.forest.classes) => document.nests_classTrace handle)
  exact header.all_cons (prologue.all_cons classes.all_singleton)

/-! ## Documents -/

/-- **Blocks are nested in balance all the way through a program.** -/
theorem nesting_balanced (document : Document) :
    document.Told ∧
      (∀ front event back, document.trace.events = front ++ event :: back →
        event.Fits (Page.blank.run document.indentWidth (stepsOf front))) ∧
      ∀ page, document.page = .ok page →
        page.level = 0 ∧ page.atLineStart = true ∧ EndsLine page.text := by
  have nests := document.nests_trace
  refine ⟨document.told, ?_, ?_⟩
  · intro front event back cut
    have fit := nests.fit document.indentWidth ""
    rw [cut] at fit
    exact fit.at
  · intro page made
    rw [document.told.page, Trace.outcome] at made
    split at made
    · rename_i ended
      obtain rfl := Except.ok.inj made
      have leads := nests.leads ended
      obtain ⟨level, start⟩ := leads document.indentWidth
      exact ⟨level, start, leads.endsLine document.indentWidth⟩
    · cases made

/-- A class with an array, whose entry point calls the array. -/
def halted : Document :=
  ⟨.java, 4, 8, true, Forest.ofBuilders [.classBody "A", .array 0 "W" [.zero], .main 0,
    .call 2 (.node 1) "T" "y"]⟩

/-- The line of values stands one level further in than the array, and the fault comes inside a
statement, with the class and the function still open. -/
theorem nesting_balanced_halted :
    let values := halted.trace.events.take 15
    let front := halted.trace.events.dropLast
    (halted.trace.events = values ++ .begins (.values .member) :: halted.trace.events.drop 16 ∧
        (Page.blank.run 4 (stepsOf values)).level = 2) ∧
      (halted.trace.events = front ++ [.begins .statement] ∧
        (Page.blank.run 4 (stepsOf front)).level = 2) ∧
      halted.text = .error (.invalidCallTarget "y") := by
  intro values front
  obtain ⟨-, fits, -⟩ := nesting_balanced halted
  have inside : halted.trace.events =
      values ++ .begins (.values .member) :: halted.trace.events.drop 16 := by decide +kernel
  have last : halted.trace.events = front ++ [.begins .statement] := by decide +kernel
  have stopped : halted.text = .error (.invalidCallTarget "y") :=
    text_eq_error_iff.2 ⟨"y", by decide +kernel, rfl⟩
  exact ⟨⟨inside, (fits values _ _ inside).1⟩, ⟨last, (fits front _ [] last).1⟩, stopped⟩

end Document

end ModelExport
