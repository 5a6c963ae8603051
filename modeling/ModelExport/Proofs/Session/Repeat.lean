/-
# ModelExport.Proofs.Session.Repeat — the documents of repeated generations

Generating again and again on one session adds block to block. What a call checks
and adds depends on the settings of the session and not on what was made before
(`Alike`), so a session that `Continues` a new one adds at every call the block
that the new one makes of it. The document of the last call is then put together
from those of new sessions: all comments, the prologue once, all classes
(`documents_compose`).
-/
import ModelExport.Proofs.Document.Append
import ModelExport.Proofs.Session.Contract
import ModelExport.Proofs.Session.Links

set_option autoImplicit false

namespace ModelExport

/-! ## What programs add up to -/

/-- What is read off one program after another is what is read off the two. -/
structure Document.Additive (read : Document → String) : Prop where
  empty : ∀ document : Document, read (document.on .empty) = ""
  append : ∀ (document : Document) {forest other : Forest}, forest.Closed → other.Closed →
    read (document.on (forest.append other)) =
      read (document.on forest) ++ read (document.on other)

theorem Document.headerText_additive : Additive headerText :=
  ⟨fun _ => rfl, headerText_append⟩

theorem Document.classesText_additive : Additive classesText :=
  ⟨fun _ => rfl, classesText_append⟩

namespace Session

/-- The session after a generation for a model file and a training file, or why it failed. -/
def generating (loaders : Loaders) (session : Session) (files : Option Path × Option Path) :
    Except Failure Session :=
  match session.generate loaders files.1 files.2 with
  | (.ok (), after) => .ok after
  | (.error failure, _) => .error failure

/-- Nothing is read off a session that has generated nothing. -/
theorem read_new {read : Document → String}
    (additive : Document.Additive read) {fresh : Session} (new : fresh.program = .empty)
    (language : Language) (settings : Settings) :
    read (fresh.spelled language settings) = "" := by
  rw [spelled, new]
  exact additive.empty (fresh.spelled language settings)

/-- What is read off a session that has grown by a block. -/
theorem read_grown {read : Document → String} (additive : Document.Additive read)
    {session : Session} (closed : session.program.Closed) (block : Block) (text : String)
    (language : Language) (settings : Settings) :
    read ((session.grown block text).spelled language settings) =
      read (session.spelled language settings) ++
        read ((session.spelled language settings).on block.forest) :=
  additive.append (session.spelled language settings) closed block.forest_closed

/-- Two sessions have the same settings, whatever they have generated. -/
structure Alike (session other : Session) : Prop where
  stamp : session.stamp = other.stamp
  className : session.className = other.className
  embed : session.embed = other.embed
  style : session.renderer.style = other.renderer.style

namespace Alike

variable {session other : Session} (alike : Alike session other)
include alike

theorem checks_eq (loaders : Loaders) (model? data? : Option Path) :
    session.checks loaders model? data? = other.checks loaders model? data? := by
  have family : session.renderer.family = other.renderer.family :=
    congrArg Style.family alike.style
  simp only [checks, Renderer.expect, family, alike.embed]

theorem nextBlock_eq (loaders : Loaders) (model? data? : Option Path) :
    session.nextBlock loaders model? data? = other.nextBlock loaders model? data? := by
  simp only [nextBlock, generation, alike.stamp, alike.className, alike.embed, alike.style]

theorem on_eq (language : Language) (settings : Settings) (forest : Forest) :
    (session.spelled language settings).on forest =
      (other.spelled language settings).on forest := by
  simp only [spelled, Document.on, alike.embed]

end Alike

/-! ## One call -/

variable {language : Language} {settings : Settings} {loaders : Loaders}
variable {session : Session} {files : Option Path × Option Path}

/-- A call that passes the checks adds its block, and its document is the reference of the
program. -/
theorem generating_of_checks (spells : session.renderer.style = .program language settings)
    (callable : session.program.Callable)
    (passed : firstFailure (session.checks loaders files.1 files.2) = .ok ()) :
    ∃ text, generating loaders session files =
        .ok (session.grown (session.nextBlock loaders files.1 files.2) text) ∧
      text = ((session.grown (session.nextBlock loaders files.1 files.2) text).spelled
        language settings).reference := by
  obtain ⟨failure, -, failed, -⟩ | ⟨text, -, -, -, spelt, generated⟩ :=
    generate_cases callable loaders files.1 files.2
  · rw [passed] at failed
    cases failed
  · refine ⟨text, by rw [generating, generated], ?_⟩
    rw [Renderer.spell, spells] at spelt
    exact Document.text_eq_reference _ spelt

theorem checks_of_generating (callable : session.program.Callable) {after : Session}
    (generated : generating loaders session files = .ok after) :
    firstFailure (session.checks loaders files.1 files.2) = .ok () := by
  obtain ⟨failure, failed, -, -⟩ | ⟨text, -, passed, -, -, -⟩ :=
    generate_cases callable loaders files.1 files.2
  · rw [generating, failed] at generated
    cases generated
  · exact passed

/-- A session that goes on with the settings of a new one. -/
structure Continues (session fresh : Session) : Prop extends Alike session fresh where
  callable : session.program.Callable
  closed : session.program.Closed

namespace Continues

variable {fresh : Session}

theorem refl (new : fresh.program = .empty) : Continues fresh fresh :=
  { stamp := rfl, className := rfl, embed := rfl, style := rfl
    callable := new ▸ Forest.empty_callable
    closed := new ▸ Forest.empty_closed }

theorem grown (continues : Continues session fresh) (block : Block) (text : String) :
    Continues (session.grown block text) fresh :=
  { stamp := continues.stamp, className := continues.className, embed := continues.embed
    style := continues.style
    callable := Forest.append_callable continues.callable block.forest_callable
    closed := Forest.append_closed continues.closed block.forest_closed }

/-- **A call adds what it makes on the new session.** -/
theorem generating (continues : Continues session fresh) (new : fresh.program = .empty)
    (spells : fresh.renderer.style = .program language settings) {after : Session}
    (generated : session.generating loaders files = .ok after) :
    Continues after fresh ∧ after.document = (after.spelled language settings).reference ∧
      ∃ single, fresh.generating loaders files = .ok single ∧
        single.document = (single.spelled language settings).reference ∧
        ∀ {read : Document → String}, Document.Additive read →
          read (after.spelled language settings) = read (session.spelled language settings) ++
            read (single.spelled language settings) := by
  have passed := checks_of_generating continues.callable generated
  have alone : firstFailure (fresh.checks loaders files.1 files.2) = .ok () := by
    rw [← continues.checks_eq]
    exact passed
  have blank : Continues fresh fresh := .refl new
  obtain ⟨text, made, document⟩ :=
    generating_of_checks (continues.style.trans spells) continues.callable passed
  obtain ⟨own, single, reference⟩ := generating_of_checks spells blank.callable alone
  obtain rfl := Except.ok.inj (made.symm.trans generated)
  refine ⟨continues.grown _ text, document, _, single, reference, ?_⟩
  intro read additive
  -- both sessions gain the same block, one behind its program and one behind nothing
  have behind := read_grown additive continues.closed
    (session.nextBlock loaders files.1 files.2) text language settings
  have first := read_grown additive blank.closed (fresh.nextBlock loaders files.1 files.2) own
    language settings
  rw [read_new additive new, String.empty_append] at first
  rw [behind, continues.on_eq, continues.nextBlock_eq, ← first]

/-- Calls that would each pass the checks of the new session succeed one after the other. -/
theorem foldlM_of_checks (continues : Continues session fresh)
    (spells : fresh.renderer.style = .program language settings)
    {calls : List (Option Path × Option Path)}
    (passed : ∀ call ∈ calls, firstFailure (fresh.checks loaders call.1 call.2) = .ok ()) :
    ∃ last, calls.foldlM (Session.generating loaders) session = .ok last := by
  induction calls generalizing session with
  | nil => exact ⟨session, rfl⟩
  | cons call rest ih =>
      obtain ⟨first, others⟩ := List.forall_mem_cons.1 passed
      rw [← continues.checks_eq] at first
      obtain ⟨text, made, -⟩ :=
        generating_of_checks (continues.style.trans spells) continues.callable first
      obtain ⟨last, generated⟩ := ih (continues.grown _ text) others
      exact ⟨last, by rw [List.foldlM_cons, made, ok_bind, generated]⟩

/-- **So do calls one after the other.** -/
theorem foldlM_generating (continues : Continues session fresh) (new : fresh.program = .empty)
    (spells : fresh.renderer.style = .program language settings)
    {calls : List (Option Path × Option Path)} {last : Session}
    (generated : calls.foldlM (Session.generating loaders) session = .ok last) :
    (calls ≠ [] → last.document = (last.spelled language settings).reference) ∧
      ∃ singles, calls.mapM (fresh.generating loaders) = .ok singles ∧
        (∀ single ∈ singles, single.document = (single.spelled language settings).reference) ∧
        ∀ {read : Document → String}, Document.Additive read →
          read (last.spelled language settings) = read (session.spelled language settings) ++
            String.join (singles.map fun single => read (single.spelled language settings)) := by
  induction calls generalizing session with
  | nil =>
      obtain rfl := Except.ok.inj generated
      refine ⟨fun none => absurd rfl none, [], rfl, List.forall_mem_nil _, ?_⟩
      intro read _
      exact String.append_empty.symm
  | cons call rest ih =>
      obtain ⟨after, first, others⟩ := bind_eq_ok.1 generated
      obtain ⟨next, document, single, alone, reference, adds⟩ :=
        continues.generating new spells first
      obtain ⟨final, singles, all, references, sums⟩ := ih next others
      refine ⟨?_, single :: singles, ?_, List.forall_mem_cons.2 ⟨reference, references⟩, ?_⟩
      · intro _
        cases rest with
        | nil =>
            obtain rfl := Except.ok.inj others
            exact document
        | cons later more => exact final (List.cons_ne_nil later more)
      · simp only [List.mapM_cons, alone, ok_bind, all, pure_eq_ok]
      · intro read additive
        rw [sums additive, adds additive, List.map_cons, String.join_cons, String.append_assoc]

end Continues

/-! ## Repeated generations -/

/-- **The documents of repeated generations compose.** Each call would succeed on a new session
with the same settings and make a document of three parts: its comments, the prologue, its class.
The session on which all calls are made has, in the end, the comments of all these documents, the
prologue once, and the classes of all of them. -/
theorem documents_compose {target : Target} {stamp : Stamp} {settings : Settings} {first : Session}
    (started : start target stamp settings = .ok first)
    (programs : target.family? = some .program) (name : String) (embed : Bool)
    {calls : List (Option Path × Option Path)} (some_call : calls ≠ []) {last : Session}
    (generated : calls.foldlM (generating loaders) ((first.withClassName name).setEmbed embed) =
      .ok last) :
    ∃ language singles,
      let prologue := (first.spelled language settings).prologueText
      Style.ofTarget target settings = .ok (.program language settings) ∧
      calls.mapM (((first.withClassName name).setEmbed embed).generating loaders) = .ok singles ∧
      (∀ single ∈ singles, single.document = (single.spelled language settings).headerText ++
        prologue ++ (single.spelled language settings).classesText) ∧
      last.document =
        String.join (singles.map fun single => (single.spelled language settings).headerText) ++
          prologue ++
          String.join (singles.map fun single =>
            (single.spelled language settings).classesText) := by
  obtain ⟨style, chosen, sound⟩ := Observed.start_sound started
  obtain ⟨language, rfl⟩ := program_of_ofTarget chosen programs
  let fresh := (first.withClassName name).setEmbed embed
  have new : fresh.program = .empty := sound.program
  have spells : fresh.renderer.style = .program language settings := sound.keeps
  obtain ⟨document, singles, all, references, sums⟩ :=
    (Continues.refl new).foldlM_generating new spells generated
  have headers := sums Document.headerText_additive
  have classes := sums Document.classesText_additive
  rw [read_new Document.headerText_additive new, String.empty_append] at headers
  rw [read_new Document.classesText_additive new, String.empty_append] at classes
  refine ⟨language, singles, chosen, all, references, ?_⟩
  rw [document some_call, Document.reference_eq, headers, classes]
  rfl

theorem documents_compose_java :
    let fresh := (Observed.newJava.withClassName "Trained").setEmbed true
    let calls := [(none, some (Path.mk "rows.csv")), (none, none)]
    start .java (.current "today") .standard = .ok Observed.newJava ∧
      Target.java.family? = some .program ∧ calls ≠ [] ∧
      ∃ last, calls.foldlM (generating Observed.unencodable) fresh = .ok last ∧
        ∃ language singles, Style.ofTarget .java .standard = .ok (.program language .standard) ∧
          calls.mapM (fresh.generating Observed.unencodable) = .ok singles ∧
          last.document =
            String.join (singles.map fun single =>
                (single.spelled language .standard).headerText) ++
              (Observed.newJava.spelled language .standard).prologueText ++
              String.join (singles.map fun single =>
                (single.spelled language .standard).classesText) := by
  intro fresh calls
  have started : start .java (.current "today") .standard = .ok Observed.newJava := rfl
  have some_call : calls ≠ [] := List.cons_ne_nil _ _
  have passed : ∀ call ∈ calls,
      firstFailure (fresh.checks Observed.unencodable call.1 call.2) = .ok () :=
    List.forall_mem_cons.2 ⟨rfl, List.forall_mem_singleton.2 rfl⟩
  have new : fresh.program = .empty := rfl
  have spells : fresh.renderer.style = .program .java .standard := rfl
  obtain ⟨last, generated⟩ := (Continues.refl new).foldlM_of_checks spells passed
  obtain ⟨language, singles, chosen, all, -, composed⟩ :=
    documents_compose started rfl "Trained" true some_call generated
  exact ⟨started, rfl, some_call, last, generated, language, singles, chosen, all, composed⟩

end Session

end ModelExport
