/-
# ModelExport.Proofs.Session.Contract — what a session promises

Two promises hold of a session after any course of operations. Whatever happens
next, it happens as a whole: a failure is the first check that fails and leaves
everything as it was, and the document is always that of the present program
(`run_lawful`). And the program is no more and no less than the blocks of the
successful generations in their order (`program_eq_blocks`).
-/
import ModelExport.Proofs.Session.Run

set_option autoImplicit false

namespace ModelExport

theorem firstFailure_eq_ok {checks : List Outcome} :
    firstFailure checks = .ok () ↔ ∀ check ∈ checks, check = .ok () := by
  induction checks with
  | nil => exact iff_of_true rfl (List.forall_mem_nil _)
  | cons check rest ih =>
      rw [List.forall_mem_cons]
      cases check with
      | error failure => exact iff_of_false nofun fun all => nomatch all.1
      | ok => exact ih.trans (and_iff_right rfl).symm

/-- The style of a target is of the target's family. -/
theorem family_of_ofTarget {target : Target} {settings : Settings} {style : Style}
    (chosen : Style.ofTarget target settings = .ok style) : target.family? = some style.family := by
  cases target <;> cases chosen <;> rfl

/-- A target of programs has a language, in which it spells with the given settings. -/
theorem program_of_ofTarget {target : Target} {settings : Settings} {style : Style}
    (chosen : Style.ofTarget target settings = .ok style)
    (programs : target.family? = some .program) :
    ∃ language, style = .program language settings := by
  cases target <;> cases chosen <;> first | exact ⟨_, rfl⟩ | cases programs

/-- A target of programs lets its entry point load training rows, unless it is JavaScript. -/
theorem separatesTraining_of_ofTarget {target : Target} {settings : Settings} {style : Style}
    (chosen : Style.ofTarget target settings = .ok style)
    (spells : target.family? = some .program) :
    style.separatesTraining = (target != .javascript) := by
  cases target <;> cases chosen <;> first | rfl | cases spells

/-- The renderer that a session starts with. -/
theorem ofTarget_of_ofTarget {target : Target} {settings : Settings} {style : Style}
    (chosen : Style.ofTarget target settings = .ok style) :
    Renderer.ofTarget target settings = .ok (.ofStyle style) := by
  rw [Renderer.ofTarget, chosen, map_ok]

/-- The program of a session as it is spelled in a language. -/
def Session.spelled (session : Session) (language : Language) (settings : Settings) : Document :=
  ⟨language, settings.indentWidth, settings.valuesPerLine, session.embed, session.program⟩

/-- The failure of an operation tells that it changed nothing, and never that a call points at
nothing. -/
theorem Session.Change.of_failure {session : Session} {operation : Operation}
    (change : session.Change operation) {failure : Failure}
    (failed : (session.step operation).1 = .error failure) :
    (session.step operation).2 = session ∧ ∀ binding, failure ≠ .invalidCallTarget binding := by
  cases change with
  | failed other found stepped =>
      rw [stepped] at failed ⊢
      obtain rfl : other = failure := Except.error.inj failed
      exact ⟨rfl, found⟩
  | set embed name stamp quiet stepped => rw [stepped] at failed; cases failed
  | grew generation text spells loud attempted embeds spelt stepped =>
      rw [stepped] at failed; cases failed
  | filled text fills loud apart stepped => rw [stepped] at failed; cases failed

namespace Observed

/-- What may be relied on in a state of a session for a target, and of an operation on it. -/
structure Lawful (target : Target) (settings : Settings) (before : Observed)
    (operation : Operation) : Prop where
  /-- A failure leaves the session exactly as it was. -/
  unchanged : ∀ failure, (before.session.step operation).1 = .error failure →
    (before.session.step operation).2 = before.session
  /-- A generation comes to its first check that fails. -/
  decided : ∀ loaders model? data?, operation = .generate loaders model? data? →
    (before.session.step operation).1 =
      firstFailure (before.session.checks loaders model? data?)
  /-- It succeeds exactly when the target spells programs and, if the session embeds, both files
  load and the model is encodable. -/
  succeeds : ∀ loaders model? data?, operation = .generate loaders model? data? →
    ((before.session.step operation).1 = .ok () ↔
      target.family? = some .program ∧ (before.session.embed = true →
        Session.modelLoads loaders model? = .ok () ∧
        Session.modelEncodable loaders model? = .ok () ∧
        Session.dataLoads loaders data? = .ok ()))
  /-- No call is ever found to point at nothing. -/
  found : ∀ binding, (before.session.step operation).1 ≠ .error (.invalidCallTarget binding)
  /-- A program without its document is never seen. -/
  progress : before.session.progress = if before.succeeded then .rendered else .empty
  /-- There is no document before the first success. -/
  unrendered : before.succeeded = false → before.session.document = ""
  /-- After it the document is what a new renderer makes of the program, embedding as the last
  generation did. -/
  rendered : target.family? = some .program → before.succeeded = true →
    ∃ last fresh, before.generations.getLast? = some last ∧
      Renderer.ofTarget target settings = .ok fresh ∧
      fresh.spell "generate" before.session.program last.embed = .ok before.session.document

/-- **Operations happen as a whole**, in every state that a session can reach. -/
theorem run_lawful {target : Target} {stamp : Stamp} {settings : Settings} {first : Session}
    (started : Session.start target stamp settings = .ok first) (operations : List Operation)
    (operation : Operation) :
    Lawful target settings ((start first).run operations) operation := by
  obtain ⟨style, chosen, new⟩ := start_sound started
  have sound := new.run operations
  generalize (start first).run operations = before at sound
  have change := Session.change_of_step sound.callable operation
  have family : target.family? = some before.session.renderer.family := by
    rw [Renderer.family, sound.keeps]
    exact family_of_ofTarget chosen
  have decided : ∀ loaders model? data?, operation = .generate loaders model? data? →
      (before.session.step operation).1 =
        firstFailure (before.session.checks loaders model? data?) := by
    rintro loaders model? data? rfl
    obtain ⟨failure, stepped, checked, -⟩ | ⟨text, -, checked, -, -, stepped⟩ :=
      Session.generate_cases sound.callable loaders model? data?
    · rw [Session.step, stepped, checked]
    · rw [Session.step, stepped, checked]
  refine ⟨?_, decided, ?_, ?_, sound.progress, sound.empty, ?_⟩
  · exact fun failure failed => (change.of_failure failed).1
  · intro loaders model? data? generates
    rw [decided loaders model? data? generates, firstFailure_eq_ok, Session.checks,
      List.forall_mem_cons, family, Option.some.injEq]
    refine and_congr ?_ ?_
    · unfold Renderer.expect
      split <;> simp_all
    · rw [Session.readChecks]
      cases before.session.embed <;> simp
  · exact fun binding failed => (change.of_failure failed).2 binding rfl
  · intro spells succeeded
    have spells : style.family = .program :=
      Option.some.inj ((family_of_ofTarget chosen).symm.trans spells)
    obtain ⟨last, latest, spelt⟩ := sound.rendered spells succeeded
    refine ⟨last, .ofStyle style, latest, ofTarget_of_ofTarget chosen, ?_⟩
    rw [← spelt, Renderer.spell, Renderer.spell, sound.keeps]
    rfl

/-- A session for Java that has generated nothing. -/
def newJava : Session :=
  ⟨.java, false, "MlgenExample", .ofStyle (.program .java .standard), .empty, .empty,
    .current "today"⟩

/-- Loaders of a model that is not encodable, and of no rows. -/
def unencodable : Loaders :=
  ⟨fun _ => .ok (.supportVectorMachine ⟨0, [], [], ⟨0⟩⟩), fun _ => .ok ⟨[], []⟩⟩

theorem run_lawful_java :
    Session.start .java (.current "today") .standard = .ok newJava ∧
      Lawful .java .standard
        ((start newJava).run [.generate unencodable none none, .setEmbed true])
        (.generate unencodable (some ⟨"m.json"⟩) none) :=
  ⟨rfl, run_lawful rfl _ _⟩

/-- **The program is the blocks of the successful generations, one after the other**, each with its
own payload exactly when it embedded, and with handles of its own nodes. -/
theorem program_eq_blocks {target : Target} {stamp : Stamp} {settings : Settings} {first : Session}
    (started : Session.start target stamp settings = .ok first)
    (spells : target.family? = some .program) (operations : List Operation) :
    let observed := (start first).run operations
    observed.session.program = blocks (target != .javascript) observed.generations ∧
      ∀ generation ∈ observed.generations, generation.Embeds ∧
        (generation.block (target != .javascript)).Linked := by
  intro observed
  obtain ⟨style, chosen, new⟩ := start_sound started
  have sound := new.run operations
  rw [← separatesTraining_of_ofTarget chosen spells]
  exact ⟨sound.program, fun generation member => ⟨sound.embeds generation member, Block.linked _⟩⟩

theorem program_eq_blocks_java :
    let observed := (start newJava).run [.generate unencodable (some ⟨"m.json"⟩) none,
      .setClassName "Second", .setEmbed true, .generate unencodable none (some ⟨"rows.csv"⟩)]
    Session.start .java (.current "today") .standard = .ok newJava ∧
      Target.java.family? = some .program ∧ observed.generations.length = 2 ∧
      observed.session.program = blocks true observed.generations := by
  have started : Session.start .java (.current "today") .standard = .ok newJava := rfl
  exact ⟨started, rfl, rfl, (program_eq_blocks started rfl _).1⟩

end Observed

end ModelExport
