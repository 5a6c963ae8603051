/-
# ModelExport.Proofs.CommandLine.Execute — what a command leaves behind

A command makes a document or is refused (`renders_or_refused`), and what it makes
does not depend on where it goes. So carrying it out has four ends (`Execution`): it
is refused, it prints its document, or it writes it to a file, which works or does
not. Files change in one case only, and then one file holds what would have been
printed, whichever `Writer` writes it. The exit code tells which case it was
(`execute_clean`).
-/
import ModelExport.CommandLine
import ModelExport.Proofs.FileMap.Write
import ModelExport.Proofs.Session.Supplies

set_option autoImplicit false

namespace ModelExport.CommandLine

/-- The path that a command writes its document to. -/
def Invocation.output? : Invocation → Option Path
  | .generate _ _ _ _ _ output? => output?
  | .analyst _ _ _ output? => output?
  | .targets => none

/-- The command that prints instead. -/
def Invocation.printing : Invocation → Invocation
  | .generate target model? data? embed className? _ =>
      .generate target model? data? embed className? none
  | .analyst target path embed _ => .analyst target path embed none
  | .targets => .targets

/-- The settings that name a class. -/
def settingsOf : Option String → Settings
  | some name => Settings.standard.withClassName name
  | none => .standard

/-- What the files that a command names have to be for it. -/
def Feasible (files : FileMap) : Invocation → Prop
  | .generate target model? data? embed _ _ =>
      target.family? = some .program ∧
        (embed = true → (Loaders.ofRead files.read).Supplies model? data?)
  | .analyst target path embed _ =>
      ∃ family script, target.family? = some family ∧
        Analyst.load files.read path = .ok script ∧ script.Defines ∧
        (family = .program → embed = true → ∀ model? data?,
          Session.configuredFiles script = .ok (model?, data?) →
            (Loaders.ofRead files.read).Supplies model? data?)
  | .targets => True

/-- A command makes a document: a new session for its target generates, and has it then. -/
inductive Renders (stamp : Stamp) (files : FileMap) : Invocation → String → Prop where
  | generate {target : Target} {model? data? : Option Path} {embed : Bool}
      {className? : Option String} {output? : Option Path} {first last : Session}
      (started : Session.start target stamp (settingsOf className?) = .ok first)
      (generated : (first.setEmbed embed).generate (.ofRead files.read) model? data? =
        (.ok (), last)) :
      Renders stamp files (.generate target model? data? embed className? output?) last.document
  | analyst {target : Target} {path : Path} {embed : Bool} {output? : Option Path}
      {script : Analyst} {first last : Session}
      (loaded : Analyst.load files.read path = .ok script)
      (started : Session.start target stamp .standard = .ok first)
      (generated : (first.setEmbed embed).generateFromAnalyst (.ofRead files.read) script =
        (.ok (), last)) :
      Renders stamp files (.analyst target path embed output?) last.document
  | targets : Renders stamp files .targets targetList

variable {stamp : Stamp} {files : FileMap} {invocation : Invocation} {text : String}

/-! ## Responses -/

theorem respond_generate (stamp : Stamp) (read : Path → Except IoError String) (target : Target)
    (model? data? : Option Path) (embed : Bool) (className? : Option String)
    (output? : Option Path) :
    respond stamp read (.generate target model? data? embed className? output?) =
      match Session.start target stamp (settingsOf className?) with
      | .error failure => .fail failure
      | .ok session =>
          finished ((session.setEmbed embed).generate (.ofRead read) model? data?) output? := by
  cases className? <;> rfl

theorem Response.emit_inj {other : String} {output? : Option Path}
    (same : emit text output? = emit other output?) : text = other := by
  cases output? with
  | none => exact Response.print.inj same
  | some path => exact (Response.write.inj same).2

theorem Response.emit_ne_fail {failure : Failure} {output? : Option Path} :
    emit text output? ≠ .fail failure := by
  cases output? <;> nofun

/-- **A command that makes a document responds with it.** -/
theorem Renders.respond_eq (renders : Renders stamp files invocation text) :
    respond stamp files.read invocation = .emit text invocation.output? := by
  cases renders with
  | generate started generated => simp only [respond_generate, started, generated]; rfl
  | analyst loaded started generated => simp only [respond, loaded, started, generated]; rfl
  | targets => rfl

/-- It makes one document only. -/
theorem Renders.unique {other : String} (renders : Renders stamp files invocation text)
    (again : Renders stamp files invocation other) : text = other :=
  Response.emit_inj (renders.respond_eq.symm.trans again.respond_eq)

/-- The document is the same where it is printed. -/
theorem Renders.printing (renders : Renders stamp files invocation text) :
    Renders stamp files invocation.printing text := by
  cases renders with
  | generate started generated => exact .generate started generated
  | analyst loaded started generated => exact .analyst loaded started generated
  | targets => exact .targets

theorem Invocation.output?_printing (invocation : Invocation) :
    invocation.printing.output? = none := by
  cases invocation <;> rfl

/-- A generation that ends makes a document or fails. -/
theorem finished_cases (step : Outcome × Session) (output? : Option Path) :
    (∃ failure, finished step output? = .fail failure) ∨ ∃ last, step = (.ok (), last) := by
  obtain ⟨_ | ⟨⟨⟩⟩, last⟩ := step
  · exact .inl ⟨_, rfl⟩
  · exact .inr ⟨last, rfl⟩

/-- **A command makes a document or is refused.** -/
theorem renders_or_refused (stamp : Stamp) (files : FileMap) (invocation : Invocation) :
    (∃ text, Renders stamp files invocation text) ∨
      ∃ failure, respond stamp files.read invocation = .fail failure := by
  cases invocation with
  | generate target model? data? embed className? output? =>
      rw [respond_generate]
      cases started : Session.start target stamp (settingsOf className?) with
      | error failure => exact .inr ⟨failure, rfl⟩
      | ok first =>
          refine (finished_cases _ output?).symm.imp_left ?_
          rintro ⟨last, generated⟩
          exact ⟨_, .generate started generated⟩
  | analyst target path embed output? =>
      rw [respond]
      cases loaded : Analyst.load files.read path with
      | error error => exact .inr ⟨.analyst error, rfl⟩
      | ok script =>
          cases started : Session.start target stamp .standard with
          | error failure => exact .inr ⟨failure, rfl⟩
          | ok first =>
              refine (finished_cases _ output?).symm.imp_left ?_
              rintro ⟨last, generated⟩
              exact ⟨_, .analyst loaded started generated⟩
  | targets => exact .inl ⟨_, .targets⟩

/-! ## When there is a document -/

/-- **A command makes a document exactly when all that it needs is there.** -/
theorem exists_renders (stamp : Stamp) (files : FileMap) (invocation : Invocation) :
    (∃ text, Renders stamp files invocation text) ↔ Feasible files invocation := by
  cases invocation with
  | generate target model? data? embed className? output? =>
      constructor
      · rintro ⟨text, renders⟩
        cases renders with
        | generate started generated =>
            exact (Session.exists_generate_of_start started embed).1 ⟨_, generated⟩
      · intro needs
        obtain ⟨first, started⟩ :=
          (Session.exists_start target stamp (settingsOf className?)).2 ⟨_, needs.1⟩
        obtain ⟨last, generated⟩ := (Session.exists_generate_of_start started embed).2 needs
        exact ⟨_, .generate started generated⟩
  | analyst target path embed output? =>
      constructor
      · rintro ⟨text, renders⟩
        cases renders with
        | @analyst _ _ _ _ script first last loaded started generated =>
            have family := (Session.new_of_start started).1
            obtain ⟨defines, supplies⟩ :=
              (Session.exists_generateFromAnalyst_of_start started embed script).1 ⟨_, generated⟩
            rw [family, Option.some.injEq] at supplies
            exact ⟨_, script, family, loaded, defines, supplies⟩
      · rintro ⟨family, script, known, loaded, defines, supplies⟩
        obtain ⟨first, started⟩ := (Session.exists_start target stamp .standard).2 ⟨family, known⟩
        obtain ⟨last, generated⟩ :=
          (Session.exists_generateFromAnalyst_of_start started embed script).2
            ⟨defines, by rwa [known, Option.some.injEq]⟩
        exact ⟨_, .analyst loaded started generated⟩
  | targets => exact iff_of_true ⟨_, .targets⟩ trivial

/-! ## Effects -/

variable {write : Writing}

/-- How a command is carried out. -/
inductive Execution (write : Writing) (stamp : Stamp) (files : FileMap) (invocation : Invocation) :
    Prop where
  | refused (failure : Failure)
      (none : ∀ text, ¬ Renders stamp files invocation text)
      (executed : executeBy write stamp files invocation = (.ofFailure failure, files))
  | printed (text : String) (renders : Renders stamp files invocation text)
      (prints : invocation.output? = none)
      (executed : executeBy write stamp files invocation = (⟨0, text, ""⟩, files))
  | unwritten (text : String) (path : Path) (error : IoError) (after : FileMap)
      (renders : Renders stamp files invocation text)
      (writes : invocation.output? = some path)
      (failed : write files path text = (.error error, after))
      (executed : executeBy write stamp files invocation = (.ofFailure (.write path error), after))
  | written (text : String) (path : Path) (after : FileMap)
      (renders : Renders stamp files invocation text)
      (writes : invocation.output? = some path)
      (made : write files path text = (.ok (), after))
      (executed : executeBy write stamp files invocation = (⟨0, "", ""⟩, after))

/-- **There are these four ways**, however documents are written. -/
theorem execution (write : Writing) (stamp : Stamp) (files : FileMap) (invocation : Invocation) :
    Execution write stamp files invocation := by
  obtain ⟨text, renders⟩ | ⟨failure, refused⟩ := renders_or_refused stamp files invocation
  · have response := renders.respond_eq
    cases goes : invocation.output? with
    | none =>
        rw [goes] at response
        exact .printed text renders goes (by simp only [executeBy, response, Response.emit])
    | some path =>
        rw [goes] at response
        cases made : write files path text with
        | mk outcome after =>
            cases outcome with
            | error error =>
                refine .unwritten text path error after renders goes made ?_
                simp only [executeBy, response, Response.emit, made]
            | ok done =>
                refine .written text path after renders goes made ?_
                simp only [executeBy, response, Response.emit, made]
  · refine .refused failure (fun text renders => ?_) (by simp only [executeBy, refused])
    exact Response.emit_ne_fail (renders.respond_eq.symm.trans refused)

/-- A command that prints its document prints it whole, and changes no file. -/
theorem Renders.executeBy_printing (renders : Renders stamp files invocation text) :
    executeBy write stamp files invocation.printing = (⟨0, text, ""⟩, files) := by
  have response := renders.printing.respond_eq
  rw [invocation.output?_printing] at response
  simp only [executeBy, response, Response.emit]

/-- What can be relied on when a command was carried out. -/
structure Clean (write : Writing) (stamp : Stamp) (files : FileMap) (invocation : Invocation)
    (result : Result) (after : FileMap) : Prop where
  /-- A command that fails prints nothing and changes no file. -/
  failed : result.exitCode ≠ 0 → result.output = "" ∧ after = files
  /-- One that succeeds prints its document, unless it was told to write it. -/
  printed : result.exitCode = 0 → invocation.output? = none →
    Renders stamp files invocation result.output ∧ after = files
  /-- Then one file holds exactly what would have been printed, whatever was in it, and all others
  are as they were. -/
  written : ∀ path, result.exitCode = 0 → invocation.output? = some path →
    result.output = "" ∧ ∃ text place,
      executeBy write stamp files invocation.printing = (⟨0, text, ""⟩, files) ∧
      files.Names path place ∧ files.Replaced after place text ∧ after.read path = .ok text ∧
      ∀ other, ¬ files.Names other place → ∀ held,
        after.read other = .ok held ↔ files.read other = .ok held
  /-- It succeeds exactly when all that it needs is there and the document can be written. -/
  succeeds : result.exitCode = 0 ↔ Feasible files invocation ∧
    ∀ path text, invocation.output? = some path → Renders stamp files invocation text →
      ∃ more, write files path text = (.ok (), more)
  /-- There is one exit code for all failures. -/
  code : result.exitCode = 0 ∨ result.exitCode = 1

/-- **No command leaves a part of a document behind**, whatever writes it. -/
theorem executeBy_clean (writer : Writer) (stamp : Stamp) (files : FileMap)
    (invocation : Invocation) :
    Clean writer.write stamp files invocation
      (executeBy writer.write stamp files invocation).1
      (executeBy writer.write stamp files invocation).2 := by
  have feasible := exists_renders stamp files invocation
  cases execution writer.write stamp files invocation with
  | refused failure none executed =>
      rw [executed]
      refine ⟨fun _ => ⟨rfl, rfl⟩, nofun, nofun, iff_of_false nofun fun needs => ?_, .inr rfl⟩
      obtain ⟨text, renders⟩ := feasible.2 needs.1
      exact none text renders
  | printed text renders prints executed =>
      rw [executed]
      refine ⟨fun failed => absurd rfl failed, fun _ _ => ⟨renders, rfl⟩, ?_, ?_, .inl rfl⟩
      · intro path _ writes
        rw [prints] at writes
        cases writes
      · refine iff_of_true rfl ⟨feasible.1 ⟨text, renders⟩, fun path other writes => ?_⟩
        rw [prints] at writes
        cases writes
  | unwritten text path error after renders writes failed executed =>
      obtain rfl := writer.keeps failed
      rw [executed]
      refine ⟨fun _ => ⟨rfl, rfl⟩, nofun, nofun, iff_of_false nofun fun needs => ?_, .inr rfl⟩
      obtain ⟨more, made⟩ := needs.2 path text writes renders
      rw [failed] at made
      cases made
  | written text path after renders writes made executed =>
      rw [executed]
      refine ⟨fun failed => absurd rfl failed, ?_, ?_, ?_, .inl rfl⟩
      · intro _ prints
        rw [writes] at prints
        cases prints
      · intro other _ goes
        obtain rfl : path = other := Option.some.inj (writes.symm.trans goes)
        obtain ⟨place, names, replaced⟩ := writer.replaces made
        exact ⟨rfl, text, place, renders.executeBy_printing, names, replaced,
          replaced.read_eq names, fun other apart => replaced.read_iff_of_apart apart⟩
      · refine iff_of_true rfl ⟨feasible.1 ⟨text, renders⟩, fun other again goes rendered => ?_⟩
        obtain rfl : path = other := Option.some.inj (writes.symm.trans goes)
        obtain rfl := renders.unique rendered
        exact ⟨after, made⟩

/-- **No command leaves a part of a document or a stray file behind**, whatever files there are and
whatever writes them; a file map is written so. -/
theorem execute_clean (stamp : Stamp) (files : FileMap) (invocation : Invocation) :
    (∀ writer : Writer, Clean writer.write stamp files invocation
      (executeBy writer.write stamp files invocation).1
      (executeBy writer.write stamp files invocation).2) ∧
    Clean FileMap.store stamp files invocation (execute stamp files invocation).1
      (execute stamp files invocation).2 :=
  ⟨fun writer => executeBy_clean writer stamp files invocation,
    executeBy_clean FileMap.writer stamp files invocation⟩

end ModelExport.CommandLine
