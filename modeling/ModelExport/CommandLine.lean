/-
# ModelExport.CommandLine — carrying out a command line

A command is carried out in two steps. The response to it needs only to read
files, and is a text to print, a document to write, or a failure. Then it takes
effect: nothing is printed or written unless the whole document was made. How a
document is written is left to a function that tells the files afterwards.
-/
import ModelExport.CommandLine.Arguments
import ModelExport.Session

set_option autoImplicit false

namespace ModelExport.CommandLine

/-- What a command asks to be done in the end. -/
inductive Response where
  | print (text : String)
  | write (path : Path) (document : String)
  | fail (failure : Failure)

/-- Print a document, or write it to a file. -/
def Response.emit (document : String) : Option Path → Response
  | none => .print document
  | some path => .write path document

/-- The line that describes a target. -/
def targetLine (target : Target) : Option String := do
  let family ← target.family?
  let aliases :=
    if target.aliases = [] then ""
    else " (aliases: " ++ ", ".intercalate target.aliases ++ ")"
  some (padded 12 target.name ++ " " ++ padded 8 family.name ++ " ." ++
    padded 5 (target.extension?.getD "") ++ " " ++ target.description ++ aliases ++ "\n")

/-- The list of targets that have documents. -/
def targetList : String := String.join (Target.all.filterMap targetLine)

/-- The document of a session after its one step. -/
def finished (step : Outcome × Session) (output : Option Path) : Response :=
  match step with
  | (.ok (), session) => .emit session.document output
  | (.error failure, _) => .fail failure

/-- The response to a command, given how files are read. -/
def respond (stamp : Stamp) (read : Path → Except IoError String) : Invocation → Response
  | .generate target model? data? embed className? output? =>
      let settings :=
        match className? with
        | some name => Settings.standard.withClassName name
        | none => Settings.standard
      match Session.start target stamp settings with
      | .error failure => .fail failure
      | .ok session =>
          finished ((session.setEmbed embed).generate (.ofRead read) model? data?) output?
  | .analyst target path embed output? =>
      match Analyst.load read path with
      | .error error => .fail (.analyst error)
      | .ok script =>
          match Session.start target stamp .standard with
          | .error failure => .fail failure
          | .ok session =>
              finished ((session.setEmbed embed).generateFromAnalyst (.ofRead read) script) output?
  | .targets => .print targetList

/-- The files that a command reads, as far as the files read so far tell. -/
def inputFiles (read : Path → Except IoError String) : Invocation → List Path
  | .generate _ model? data? embed _ _ => if embed then model?.toList ++ data?.toList else []
  | .analyst _ path embed _ =>
      path ::
        match (Analyst.load read path).mapError Failure.analyst >>= Session.configuredFiles with
        | .ok (model?, data?) => if embed then model?.toList ++ data?.toList else []
        | .error _ => []
  | .targets => []

/-- What a run leaves behind beside files. -/
structure Result where
  exitCode : Nat
  /-- Standard output. -/
  output : String
  /-- Standard error. -/
  report : String
deriving DecidableEq

/-- How a failure is reported: its code first. -/
def reportOf (failure : Failure) : String :=
  let help :=
    match failure.help? with
    | some text => "  help: " ++ text ++ "\n"
    | none => ""
  failure.code ++ "\n\n  × " ++ failure.message ++ "\n" ++ help

/-- The result of a failure. -/
def Result.ofFailure (failure : Failure) : Result := ⟨1, "", reportOf failure⟩

/-- Carry out a command on a file map, given how documents are written. -/
def executeBy (write : Writing) (stamp : Stamp) (files : FileMap) (invocation : Invocation) :
    Result × FileMap :=
  match respond stamp files.read invocation with
  | .print text => (⟨0, text, ""⟩, files)
  | .fail failure => (.ofFailure failure, files)
  | .write path document =>
      match write files path document with
      | (.ok (), written) => (⟨0, "", ""⟩, written)
      | (.error error, left) => (.ofFailure (.write path error), left)

/-- Carry out a command on a file map. -/
def execute : Stamp → FileMap → Invocation → Result × FileMap := executeBy FileMap.store

/-- The result of a command line that is not carried out. -/
def Result.ofUsage (error : UsageError) : Result :=
  if error.isAnswer then ⟨0, error.printed, ""⟩ else ⟨2, "", error.printed⟩

/-- Carry out a command line on a file map. -/
def run (stamp : Stamp) (files : FileMap) (arguments : List String) : Result × FileMap :=
  match parse arguments with
  | .error error => (.ofUsage error, files)
  | .ok invocation => execute stamp files invocation

end ModelExport.CommandLine
