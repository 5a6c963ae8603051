/-
# ModelExport.CommandLine.Arguments — reading the command line

Arguments are read from left to right. The value of a flag stands in the same
argument, after an equals sign or, behind a short name, at once; or it is the
next argument, unless that looks like a flag. A value is judged when the next
flag is met or the arguments end, so a word that nobody asked for is reported
before it. After two dashes nothing is a flag any more.
-/
import ModelExport.CommandLine.Flag
import ModelExport.Path
import ModelExport.Target
import ModelExport.Stamp
import ModelExport.Text.Terminal

set_option autoImplicit false

namespace ModelExport.CommandLine

/-- What the command line asks for. -/
inductive Invocation where
  | generate (target : Target) (model data : Option Path) (embed : Bool)
      (className : Option String) (output : Option Path)
  | analyst (target : Target) (script : Path) (embed : Bool) (output : Option Path)
  | targets
deriving DecidableEq

/-- Why a command line is not carried out. -/
inductive UsageError where
  | help (topic : Topic)
  | version
  /-- No command was given. -/
  | noCommand
  | unknownCommand (name : String)
  | unexpected (argument : String)
  | missingValue (flag : Flag)
  /-- A value came with a flag that takes none. -/
  | unneededValue (flag : Flag) (value : String)
  | unknownTarget (name : String)
  | repeated (flag : Flag)
  | missing (flags : List Flag)
deriving DecidableEq

namespace UsageError

open Text.Terminal (Span)

/-- The names of the targets, with commas between them. -/
def targetNames : String := ", ".intercalate (Target.all.map Target.name)

/-- The end of every message about a wrong command line. -/
def advice : List Span :=
  [.plain "\n\nFor more information, try '", .marked ("--" ++ Flag.help.long), .plain "'.\n"]

/-- The parts of the message. Words of the command line and names of flags are marked; only the
reason against a target repeats its name unmarked. -/
def spans : UsageError → List Span
  | .help topic => [.plain topic.text]
  | .version => [.plain (Stamp.toolName ++ " " ++ Stamp.toolVersion ++ "\n")]
  | .noCommand => [.plain Topic.program.text]
  | .unknownCommand name =>
      [.marked "error:", .plain " unrecognized subcommand '", .marked name, .plain "'"] ++ advice
  | .unexpected argument =>
      [.marked "error:", .plain " unexpected argument '", .marked argument, .plain "' found"] ++
        advice
  | .missingValue flag =>
      [.marked "error:", .plain " a value is required for '", .marked flag.shown,
        .plain "' but none was supplied"] ++ advice
  | .unneededValue flag value =>
      [.marked "error:", .plain " unexpected value '", .marked value, .plain "' for '",
        .marked flag.shown, .plain "' found; no more were expected"] ++ advice
  | .unknownTarget name =>
      [.marked "error:", .plain " invalid value '", .marked name, .plain "' for '",
        .marked Flag.target.shown,
        .plain ("': unknown target `" ++ name ++ "` (expected one of: " ++ targetNames ++ ")")] ++
        advice
  | .repeated flag =>
      [.marked "error:", .plain " the argument '", .marked flag.shown,
        .plain "' cannot be used multiple times"] ++ advice
  | .missing flags =>
      [.marked "error:", .plain " the following required arguments were not provided:"] ++
        (flags.flatMap fun flag => [.plain "\n  ", .marked flag.shown]) ++ advice

/-- The message as a text of its own, without what would steer a terminal. -/
def message (error : UsageError) : String := Text.Terminal.shown .alone error.spans

/-- The message as it is printed on a stream. -/
def printed (error : UsageError) : String := Text.Terminal.shown .stream error.spans

/-- Whether the text was asked for, and so belongs on standard output. -/
def isAnswer : UsageError → Bool
  | .help _ => true
  | .version => true
  | _ => false

end UsageError

/-! ## Single arguments -/

/-- The form of an argument. -/
inductive Form where
  /-- Two dashes. -/
  | separator
  | long (name : String) (value : Option String)
  /-- One dash and letters. -/
  | short (letters : List Char)
  | plain

/-- A long flag after its dashes: its name, and its value after an equals sign. -/
def Form.ofLong (text : List Char) : Form :=
  match text.dropWhile (· != '=') with
  | [] => .long (.ofList text) none
  | _ :: value => .long (.ofList (text.takeWhile (· != '='))) (some (.ofList value))

def Form.ofText : List Char → Form
  | ['-', '-'] => .separator
  | '-' :: '-' :: text => Form.ofLong text
  | '-' :: letter :: letters => .short (letter :: letters)
  | _ => .plain

/-! ## Flags and values -/

/-- The flags that were given, with their values. -/
abbrev Given := List (Flag × String)

/-- Whether a value does for a flag. -/
def judge (flag : Flag) (value : String) : Except UsageError Unit :=
  if flag = .target then
    if (Target.ofName? value).isSome then .ok () else .error (.unknownTarget value)
  else if flag.isPath && value == "" then .error (.missingValue flag)
  else .ok ()

/-- Take a flag with its value. -/
def accept (topic : Topic) (given : Given) (flag : Flag) (value : Option String) :
    Except UsageError Given := do
  if flag.valueName?.isSome && value.isNone then .error (.missingValue flag)
  else if flag = .help then .error (.help topic)
  else if flag = .version then .error .version
  else if (given.lookup flag).isSome then .error (.repeated flag)
  else
    let text := value.getD ""
    judge flag text
    .ok (given ++ [(flag, text)])

/-- What was read so far. -/
structure State where
  given : Given
  /-- The last flag that takes a value from the next argument, and that value once it was read. -/
  pending : Option (Flag × Option String)

namespace State

def start : State := ⟨[], none⟩

/-- Take the pending flag. -/
def settle (topic : Topic) (state : State) : Except UsageError Given :=
  match state.pending with
  | none => .ok state.given
  | some (flag, value) => accept topic state.given flag value

/-- Take the pending flag and then another one. -/
def take (topic : Topic) (state : State) (flag : Flag) (value : Option String) :
    Except UsageError State := do
  let given ← state.settle topic
  .ok ⟨← accept topic given flag value, none⟩

/-- Take the pending flag and wait for the value of another one. -/
def await (topic : Topic) (state : State) (flag : Flag) : Except UsageError State := do
  .ok ⟨← state.settle topic, some (flag, none)⟩

end State

/-- Read a long flag. -/
def readLong (topic : Topic) (flags : List Flag) (state : State) (name : String)
    (value : Option String) : Except UsageError State :=
  match flags.find? fun flag => flag.long == name with
  | none => .error (.unexpected ("--" ++ name))
  | some flag =>
      match flag.valueName?, value with
      | none, some value => .error (.unneededValue flag value)
      | some _, none => state.await topic flag
      | _, value => state.take topic flag value

/-- Read the letters of short flags. The letters after a flag that takes a value are its value. -/
def readShort (topic : Topic) (flags : List Flag) (state : State) :
    List Char → Except UsageError State
  | [] => .ok state
  | letter :: letters =>
      match flags.find? fun flag => flag.short? == some letter with
      | none => .error (.unexpected ("-" ++ String.singleton letter))
      | some flag =>
          match flag.valueName?, letters with
          | none, letters => do readShort topic flags (← state.take topic flag none) letters
          | some _, [] => state.await topic flag
          | some _, '=' :: value => state.take topic flag (some (.ofList value))
          | some _, value => state.take topic flag (some (.ofList value))

/-- Read an argument that is no flag: the value that a flag waits for, if one does. -/
def readPlain (state : State) (text : String) : Except UsageError State :=
  match state.pending with
  | some (flag, none) => .ok { state with pending := some (flag, some text) }
  | _ => .error (.unexpected text)

/-- Read the arguments of a command. -/
def readFlags (topic : Topic) (flags : List Flag) (state : State) :
    List String → Except UsageError Given
  | [] => state.settle topic
  | text :: rest =>
      match Form.ofText text.toList with
      | .separator =>
          match rest with
          | [] => state.settle topic
          | word :: _ => .error (.unexpected word)
      | .long name value => do
          readFlags topic flags (← readLong topic flags state name value) rest
      | .short letters => do
          readFlags topic flags (← readShort topic flags state letters) rest
      | .plain => do readFlags topic flags (← readPlain state text) rest

/-! ## Whole command lines -/

/-- The path that a flag was given. -/
def path? (given : Given) (flag : Flag) : Option Path := (given.lookup flag).map Path.mk

/-- What the flags of a command ask for. -/
def invocation (command : Command) (given : Given) : Except UsageError Invocation :=
  let target? := (given.lookup Flag.target).bind Target.ofName?
  let embed := (given.lookup Flag.embed).isSome
  let missing := command.required.filter fun flag => (given.lookup flag).isNone
  match command, target?, path? given .config with
  | .generate, some target, _ =>
      .ok (.generate target (path? given .model) (path? given .data) embed
        (given.lookup Flag.className) (path? given .output))
  | .analyst, some target, some script =>
      .ok (.analyst target script embed (path? given .output))
  | .targets, _, _ => .ok .targets
  | _, _, _ => .error (.missing missing)

/-- Read the commands that help is asked about. -/
def readHelp : List String → UsageError
  | [] => .help .program
  | name :: rest =>
      match Command.ofName? name, rest with
      | some command, [] => .help (.command command)
      | some _, word :: _ => .unknownCommand word
      | none, [] => if name = helpName then .help .help else .unknownCommand name
      | none, word :: _ => .unknownCommand (if name = helpName then word else name)

/-- Whether a word names a command. -/
def isCommandName (word : String) : Bool := (Command.ofName? word).isSome || word == helpName

/-- Read a command line, without the name of the program. -/
def parse : List String → Except UsageError Invocation
  | [] => .error .noCommand
  | text :: rest =>
      match Command.ofName? text with
      | some command => do
          invocation command (← readFlags (.command command) command.flags .start rest)
      | none =>
          if text = helpName then .error (readHelp rest)
          else
            match Form.ofText text.toList, rest with
            | .separator, [] => .error .noCommand
            | .separator, word :: _ =>
                .error (if isCommandName word then .unexpected word else .unknownCommand word)
            | .plain, _ => .error (.unknownCommand text)
            | _, _ => do
                let _ ← readFlags .program programFlags .start (text :: rest)
                .error .noCommand

end ModelExport.CommandLine
