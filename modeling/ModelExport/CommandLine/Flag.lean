/-
# ModelExport.CommandLine.Flag — commands and their flags

Each command has a list of flags, in the order in which its help names them. A
flag has a long name, perhaps a short one, and perhaps takes a value.
-/

set_option autoImplicit false

namespace ModelExport.CommandLine

/-- A command of the program. -/
inductive Command where
  | generate
  | analyst
  | targets
deriving DecidableEq

/-- A flag of the program or of a command. -/
inductive Flag where
  | target
  | model
  | data
  | config
  | embed
  | className
  | output
  | help
  | version
deriving DecidableEq

namespace Flag

def long : Flag → String
  | .target => "target"
  | .model => "model"
  | .data => "data"
  | .config => "config"
  | .embed => "embed"
  | .className => "class"
  | .output => "output"
  | .help => "help"
  | .version => "version"

def short? : Flag → Option Char
  | .target => some 't'
  | .model => some 'm'
  | .data => some 'd'
  | .config => some 'c'
  | .embed => none
  | .className => none
  | .output => some 'o'
  | .help => some 'h'
  | .version => some 'V'

/-- What the value of a flag is called; nothing for a flag that takes none. -/
def valueName? : Flag → Option String
  | .target => some "TARGET"
  | .model => some "FILE"
  | .data => some "FILE"
  | .config => some "FILE"
  | .embed => none
  | .className => some "NAME"
  | .output => some "FILE"
  | .help => none
  | .version => none

/-- Whether the value of a flag is a path, which must not be empty. -/
def isPath : Flag → Bool
  | .model => true
  | .data => true
  | .config => true
  | .output => true
  | _ => false

/-- How messages name a flag. -/
def shown (flag : Flag) : String :=
  match flag.valueName? with
  | some name => "--" ++ flag.long ++ " <" ++ name ++ ">"
  | none => "--" ++ flag.long

def description : Flag → String
  | .target => "Target language (see `mlgen targets`)"
  | .model => "Persisted model file"
  | .data => "Training set file"
  | .config => "Analyst script (JSON)"
  | .embed => "Inline model parameters and training rows in the generated source"
  | .className => "Name of the generated class"
  | .output => "Output file (default: stdout)"
  | .help => "Print help"
  | .version => "Print version"

end Flag

namespace Command

def all : List Command := [.generate, .analyst, .targets]

def name : Command → String
  | .generate => "generate"
  | .analyst => "analyst"
  | .targets => "targets"

def ofName? (text : String) : Option Command := all.find? fun command => command.name == text

def description : Command → String
  | .generate => "Generate a program that loads a model and/or training set"
  | .analyst => "Generate from an analyst script"
  | .targets => "List supported target languages"

def flags : Command → List Flag
  | .generate => [.target, .model, .data, .embed, .className, .output, .help]
  | .analyst => [.target, .config, .embed, .output, .help]
  | .targets => [.help]

/-- The flags that have to be given. -/
def required : Command → List Flag
  | .generate => [.target]
  | .analyst => [.target, .config]
  | .targets => []

end Command

/-- The flags of the program itself. -/
def programFlags : List Flag := [.help, .version]

/-- The name of the command that prints help. -/
def helpName : String := "help"

def helpDescription : String := "Print this message or the help of the given subcommand(s)"

def programDescription : String :=
  "Generate standalone programs from trained machine learning models"

/-! ## Help -/

/-- A text filled with spaces on its right. -/
def padded (width : Nat) (text : String) : String :=
  text ++ .ofList (List.replicate (width - text.length) ' ')

/-- Rows of two columns. -/
def columns (rows : List (String × String)) : String :=
  let width := (rows.map fun row => row.1.length).foldl max 0
  String.join (rows.map fun row => "  " ++ padded width row.1 ++ "  " ++ row.2 ++ "\n")

def Flag.row (flag : Flag) : String × String :=
  let short :=
    match flag.short? with
    | some letter => "-" ++ String.singleton letter ++ ", "
    | none => "    "
  (short ++ flag.shown, flag.description)

/-- What help is asked about. -/
inductive Topic where
  | program
  | command (command : Command)
  | help
deriving DecidableEq

def Topic.text : Topic → String
  | .program =>
      programDescription ++ "\n\nUsage: mlgen <COMMAND>\n\nCommands:\n" ++
        columns (Command.all.map (fun command => (command.name, command.description)) ++
          [(helpName, helpDescription)]) ++
        "\nOptions:\n" ++ columns (programFlags.map Flag.row)
  | .command asked =>
      let needed := asked.required.map fun flag => " " ++ flag.shown
      let optional := if asked.flags.length ≤ 1 then "" else " [OPTIONS]"
      asked.description ++ "\n\nUsage: mlgen " ++ asked.name ++ optional ++
        String.join needed ++ "\n\nOptions:\n" ++ columns (asked.flags.map Flag.row)
  | .help => helpDescription ++ "\n\nUsage: mlgen help [COMMAND]...\n"

end ModelExport.CommandLine
