/-
# ModelExport.Main — the program

The outer layer: it reads the files that a command asks for, takes the time from
the clock, and prints or writes what the command comes to. It decides nothing. A
script names further files, so files are read in two rounds.
-/
import ModelExport.CommandLine
import Std.Time.DateTime
import Std.Time.Format
import Std.Time.Zoned

set_option autoImplicit false

namespace ModelExport.CommandLine

/-- The cause of a failure of the operating system, whose number comes with either sign. -/
def causeOf : IO.Error → IoError
  | .noFileOrDirectory _ number wording | .interrupted _ number wording
  | .alreadyExists _ number wording | .invalidArgument _ number wording
  | .permissionDenied _ number wording | .resourceExhausted _ number wording
  | .inappropriateType _ number wording | .noSuchThing _ number wording
  | .otherError number wording | .resourceBusy number wording
  | .resourceVanished number wording | .unsupportedOperation number wording
  | .hardwareFault number wording | .unsatisfiedConstraints number wording
  | .illegalOperation number wording | .protocolError number wording
  | .timeExpired number wording => .ofSystem number.toInt32.toInt.natAbs wording
  | .userError text => .other text
  | .unexpectedEof => .other "unexpected end of file"

/-- The text of a file. -/
def readText (path : Path) : IO (Except IoError String) := do
  if '\x00' ∈ path.text.toList then return .error .nulInName
  try
    match Contents.ofBytes (← IO.FS.readBinFile path.text) with
    | .text text => return .ok text
    | .binary _ => return .error .notText
  catch error => return .error (causeOf error)

/-- Make a file hold exactly a text. -/
def writeText (path : Path) (text : String) : IO (Except IoError Unit) := do
  if '\x00' ∈ path.text.toList then return .error .nulInName
  try
    IO.FS.writeFile path.text text
    return .ok ()
  catch error => return .error (causeOf error)

/-- Files with what came of reading them. -/
abbrev Seen := List (Path × Except IoError String)

def Seen.read (seen : Seen) (path : Path) : Except IoError String :=
  (seen.lookup path).getD (.error .missing)

/-- Read the files that a command asks for after some were read. -/
def readFiles (seen : Seen) (invocation : Invocation) : IO Seen :=
  (inputFiles seen.read invocation).mapM fun path => return (path, ← readText path)

/-- The local time, or universal time where the zone is not known. -/
def localTime : IO String := do
  let now ←
    try Std.Time.DateTime.now
    catch _ => pure (Std.Time.DateTime.ofTimestamp (← Std.Time.Timestamp.now) .UTC)
  return now.format "EEE MMM dd HH:mm:ss uuuu"

/-- Carry out a command. -/
def perform (invocation : Invocation) : IO Result := do
  let seen ← readFiles (← readFiles [] invocation) invocation
  match respond (.current (← localTime)) seen.read invocation with
  | .print text => return ⟨0, text, ""⟩
  | .fail failure => return .ofFailure failure
  | .write path document =>
      match ← writeText path document with
      | .ok () => return ⟨0, "", ""⟩
      | .error error => return .ofFailure (.write path error)

end ModelExport.CommandLine

open ModelExport.CommandLine in
/-- Run the command line and give its exit code. -/
def main (arguments : List String) : IO UInt32 := do
  let result ←
    match parse arguments with
    | .error error => pure (Result.ofUsage error)
    | .ok invocation => perform invocation
  IO.eprint result.report
  try
    let output ← IO.getStdout
    output.putStr result.output
    output.flush
    return result.exitCode.toUInt32
  catch error =>
    IO.eprintln ("Error writing to stdout: " ++ (causeOf error).message)
    return 1
