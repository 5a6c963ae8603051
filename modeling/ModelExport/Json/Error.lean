/-
# ModelExport.Json.Error — what is wrong with a JSON text, and where

A fault names its cause and how many bytes of the text were unread when it was
found; locating it in the text turns that into a line and a column. Lines count
from one. A column is the number of bytes since the last line feed before the
fault. Faults found after reading was done have no place.
-/
import ModelExport.Binary64.Notation
import ModelExport.Text.Quoted

set_option autoImplicit false

namespace ModelExport.Json

/-- The shape of a value, with what a message shows of it. -/
inductive Found where
  | null
  | bool (value : Bool)
  | integer (value : Int)
  | float (value : Binary64)
  | string (text : String)
  | sequence
  | map

namespace Found

def message : Found → String
  | .null => "null"
  | .bool true => "boolean `true`"
  | .bool false => "boolean `false`"
  | .integer value => "integer `" ++ toString value ++ "`"
  | .float value => "floating point `" ++ .ofList (DecimalNotation.message.render value) ++ "`"
  | .string text => "string " ++ .ofList (Text.quoted text.toList)
  | .sequence => "sequence"
  | .map => "map"

end Found

/-- Why a text was refused. -/
inductive Cause where
  | endInValue
  | endInList
  | endInObject
  | endInString
  | expectedColon
  | expectedListCommaOrEnd
  | expectedObjectCommaOrEnd
  | expectedWord
  | expectedValue
  | invalidEscape
  | invalidNumber
  | numberOutOfRange
  | controlCharacter
  | keyMustBeString
  | loneSurrogate
  | unfinishedSurrogate
  | trailingComma
  | trailingCharacters
  | tooDeep
  | invalidType (found : Found) (expected : String)
  | invalidValue (found : Found) (expected : String)
  | invalidLength (length : Nat) (expected : String)
  | missingField (name : String)
  | duplicateField (name : String)
  | unknownVariant (name : String) (known : List String)

namespace Cause

/-- Names in backticks, with commas between them. -/
def nameList (names : List String) : String :=
  ", ".intercalate (names.map fun name => "`" ++ name ++ "`")

def message : Cause → String
  | .endInValue => "EOF while parsing a value"
  | .endInList => "EOF while parsing a list"
  | .endInObject => "EOF while parsing an object"
  | .endInString => "EOF while parsing a string"
  | .expectedColon => "expected `:`"
  | .expectedListCommaOrEnd => "expected `,` or `]`"
  | .expectedObjectCommaOrEnd => "expected `,` or `\x7d`"
  | .expectedWord => "expected ident"
  | .expectedValue => "expected value"
  | .invalidEscape => "invalid escape"
  | .invalidNumber => "invalid number"
  | .numberOutOfRange => "number out of range"
  | .controlCharacter => "control character (\\u0000-\\u001F) found while parsing a string"
  | .keyMustBeString => "key must be a string"
  | .loneSurrogate => "lone leading surrogate in hex escape"
  | .unfinishedSurrogate => "unexpected end of hex escape"
  | .trailingComma => "trailing comma"
  | .trailingCharacters => "trailing characters"
  | .tooDeep => "recursion limit exceeded"
  | .invalidType found expected =>
      "invalid type: " ++ found.message ++ ", expected " ++ expected
  | .invalidValue found expected =>
      "invalid value: " ++ found.message ++ ", expected " ++ expected
  | .invalidLength length expected =>
      "invalid length " ++ toString length ++ ", expected " ++ expected
  | .missingField name => "missing field `" ++ name ++ "`"
  | .duplicateField name => "duplicate field `" ++ name ++ "`"
  | .unknownVariant name known =>
      "unknown variant `" ++ name ++ "`, expected one of " ++ nameList known

end Cause

/-- A cause, and how many bytes were unread when it was found, if that says where it is. -/
structure Fault where
  cause : Cause
  unread : Option Nat

/-- The bytes that a text takes. -/
def byteCount (text : List Char) : Nat := text.foldr (fun c count => c.utf8Size + count) 0

namespace Fault

/-- A fault found before the next character. -/
def before (cause : Cause) (rest : List Char) : Fault := ⟨cause, some (byteCount rest)⟩

/-- A fault found at the next byte; at the end of the text, found there. -/
def on (cause : Cause) (rest : List Char) : Fault := ⟨cause, some (byteCount rest - 1)⟩

/-- A fault of a value that was read before. -/
def unplaced (cause : Cause) : Fault := ⟨cause, none⟩

end Fault

/-- A line, counted from one, and the bytes before a point of that line. -/
structure Position where
  line : Nat
  column : Nat

namespace Position

/-- The position so many bytes after another one, over the text that follows it. -/
def advance (position : Position) : Nat → List Char → Position
  | _, [] => position
  | 0, _ => position
  | bytes, '\n' :: rest => advance ⟨position.line + 1, 0⟩ (bytes - 1) rest
  | bytes, c :: rest =>
      advance ⟨position.line, position.column + min bytes c.utf8Size⟩ (bytes - c.utf8Size) rest

end Position

/-- A cause with its place in a text. -/
structure Error where
  cause : Cause
  position : Option Position

namespace Error

def message (e : Error) : String :=
  match e.position with
  | none => e.cause.message
  | some position =>
      e.cause.message ++ " at line " ++ toString position.line ++ " column " ++
        toString position.column

end Error

/-- A fault with its place in the text that was read. -/
def Fault.locate (text : List Char) (fault : Fault) : Error :=
  ⟨fault.cause, fault.unread.map fun unread =>
    Position.advance ⟨1, 0⟩ (byteCount text - unread) text⟩

end ModelExport.Json
