/-
# ModelExport.FileMap — files and directories by their place

A map from places to files and directories, with the working directory in the
middle: a place is a number of steps up from it and then the names leading down,
or the names leading down from the root. Names and paths have a greatest length.
Reading gives a text; writing replaces a whole file or fails and changes
nothing. Directories above the working directory exist, and so does the root.
-/
import ModelExport.Path

set_option autoImplicit false

namespace ModelExport

/-- Why a file could not be read or written. -/
inductive IoError where
  | missing
  | isDirectory
  | notDirectory
  | notText
  | nulInName
  /-- A name in the path, or the whole path, is longer than a file system takes. -/
  | nameTooLong
  /-- A cause that the operating system words itself. -/
  | other (text : String)
deriving DecidableEq

namespace IoError

def message : IoError → String
  | .missing => "No such file or directory (os error 2)"
  | .isDirectory => "Is a directory (os error 21)"
  | .notDirectory => "Not a directory (os error 20)"
  | .notText => "stream did not contain valid UTF-8"
  | .nulInName => "file name contained an unexpected NUL byte"
  | .nameTooLong => "File name too long (os error 36)"
  | .other text => text

/-- The cause that the operating system gives by a number and a wording. -/
def ofSystem (number : Nat) (wording : String) : IoError :=
  match number with
  | 2 => .missing
  | 20 => .notDirectory
  | 21 => .isDirectory
  | 36 => .nameTooLong
  | _ => .other (wording ++ " (os error " ++ toString number ++ ")")

end IoError

/-- What a file holds. -/
inductive Contents where
  | text (text : String)
  /-- Bytes that are not the encoding of a text. -/
  | binary (bytes : List UInt8)
deriving DecidableEq

namespace Contents

def ofBytes (bytes : ByteArray) : Contents :=
  match String.fromUTF8? bytes with
  | some decoded => .text decoded
  | none => .binary bytes.toList

end Contents

inductive Entry where
  | file (contents : Contents)
  | directory
deriving DecidableEq

/-- Where the names of a place start. -/
inductive Anchor where
  | root
  /-- So many steps above the working directory. -/
  | above (steps : Nat)
deriving DecidableEq

/-- A place: an anchor and the names leading down from it, the last one first. -/
structure Place where
  anchor : Anchor
  names : List (List Char)
deriving DecidableEq

namespace Place

def start (p : Path) : Place := ⟨if p.isAbsolute then .root else .above 0, []⟩

/-- The directory that holds a place. The root holds itself. -/
def up (place : Place) : Place :=
  match place.names, place.anchor with
  | _ :: names, anchor => ⟨anchor, names⟩
  | [], .root => ⟨.root, []⟩
  | [], .above steps => ⟨.above (steps + 1), []⟩

def down (place : Place) (name : List Char) : Place := { place with names := name :: place.names }

end Place

/-- Files and directories by their place. The first entry of a place counts. -/
structure FileMap where
  entries : List (Place × Entry)

/-- How a text is written to a file: the outcome, and the files afterwards. -/
abbrev Writing := FileMap → Path → String → Except IoError Unit × FileMap

namespace FileMap

def empty : FileMap := ⟨[]⟩

/-- What stands at a place. Anchors are directories. -/
def lookup? (files : FileMap) (place : Place) : Option Entry :=
  if place.names = [] then some .directory else files.entries.lookup place

def put (files : FileMap) (place : Place) (entry : Entry) : FileMap :=
  ⟨(place, entry) :: files.entries.filter fun other => other.1 != place⟩

/-- The greatest number of bytes in a name. -/
def longestName : Nat := 255

/-- The greatest number of bytes in a path. -/
def longestPath : Nat := 4095

/-- Follow segments from a place that must be a directory as long as segments remain. -/
def walk (files : FileMap) (place : Place) : List (List Char) → Except IoError Place
  | [] => .ok place
  | segment :: rest =>
      match files.lookup? place with
      | none => .error .missing
      | some (.file _) => .error .notDirectory
      | some .directory =>
          if Path.isIdle segment then files.walk place rest
          else if segment = ['.', '.'] then files.walk place.up rest
          else if longestName < (String.ofList segment).utf8ByteSize then .error .nameTooLong
          else files.walk (place.down segment) rest

/-- The place that a path names, whether or not something stands there. -/
def locate (files : FileMap) (p : Path) (segments : List (List Char)) : Except IoError Place :=
  if '\x00' ∈ p.text.toList then .error .nulInName
  else if p.text.toList = [] then .error .missing
  else if longestPath < p.text.utf8ByteSize then .error .nameTooLong
  else files.walk (Place.start p) segments

/-- The text of a file. -/
def read (files : FileMap) (p : Path) : Except IoError String := do
  let place ← files.locate p (Path.segments p.text.toList)
  match files.lookup? place with
  | none => .error .missing
  | some .directory => .error .isDirectory
  | some (.file (.text text)) => .ok text
  | some (.file (.binary _)) => .error .notText

/-- Make a file hold exactly a text. A path that ends in a slash names a directory, whatever stands
there, if only the directory that should hold it exists. -/
def write (files : FileMap) (p : Path) (text : String) : Except IoError FileMap := do
  let segments := Path.segments p.text.toList
  let named := (segments.reverse.dropWhile (· == [])).reverse
  if named.length < segments.length then
    let _ ← files.locate p (named.dropLast ++ [['.']])
    .error .isDirectory
  else
    let place ← files.locate p named
    match files.lookup? place with
    | some .directory => .error .isDirectory
    | _ => .ok (files.put place (.file (.text text)))

/-- Make a file hold exactly a text, or leave all files as they are. -/
def store : Writing := fun files p text =>
  match files.write p text with
  | .ok written => (.ok (), written)
  | .error error => (.error error, files)

/-- Add an entry together with the directories that lead to it. -/
def create (files : FileMap) (p : Path) (entry : Entry) : FileMap :=
  let steps := (Path.segments p.text.toList).filter fun segment => !Path.isIdle segment
  let go := fun (state : FileMap × Place) (segment : List Char) =>
    let place := if segment = ['.', '.'] then state.2.up else state.2.down segment
    (if (state.1.lookup? place).isSome then state.1 else state.1.put place .directory, place)
  let reached := steps.foldl go (files, Place.start p)
  reached.1.put reached.2 entry

theorem lookup?_put_self (files : FileMap) (place : Place) (entry : Entry) (named : place.names ≠ []) :
    (files.put place entry).lookup? place = some entry := by
  simp [lookup?, put, named]

end FileMap

end ModelExport
