/-
# ModelExport.Path — file paths, as they are written

A path is its text and is never normalised. Splitting it at slashes gives
segments; after the first one, empty segments and `.` mean nothing. The first
segment counts when it is not empty, or when it is the root that a leading slash
names. `..` is a segment like any other.
-/

set_option autoImplicit false

namespace ModelExport

/-- A file path, as it was written. -/
structure Path where
  text : String
deriving DecidableEq

namespace Path

/-- A text cut at its slashes. There is always a first segment. -/
def segments : List Char → List (List Char)
  | [] => [[]]
  | '/' :: rest => [] :: segments rest
  | c :: rest =>
      match segments rest with
      | [] => [[c]]
      | segment :: others => (c :: segment) :: others

/-- Segments with slashes between them. -/
def joined : List (List Char) → List Char
  | [] => []
  | [segment] => segment
  | segment :: others => segment ++ '/' :: joined others

/-- Whether a segment after the first names nothing. -/
def isIdle (segment : List Char) : Bool := segment == [] || segment == ['.']

/-- Segments without the idle ones at their end. -/
def dropIdle (segments : List (List Char)) : List (List Char) :=
  (segments.reverse.dropWhile isIdle).reverse

/-- Whether a path starts at the root. -/
def isAbsolute (p : Path) : Bool := p.text.toList.head? == some '/'

/-- The names a path is made of: the first segment, with a slash for the root, and every segment
after it that is not idle. -/
def components (p : Path) : List (List Char) :=
  let all := segments p.text.toList
  let first := all.headD []
  (if p.isAbsolute then [['/']] else if first = [] then [] else [first]) ++
    (all.drop 1).filter fun segment => !isIdle segment

/-- The path without its last component. The root and the empty path have none; a path of one
component has the empty path. -/
def parent? (p : Path) : Option Path :=
  let all := segments p.text.toList
  let first := all.headD []
  let rest := dropIdle (all.drop 1)
  if rest = [] then
    if first = [] then none else some ⟨""⟩
  else
    let kept := dropIdle rest.dropLast
    if kept = [] ∧ first = [] then some ⟨"/"⟩ else some ⟨.ofList (joined (first :: kept))⟩

/-- Whether a path names no directory before its last component. -/
def isBare (p : Path) : Bool :=
  match p.parent? with
  | none => true
  | some parent => parent.text.toList == []

/-- A path read from a directory: absolute paths stand for themselves, and one slash separates
the others from the directory unless it is empty or ends in one. -/
def join (base file : Path) : Path :=
  if file.isAbsolute then file
  else
    let front := base.text.toList
    if front = [] ∨ front.getLast? = some '/' then ⟨base.text ++ file.text⟩
    else ⟨base.text ++ "/" ++ file.text⟩

end Path

end ModelExport
