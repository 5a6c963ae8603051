/-
# ModelExport.Text.Escaped — string literals with backslashes

A literal stands between double quotes. The backslash, the quote, the line feed,
the carriage return and the tab are written as a backslash and a letter or mark;
every other character stands for itself.
-/

set_option autoImplicit false

namespace ModelExport.Text.Escaped

/-- How a character stands in a literal. -/
def escape (c : Char) : List Char :=
  match c with
  | '\\' => ['\\', '\\']
  | '"' => ['\\', '"']
  | '\n' => ['\\', 'n']
  | '\r' => ['\\', 'r']
  | '\t' => ['\\', 't']
  | other => [other]

/-- The literal of a text. -/
def literal (text : List Char) : List Char := '"' :: text.flatMap escape ++ ['"']

/-- The character that a letter or mark stands for after a backslash. -/
def unescape? (c : Char) : Option Char :=
  match c with
  | '\\' => some '\\'
  | '"' => some '"'
  | 'n' => some '\n'
  | 'r' => some '\r'
  | 't' => some '\t'
  | _ => none

/-- Read the inside of a literal up to its closing quote: the text, and what follows the quote. -/
def inside? : List Char → Option (List Char × List Char)
  | [] => none
  | '"' :: rest => some ([], rest)
  | '\\' :: c :: rest => do
      let plain ← unescape? c
      let (text, left) ← inside? rest
      some (plain :: text, left)
  | c :: rest => do
      let (text, left) ← inside? rest
      some (c :: text, left)

/-- Read a literal: the text, and what follows the literal. -/
def read? : List Char → Option (List Char × List Char)
  | '"' :: rest => inside? rest
  | _ => none

theorem literal_nil : literal [] = ['"', '"'] := rfl

end ModelExport.Text.Escaped
