/-
# ModelExport.Text.Verbatim — string literals without escapes

A verbatim literal starts with an at sign and a double quote and ends with a
double quote. Inside, a quote is written twice; every other character, line
breaks and backslashes too, stands for itself.
-/

set_option autoImplicit false

namespace ModelExport.Text.Verbatim

/-- How a character stands in a literal. -/
def double (c : Char) : List Char := if c = '"' then ['"', '"'] else [c]

/-- The literal of a text. -/
def literal (text : List Char) : List Char := '@' :: '"' :: text.flatMap double ++ ['"']

/-- Read the inside of a literal up to its closing quote: the text, and what follows the quote. -/
def inside? : List Char → Option (List Char × List Char)
  | [] => none
  | '"' :: '"' :: rest => do
      let (text, left) ← inside? rest
      some ('"' :: text, left)
  | '"' :: rest => some ([], rest)
  | c :: rest => do
      let (text, left) ← inside? rest
      some (c :: text, left)

/-- Read a literal: the text, and what follows the literal. -/
def read? : List Char → Option (List Char × List Char)
  | '@' :: '"' :: rest => inside? rest
  | _ => none

theorem literal_nil : literal [] = ['@', '"', '"'] := rfl

end ModelExport.Text.Verbatim
