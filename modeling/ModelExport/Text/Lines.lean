/-
# ModelExport.Text.Lines — the lines of a text

A line ends at a line feed, or at a carriage return directly before a line feed;
the ending belongs to no line. A text that ends in a line feed has no further,
empty line, and the empty text has no line at all. A carriage return anywhere
else is an ordinary character.
-/

set_option autoImplicit false

namespace ModelExport.Text

/-- The lines of a text, without their endings. -/
def lines : List Char → List (List Char)
  | [] => []
  | '\n' :: rest => [] :: lines rest
  | '\r' :: '\n' :: rest => [] :: lines rest
  | c :: rest =>
      match lines rest with
      | [] => [[c]]
      | line :: others => (c :: line) :: others

/-- The first line of a text; empty when the text has none. -/
def firstLine (text : List Char) : List Char := (lines text).headD []

end ModelExport.Text
