/-
# ModelExport.Layout — indented lines

A document is written by a list of steps: indent, dedent, write a text, end the
line. Indentation comes late: a line gets its spaces with its first text, by the
level of that moment, so a line without text has none. A dedent at the outermost
level does nothing. What was written is never changed, and the width of a level
matters only when the steps are carried out.
-/

set_option autoImplicit false

namespace ModelExport.Layout

/-- A step of writing. -/
inductive Step where
  | indent
  | dedent
  | write (text : String)
  | newline
deriving DecidableEq

/-- A text and the line that ends with it. -/
def line (text : String) : List Step := [.write text, .newline]

/-- What was written, and how the next text will stand. -/
structure Page where
  text : String
  level : Nat
  atLineStart : Bool
deriving DecidableEq

/-- How many spaces stand before a line: its level times the width of one, as words of 64 bits are
multiplied. -/
def indentation (width level : Nat) : Nat := (level.toUInt64 * width.toUInt64).toNat

namespace Page

/-- A page with nothing on it. -/
def blank : Page := ⟨"", 0, true⟩

def spaces (count : Nat) : String := .ofList (List.replicate count ' ')

/-- Carry out a step, with levels of a given width. -/
def step (width : Nat) (page : Page) : Step → Page
  | .indent => { page with level := page.level + 1 }
  | .dedent => { page with level := page.level - 1 }
  | .write text =>
      if text = "" then page
      else
        let margin := if page.atLineStart then spaces (indentation width page.level) else ""
        { page with text := page.text ++ margin ++ text, atLineStart := false }
  | .newline => { page with text := page.text ++ "\n", atLineStart := true }

/-- Carry out steps in order. -/
def run (width : Nat) (page : Page) (steps : List Step) : Page := steps.foldl (step width) page

end Page

/-- The text that steps write on a blank page. -/
def render (width : Nat) (steps : List Step) : String := (Page.blank.run width steps).text

end ModelExport.Layout
