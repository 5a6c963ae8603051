/-
# ModelExport.Settings — how programs are laid out
-/

set_option autoImplicit false

namespace ModelExport

/-- The settings of a rendering. -/
structure Settings where
  /-- Spaces per level of indentation. -/
  indentWidth : Nat
  /-- Values per line of an array. Zero counts as one. -/
  valuesPerLine : Nat
  className : String
deriving DecidableEq

namespace Settings

/-- The settings that apply when nothing is said. -/
def standard : Settings := ⟨4, 8, "MlgenExample"⟩

def withIndentWidth (settings : Settings) (width : Nat) : Settings :=
  { settings with indentWidth := width }

/-- Settings with another number of values per line, at least one. -/
def withValuesPerLine (settings : Settings) (count : Nat) : Settings :=
  { settings with valuesPerLine := max count 1 }

def withClassName (settings : Settings) (name : String) : Settings :=
  { settings with className := name }

end Settings

end ModelExport
