/-
# ModelExport.Renderer — the maker of a target's documents

A renderer spells programs in one language or fills one template, and holds the
last document it made. A rendering that fails keeps that document.
-/
import ModelExport.Document
import ModelExport.Template.Canned

set_option autoImplicit false

namespace ModelExport

/-- What an operation came to: success, or the failure that stopped it. -/
abbrev Outcome := Except Failure Unit

/-- How a renderer makes documents. -/
inductive Style where
  | program (language : Language) (settings : Settings)
  | template (template : CannedTemplate)
deriving DecidableEq

namespace Style

def family : Style → Family
  | .program _ _ => .program
  | .template _ => .template

/-- The style of a target. -/
def ofTarget (target : Target) (settings : Settings) : Except Failure Style :=
  match target with
  | .none => .error .configuration
  | .java => .ok (.program .java settings)
  | .csharp => .ok (.program .csharp settings)
  | .javascript => .ok (.program .javascript settings)
  | .mql4 => .ok (.template .mql4)
  | .ninjascript => .ok (.template .ninjascript)

/-- Whether the entry point may call a function that loads the training rows. -/
def separatesTraining : Style → Bool
  | .program language _ => language.separatesTraining
  | .template _ => false

end Style

/-- A style, and the last document made in it. -/
structure Renderer where
  style : Style
  /-- Empty until a document was made. -/
  contents : String
deriving DecidableEq

namespace Renderer

def ofStyle (style : Style) : Renderer := ⟨style, ""⟩

def ofTarget (target : Target) (settings : Settings) : Except Failure Renderer :=
  (Style.ofTarget target settings).map ofStyle

def family (renderer : Renderer) : Family := renderer.style.family

/-- Refuse an operation that is meant for the other family. -/
def expect (renderer : Renderer) (family : Family) (operation : String) : Outcome :=
  if renderer.family = family then .ok ()
  else .error (.wrongFamily operation family renderer.family)

/-- The text of a program in the renderer's language. -/
def spell (renderer : Renderer) (operation : String) (forest : Forest) (embed : Bool) :
    Except Failure String :=
  match renderer.style with
  | .program language settings =>
      (Document.mk language settings.indentWidth settings.valuesPerLine embed forest).text
  | .template _ => .error (.wrongFamily operation .program .template)

/-- The text of the renderer's template with the values of a script. -/
def fill (renderer : Renderer) (operation : String) (script : Analyst) (stamp : Stamp) :
    Except Failure String :=
  match renderer.style with
  | .program _ _ => .error (.wrongFamily operation .template .program)
  | .template template => template.document script stamp

/-- Take a new document, or keep the old one if there is none. -/
def adopt (renderer : Renderer) : Except Failure String → Outcome × Renderer
  | .ok text => (.ok (), { renderer with contents := text })
  | .error failure => (.error failure, renderer)

/-- Write the document to a file. -/
def save (renderer : Renderer) (files : FileMap) (path : Path) : Except Failure FileMap :=
  (files.write path renderer.contents).mapError (.write path)

end Renderer

end ModelExport
