/-
# ModelExport.Stamp — what generated files say of their making

Generated files name the tool, its version, its home page and the time at which
they were made.
-/

set_option autoImplicit false

namespace ModelExport

/-- The identity of the tool and the time of a generation. -/
structure Stamp where
  tool : String
  version : String
  homepage : String
  /-- The time as people read it. -/
  time : String
deriving DecidableEq

namespace Stamp

def toolName : String := "mlgen"

/-- The version of this tool. -/
def toolVersion : String := "0.1.0-alpha.1"

def toolHomepage : String := "https://github.com/dannys-code-corner/mlgen"

/-- The stamp of this tool in some version. -/
def fixed (version time : String) : Stamp := ⟨toolName, version, toolHomepage, time⟩

/-- The stamp of this tool as it is. -/
def current (time : String) : Stamp := fixed toolVersion time

end Stamp

end ModelExport
