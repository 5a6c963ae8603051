/-
# ModelExport.Proofs.Language.Level — every construct keeps the level

In each language comments, constants and statements begin and end at one level,
what opens a block leads one level up, and what closes it leads down again.
-/
import ModelExport.Language
import ModelExport.Proofs.Layout.Level

set_option autoImplicit false

namespace ModelExport.Language

open Layout

/-! ## Comments and constants -/

theorem leads_comment (level : Nat) (text : String) : Leads level level (comment text) := by
  rw [comment]
  split
  · exact leads_line level "//"
  · exact Leads.flatMap _ fun content _ => leads_line level (commentLine content)

theorem leads_commaLines (level : Nat) (lines : List String) :
    Leads level level (commaLines lines) := by
  fun_induction commaLines lines with
  | case1 => exact leads_nil level
  | case2 last => exact leads_line level last
  | case3 text others _ ih => exact (leads_line level (text ++ ",")).append ih

theorem leads_constant (language : Language) (level dimensions : Nat) (name : String)
    (lines : List String) : Leads level level (language.constant dimensions name lines) := by
  rw [constant]
  split
  · exact leads_line level _
  · have opened := (leads_line level (language.declaration dimensions name ++ " = " ++
      language.initializerStart)).append (leads_indent level)
    have filled := opened.append (leads_commaLines (level + 1) lines)
    exact (filled.append (leads_dedent level)).append (leads_line level language.initializerEnd)

theorem leads_array (language : Language) (level : Nat) (name : String) (values : List Binary64)
    (perLine : Nat) : Leads level level (language.array name values perLine) :=
  leads_constant language level 1 name _

theorem leads_matrix (language : Language) (level : Nat) (name : String)
    (rows : List (List Binary64)) : Leads level level (language.matrix name rows) :=
  leads_constant language level 2 name _

/-! ## Blocks -/

theorem leads_prologue (language : Language) (level : Nat) :
    Leads level level language.prologue := by
  cases language with
  | java => exact ((leads_line level _).append (leads_line level _)).append (leads_newline level)
  | csharp => exact ((leads_line level _).append (leads_line level _)).append (leads_newline level)
  | javascript => exact leads_nil level

theorem leads_openBlock (level : Nat) (header : String) :
    Leads level (level + 1) (openBlock header) :=
  (leads_line level _).append (leads_indent level)

theorem leads_openBlockBelow (level : Nat) (header : String) :
    Leads level (level + 1) (openBlockBelow header) :=
  ((leads_line level header).append (leads_line level _)).append (leads_indent level)

theorem leads_closeBlock (level : Nat) : Leads (level + 1) level closeBlock :=
  (leads_dedent level).append (leads_line level _)

theorem leads_openClass (language : Language) (level : Nat) (name : String) :
    Leads level (level + 1) (language.openClass name) := by
  cases language with
  | java => exact leads_openBlock level _
  | csharp => exact leads_openBlockBelow level _
  | javascript =>
      exact ((leads_openBlock level _).append (leads_line (level + 1) _)).append
        (leads_newline (level + 1))

theorem leads_closeClass (language : Language) (level : Nat) (name : String) :
    Leads (level + 1) level (language.closeClass name) := by
  cases language with
  | java => exact leads_closeBlock level
  | csharp => exact leads_closeBlock level
  | javascript =>
      have returned := (leads_newline (level + 1)).append
        (leads_line (level + 1) "return \x7b main: main \x7d;")
      have closed := (returned.append (leads_dedent level)).append (leads_line level "\x7d)();")
      exact (closed.append (leads_newline level)).append (leads_line level _)

theorem leads_openFunction (language : Language) (level : Nat) (name : String)
    (type? : Option String) : Leads level (level + 1) (language.openFunction name type?) := by
  cases language with
  | java => exact leads_openBlock level _
  | csharp => exact leads_openBlockBelow level _
  | javascript => exact leads_openBlock level _

theorem leads_closeFunction (level : Nat) : Leads (level + 1) level closeFunction :=
  leads_closeBlock level

theorem leads_openMain (language : Language) (level : Nat) :
    Leads level (level + 1) language.openMain := by
  cases language with
  | java => exact leads_openBlock level _
  | csharp => exact leads_openBlockBelow level _
  | javascript => exact leads_openBlock level _

/-! ## Statements -/

theorem leads_bind (language : Language) (level : Nat) (type binding expression : String) :
    Leads level level (language.bind type binding expression) := by
  cases language <;> exact leads_line level _

theorem leads_loadModel (language : Language) (level : Nat) (binding type : String) (file : Path) :
    Leads level level (language.loadModel binding type file) :=
  leads_bind language level type binding _

theorem leads_decodeWeights (language : Language) (level : Nat) (binding weights : String) :
    Leads level level (language.decodeWeights binding weights) := by
  cases language <;> exact leads_line level _

theorem leads_loadTrainingFile (language : Language) (level : Nat) (binding type : String)
    (file : Path) : Leads level level (language.loadTrainingFile binding type file) :=
  leads_bind language level type binding _

theorem leads_loadTrainingArrays (language : Language) (level : Nat)
    (binding type input ideal : String) :
    Leads level level (language.loadTrainingArrays binding type input ideal) :=
  leads_bind language level type binding _

theorem leads_returnValue (level : Nat) (binding : String) :
    Leads level level (returnValue binding) :=
  leads_line level _

theorem leads_call (language : Language) (level : Nat) (function type binding : String) :
    Leads level level (language.call function type binding) :=
  leads_bind language level type binding _

end ModelExport.Language
