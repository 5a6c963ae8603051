/-
# ModelExport.Proofs.Language.PathLiteral — paths are read back from their literals

In every language the literal of a path denotes that path: a reader of the
language's literals that starts at its first character takes off the literal, no
more and no less, and has the path, whatever characters this is made of. Each
character is written so that a reader gets one character for it and goes on behind
(`inside?_escape`, `inside?_double`), and so the reading of a whole literal follows
by induction on the text. A literal with backslashes may be followed by anything;
behind a verbatim one no quote may stand, because two quotes are one that is meant.
On a page such a literal is followed by a bracket (`pathLiteral_denotes`).
-/
import ModelExport.Language
import ModelExport.Proofs.Layout.Level
import ModelExport.Proofs.Text.Literal

set_option autoImplicit false

namespace ModelExport

namespace Text

/-! ## Literals with backslashes -/

namespace Escaped

theorem inside?_cons {c : Char} (quote : c ≠ '"') (backslash : c ≠ '\\') (source : List Char) :
    inside? (c :: source) = (inside? source).map fun (text, left) => (c :: text, left) := by
  rw [inside?.eq_4 c source quote fun _ _ same _ => backslash same]
  cases inside? source <;> rfl

theorem inside?_backslash {mark c : Char} (meant : unescape? mark = some c) (source : List Char) :
    inside? ('\\' :: mark :: source) =
      (inside? source).map fun (text, left) => (c :: text, left) := by
  rw [inside?, meant, Option.bind_eq_bind, Option.bind_some]
  cases inside? source <;> rfl

/-- A character that was escaped is read as one character. -/
theorem inside?_escape (c : Char) (source : List Char) :
    inside? (escape c ++ source) = (inside? source).map fun (text, left) => (c :: text, left) := by
  unfold escape
  split
  · exact inside?_backslash rfl source
  · exact inside?_backslash rfl source
  · exact inside?_backslash rfl source
  · exact inside?_backslash rfl source
  · exact inside?_backslash rfl source
  · next backslash quote _ _ _ => exact inside?_cons quote backslash source

theorem inside?_flatMap_escape (text rest : List Char) :
    inside? (text.flatMap escape ++ '"' :: rest) = some (text, rest) := by
  induction text with
  | nil => rfl
  | cons c others ih =>
      rw [List.flatMap_cons, List.append_assoc, inside?_escape, ih, Option.map_some]

/-- **A literal with backslashes is read back**, whatever follows it. -/
theorem read?_literal_append (text rest : List Char) :
    read? (literal text ++ rest) = some (text, rest) := by
  simp only [literal, List.cons_append, List.append_assoc, read?]
  exact inside?_flatMap_escape text rest

/-- An escaped character holds no line end. -/
theorem plain_of_mem_escape {c part : Char} (member : part ∈ escape c) :
    part ≠ '\n' ∧ part ≠ '\r' := by
  unfold escape at member
  split at member
  case h_6 _ feed ret _ =>
    rw [List.mem_singleton.1 member]
    exact ⟨feed, ret⟩
  all_goals
    simp only [List.mem_cons, List.not_mem_nil, or_false] at member
    rcases member with rfl | rfl <;> decide

/-- A literal with backslashes stands on one line. -/
theorem plain_of_mem_literal {text : List Char} {part : Char} (member : part ∈ literal text) :
    part ≠ '\n' ∧ part ≠ '\r' := by
  rw [literal, List.cons_append, List.mem_cons, List.mem_append, List.mem_singleton] at member
  rcases member with rfl | inner | rfl
  · decide
  · obtain ⟨c, -, among⟩ := List.mem_flatMap.1 inner
    exact plain_of_mem_escape among
  · decide

end Escaped

/-! ## Verbatim literals -/

namespace Verbatim

/-- A quote that was doubled is read as one character, and so is any other one. -/
theorem inside?_double (c : Char) (source : List Char) :
    inside? (double c ++ source) = (inside? source).map fun (text, left) => (c :: text, left) := by
  unfold double
  split
  · next quote =>
    subst quote
    cases read : inside? source <;> simp [inside?, read]
  · next plain => exact inside?_cons plain source

theorem inside?_flatMap_double (text : List Char) {rest : List Char}
    (ends : rest.head? ≠ some '"') :
    inside? (text.flatMap double ++ '"' :: rest) = some (text, rest) := by
  induction text with
  | nil => exact inside?_closing ends
  | cons c others ih =>
      rw [List.flatMap_cons, List.append_assoc, inside?_double, ih, Option.map_some]

/-- **A verbatim literal is read back**, if no quote follows it. -/
theorem read?_literal_append (text : List Char) {rest : List Char}
    (ends : rest.head? ≠ some '"') : read? (literal text ++ rest) = some (text, rest) := by
  simp only [literal, List.cons_append, List.append_assoc, read?]
  exact inside?_flatMap_double text ends

end Verbatim

end Text

namespace Language

open Layout

/-- Read a literal of the language: the text, and what follows the literal. -/
def readLiteral? : Language → List Char → Option (List Char × List Char)
  | .java => Text.Escaped.read?
  | .csharp => Text.Verbatim.read?
  | .javascript => Text.Escaped.read?

/-- What stands behind a literal is no part of it, by itself. -/
def Ends (language : Language) (rest : List Char) : Prop :=
  language = .csharp → rest.head? ≠ some '"'

/-- **The literal of a path denotes the path.** -/
theorem readLiteral?_pathLiteral (language : Language) (file : Path) {rest : List Char}
    (ends : language.Ends rest) :
    language.readLiteral? ((language.pathLiteral file).toList ++ rest) =
      some (file.text.toList, rest) := by
  cases language with
  | java =>
      rw [pathLiteral, String.toList_ofList]
      exact Text.Escaped.read?_literal_append file.text.toList rest
  | csharp =>
      rw [pathLiteral, String.toList_ofList]
      exact Text.Verbatim.read?_literal_append file.text.toList (ends rfl)
  | javascript =>
      rw [pathLiteral, String.toList_ofList]
      exact Text.Escaped.read?_literal_append file.text.toList rest

/-- A literal with backslashes stands on one line. -/
theorem plain_of_mem_pathLiteral {language : Language} (escapes : language ≠ .csharp) {file : Path}
    {c : Char} (member : c ∈ (language.pathLiteral file).toList) : c ≠ '\n' ∧ c ≠ '\r' := by
  cases language with
  | java =>
      rw [pathLiteral, String.toList_ofList] at member
      exact Text.Escaped.plain_of_mem_literal member
  | csharp => exact absurd rfl escapes
  | javascript =>
      rw [pathLiteral, String.toList_ofList] at member
      exact Text.Escaped.plain_of_mem_literal member

/-! ## Where literals are written -/

/-- The steps write one line, and in it the literal of the path they are for, with a bracket behind
it and the same text before it whatever the path. -/
def WritesLiteral (language : Language) (load : Path → List Step) : Prop :=
  ∃ front back, ∀ file, load file = line (front ++ language.pathLiteral file ++ ")" ++ back)

/-- A variable bound to a call in which the literal is what a bracket closes. -/
theorem writesLiteral_bind (language : Language) (type binding opening closing : String)
    {call : Path → String}
    (spelt : ∀ file, call file = opening ++ language.pathLiteral file ++ ")" ++ closing) :
    language.WritesLiteral fun file => language.bind type binding (call file) := by
  cases language with
  | java =>
      refine ⟨type ++ " " ++ binding ++ " = " ++ opening, closing ++ ";", fun file => ?_⟩
      simp only [bind, spelt, String.append_assoc]
  | csharp =>
      refine ⟨type ++ " " ++ binding ++ " = " ++ opening, closing ++ ";", fun file => ?_⟩
      simp only [bind, spelt, String.append_assoc]
  | javascript =>
      refine ⟨"var " ++ binding ++ " = " ++ opening, closing ++ ";", fun file => ?_⟩
      simp only [bind, spelt, String.append_assoc]

theorem append_brackets (text : String) : text ++ ")" ++ ")" = text ++ "))" := String.append_assoc

theorem loadModel_writesLiteral (language : Language) (binding type : String) :
    language.WritesLiteral (language.loadModel binding type) := by
  cases language with
  | java =>
      refine writesLiteral_bind .java type binding "ModelIO.loadMethod(new File(" ")" ?_
      exact fun file => (append_brackets _).symm
  | csharp =>
      refine writesLiteral_bind .csharp type binding "ModelIO.LoadMethod(" "" ?_
      exact fun file => String.append_empty.symm
  | javascript =>
      refine writesLiteral_bind .javascript type binding "mlgen.loadMethod(" "" ?_
      exact fun file => String.append_empty.symm

theorem loadTrainingFile_writesLiteral (language : Language) (binding type : String) :
    language.WritesLiteral (language.loadTrainingFile binding type) := by
  cases language with
  | java =>
      refine writesLiteral_bind .java type binding "ModelIO.loadTraining(new File(" ")" ?_
      exact fun file => (append_brackets _).symm
  | csharp =>
      refine writesLiteral_bind .csharp type binding "ModelIO.LoadTraining(" "" ?_
      exact fun file => String.append_empty.symm
  | javascript =>
      refine writesLiteral_bind .javascript type binding "mlgen.loadTraining(" "" ?_
      exact fun file => String.append_empty.symm

/-- On a page such a literal is read back, whatever is written later. -/
theorem WritesLiteral.read {language : Language} {load : Path → List Step}
    (writes : language.WritesLiteral load) :
    ∃ front, ∀ (file : Path) (width : Nat) (page : Page) (later : List Step), ∃ after,
      (page.run width (load file ++ later)).text =
        page.text ++ page.margin width ++ front ++ language.pathLiteral file ++ after ∧
      language.readLiteral? (language.pathLiteral file ++ after).toList =
        some (file.text.toList, after.toList) := by
  obtain ⟨front, back, spelt⟩ := writes
  refine ⟨front, fun file width page later => ?_⟩
  have solid : front ++ language.pathLiteral file ++ ")" ++ back ≠ "" := by
    intro blank
    have characters := congrArg String.toList blank
    simp at characters
  obtain ⟨rest, written⟩ := Page.exists_text_run_line width page solid later
  refine ⟨")" ++ back ++ rest, ?_, ?_⟩
  · rw [spelt, written]
    simp only [String.append_assoc]
  · have ends : language.Ends (")" ++ back ++ rest).toList := by
      intro _ quote
      simp at quote
    rw [String.toList_append]
    exact readLiteral?_pathLiteral language file ends

/-- **The literals of paths denote the paths.** Followed by anything that does not prolong it, a
literal is read as its path and no further; with backslashes it stands on one line. Every literal
that loads a model or training rows is read back from the page on which it was written. -/
theorem pathLiteral_denotes (language : Language) :
    (∀ (file : Path) (rest : List Char), language.Ends rest →
      language.readLiteral? ((language.pathLiteral file).toList ++ rest) =
        some (file.text.toList, rest)) ∧
    (language ≠ .csharp → ∀ (file : Path), ∀ c ∈ (language.pathLiteral file).toList,
      c ≠ '\n' ∧ c ≠ '\r') ∧
    ∀ binding type : String,
      ∀ load ∈ [language.loadModel binding type, language.loadTrainingFile binding type],
        ∃ front, ∀ (file : Path) (width : Nat) (page : Page) (later : List Step), ∃ after,
          (page.run width (load file ++ later)).text =
            page.text ++ page.margin width ++ front ++ language.pathLiteral file ++ after ∧
          language.readLiteral? (language.pathLiteral file ++ after).toList =
            some (file.text.toList, after.toList) := by
  refine ⟨fun file rest ends => readLiteral?_pathLiteral language file ends,
    fun escapes file c member => plain_of_mem_pathLiteral escapes member, ?_⟩
  intro binding type load member
  simp only [List.mem_cons, List.not_mem_nil, or_false] at member
  rcases member with rfl | rfl
  · exact (language.loadModel_writesLiteral binding type).read
  · exact (language.loadTrainingFile_writesLiteral binding type).read

/-- A path of quotes, with a line end and a backslash behind them. -/
def awkward : Path := ⟨"\"\"a\n\\"⟩

theorem pathLiteral_denotes_awkward :
    Language.java.readLiteral? ((Language.java.pathLiteral awkward).toList ++ ['"']) =
        some (awkward.text.toList, ['"']) ∧
      '\n' ∉ (Language.java.pathLiteral awkward).toList ∧
      Language.csharp.Ends [')'] ∧
      Language.csharp.readLiteral? ((Language.csharp.pathLiteral awkward).toList ++ [')']) =
        some (awkward.text.toList, [')']) := by
  obtain ⟨escaped, plain, -⟩ := pathLiteral_denotes .java
  obtain ⟨verbatim, -⟩ := pathLiteral_denotes .csharp
  have ends : Language.csharp.Ends [')'] := by
    intro _
    decide
  refine ⟨escaped awkward ['"'] nofun, ?_, ends, verbatim awkward [')'] ends⟩
  exact fun member => (plain (by decide) awkward '\n' member).1 rfl

end Language

end ModelExport
