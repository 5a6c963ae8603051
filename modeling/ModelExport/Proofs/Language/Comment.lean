/-
# ModelExport.Proofs.Language.Comment — when a text stays in its comment

A comment is cut into lines at line feeds, and at carriage returns before line
feeds. The languages end a line at more characters than that: all three at any
carriage return, two of them at U+2028 and U+2029, and one at U+0085. What follows
such a character within a line of the text is source, not comment, unless it is
blank or happens to start a comment of its own. `comment_covered_iff` is the exact
condition; `comment_uncovered` is a text that leaves its comment in every language.
-/
import ModelExport.Language
import ModelExport.Proofs.Layout.Level
import ModelExport.Proofs.Text.Lines
import ModelExport.Text.Blank

set_option autoImplicit false

namespace ModelExport.Language

open Layout

/-! ## Lines of a source text -/

/-- Whether a character ends a line of source text. -/
def terminates : Language → Char → Bool
  | .java, c => c == '\n' || c == '\r'
  | .csharp, c => c == '\n' || c == '\r' || c == '\u0085' || c == '\u2028' || c == '\u2029'
  | .javascript, c => c == '\n' || c == '\r' || c == '\u2028' || c == '\u2029'

/-- The lines of a source text; a carriage return and a line feed after it end a line together. -/
def sourceLines (language : Language) : List Char → List (List Char)
  | [] => [[]]
  | '\r' :: '\n' :: rest => [] :: language.sourceLines rest
  | c :: rest =>
      if language.terminates c then [] :: language.sourceLines rest
      else (language.sourceLines rest).modifyHead (c :: ·)

variable (language : Language)

theorem terminates_newline : language.terminates '\n' = true := by cases language <;> rfl

theorem terminates_return : language.terminates '\r' = true := by cases language <;> rfl

theorem sourceLines_ne_nil (text : List Char) : language.sourceLines text ≠ [] := by
  fun_induction sourceLines language text with
  | case1 => exact List.cons_ne_nil _ _
  | case2 rest => exact List.cons_ne_nil _ _
  | case3 c rest paired ended => exact List.cons_ne_nil _ _
  | case4 c rest paired plain ih =>
      cases read : language.sourceLines rest with
      | nil => exact absurd read ih
      | cons first others => exact List.cons_ne_nil _ _

/-- A character that ends a line, unless it does so together with the next. -/
theorem sourceLines_terminator {c : Char} {rest : List Char}
    (paired : ∀ others, c = '\r' → rest = '\n' :: others → False)
    (ended : language.terminates c = true) :
    language.sourceLines (c :: rest) = [] :: language.sourceLines rest := by
  rw [sourceLines]
  · rw [if_pos ended]
  · exact paired

/-- A character that ends no line belongs to the first line. -/
theorem sourceLines_cons {c : Char} (plain : language.terminates c = false) (rest : List Char) :
    language.sourceLines (c :: rest) = (language.sourceLines rest).modifyHead (c :: ·) := by
  rw [sourceLines]
  · rw [if_neg (by simp [plain])]
  · rintro _ rfl -
    rw [terminates_return] at plain
    cases plain

theorem sourceLines_prepend {front : List Char} (plain : ∀ c ∈ front, language.terminates c = false)
    (rest : List Char) :
    language.sourceLines (front ++ rest) = (language.sourceLines rest).modifyHead (front ++ ·) := by
  induction front with
  | nil =>
      rw [List.nil_append]
      cases language.sourceLines rest <;> rfl
  | cons c front ih =>
      rw [List.cons_append, sourceLines_cons language (plain c List.mem_cons_self),
        ih fun other member => plain other (List.mem_cons_of_mem _ member)]
      cases language.sourceLines rest <;> rfl

/-- A line feed parts the lines before it from those after it. The lines before it lose an empty
one if the line feed belongs to a carriage return. -/
theorem sourceLines_append_newline (front back : List Char) :
    language.sourceLines (front ++ '\n' :: back) =
        language.sourceLines front ++ language.sourceLines back ∨
      ∃ first others, language.sourceLines front = first :: others ++ [[]] ∧
        language.sourceLines (front ++ '\n' :: back) =
          first :: others ++ language.sourceLines back := by
  fun_induction sourceLines language front with
  | case1 =>
      refine .inl (sourceLines_terminator language ?_ language.terminates_newline)
      rintro _ ⟨⟩
  | case2 rest ih =>
      rw [List.cons_append, List.cons_append, sourceLines]
      obtain same | ⟨first, others, before, after⟩ := ih
      · exact .inl (by rw [same]; rfl)
      · exact .inr ⟨[], first :: others, by rw [before]; rfl, by rw [after]; rfl⟩
  | case3 c rest paired ended ih =>
      by_cases last : c = '\r' ∧ rest = []
      · obtain ⟨rfl, rfl⟩ := last
        exact .inr ⟨[], [], rfl, by rw [List.cons_append, List.nil_append, sourceLines]; rfl⟩
      have apart : ∀ others, c = '\r' → rest ++ '\n' :: back = '\n' :: others → False := by
        intro others returned fed
        cases rest with
        | nil => exact last ⟨returned, rfl⟩
        | cons next rest => exact paired rest returned (by rw [(List.cons.inj fed).1])
      rw [List.cons_append, sourceLines_terminator language apart ended]
      obtain same | ⟨first, others, before, after⟩ := ih
      · exact .inl (by rw [same]; rfl)
      · exact .inr ⟨[], first :: others, by rw [before]; rfl, by rw [after]; rfl⟩
  | case4 c rest paired plain ih =>
      have plain : language.terminates c = false := by simpa using plain
      rw [List.cons_append, sourceLines_cons language plain]
      obtain same | ⟨first, others, before, after⟩ := ih
      · refine .inl ?_
        rw [same]
        cases read : language.sourceLines rest with
        | nil => exact absurd read (language.sourceLines_ne_nil rest)
        | cons first others => rfl
      · exact .inr ⟨c :: first, others, by rw [before]; rfl, by rw [after]; rfl⟩

/-! ## Lines that are comment -/

/-- A line that is blank, or a comment after its spaces. -/
def Covered (line : List Char) : Prop :=
  (∀ c ∈ line, Text.isBlank c = true) ∨ ['/', '/'] <+: line.dropWhile (· == ' ')

theorem covered_nil : Covered [] := .inl fun _ member => nomatch member

/-- Whether lines are covered can be asked on the two sides of a line feed. -/
theorem covered_append_newline (front back : List Char) :
    (∀ line ∈ language.sourceLines (front ++ '\n' :: back), Covered line) ↔
      (∀ line ∈ language.sourceLines front, Covered line) ∧
        ∀ line ∈ language.sourceLines back, Covered line := by
  obtain same | ⟨first, others, before, after⟩ := language.sourceLines_append_newline front back
  · rw [same, List.forall_mem_append]
  · rw [before, after, List.forall_mem_append, List.forall_mem_append]
    have last : ∀ line ∈ [([] : List Char)], Covered line := by
      simpa using covered_nil
    exact ⟨fun all => ⟨⟨all.1, last⟩, all.2⟩, fun all => ⟨all.1.1, all.2⟩⟩

/-- The first line that a comment is spelled as is covered. What the language takes for further
lines is up to the content. -/
theorem covered_commentLine (count : Nat) (content : List Char) :
    (∀ line ∈ language.sourceLines
        (List.replicate count ' ' ++ (commentLine content).toList), Covered line) ↔
      ∀ line ∈ (language.sourceLines content).tail, Covered line := by
  have started (rest : List Char) : Covered (List.replicate count ' ' ++ ('/' :: '/' :: rest)) := by
    refine .inr ⟨rest, ?_⟩
    rw [List.dropWhile_append_of_pos (by simp)]
    rfl
  have margin : ∀ c ∈ List.replicate count ' ', language.terminates c = false := by
    intro c member
    rw [(List.mem_replicate.1 member).2]
    cases language <;> rfl
  rw [sourceLines_prepend language margin, commentLine]
  split
  · rename_i empty
    subst empty
    have bare : language.sourceLines "//".toList = [['/', '/']] := by cases language <;> rfl
    rw [bare, List.modifyHead_cons, sourceLines]
    exact iff_of_true (List.forall_mem_singleton.2 (started [])) (List.forall_mem_nil _)
  · have slashes : ∀ c ∈ ['/', '/', ' '], language.terminates c = false := by
      rw [List.forall_mem_cons, List.forall_mem_cons, List.forall_mem_singleton]
      cases language <;> exact ⟨rfl, rfl, rfl⟩
    have spelt : ("// " ++ String.ofList content).toList = ['/', '/', ' '] ++ content := by simp
    rw [spelt, sourceLines_prepend language slashes]
    cases read : language.sourceLines content with
    | nil => exact absurd read (language.sourceLines_ne_nil content)
    | cons first others =>
        rw [List.modifyHead_cons, List.modifyHead_cons, List.tail_cons, List.forall_mem_cons]
        exact and_iff_right (started (' ' :: first))

/-! ## Comments -/

/-- The lines of a text as a comment has them: at least one. -/
def commentLines (text : String) : List (List Char) :=
  if text = "" then [[]] else Text.lines text.toList

theorem comment_eq (text : String) :
    comment text = (commentLines text).flatMap fun content => line (commentLine content) := by
  rw [comment, commentLines]
  split <;> rfl

theorem commentLine_ne_empty (content : List Char) : commentLine content ≠ "" := by
  rw [commentLine]
  split
  · decide
  · intro empty
    have spelt := congrArg String.toList empty
    rw [String.toList_append] at spelt
    cases spelt

/-- What a comment writes: every line after a margin, with a line feed at its end. -/
theorem toList_written_comment (width level : Nat) (text : String) :
    (written width level (comment text)).toList =
      (commentLines text).flatMap fun content =>
        List.replicate (indentation width level) ' ' ++ (commentLine content).toList ++ ['\n'] := by
  rw [comment_eq, Leads.written_flatMap _ fun content _ => leads_line level (commentLine content),
    String.toList_join, List.flatMap_map]
  congr 1
  funext content
  simp [written_line (commentLine_ne_empty content), Page.spaces]

/-- **A text stays in its comment exactly when the language sees nothing but blank lines and
comments after the first line of each of its lines.** -/
theorem comment_covered_iff (width level : Nat) (text : String) :
    (∀ line ∈ language.sourceLines (written width level (comment text)).toList, Covered line) ↔
      ∀ content ∈ Text.lines text.toList,
        ∀ line ∈ (language.sourceLines content).tail, Covered line := by
  rw [toList_written_comment]
  have folded (contents : List (List Char)) :
      (∀ line ∈ language.sourceLines (contents.flatMap fun content =>
          List.replicate (indentation width level) ' ' ++ (commentLine content).toList ++ ['\n']),
          Covered line) ↔
        ∀ content ∈ contents, ∀ line ∈ (language.sourceLines content).tail, Covered line := by
    induction contents with
    | nil => exact iff_of_true (List.forall_mem_singleton.2 covered_nil) (List.forall_mem_nil _)
    | cons content rest ih =>
        rw [List.flatMap_cons, List.append_assoc _ ['\n'], List.singleton_append,
          covered_append_newline, covered_commentLine, ih, List.forall_mem_cons]
  rw [folded, commentLines]
  split
  · rename_i empty
    subst empty
    exact iff_of_true (List.forall_mem_singleton.2 (List.forall_mem_nil _)) (List.forall_mem_nil _)
  · rfl

/-- **In no language does every text stay in its comment**: a carriage return that no line feed
follows leads out of it. -/
theorem comment_uncovered :
    ¬ ∃ language : Language, ∀ (width level : Nat) (text : String),
      ∀ line ∈ language.sourceLines (written width level (comment text)).toList, Covered line := by
  rintro ⟨language, all⟩
  have content : "a\rb".toList ∈ Text.lines "a\rb".toList := by decide
  have rest : ['b'] ∈ (language.sourceLines "a\rb".toList).tail := by cases language <;> decide
  have covered := (language.comment_covered_iff 4 0 "a\rb").1 (all 4 0 "a\rb") _ content _ rest
  obtain blank | started := covered
  · exact absurd (blank 'b' List.mem_cons_self) (by decide)
  · revert started
    decide

end ModelExport.Language
