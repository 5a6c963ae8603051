/-
# ModelExport.Proofs.Template.Lines — templates line by line

A line of a template is `SelfContained` if what starts in it ends in it. A template
of such lines is filled line by line (`fill_lines`), so the breaks of its document are
its own and those of the values that are put in (`breaks_fill_lines`). If the values
have none, the rows of the document are the rows of the template, filled
(`rows_fill_lines`), and a row that is a remark stays one (`Remark.fill`).
-/
import Mathlib.Algebra.GroupWithZero.Nat
import ModelExport.Proofs.Template.Grammar

set_option autoImplicit false

namespace ModelExport

namespace Text

/-- Whether a character ends a line: a line feed or a carriage return. -/
def isBreak (c : Char) : Bool := c == '\n' || c == '\r'

/-- How many characters of a text end a line. -/
def breaks (text : List Char) : Nat := text.countP isBreak

/-- A text parted at the characters that end a line. -/
def rows (text : List Char) : List (List Char) := text.splitOnP isBreak

@[simp] theorem breaks_append (front back : List Char) :
    breaks (front ++ back) = breaks front + breaks back := List.countP_append

theorem breaks_eq_zero {text : List Char} : breaks text = 0 ↔ ∀ c ∈ text, isBreak c = false := by
  simp [breaks, List.countP_eq_zero]

theorem rows_append_newline {line : List Char} (unbroken : breaks line = 0) (rest : List Char) :
    rows (line ++ '\n' :: rest) = line :: rows rest :=
  List.splitOnP_append_cons_of_forall_mem (breaks_eq_zero.1 unbroken) '\n' rfl rest

/-- Lines with a line feed after each are the rows, and after the last line feed there is one row
more. -/
theorem rows_lines {lines : List (List Char)} (unbroken : ∀ line ∈ lines, breaks line = 0) :
    rows (lines.flatMap (· ++ ['\n'])) = lines ++ [[]] := by
  induction lines with
  | nil => rfl
  | cons line rest ih =>
      obtain ⟨first, others⟩ := List.forall_mem_cons.1 unbroken
      rw [List.flatMap_cons, List.append_assoc, List.singleton_append, rows_append_newline first,
        ih others]
      rfl

end Text

namespace Template

open Text (breaks rows)

/-- Everything that starts in a text ends in it. -/
def SelfContained (text : List Char) : Prop :=
  ∀ literal, .literal literal ∈ pieces text → cutAt '\x7b' literal = none

variable {line : List Char}

/-! ## Lines that are filled by themselves -/

/-- **What is read off the pieces of a template is read off a self-contained line by itself.** -/
theorem SelfContained.flatMap_pieces {β : Type} (contained : SelfContained line)
    (read : Piece → List β)
    (parts : ∀ a b, read (.literal (a ++ b)) = read (.literal a) ++ read (.literal b))
    (rest : List Char) :
    (pieces (line ++ '\n' :: rest)).flatMap read =
      (pieces line).flatMap read ++ read (.literal ['\n']) ++ (pieces rest).flatMap read := by
  induction line using pieces.induct with
  | case1 line unstarted =>
      have closed : cutAt '\x7b' (line ++ ['\n']) = none := by
        rw [cutAt_eq_none_iff] at unstarted ⊢
        intro twice
        rcases List.infix_concat_iff.1 twice with ⟨before, last⟩ | inner
        · have ends := congrArg List.getLast? last
          simp at ends
        · exact unstarted inner
      have ends : (line ++ ['\n']).getLast? ≠ some '\x7b' := by
        rw [List.getLast?_concat]
        decide
      have split := flatMap_pieces_append read parts closed ends rest
      rw [List.append_assoc, List.singleton_append, parts] at split
      rw [split, pieces_of_no_start unstarted, List.flatMap_singleton]
  | case2 line front inside started unended =>
      have none := contained line (by rw [pieces_of_no_stop started unended]; exact List.mem_cons_self)
      rw [started] at none
      cases none
  | case3 line front inside started key back stopped shorter ih =>
      have later : SelfContained back := by
        intro literal member
        apply contained
        rw [pieces_of_cuts started stopped]
        exact List.mem_cons_of_mem _ (List.mem_cons_of_mem _ member)
      rw [pieces_of_cuts (cutAt_append_of_some started _) (cutAt_append_of_some stopped _),
        pieces_of_cuts started stopped]
      simp only [List.flatMap_cons, ih later, List.append_assoc]

theorem SelfContained.fill_append (contained : SelfContained line)
    (value? : List Char → Option (List Char)) (rest : List Char) :
    fill value? (line ++ '\n' :: rest) = fill value? line ++ ['\n'] ++ fill value? rest :=
  contained.flatMap_pieces (Piece.fill value?) (fun _ _ => rfl) rest

theorem SelfContained.keys_append (contained : SelfContained line) (rest : List Char) :
    keys (line ++ '\n' :: rest) = keys line ++ keys rest := by
  have split := contained.flatMap_pieces (fun part => part.key?.toList) (fun _ _ => rfl) rest
  simp only [← List.filterMap_eq_flatMap_toList] at split
  rw [keys, split]
  exact congrArg (· ++ keys rest) (List.append_nil _)

/-- **Self-contained lines are filled one by one.** -/
theorem fill_lines {lines : List (List Char)} (contained : ∀ line ∈ lines, SelfContained line)
    (value? : List Char → Option (List Char)) :
    fill value? (lines.flatMap (· ++ ['\n'])) =
      (lines.map (fill value?)).flatMap (· ++ ['\n']) := by
  induction lines with
  | nil => exact fill_of_no_start rfl
  | cons line rest ih =>
      obtain ⟨first, others⟩ := List.forall_mem_cons.1 contained
      rw [List.map_cons, List.flatMap_cons, List.flatMap_cons, ← ih others,
        List.append_assoc line, List.singleton_append]
      exact first.fill_append value? _

theorem keys_lines {lines : List (List Char)} (contained : ∀ line ∈ lines, SelfContained line) :
    keys (lines.flatMap (· ++ ['\n'])) = lines.flatMap keys := by
  induction lines with
  | nil =>
      rw [List.flatMap_nil, keys, pieces_nil]
      rfl
  | cons line rest ih =>
      obtain ⟨first, others⟩ := List.forall_mem_cons.1 contained
      rw [List.flatMap_cons, List.flatMap_cons, ← ih others, List.append_assoc,
        List.singleton_append]
      exact first.keys_append _

/-! ## Breaks -/

theorem mem_of_literal {text literal : List Char} (member : .literal literal ∈ pieces text) :
    ∀ c ∈ literal, c ∈ text := by
  induction text using pieces.induct with
  | case1 text unstarted =>
      rw [pieces_of_no_start unstarted] at member
      obtain rfl := Piece.literal.inj (List.mem_singleton.1 member)
      exact fun c inside => inside
  | case2 text front inside started unended =>
      rw [pieces_of_no_stop started unended] at member
      obtain rfl := Piece.literal.inj (List.mem_singleton.1 member)
      exact fun c inside => inside
  | case3 text front inside started key back stopped shorter ih =>
      have whole := eq_of_cutAt _ _ _ _ started
      have behind := eq_of_cutAt _ _ _ _ stopped
      rw [pieces_of_cuts started stopped] at member
      intro c within
      rw [whole, behind]
      simp only [List.mem_cons, Piece.literal.injEq, reduceCtorEq, false_or] at member
      rcases member with rfl | later
      · exact List.mem_append_left _ within
      · have found := ih later c within
        simp [found]

/-- A text without breaks is filled to one that has those of its values. -/
theorem breaks_fill {text : List Char} (unbroken : breaks text = 0)
    (value? : List Char → Option (List Char)) :
    breaks (fill value? text) =
      ((keys text).map fun key => breaks ((value? key).getD [])).sum := by
  have literals : ∀ literal, .literal literal ∈ pieces text → breaks literal = 0 := by
    intro literal member
    rw [Text.breaks_eq_zero] at unbroken ⊢
    exact fun c inside => unbroken c (mem_of_literal member c inside)
  rw [fill, keys]
  generalize pieces text = parts at literals
  induction parts with
  | nil => rfl
  | cons part rest ih =>
      have others := ih fun literal member => literals literal (List.mem_cons_of_mem _ member)
      rw [List.flatMap_cons, Text.breaks_append, others]
      cases part with
      | literal text =>
          rw [List.filterMap_cons_none rfl, Piece.fill, literals text List.mem_cons_self,
            Nat.zero_add]
      | placeholder key =>
          have asked : (Piece.placeholder key).key? = some key := rfl
          rw [List.filterMap_cons_some asked, List.map_cons, List.sum_cons, Piece.fill]

theorem breaks_lines (lines : List (List Char)) :
    breaks (lines.flatMap (· ++ ['\n'])) = lines.length + (lines.map breaks).sum := by
  induction lines with
  | nil => rfl
  | cons line rest ih =>
      have ended : breaks ['\n'] = 1 := rfl
      simp only [List.flatMap_cons, Text.breaks_append, ih, ended, List.length_cons, List.map_cons,
        List.sum_cons]
      omega

/-- **The breaks of a document are those of the template and of the values put in.** -/
theorem breaks_fill_lines {lines : List (List Char)} (contained : ∀ line ∈ lines, SelfContained line)
    (unbroken : ∀ line ∈ lines, breaks line = 0) (value? : List Char → Option (List Char)) :
    breaks (fill value? (lines.flatMap (· ++ ['\n']))) =
      breaks (lines.flatMap (· ++ ['\n'])) +
        ((keys (lines.flatMap (· ++ ['\n']))).map fun key => breaks ((value? key).getD [])).sum := by
  have own : (lines.map breaks).sum = 0 := by
    rw [List.sum_eq_zero_iff_forall_eq_nat, List.forall_mem_map]
    exact unbroken
  have inserted : (lines.map (breaks ∘ fill value?)).sum =
      ((lines.flatMap keys).map fun key => breaks ((value? key).getD [])).sum := by
    clear own contained
    induction lines with
    | nil => rfl
    | cons line rest ih =>
        obtain ⟨first, others⟩ := List.forall_mem_cons.1 unbroken
        rw [List.map_cons, List.sum_cons, List.flatMap_cons, List.map_append, List.sum_append,
          ih others, Function.comp_apply, breaks_fill first]
  rw [fill_lines contained, keys_lines contained, breaks_lines, breaks_lines, List.length_map,
    List.map_map, inserted, own, Nat.add_zero]

/-- **If the values have no breaks, the rows of the document are those of the template, filled.** -/
theorem rows_fill_lines {lines : List (List Char)} (contained : ∀ line ∈ lines, SelfContained line)
    (unbroken : ∀ line ∈ lines, breaks line = 0) {value? : List Char → Option (List Char)}
    (plain : ∀ key ∈ keys (lines.flatMap (· ++ ['\n'])), breaks ((value? key).getD []) = 0) :
    rows (fill value? (lines.flatMap (· ++ ['\n']))) =
      (rows (lines.flatMap (· ++ ['\n']))).map (fill value?) := by
  have filled : ∀ row ∈ lines.map (fill value?), breaks row = 0 := by
    rw [List.forall_mem_map]
    intro line member
    rw [breaks_fill (unbroken line member), List.sum_eq_zero_iff_forall_eq_nat, List.forall_mem_map]
    intro key asked
    apply plain
    rw [keys_lines contained]
    exact List.mem_flatMap.2 ⟨line, member, asked⟩
  rw [fill_lines contained, Text.rows_lines filled, Text.rows_lines unbroken, List.map_append,
    List.map_singleton]
  exact congrArg _ (congrArg ([·]) (fill_of_no_start rfl).symm)

/-! ## Remarks -/

/-- A line that is a comment after its spaces. -/
def Remark (line : List Char) : Prop := ['/', '/'] <+: line.dropWhile (· == ' ')

/-- A remark stays one when it is filled. -/
theorem Remark.fill (remark : Remark line) (value? : List Char → Option (List Char)) :
    Remark (fill value? line) := by
  obtain ⟨rest, slashed⟩ := remark
  obtain ⟨margin, spaces, whole⟩ : ∃ margin : List Char, (∀ c ∈ margin, (c == ' ') = true) ∧
      line = margin ++ ['/', '/'] ++ rest := by
    refine ⟨line.takeWhile (· == ' '), fun c member => ?_, ?_⟩
    · exact List.all_eq_true.1 List.all_takeWhile c member
    · rw [List.append_assoc, slashed]
      exact List.takeWhile_append_dropWhile.symm
  have unstarted : cutAt '\x7b' (margin ++ ['/', '/']) = none := by
    rw [cutAt_eq_none_iff]
    intro twice
    have inside : '\x7b' ∈ margin ++ ['/', '/'] := twice.subset List.mem_cons_self
    rcases List.mem_append.1 inside with blank | slash
    · exact absurd (spaces _ blank) (by decide)
    · exact absurd slash (by decide)
  have ends : (margin ++ ['/', '/']).getLast? ≠ some '\x7b' := by
    simp
  rw [whole, fill_append unstarted ends, Remark, List.append_assoc,
    List.dropWhile_append_of_pos spaces]
  exact ⟨Template.fill value? rest, rfl⟩

end Template

end ModelExport
