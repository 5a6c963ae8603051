/-
# ModelExport.Proofs.Path.Components — what a path is made of

Cutting a text at its slashes and joining the segments again are inverse to each
other (`joined_segments`, `segments_joined`). A path is bare exactly if it has one
component at most (`isBare_iff`). A path of one component, taken from the directory
that holds another path, is held by the same directory (`parent?_join`).
-/
import Mathlib.Data.List.DropRight
import ModelExport.Path

set_option autoImplicit false

namespace ModelExport.Path

/-- A relative path of one component that is no dot: an entry of a directory, or the directory
above. -/
structure IsSingle (p : Path) : Prop where
  relative : p.isAbsolute = false
  alone : ∃ c, p.components = [c] ∧ c ≠ ['.']

/-- What is put between a directory and a name in it. -/
def separator (base : Path) : String :=
  if base.text.toList = [] ∨ base.text.toList.getLast? = some '/' then "" else "/"

/-! ## Segments -/

theorem segments_ne_nil (text : List Char) : segments text ≠ [] := by
  fun_induction segments text with
  | case1 => exact List.cons_ne_nil _ _
  | case2 rest ih => exact List.cons_ne_nil _ _
  | case3 c rest plain empty ih => exact List.cons_ne_nil _ _
  | case4 c rest plain segment others cut ih => exact List.cons_ne_nil _ _

theorem segments_eq_splitOn (text : List Char) : segments text = text.splitOn '/' := by
  fun_induction segments text with
  | case1 => rfl
  | case2 rest ih => rw [List.splitOn_cons_eq_if_modifyHead, if_pos (beq_self_eq_true '/'), ih]
  | case3 c rest plain empty ih => exact absurd empty (segments_ne_nil rest)
  | case4 c rest plain segment others cut ih =>
      rw [List.splitOn_cons_eq_if_modifyHead, if_neg fun slash => plain (beq_iff_eq.1 slash), ← ih,
        cut, List.modifyHead_cons]

theorem joined_eq_intercalate (parts : List (List Char)) :
    joined parts = ['/'].intercalate parts := by
  fun_induction joined parts with
  | case1 => rfl
  | case2 segment => exact List.intercalate_singleton.symm
  | case3 segment others more ih =>
      rw [ih, List.intercalate_cons_of_ne_nil fun none => more none, List.append_assoc,
        List.singleton_append]

/-- A slash parts the segments before it from those after it. -/
theorem segments_append (front back : List Char) :
    segments (front ++ '/' :: back) = segments front ++ segments back := by
  simp only [segments_eq_splitOn, List.splitOn_append_cons_self]

theorem joined_segments (text : List Char) : joined (segments text) = text := by
  rw [segments_eq_splitOn, joined_eq_intercalate, List.intercalate_splitOn]

theorem segments_joined {parts : List (List Char)} (some : parts ≠ [])
    (plain : ∀ part ∈ parts, '/' ∉ part) : segments (joined parts) = parts := by
  rw [segments_eq_splitOn, joined_eq_intercalate, List.splitOn_intercalate '/' plain some]

theorem slash_not_mem_of_mem_segments {text segment : List Char}
    (member : segment ∈ segments text) : '/' ∉ segment := by
  fun_induction segments text generalizing segment with
  | case1 => rw [List.mem_singleton.1 member]; exact List.not_mem_nil
  | case2 rest ih =>
      obtain rfl | later := List.mem_cons.1 member
      · exact List.not_mem_nil
      · exact ih later
  | case3 c rest plain empty ih => exact absurd empty (segments_ne_nil rest)
  | case4 c rest plain first others cut ih =>
      rw [cut] at ih
      obtain rfl | later := List.mem_cons.1 member
      · rw [List.mem_cons, not_or]
        exact ⟨fun slash => plain slash.symm, ih List.mem_cons_self⟩
      · exact ih (List.mem_cons_of_mem _ later)

/-- A path is empty, or starts at the root, or starts with a segment that is not empty. -/
theorem segments_cases (p : Path) :
    (p.isAbsolute = false ∧ segments p.text.toList = [[]]) ∨
    (p.isAbsolute = true ∧ ∃ others, segments p.text.toList = [] :: others) ∨
    (p.isAbsolute = false ∧ ∃ first others, first ≠ [] ∧
      segments p.text.toList = first :: others) := by
  rw [isAbsolute]
  cases p.text.toList with
  | nil => exact .inl ⟨rfl, rfl⟩
  | cons c rest =>
      by_cases slash : c = '/'
      · subst slash
        exact .inr (.inl ⟨rfl, _, rfl⟩)
      · obtain ⟨first, others, cut⟩ := List.exists_cons_of_ne_nil (segments_ne_nil rest)
        refine .inr (.inr ⟨?_, c :: first, others, List.cons_ne_nil _ _, ?_⟩)
        · simpa using slash
        · rw [segments_eq_splitOn] at cut ⊢
          rw [List.splitOn_cons_eq_if_modifyHead, if_neg fun same => slash (beq_iff_eq.1 same), cut,
            List.modifyHead_cons]

/-! ## Segments that name nothing -/

theorem dropIdle_eq_nil {parts : List (List Char)} :
    dropIdle parts = [] ↔ ∀ part ∈ parts, isIdle part = true :=
  List.rdropWhile_eq_nil_iff

/-- Idle segments behind one that is not idle are dropped. -/
theorem dropIdle_append {idle : List (List Char)} (all : ∀ part ∈ idle, isIdle part = true)
    {last : List Char} (solid : isIdle last = false) (front : List (List Char)) :
    dropIdle (front ++ last :: idle) = front ++ [last] := by
  have dropped : dropIdle (front ++ [last]) = front ++ [last] :=
    List.rdropWhile_concat_neg isIdle front last (by simp [solid])
  rw [List.append_cons, dropIdle, List.reverse_append,
    List.dropWhile_append_of_pos fun part member => all part (List.mem_reverse.1 member)]
  exact dropped

theorem dropIdle_dropIdle (parts : List (List Char)) : dropIdle (dropIdle parts) = dropIdle parts :=
  List.rdropWhile_idempotent isIdle parts

theorem mem_of_mem_dropIdle {parts : List (List Char)} {part : List Char}
    (member : part ∈ dropIdle parts) : part ∈ parts :=
  (List.rdropWhile_prefix isIdle parts).subset member

/-! ## Bare paths -/

variable {p : Path} {first : List Char} {others : List (List Char)}

theorem joined_ne_nil (anchored : others ≠ [] ∨ first ≠ []) : joined (first :: others) ≠ [] := by
  cases others with
  | nil => simpa [joined] using anchored
  | cons next rest => simp [joined]

/-- If all segments behind the first are idle, nothing is left before the last component. -/
theorem parent?_of_idle (cut : segments p.text.toList = first :: others)
    (idle : ∀ part ∈ others, isIdle part = true) :
    p.parent? = if first = [] then none else some ⟨""⟩ := by
  rw [parent?, cut]
  exact if_pos (dropIdle_eq_nil.2 idle)

/-- Otherwise what is left is the root, or the segments before the last one that is not idle. -/
theorem parent?_of_not_idle (cut : segments p.text.toList = first :: others)
    (named : dropIdle others ≠ []) :
    p.parent? =
      let kept := dropIdle (dropIdle others).dropLast
      some (if kept = [] ∧ first = [] then ⟨"/"⟩ else ⟨.ofList (joined (first :: kept))⟩) := by
  rw [parent?, cut]
  exact (if_neg named).trans (apply_ite some _ _ _).symm

/-- A path that no directory holds has idle segments only. -/
theorem idle_of_parent?_eq_none (held : p.parent? = none) :
    ∀ part ∈ segments p.text.toList, isIdle part = true := by
  obtain ⟨first, others, cut⟩ := List.exists_cons_of_ne_nil (segments_ne_nil p.text.toList)
  rw [cut, List.forall_mem_cons]
  by_cases idle : ∀ part ∈ others, isIdle part = true
  · rw [parent?_of_idle cut idle] at held
    by_cases empty : first = []
    · exact ⟨by rw [empty]; rfl, idle⟩
    · rw [if_neg empty] at held
      cases held
  · rw [parent?_of_not_idle cut fun none => idle (dropIdle_eq_nil.1 none)] at held
    cases held

/-- A path is bare if all its segments behind the first are idle. -/
theorem isBare_iff_idle (cut : segments p.text.toList = first :: others) :
    p.isBare = true ↔ ∀ part ∈ others, isIdle part = true := by
  rw [isBare]
  by_cases idle : ∀ part ∈ others, isIdle part = true
  · refine iff_of_true ?_ idle
    rw [parent?_of_idle cut idle]
    by_cases empty : first = []
    · rw [if_pos empty]
    · rw [if_neg empty]
      rfl
  · refine iff_of_false ?_ idle
    rw [parent?_of_not_idle cut fun none => idle (dropIdle_eq_nil.1 none)]
    dsimp only
    split
    · decide
    · next apart =>
      rw [String.toList_ofList, beq_iff_eq]
      exact joined_ne_nil (not_and_or.1 apart)

/-- **A path is bare exactly if it has one component at most.** -/
theorem isBare_iff (p : Path) : p.isBare = true ↔ p.components.length ≤ 1 := by
  have idle (others : List (List Char)) :
      (others.filter fun part => !isIdle part) = [] ↔ ∀ part ∈ others, isIdle part = true := by
    simp [List.filter_eq_nil_iff]
  obtain ⟨relative, cut⟩ | ⟨absolute, others, cut⟩ | ⟨relative, first, others, filled, cut⟩ :=
    p.segments_cases
  · rw [isBare_iff_idle cut, components, cut, relative]
    simp
  · rw [isBare_iff_idle cut, components, cut, absolute, ← idle]
    simp
  · rw [isBare_iff_idle cut, components, cut, relative, ← idle]
    simp [filled]

example : (Path.mk "./a//b/.").components = [['.'], ['a'], ['b']] := by decide

/-! ## Paths in one directory -/

theorem join_of_absolute {name : Path} (absolute : name.isAbsolute = true) (base : Path) :
    base.join name = name := if_pos absolute

/-- A relative path is put behind the directory and a separator. -/
theorem join_of_relative {name : Path} (relative : name.isAbsolute = false) (base : Path) :
    base.join name = ⟨base.text ++ base.separator ++ name.text⟩ := by
  rw [join, if_neg (Bool.eq_false_iff.1 relative), separator]
  dsimp only
  split
  · rw [String.append_empty]
  · rfl

/-- A directory that holds a path is the working directory, or the root, or a path without idle
segments at its end. -/
theorem segments_of_parent? {directory : Path} (parent : p.parent? = some directory) :
    directory.text = "" ∨ directory.text = "/" ∨
      ∃ first kept, segments directory.text.toList = first :: kept ∧ (kept ≠ [] ∨ first ≠ []) ∧
        dropIdle kept = kept := by
  obtain ⟨first, others, cut⟩ := List.exists_cons_of_ne_nil (segments_ne_nil p.text.toList)
  by_cases idle : ∀ part ∈ others, isIdle part = true
  · rw [parent?_of_idle cut idle] at parent
    split at parent
    · cases parent
    · cases parent
      exact .inl rfl
  · rw [parent?_of_not_idle cut fun none => idle (dropIdle_eq_nil.1 none)] at parent
    obtain rfl := Option.some.inj parent
    split
    · exact .inr (.inl rfl)
    · next apart =>
      refine .inr (.inr ⟨first, dropIdle (dropIdle others).dropLast, ?_, not_and_or.1 apart,
        dropIdle_dropIdle _⟩)
      rw [String.toList_ofList]
      refine segments_joined (List.cons_ne_nil _ _) ?_
      intro part member
      have among : part ∈ segments p.text.toList := by
        rw [cut]
        obtain rfl | later := List.mem_cons.1 member
        · exact List.mem_cons_self
        · exact List.mem_cons_of_mem _
            (mem_of_mem_dropIdle (List.dropLast_subset _ (mem_of_mem_dropIdle later)))
      exact slash_not_mem_of_mem_segments among

/-- A single name is its component and idle segments. -/
theorem segments_of_isSingle (single : p.IsSingle) :
    ∃ c idle, segments p.text.toList = c :: idle ∧ c ≠ [] ∧ isIdle c = false ∧
      ∀ part ∈ idle, isIdle part = true := by
  obtain ⟨relative, c, alone, named⟩ := single
  obtain ⟨-, cut⟩ | ⟨absolute, -⟩ | ⟨-, first, others, filled, cut⟩ := p.segments_cases
  · rw [components, cut, relative] at alone
    cases alone
  · rw [relative] at absolute
    cases absolute
  · have parts : first :: (others.filter fun part => !isIdle part) = [c] := by
      rw [← alone, components, cut, relative]
      simp [filled]
    obtain ⟨rfl, none⟩ := List.cons.inj parts
    refine ⟨first, others, cut, filled, by simp [isIdle, filled, named], fun part member => ?_⟩
    simpa using List.filter_eq_nil_iff.1 none part member

/-- The path without a last component that is not idle. -/
theorem parent?_of_last {front idle : List (List Char)} {last : List Char}
    (cut : segments p.text.toList = first :: (front ++ last :: idle))
    (solid : isIdle last = false) (all : ∀ part ∈ idle, isIdle part = true)
    (clean : dropIdle front = front) :
    p.parent? = some
      (if front = [] ∧ first = [] then ⟨"/"⟩ else ⟨.ofList (joined (first :: front))⟩) := by
  have kept := dropIdle_append all solid front
  rw [parent?_of_not_idle cut (by rw [kept]; exact List.concat_ne_nil _ _), kept]
  simp only [List.dropLast_concat, clean]

/-- A text whose last segment is not empty ends in no slash. -/
theorem getLast?_ne_slash {text : List Char} {segment : List Char}
    (last : (segments text).getLast? = some segment) (filled : segment ≠ []) :
    text.getLast? ≠ some '/' := by
  intro slash
  obtain ⟨front, rfl⟩ := List.getLast?_eq_some_iff.1 slash
  rw [segments_append] at last
  exact filled (Option.some.inj (last.symm.trans List.getLast?_concat))

/-- Without idle segments behind the first, the last segment of a path is not empty. -/
theorem getLast?_of_clean (anchored : others ≠ [] ∨ first ≠ []) (clean : dropIdle others = others) :
    ∃ last, (first :: others).getLast? = some last ∧ last ≠ [] := by
  by_cases alone : others = []
  · subst alone
    exact ⟨first, rfl, anchored.resolve_left fun more => more rfl⟩
  · have solid := List.rdropWhile_eq_self_iff.1 clean alone
    refine ⟨others.getLast alone, ?_, fun empty => solid (by rw [empty]; rfl)⟩
    rw [List.getLast?_cons_of_ne_nil alone, List.getLast?_eq_some_getLast alone]

/-- **What is taken from the directory that holds a path is held by it**, if it is a single name. -/
theorem parent?_join {directory name : Path} (parent : p.parent? = some directory)
    (single : name.IsSingle) : (directory.join name).parent? = some directory := by
  obtain ⟨c, idle, cut, filled, solid, all⟩ := segments_of_isSingle single
  rw [join, if_neg (Bool.eq_false_iff.1 single.relative)]
  obtain empty | root | ⟨first, kept, parts, anchored, clean⟩ := segments_of_parent? parent
  · have same : (⟨directory.text ++ name.text⟩ : Path) = name := by rw [empty, String.empty_append]
    rw [if_pos (by simp [empty]), same, parent?_of_idle cut all, if_neg filled, ← empty]
  · have whole : segments (directory.text ++ name.text).toList = [] :: ([] ++ c :: idle) := by
      rw [root, String.toList_append, List.nil_append, ← cut]
      rfl
    rw [if_pos (by simp [root]), parent?_of_last whole solid all rfl, if_pos ⟨rfl, rfl⟩, ← root]
  · obtain ⟨last, ends, full⟩ := getLast?_of_clean anchored clean
    have apart : ¬ (directory.text.toList = [] ∨ directory.text.toList.getLast? = some '/') := by
      refine not_or.2 ⟨fun empty => ?_, getLast?_ne_slash (parts ▸ ends) full⟩
      rw [← joined_segments directory.text.toList, parts] at empty
      exact joined_ne_nil anchored empty
    have whole : segments (directory.text ++ "/" ++ name.text).toList =
        first :: (kept ++ c :: idle) := by
      rw [String.toList_append, String.toList_append, ← List.cons_append, ← parts, ← cut,
        ← segments_append, List.append_assoc]
      rfl
    rw [if_neg apart, parent?_of_last whole solid all clean, if_neg (not_and_or.2 anchored),
      ← parts, joined_segments, String.ofList_toList]

end ModelExport.Path
