/-
# ModelExport.Proofs.Template.Grammar — what filling a template means

`Filled` says it without cutting anything: text in which no placeholder starts stays
as it is, so does everything from a start that nothing ends, and otherwise the value
of the first key stands in its place and the rest is filled. A placeholder starts at
the leftmost pair of opening braces and ends at the nearest pair of closing braces.
`filled_iff` is the agreement with `fill`, and so a template is filled in one way only.

Of the values only those matter that are asked for (`fill_congr`), and text without a
start can be taken off the front of a template (`flatMap_pieces_append`).
-/
import Mathlib.Data.List.Basic
import ModelExport.Proofs.Template.Pieces

set_option autoImplicit false

namespace ModelExport.Template

variable {mark : Char} {text front back : List Char}

/-! ## Where a mark stands twice -/

theorem cutAt_twice (mark : Char) (back : List Char) :
    cutAt mark (mark :: mark :: back) = some ([], back) := if_pos ⟨rfl, rfl⟩

theorem cutAt_cons {a : Char} (apart : ¬ [mark, mark] <+: a :: text) :
    cutAt mark (a :: text) = (cutAt mark text).map fun (front, back) => (a :: front, back) := by
  cases text with
  | nil => rfl
  | cons b rest =>
      have single : ¬ (a = mark ∧ b = mark) := by
        rintro ⟨rfl, rfl⟩
        exact apart ⟨rest, rfl⟩
      rw [cutAt, if_neg single]

/-- Nothing is cut exactly where the mark nowhere stands twice. -/
theorem cutAt_eq_none_iff : cutAt mark text = none ↔ ¬ [mark, mark] <:+: text := by
  induction text with
  | nil => exact iff_of_true rfl fun twice => nomatch List.infix_nil.1 twice
  | cons a rest ih =>
      rw [List.infix_cons_iff, not_or, ← ih]
      by_cases starts : [mark, mark] <+: a :: rest
      · refine iff_of_false (fun none => ?_) fun none => none.1 starts
        obtain ⟨back, whole⟩ := starts
        rw [← whole] at none
        exact Option.some_ne_none _ ((cutAt_twice mark back).symm.trans none)
      · rw [cutAt_cons starts, Option.map_eq_none_iff, and_iff_right starts]

/-- Where a text is cut, the mark does not stand twice before. -/
theorem apart_of_cutAt (found : cutAt mark text = some (front, back)) :
    ¬ [mark, mark] <:+: front ++ [mark] := by
  induction text generalizing front with
  | nil => cases found
  | cons a rest ih =>
      by_cases starts : [mark, mark] <+: a :: rest
      · obtain ⟨behind, whole⟩ := starts
        rw [← whole] at found
        have cut := (cutAt_twice mark behind).symm.trans found
        obtain rfl : [] = front := (Prod.mk.inj (Option.some.inj cut)).1
        intro twice
        have length := twice.length_le
        simp at length
      · rw [cutAt_cons starts] at found
        obtain ⟨⟨first, behind⟩, inner, same⟩ := Option.map_eq_some_iff.1 found
        obtain ⟨rfl, rfl⟩ := Prod.mk.inj same
        intro twice
        rcases List.infix_cons_iff.1 twice with here | later
        · -- the front with one more mark is the start of the text
          have whole := eq_of_cutAt mark rest first behind inner
          apply starts
          refine here.trans ⟨mark :: behind, ?_⟩
          simp [whole]
        · exact ih inner later

/-- A mark that stands twice, and not before, is where a text is cut. -/
theorem cutAt_append (apart : ¬ [mark, mark] <:+: front ++ [mark]) (back : List Char) :
    cutAt mark (front ++ mark :: mark :: back) = some (front, back) := by
  induction front with
  | nil => exact cutAt_twice mark back
  | cons a front ih =>
      rw [List.cons_append, List.infix_cons_iff, not_or] at apart
      have single : ¬ [mark, mark] <+: a :: (front ++ mark :: mark :: back) := by
        intro starts
        have whole : a :: (front ++ [mark]) <+: a :: (front ++ mark :: mark :: back) :=
          ⟨mark :: back, by simp⟩
        exact apart.1 (List.prefix_of_prefix_length_le starts whole (by simp))
      rw [List.cons_append, cutAt_cons single, ih apart.2]
      rfl

/-- **A text is cut at the leftmost place where the mark stands twice.** -/
theorem cutAt_eq_some_iff :
    cutAt mark text = some (front, back) ↔
      text = front ++ mark :: mark :: back ∧ ¬ [mark, mark] <:+: front ++ [mark] := by
  constructor
  · exact fun found => ⟨eq_of_cutAt mark text front back found, apart_of_cutAt found⟩
  · rintro ⟨rfl, apart⟩
    exact cutAt_append apart back

/-! ## Filling -/

/-- What a template becomes when every key gives way to its value. -/
inductive Filled (value : List Char → List Char) : List Char → List Char → Prop
  | plain {text : List Char} (unstarted : ¬ ['\x7b', '\x7b'] <:+: text) : Filled value text text
  | unended {front inside : List Char} (leftmost : ¬ ['\x7b', '\x7b'] <:+: front ++ ['\x7b'])
      (unended : ¬ ['\x7d', '\x7d'] <:+: inside) :
      Filled value (front ++ '\x7b' :: '\x7b' :: inside) (front ++ '\x7b' :: '\x7b' :: inside)
  | placeholder {front key back filled : List Char}
      (leftmost : ¬ ['\x7b', '\x7b'] <:+: front ++ ['\x7b'])
      (nearest : ¬ ['\x7d', '\x7d'] <:+: key ++ ['\x7d']) (rest : Filled value back filled) :
      Filled value (front ++ '\x7b' :: '\x7b' :: (key ++ '\x7d' :: '\x7d' :: back))
        (front ++ value (Text.trim key) ++ filled)

variable {value? : List Char → Option (List Char)}

theorem fill_of_no_start (unstarted : cutAt '\x7b' text = none) : fill value? text = text := by
  rw [fill, pieces_of_no_start unstarted, List.flatMap_singleton, Piece.fill]

theorem fill_of_no_stop {inside : List Char} (started : cutAt '\x7b' text = some (front, inside))
    (unended : cutAt '\x7d' inside = none) : fill value? text = text := by
  rw [fill, pieces_of_no_stop started unended, List.flatMap_singleton, Piece.fill]

theorem fill_of_cuts {inside key : List Char} (started : cutAt '\x7b' text = some (front, inside))
    (stopped : cutAt '\x7d' inside = some (key, back)) :
    fill value? text =
      front ++ (value? (Text.trim key)).getD [] ++ fill value? back := by
  rw [fill, pieces_of_cuts started stopped, List.flatMap_cons, List.flatMap_cons,
    ← List.append_assoc]
  rfl

theorem filled_fill (value? : List Char → Option (List Char)) (text : List Char) :
    Filled (fun key => (value? key).getD []) text (fill value? text) := by
  induction text using pieces.induct with
  | case1 text unstarted =>
      rw [fill_of_no_start unstarted]
      exact .plain (cutAt_eq_none_iff.1 unstarted)
  | case2 text front inside started unended =>
      rw [fill_of_no_stop started unended]
      obtain ⟨rfl, leftmost⟩ := cutAt_eq_some_iff.1 started
      exact .unended leftmost (cutAt_eq_none_iff.1 unended)
  | case3 text front inside started key back stopped shorter ih =>
      rw [fill_of_cuts started stopped]
      obtain ⟨rfl, leftmost⟩ := cutAt_eq_some_iff.1 started
      obtain ⟨rfl, nearest⟩ := cutAt_eq_some_iff.1 stopped
      exact .placeholder leftmost nearest ih

/-- **A template is filled in exactly one way.** -/
theorem filled_iff {value : List Char → List Char} {filled : List Char} :
    Filled value text filled ↔ filled = fill (fun key => some (value key)) text := by
  constructor
  · intro fills
    induction fills with
    | plain unstarted => rw [fill_of_no_start (cutAt_eq_none_iff.2 unstarted)]
    | unended leftmost unended =>
        rw [fill_of_no_stop (cutAt_append leftmost _) (cutAt_eq_none_iff.2 unended)]
    | placeholder leftmost nearest rest ih =>
        rw [fill_of_cuts (cutAt_append leftmost _) (cutAt_append nearest _), ← ih]
        rfl
  · rintro rfl
    exact filled_fill (fun key => some (value key)) text

/-- Only the values of keys that a template asks for matter. -/
theorem fill_congr {other? : List Char → Option (List Char)}
    (same : ∀ key ∈ keys text, (value? key).getD [] = (other? key).getD []) :
    fill value? text = fill other? text := by
  apply List.flatMap_congr
  intro part member
  cases part with
  | literal text => rfl
  | placeholder key => exact same key (List.mem_filterMap.2 ⟨_, member, rfl⟩)

/-! ## Text before a template -/

/-- Where a mark stands does not depend on text before, if it stands nowhere twice in this text and
not at its end. -/
theorem cutAt_append_of_none (unstarted : cutAt mark front = none)
    (ends : front.getLast? ≠ some mark) (text : List Char) :
    cutAt mark (front ++ text) =
      (cutAt mark text).map fun (before, back) => (front ++ before, back) := by
  induction front with
  | nil =>
      rw [List.nil_append]
      cases found : cutAt mark text <;> rfl
  | cons a front ih =>
      have apart : ¬ [mark, mark] <+: a :: front := by
        intro starts
        exact cutAt_eq_none_iff.1 unstarted starts.isInfix
      rw [cutAt_cons apart, Option.map_eq_none_iff] at unstarted
      have single : ¬ [mark, mark] <+: a :: (front ++ text) := by
        cases front with
        | nil =>
            intro starts
            rw [(List.cons_prefix_cons.1 starts).1] at ends
            exact ends rfl
        | cons b rest =>
            intro starts
            exact apart (List.prefix_of_prefix_length_le starts
              (List.prefix_append (a :: b :: rest) text) (by simp))
      have later : front.getLast? ≠ some mark := by
        cases front with
        | nil => exact nofun
        | cons b rest => rwa [List.getLast?_cons_cons] at ends
      rw [List.cons_append, cutAt_cons single, ih unstarted later, Option.map_map]
      rfl

theorem cutAt_append_of_some (found : cutAt mark text = some (front, back)) (more : List Char) :
    cutAt mark (text ++ more) = some (front, back ++ more) := by
  obtain ⟨rfl, apart⟩ := cutAt_eq_some_iff.1 found
  rw [List.append_assoc]
  exact cutAt_append apart (back ++ more)

/-- **What is read off the pieces of a template is read off text without a start by itself**, if a
text may be read in parts. -/
theorem flatMap_pieces_append {β : Type} (read : Piece → List β)
    (parts : ∀ a b, read (.literal (a ++ b)) = read (.literal a) ++ read (.literal b))
    (unstarted : cutAt '\x7b' front = none) (ends : front.getLast? ≠ some '\x7b')
    (text : List Char) :
    (pieces (front ++ text)).flatMap read = read (.literal front) ++ (pieces text).flatMap read := by
  have whole := cutAt_append_of_none unstarted ends text
  cases started : cutAt '\x7b' text with
  | none =>
      rw [started] at whole
      rw [pieces_of_no_start whole, pieces_of_no_start started, List.flatMap_singleton,
        List.flatMap_singleton, parts]
  | some cut =>
      obtain ⟨before, inside⟩ := cut
      rw [started] at whole
      cases stopped : cutAt '\x7d' inside with
      | none =>
          rw [pieces_of_no_stop whole stopped, pieces_of_no_stop started stopped,
            List.flatMap_singleton, List.flatMap_singleton, parts]
      | some ended =>
          obtain ⟨key, back⟩ := ended
          rw [pieces_of_cuts whole stopped, pieces_of_cuts started stopped]
          simp only [List.flatMap_cons, parts, List.append_assoc]

theorem fill_append (unstarted : cutAt '\x7b' front = none) (ends : front.getLast? ≠ some '\x7b')
    (text : List Char) : fill value? (front ++ text) = front ++ fill value? text :=
  flatMap_pieces_append (Piece.fill value?) (fun _ _ => rfl) unstarted ends text

end ModelExport.Template
