/-
# ModelExport.Template — texts with placeholders

A placeholder is a key between double braces. Cutting a template at its
placeholders gives pieces: literal text, and keys without the white space around
them. The leftmost pair of opening braces starts a placeholder and the first pair
of closing braces after it ends it; a start without an end is literal text, with
everything after it. Filling puts a value in the place of each key and never
looks at the values for further placeholders.
-/
import ModelExport.Text.Blank

set_option autoImplicit false

namespace ModelExport.Template

/-- A part of a template. -/
inductive Piece where
  | literal (text : List Char)
  | placeholder (key : List Char)
deriving DecidableEq

/-- A text cut at the first place where a mark stands twice in a row. -/
def cutAt (mark : Char) : List Char → Option (List Char × List Char)
  | a :: b :: rest =>
      if a = mark ∧ b = mark then some ([], rest)
      else (cutAt mark (b :: rest)).map fun (front, back) => (a :: front, back)
  | _ => none

theorem eq_of_cutAt (mark : Char) (text front back : List Char)
    (found : cutAt mark text = some (front, back)) : text = front ++ mark :: mark :: back := by
  fun_induction cutAt mark text generalizing front with
  | case1 a b rest both => simp_all
  | case2 a b rest apart ih =>
      obtain ⟨⟨first, second⟩, inner, same⟩ := Option.map_eq_some_iff.1 found
      simp only [Prod.mk.injEq] at same
      obtain ⟨rfl, rfl⟩ := same
      simp [ih first inner]
  | case3 => simp at found

theorem length_lt_of_cuts {start stop : Char} {text front inside key back : List Char}
    (started : cutAt start text = some (front, inside))
    (stopped : cutAt stop inside = some (key, back)) : back.length < text.length := by
  have outer := congrArg List.length (eq_of_cutAt _ _ _ _ started)
  have inner := congrArg List.length (eq_of_cutAt _ _ _ _ stopped)
  simp only [List.length_append, List.length_cons] at outer inner
  omega

/-- The pieces of a template. -/
def pieces (text : List Char) : List Piece :=
  match started : cutAt '\x7b' text with
  | none => [.literal text]
  | some (front, inside) =>
      match stopped : cutAt '\x7d' inside with
      | none => [.literal text]
      | some (key, back) =>
          have := length_lt_of_cuts started stopped
          .literal front :: .placeholder (Text.trim key) :: pieces back
termination_by text.length

/-- A piece with its key replaced by a value; nothing where there is none. -/
def Piece.fill (value? : List Char → Option (List Char)) : Piece → List Char
  | .literal text => text
  | .placeholder key => (value? key).getD []

def Piece.key? : Piece → Option (List Char)
  | .literal _ => none
  | .placeholder key => some key

/-- A template with its placeholders replaced by values. -/
def fill (value? : List Char → Option (List Char)) (text : List Char) : List Char :=
  (pieces text).flatMap (Piece.fill value?)

/-- The keys of a template in the order in which their values are asked for. -/
def keys (text : List Char) : List (List Char) := (pieces text).filterMap Piece.key?

theorem pieces_nil : pieces [] = [.literal []] := by
  unfold pieces
  split
  · rfl
  · next found => simp [cutAt] at found

end ModelExport.Template
