/-
# ModelExport.Proofs.Template.Pieces — the pieces of a template around a placeholder

A template is cut at its first placeholder, and what follows is cut again
(`pieces_of_cuts`). Counting the placeholders gives a cut that can be carried out
on a template at hand (`pieces_eq_of_cut?`). The value of a placeholder stands
between the fillings of the pieces before it and of those behind it, and a text
that encloses the placeholder in the template encloses the value
(`fill_of_encloses`).
-/
import ModelExport.Template

set_option autoImplicit false

namespace ModelExport.Template

variable {text : List Char}

/-! ## Cutting -/

theorem pieces_of_no_start (none_starts : cutAt '\x7b' text = none) :
    pieces text = [.literal text] := by
  unfold pieces
  split
  · rfl
  · next started => rw [none_starts] at started; cases started

theorem pieces_of_no_stop {front inside : List Char}
    (started : cutAt '\x7b' text = some (front, inside)) (none_stops : cutAt '\x7d' inside = none) :
    pieces text = [.literal text] := by
  unfold pieces
  split
  · rfl
  · next other again =>
    obtain ⟨rfl, rfl⟩ := Prod.mk.inj (Option.some.inj (again.symm.trans started))
    split
    · rfl
    · next stopped => rw [none_stops] at stopped; cases stopped

/-- **The first placeholder ends at the first end behind its start**, and the rest is cut in the
same way. -/
theorem pieces_of_cuts {front inside key back : List Char}
    (started : cutAt '\x7b' text = some (front, inside))
    (stopped : cutAt '\x7d' inside = some (key, back)) :
    pieces text = .literal front :: .placeholder (Text.trim key) :: pieces back := by
  rw [pieces]
  split
  · next none_starts => rw [none_starts] at started; cases started
  · next again =>
    obtain ⟨rfl, rfl⟩ := Prod.mk.inj (Option.some.inj (again.symm.trans started))
    split
    · next none_stops => rw [none_stops] at stopped; cases stopped
    · next ended =>
      obtain ⟨rfl, rfl⟩ := Prod.mk.inj (Option.some.inj (ended.symm.trans stopped))
      rfl

/-- The pieces of a template with fewer placeholders than the given number. -/
def cut? : Nat → List Char → Option (List Piece)
  | 0, _ => none
  | count + 1, text =>
      match cutAt '\x7b' text with
      | none => some [.literal text]
      | some (front, inside) =>
          match cutAt '\x7d' inside with
          | none => some [.literal text]
          | some (key, back) =>
              (cut? count back).map fun rest =>
                .literal front :: .placeholder (Text.trim key) :: rest

theorem pieces_eq_of_cut? {count : Nat} {parts : List Piece} (cut : cut? count text = some parts) :
    pieces text = parts := by
  induction count generalizing text parts with
  | zero => cases cut
  | succ count ih =>
      rw [cut?] at cut
      cases started : cutAt '\x7b' text with
      | none =>
          rw [started] at cut
          rw [pieces_of_no_start started]
          exact Option.some.inj cut
      | some found =>
          obtain ⟨front, inside⟩ := found
          cases stopped : cutAt '\x7d' inside with
          | none =>
              simp only [started, stopped] at cut
              rw [pieces_of_no_stop started stopped]
              exact Option.some.inj cut
          | some ended =>
              obtain ⟨key, back⟩ := ended
              simp only [started, stopped] at cut
              obtain ⟨rest, others, rfl⟩ := Option.map_eq_some_iff.1 cut
              rw [pieces_of_cuts started stopped, ih others]

/-! ## Around a placeholder -/

/-- The pieces before the first placeholder with a key. -/
def before (key : List Char) (parts : List Piece) : List Piece :=
  parts.takeWhile (· != .placeholder key)

/-- The pieces behind the first placeholder with a key. -/
def behind (key : List Char) (parts : List Piece) : List Piece :=
  (parts.dropWhile (· != .placeholder key)).tail

/-- Whether there is a placeholder with a key, and two texts stand right before it and right behind
it. -/
def encloses (opening closing key : List Char) (parts : List Piece) : Bool :=
  match (before key parts).getLast?, parts.dropWhile (· != .placeholder key) with
  | some (.literal front), .placeholder found :: .literal back :: _ =>
      found == key && opening.isSuffixOf front && closing.isPrefixOf back
  | _, _ => false

/-- **What encloses a placeholder encloses its value.** -/
theorem fill_of_encloses {opening closing key : List Char}
    (enclosed : encloses opening closing key (pieces text) = true)
    (value? : List Char → Option (List Char)) :
    let front := (before key (pieces text)).flatMap (Piece.fill value?)
    let back := (behind key (pieces text)).flatMap (Piece.fill value?)
    fill value? text = front ++ (value? key).getD [] ++ back ∧ opening <:+ front ∧
      closing <+: back := by
  have cut : before key (pieces text) ++ (pieces text).dropWhile (· != .placeholder key) =
      pieces text := List.takeWhile_append_dropWhile
  unfold encloses at enclosed
  split at enclosed
  · next lead found tail rest last first =>
    simp only [Bool.and_eq_true, beq_iff_eq, List.isSuffixOf_iff_suffix,
      List.isPrefixOf_iff_prefix] at enclosed
    obtain ⟨⟨rfl, opens⟩, closes⟩ := enclosed
    obtain ⟨early, ends⟩ := List.getLast?_eq_some_iff.1 last
    have rest_eq : behind found (pieces text) = .literal tail :: rest := by rw [behind, first]; rfl
    refine ⟨?_, ?_, ?_⟩
    · have filled := congrArg (List.flatMap (Piece.fill value?)) cut
      rw [first, List.flatMap_append, List.flatMap_cons, ← List.append_assoc] at filled
      rw [rest_eq]
      exact filled.symm
    · rw [ends, List.flatMap_append, List.flatMap_singleton]
      exact opens.trans (List.suffix_append _ _)
    · rw [rest_eq, List.flatMap_cons]
      exact closes.trans (List.prefix_append _ _)
  · cases enclosed

end ModelExport.Template
