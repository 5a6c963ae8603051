/-
# ModelExport.Proofs.Language.Double — numbers as words

A finite number is spelled with digits, signs, a point and the letter of the
exponent (`isNumeral_of_mem_render`), any other by one of three constants of the
language. So the spelling of a number is never empty and holds neither commas nor
white space (`solid_double`): it can stand in a list.
-/
import ModelExport.Language
import ModelExport.Proofs.Text.Cells

set_option autoImplicit false

namespace ModelExport

namespace DecimalNotation

/-- A character of decimal text. -/
def IsNumeral (c : Char) : Prop := c.isDigit = true ∨ c ∈ ['-', '+', '.', 'e']

theorem isNumeral_zero : IsNumeral '0' := .inl rfl

theorem isNumeral_toDigits {n : Nat} {c : Char} (member : c ∈ Nat.toDigits 10 n) : IsNumeral c :=
  .inl (Nat.isDigit_of_mem_toDigits (by decide) (by decide) member)

theorem isNumeral_significantDigits {d : Decimal} {c : Char} (member : c ∈ significantDigits d) :
    IsNumeral c := by
  rw [significantDigits, List.mem_reverse] at member
  exact isNumeral_toDigits (List.mem_reverse.1 ((List.dropWhile_sublist _).mem member))

theorem isNumeral_zeros {count : Nat} {c : Char} (member : c ∈ zeros count) : IsNumeral c := by
  rw [zeros, List.mem_replicate] at member
  exact member.2 ▸ isNumeral_zero

theorem isNumeral_positional {digits : List Char} (numeral : ∀ c ∈ digits, IsNumeral c)
    {leading : Int} {c : Char} (member : c ∈ positional digits leading) : IsNumeral c := by
  rw [positional] at member
  split at member
  · simp only [List.mem_append, List.mem_cons, List.not_mem_nil, or_false] at member
    obtain ((rfl | rfl) | filler) | digit := member
    · exact isNumeral_zero
    · exact .inr (by decide)
    · exact isNumeral_zeros filler
    · exact numeral c digit
  · simp only [List.mem_append, List.mem_cons] at member
    obtain (whole | filler) | rfl | fraction := member
    · exact numeral c (List.mem_of_mem_take whole)
    · exact isNumeral_zeros filler
    · exact .inr (by decide)
    · split at fraction
      · exact List.mem_singleton.1 fraction ▸ isNumeral_zero
      · exact numeral c (List.mem_of_mem_drop fraction)

theorem isNumeral_exponentText {form : DecimalNotation} {exponent : Int} {c : Char}
    (member : c ∈ form.exponentText exponent) : IsNumeral c := by
  rw [exponentText, List.mem_append] at member
  obtain sign | digit := member
  · split at sign
    · exact List.mem_singleton.1 sign ▸ .inr (by decide)
    · split at sign
      · exact List.mem_singleton.1 sign ▸ .inr (by decide)
      · cases sign
  · exact isNumeral_toDigits digit

theorem isNumeral_scientific {form : DecimalNotation} {digits : List Char}
    (numeral : ∀ c ∈ digits, IsNumeral c) {leading : Int} {c : Char}
    (member : c ∈ form.scientific digits leading) : IsNumeral c := by
  simp only [scientific, List.mem_append, List.mem_cons] at member
  obtain (first | fraction) | rfl | exponent := member
  · exact numeral c (List.mem_of_mem_take first)
  · split at fraction
    · cases fraction
    · obtain rfl | digit := List.mem_cons.1 fraction
      · exact .inr (by decide)
      · exact numeral c (List.mem_of_mem_drop digit)
  · exact .inr (by decide)
  · exact isNumeral_exponentText exponent

/-- The text of a finite number holds nothing but digits, signs, a point and the letter of the
exponent. -/
theorem isNumeral_of_mem_render {form : DecimalNotation} {x : Binary64} {c : Char}
    (member : c ∈ form.render x) : IsNumeral c := by
  rw [render, List.mem_append] at member
  obtain sign | rest := member
  · split at sign
    · exact List.mem_singleton.1 sign ▸ .inr (by decide)
    · cases sign
  · split at rest
    · simp only [List.mem_cons, List.not_mem_nil, or_false] at rest
      obtain rfl | rfl | rfl := rest
      · exact isNumeral_zero
      · exact .inr (by decide)
      · exact isNumeral_zero
    · dsimp only at rest
      split at rest
      · exact isNumeral_positional (fun _ digit => isNumeral_significantDigits digit) rest
      · exact isNumeral_scientific (fun _ digit => isNumeral_significantDigits digit) rest

theorem render_ne_nil (form : DecimalNotation) (x : Binary64) : form.render x ≠ [] := by
  refine List.append_ne_nil_of_right_ne_nil _ ?_
  split
  · exact List.cons_ne_nil _ _
  · dsimp only
    split
    · rw [positional]
      split
      · exact List.cons_ne_nil _ _
      · exact List.append_ne_nil_of_right_ne_nil _ (List.cons_ne_nil _ _)
    · exact List.append_ne_nil_of_right_ne_nil _ (List.cons_ne_nil _ _)

/-- A character of decimal text is neither a comma nor white space. -/
theorem IsNumeral.solid {c : Char} (numeral : IsNumeral c) : c ≠ ',' ∧ Text.isBlank c = false := by
  obtain digit | listed := numeral
  · have bounds : 48 ≤ c.toNat ∧ c.toNat ≤ 57 := by
      simpa [Char.isDigit, Char.le_def, UInt32.le_iff_toNat_le] using digit
    refine ⟨?_, ?_⟩
    · rintro rfl
      revert digit
      decide
    · simp only [Text.isBlank, Text.blankRanges, List.any_cons, List.any_nil, Bool.or_false,
        Bool.or_eq_false_iff, Bool.and_eq_false_iff, decide_eq_false_iff_not, Nat.not_le]
      omega
  · simp only [List.mem_cons, List.not_mem_nil, or_false] at listed
    obtain rfl | rfl | rfl | rfl := listed <;> exact ⟨by decide, rfl⟩

end DecimalNotation

namespace Language

open Text (Solid)

/-- The constant that stands for no number. -/
def nanName : Language → String
  | .java => "Double.NaN"
  | .csharp => "double.NaN"
  | .javascript => "NaN"

/-- The constant for positive infinity. -/
def infinityName : Language → String
  | .java => "Double.POSITIVE_INFINITY"
  | .csharp => "double.PositiveInfinity"
  | .javascript => "Infinity"

/-- The constant for negative infinity. -/
def negativeInfinityName : Language → String
  | .java => "Double.NEGATIVE_INFINITY"
  | .csharp => "double.NegativeInfinity"
  | .javascript => "-Infinity"

/-- A number that is not finite is spelled by the constant for it. -/
theorem double_of_not_isFinite (language : Language) {x : Binary64}
    (infinite : x.isFinite = false) :
    language.double x =
      if x.isNaN then language.nanName
      else if x.isNegative then language.negativeInfinityName
      else language.infinityName := by
  have large : x.isZero = false := by
    have bits : ¬ x.magnitudeBits < Binary64.infinityBits := by
      simpa [Binary64.isFinite] using infinite
    have positive : 0 < Binary64.infinityBits := by decide
    simp only [Binary64.isZero, beq_eq_false_iff_ne]
    omega
  rw [double, infinite, if_neg Bool.false_ne_true]
  cases language <;> simp [nonFinite, large, nanName, negativeInfinityName, infinityName]

/-- **The spelling of a number can stand in a list.** -/
theorem solid_double (language : Language) (x : Binary64) : Solid (language.double x).toList := by
  have solid {word : List Char} (filled : word ≠ [])
      (plain : ∀ c ∈ word, c ≠ ',' ∧ Text.isBlank c = false) : Solid word :=
    ⟨filled, fun comma => (plain ',' comma).1 rfl, fun c member => (plain c member).2⟩
  have named {name : String} (plain : (name.toList != [] &&
      name.toList.all fun c => c != ',' && !Text.isBlank c) = true) : Solid name.toList := by
    obtain ⟨filled, each⟩ := Bool.and_eq_true_iff.1 plain
    refine solid (bne_iff_ne.1 filled) fun c member => ?_
    simpa using List.all_eq_true.1 each c member
  cases finite : x.isFinite with
  | true =>
      rw [double, if_pos finite, String.toList_ofList]
      exact solid (DecimalNotation.source.render_ne_nil x) fun c member =>
        (DecimalNotation.isNumeral_of_mem_render member).solid
  | false =>
      rw [double_of_not_isFinite language finite]
      split
      · exact named (by cases language <;> rfl)
      · split
        · exact named (by cases language <;> rfl)
        · exact named (by cases language <;> rfl)

end Language

end ModelExport
