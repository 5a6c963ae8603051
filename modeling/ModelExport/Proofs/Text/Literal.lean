/-
# ModelExport.Proofs.Text.Literal — texts that are put between quotes as they are

A text that is put between double quotes without any care may be read as another
one, or end before its closing quote. For literals with backslashes this is asked
of every `Dialect` at once, whatever its escapes are: an escape takes more
characters than the one it stands for, so a text that is read back had none
(`reads_append_iff`). For verbatim literals a quote that is read took two
(`inside?_append_iff`).
-/
import Mathlib.Data.List.Basic
import ModelExport.Text.Escaped
import ModelExport.Text.Verbatim

set_option autoImplicit false

namespace ModelExport.Text

/-! ## Literals with backslashes -/

/-- A kind of string literals between double quotes. -/
structure Dialect where
  /-- The character that an escape stands for, and what is left, given what follows its
  backslash. -/
  escape? : List Char → Option (Char × List Char)
  shorter : ∀ {source c left}, escape? source = some (c, left) → left.length < source.length
  /-- The characters that never stand for themselves, besides the backslash and the quote. -/
  refuses : Char → Bool

namespace Dialect

variable {dialect : Dialect}

/-- A character that stands for itself. -/
def Free (dialect : Dialect) (c : Char) : Prop := c ≠ '"' ∧ c ≠ '\\' ∧ dialect.refuses c = false

/-- What follows an opening quote is read as a text, up to the closing quote and what is left
after it. -/
inductive Reads (dialect : Dialect) : List Char → List Char → List Char → Prop
  | closing (left : List Char) : Reads dialect ('"' :: left) [] left
  | free {c : Char} {source text left : List Char} (free : dialect.Free c)
      (rest : Reads dialect source text left) : Reads dialect (c :: source) (c :: text) left
  | escaped {c : Char} {source between text left : List Char}
      (meant : dialect.escape? source = some (c, between))
      (rest : Reads dialect between text left) :
      Reads dialect ('\\' :: source) (c :: text) left

/-- No literal is shorter than its text and its closing quote. -/
theorem Reads.length_lt {source text left : List Char} (reads : dialect.Reads source text left) :
    text.length + left.length < source.length := by
  induction reads with
  | closing left => simp
  | free _ _ ih =>
      simp only [List.length_cons]
      omega
  | escaped meant _ ih =>
      have fewer := dialect.shorter meant
      simp only [List.length_cons]
      omega

/-- A literal that is no longer than that has no escapes. -/
theorem Reads.free_of_length {source text left : List Char}
    (reads : dialect.Reads source text left)
    (length : source.length = text.length + left.length + 1) : ∀ c ∈ text, dialect.Free c := by
  induction reads with
  | closing left => exact List.forall_mem_nil _
  | free free _ ih =>
      simp only [List.length_cons] at length
      exact List.forall_mem_cons.2 ⟨free, ih (by omega)⟩
  | escaped meant rest ih =>
      -- an escape has at least two characters for one, so the literal would be longer
      have fewer := dialect.shorter meant
      have behind := rest.length_lt
      simp only [List.length_cons] at length
      omega

theorem reads_of_free {text : List Char} (free : ∀ c ∈ text, dialect.Free c) (left : List Char) :
    dialect.Reads (text ++ '"' :: left) text left := by
  induction text with
  | nil => exact .closing left
  | cons c rest ih =>
      obtain ⟨first, others⟩ := List.forall_mem_cons.1 free
      exact .free first (ih others)

/-- **A text between quotes is read back exactly when all its characters stand for themselves.** -/
theorem reads_append_iff (text left : List Char) :
    dialect.Reads (text ++ '"' :: left) text left ↔ ∀ c ∈ text, dialect.Free c := by
  constructor
  · intro reads
    apply reads.free_of_length
    simp only [List.length_append, List.length_cons]
    omega
  · exact fun free => reads_of_free free left

/-- The escapes of a letter or mark, in literals that end with their line. -/
def oneLine : Dialect where
  escape?
    | [] => none
    | c :: rest => (Escaped.unescape? c).map fun plain => (plain, rest)
  shorter := by
    intro source c left meant
    cases source with
    | nil => cases meant
    | cons mark rest =>
        obtain ⟨plain, -, same⟩ := Option.map_eq_some_iff.1 meant
        obtain ⟨-, rfl⟩ := Prod.mk.inj same
        exact Nat.lt_succ_self _
  refuses c := c == '\n' || c == '\r'

end Dialect

/-! ## Verbatim literals -/

namespace Verbatim

/-- A verbatim literal has its text and its closing quote, and every quote in the text once more. -/
theorem length_of_inside? {source text left : List Char}
    (read : inside? source = some (text, left)) :
    source.length = text.length + text.count '"' + left.length + 1 := by
  induction source using inside?.induct generalizing text left with
  | case1 => cases read
  | case2 rest ih =>
      obtain ⟨⟨inner, back⟩, found, same⟩ := Option.bind_eq_some_iff.1 read
      obtain ⟨rfl, rfl⟩ := Prod.mk.inj (Option.some.inj same)
      have length := ih found
      simp only [List.length_cons, List.count_cons_self]
      omega
  | case3 rest apart =>
      rw [inside?.eq_3 rest apart] at read
      obtain ⟨rfl, rfl⟩ := Prod.mk.inj (Option.some.inj read)
      simp
  | case4 c rest apart other ih =>
      rw [inside?.eq_4 c rest apart other] at read
      obtain ⟨⟨inner, back⟩, found, same⟩ := Option.bind_eq_some_iff.1 read
      obtain ⟨rfl, rfl⟩ := Prod.mk.inj (Option.some.inj same)
      have length := ih found
      have plain : c ≠ '"' := fun quote => other quote
      simp only [List.length_cons, List.count_cons_of_ne plain]
      omega

theorem inside?_cons {c : Char} (plain : c ≠ '"') (rest : List Char) :
    inside? (c :: rest) = (inside? rest).map fun (text, left) => (c :: text, left) := by
  rw [inside?.eq_4 c rest (fun _ quote _ => plain quote) plain]
  cases inside? rest <;> rfl

theorem inside?_closing {left : List Char} (ends : left.head? ≠ some '"') :
    inside? ('"' :: left) = some ([], left) := by
  apply inside?.eq_3
  rintro rest rfl
  exact ends rfl

/-- **A text between quotes is read back exactly when it holds no quote**, if no quote follows. -/
theorem inside?_append_iff (text : List Char) {left : List Char} (ends : left.head? ≠ some '"') :
    inside? (text ++ '"' :: left) = some (text, left) ↔ '"' ∉ text := by
  constructor
  · intro read
    have length := length_of_inside? read
    simp only [List.length_append, List.length_cons] at length
    rw [← List.count_eq_zero]
    omega
  · intro plain
    induction text with
    | nil => exact inside?_closing ends
    | cons c rest ih =>
        obtain ⟨first, others⟩ := not_or.1 (mt List.mem_cons.2 plain)
        rw [List.cons_append, inside?_cons (Ne.symm first), ih others]
        rfl

end Verbatim

end ModelExport.Text
