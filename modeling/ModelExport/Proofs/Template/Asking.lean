/-
# ModelExport.Proofs.Template.Asking — the questions that filling a template asks

Whoever knows the values is asked for one after the other, and may give a key
another value each time. `fillWith` carries what such a source remembers through the
pieces of a template; one that remembers nothing gives `fill` (`fillWith_fill`). The
questions are the keys of the template in their order, whatever the answers are
(`snd_fillWith`): values are put in and not looked at. They are at most one for every
four characters (`length_keys_le`).

A template that is put together from segments is cut into these segments again, if
their texts hold no braces that a neighbour could be taken for (`pieces_of_clear`).
-/
import ModelExport.Proofs.Template.Grammar

set_option autoImplicit false

namespace ModelExport.Template

variable {σ : Type} {answer : σ → List Char → Option (List Char) × σ}
  {text front inside key back : List Char}

/-! ## Asking -/

/-- Pieces with the keys replaced by what a source answers, and what the source remembers then. -/
def consult (answer : σ → List Char → Option (List Char) × σ) : σ → List Piece → List Char × σ
  | memory, [] => ([], memory)
  | memory, .literal text :: rest =>
      let filled := consult answer memory rest
      (text ++ filled.1, filled.2)
  | memory, .placeholder key :: rest =>
      let told := answer memory key
      let filled := consult answer told.2 rest
      (told.1.getD [] ++ filled.1, filled.2)

/-- A template filled by a source that remembers what it was asked. -/
def fillWith (answer : σ → List Char → Option (List Char) × σ) (memory : σ) (text : List Char) :
    List Char × σ :=
  consult answer memory (pieces text)

/-- A source is asked for every key once, in order, whatever it answers. -/
theorem snd_consult (memory : σ) (parts : List Piece) :
    (consult answer memory parts).2 =
      (parts.filterMap Piece.key?).foldl (fun memory key => (answer memory key).2) memory := by
  induction parts generalizing memory with
  | nil => rfl
  | cons part rest ih =>
      cases part with
      | literal text => exact ih memory
      | placeholder key => exact ih (answer memory key).2

/-- **A source is asked for the keys of the template**, each in its turn, and for nothing else. -/
theorem snd_fillWith (memory : σ) (text : List Char) : (fillWith answer memory text).2 =
    (keys text).foldl (fun memory key => (answer memory key).2) memory :=
  snd_consult memory (pieces text)

/-- A source that remembers nothing. -/
theorem consult_fill (value? : List Char → Option (List Char)) (parts : List Piece) :
    consult (fun _ key => (value? key, ())) () parts = (parts.flatMap (Piece.fill value?), ()) := by
  induction parts with
  | nil => rfl
  | cons part rest ih => cases part <;> simp [consult, ih, Piece.fill]

theorem fillWith_fill (value? : List Char → Option (List Char)) (text : List Char) :
    fillWith (fun _ key => (value? key, ())) () text = (fill value? text, ()) :=
  consult_fill value? (pieces text)

/-! ## The three forms of a template -/

/-- A text with a mark twice in a row, and the leftmost place where this is so. -/
def Splits (mark : Char) (text front back : List Char) : Prop :=
  text = front ++ mark :: mark :: back ∧ ¬ [mark, mark] <:+: front ++ [mark]

theorem splits_iff {mark : Char} : Splits mark text front back ↔
    cutAt mark text = some (front, back) := cutAt_eq_some_iff.symm

/-- A mark stands nowhere twice in a row, or there is a leftmost place. -/
theorem splits_or (mark : Char) (text : List Char) :
    ¬ [mark, mark] <:+: text ∨ ∃ front back, Splits mark text front back := by
  cases found : cutAt mark text with
  | none => exact .inl (cutAt_eq_none_iff.1 found)
  | some cut => exact .inr ⟨cut.1, cut.2, splits_iff.2 found⟩

theorem fillWith_of_literal (alone : pieces text = [.literal text]) (memory : σ) :
    fillWith answer memory text = (text, memory) ∧ keys text = [] := by
  constructor
  · rw [fillWith, alone, consult, consult, List.append_nil]
  · rw [keys, alone]
    rfl

theorem fillWith_of_cuts (started : cutAt '\x7b' text = some (front, inside))
    (stopped : cutAt '\x7d' inside = some (key, back)) (memory : σ) :
    let told := answer memory (Text.trim key)
    let filled := fillWith answer told.2 back
    fillWith answer memory text = (front ++ told.1.getD [] ++ filled.1, filled.2) := by
  intro told filled
  rw [fillWith, pieces_of_cuts started stopped, consult, consult, List.append_assoc]
  rfl

theorem keys_of_cuts (started : cutAt '\x7b' text = some (front, inside))
    (stopped : cutAt '\x7d' inside = some (key, back)) :
    keys text = Text.trim key :: keys back := by
  rw [keys, pieces_of_cuts started stopped]
  rfl

/-- A placeholder takes four characters at least. -/
theorem length_keys_le (text : List Char) : 4 * (keys text).length ≤ text.length := by
  induction text using pieces.induct with
  | case1 text unstarted =>
      rw [keys, pieces_of_no_start unstarted]
      exact Nat.zero_le _
  | case2 text front inside started unended =>
      rw [keys, pieces_of_no_stop started unended]
      exact Nat.zero_le _
  | case3 text front inside started key back stopped shorter ih =>
      have outer := congrArg List.length (eq_of_cutAt _ _ _ _ started)
      have inner := congrArg List.length (eq_of_cutAt _ _ _ _ stopped)
      simp only [List.length_append, List.length_cons] at outer inner
      rw [keys_of_cuts started stopped, List.length_cons]
      omega

/-! ## Templates put together from segments -/

namespace Piece

/-- A piece as it stands in a template. -/
def source : Piece → List Char
  | .literal text => text
  | .placeholder key => '\x7b' :: '\x7b' :: (key ++ ['\x7d', '\x7d'])

/-- A piece with its key trimmed. -/
def trimmed : Piece → Piece
  | .literal text => .literal text
  | .placeholder key => .placeholder (Text.trim key)

end Piece

/-- The segments behind some literal text can be told apart. Texts next to each other count as one:
it has no pair of opening braces, and does not end in one before a placeholder. A key has no pair of
closing braces, and does not end in one. Where no two texts are next to each other, this is the
plain condition on each text and each key by itself. -/
def Clear : List Char → List Piece → Prop
  | gap, [] => ¬ ['\x7b', '\x7b'] <:+: gap
  | gap, .literal text :: rest => Clear (gap ++ text) rest
  | gap, .placeholder key :: rest =>
      (¬ ['\x7b', '\x7b'] <:+: gap ∧ gap.getLast? ≠ some '\x7b') ∧
        (¬ ['\x7d', '\x7d'] <:+: key ∧ key.getLast? ≠ some '\x7d') ∧ Clear [] rest

/-- The segments behind some literal text, with texts next to each other put together, also where
there is none. -/
def joined : List Char → List Piece → List Piece
  | gap, [] => [.literal gap]
  | gap, .literal text :: rest => joined (gap ++ text) rest
  | gap, .placeholder key :: rest =>
      .literal gap :: .placeholder (Text.trim key) :: joined [] rest

/-- Texts and placeholders take turns, and a text is the first and the last. -/
def Alternates : List Piece → Prop
  | [.literal _] => True
  | .literal _ :: .placeholder _ :: rest => Alternates rest
  | _ => False

theorem joined_of_alternates {segments : List Piece} (alternates : Alternates segments) :
    joined [] segments = segments.map Piece.trimmed := by
  fun_induction Alternates segments with
  | case1 text => rfl
  | case2 text key rest ih =>
      rw [joined, joined, ih alternates]
      rfl
  | case3 => cases alternates

/-- A pair of marks behind text that has none is the leftmost one. -/
theorem cutAt_of_clear {mark : Char} {gap : List Char} (unstarted : ¬ [mark, mark] <:+: gap)
    (ends : gap.getLast? ≠ some mark) (back : List Char) :
    cutAt mark (gap ++ mark :: mark :: back) = some (gap, back) := by
  rw [cutAt_append_of_none (cutAt_eq_none_iff.2 unstarted) ends, cutAt_twice]
  exact congrArg (fun front => some (front, back)) (List.append_nil gap)

/-- **Segments that can be told apart are what a template is cut into.** -/
theorem pieces_of_clear {gap : List Char} {segments : List Piece} (clear : Clear gap segments) :
    pieces (gap ++ segments.flatMap Piece.source) = joined gap segments := by
  induction segments generalizing gap with
  | nil =>
      rw [List.flatMap_nil, List.append_nil]
      exact pieces_of_no_start (cutAt_eq_none_iff.2 clear)
  | cons part rest ih =>
      cases part with
      | literal text =>
          rw [List.flatMap_cons, ← List.append_assoc]
          exact ih clear
      | placeholder key =>
          obtain ⟨⟨unstarted, opens⟩, ⟨unended, closes⟩, later⟩ := clear
          have spelt : (Piece.placeholder key :: rest).flatMap Piece.source =
              '\x7b' :: '\x7b' :: (key ++ '\x7d' :: '\x7d' :: rest.flatMap Piece.source) := by
            simp [Piece.source]
          have others := ih later
          rw [List.nil_append] at others
          rw [spelt, pieces_of_cuts (cutAt_of_clear unstarted opens _)
            (cutAt_of_clear unended closes _), others, joined]

theorem consult_joined (memory : σ) (gap : List Char) (segments : List Piece) :
    consult answer memory (joined gap segments) =
      let filled := consult answer memory (segments.map Piece.trimmed)
      (gap ++ filled.1, filled.2) := by
  induction segments generalizing memory gap with
  | nil => rfl
  | cons part rest ih =>
      cases part with
      | literal text =>
          rw [joined, ih]
          simp only [List.map_cons, Piece.trimmed, consult, List.append_assoc]
      | placeholder key =>
          simp only [joined, consult, List.map_cons, Piece.trimmed, ih, List.nil_append]

theorem keys_joined (gap : List Char) (segments : List Piece) :
    (joined gap segments).filterMap Piece.key? =
      (segments.map Piece.trimmed).filterMap Piece.key? := by
  induction segments generalizing gap with
  | nil => rfl
  | cons part rest ih =>
      cases part with
      | literal text => exact ih (gap ++ text)
      | placeholder key => exact congrArg (Text.trim key :: ·) (ih [])

/-! ## What filling a template means -/

/-- What comes of filling a template by a source that remembers what it was asked. -/
structure Grammar (answer : σ → List Char → Option (List Char) × σ) (memory : σ)
    (text : List Char) : Prop where
  /-- A template is in one of the three forms that follow. -/
  formed : ¬ ['\x7b', '\x7b'] <:+: text ∨ ∃ front inside, Splits '\x7b' text front inside ∧
    (¬ ['\x7d', '\x7d'] <:+: inside ∨ ∃ key back, Splits '\x7d' inside key back)
  /-- Text in which no placeholder starts stays as it is, and nothing is asked. -/
  plain : ¬ ['\x7b', '\x7b'] <:+: text →
    fillWith answer memory text = (text, memory) ∧ keys text = []
  /-- So does a template whose first start nothing ends. -/
  unended : ∀ front inside, Splits '\x7b' text front inside → ¬ ['\x7d', '\x7d'] <:+: inside →
    fillWith answer memory text = (text, memory) ∧ keys text = []
  /-- Otherwise the first key is asked for and gives way to its value, and what is behind it is
  filled by itself. -/
  placeholder : ∀ front inside key back, Splits '\x7b' text front inside →
    Splits '\x7d' inside key back →
      let told := answer memory (Text.trim key)
      let filled := fillWith answer told.2 back
      fillWith answer memory text = (front ++ told.1.getD [] ++ filled.1, filled.2) ∧
        keys text = Text.trim key :: keys back
  /-- The questions are the keys in their order, whatever the answers are. -/
  asked : (fillWith answer memory text).2 =
    (keys text).foldl (fun memory key => (answer memory key).2) memory
  /-- There is an end to the questions. -/
  few : 4 * (keys text).length ≤ text.length
  /-- A template put together from segments that can be told apart is filled segment by segment,
  and cut into these segments if texts and placeholders take turns. -/
  recovered : ∀ segments, Clear [] segments → text = segments.flatMap Piece.source →
    fillWith answer memory text = consult answer memory (segments.map Piece.trimmed) ∧
      keys text = (segments.map Piece.trimmed).filterMap Piece.key? ∧
      (Alternates segments → pieces text = segments.map Piece.trimmed)

/-- **Filling asks for the placeholders of a template and for nothing else**, whatever is answered.
A source that remembers nothing makes what `fill` makes. -/
theorem fillWith_grammar (answer : σ → List Char → Option (List Char) × σ) (memory : σ)
    (text : List Char) :
    Grammar answer memory text ∧
      ∀ value? : List Char → Option (List Char),
        fillWith (fun _ key => (value? key, ())) () text = (fill value? text, ()) := by
  refine ⟨⟨?_, ?_, ?_, ?_, snd_fillWith memory text, length_keys_le text, ?_⟩,
    fun value? => fillWith_fill value? text⟩
  · rcases splits_or '\x7b' text with unstarted | ⟨front, inside, starts⟩
    · exact .inl unstarted
    · exact .inr ⟨front, inside, starts, splits_or '\x7d' inside⟩
  · intro unstarted
    exact fillWith_of_literal (pieces_of_no_start (cutAt_eq_none_iff.2 unstarted)) memory
  · intro front inside starts unended
    exact fillWith_of_literal
      (pieces_of_no_stop (splits_iff.1 starts) (cutAt_eq_none_iff.2 unended)) memory
  · intro front inside key back starts stops
    have started := splits_iff.1 starts
    have stopped := splits_iff.1 stops
    exact ⟨fillWith_of_cuts started stopped memory, keys_of_cuts started stopped⟩
  · intro segments clear whole
    have cut : pieces text = joined [] segments := whole ▸ pieces_of_clear clear
    refine ⟨?_, ?_, fun alternates => cut.trans (joined_of_alternates alternates)⟩
    · rw [fillWith, cut]
      exact consult_joined memory [] segments
    · rw [keys, cut, keys_joined]

/-- A source that answers every key with a placeholder, and counts. -/
def echo (count : Nat) (_ : List Char) : Option (List Char) × Nat :=
  (some ['\x7b', '\x7b', 'a', '\x7d', '\x7d'], count + 1)

/-- Of three braces in a row the first two open a placeholder and the last one is left over, and
the placeholder in the answer is not asked for. -/
theorem fillWith_grammar_echo :
    fillWith echo 0 ['x', '\x7b', '\x7b', '\x7b', 'a', '\x7d', '\x7d', '\x7d'] =
      (['x', '\x7b', '\x7b', 'a', '\x7d', '\x7d', '\x7d'], 1) := by
  obtain ⟨grammar, -⟩ :=
    fillWith_grammar echo 0 ['x', '\x7b', '\x7b', '\x7b', 'a', '\x7d', '\x7d', '\x7d']
  obtain ⟨filled, -⟩ := grammar.placeholder ['x'] ['\x7b', 'a', '\x7d', '\x7d', '\x7d']
    ['\x7b', 'a'] ['\x7d'] ⟨rfl, by decide⟩ ⟨rfl, by decide⟩
  obtain ⟨rest, -⟩ := (fillWith_grammar echo 1 ['\x7d']).1.plain (by decide)
  rw [filled, echo, rest]
  rfl

end ModelExport.Template
