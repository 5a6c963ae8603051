/-
# ModelExport.Json.Scan — blanks, words, numbers and strings

The leaves of a JSON text. A scan takes characters off the front of a text and
hands on the rest, which is shorter; `Taken` carries the proof, so that every
reader built on top ends because its text does.

Numbers: a literal without fraction and exponent that fits is an integer; any
other is a double. Digits are absorbed into the significand as long as it fits
in 64 bits. A digit of the whole part that does not fit counts as a power of
ten, one of the fraction is dropped.
-/
import ModelExport.Binary64.Scaled
import ModelExport.Json.Error

set_option autoImplicit false

namespace ModelExport.Json

/-- What was taken off the front of a text, and the shorter rest. -/
structure Taken (α : Type) (text : List Char) where
  value : α
  rest : List Char
  shorter : rest.length < text.length

/-- What was read at the front of a text, perhaps without taking anything off, and the rest. -/
structure Peeked (α : Type) (text : List Char) where
  value : α
  rest : List Char
  bound : rest.length ≤ text.length

/-- A reader takes a value off the front of a text. -/
abbrev Reader (α : Type) := (text : List Char) → Except Fault (Taken α text)

variable {α β : Type} {text front : List Char}

/-! ## Taking one thing after another

What was read at a rest was read in the text that has that rest. These operations carry the proofs,
so that a reader names only what it reads. -/

namespace Peeked

/-- A value for which nothing was taken off. -/
def here (value : α) (text : List Char) : Peeked α text := ⟨value, text, Nat.le_refl _⟩

def map (f : α → β) (peeked : Peeked α text) : Peeked β text := ⟨f peeked.value, peeked.rest, peeked.bound⟩

/-- The same in a text that is at least as long. -/
def within (peeked : Peeked α front) (bound : front.length ≤ text.length) : Peeked α text :=
  ⟨peeked.value, peeked.rest, Nat.le_trans peeked.bound bound⟩

/-- The same in a longer text. -/
def inside (peeked : Peeked α front) (shorter : front.length < text.length) : Peeked α text :=
  peeked.within (Nat.le_of_lt shorter)

/-- The same in the text with one more character in front. -/
def behind (c : Char) (peeked : Peeked α text) : Peeked α (c :: text) :=
  peeked.within (Nat.le_succ _)

/-- The same in the text with one more character in front, which was taken off. -/
def takenBehind (c : Char) (peeked : Peeked α text) : Taken α (c :: text) :=
  ⟨peeked.value, peeked.rest, Nat.lt_succ_of_le peeked.bound⟩

/-- What was read at the rest of something else. -/
def andPeek (first : Peeked β text) (second : Peeked α first.rest) : Peeked α text :=
  second.within first.bound

/-- What was taken off the rest of something else. -/
def andTake (first : Peeked β text) (second : Taken α first.rest) : Taken α text :=
  ⟨second.value, second.rest, Nat.lt_of_lt_of_le second.shorter first.bound⟩

end Peeked

namespace Taken

/-- A value for the first character of a text. -/
def head (value : α) (c : Char) (rest : List Char) : Taken α (c :: rest) :=
  ⟨value, rest, Nat.lt_succ_self _⟩

def map (f : α → β) (taken : Taken α text) : Taken β text := ⟨f taken.value, taken.rest, taken.shorter⟩

/-- The same without the proof that something was taken off. -/
def peeked (taken : Taken α text) : Peeked α text :=
  ⟨taken.value, taken.rest, Nat.le_of_lt taken.shorter⟩

/-- The same in a text that is at least as long. -/
def within (taken : Taken α front) (bound : front.length ≤ text.length) : Taken α text :=
  ⟨taken.value, taken.rest, Nat.lt_of_lt_of_le taken.shorter bound⟩

/-- The same in a longer text. -/
def inside (taken : Taken α front) (shorter : front.length < text.length) : Taken α text :=
  taken.within (Nat.le_of_lt shorter)

/-- The same in the text with one more character in front. -/
def behind (c : Char) (taken : Taken α text) : Taken α (c :: text) := taken.within (Nat.le_succ _)

/-- What was read at the rest of something else. -/
def andPeek (first : Taken β text) (second : Peeked α first.rest) : Taken α text :=
  ⟨second.value, second.rest, Nat.lt_of_le_of_lt second.bound first.shorter⟩

/-- What was taken off the rest of something else. -/
def andTake (first : Taken β text) (second : Taken α first.rest) : Taken α text :=
  first.andPeek second.peeked

end Taken

/-! ## Blanks -/

def isSpace (c : Char) : Bool := c == ' ' || c == '\n' || c == '\t' || c == '\r'

/-- A text without the blanks at its front. -/
def skipSpace (text : List Char) : List Char := text.dropWhile isSpace

theorem length_skipSpace_le (text : List Char) : (skipSpace text).length ≤ text.length :=
  (List.dropWhile_sublist isSpace).length_le

/-- The first character that is no blank. -/
def next? (text : List Char) : Option (Taken Char text) :=
  match equation : skipSpace text with
  | [] => none
  | c :: rest => some ⟨c, rest, by
      have bound := length_skipSpace_le text
      rw [equation] at bound
      exact bound⟩

/-! ## Words -/

/-- The remaining letters of a word. -/
def word : List Char → (text : List Char) → Except Fault (Peeked Unit text)
  | [], text => .ok (.here () text)
  | _ :: _, [] => .error (.before .endInValue [])
  | letter :: letters, c :: rest =>
      if c = letter then (word letters rest).map fun done => done.behind c
      else .error (.on .expectedWord (c :: rest))

/-! ## Numbers -/

/-- A number as it was written: whole without fraction and exponent, or a double. -/
inductive Number where
  | integer (value : Int)
  | float (value : Binary64)

def digitValue (c : Char) : Nat := c.toNat - '0'.toNat

/-- Append digits to a number as long as it stays below a limit, and the digits left over. -/
def absorb (limit : Nat) : Nat → List Char → Nat × List Char
  | value, [] => (value, [])
  | value, d :: digits =>
      let longer := value * 10 + digitValue d
      if longer < limit then absorb limit longer digits else (value, d :: digits)

/-- `2 ^ 64`: the least significand that is not kept whole. -/
def significandLimit : Nat := 0x10000000000000000

/-- `2 ^ 31`: the least exponent that is not told from larger ones. -/
def exponentLimit : Nat := 0x80000000

/-- `2 ^ 63`: the magnitude of the least integer. -/
def integerLimit : Nat := 0x8000000000000000

/-- The digits at the front of a text, and what follows them. -/
def digitRun (text : List Char) : List Char × List Char :=
  (text.takeWhile Char.isDigit, text.dropWhile Char.isDigit)

theorem length_digitRun_le (text : List Char) : (digitRun text).2.length ≤ text.length :=
  (List.dropWhile_sublist Char.isDigit).length_le

/-- The double with the given significand and power of ten, found at the given rest. -/
def scaled (negative : Bool) (significand : Nat) (exponent : Int) (text : List Char) :
    Except Fault (Peeked Binary64 text) :=
  match (Binary64.ofNat significand).scaleByTen? exponent with
  | none => .error (.before .numberOutOfRange text)
  | some magnitude => .ok (.here (if negative then magnitude.negate else magnitude) text)

/-- The digits of an exponent. One that does not fit in 32 bits makes zero, or is out of range
where its last digit that counts stands. -/
def exponentDigits (negative : Bool) (significand : Nat) (exponent : Int) (down : Bool)
    (text : List Char) : Except Fault (Peeked Binary64 text) :=
  let rest := (digitRun text).2
  match (digitRun text).1 with
  | [] => .error (if text = [] then .before .endInValue [] else .on .invalidNumber text)
  | digits =>
      match absorb exponentLimit 0 digits with
      | (value, []) =>
          (scaled negative significand (if down then exponent - value else exponent + value)
            rest).map fun x => x.within (length_digitRun_le text)
      | (_, _ :: unread) =>
          if significand = 0 ∨ down = true then
            .ok ⟨if negative then Binary64.zero.negate else Binary64.zero, rest,
              length_digitRun_le text⟩
          else .error (.before .numberOutOfRange (unread ++ rest))

/-- A number from its exponent on, after the mark. -/
def exponentPart (negative : Bool) (significand : Nat) (exponent : Int) :
    (text : List Char) → Except Fault (Peeked Binary64 text)
  | '+' :: rest =>
      (exponentDigits negative significand exponent false rest).map fun x => x.behind '+'
  | '-' :: rest =>
      (exponentDigits negative significand exponent true rest).map fun x => x.behind '-'
  | text => exponentDigits negative significand exponent false text

/-- A number after its last digit: an exponent may follow. -/
def exponentOrEnd (negative : Bool) (significand : Nat) (exponent : Int) :
    (text : List Char) → Except Fault (Peeked Binary64 text)
  | 'e' :: rest => (exponentPart negative significand exponent rest).map fun x => x.behind 'e'
  | 'E' :: rest => (exponentPart negative significand exponent rest).map fun x => x.behind 'E'
  | text => scaled negative significand exponent text

/-- A number from its fraction on, after the point. -/
def fractionPart (negative : Bool) (significand : Nat) (exponent : Int) (text : List Char) :
    Except Fault (Peeked Binary64 text) :=
  match (digitRun text).1 with
  | [] => .error (if text = [] then .before .endInValue [] else .on .invalidNumber text)
  | digits =>
      let (longer, dropped) := absorb significandLimit significand digits
      let scale := exponent - (digits.length - dropped.length)
      (exponentOrEnd negative longer scale (digitRun text).2).map fun x =>
        x.within (length_digitRun_le text)

/-- The integer of a significand, unless only a double can hold it. -/
def wholeNumber (negative : Bool) (significand : Nat) : Number :=
  if negative then
    if significand = 0 ∨ integerLimit < significand then .float (Binary64.ofNat significand).negate
    else .integer (-significand)
  else .integer significand

/-- A number after its whole digits. -/
def afterWhole (negative : Bool) (digits : List Char) (text : List Char) :
    Except Fault (Peeked Number text) :=
  let (significand, surplus) := absorb significandLimit 0 digits
  match text with
  | '.' :: rest =>
      (fractionPart negative significand surplus.length rest).map fun x =>
        (x.map Number.float).behind '.'
  | text =>
      if surplus = [] ∧ text.head? ≠ some 'e' ∧ text.head? ≠ some 'E' then
        .ok (.here (wholeNumber negative significand) text)
      else (exponentOrEnd negative significand surplus.length text).map fun x => x.map Number.float

/-- A number after its sign. A zero stands alone in front of the point. -/
def magnitude (negative : Bool) : Reader Number
  | [] => .error (.before .endInValue [])
  | '0' :: rest =>
      if (digitRun rest).1 = [] then
        (afterWhole negative ['0'] rest).map fun x => x.takenBehind '0'
      else .error (.on .invalidNumber rest)
  | c :: rest =>
      if c.isDigit then
        (afterWhole negative (c :: (digitRun rest).1) (digitRun rest).2).map fun x =>
          (x.within (length_digitRun_le rest)).takenBehind c
      else .error (.on .invalidNumber (c :: rest))

/-- A number. -/
def number : Reader Number
  | '-' :: rest => (magnitude true rest).map fun taken => taken.behind '-'
  | text => magnitude false text

/-! ## Strings -/

/-- The value of a digit in base sixteen. -/
def hexValue? (c : Char) : Option Nat :=
  if c.isDigit then some (c.toNat - '0'.toNat)
  else if 'a' ≤ c ∧ c ≤ 'f' then some (c.toNat - 'a'.toNat + 10)
  else if 'A' ≤ c ∧ c ≤ 'F' then some (c.toNat - 'A'.toNat + 10)
  else none

/-- Four digits in base sixteen. A wrong digit is found after four bytes. -/
def fourHex (text : List Char) : Except Fault (Taken Nat text) :=
  match text with
  | a :: b :: c :: d :: rest =>
      match hexValue? a, hexValue? b, hexValue? c, hexValue? d with
      | some a, some b, some c, some d =>
          .ok ⟨((a * 16 + b) * 16 + c) * 16 + d, rest, by simp only [List.length_cons]; omega⟩
      | _, _, _, _ => .error ⟨.invalidEscape, some (byteCount text - 4)⟩
  | _ =>
      if byteCount text < 4 then .error (.before .endInString [])
      else .error ⟨.invalidEscape, some (byteCount text - 4)⟩

def isHighSurrogate (code : Nat) : Bool := 0xD800 ≤ code && code < 0xDC00

def isLowSurrogate (code : Nat) : Bool := 0xDC00 ≤ code && code < 0xE000

/-- Take one given character inside a string; anything else is found at the next byte. -/
def expectInString (expected : Char) (cause : Cause) : Reader Unit
  | [] => .error (.before .endInString [])
  | c :: rest =>
      if c = expected then .ok (.head () c rest) else .error (.on cause (c :: rest))

/-- A character by its number, after the letter that announces it. A number that is the first half
of a pair must be followed by the second half. -/
def numberedChar : Reader Char := fun text => do
  let first ← fourHex text
  if isLowSurrogate first.value then .error (.before .loneSurrogate first.rest)
  else if isHighSurrogate first.value then
    let slash ← expectInString '\\' .unfinishedSurrogate first.rest
    let letter ← expectInString 'u' .unfinishedSurrogate slash.rest
    let second ← fourHex letter.rest
    if isLowSurrogate second.value then
      let code := 0x10000 + (first.value - 0xD800) * 0x400 + (second.value - 0xDC00)
      .ok (first.andTake (slash.andTake (letter.andTake (second.map fun _ => Char.ofNat code))))
    else .error (.before .loneSurrogate second.rest)
  else .ok (first.map Char.ofNat)

/-- The character of a one-letter escape. -/
def shortEscape? : Char → Option Char
  | '"' => some '"'
  | '\\' => some '\\'
  | '/' => some '/'
  | 'b' => some '\x08'
  | 'f' => some '\x0c'
  | 'n' => some '\n'
  | 'r' => some '\r'
  | 't' => some '\t'
  | _ => none

/-- The character that an escape stands for, after its backslash. -/
def escaped : Reader Char
  | [] => .error (.before .endInString [])
  | c :: rest =>
      match shortEscape? c with
      | some plain => .ok (.head plain c rest)
      | none =>
          if c = 'u' then (numberedChar rest).map fun taken => taken.behind c
          else .error (.on .invalidEscape (c :: rest))

/-- The rest of a string after its opening quote, in front of which the given characters, last one
first, were read. -/
def stringAfter (front : List Char) (text : List Char) : Except Fault (Taken String text) :=
  match text with
  | [] => .error (.before .endInString [])
  | '"' :: rest => .ok (.head (.ofList front.reverse) '"' rest)
  | '\\' :: rest =>
      match escaped rest with
      | .error fault => .error fault
      | .ok taken =>
          (stringAfter (taken.value :: front) taken.rest).map fun done =>
            (taken.andTake done).behind '\\'
  | c :: rest =>
      if c.toNat < 0x20 then .error (.on .controlCharacter (c :: rest))
      else (stringAfter (c :: front) rest).map fun done => done.behind c
termination_by text.length
decreasing_by
  · have := taken.shorter; simp only [List.length_cons]; omega
  · simp only [List.length_cons]; omega

/-- A string after its opening quote. -/
def string : Reader String := stringAfter []

end ModelExport.Json
