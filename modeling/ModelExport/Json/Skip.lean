/-
# ModelExport.Json.Skip — values that nobody asked for

A value whose content does not matter is passed over with only its form checked:
brackets match, items and members are separated, words are spelled right, digits
stand where numbers need them, escapes are complete. Numbers may have any size,
surrogates may be alone, and brackets may nest to any depth. The open brackets
are kept in a list, innermost first.
-/
import ModelExport.Json.Scan

set_option autoImplicit false

namespace ModelExport.Json

inductive Bracket where
  | list
  | object
deriving DecidableEq

namespace Bracket

def closing : Bracket → Char
  | .list => ']'
  | .object => '\x7d'

/-- The text ended inside the bracket. -/
def ended : Bracket → Cause
  | .list => .endInList
  | .object => .endInObject

/-- Neither a comma nor the closing bracket followed. -/
def unseparated : Bracket → Cause
  | .list => .expectedListCommaOrEnd
  | .object => .expectedObjectCommaOrEnd

end Bracket

/-! ## Numbers and strings -/

/-- Pass over the digits of an exponent. -/
def skipExponentDigits (text : List Char) : Except Fault (Peeked Unit text) :=
  if (digitRun text).1 = [] then .error (.on .invalidNumber text)
  else .ok ⟨(), (digitRun text).2, length_digitRun_le text⟩

/-- Pass over an exponent, after its mark. -/
def skipExponent : (text : List Char) → Except Fault (Peeked Unit text)
  | '+' :: rest => (skipExponentDigits rest).map fun done => done.behind '+'
  | '-' :: rest => (skipExponentDigits rest).map fun done => done.behind '-'
  | text => skipExponentDigits text

def skipExponentOrEnd : (text : List Char) → Except Fault (Peeked Unit text)
  | 'e' :: rest => (skipExponent rest).map fun done => done.behind 'e'
  | 'E' :: rest => (skipExponent rest).map fun done => done.behind 'E'
  | text => .ok (.here () text)

/-- Pass over a number after its whole digits. -/
def skipAfterWhole : (text : List Char) → Except Fault (Peeked Unit text)
  | '.' :: rest =>
      if (digitRun rest).1 = [] then .error (.on .invalidNumber rest)
      else (skipExponentOrEnd (digitRun rest).2).map fun done =>
        (done.within (length_digitRun_le rest)).behind '.'
  | text => skipExponentOrEnd text

/-- Pass over a number after its sign. -/
def skipMagnitude : Reader Unit
  | [] => .error (.on .invalidNumber [])
  | '0' :: rest =>
      if (digitRun rest).1 = [] then
        (skipAfterWhole rest).map fun done => done.takenBehind '0'
      else .error (.on .invalidNumber rest)
  | c :: rest =>
      if c.isDigit then
        (skipAfterWhole (digitRun rest).2).map fun done =>
          (done.within (length_digitRun_le rest)).takenBehind c
      else .error (.on .invalidNumber (c :: rest))

/-- Pass over an escape, after its backslash. -/
def skipEscape : Reader Unit
  | [] => .error (.before .endInString [])
  | c :: rest =>
      if (shortEscape? c).isSome then .ok (.head () c rest)
      else if c = 'u' then (fourHex rest).map fun taken => (taken.map fun _ => ()).behind c
      else .error (.on .invalidEscape (c :: rest))

/-- Pass over a string, after its opening quote. A control character is found in front of it. -/
def skipString (text : List Char) : Except Fault (Taken Unit text) :=
  match text with
  | [] => .error (.before .endInString [])
  | '"' :: rest => .ok (.head () '"' rest)
  | '\\' :: rest =>
      match skipEscape rest with
      | .error fault => .error fault
      | .ok taken =>
          (skipString taken.rest).map fun done => (taken.andTake done).behind '\\'
  | c :: rest =>
      if c.toNat < 0x20 then .error (.before .controlCharacter (c :: rest))
      else (skipString rest).map fun done => done.behind c
termination_by text.length
decreasing_by
  · have := taken.shorter; simp only [List.length_cons]; omega
  · simp only [List.length_cons]; omega

/-! ## Values -/

/-- Pass over a value without parts whose first character is given; nothing if none starts so. -/
def skipPlain (c : Char) (rest : List Char) : Option (Except Fault (Peeked Unit rest)) :=
  match c with
  | 'n' => some (word ['u', 'l', 'l'] rest)
  | 't' => some (word ['r', 'u', 'e'] rest)
  | 'f' => some (word ['a', 'l', 's', 'e'] rest)
  | '-' => some ((skipMagnitude rest).map Taken.peeked)
  | '"' => some ((skipString rest).map Taken.peeked)
  | '0' =>
      some (if (digitRun rest).1 = [] then skipAfterWhole rest else .error (.on .invalidNumber rest))
  | c =>
      if c.isDigit then
        some ((skipAfterWhole (digitRun rest).2).map fun done =>
          done.within (length_digitRun_le rest))
      else none

/-- Pass over the key of a member and its colon. -/
def skipKey : Reader Unit := fun text =>
  match next? text with
  | none => .error (.on .endInObject [])
  | some ⟨'"', rest, shorter⟩ => do
      let key ← skipString rest
      match next? key.rest with
      | none => .error (.on .endInObject [])
      | some ⟨':', left, less⟩ => .ok ((key.andTake ⟨(), left, less⟩).inside shorter)
      | some ⟨c, left, _⟩ => .error (.on .expectedColon (c :: left))
  | some ⟨c, rest, _⟩ => .error (.on .keyMustBeString (c :: rest))

/-- What passing over nested values does next. -/
inductive SkipState where
  /-- A value has to follow. -/
  | value
  /-- An item or member has to follow. -/
  | entry
  /-- A bracket was opened: its first item or member, or its end, has to follow. -/
  | opened
  /-- A value ended: a comma or the end of a bracket has to follow. -/
  | ended

/-- How many more states may come before a character is taken. -/
@[simp] def SkipState.rank : SkipState → Nat
  | .opened => 2
  | .entry => 1
  | .value => 0
  | .ended => 0

/-- Pass over the rest of the values that the open brackets hold. -/
def skipFrom (state : SkipState) (brackets : List Bracket) (text : List Char) :
    Except Fault (Peeked Unit text) :=
  match state, brackets with
  | .value, brackets =>
      match next? text with
      | none => .error (.on .endInValue [])
      | some ⟨'[', rest, shorter⟩ =>
          (skipFrom .opened (.list :: brackets) rest).map fun done =>
            done.inside shorter
      | some ⟨'\x7b', rest, shorter⟩ =>
          (skipFrom .opened (.object :: brackets) rest).map fun done =>
            done.inside shorter
      | some ⟨c, rest, shorter⟩ =>
          match skipPlain c rest with
          | none => .error (.on .expectedValue (c :: rest))
          | some (.error fault) => .error fault
          | some (.ok plain) =>
              have := plain.bound
              (skipFrom .ended brackets plain.rest).map fun done =>
                (plain.andPeek done).inside shorter
  | .entry, [] => skipFrom .value [] text
  | .entry, .list :: outer => skipFrom .value (.list :: outer) text
  | .entry, .object :: outer =>
      match skipKey text with
      | .error fault => .error fault
      | .ok key =>
          have := key.shorter
          (skipFrom .value (.object :: outer) key.rest).map fun done => (key.andPeek done).peeked
  | .opened, [] => skipFrom .entry [] text
  | .opened, bracket :: outer =>
      match next? text with
      | none => .error (.on bracket.ended [])
      | some ⟨c, rest, shorter⟩ =>
          if c = bracket.closing then
            (skipFrom .ended outer rest).map fun done => done.inside shorter
          else skipFrom .entry (bracket :: outer) text
  | .ended, [] => .ok (.here () text)
  | .ended, bracket :: outer =>
      match next? text with
      | none => .error (.on bracket.ended [])
      | some ⟨c, rest, shorter⟩ =>
          if c = bracket.closing then
            (skipFrom .ended outer rest).map fun done => done.inside shorter
          else if c = ',' then
            (skipFrom .entry (bracket :: outer) rest).map fun done =>
              done.inside shorter
          else .error (.on bracket.unseparated (c :: rest))
termination_by (text.length, state.rank)

/-- Pass over one value. -/
def skipValue (text : List Char) : Except Fault (Peeked Unit text) := skipFrom .value [] text

end ModelExport.Json
