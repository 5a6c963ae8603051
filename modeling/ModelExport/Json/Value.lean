/-
# ModelExport.Json.Value — values, lists and objects

`value` reads any value whose brackets nest no deeper than a given number.
`items` and `members` read what stands inside a list or an object, with any
reader for the parts: `items` collects the items, `members` threads a state
through the members and hands each key, up to its closing quote, to its reader.
`typed` reads a value without parts of one wanted kind and says what it found
instead.

A fault in what an object says, rather than in how it is written, is found where
reading stands after the closing bracket was tried; see `afterClosing`.
-/
import ModelExport.Json.Skip

set_option autoImplicit false

namespace ModelExport.Json

/-- A JSON value. -/
inductive Value where
  | null
  | bool (value : Bool)
  | integer (value : Int)
  | float (value : Binary64)
  | string (text : String)
  | list (items : List Value)
  | object (members : List (String × Value))

/-- What a message shows of a value. -/
def Value.found : Value → Found
  | .null => .null
  | .bool value => .bool value
  | .integer value => .integer value
  | .float value => .float value
  | .string text => .string text
  | .list _ => .sequence
  | .object _ => .map

def Number.value : Number → Value
  | .integer value => .integer value
  | .float value => .float value

variable {α σ : Type}

/-! ## The inside of brackets -/

/-- Take the end of a bracket. -/
def close : Bracket → Reader Unit
  | .list, text =>
      match next? text with
      | none => .error (.on .endInList [])
      | some ⟨']', rest, shorter⟩ => .ok ⟨(), rest, shorter⟩
      | some ⟨',', rest, _⟩ =>
          if (skipSpace rest).head? = some ']' then .error (.on .trailingComma (skipSpace rest))
          else .error (.on .trailingCharacters (skipSpace rest))
      | some ⟨c, rest, _⟩ => .error (.on .trailingCharacters (c :: rest))
  | .object, text =>
      match next? text with
      | none => .error (.on .endInObject [])
      | some ⟨'\x7d', rest, shorter⟩ => .ok ⟨(), rest, shorter⟩
      | some ⟨',', rest, _⟩ => .error (.on .trailingComma (',' :: rest))
      | some ⟨c, rest, _⟩ => .error (.on .trailingCharacters (c :: rest))

/-- What is unread once the end of a bracket was tried, whether it was there or not. -/
def afterClosing (bracket : Bracket) (text : List Char) : List Char :=
  match skipSpace text with
  | [] => []
  | c :: rest =>
      if c = bracket.closing then rest
      else if c = ',' ∧ bracket = .list then skipSpace rest
      else c :: rest

/-- Where the next item of a list stands; nothing if the list ends. -/
def seekItem (first : Bool) (text : List Char) : Except Fault (Option (Peeked Unit text)) :=
  match next? text with
  | none => .error (.on .endInList [])
  | some ⟨c, rest, shorter⟩ =>
      if c = ']' then .ok none
      else if first then .ok (some (.here () text))
      else if c = ',' then
        match next? rest with
        | none => .error (.on .endInValue [])
        | some ⟨']', left, _⟩ => .error (.on .trailingComma (']' :: left))
        | some _ => .ok (some ((Peeked.here () rest).inside shorter))
      else .error (.on .expectedListCommaOrEnd (c :: rest))

/-- Read the next item of a list; nothing if the list ends. -/
def nextItem (item : Reader α) (first : Bool) (text : List Char) :
    Except Fault (Option (Taken α text)) := do
  match ← seekItem first text with
  | none => .ok none
  | some start => (item start.rest).map fun taken => some (start.andTake taken)

/-- Read the next item of a list; the default if the list ends. -/
def itemOr (default : α) (item : Reader α) (first : Bool) (text : List Char) :
    Except Fault (Peeked α text) :=
  (nextItem item first text).map fun
    | none => .here default text
    | some taken => taken.peeked

/-- Read the items of a list and its end. -/
def items (item : Reader α) (first : Bool) (text : List Char) :
    Except Fault (Taken (List α) text) :=
  match nextItem item first text with
  | .error fault => .error fault
  | .ok none => (close .list text).map fun taken => taken.map fun _ => []
  | .ok (some taken) =>
      have := taken.shorter
      (items item false taken.rest).map fun others =>
        taken.andTake (others.map (taken.value :: ·))
termination_by text.length

/-- Take the quote that opens the key of a member. -/
def openKey : Reader Unit := fun text =>
  match next? text with
  | none => .error (.on .endInValue [])
  | some ⟨'"', rest, shorter⟩ => .ok ⟨(), rest, shorter⟩
  | some ⟨'\x7d', rest, _⟩ => .error (.on .trailingComma ('\x7d' :: rest))
  | some ⟨c, rest, _⟩ => .error (.on .keyMustBeString (c :: rest))

/-- Read the key of the next member of an object; nothing if the object ends. -/
def nextKey (first : Bool) (text : List Char) : Except Fault (Option (Taken String text)) :=
  match next? text with
  | none => .error (.on .endInObject [])
  | some ⟨c, rest, shorter⟩ => do
      if c = '\x7d' then .ok none
      else if first then
        if c = '"' then
          let key ← string rest
          .ok (some (key.inside shorter))
        else .error (.on .keyMustBeString (c :: rest))
      else if c = ',' then
        let quote ← openKey rest
        let key ← string quote.rest
        .ok (some ((quote.andTake key).inside shorter))
      else .error (.on .expectedObjectCommaOrEnd (c :: rest))

/-- Take the colon between a key and its value. -/
def colon : Reader Unit := fun text =>
  match next? text with
  | none => .error (.on .endInObject [])
  | some ⟨':', rest, shorter⟩ => .ok ⟨(), rest, shorter⟩
  | some ⟨c, rest, _⟩ => .error (.on .expectedColon (c :: rest))

/-- The value of a member, after its key. -/
def member (value : Reader α) : Reader α := fun text => do
  let separator ← colon text
  (value separator.rest).map fun taken => separator.andTake taken

/-- Read the members of an object and its end. -/
def members (step : σ → String → Reader σ) (state : σ) (first : Bool) (text : List Char) :
    Except Fault (Taken σ text) :=
  match nextKey first text with
  | .error fault => .error fault
  | .ok none => (close .object text).map fun taken => taken.map fun _ => state
  | .ok (some key) =>
      match step state key.value key.rest with
      | .error fault => .error fault
      | .ok taken =>
          have := key.shorter
          have := taken.shorter
          (members step taken.value false taken.rest).map fun others =>
            key.andTake (taken.andTake others)
termination_by text.length

/-! ## Values -/

/-- Read a value without parts whose first character is given. -/
def scalar (c : Char) (rest : List Char) : Except Fault (Taken Value (c :: rest)) :=
  let named := fun (letters : List Char) (value : Value) =>
    (word letters rest).map fun done => (done.map fun _ => value).takenBehind c
  if c = 'n' then named ['u', 'l', 'l'] .null
  else if c = 't' then named ['r', 'u', 'e'] (.bool true)
  else if c = 'f' then named ['a', 'l', 's', 'e'] (.bool false)
  else if c = '"' then
    (string rest).map fun taken => (taken.map Value.string).behind c
  else if c = '-' ∨ c.isDigit = true then
    (number (c :: rest)).map fun taken => taken.map Number.value
  else .error (.on .expectedValue (c :: rest))

theorem length_cons_le {text rest : List Char} (c : Char) (shorter : rest.length < text.length) :
    (c :: rest).length ≤ text.length := shorter

/-- Read a value with at most so many brackets around any part of it. -/
def value : Nat → Reader Value
  | depth, text =>
      match next? text with
      | none => .error (.on .endInValue [])
      | some ⟨c, rest, shorter⟩ =>
          if c = '[' then
            match depth with
            | 0 => .error (.on .tooDeep (c :: rest))
            | depth + 1 =>
                (items (value depth) true rest).map fun taken =>
                  (taken.map Value.list).inside shorter
          else if c = '\x7b' then
            match depth with
            | 0 => .error (.on .tooDeep (c :: rest))
            | depth + 1 =>
                let step := fun (front : List (String × Value)) (key : String) =>
                  member fun text => (value depth text).map fun taken =>
                    taken.map fun value => front ++ [(key, value)]
                (members step [] true rest).map fun taken =>
                  (taken.map Value.object).inside shorter
          else (scalar c rest).map fun taken => taken.within (length_cons_le c shorter)

/-- Read a value without parts of a wanted kind. A bracket is refused where it stands, any other
value once it was read. -/
def typed (expected : String) (accept : Value → Except Cause α) : Reader α := fun text =>
  match next? text with
  | none => .error (.on .endInValue [])
  | some ⟨c, rest, shorter⟩ =>
      if c = '[' then .error (.before (.invalidType .sequence expected) (c :: rest))
      else if c = '\x7b' then .error (.before (.invalidType .map expected) (c :: rest))
      else do
        let taken ← scalar c rest
        match accept taken.value with
        | .error cause => .error (.before cause taken.rest)
        | .ok a => .ok ((taken.map fun _ => a).within (length_cons_le c shorter))

/-- Refuse a value because it is not of the wanted kind. -/
def refuse (expected : String) : Reader α :=
  typed expected fun found => .error (.invalidType found.found expected)

/-- Read a list. -/
def listOf (item : Reader α) : Reader (List α) := fun text =>
  match next? text with
  | some ⟨'[', rest, shorter⟩ =>
      (items item true rest).map fun taken => taken.inside shorter
  | _ => refuse "a sequence" text

/-- Refuse anything after the value of a whole text. -/
def finish (text : List Char) : Except Fault Unit :=
  match next? text with
  | none => .ok ()
  | some ⟨c, rest, _⟩ => .error (.on .trailingCharacters (c :: rest))

/-- Read a whole text. -/
def document (reader : Reader α) (text : List Char) : Except Fault α := do
  let taken ← reader text
  finish taken.rest
  .ok taken.value

/-- Pass over a member after its key, keeping a state. -/
def skipMember (state : σ) : Reader σ := fun text => do
  let separator ← colon text
  let done ← skipValue separator.rest
  .ok (separator.andPeek (done.map fun _ => state))

end ModelExport.Json
