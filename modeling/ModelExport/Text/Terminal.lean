/-
# ModelExport.Text.Terminal — a text without what would steer a terminal

A message shows words that come from outside, and those may hold characters that
a terminal obeys instead of showing: single control characters, and sequences
that begin with an escape. The shown part of a text leaves them all out, and with
them whatever an unfinished sequence would still take for its own.

Tabs and line ends are shown even where they break into a sequence. In a text
that stands alone the sequence is over with that. On a stream it is only put
off: text is shown again, and the next character that is not shown takes the
sequence up where it was broken.

Some parts of a message are marked, as by a colour. The sequences around such a
part are complete, so one that the text before left open ends there.
-/

set_option autoImplicit false

namespace ModelExport.Text.Terminal

/-! ## Characters -/

/-- Whether a control character is layout: a tab, or what moves to another line. -/
def isLayout (c : Char) : Bool := c == '\t' || c == '\n' || c == '\x0c' || c == '\r'

/-- Whether a character is neither a control character nor Delete. -/
def isGraphic (c : Char) : Bool := 0x20 ≤ c.toNat && c != '\x7f'

/-- Whether a character lies in a range of numbers. -/
def isBetween (low high : Nat) (c : Char) : Bool := low ≤ c.toNat && c.toNat ≤ high

/-- Whether a character ends a string for the device: the string ends at the byte 9C, wherever the
encoding of the character has it. -/
def endsString (c : Char) : Bool := (String.utf8EncodeChar c).contains 0x9C

/-! ## Sequences -/

/-- What a terminal takes the next character for. -/
inductive Mode where
  /-- Text. -/
  | ground
  /-- The first character after an escape. -/
  | escape
  /-- The rest of a short sequence. -/
  | escapeTail
  /-- The rest of a sequence that began with an opening bracket. -/
  | control
  /-- The inside of a command, such as a title, which a bell ends. -/
  | command
  /-- The first character of a string for the device. -/
  | device
  /-- The numbers at the head of such a string. -/
  | deviceNumbers
  /-- The marks at the head of such a string. -/
  | deviceMarks
  /-- The inside of a string, behind its head. -/
  | string
deriving DecidableEq

namespace Mode

/-- The mode after the first character behind an escape. -/
def afterEscape (c : Char) : Mode :=
  if c = '[' then .control
  else if c = ']' then .command
  else if c = 'P' then .device
  else if c = 'X' || c = '^' || c = '_' then .string
  else if isBetween 0x20 0x2F c then .escapeTail
  else if isBetween 0x30 0x7E c then .ground
  else .escape

/-- The mode after a character in the head of a string for the device, where numbers lead to one
mode and what stands beside numbers leads to another. -/
def inHead (mode beside : Mode) (c : Char) : Mode :=
  if isBetween 0x20 0x2F c then .deviceMarks
  else if isBetween 0x30 0x3B c then .deviceNumbers
  else if isBetween 0x3C 0x3F c then beside
  else if isBetween 0x40 0x7E c then .string
  else mode

/-- The mode after a character. Cancel and Substitute end every sequence, and an escape begins a
new one in its place. -/
def next (mode : Mode) (c : Char) : Mode :=
  if c = '\x18' || c = '\x1a' then .ground
  else if c = '\x1b' then .escape
  else
    match mode with
    | .ground => .ground
    | .escape => afterEscape c
    | .escapeTail => if isBetween 0x30 0x7E c then .ground else .escapeTail
    | .control => if isBetween 0x40 0x7E c then .ground else .control
    | .command => if c = '\x07' then .ground else .command
    | .device => inHead .device .deviceNumbers c
    | .deviceNumbers => inHead .deviceNumbers .string c
    | .deviceMarks => if isBetween 0x30 0x7E c then .string else .deviceMarks
    | .string => if endsString c then .ground else .string

/-- Whether layout is shown where it breaks into a sequence. Commands and strings take it in. -/
def isBreakable : Mode → Bool
  | .escape => true
  | .escapeTail => true
  | .control => true
  | _ => false

end Mode

/-! ## Texts -/

/-- Where a text is shown. -/
inductive Place where
  /-- By itself: layout ends the sequence that it breaks into. -/
  | alone
  /-- On a stream: layout puts the sequence off. -/
  | stream
deriving DecidableEq

/-- How far a text was read. -/
structure State where
  mode : Mode
  /-- Whether the sequence is put off, and text is shown meanwhile. -/
  suspended : Bool
deriving DecidableEq

namespace State

/-- Outside of every sequence. -/
def ground : State := ⟨.ground, false⟩

/-- Whether text is shown as it stands. -/
def isOpen (state : State) : Bool := state.suspended || state.mode = .ground

/-- Whether a character is shown. -/
def shows (state : State) (c : Char) : Bool :=
  if state.isOpen then isGraphic c || isLayout c
  else state.mode.isBreakable && isLayout c

/-- The state after a character. A sequence that was put off is forgotten at the first character
beyond ASCII. -/
def next (place : Place) (state : State) (c : Char) : State :=
  if state.suspended && state.shows c then
    if c.toNat < 0x80 then state else ground
  else if state.shows c && !state.isOpen then
    match place with
    | .alone => ground
    | .stream => ⟨state.mode, true⟩
  else ⟨state.mode.next c, false⟩

/-- The state after a text. -/
def after (place : Place) (state : State) (text : List Char) : State :=
  text.foldl (next place) state

end State

/-- What is shown of a text that begins in a state. -/
def shownFrom (place : Place) (state : State) : List Char → List Char
  | [] => []
  | c :: rest =>
      let others := shownFrom place (state.next place c) rest
      if state.shows c then c :: others else others

/-! ## Messages -/

/-- A part of a message. -/
inductive Span where
  | plain (text : String)
  | marked (text : String)
deriving DecidableEq

/-- What is shown of the rest of a message that begins in a state. -/
def shownSpans (place : Place) (state : State) : List Span → List Char
  | [] => []
  | .plain text :: rest =>
      shownFrom place state text.toList ++
        shownSpans place (state.after place text.toList) rest
  | .marked text :: rest =>
      shownFrom place .ground text.toList ++ shownSpans place .ground rest

/-- What is shown of a message. -/
def shown (place : Place) (message : List Span) : String :=
  .ofList (shownSpans place .ground message)

end ModelExport.Text.Terminal
