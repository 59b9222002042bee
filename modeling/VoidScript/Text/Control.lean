import VoidScript.Text.Bytes

/-!
Control sequences: what stands between an escape character and the end of its sequence instructs
a display and is not shown by it. Where no display reads a text, the sequences are left out, and
with them all control characters but the tab and the line and page breaks.
-/

namespace VoidScript.Text.Control

def escapeCharacter : Char := '\x1b'

/-- What a character may be part of. -/
inductive State
  | plain
  /-- Directly after an escape character. -/
  | escape
  | intermediate
  /-- A sequence of parameters that ends with a letter. -/
  | control
  /-- The head of a string for the device. -/
  | device
  | deviceParameters
  | deviceIntermediate
  /-- A string that lasts until its terminator. -/
  | string
  /-- A string that a bell ends too. -/
  | title
  deriving DecidableEq, Repr

def isBreak (c : Char) : Bool := c == '\t' || c == '\n' || c == '\x0c' || c == '\r'

def isShown (c : Char) : Bool := isBreak c || ('\x20' ≤ c && c ≠ '\x7f')

def isIntermediate (c : Char) : Bool := '\x20' ≤ c && c ≤ '\x2f'

def isParameter (c : Char) : Bool := '\x30' ≤ c && c ≤ '\x3f'

/-- A parameter that only the start of a sequence may hold. -/
def isPrivate (c : Char) : Bool := '\x3c' ≤ c && c ≤ '\x3f'

def isFinal (c : Char) : Bool := '\x40' ≤ c && c ≤ '\x7e'

/-- The terminator is a single byte, which may lie inside a character. -/
def endsString (c : Char) : Bool := (Text.bytes [c]).contains 0x9c

/-- An escape character starts a new sequence wherever it stands, and two control characters end
any sequence. -/
def interrupt? (c : Char) : Option State :=
  if c = escapeCharacter then some .escape
  else if c = '\x18' ∨ c = '\x1a' then some .plain
  else none

/-- What follows an escape character decides the kind of its sequence. -/
def opened (c : Char) : State :=
  if c = 'P' then .device
  else if c = '[' then .control
  else if c = ']' then .title
  else if c = 'X' ∨ c = '^' ∨ c = '_' then .string
  else if isIntermediate c then .intermediate
  else if isParameter c || isFinal c then .plain
  else .escape

/-- The head of a string for the device ends with a letter, or where it breaks the order of its
parts. -/
def headed (state : State) (c : Char) : State :=
  if isFinal c then .string
  else if isIntermediate c then .deviceIntermediate
  else if isParameter c then
    match state with
    | .device => .deviceParameters
    | .deviceParameters => if isPrivate c then .string else .deviceParameters
    | _ => .string
  else state

def State.next (state : State) (c : Char) : State :=
  match interrupt? c, state with
  | some state, _ => state
  | none, .plain => .plain
  | none, .escape => if isBreak c then .plain else opened c
  | none, .intermediate =>
      if isBreak c || isParameter c || isFinal c then .plain else .intermediate
  | none, .control => if isBreak c || isFinal c then .plain else .control
  | none, .string => if endsString c then .plain else .string
  | none, .title => if c = '\x07' then .plain else .title
  | none, state => headed state c

/-- A break shows also inside a sequence that is no string, and ends it. -/
def State.shows (state : State) (c : Char) : Bool :=
  match state with
  | .plain => isShown c
  | .escape | .intermediate | .control => isBreak c
  | _ => false

def State.visible (state : State) : Text → Text
  | [] => []
  | c :: rest =>
      if state.shows c then c :: (state.next c).visible rest else (state.next c).visible rest

/-- The text without its control sequences. -/
def visible (s : Text) : Text := State.plain.visible s

/-- A text between the sequences that turn bold print on and off. -/
def bold (s : Text) : Text := "\x1b[1m".toList ++ s ++ "\x1b[0m".toList

end VoidScript.Text.Control
