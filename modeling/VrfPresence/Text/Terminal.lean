/-!
# Text without terminal controls

What is left of a text where no terminal takes orders from it. Control sequences begin with
the escape character and are dropped with all their parameters; control characters are
dropped too, but for tab, newline, form feed and carriage return, which count as white space
even inside a short sequence. Text behind such white space shows again, up to the next dropped
character, from where on an unfinished sequence goes on.
-/

namespace VrfPresence.Text

/-- The sequence that the characters before have begun. -/
inductive Sequence
  | none
  /-- Behind the escape character. -/
  | escape
  /-- Behind a mark in an escape sequence. -/
  | escapeMark
  /-- Parameters up to a final letter. -/
  | control
  /-- The header of a device string: at its start, among parameters, behind a mark. -/
  | device
  | deviceParameter
  | deviceMark
  /-- A string up to its terminator. -/
  | payload
  /-- A command to the system, up to a bell. -/
  | command
  deriving DecidableEq, Repr

/-- White space that is obeyed, and so kept, where other controls are dropped. -/
def isControlBlank (c : Char) : Bool := c == '\t' || c == '\n' || c == '\x0c' || c == '\r'

def isShown (c : Char) : Bool := isControlBlank c || (0x20 ≤ c.toNat && c.toNat != 0x7F)

def isWithin (first last : Nat) (c : Char) : Bool := first ≤ c.toNat && c.toNat ≤ last

namespace Sequence

/-- The sequence is one in which white space controls are obeyed. -/
def obeys : Sequence → Bool
  | .none => true
  | .escape => true
  | .escapeMark => true
  | .control => true
  | _ => false

def shows (sequence : Sequence) (c : Char) : Bool :=
  (sequence.obeys && isControlBlank c) || (sequence == .none && isShown c)

/-- The sequence behind the escape character and another one. -/
def afterEscape (c : Char) : Sequence :=
  if c = '[' then .control
  else if c = ']' then .command
  else if c = 'P' then .device
  else if c = 'X' ∨ c = '^' ∨ c = '_' then .payload
  else if isWithin 0x20 0x2F c then .escapeMark
  else if isWithin 0x30 0x7E c then .none
  else .escape

/-- The sequence behind a character of the header of a device string; `other` stands behind
further parameters. -/
def afterDevice (sequence other : Sequence) (c : Char) : Sequence :=
  if isWithin 0x20 0x2F c then .deviceMark
  else if isWithin 0x30 0x3F c then other
  else if isWithin 0x40 0x7E c then .payload
  else sequence

/-- The sequence behind a character that does not show. The escape character begins a new
sequence anywhere; two control characters cancel any. -/
def next (sequence : Sequence) (c : Char) : Sequence :=
  if c = '\x1b' then .escape
  else if c = '\x18' ∨ c = '\x1a' then .none
  else match sequence with
    | .none => .none
    | .escape => afterEscape c
    | .escapeMark => if isWithin 0x30 0x7E c then .none else .escapeMark
    | .control => if isWithin 0x40 0x7E c then .none else .control
    | .device => afterDevice .device .deviceParameter c
    | .deviceParameter =>
      afterDevice .deviceParameter (if c.toNat < 0x3C then .deviceParameter else .payload) c
    | .deviceMark => afterDevice .deviceMark .payload c
    | .payload => if (String.utf8EncodeChar c).contains 0x9C then .none else .payload
    | .command => if c = '\x07' then .none else .command

end Sequence

/-- What shows of a text behind a sequence; `showing` says that the character before showed. -/
def visibleFrom (sequence : Sequence) (showing : Bool) : List Char → List Char
  | [] => []
  | c :: text =>
    if sequence.shows c || (showing && isShown c) then
      c :: visibleFrom (if 0x80 ≤ c.toNat then .none else sequence) true text
    else visibleFrom (sequence.next c) false text

def visible (text : String) : String := String.ofList (visibleFrom .none false text.toList)

end VrfPresence.Text
