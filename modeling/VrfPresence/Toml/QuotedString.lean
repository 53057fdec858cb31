import VrfPresence.Text.Numeral
import VrfPresence.Toml.Fault

/-!
# Strings of a settings file

Basic strings stand in double quotes and know escapes, literal strings stand in single quotes
and know none. Either is within one line, or between three quotes on several lines: then a
newline right after the opening is dropped, the closing quotes may follow up to two quotes
that belong to the text, and in a basic string a backslash at the end of a line drops the
line end and all blanks after it. The text is read one character at a time, and a small state
says what a backslash before it has begun.
-/

namespace VrfPresence.Toml

/-- The rules of the string that is being read, and where it starts. -/
structure StringForm where
  start : Nat
  literal : Bool
  multiline : Bool

def StringForm.delimiter (form : StringForm) : Char := if form.literal then '\'' else '"'

/-- What the next character of a string belongs to. -/
inductive StringState
  | plain
  /-- The character that a backslash escapes. -/
  | escape
  /-- A code, whose letter stands at `start`, with some digits left. -/
  | code (start : Nat) (left : Nat) (value : Nat)
  /-- Blanks between a backslash and the end of its line, from the first of them on. -/
  | beforeLineEnd (first : Placed Char)
  /-- Blanks and line ends that do not count. -/
  | afterLineEnd

/-- The text that follows a delimiter, less at most `count` more of it. -/
def takeQuotes (delimiter : Char) :
    (count : Nat) → List (Placed Char) → List Char × List (Placed Char)
  | count + 1, c :: text =>
    if c.item = delimiter then
      let (quotes, rest) := takeQuotes delimiter count text
      (delimiter :: quotes, rest)
    else ([], c :: text)
  | _, text => ([], text)

def isInlineBlank (c : Char) : Bool := c == ' ' || c == '\t'

/-- The characters that may stand for themselves within a line of a string. -/
def isStringChar (c : Char) : Bool := c == '\t' || (0x20 ≤ c.toNat && c.toNat != 0x7F)

/-- The character that a letter after a backslash stands for. -/
def simpleEscape? : Char → Option Char
  | '"' => some '"'
  | '\\' => some '\\'
  | 'b' => some '\x08'
  | 'f' => some '\x0c'
  | 'n' => some '\n'
  | 'r' => some '\r'
  | 't' => some '\t'
  | _ => none

/-- What a character of the text itself comes to. -/
inductive StringStep
  | keep (c : Char)
  | escape
  /-- It begins the closing quotes, which leave some quotes to the text. -/
  | close (quotes : List Char) (rest : List (Placed Char))
  | fail (fault : Fault)

/-- A character of the text itself, in front of what follows it. -/
def stringStep (form : StringForm) (c : Placed Char) (text : List (Placed Char)) : StringStep :=
  if c.item = form.delimiter then
    if form.multiline then
      match takeQuotes form.delimiter 2 text with
      | ([_, _], rest) =>
        let (quotes, rest) := takeQuotes form.delimiter 2 rest
        .close quotes rest
      | _ => .keep c.item
    else .close [] text
  else if c.item = '\n' then
    if form.multiline then .keep '\n' else .fail ⟨.newlineInString, c.offset, []⟩
  else if c.item = '\\' ∧ form.literal = false then .escape
  else if isStringChar c.item then .keep c.item
  else .fail ⟨.controlInString c.item, c.offset, []⟩

/-- The state skips the character. -/
def StringState.skips : StringState → Char → Bool
  | .afterLineEnd, c => c == '\n' || isInlineBlank c
  | _, _ => false

/-- A character in front of a text that was read. -/
def consText (c : Char) (read : Except Fault (List Char × List (Placed Char))) :
    Except Fault (List Char × List (Placed Char)) :=
  read.map fun (text, rest) => (c :: text, rest)

/-- Reads the text of a string up to and with its closing quotes. -/
def readStringText (form : StringForm) :
    StringState → List (Placed Char) → Except Fault (List Char × List (Placed Char))
  | _, [] => .error ⟨.unterminatedString, form.start, []⟩
  | .escape, c :: text =>
    match simpleEscape? c.item with
    | some escaped => consText escaped (readStringText form .plain text)
    | none =>
      if c.item = 'u' then readStringText form (.code c.offset 4 0) text
      else if c.item = 'U' then readStringText form (.code c.offset 8 0) text
      else if form.multiline && c.item == '\n' then readStringText form .afterLineEnd text
      else if form.multiline && isInlineBlank c.item then
        readStringText form (.beforeLineEnd c) text
      else .error ⟨.unknownEscape c.item, c.offset, []⟩
  | .code start left value, c :: text =>
    match Text.digitIn? 16 c.item with
    | none => .error ⟨.unknownHexDigit c.item, c.offset, []⟩
    | some digit =>
      let code := value * 16 + digit
      if 1 < left then readStringText form (.code start (left - 1) code) text
      else if code.isValidChar then consText (Char.ofNat code) (readStringText form .plain text)
      else .error ⟨.noScalarValue code, start, []⟩
  | .beforeLineEnd first, c :: text =>
    if c.item = '\n' then readStringText form .afterLineEnd text
    else if isInlineBlank c.item then readStringText form (.beforeLineEnd first) text
    else .error ⟨.unknownEscape first.item, first.offset, []⟩
  | state, c :: text =>
    if state.skips c.item then readStringText form .afterLineEnd text
    else match stringStep form c text with
      | .keep c => consText c (readStringText form .plain text)
      | .escape => readStringText form .escape text
      | .close quotes rest => .ok (quotes, rest)
      | .fail fault => .error fault

/-- Drops one newline at the very start. -/
def dropNewline : List (Placed Char) → List (Placed Char)
  | ⟨_, '\n'⟩ :: text => text
  | text => text

/-- Reads a string whose first quote stands at `start` and in front of the text: the token and
what follows it. -/
def readString (start : Nat) (literal : Bool) (text : List (Placed Char)) :
    Except Fault (Token × List (Placed Char)) :=
  let form : StringForm := ⟨start, literal, false⟩
  match takeQuotes form.delimiter 2 text with
  | ([], _) =>
    (readStringText form .plain text).map fun (value, rest) => (.string value false, rest)
  | ([_], rest) => .ok (.string [] false, rest)
  | (_, rest) =>
    (readStringText { form with multiline := true } .plain (dropNewline rest)).map
      fun (value, rest) => (.string value true, rest)

/-! ### Writing -/

/-- A character as it stands in a basic string on one line. -/
def writeBasicChar (c : Char) : List Char :=
  if c = '"' ∨ c = '\\' then ['\\', c]
  else if isStringChar c then [c]
  else ['\\', 'u'] ++ Text.padZeros 4 (Nat.toDigits 16 c.toNat)

end VrfPresence.Toml
