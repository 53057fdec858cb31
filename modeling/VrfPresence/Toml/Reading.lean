import VrfPresence.Toml.Tokens

/-!
# Reading tokens

Reading goes over the tokens from left to right and stops at the first fault, whether of the
tokens or of the grammar. These are the steps that the grammar is made of: looking at the
next token, taking it, asking for a certain one, and passing over blanks and comments.
-/

namespace VrfPresence.Toml

/-- A computation that takes tokens. -/
abbrev Reading := StateT Tokens (Except Fault)

def Tokens.offset : Tokens → Nat
  | .finish offset => offset
  | .fail fault => fault.offset
  | .next offset _ _ => offset

/-- Stops with a cause at an offset. -/
def fault {α : Type} (cause : Cause) (offset : Nat) : Reading α := throw ⟨cause, offset, []⟩

def here : Reading Nat := return (← get).offset

/-- The next token, left where it is; `none` at the end. -/
def peek : Reading (Option Token) := do
  match ← get with
  | .finish _ => return none
  | .fail fault => throw fault
  | .next _ token _ => return some token

def take : Reading (Option (Placed Token)) := do
  match ← get with
  | .finish _ => return none
  | .fail fault => throw fault
  | .next offset token rest => do
    set rest
    return some ⟨offset, token⟩

def eat (token : Token) : Reading Bool := do
  if (← peek) = some token then
    let _ ← take
    return true
  else return false

/-- Takes the token, which must be the next one. -/
def expect (token : Token) : Reading Unit := do
  let offset ← here
  let found ← take
  if found.map (·.item) ≠ some token then
    fault (.expected (.token token) (found.map (·.item))) offset

def skipBlank : Reading Unit := do
  match ← peek with
  | some (.blank _) => discard take
  | _ => return ()

/-- Takes the end of a line, or finds the end of the source. -/
def lineEnd : Reading Unit := do
  let offset ← here
  match ← take with
  | none => return ()
  | some ⟨_, .newline⟩ => return ()
  | some ⟨_, found⟩ => fault (.expected .lineEnd (some found)) offset

/-- Passes over blanks and a comment to the end of the line. -/
def closeLine : Reading Unit := do
  skipBlank
  let _ ← eat .comment
  lineEnd

/-- The tokens behind all blanks, comments and line ends. -/
def Tokens.afterLines : Tokens → Except Fault Tokens
  | .next _ (.blank _) rest => rest.afterLines
  | .next _ .newline rest => rest.afterLines
  | .next _ .comment (.next _ .newline rest) => rest.afterLines
  | .next _ .comment (.next offset found _) =>
    .error ⟨.expected .lineEnd (some found), offset, []⟩
  | .next _ .comment rest => rest.afterLines
  | .fail fault => .error fault
  | tokens => .ok tokens

def skipLines : Reading Unit := do set (← (← get).afterLines)

/-- The next token, which must be a word. -/
def takeWord (otherwise : Cause) (offset : Nat) : Reading (Placed (List Char)) := do
  match ← take with
  | some ⟨offset, .word text⟩ => return ⟨offset, text⟩
  | _ => fault otherwise offset

/-! ### Keys -/

/-- One part of a key: a word, or a string within one line. -/
def readKey : Reading String := do
  let offset ← here
  match ← take with
  | some ⟨_, .word text⟩ => return String.ofList text
  | some ⟨_, .string text false⟩ => return String.ofList text
  | some ⟨offset, .string _ true⟩ => fault .multilineKey offset
  | found => fault (.expected .tableKey (found.map (·.item))) offset

/-- The parts of a key behind its first one (`fuel` bounds their number). -/
def readMoreKeys : (fuel : Nat) → Reading (List String)
  | 0 => return []
  | fuel + 1 => do
    if ← eat .period then
      skipBlank
      let key ← readKey
      skipBlank
      return key :: (← readMoreKeys fuel)
    else return []

/-- A key of one or more parts with periods between them. -/
def readKeys : Reading (List String) := do
  let first ← readKey
  skipBlank
  return first :: (← readMoreKeys (← get).count)

end VrfPresence.Toml
