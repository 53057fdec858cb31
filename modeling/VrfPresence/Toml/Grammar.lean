import VrfPresence.Toml.Number
import VrfPresence.Toml.Reading

/-!
# The values that tokens spell

Strings, truth values, numbers, dates and times, arrays and inline tables. A word that is
neither of the two truth values is a number or a date by its shape alone, and dates are read
for their shape only. Arrays run over several lines and may end in a comma, inline tables may
not.
-/

namespace VrfPresence.Toml

/-! ### Numbers, dates and times -/

/-- A word has the shape of a date. -/
def isDateWord (text : List Char) : Bool :=
  text.contains 'T' || text.contains 't' ||
    (text.tail.contains '-' && !containsPair 'e' '-' text && !containsPair 'E' '-' text)
where
  containsPair (a b : Char) (text : List Char) : Bool := (text.zip text.tail).contains (a, b)

/-- The tokens behind a single space and a word, where these come next. -/
def Tokens.afterDateSpace : Tokens → Tokens
  | .next _ (.blank [' ']) (.next _ (.word _) rest) => rest
  | tokens => tokens

/-- The rest of a date or time whose first word stands at `start`: a time of day may follow
with its fraction and its offset. -/
def readDateTime (start : Nat) (colonTaken : Bool) : Reading Unit := do
  modify (·.afterDateSpace)
  let timed ← if colonTaken then pure true else eat .colon
  if timed then
    let _ ← takeWord .invalidDate start
    expect .colon
    let _ ← takeWord .invalidDate start
    for separator in [Token.period, .plus, .colon] do
      if ← eat separator then
        let _ ← takeWord .invalidDate start

/-- The digits of an exponent, behind its letter at the end of a word or in the words that
follow. `offset` is where the text behind the letter stands, `start` the number. -/
def readExponent (start offset : Nat) (text : List Char) : Reading Int := do
  let run ←
    if text = [] then do
      let _ ← eat .plus
      let word ← takeWord .invalidNumber start
      (readRun ⟨10, false, true⟩ word : Except Fault SignedDigits)
    else (readRun ⟨10, true, true⟩ ⟨offset, text⟩ : Except Fault SignedDigits)
  if run.rest ≠ [] then fault .invalidNumber start
  let magnitude : Int := digitsValue 10 run.digits
  return if run.negative then -magnitude else magnitude

/-- A floating point number by the word before its point and the word behind it. -/
def readFloat (whole : Placed (List Char)) (fraction : Option (Placed (List Char))) :
    Reading FloatValue := do
  let run ← (readRun ⟨10, true, false⟩ whole : Except Fault SignedDigits)
  let (digits, rest, last) ← match fraction with
    | none => pure ([], run.rest, whole)
    | some word => do
      if run.rest ≠ [] then fault .invalidNumber whole.offset
      let places ← (readRun ⟨10, false, true⟩ word : Except Fault SignedDigits)
      pure (places.digits, places.rest, word)
  let exponent : Int ← match rest with
    | [] => pure 0
    | mark :: text => do
      if mark ≠ 'e' ∧ mark ≠ 'E' then fault .invalidNumber whole.offset
      readExponent whole.offset (last.offset + last.item.length - text.length) text
  match floatValue? run digits exponent with
  | some value => return value
  | none => fault .invalidNumber whole.offset

/-- The number that begins with a word; `start` is where its value starts. -/
def readNumber (start : Nat) (word : Placed (List Char)) : Reading (Placed Value) := do
  let integer (base : Nat) (digits : Placed (List Char)) : Reading (Placed Value) := do
    let value ← (readInteger base digits : Except Fault Int)
    return ⟨start, .integer value⟩
  match word.item with
  | '0' :: 'x' :: digits => integer 16 ⟨word.offset + 2, digits⟩
  | '0' :: 'o' :: digits => integer 8 ⟨word.offset + 2, digits⟩
  | '0' :: 'b' :: digits => integer 2 ⟨word.offset + 2, digits⟩
  | text => do
    if text.contains 'e' || text.contains 'E' then
      return ⟨start, .float (← readFloat word none)⟩
    else if ← eat .period then
      let fraction ← takeWord .invalidNumber (← here)
      return ⟨fraction.offset, .float (← readFloat word (some fraction))⟩
    else if text = ['i', 'n', 'f'] then return ⟨start, .float (.infinite false)⟩
    else if text = ['-', 'i', 'n', 'f'] then return ⟨start, .float (.infinite true)⟩
    else if text = ['n', 'a', 'n'] ∨ text = ['-', 'n', 'a', 'n'] then
      return ⟨start, .float .notANumber⟩
    else integer 10 word

def readWordValue (word : Placed (List Char)) : Reading (Placed Value) := do
  let text := word.item
  let numeric := text.head?.any fun c => c == '-' || c.isDigit
  if text = "true".toList then return ⟨word.offset, .boolean true⟩
  else if text = "false".toList then return ⟨word.offset, .boolean false⟩
  else if !numeric && text != ['i', 'n', 'f'] && text != ['n', 'a', 'n'] then
    fault .unquotedValue word.offset
  else if isDateWord text then
    readDateTime word.offset false
    return ⟨word.offset, .datetime⟩
  else if ← eat .colon then
    readDateTime word.offset true
    return ⟨word.offset, .datetime⟩
  else readNumber word.offset word

/-! ### Arrays and inline tables -/

mutual

/-- A value (`fuel` bounds the tokens it is made of, twice counted). -/
def readValue : (fuel : Nat) → Reading (Placed Value)
  | 0 => do fault .unexpectedEnd (← here)
  | fuel + 1 => do
    let offset ← here
    match ← take with
    | some ⟨offset, .string text _⟩ => return ⟨offset, .string (String.ofList text)⟩
    | some ⟨offset, .word text⟩ => readWordValue ⟨offset, text⟩
    | some ⟨offset, .plus⟩ => do
      let word ← takeWord .invalidNumber (← here)
      readNumber offset word
    | some ⟨offset, .leftBrace⟩ => do
      skipBlank
      let pairs ← if ← eat .rightBrace then pure [] else readInlinePairs fuel []
      return ⟨offset, .table false pairs⟩
    | some ⟨offset, .leftBracket⟩ => return ⟨offset, .array (← readItems fuel)⟩
    | some ⟨_, found⟩ => fault (.expected .value (some found)) offset
    | none => fault .unexpectedEnd offset

/-- The values of an array up to and with its closing bracket. -/
def readItems : (fuel : Nat) → Reading (List (Placed Value))
  | 0 => do fault .unexpectedEnd (← here)
  | fuel + 1 => do
    skipLines
    if ← eat .rightBracket then return []
    let value ← readValue fuel
    skipLines
    if ← eat .comma then return value :: (← readItems fuel)
    skipLines
    expect .rightBracket
    return [value]

/-- The pairs of an inline table, added to those before them, up to and with its closing
brace. -/
def readInlinePairs : (fuel : Nat) → List Pair → Reading (List Pair)
  | 0, _ => do fault .unexpectedEnd (← here)
  | fuel + 1, pairs => do
    let keys ← readKeys
    skipBlank
    expect .equals
    skipBlank
    let value ← readValue fuel
    let pairs ← (insert keys value pairs : Except Fault (List Pair))
    skipBlank
    if ← eat .rightBrace then return pairs
    expect .comma
    skipBlank
    readInlinePairs fuel pairs

end

def nextValue : Reading (Placed Value) := do readValue (2 * (← get).count + 2)

end VrfPresence.Toml
