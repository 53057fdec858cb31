import VrfPresence.Text.Numeral
import VrfPresence.Toml.Value

/-!
# Numbers of a settings file

Integers are 64-bit words in base ten with a sign, or in base sixteen, eight or two with a
mark in front and without one. Single underscores may stand between digits. Leading zeros are
refused where they could be taken for a mark. A floating point number is rounded to the
nearest binary value and must be finite.
-/

namespace VrfPresence.Toml

/-- The digits that may stand in some part of a number. -/
structure DigitRule where
  base : Nat := 10
  signed : Bool := false
  leadingZeros : Bool := true

/-- How far a run of digits has got. -/
inductive DigitState
  | start
  | inside (zeroFirst : Bool) (underscoreLast : Bool)

/-- The digits at the front of a text and what follows them. A run that is empty or ends in an
underscore is refused at `origin`, a character out of place at its own offset. -/
def digitRun (rule : DigitRule) (origin : Nat) :
    DigitState → (offset : Nat) → List Char → Except Fault (List Char × List Char)
  | .start, _, [] => .error ⟨.invalidNumber, origin, []⟩
  | .inside _ underscoreLast, _, [] =>
    if underscoreLast then .error ⟨.invalidNumber, origin, []⟩ else .ok ([], [])
  | .start, offset, c :: text =>
    if (Text.digitIn? rule.base c).isSome then
      (digitRun rule origin (.inside (c == '0') false) (offset + 1) text).map
        fun (digits, rest) => (c :: digits, rest)
    else .error ⟨.invalidNumber, if c = '_' then offset else origin, []⟩
  | .inside zeroFirst underscoreLast, offset, c :: text =>
    if (Text.digitIn? rule.base c).isSome then
      if zeroFirst && !rule.leadingZeros then .error ⟨.invalidNumber, offset, []⟩
      else (digitRun rule origin (.inside zeroFirst false) (offset + 1) text).map
        fun (digits, rest) => (c :: digits, rest)
    else if c = '_' ∧ underscoreLast = false then
      digitRun rule origin (.inside zeroFirst true) (offset + 1) text
    else if underscoreLast then .error ⟨.invalidNumber, origin, []⟩
    else .ok ([], c :: text)

structure SignedDigits where
  negative : Bool
  digits : List Char
  rest : List Char

/-- The digits at the front of a word, behind a sign where the rule allows one. -/
def readRun (rule : DigitRule) (word : Placed (List Char)) : Except Fault SignedDigits :=
  let unsigned (negative : Bool) (offset : Nat) (text : List Char) : Except Fault SignedDigits :=
    (digitRun rule word.offset .start offset text).map fun (digits, rest) =>
      ⟨negative, digits, rest⟩
  match rule.signed, word.item with
  | true, '-' :: text => unsigned true (word.offset + 1) text
  | true, '+' :: text => unsigned false (word.offset + 1) text
  | _, text => unsigned false word.offset text

def digitsValue (base : Nat) (digits : List Char) : Nat := (Text.readDigits base 0 digits).getD 0

/-- An integer of a 64-bit word. -/
def readInteger (base : Nat) (word : Placed (List Char)) : Except Fault Int := do
  let run ← readRun ⟨base, base == 10, base != 10⟩ word
  let magnitude : Int := digitsValue base run.digits
  let value := if run.negative then -magnitude else magnitude
  if run.rest = [] ∧ -0x8000000000000000 ≤ value ∧ value < 0x8000000000000000 then return value
  else throw ⟨.invalidNumber, word.offset, []⟩

/-- The value of a floating point number by its parts. -/
def floatValue? (whole : SignedDigits) (fraction : List Char) (exponent : Int) :
    Option FloatValue :=
  (Decimal.Binary64.ofDecimal (digitsValue 10 (whole.digits ++ fraction))
    (exponent - fraction.length)).map (.finite whole.negative)

end VrfPresence.Toml
