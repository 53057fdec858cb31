/-!
# Numerals

Digits in any base up to 36, and the unsigned numerals of a bounded word: an optional plus
sign, then at least one digit, with a value below the bound. Written digits read back
(`readDigits_toDigits`).
-/

namespace VrfPresence.Text

/-- The value of a digit; letters of either case stand for ten and more. -/
def digitValue? (c : Char) : Option Nat :=
  if '0' ≤ c ∧ c ≤ '9' then some (c.toNat - '0'.toNat)
  else if 'a' ≤ c ∧ c ≤ 'z' then some (c.toNat - 'a'.toNat + 10)
  else if 'A' ≤ c ∧ c ≤ 'Z' then some (c.toNat - 'A'.toNat + 10)
  else none

def digitIn? (base : Nat) (c : Char) : Option Nat :=
  (digitValue? c).filter (· < base)

/-- Reads digits onto a value read so far. -/
def readDigits (base : Nat) : Nat → List Char → Option Nat
  | value, [] => some value
  | value, c :: text =>
    match digitIn? base c with
    | some digit => readDigits base (value * base + digit) text
    | none => none

/-- At least one digit, and nothing else. -/
def readNumeral? (base : Nat) : List Char → Option Nat
  | [] => none
  | text => readDigits base 0 text

def dropPlus : List Char → List Char
  | '+' :: text => text
  | text => text

/-- An unsigned numeral below the bound, with at most one plus sign in front. -/
def readUnsigned? (base bound : Nat) (text : List Char) : Option Nat :=
  (readNumeral? base (dropPlus text)).filter (· < bound)

/-- At least `width` digits, by zeros in front. -/
def padZeros (width : Nat) (digits : List Char) : List Char :=
  List.replicate (width - digits.length) '0' ++ digits

/-! ### Laws -/

theorem readDigits_append (base value : Nat) (a b : List Char) :
    readDigits base value (a ++ b) = (readDigits base value a).bind (readDigits base · b) := by
  induction a generalizing value with
  | nil => rfl
  | cons c a ih =>
    simp only [List.cons_append, readDigits]
    cases digitIn? base c with
    | none => rfl
    | some digit => exact ih _

theorem digitIn?_digitChar {base digit : Nat} (hd : digit < base) (hb : base ≤ 16) :
    digitIn? base digit.digitChar = some digit := by
  have h16 : digit < 16 := Nat.lt_of_lt_of_le hd hb
  have key : ∀ d < 16, digitValue? d.digitChar = some d := by decide
  simp [digitIn?, key digit h16, hd]

theorem readDigits_toDigits {base : Nat} (h1 : 1 < base) (h16 : base ≤ 16) (n value : Nat) :
    readDigits base value (base.toDigits n) =
      some (value * Nat.pow base (base.toDigits n).length + n) := by
  induction n using Nat.strongRecOn with
  | _ n ih =>
    by_cases hlt : n < base
    · rw [Nat.toDigits_of_lt_base hlt]
      simp [readDigits, digitIn?_digitChar hlt h16]
    · have hge : base ≤ n := Nat.le_of_not_lt hlt
      have hpos : 0 < base := Nat.lt_trans Nat.zero_lt_one h1
      have hmod : n % base < base := Nat.mod_lt n hpos
      have hn : 0 < n := Nat.lt_of_lt_of_le hpos hge
      rw [Nat.toDigits_of_base_le h1 hge, readDigits_append, ih (n / base) (Nat.div_lt_self hn h1)]
      simp only [Option.bind_some, readDigits, digitIn?_digitChar hmod h16, List.length_append,
        List.length_cons, List.length_nil, Nat.zero_add, Nat.pow_eq, Nat.pow_succ,
        Option.some.injEq]
      have hdiv := Nat.div_add_mod n base
      rw [Nat.add_mul, Nat.mul_assoc, Nat.add_assoc, Nat.mul_comm (n / base) base, hdiv]

end VrfPresence.Text
