import VrfPresence.Text.Blank
import VrfPresence.Text.Numeral

/-!
# Written numerals

Digits that a number was written with are a numeral of that number, with small or capital
letters and behind any number of zeros, and no digit is white space or a sign.
-/

namespace VrfPresence.Text

/-! ### Single digits -/

/-- What was checked of each code below a bound holds of the characters with these codes. -/
theorem forall_of_toNat_lt {bound : Nat} {P : Char → Prop} (h : ∀ n < bound, P (Char.ofNat n))
    {c : Char} (hc : c.toNat < bound) : P c := by
  have hn := h c.toNat hc
  rwa [Char.ofNat_toNat] at hn

/-- Outside the ranges of digits, capitals and small letters no character is a digit. -/
theorem digitValue?_of_outside {c : Char} (hdigit : c.toNat < 48 ∨ 57 < c.toNat)
    (hcapital : c.toNat < 65 ∨ 90 < c.toNat) (hsmall : c.toNat < 97 ∨ 122 < c.toNat) :
    digitValue? c = none := by
  have h0 : ¬ ('0' ≤ c ∧ c ≤ '9') := by
    show ¬ (48 ≤ c.toNat ∧ c.toNat ≤ 57)
    omega
  have ha : ¬ ('a' ≤ c ∧ c ≤ 'z') := by
    show ¬ (97 ≤ c.toNat ∧ c.toNat ≤ 122)
    omega
  have hA : ¬ ('A' ≤ c ∧ c ≤ 'Z') := by
    show ¬ (65 ≤ c.toNat ∧ c.toNat ≤ 90)
    omega
  simp only [digitValue?, h0, ha, hA, if_false]

theorem digitValue?_of_isBlank {c : Char} (h : isBlank c = true) : digitValue? c = none := by
  simp only [isBlank, Bool.or_eq_true, Bool.and_eq_true, decide_eq_true_eq, beq_iff_eq] at h
  apply digitValue?_of_outside <;> omega

theorem digitValue?_toUpper (c : Char) : digitValue? c.toUpper = digitValue? c := by
  by_cases h : c.toNat < 128
  · exact forall_of_toNat_lt (P := fun c => digitValue? c.toUpper = digitValue? c) (by decide) h
  · have hc : c.toUpper = c := by
      refine dif_neg ?_
      show ¬ (97 ≤ c.toNat ∧ c.toNat ≤ 122)
      omega
    rw [hc]

theorem digitIn?_toUpper (base : Nat) (c : Char) : digitIn? base c.toUpper = digitIn? base c := by
  rw [digitIn?, digitValue?_toUpper, ← digitIn?]

theorem isBlank_of_digitIn? {base : Nat} {c : Char} (h : (digitIn? base c).isSome) :
    isBlank c = false := by
  cases hb : isBlank c with
  | false => rfl
  | true =>
    rw [digitIn?, digitValue?_of_isBlank hb] at h
    cases h

/-! ### Runs of digits -/

theorem digitIn?_of_readDigits {base : Nat} {text : List Char} (value : Nat)
    (h : (readDigits base value text).isSome) : ∀ c ∈ text, (digitIn? base c).isSome := by
  induction text generalizing value with
  | nil => simp
  | cons c text ih =>
    rw [readDigits] at h
    cases hd : digitIn? base c with
    | none => simp [hd] at h
    | some digit =>
      simp only [hd] at h
      intro d hm
      rcases List.mem_cons.1 hm with rfl | hm
      · simp [hd]
      · exact ih _ h d hm

theorem readDigits_map_toUpper (base value : Nat) (text : List Char) :
    readDigits base value (text.map Char.toUpper) = readDigits base value text := by
  induction text generalizing value with
  | nil => rfl
  | cons c text ih =>
    simp only [List.map_cons, readDigits, digitIn?_toUpper]
    cases digitIn? base c with
    | none => rfl
    | some digit => exact ih _

theorem readDigits_zeros {base : Nat} (hb : 0 < base) (count : Nat) (text : List Char) :
    readDigits base 0 (List.replicate count '0' ++ text) = readDigits base 0 text := by
  have hz : digitIn? base '0' = some 0 := by simp [digitIn?, hb, show digitValue? '0' = some 0 from rfl]
  induction count with
  | zero => rfl
  | succ count ih =>
    rw [List.replicate_succ, List.cons_append, readDigits]
    simpa [hz] using ih

/-! ### Whole numerals -/

theorem readUnsigned?_of_readDigits {base bound n : Nat} {text : List Char} (hne : text ≠ [])
    (h : readDigits base 0 text = some n) (hn : n < bound) :
    readUnsigned? base bound text = some n := by
  cases text with
  | nil => exact absurd rfl hne
  | cons c text =>
    have hc : c ≠ '+' := by
      rintro rfl
      have hd := digitIn?_of_readDigits 0 (by rw [h]; rfl) '+' (List.mem_cons_self ..)
      simp [digitIn?, show digitValue? '+' = none from rfl] at hd
    have hp : dropPlus (c :: text) = c :: text := by
      unfold dropPlus
      split
      · rename_i heq
        exact absurd (List.cons.inj heq).1 hc
      · rfl
    simp only [readUnsigned?, hp, readNumeral?, h]
    simp [hn]

theorem readDigits_decimal (n : Nat) : readDigits 10 0 (Nat.toDigits 10 n) = some n := by
  simp [readDigits_toDigits]

theorem readDigits_padZeros {width n : Nat} {digits : List Char}
    (h : readDigits 16 0 digits = some n) : readDigits 16 0 (padZeros width digits) = some n := by
  rw [padZeros, readDigits_zeros (by decide), h]

end VrfPresence.Text
