import Mathlib.Algebra.Group.Nat.Defs
import VrfPresence.Proofs.Text.Digits

/-!
# The numerals that are read

A numeral is an optional plus sign and digits of the base, and it stands for the value that its
digits have by their places. Exactly the numerals below the bound are read, each as the number it
stands for, so that no value is ever cut down to a word.
-/

namespace VrfPresence.Text

/-! ### Digits -/

/-- The digit of a value, where it is a letter in either case. -/
def IsDigit (base : Nat) (c : Char) (value : Nat) : Prop :=
  value < base ∧ (c = value.digitChar ∨ c = value.digitChar.toUpper)

/-- Digits, the most significant first, and the number they stand for by their places. -/
inductive AreDigits (base : Nat) : List Char → Nat → Prop
  | nil : AreDigits base [] 0
  | cons {c : Char} {value n : Nat} {digits : List Char} (hc : IsDigit base c value)
      (h : AreDigits base digits n) :
      AreDigits base (c :: digits) (value * base ^ digits.length + n)

theorem digitChar_of_digitValue? {c : Char} {value : Nat} (h : digitValue? c = some value)
    (hv : value < 16) : c = value.digitChar ∨ c = value.digitChar.toUpper := by
  by_cases hc : c.toNat < 128
  · exact forall_of_toNat_lt (P := fun c => ∀ value ∈ digitValue? c, value < 16 →
      c = value.digitChar ∨ c = value.digitChar.toUpper) (by decide) hc value h hv
  · have hnone : digitValue? c = none := by
      apply digitValue?_of_outside <;> omega
    rw [hnone] at h
    cases h

theorem digitIn?_eq_some_iff {base : Nat} (hb : base ≤ 16) {c : Char} {value : Nat} :
    digitIn? base c = some value ↔ IsDigit base c value := by
  constructor
  · intro h
    rw [digitIn?, Option.filter_eq_some_iff] at h
    have hlt : value < base := by simpa using h.2
    exact ⟨hlt, digitChar_of_digitValue? h.1 (Nat.lt_of_lt_of_le hlt hb)⟩
  · intro h
    obtain ⟨hlt, rfl | rfl⟩ := h
    · exact digitIn?_digitChar hlt hb
    · rw [digitIn?_toUpper]
      exact digitIn?_digitChar hlt hb

theorem readDigits_eq_some_iff {base : Nat} (hb : base ≤ 16) {digits : List Char} {start n : Nat} :
    readDigits base start digits = some n ↔
      ∃ m, AreDigits base digits m ∧ n = start * base ^ digits.length + m := by
  induction digits generalizing start with
  | nil =>
    constructor
    · intro h
      exact ⟨0, .nil, by simpa [readDigits] using h.symm⟩
    · intro h
      obtain ⟨m, hm, rfl⟩ := h
      cases hm
      simp [readDigits]
  | cons c digits ih =>
    -- the first digit moves into the value read so far
    have hstep (value m : Nat) : (start * base + value) * base ^ digits.length + m =
        start * base ^ (digits.length + 1) + (value * base ^ digits.length + m) := by
      rw [Nat.add_mul, Nat.pow_succ', Nat.mul_assoc, Nat.add_assoc]
    constructor
    · intro h
      rw [readDigits] at h
      cases hd : digitIn? base c with
      | none => simp [hd] at h
      | some value =>
        simp only [hd] at h
        obtain ⟨m, hm, rfl⟩ := ih.1 h
        exact ⟨_, .cons ((digitIn?_eq_some_iff hb).1 hd) hm, hstep value m⟩
    · intro h
      obtain ⟨m, hm, rfl⟩ := h
      cases hm with
      | cons hc hm =>
        rename_i value m
        rw [readDigits, (digitIn?_eq_some_iff hb).2 hc]
        exact ih.2 ⟨m, hm, (hstep value m).symm⟩

/-! ### Numerals -/

/-- An optional plus sign and at least one digit. -/
def IsNumeral (base : Nat) (text : List Char) (n : Nat) : Prop :=
  ∃ digits, (text = digits ∨ text = '+' :: digits) ∧ digits ≠ [] ∧ AreDigits base digits n

theorem readNumeral?_eq_some_iff {base : Nat} (hb : base ≤ 16) {digits : List Char} {n : Nat} :
    readNumeral? base digits = some n ↔ digits ≠ [] ∧ AreDigits base digits n := by
  cases digits with
  | nil => simp [readNumeral?]
  | cons c digits =>
    rw [readNumeral?, readDigits_eq_some_iff hb]
    · simp
    · simp

theorem not_isDigit_plus (base value : Nat) (hb : base ≤ 16) : ¬ IsDigit base '+' value := by
  intro h
  have hd := (digitIn?_eq_some_iff hb).2 h
  simp [digitIn?, show digitValue? '+' = none from rfl] at hd

theorem dropPlus_of_areDigits {base : Nat} (hb : base ≤ 16) {digits : List Char} {n : Nat}
    (h : AreDigits base digits n) : dropPlus digits = digits := by
  cases h with
  | nil => rfl
  | cons hc h =>
    unfold dropPlus
    split
    · rename_i heq
      obtain ⟨rfl, -⟩ := List.cons.inj heq
      exact absurd hc (not_isDigit_plus base _ hb)
    · rfl

theorem readUnsigned?_eq_some_iff {base : Nat} (hb : base ≤ 16) {bound n : Nat} {text : List Char} :
    readUnsigned? base bound text = some n ↔ IsNumeral base text n ∧ n < bound := by
  have hread : readNumeral? base (dropPlus text) = some n ↔ IsNumeral base text n := by
    rw [readNumeral?_eq_some_iff hb]
    constructor
    · intro h
      refine ⟨dropPlus text, ?_, h⟩
      unfold dropPlus
      split
      · exact .inr rfl
      · exact .inl rfl
    · intro h
      obtain ⟨digits, rfl | rfl, hne, hdigits⟩ := h
      · rw [dropPlus_of_areDigits hb hdigits]
        exact ⟨hne, hdigits⟩
      · exact ⟨hne, hdigits⟩
  rw [readUnsigned?, Option.filter_eq_some_iff, hread, decide_eq_true_eq]

/-- Read into a word that holds the numbers below the bound, a numeral is never cut down. -/
theorem map_readUnsigned?_eq_some_iff {α : Type} {ofNat : Nat → α} {toNat : α → Nat}
    {base bound : Nat} (hb : base ≤ 16) (hlt : ∀ value, toNat value < bound)
    (hof : ∀ n < bound, toNat (ofNat n) = n) (hto : ∀ value, ofNat (toNat value) = value)
    {text : List Char} {value : α} :
    (readUnsigned? base bound text).map ofNat = some value ↔ IsNumeral base text (toNat value) := by
  rw [Option.map_eq_some_iff]
  constructor
  · intro h
    obtain ⟨n, hn, rfl⟩ := h
    obtain ⟨hnumeral, hbound⟩ := (readUnsigned?_eq_some_iff hb).1 hn
    rwa [hof n hbound]
  · intro h
    exact ⟨toNat value, (readUnsigned?_eq_some_iff hb).2 ⟨h, hlt value⟩, hto value⟩

end VrfPresence.Text
