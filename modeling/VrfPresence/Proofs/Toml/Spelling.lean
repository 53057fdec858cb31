import VrfPresence.Proofs.Text.Digits
import VrfPresence.Toml.QuotedString

/-!
# Spellings of basic strings

A character of a basic string may stand for itself or be written by one of several escapes. In
every spelling the reader finds the text that was meant, and stops right behind the closing
quote.
-/

namespace VrfPresence.Toml

open Text

/-- The characters of a placed text. -/
def items (text : List (Placed Char)) : List Char := text.map (·.item)

theorem items_eq_cons {text : List (Placed Char)} {c : Char} {chars : List Char}
    (h : items text = c :: chars) : ∃ p rest, text = p :: rest ∧ p.item = c ∧ items rest = chars := by
  obtain ⟨p, rest, hp, hc, hr⟩ := List.map_eq_cons_iff.1 h
  exact ⟨p, rest, hp, hc, hr⟩

/-! ### Spellings -/

/-- The ways to write a character within a basic string. -/
inductive Spells : Char → List Char → Prop
  | plain {c : Char} (hs : isStringChar c = true) (hq : c ≠ '"') (hb : c ≠ '\\') : Spells c [c]
  | letter {c letter : Char} (h : simpleEscape? letter = some c) : Spells c ['\\', letter]
  | short {c : Char} {digits : List Char} (hl : digits.length = 4)
      (h : readDigits 16 0 digits = some c.toNat) : Spells c ('\\' :: 'u' :: digits)
  | long {c : Char} {digits : List Char} (hl : digits.length = 8)
      (h : readDigits 16 0 digits = some c.toNat) : Spells c ('\\' :: 'U' :: digits)

/-- A text with a spelling for each of its characters. -/
inductive SpellsText : List Char → List Char → Prop
  | nil : SpellsText [] []
  | cons {c : Char} {text spelling rest : List Char} (h : Spells c spelling)
      (ht : SpellsText text rest) : SpellsText (c :: text) (spelling ++ rest)

/-! ### The library's own writer -/

theorem spells_control {c : Char} (h : isStringChar c = false) :
    Spells c ('\\' :: 'u' :: padZeros 4 (Nat.toDigits 16 c.toNat)) := by
  have hn : c.toNat < 128 := by
    simp only [isStringChar, Bool.or_eq_false_iff, Bool.and_eq_false_iff, decide_eq_false_iff_not,
      bne_eq_false_iff_eq] at h
    omega
  have key : ∀ n < 128, (padZeros 4 (Nat.toDigits 16 n)).length = 4 := by decide
  refine .short (key _ hn) (readDigits_padZeros ?_)
  simp [readDigits_toDigits]

theorem spells_writeBasicChar (c : Char) : Spells c (writeBasicChar c) := by
  unfold writeBasicChar
  split
  · rename_i hc
    rcases hc with rfl | rfl
    · exact .letter rfl
    · exact .letter rfl
  · rename_i hc
    rw [not_or] at hc
    split
    · rename_i hs
      exact .plain hs hc.1 hc.2
    · rename_i hs
      exact spells_control (by simpa using hs)

theorem spellsText_flatMap (text : List Char) : SpellsText text (text.flatMap writeBasicChar) := by
  induction text with
  | nil => exact .nil
  | cons c text ih =>
    rw [List.flatMap_cons]
    exact .cons (spells_writeBasicChar c) ih

/-! ### Reading spellings -/

/-- The form of a basic string within one line. -/
def basicForm (start : Nat) : StringForm := ⟨start, false, false⟩

theorem readStringText_code (start origin : Nat) {c : Char} (digits : List Char) (value left : Nat)
    (hl : digits.length = left + 1) (h : readDigits 16 value digits = some c.toNat)
    {text : List (Placed Char)} {rest : List Char} (ht : items text = digits ++ rest) :
    ∃ after, items after = rest ∧
      readStringText (basicForm start) (.code origin (left + 1) value) text =
        consText c (readStringText (basicForm start) .plain after) := by
  induction digits generalizing value left text with
  | nil => cases hl
  | cons d digits ih =>
    obtain ⟨p, after, rfl, hp, ha⟩ := items_eq_cons ht
    rw [readDigits] at h
    cases hd : digitIn? 16 d with
    | none => simp [hd] at h
    | some digit =>
      simp only [hd] at h
      rw [readStringText, hp, hd]
      cases digits with
      | nil =>
        obtain rfl : left = 0 := by simpa using hl.symm
        rw [readDigits] at h
        have hv : value * 16 + digit = c.toNat := Option.some.inj h
        refine ⟨after, ha, ?_⟩
        simp only [hv, Nat.zero_add, Nat.lt_irrefl, if_false, Char.ofNat_toNat]
        exact if_pos (show c.toNat.isValidChar from c.valid)
      | cons e digits =>
        obtain ⟨left, rfl⟩ : ∃ k, left = k + 1 := ⟨digits.length, by simpa using hl.symm⟩
        obtain ⟨last, hi, hr⟩ := ih (value * 16 + digit) left (by simpa using hl) h ha
        refine ⟨last, hi, ?_⟩
        rw [← hr]
        simp

theorem readStringText_plain (start : Nat) (p : Placed Char) (text : List (Placed Char)) :
    readStringText (basicForm start) .plain (p :: text) =
      match stringStep (basicForm start) p text with
      | .keep c => consText c (readStringText (basicForm start) .plain text)
      | .escape => readStringText (basicForm start) .escape text
      | .close quotes rest => .ok (quotes, rest)
      | .fail fault => .error fault := by
  rw [readStringText]
  · rfl
  all_goals nofun

theorem readStringText_backslash (start : Nat) {p : Placed Char} (hp : p.item = '\\')
    (text : List (Placed Char)) :
    readStringText (basicForm start) .plain (p :: text) =
      readStringText (basicForm start) .escape text := by
  have hs : stringStep (basicForm start) p text = .escape := by
    simp [stringStep, basicForm, StringForm.delimiter, hp]
  rw [readStringText_plain, hs]

/-- One spelled character is read, and reading goes on in the text itself. -/
theorem readStringText_spells (start : Nat) {c : Char} {spelling : List Char} (h : Spells c spelling)
    {text : List (Placed Char)} {rest : List Char} (ht : items text = spelling ++ rest) :
    ∃ after, items after = rest ∧ readStringText (basicForm start) .plain text =
      consText c (readStringText (basicForm start) .plain after) := by
  cases h with
  | plain hs hq hb =>
    obtain ⟨p, after, rfl, hp, ha⟩ := items_eq_cons ht
    have hn : c ≠ '\n' := by
      rintro rfl
      cases hs
    have hk : stringStep (basicForm start) p after = .keep c := by
      simp [stringStep, basicForm, StringForm.delimiter, hp, hs, hq, hb, hn]
    refine ⟨after, ha, ?_⟩
    rw [readStringText_plain, hk]
  | letter he =>
    obtain ⟨p, text, rfl, hp, ht⟩ := items_eq_cons ht
    obtain ⟨q, after, rfl, hq, ha⟩ := items_eq_cons ht
    refine ⟨after, ha, ?_⟩
    rw [readStringText_backslash start hp, readStringText, hq, he]
  | @short digits hl hd =>
    obtain ⟨p, text, rfl, hp, ht⟩ := items_eq_cons ht
    obtain ⟨q, text, rfl, hq, ht⟩ := items_eq_cons ht
    obtain ⟨after, ha, hr⟩ := readStringText_code start q.offset digits 0 3 hl hd ht
    refine ⟨after, ha, ?_⟩
    rw [readStringText_backslash start hp, readStringText, hq, ← hr]
    simp [simpleEscape?]
  | @long digits hl hd =>
    obtain ⟨p, text, rfl, hp, ht⟩ := items_eq_cons ht
    obtain ⟨q, text, rfl, hq, ht⟩ := items_eq_cons ht
    obtain ⟨after, ha, hr⟩ := readStringText_code start q.offset digits 0 7 hl hd ht
    refine ⟨after, ha, ?_⟩
    rw [readStringText_backslash start hp, readStringText, hq, ← hr]
    simp [simpleEscape?]

theorem readStringText_spellsText (start : Nat) {value spelling : List Char}
    (h : SpellsText value spelling) {text : List (Placed Char)} {rest : List Char}
    (ht : items text = spelling ++ '"' :: rest) :
    ∃ after, items after = rest ∧
      readStringText (basicForm start) .plain text = .ok (value, after) := by
  induction h generalizing text with
  | nil =>
    obtain ⟨p, after, rfl, hp, ha⟩ := items_eq_cons ht
    have hc : stringStep (basicForm start) p after = .close [] after := by
      simp [stringStep, basicForm, StringForm.delimiter, hp]
    refine ⟨after, ha, ?_⟩
    rw [readStringText_plain, hc]
  | cons hs _ ih =>
    rw [List.append_assoc] at ht
    obtain ⟨middle, hm, hr⟩ := readStringText_spells start hs ht
    obtain ⟨after, ha, hv⟩ := ih hm
    exact ⟨after, ha, by rw [hr, hv]; rfl⟩

/-! ### Reading whole strings -/

theorem takeQuotes_of_ne {p : Placed Char} (hp : p.item ≠ '"') (count : Nat)
    (text : List (Placed Char)) : takeQuotes '"' (count + 1) (p :: text) = ([], p :: text) := by
  rw [takeQuotes, if_neg hp]

theorem Spells.eq_cons {c : Char} {spelling : List Char} (h : Spells c spelling) :
    ∃ first rest, spelling = first :: rest ∧ first ≠ '"' := by
  cases h with
  | plain hs hq hb => exact ⟨c, [], rfl, hq⟩
  | letter he => exact ⟨'\\', _, rfl, by decide⟩
  | short hl hd => exact ⟨'\\', _, rfl, by decide⟩
  | long hl hd => exact ⟨'\\', _, rfl, by decide⟩

/-- The quote behind a string must not be a third one in a row. -/
theorem readString_spellsText (start : Nat) {value spelling : List Char}
    (h : SpellsText value spelling) {text : List (Placed Char)} {rest : List Char}
    (ht : items text = spelling ++ '"' :: rest) (hrest : rest.head? ≠ some '"') :
    ∃ after, items after = rest ∧
      readString start false text = .ok (.string value false, after) := by
  obtain ⟨after, ha, hr⟩ := readStringText_spellsText start h ht
  cases h with
  | nil =>
    obtain ⟨p, after, rfl, hp, ha⟩ := items_eq_cons ht
    have hq : takeQuotes '"' 1 after = ([], after) := by
      cases after with
      | nil => rfl
      | cons q last =>
        refine takeQuotes_of_ne (fun hi => hrest ?_) 0 last
        rw [← ha, ← hi]
        rfl
    have hone : takeQuotes '"' 2 (p :: after) = (['"'], after) := by
      rw [takeQuotes, if_pos hp, hq]
    refine ⟨after, ha, ?_⟩
    simp only [readString, StringForm.delimiter, Bool.false_eq_true, if_false, hone]
  | cons hs _ =>
    obtain ⟨first, others, rfl, hne⟩ := hs.eq_cons
    obtain ⟨p, last, rfl, hp, _⟩ := items_eq_cons ht
    have hnone := takeQuotes_of_ne (hp ▸ hne) 1 last
    unfold basicForm at hr
    refine ⟨after, ha, ?_⟩
    simp only [readString, StringForm.delimiter, Bool.false_eq_true, if_false, hnone, hr]
    rfl

end VrfPresence.Toml
