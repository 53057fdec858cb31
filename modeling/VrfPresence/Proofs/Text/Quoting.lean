import VrfPresence.Proofs.Text.Numerals
import VrfPresence.Text.Quoted

/-!
# Quoted text read back

Quoting can be undone. The reader knows what each escape stands for, and not which characters are
written by one, so that it reads every spelling of a text between quotes. Of a text that was quoted
here it finds the characters, one quoted character at a time, and stops behind the closing quote
whatever follows (`readQuoted?_quote`). Nothing invisible is left between the quotes, and so no
control character.
-/

namespace VrfPresence.Text

/-! ### Reading -/

/-- The character that a letter behind a backslash stands for. -/
def letterEscape? : Char → Option Char
  | '0' => some '\x00'
  | 't' => some '\t'
  | 'r' => some '\r'
  | 'n' => some '\n'
  | '"' => some '"'
  | '\\' => some '\\'
  | _ => none

/-- The character with a code, which is written in at least one digit. -/
def charOfCode? (digits : List Char) : Option Char :=
  match readNumeral? 16 digits with
  | some code => if code.isValidChar then some (Char.ofNat code) else none
  | none => none

/-- What the next character of a quoted text belongs to. -/
inductive QuotedState
  | plain
  | escape
  /-- The brace in front of a code. -/
  | brace
  /-- A code, of which some digits were read. -/
  | code (digits : List Char)

/-- A character in front of a text that was read. -/
def consRead (c : Char) (read : Option (List Char × List Char)) : Option (List Char × List Char) :=
  read.map fun (text, rest) => (c :: text, rest)

/-- Reads a quoted text up to its closing quote: the text and what follows the quote. -/
def readQuotedFrom : QuotedState → List Char → Option (List Char × List Char)
  | _, [] => none
  | .plain, c :: text =>
    if c = '"' then some ([], text)
    else if c = '\\' then readQuotedFrom .escape text
    else consRead c (readQuotedFrom .plain text)
  | .escape, c :: text =>
    match letterEscape? c with
    | some escaped => consRead escaped (readQuotedFrom .plain text)
    | none => if c = 'u' then readQuotedFrom .brace text else none
  | .brace, c :: text => if c = '\x7b' then readQuotedFrom (.code []) text else none
  | .code digits, c :: text =>
    if c = '\x7d' then
      match charOfCode? digits with
      | some escaped => consRead escaped (readQuotedFrom .plain text)
      | none => none
    else readQuotedFrom (.code (digits ++ [c])) text

/-- Reads a quoted text from its opening quote on. -/
def readQuoted? : List Char → Option (List Char × List Char)
  | [] => none
  | c :: text => if c = '"' then readQuotedFrom .plain text else none

/-- The text that a quoted text stands for. -/
def unquote? (quoted : String) : Option String :=
  match readQuoted? quoted.toList with
  | some (text, []) => some (String.ofList text)
  | _ => none

/-! ### Quoted characters -/

/-- The ways in which a character is quoted. -/
inductive Quotes (c : Char) : List Char → Prop
  | letter {letter : Char} (h : letterEscape? letter = some c) : Quotes c ['\\', letter]
  | code : Quotes c (codeEscape c)
  | plain (hq : c ≠ '"') (hb : c ≠ '\\') (hv : isInvisible c = false) : Quotes c [c]

theorem quotes_quoteChar (c : Char) : Quotes c (quoteChar c) := by
  unfold quoteChar
  split
  case h_7 =>
    -- none of the six characters that have a letter
    rename_i hq hb
    split
    · exact .code
    · rename_i hv
      exact .plain hq hb (by simpa using hv)
  all_goals exact .letter rfl

theorem digitIn?_of_mem_code {c d : Char} (h : d ∈ Nat.toDigits 16 c.toNat) :
    (digitIn? 16 d).isSome :=
  digitIn?_of_readDigits 0 (by simp [readDigits_toDigits]) d h

theorem charOfCode?_toDigits (c : Char) : charOfCode? (Nat.toDigits 16 c.toNat) = some c := by
  have hread : readNumeral? 16 (Nat.toDigits 16 c.toNat) = some c.toNat := by
    have hd : readDigits 16 0 (Nat.toDigits 16 c.toNat) = some c.toNat := by
      simp [readDigits_toDigits]
    cases hn : Nat.toDigits 16 c.toNat with
    | nil => exact absurd hn Nat.toDigits_ne_nil
    | cons first digits => rwa [hn] at hd
  have hvalid : c.toNat.isValidChar := c.valid
  simp [charOfCode?, hread, hvalid, Char.ofNat_toNat]

/-- Up to the closing brace the digits of a code are collected. -/
theorem readQuotedFrom_digits {digits : List Char} (h : '\x7d' ∉ digits) (before rest : List Char) :
    readQuotedFrom (.code before) (digits ++ '\x7d' :: rest) =
      readQuotedFrom (.code (before ++ digits)) ('\x7d' :: rest) := by
  induction digits generalizing before with
  | nil => rw [List.append_nil, List.nil_append]
  | cons d digits ih =>
    rw [List.mem_cons, not_or] at h
    have hd : d ≠ '\x7d' := fun he => h.1 he.symm
    rw [List.cons_append, readQuotedFrom, if_neg hd, ih h.2, List.append_assoc,
      List.singleton_append]

theorem readQuotedFrom_codeEscape (c : Char) (rest : List Char) :
    readQuotedFrom .plain (codeEscape c ++ rest) = consRead c (readQuotedFrom .plain rest) := by
  have hclose : '\x7d' ∉ Nat.toDigits 16 c.toNat := by
    intro h
    have hd : (digitIn? 16 '\x7d').isSome := digitIn?_of_mem_code h
    cases hd
  have hcode := readQuotedFrom_digits hclose [] rest
  rw [List.nil_append] at hcode
  calc readQuotedFrom .plain (codeEscape c ++ rest)
      = readQuotedFrom (.code []) (Nat.toDigits 16 c.toNat ++ '\x7d' :: rest) := by
        simp [codeEscape, readQuotedFrom, letterEscape?]
    _ = readQuotedFrom (.code (Nat.toDigits 16 c.toNat)) ('\x7d' :: rest) := hcode
    _ = consRead c (readQuotedFrom .plain rest) := by
        rw [readQuotedFrom, if_pos rfl, charOfCode?_toDigits]

/-- One quoted character is read, and reading goes on in the text itself. -/
theorem readQuotedFrom_quotes {c : Char} {quoted : List Char} (h : Quotes c quoted)
    (rest : List Char) :
    readQuotedFrom .plain (quoted ++ rest) = consRead c (readQuotedFrom .plain rest) := by
  cases h with
  | letter he => simp [readQuotedFrom, he]
  | code => exact readQuotedFrom_codeEscape c rest
  | plain hq hb hv => simp [readQuotedFrom, hq, hb]

/-! ### Quoted texts -/

theorem readQuotedFrom_flatMap (text rest : List Char) :
    readQuotedFrom .plain (text.flatMap quoteChar ++ '"' :: rest) = some (text, rest) := by
  induction text with
  | nil => rw [List.flatMap_nil, List.nil_append, readQuotedFrom, if_pos rfl]
  | cons c text ih =>
    rw [List.flatMap_cons, List.append_assoc, readQuotedFrom_quotes (quotes_quoteChar c), ih]
    rfl

theorem readQuoted?_quote (text : String) (rest : List Char) :
    readQuoted? ((quote text).toList ++ rest) = some (text.toList, rest) := by
  have h := readQuotedFrom_flatMap text.toList rest
  simpa [quote, readQuoted?] using h

theorem unquote?_quote (text : String) : unquote? (quote text) = some text := by
  have h := readQuoted?_quote text []
  rw [List.append_nil] at h
  rw [unquote?, h]
  exact congrArg some String.ofList_toList

/-- Any character may be written by its code, and a letter behind two backslashes is itself. -/
example : unquote? "\"\\u\x7b4a\x7d\\\\n\"" = some "J\\n" := by decide

/-! ### What stands in a quoted text -/

theorem isInvisible_of_all {text : List Char} (h : text.all (!isInvisible ·) = true) :
    ∀ c ∈ text, isInvisible c = false := by
  intro c hc
  simpa using List.all_eq_true.1 h c hc

theorem isInvisible_of_digitIn? {c : Char} (h : (digitIn? 16 c).isSome) : isInvisible c = false := by
  have key : ∀ value < 16, isInvisible value.digitChar = false ∧
      isInvisible value.digitChar.toUpper = false := by decide
  obtain ⟨value, hvalue⟩ := Option.isSome_iff_exists.1 h
  obtain ⟨hlt, rfl | rfl⟩ := (digitIn?_eq_some_iff (by decide)).1 hvalue
  · exact (key value hlt).1
  · exact (key value hlt).2

theorem isInvisible_of_letterEscape? {letter c : Char} (h : letterEscape? letter = some c) :
    isInvisible letter = false := by
  unfold letterEscape? at h
  split at h
  case h_7 => cases h
  all_goals rfl

theorem isInvisible_of_mem_quotes {c : Char} {quoted : List Char} (h : Quotes c quoted) :
    ∀ d ∈ quoted, isInvisible d = false := by
  intro d hd
  cases h with
  | letter he =>
    rcases List.mem_cons.1 hd with rfl | hd
    · rfl
    · rw [List.mem_singleton.1 hd]
      exact isInvisible_of_letterEscape? he
  | code =>
    simp only [codeEscape, List.mem_append] at hd
    rcases hd with (hopen | hcode) | hclose
    · exact isInvisible_of_all (by decide) d hopen
    · exact isInvisible_of_digitIn? (digitIn?_of_mem_code hcode)
    · rw [List.mem_singleton.1 hclose]
      rfl
  | plain hq hb hv =>
    rw [List.mem_singleton.1 hd]
    exact hv

theorem isInvisible_of_mem_quote (text : String) :
    ∀ c ∈ (quote text).toList, isInvisible c = false := by
  intro c hc
  simp only [quote, String.toList_ofList, List.mem_append, List.mem_cons, List.mem_flatMap,
    List.not_mem_nil, or_false] at hc
  rcases hc with (rfl | ⟨d, -, hd⟩) | rfl
  · rfl
  · exact isInvisible_of_mem_quotes (quotes_quoteChar d) c hd
  · rfl

/-! ### Controls -/

/-- The control characters of ASCII, the newline among them. -/
def IsControl (c : Char) : Prop := c.toNat < 0x20 ∨ c.toNat = 0x7F

theorem isInvisible_of_isControl {c : Char} (h : IsControl c) : isInvisible c = true := by
  unfold IsControl at h
  have hlow : c.toNat < 0x80 := by omega
  simp only [isInvisible, if_pos hlow, Bool.or_eq_true, decide_eq_true_eq, beq_iff_eq]
  exact h

theorem not_isControl_of_isInvisible {c : Char} (h : isInvisible c = false) : ¬ IsControl c := by
  intro hc
  rw [isInvisible_of_isControl hc] at h
  cases h

end VrfPresence.Text
