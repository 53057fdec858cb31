import VrfPresence.Proofs.Toml.Reading

/-!
# Flat documents

A flat document is made of lines without anything on them, lines with a comment, and lines that
give a bare key a string. Reading one gives its pairs in the order of the lines, in every
spelling of the strings and with any gaps between the marks.
-/

namespace VrfPresence.Toml

/-- A line that gives a key a string. -/
structure PairLine where
  indent : List Char := []
  key : String
  before : List Char := [' ']
  after : List Char := [' ']
  value : String
  spelling : List Char
  trail : List Char := []

inductive FlatLine
  | blank (gap : List Char)
  | comment (indent text : List Char)
  | pair (line : PairLine)

inductive LineEnd
  | newline
  | returnNewline

/-- Lines with their ends, and a last line without one. -/
structure FlatDocument where
  lines : List (FlatLine × LineEnd)
  last : FlatLine

/-! ### Text -/

def FlatLine.text : FlatLine → List Char
  | .blank gap => gap
  | .comment indent text => indent ++ '#' :: text
  | .pair line => line.indent ++ (line.key.toList ++ (line.before ++ '=' ::
      (line.after ++ ('"' :: line.spelling ++ '"' :: line.trail))))

def LineEnd.text : LineEnd → List Char
  | .newline => ['\n']
  | .returnNewline => ['\r', '\n']

def FlatDocument.text (document : FlatDocument) : List Char :=
  (document.lines.flatMap fun line => line.1.text ++ line.2.text) ++ document.last.text

def FlatDocument.source (document : FlatDocument) : String := String.ofList document.text

/-! ### Well-formed lines -/

/-- Spaces and tabs only. -/
def IsGap (gap : List Char) : Prop := ∀ c ∈ gap, isInlineBlank c = true

instance (gap : List Char) : Decidable (IsGap gap) :=
  decidable_of_iff (gap.all isInlineBlank = true) List.all_eq_true

/-- A key without quotes. -/
def IsBareKey (key : String) : Prop := key ≠ "" ∧ ∀ c ∈ key.toList, isWordChar c = true

instance (key : String) : Decidable (IsBareKey key) :=
  decidable_of_iff (key ≠ "" ∧ key.toList.all isWordChar = true) (by simp [IsBareKey])

structure PairLine.Valid (line : PairLine) : Prop where
  indent : IsGap line.indent
  before : IsGap line.before
  after : IsGap line.after
  trail : IsGap line.trail
  key : IsBareKey line.key
  spelling : SpellsText line.value.toList line.spelling

def FlatLine.Valid : FlatLine → Prop
  | .blank gap => IsGap gap
  | .comment indent text => IsGap indent ∧ ∀ c ∈ text, isCommentChar c = true
  | .pair line => line.Valid

structure FlatDocument.Valid (document : FlatDocument) : Prop where
  lines : ∀ line ∈ document.lines, line.1.Valid
  last : document.last.Valid

/-! ### Assignments and tokens -/

def FlatLine.assignments : FlatLine → List (String × String)
  | .pair line => [(line.key, line.value)]
  | _ => []

/-- What a document assigns, in order. -/
def FlatDocument.assignments (document : FlatDocument) : List (String × String) :=
  (document.lines.flatMap fun line => line.1.assignments) ++ document.last.assignments

def FlatLine.tokens : FlatLine → List Token
  | .blank gap => gapTokens gap
  | .comment indent _ => gapTokens indent ++ [.comment]
  | .pair line => gapTokens line.indent ++
      pairTokens line.key.toList line.before line.after line.value.toList line.trail

def FlatDocument.tokens (document : FlatDocument) : List Token :=
  (document.lines.flatMap fun line => line.1.tokens ++ [.newline]) ++ document.last.tokens

/-! ### Lexing lines -/

/-- The text is at its end or at the end of a line. -/
def LineEnds (rest : List Char) : Prop := rest = [] ∨ ∃ more, rest = '\n' :: more

theorem LineEnds.head? {rest : List Char} (h : LineEnds rest) : ∀ c ∈ rest.head?, c = '\n' := by
  intro c hc
  rcases h with rfl | ⟨more, rfl⟩
  · cases hc
  · exact (Option.some.inj hc).symm

theorem LineEnds.outside {rest : List Char} (h : LineEnds rest) {belongs : Char → Bool}
    (hn : belongs '\n' = false) : ∀ c ∈ rest.head?, belongs c = false := by
  intro c hc
  rw [h.head? c hc]
  exact hn

theorem outside_cons {belongs : Char → Bool} {c : Char} (hc : belongs c = false)
    (rest : List Char) : ∀ d ∈ (c :: rest).head?, belongs d = false := by
  intro d hd
  rw [← Option.some.inj hd]
  exact hc

theorem lexes_gap {gap rest : List Char} {list : List Token} (hgap : IsGap gap)
    (hrest : ∀ c ∈ rest.head?, isInlineBlank c = false) (h : Lexes rest list) :
    Lexes (gap ++ rest) (gapTokens gap ++ list) := by
  cases gap with
  | nil => exact h
  | cons c gap => exact lexes_blank hgap hrest h

theorem IsBareKey.eq_cons {key : String} (h : IsBareKey key) :
    ∃ first word, key.toList = first :: word ∧ isWordChar first = true := by
  cases hk : key.toList with
  | nil => exact absurd (String.toList_eq_nil_iff.1 hk) h.1
  | cons first word => exact ⟨first, word, rfl, h.2 first (hk ▸ List.mem_cons_self ..)⟩

theorem isWordChar_of_isInlineBlank {c : Char} (h : isInlineBlank c = true) :
    isWordChar c = false := by
  cases hw : isWordChar c with
  | false => rfl
  | true =>
    rw [isInlineBlank_of_isWordChar hw] at h
    cases h

theorem lexes_pair {line : PairLine} (hv : line.Valid) {rest : List Char} {list : List Token}
    (hrest : LineEnds rest) (h : Lexes rest list) :
    Lexes ((FlatLine.pair line).text ++ rest) ((FlatLine.pair line).tokens ++ list) := by
  obtain ⟨first, word, hkey, hfirst⟩ := hv.key.eq_cons
  have htrail := lexes_gap hv.trail (hrest.outside rfl) h
  have hquote : (line.trail ++ rest).head? ≠ some '"' := by
    intro hq
    cases ht : line.trail with
    | nil =>
      rw [ht] at hq
      have hc := hrest.head? '"' hq
      cases hc
    | cons c trail =>
      rw [ht] at hq
      obtain rfl := Option.some.inj hq
      have hc := hv.trail '"' (ht ▸ List.mem_cons_self ..)
      cases hc
  have hvalue := lexes_string hv.spelling hquote htrail
  have hafter := lexes_gap hv.after (outside_cons rfl _) hvalue
  have hbefore := lexes_gap hv.before (outside_cons rfl _) (lexes_equals hafter)
  have hstop : ∀ c ∈ (line.before ++ '=' :: (line.after ++
      ('"' :: line.spelling ++ '"' :: (line.trail ++ rest)))).head?, isWordChar c = false := by
    cases hb : line.before with
    | nil => exact outside_cons rfl _
    | cons d before =>
      have hd := hv.before d (hb ▸ List.mem_cons_self ..)
      exact outside_cons (isWordChar_of_isInlineBlank hd) _
  have hword := lexes_word (hkey ▸ hv.key.2) hstop hbefore
  have hindent := lexes_gap hv.indent
    (outside_cons (isInlineBlank_of_isWordChar hfirst) _) hword
  simp only [FlatLine.text, FlatLine.tokens, pairTokens, hkey, List.append_assoc,
    List.cons_append] at hindent ⊢
  exact hindent

theorem lexes_line {line : FlatLine} (hv : line.Valid) {rest : List Char} {list : List Token}
    (hrest : LineEnds rest) (h : Lexes rest list) :
    Lexes (line.text ++ rest) (line.tokens ++ list) := by
  cases line with
  | blank gap => exact lexes_gap hv (hrest.outside rfl) h
  | comment indent text =>
    have hc := lexes_comment hv.2 (hrest.outside rfl) h
    have hi := lexes_gap hv.1 (outside_cons rfl _) hc
    simpa [FlatLine.text, FlatLine.tokens] using hi
  | pair line => exact lexes_pair hv hrest h

/-! ### Lexing documents -/

/-- A class without the first control characters lies within comments. -/
theorem isCommentChar_of_class (belongs : Char → Bool)
    (hlow : ∀ n < 32, belongs (Char.ofNat n) = false) {c : Char} (h : belongs c = true) :
    isCommentChar c = true := by
  have hn : 32 ≤ c.toNat := by
    refine Nat.le_of_not_lt fun hlt => ?_
    have hc := Text.forall_of_toNat_lt (P := (belongs · = false)) hlow hlt
    rw [h] at hc
    cases hc
  simp [isCommentChar, hn]

theorem isCommentChar_of_isWordChar {c : Char} (h : isWordChar c = true) :
    isCommentChar c = true :=
  isCommentChar_of_class isWordChar (by decide) h

theorem IsGap.isCommentChar {gap : List Char} (h : IsGap gap) :
    ∀ c ∈ gap, isCommentChar c = true := by
  intro c hc
  have hb := h c hc
  rw [isInlineBlank, Bool.or_eq_true, beq_iff_eq, beq_iff_eq] at hb
  rcases hb with rfl | rfl
  · rfl
  · rfl

theorem isCommentChar_of_readDigits {digits : List Char} {n : Nat}
    (h : Text.readDigits 16 0 digits = some n) : ∀ c ∈ digits, isCommentChar c = true := by
  intro c hc
  have hd := Text.digitIn?_of_readDigits 0 (by rw [h]; rfl) c hc
  exact isCommentChar_of_class (fun c => (Text.digitIn? 16 c).isSome) (by decide) hd

theorem isCommentChar_of_simpleEscape? {letter c : Char} (h : simpleEscape? letter = some c) :
    isCommentChar letter = true := by
  unfold simpleEscape? at h
  split at h
  case h_8 => cases h
  all_goals rfl

theorem isCommentChar_of_mem_spells {c : Char} {spelling : List Char} (h : Spells c spelling) :
    ∀ d ∈ spelling, isCommentChar d = true := by
  intro d hd
  cases h with
  | plain hs hq hb =>
    obtain rfl := List.mem_singleton.1 hd
    simp only [isStringChar, Bool.or_eq_true, beq_iff_eq, Bool.and_eq_true] at hs
    rcases hs with rfl | hs
    · rfl
    · simp [isCommentChar, of_decide_eq_true hs.1]
  | letter he =>
    rcases List.mem_cons.1 hd with rfl | hd
    · rfl
    · rw [List.mem_singleton.1 hd]
      exact isCommentChar_of_simpleEscape? he
  | short hl hr =>
    rcases List.mem_cons.1 hd with rfl | hd
    · rfl
    rcases List.mem_cons.1 hd with rfl | hd
    · rfl
    · exact isCommentChar_of_readDigits hr d hd
  | long hl hr =>
    rcases List.mem_cons.1 hd with rfl | hd
    · rfl
    rcases List.mem_cons.1 hd with rfl | hd
    · rfl
    · exact isCommentChar_of_readDigits hr d hd

theorem isCommentChar_of_mem_spelling {value spelling : List Char}
    (h : SpellsText value spelling) : ∀ c ∈ spelling, isCommentChar c = true := by
  induction h with
  | nil => exact fun c hc => absurd hc List.not_mem_nil
  | cons hs _ ih =>
    intro c hc
    rcases List.mem_append.1 hc with hc | hc
    · exact isCommentChar_of_mem_spells hs c hc
    · exact ih c hc

theorem FlatLine.Valid.isCommentChar {line : FlatLine} (hv : line.Valid) :
    ∀ c ∈ line.text, isCommentChar c = true := by
  intro c hc
  cases line with
  | blank gap => exact IsGap.isCommentChar hv c hc
  | comment indent text =>
    simp only [FlatLine.text, List.mem_append, List.mem_cons] at hc
    rcases hc with hc | rfl | hc
    · exact IsGap.isCommentChar hv.1 c hc
    · rfl
    · exact hv.2 c hc
  | pair line =>
    simp only [FlatLine.text, List.mem_append, List.mem_cons] at hc
    rcases hc with hc | hc | hc | rfl | hc | (rfl | hc) | rfl | hc
    · exact hv.indent.isCommentChar c hc
    · exact isCommentChar_of_isWordChar (hv.key.2 c hc)
    · exact hv.before.isCommentChar c hc
    · rfl
    · exact hv.after.isCommentChar c hc
    · rfl
    · exact isCommentChar_of_mem_spelling hv.spelling c hc
    · rfl
    · exact hv.trail.isCommentChar c hc

theorem foldLineEnds_append {text : List Char} (h : ∀ c ∈ text, isCommentChar c = true)
    (rest : List Char) : foldLineEnds (text ++ rest) = text ++ foldLineEnds rest := by
  induction text with
  | nil => rfl
  | cons c text ih =>
    have ht := ih fun d hd => h d (List.mem_cons_of_mem _ hd)
    have hc : c ≠ '\r' := by
      rintro rfl
      cases h '\r' (List.mem_cons_self ..)
    rw [List.cons_append, foldLineEnds.eq_3 c _ (fun _ hr => absurd hr hc), ht, List.cons_append]

theorem foldLineEnds_end (lineEnd : LineEnd) (rest : List Char) :
    foldLineEnds (lineEnd.text ++ rest) = '\n' :: foldLineEnds rest := by
  cases lineEnd with
  | newline => exact foldLineEnds.eq_3 '\n' rest (by rintro text ⟨⟩)
  | returnNewline => rfl

theorem lexes_lines {last : FlatLine} (hlast : last.Valid) (lines : List (FlatLine × LineEnd))
    (h : ∀ line ∈ lines, line.1.Valid) :
    Lexes (foldLineEnds ((lines.flatMap fun line => line.1.text ++ line.2.text) ++ last.text))
      ((lines.flatMap fun line => line.1.tokens ++ [.newline]) ++ last.tokens) := by
  induction lines with
  | nil =>
    have hf := foldLineEnds_append hlast.isCommentChar []
    have hl := lexes_line hlast (.inl rfl) lexes_nil
    simp only [List.append_nil] at hf hl
    simpa [hf, foldLineEnds] using hl
  | cons line lines ih =>
    have hv := h line (List.mem_cons_self ..)
    have ht := ih fun other ho => h other (List.mem_cons_of_mem _ ho)
    have hl := lexes_line hv (.inr ⟨_, rfl⟩) (lexes_newline ht)
    simp only [List.flatMap_cons, List.append_assoc] at hl ⊢
    rw [foldLineEnds_append hv.isCommentChar, foldLineEnds_end]
    exact hl

theorem FlatLine.Valid.head? {line : FlatLine} (hv : line.Valid) :
    line.text.head? ≠ some '\ufeff' := by
  have hgap : ∀ {gap : List Char}, IsGap gap → '\ufeff' ∉ gap := fun hg hm => by
    cases hg '\ufeff' hm
  intro h
  cases line with
  | blank gap => exact hgap hv (List.mem_of_mem_head? h)
  | comment indent text =>
    rw [FlatLine.text, List.head?_append] at h
    cases hi : indent.head? with
    | none =>
      rw [hi] at h
      cases h
    | some c =>
      rw [hi] at h
      exact hgap hv.1 (List.mem_of_mem_head? (hi.trans h))
  | pair line =>
    obtain ⟨first, word, hkey, hfirst⟩ := hv.key.eq_cons
    rw [FlatLine.text, List.head?_append, hkey] at h
    cases hi : line.indent.head? with
    | none =>
      rw [hi] at h
      obtain rfl := Option.some.inj h
      cases hfirst
    | some c =>
      rw [hi] at h
      exact hgap hv.indent (List.mem_of_mem_head? (hi.trans h))

theorem FlatDocument.Valid.head? {document : FlatDocument} (hv : document.Valid) :
    document.text.head? ≠ some '\ufeff' := by
  intro h
  rw [FlatDocument.text, List.head?_append] at h
  cases hl : document.lines with
  | nil =>
    rw [hl] at h
    exact hv.last.head? h
  | cons line lines =>
    have hline := (hv.lines line (hl ▸ List.mem_cons_self ..)).head?
    rw [hl, List.flatMap_cons, List.append_assoc, List.head?_append] at h
    cases ht : line.1.text.head? with
    | none =>
      rw [ht] at h
      cases he : line.2 with
      | newline =>
        rw [he] at h
        cases h
      | returnNewline =>
        rw [he] at h
        cases h
    | some c =>
      rw [ht] at h
      exact hline (ht.trans h)

theorem list?_source {document : FlatDocument} (hv : document.Valid) :
    (Tokens.ofSource document.source).list? = some document.tokens := by
  refine list?_ofSource ?_ ?_
  · rw [FlatDocument.source, String.toList_ofList]
    exact hv.head?
  · rw [FlatDocument.source, String.toList_ofList]
    exact lexes_lines hv.last document.lines hv.lines

/-! ### Documents that were written -/

/-- A bare key, and a string as it is written by default. -/
def FlatLine.written (key value : String) : FlatLine :=
  .pair { key, value, spelling := value.toList.flatMap writeBasicChar }

/-- One line for each assignment. -/
def FlatDocument.written (assignments : List (String × String)) : FlatDocument where
  lines := assignments.map fun assignment => (.written assignment.1 assignment.2, .newline)
  last := .blank []

theorem FlatLine.valid_written {key : String} (hkey : IsBareKey key) (value : String) :
    (FlatLine.written key value).Valid where
  indent := fun _ hc => absurd hc List.not_mem_nil
  before := fun _ hc => List.mem_singleton.1 hc ▸ rfl
  after := fun _ hc => List.mem_singleton.1 hc ▸ rfl
  trail := fun _ hc => absurd hc List.not_mem_nil
  key := hkey
  spelling := spellsText_flatMap value.toList

theorem FlatDocument.valid_written {assignments : List (String × String)}
    (h : ∀ assignment ∈ assignments, IsBareKey assignment.1) :
    (FlatDocument.written assignments).Valid where
  lines := by
    intro line hl
    obtain ⟨assignment, ha, rfl⟩ := List.mem_map.1 hl
    exact FlatLine.valid_written (h assignment ha) assignment.2
  last := fun _ hc => absurd hc List.not_mem_nil

theorem FlatDocument.assignments_written (assignments : List (String × String)) :
    (FlatDocument.written assignments).assignments = assignments := by
  rw [FlatDocument.assignments, written, List.flatMap_map]
  show (assignments.flatMap fun assignment => [assignment]) ++ [] = assignments
  rw [List.flatMap_singleton', List.append_nil]

end VrfPresence.Toml
