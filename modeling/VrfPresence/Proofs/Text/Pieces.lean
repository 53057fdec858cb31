import VrfPresence.Text.Blank

/-!
# Joined pieces

Pieces without a separator in them come back from the text in which they were joined, or in
which each was ended, by one: as lines, as words, as the names of a list.
-/

namespace VrfPresence.Text

/-- A text that stands for itself among words. -/
def IsWord (text : List Char) : Prop := text ≠ [] ∧ ∀ c ∈ text, isBlank c = false

instance (text : List Char) : Decidable (IsWord text) :=
  decidable_of_iff (text ≠ [] ∧ text.all (!isBlank ·) = true) (by simp [IsWord])

/-! ### Cutting at the first separator -/

theorem splitWhere_cons_piece (p : Char → Bool) {s : Char} (hs : p s = true) (piece rest : List Char)
    (h : ∀ c ∈ piece, p c = false) :
    splitWhere p (piece ++ s :: rest) = piece :: splitWhere p rest := by
  rw [splitWhere_append_cons p piece rest hs, splitWhere_eq_singleton p piece h]
  rfl

theorem fields_cons_piece (p : Char → Bool) {s : Char} (hs : p s = true) {piece : List Char}
    (rest : List Char) (hne : piece ≠ []) (h : ∀ c ∈ piece, p c = false) :
    fields p (piece ++ s :: rest) = piece :: fields p rest := by
  simp [fields, splitWhere_cons_piece p hs piece rest h, hne]

theorem fields_append_cons (p : Char → Bool) {s : Char} (hs : p s = true) (a b : List Char) :
    fields p (a ++ s :: b) = fields p a ++ fields p b := by
  rw [fields, splitWhere_append_cons p a b hs, List.filter_append]
  rfl

theorem eq_of_append_cons {s : Char} {a b x y : List Char} (ha : s ∉ a) (hb : s ∉ b)
    (h : a ++ s :: x = b ++ s :: y) : a = b := by
  have free : ∀ text : List Char, s ∉ text → ∀ c ∈ text, (c == s) = false := by
    intro text ht c hc
    have hne : c ≠ s := fun he => ht (he ▸ hc)
    simpa using hne
  have hs := congrArg (splitWhere (· == s)) h
  rw [splitWhere_cons_piece _ (by simp) a x (free a ha),
    splitWhere_cons_piece _ (by simp) b y (free b hb)] at hs
  exact (List.cons.inj hs).1

/-! ### Pieces with separators between them -/

theorem join_append_first (separator head first : List Char) (others : List (List Char)) :
    join separator ((head ++ first) :: others) = head ++ join separator (first :: others) := by
  cases others with
  | nil => rfl
  | cons next others => simp [join]

theorem join_append (separator : List Char) {a b : List (List Char)} (ha : a ≠ []) (hb : b ≠ []) :
    join separator (a ++ b) = join separator a ++ separator ++ join separator b := by
  induction a with
  | nil => exact absurd rfl ha
  | cons piece a ih =>
    cases a with
    | nil =>
      obtain ⟨next, b, rfl⟩ := List.exists_cons_of_ne_nil hb
      rfl
    | cons next a =>
      have ht := ih (List.cons_ne_nil _ _)
      show piece ++ separator ++ join separator ((next :: a) ++ b) = _
      rw [ht]
      simp [join]

theorem not_mem_join {c : Char} {separator : List Char} {pieces : List (List Char)}
    (hs : c ∉ separator) (h : ∀ piece ∈ pieces, c ∉ piece) : c ∉ join separator pieces := by
  induction pieces with
  | nil => exact List.not_mem_nil
  | cons piece pieces ih =>
    have hp : c ∉ piece := h piece (List.mem_cons_self ..)
    cases pieces with
    | nil => exact hp
    | cons next pieces =>
      have ht := ih fun q hq => h q (List.mem_cons_of_mem _ hq)
      show c ∉ piece ++ separator ++ join separator (next :: pieces)
      simp [hp, hs, ht]

theorem splitWhere_join (p : Char → Bool) {s : Char} (hs : p s = true) (pieces : List (List Char))
    (hne : pieces ≠ []) (h : ∀ piece ∈ pieces, ∀ c ∈ piece, p c = false) :
    splitWhere p (join [s] pieces) = pieces := by
  induction pieces with
  | nil => exact absurd rfl hne
  | cons piece pieces ih =>
    have hp : ∀ c ∈ piece, p c = false := h piece (List.mem_cons_self ..)
    cases pieces with
    | nil => exact splitWhere_eq_singleton p piece hp
    | cons next pieces =>
      have ht := ih (List.cons_ne_nil _ _) fun q hq => h q (List.mem_cons_of_mem _ hq)
      show splitWhere p (piece ++ [s] ++ join [s] (next :: pieces)) = _
      rw [List.append_assoc, List.singleton_append, splitWhere_cons_piece p hs _ _ hp, ht]

theorem fields_join (p : Char → Bool) {s : Char} (hs : p s = true) (pieces : List (List Char))
    (h : ∀ piece ∈ pieces, piece ≠ [] ∧ ∀ c ∈ piece, p c = false) :
    fields p (join [s] pieces) = pieces := by
  cases pieces with
  | nil => rfl
  | cons piece pieces =>
    have hs' := splitWhere_join p hs (piece :: pieces) (List.cons_ne_nil _ _) fun q hq => (h q hq).2
    unfold fields
    rw [hs', List.filter_eq_self]
    intro q hq
    simpa using (h q hq).1

theorem words_join (pieces : List (List Char)) (h : ∀ piece ∈ pieces, IsWord piece) :
    words (join [' '] pieces) = pieces :=
  fields_join isBlank (by decide) pieces h

theorem lines_join (pieces : List (List Char)) (hne : pieces ≠ [])
    (h : ∀ piece ∈ pieces, '\n' ∉ piece) : lines (join ['\n'] pieces) = pieces := by
  refine splitWhere_join _ (by decide) pieces hne fun piece hp c hc => ?_
  have hc' : c ≠ '\n' := fun he => h piece hp (he ▸ hc)
  simpa using hc'

theorem lines_append_newline (text : List Char) : lines (text ++ ['\n']) = lines text ++ [[]] :=
  splitWhere_append_cons _ text [] (by decide)

/-! ### Pieces that each end in a separator -/

theorem fields_ended (p : Char → Bool) {s : Char} (hs : p s = true) (pieces : List (List Char))
    (h : ∀ piece ∈ pieces, piece ≠ [] ∧ ∀ c ∈ piece, p c = false) :
    fields p (pieces.flatMap fun piece => piece ++ [s]) = pieces := by
  induction pieces with
  | nil => rfl
  | cons piece pieces ih =>
    have hp := h piece (List.mem_cons_self ..)
    have ht := ih fun q hq => h q (List.mem_cons_of_mem _ hq)
    rw [List.flatMap_cons, List.append_assoc, List.singleton_append,
      fields_cons_piece p hs _ hp.1 hp.2, ht]

/-! ### Ends that stay -/

theorem dropWhile_of_head? {p : Char → Bool} {text : List Char}
    (h : ∀ c ∈ text.head?, p c = false) : text.dropWhile p = text := by
  cases text with
  | nil => rfl
  | cons c text => simp [h c rfl]

/-! ### The first word -/

theorem words_of_isWord {word : List Char} (h : IsWord word) : words word = [word] := by
  have hs : splitWhere isBlank word = [word] := splitWhere_eq_singleton isBlank word h.2
  simp [words, fields, hs, h.1]

theorem words_blanks_append {blanks : List Char} (h : ∀ c ∈ blanks, isBlank c = true)
    (text : List Char) : words (blanks ++ text) = words text := by
  induction blanks with
  | nil => rfl
  | cons c blanks ih =>
    rw [List.cons_append, words_blank_cons (h c (List.mem_cons_self ..))]
    exact ih fun d hd => h d (List.mem_cons_of_mem _ hd)

theorem words_word_append {word rest : List Char} (hword : IsWord word)
    (hrest : ∀ c ∈ rest.head?, isBlank c = true) : words (word ++ rest) = word :: words rest := by
  cases rest with
  | nil =>
    rw [List.append_nil, words_of_isWord hword]
    rfl
  | cons c rest =>
    have hc : isBlank c = true := hrest c rfl
    rw [words_blank_cons hc]
    exact fields_cons_piece isBlank hc rest hword.1 hword.2

theorem head?_words_append {name rest : List Char} (hname : IsWord name)
    (hrest : ∀ c ∈ rest.head?, isBlank c = true) : (words (name ++ rest)).head? = some name := by
  rw [words_word_append hname hrest]
  rfl

theorem eq_append_of_head?_words {name line : List Char} (h : (words line).head? = some name) :
    ∃ blanks rest, line = blanks ++ name ++ rest ∧ (∀ c ∈ blanks, isBlank c = true) ∧
      ∀ c ∈ rest.head?, isBlank c = true := by
  induction line with
  | nil => cases h
  | cons c line ih =>
    by_cases hc : isBlank c = true
    · rw [words_blank_cons hc] at h
      obtain ⟨blanks, rest, rfl, hblanks, hrest⟩ := ih h
      exact ⟨c :: blanks, rest, rfl, List.forall_mem_cons.2 ⟨hc, hblanks⟩, hrest⟩
    · -- the line starts with a word: the run of characters up to the first white space
      have hrun := List.takeWhile_append_dropWhile (p := (!isBlank ·)) (l := c :: line)
      have hword : IsWord ((c :: line).takeWhile (!isBlank ·)) := by
        refine ⟨by simp [hc], fun d hd => ?_⟩
        simpa using List.all_eq_true.1 List.all_takeWhile d hd
      have hrest : ∀ d ∈ ((c :: line).dropWhile (!isBlank ·)).head?, isBlank d = true := by
        intro d hd
        have hn := List.head?_dropWhile_not (!isBlank ·) (c :: line)
        rw [Option.mem_def.1 hd] at hn
        simpa using hn
      have hfirst := head?_words_append hword hrest
      rw [hrun, h] at hfirst
      obtain rfl := Option.some.inj hfirst
      exact ⟨[], _, hrun.symm, by simp, hrest⟩

end VrfPresence.Text
