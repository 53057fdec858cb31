import VrfPresence.Proofs.Text.Pieces

/-!
# Cuts and runs

Splitting, told from the text alone. A cut of a text is a list of pieces without the separator that
gives the text when it is joined by it; a text has one cut (`isCut_iff`). The runs of a text are what
is left between its white space, each as long as it can be; a text has its words as its only runs
(`runs_iff`). A line of a text stands at its start or behind a newline.
-/

namespace VrfPresence.Text

/-! ### Characters of pieces -/

theorem of_mem_splitWhere {p : Char → Bool} {text piece : List Char}
    (h : piece ∈ splitWhere p text) : ∀ c ∈ piece, c ∈ text ∧ p c = false := by
  induction text generalizing piece with
  | nil => simp_all [splitWhere]
  | cons d text ih =>
    have hlater {other : List Char} (ho : other ∈ splitWhere p text) :
        ∀ c ∈ other, c ∈ d :: text ∧ p c = false := by
      intro c hc
      have hmem := ih ho c hc
      exact ⟨List.mem_cons_of_mem _ hmem.1, hmem.2⟩
    intro c hc
    by_cases hd : p d = true
    · simp only [splitWhere, hd, if_true, List.mem_cons] at h
      rcases h with rfl | h
      · cases hc
      · exact hlater h c hc
    · obtain ⟨first, others, hs⟩ := List.exists_cons_of_ne_nil (splitWhere_ne_nil p text)
      rw [splitWhere, if_neg hd, hs, consFirst, List.mem_cons] at h
      rcases h with rfl | h
      · rcases List.mem_cons.1 hc with rfl | hc
        · exact ⟨List.mem_cons_self .., by simpa using hd⟩
        · exact hlater (hs ▸ List.mem_cons_self ..) c hc
      · exact hlater (hs ▸ List.mem_cons_of_mem _ h) c hc

theorem isWord_of_mem_words {text word : List Char} (h : word ∈ words text) : IsWord word := by
  simp only [words, fields, List.mem_filter] at h
  exact ⟨by simpa using h.2, fun c hc => (of_mem_splitWhere h.1 c hc).2⟩

/-! ### Cuts -/

structure IsCut (s : Char) (text : List Char) (pieces : List (List Char)) : Prop where
  ne_nil : pieces ≠ []
  free : ∀ piece ∈ pieces, s ∉ piece
  joined : join [s] pieces = text

theorem isCut_iff {s : Char} {text : List Char} {pieces : List (List Char)} :
    IsCut s text pieces ↔ splitWhere (· == s) text = pieces := by
  constructor
  · intro h
    rw [← h.joined]
    apply splitWhere_join _ (by simp) pieces h.ne_nil
    intro piece hp c hc
    have hne : c ≠ s := fun he => h.free piece hp (he ▸ hc)
    simpa using hne
  · intro h
    subst h
    refine ⟨splitWhere_ne_nil _ _, fun piece hp hs => ?_, join_splitWhere s text⟩
    simpa using (of_mem_splitWhere hp s hs).2

/-! ### Lines -/

theorem newline_not_mem_of_mem_lines {text line : List Char} (h : line ∈ lines text) :
    '\n' ∉ line :=
  (isCut_iff.2 rfl : IsCut '\n' text (lines text)).free line h

theorem lines_append_cons (a b : List Char) : lines (a ++ '\n' :: b) = lines a ++ lines b :=
  splitWhere_append_cons _ a b (by decide)

/-- The first line goes on from the start of the text. -/
theorem exists_mem_lines_append {start : List Char} (h : '\n' ∉ start) (rest : List Char) :
    ∃ more, start ++ more ∈ lines (start ++ rest) := by
  have hfirst : ∃ more others, lines (start ++ rest) = (start ++ more) :: others := by
    induction start with
    | nil => exact List.exists_cons_of_ne_nil (splitWhere_ne_nil _ _)
    | cons c start ih =>
      have hc : c ≠ '\n' := fun he => h (he ▸ List.mem_cons_self ..)
      obtain ⟨more, others, hl⟩ := ih fun hm => h (List.mem_cons_of_mem _ hm)
      refine ⟨more, others, ?_⟩
      unfold lines at hl ⊢
      simp [splitWhere, hc, hl, consFirst]
  obtain ⟨more, others, hl⟩ := hfirst
  exact ⟨more, hl ▸ List.mem_cons_self ..⟩

theorem anchored_of_mem_lines {text line : List Char} (h : line ∈ lines text) :
    line <+: text ∨ '\n' :: line <:+: text := by
  have hcut : IsCut '\n' text (lines text) := isCut_iff.2 rfl
  obtain ⟨before, after, hs⟩ := List.append_of_mem h
  have hjoined := hcut.joined
  rw [hs] at hjoined
  have hline : line <+: join ['\n'] (line :: after) := by
    cases after with
    | nil => exact List.prefix_rfl
    | cons next after => simp [join]
  cases before with
  | nil => exact .inl (hjoined ▸ hline)
  | cons first before =>
    rw [join_append _ (List.cons_ne_nil _ _) (List.cons_ne_nil _ _)] at hjoined
    obtain ⟨rest, hrest⟩ := hline
    refine .inr ⟨join ['\n'] (first :: before), rest, ?_⟩
    rw [← hjoined, ← hrest]
    simp

/-! ### Runs -/

inductive Runs : List Char → List (List Char) → Prop
  | blank {text : List Char} (h : ∀ c ∈ text, isBlank c = true) : Runs text []
  | word {blanks word rest : List Char} {others : List (List Char)}
      (hblanks : ∀ c ∈ blanks, isBlank c = true) (hword : IsWord word)
      (hrest : ∀ c ∈ rest.head?, isBlank c = true) (h : Runs rest others) :
      Runs (blanks ++ word ++ rest) (word :: others)

theorem Runs.words_eq {text : List Char} {runs : List (List Char)} (h : Runs text runs) :
    words text = runs := by
  induction h with
  | blank h => exact (words_eq_nil_iff _).2 (List.all_eq_true.2 h)
  | word hblanks hword hrest _ ih =>
    rw [List.append_assoc, words_blanks_append hblanks, words_word_append hword hrest, ih]

theorem runs_words (text : List Char) : Runs text (words text) := by
  induction hn : text.length using Nat.strongRecOn generalizing text with
  | _ n ih =>
    cases hw : words text with
    | nil =>
      apply Runs.blank
      exact List.all_eq_true.1 ((words_eq_nil_iff text).1 hw)
    | cons word others =>
      have hword : IsWord word := isWord_of_mem_words (hw ▸ List.mem_cons_self ..)
      have hfirst : (words text).head? = some word := by rw [hw]; rfl
      obtain ⟨blanks, rest, rfl, hblanks, hrest⟩ := eq_append_of_head?_words hfirst
      rw [List.append_assoc, words_blanks_append hblanks, words_word_append hword hrest] at hw
      obtain ⟨-, rfl⟩ := List.cons.inj hw
      have hpos : 0 < word.length := List.length_pos_iff.2 hword.1
      have hlt : rest.length < n := by
        simp only [List.length_append] at hn
        omega
      exact .word hblanks hword hrest (ih rest.length hlt rest rfl)

theorem runs_iff {text : List Char} {runs : List (List Char)} :
    Runs text runs ↔ runs = words text :=
  ⟨fun h => h.words_eq.symm, fun h => h ▸ runs_words text⟩

end VrfPresence.Text
