import Mathlib.Data.List.Forall2
import VrfPresence.Proofs.Toml.FlatDocument
import VrfPresence.Proofs.Toml.Reading

/-!
# Reading flat documents

Each line of a flat document adds the pair that it assigns, if any, to the pairs before it. So
the whole document is read, and its root holds what its lines assign, in order, with no section
behind it.
-/

namespace VrfPresence.Toml

/-- A pair with the key and the text of an assignment, wherever it stands. -/
def Assigns (pair : Pair) (assignment : String × String) : Prop :=
  pair.1 = assignment.1 ∧ pair.2.item = .string assignment.2

/-! ### Passing over lines -/

theorem afterLines_gap {tokens : Tokens} (gap : List Char) {more : List Token}
    (h : tokens.list? = some (gapTokens gap ++ more)) :
    ∃ rest : Tokens, tokens.afterLines = rest.afterLines ∧ rest.list? = some more := by
  unfold gapTokens at h
  split at h
  · exact ⟨tokens, rfl, h⟩
  · obtain ⟨offset, rest, rfl, hr⟩ := Tokens.eq_next_of_list? h
    exact ⟨rest, rfl, hr⟩

theorem afterLines_lineEnd {tokens : Tokens} {more : List Token} (hm : AtLineEnd more)
    (h : tokens.list? = some more) :
    ∃ rest : Tokens, tokens.afterLines = rest.afterLines ∧ rest.list? = some more.tail := by
  rcases hm with rfl | ⟨more, rfl⟩
  · exact ⟨tokens, rfl, h⟩
  · obtain ⟨offset, rest, rfl, hr⟩ := Tokens.eq_next_of_list? h
    exact ⟨rest, rfl, hr⟩

theorem afterLines_comment {tokens : Tokens} {more : List Token} (hm : AtLineEnd more)
    (h : tokens.list? = some (.comment :: more)) :
    ∃ rest : Tokens, tokens.afterLines = rest.afterLines ∧ rest.list? = some more.tail := by
  obtain ⟨offset, rest, rfl, hr⟩ := Tokens.eq_next_of_list? h
  rcases hm with rfl | ⟨more, rfl⟩
  · obtain ⟨place, rfl⟩ := Tokens.eq_finish_of_list? hr
    exact ⟨.finish place, rfl, rfl⟩
  · obtain ⟨place, last, rfl, hl⟩ := Tokens.eq_next_of_list? hr
    exact ⟨last, rfl, hl⟩

/-! ### Lines of pairs -/

theorem skipLines_of_afterLines {tokens rest : Tokens} (h : tokens.afterLines = .ok rest) :
    skipLines tokens = .ok ((), rest) := by
  have hg : (get : Reading Tokens) tokens = .ok (tokens, tokens) := rfl
  rw [skipLines, bind_of_ok hg, h]
  rfl

/-- Reading the next pair looks only at what is behind the lines without one. -/
theorem readPairLines_congr {tokens others : Tokens} (h : tokens.afterLines = others.afterLines)
    (fuel : Nat) (pairs : List Pair) :
    readPairLines (fuel + 1) pairs tokens = readPairLines (fuel + 1) pairs others := by
  have hs : ∀ tokens, skipLines tokens = tokens.afterLines.map fun rest => ((), rest) := by
    intro tokens
    cases ha : tokens.afterLines with
    | ok rest => exact skipLines_of_afterLines ha
    | error fault =>
      have hg : (get : Reading Tokens) tokens = .ok (tokens, tokens) := rfl
      rw [skipLines, bind_of_ok hg, ha]
      rfl
  rw [readPairLines]
  show (skipLines tokens >>= _) = (skipLines others >>= _)
  rw [hs, hs, h]

theorem readPairLines_finish (fuel : Nat) (pairs : List Pair) (offset : Nat) :
    readPairLines (fuel + 1) pairs (.finish offset) = .ok (pairs, .finish offset) := rfl

theorem readPairLines_word {offset : Nat} {word : List Char} {tokens rest : Tokens} (fuel : Nat)
    {pairs others : List Pair}
    (h : readPairLine pairs (.next offset (.word word) tokens) = .ok (others, rest)) :
    readPairLines (fuel + 1) pairs (.next offset (.word word) tokens) =
      readPairLines fuel others rest := by
  have hs : skipLines (.next offset (.word word) tokens) =
    .ok ((), .next offset (.word word) tokens) := rfl
  have hp : peek (.next offset (.word word) tokens) =
    .ok (some (.word word), .next offset (.word word) tokens) := rfl
  rw [readPairLines, bind_of_ok hs, bind_of_ok hp]
  exact bind_of_ok h

/-- One line, the last or one before others. -/
theorem readPairLines_line (line : FlatLine) {tokens : Tokens} {more : List Token} (fuel : Nat)
    (pairs : List Pair) (hm : AtLineEnd more) (h : tokens.list? = some (line.tokens ++ more)) :
    ∃ new rest, List.Forall₂ Assigns new line.assignments ∧ rest.list? = some more.tail ∧
      readPairLines (fuel + 1 + line.assignments.length) pairs tokens =
        readPairLines (fuel + 1) (pairs ++ new) rest := by
  cases line with
  | blank gap =>
    obtain ⟨after, ha, hl⟩ := afterLines_gap gap h
    obtain ⟨rest, hr, hl⟩ := afterLines_lineEnd hm hl
    refine ⟨[], rest, .nil, hl, ?_⟩
    rw [List.append_nil]
    exact readPairLines_congr (ha.trans hr) fuel pairs
  | comment indent text =>
    rw [FlatLine.tokens, List.append_assoc] at h
    obtain ⟨after, ha, hl⟩ := afterLines_gap indent h
    obtain ⟨rest, hr, hl⟩ := afterLines_comment hm hl
    refine ⟨[], rest, .nil, hl, ?_⟩
    rw [List.append_nil]
    exact readPairLines_congr (ha.trans hr) fuel pairs
  | pair line =>
    rw [FlatLine.tokens, List.append_assoc] at h
    obtain ⟨after, ha, hl⟩ := afterLines_gap line.indent h
    obtain ⟨rest, placed, hp, hi, hr⟩ := readPairLine_pairTokens pairs hl hm
    obtain ⟨offset, behind, rfl, -⟩ := Tokens.eq_next_of_list? hl
    rw [String.ofList_toList] at hp hi
    refine ⟨[(line.key, placed)], rest, .cons ⟨rfl, hi⟩ .nil, hr, ?_⟩
    exact (readPairLines_congr ha (fuel + 1) pairs).trans (readPairLines_word (fuel + 1) hp)

theorem readPairLines_document (lines : List (FlatLine × LineEnd)) (last : FlatLine)
    {tokens : Tokens} (fuel : Nat) (pairs : List Pair)
    (h : tokens.list? = some (FlatDocument.tokens ⟨lines, last⟩)) :
    ∃ new offset, List.Forall₂ Assigns new (FlatDocument.assignments ⟨lines, last⟩) ∧
      readPairLines (fuel + 1 + (FlatDocument.assignments ⟨lines, last⟩).length) pairs tokens =
        .ok (pairs ++ new, .finish offset) := by
  induction lines generalizing tokens pairs with
  | nil =>
    rw [FlatDocument.tokens, ← List.append_nil (_ ++ _)] at h
    obtain ⟨new, rest, hn, hl, hr⟩ := readPairLines_line last fuel pairs (.inl rfl) h
    obtain ⟨offset, rfl⟩ := Tokens.eq_finish_of_list? hl
    exact ⟨new, offset, hn, hr.trans (readPairLines_finish fuel _ offset)⟩
  | cons line lines ih =>
    simp only [FlatDocument.tokens, List.flatMap_cons, List.append_assoc, List.singleton_append] at h
    have hlength : (FlatDocument.assignments ⟨line :: lines, last⟩).length =
        (FlatDocument.assignments ⟨lines, last⟩).length + line.1.assignments.length := by
      simp only [FlatDocument.assignments, List.flatMap_cons, List.length_append]
      omega
    obtain ⟨new, rest, hn, hl, hr⟩ := readPairLines_line line.1
      (fuel + (FlatDocument.assignments ⟨lines, last⟩).length) pairs (.inr ⟨_, rfl⟩) h
    obtain ⟨others, offset, ho, he⟩ := ih (pairs ++ new) hl
    refine ⟨new ++ others, offset, ?_, ?_⟩
    · simp only [FlatDocument.assignments, List.flatMap_cons, List.append_assoc]
      exact List.rel_append hn ho
    · rw [hlength, ← List.append_assoc, ← he]
      have hfuel (a b c : Nat) : a + 1 + (b + c) = a + b + 1 + c := by omega
      rw [hfuel, hr, Nat.add_right_comm]

/-! ### Documents -/

theorem length_assignments_le (document : FlatDocument) :
    document.assignments.length ≤ document.tokens.length := by
  have hline : ∀ line : FlatLine, line.assignments.length ≤ line.tokens.length := by
    intro line
    cases line with
    | blank gap => exact Nat.zero_le _
    | comment indent text => exact Nat.zero_le _
    | pair line =>
      simp only [FlatLine.assignments, FlatLine.tokens, pairTokens, List.length_append,
        List.length_cons, List.length_nil]
      omega
  obtain ⟨lines, last⟩ := document
  induction lines with
  | nil => exact hline last
  | cons line lines ih =>
    have hl := hline line.1
    simp only [FlatDocument.assignments, FlatDocument.tokens, List.flatMap_cons,
      List.length_append] at ih ⊢
    omega

theorem Document.parse_source {document : FlatDocument} (hv : document.Valid) :
    ∃ pairs, Document.parse document.source = .ok ⟨pairs, []⟩ ∧
      List.Forall₂ Assigns pairs document.assignments := by
  have hl := list?_source hv
  have hcount := Tokens.count_of_list? hl
  have hle := length_assignments_le document
  obtain ⟨fuel, hfuel⟩ : ∃ fuel, (Tokens.ofSource document.source).count + 1 =
      fuel + 1 + document.assignments.length :=
    ⟨document.tokens.length - document.assignments.length, by omega⟩
  obtain ⟨pairs, offset, hp, hr⟩ := readPairLines_document document.lines document.last fuel [] hl
  refine ⟨pairs, ?_, hp⟩
  have hread : Document.parse.reader (Tokens.ofSource document.source) =
      .ok (⟨pairs, []⟩, .finish offset) := by
    have hg : ∀ tokens, (get : Reading Tokens) tokens = .ok (tokens, tokens) := fun _ => rfl
    rw [Document.parse.reader, bind_of_ok (hg _), hfuel, bind_of_ok hr, bind_of_ok (hg _)]
    rfl
  rw [Document.parse]
  show (Document.parse.reader (Tokens.ofSource document.source) >>= _) = _
  rw [hread]
  rfl

end VrfPresence.Toml
