import VrfPresence.Proofs.Toml.Lexing
import VrfPresence.Toml.Document

/-!
# Reading known tokens

What the steps of the grammar do where the next tokens are known: they succeed and leave the
tokens that follow. Gaps within a line may be empty; then they are no token at all.
-/

namespace VrfPresence.Toml

theorem bind_of_ok {α β : Type} {x : Reading α} {f : α → Reading β} {tokens rest : Tokens} {a : α}
    (h : x tokens = .ok (a, rest)) : (x >>= f) tokens = f a rest := by
  show (x tokens >>= fun (a, rest) => f a rest) = f a rest
  rw [h]
  rfl

/-- The tokens of a gap within a line. -/
def gapTokens (gap : List Char) : List Token := if gap = [] then [] else [.blank gap]

/-- The line goes on, or comes to its end, but not with a gap. -/
def NoGap (list : List Token) : Prop := ∀ text, list.head? ≠ some (.blank text)

/-- The end of a line, or of the source. -/
def AtLineEnd (list : List Token) : Prop := list = [] ∨ ∃ more, list = .newline :: more

theorem AtLineEnd.noGap {list : List Token} (h : AtLineEnd list) : NoGap list := by
  intro text ht
  rcases h with rfl | ⟨more, rfl⟩
  · cases ht
  · cases ht

/-! ### Gaps and marks -/

theorem skipBlank_gap {tokens : Tokens} (gap : List Char) {more : List Token}
    (h : tokens.list? = some (gapTokens gap ++ more)) (hm : NoGap more) :
    ∃ rest, skipBlank tokens = .ok ((), rest) ∧ rest.list? = some more := by
  unfold gapTokens at h
  split at h
  · cases more with
    | nil =>
      obtain ⟨offset, rfl⟩ := Tokens.eq_finish_of_list? h
      exact ⟨_, rfl, rfl⟩
    | cons token more =>
      obtain ⟨offset, rest, rfl, hr⟩ := Tokens.eq_next_of_list? h
      refine ⟨_, ?_, h⟩
      cases token with
      | blank text => exact absurd rfl (hm text)
      | _ => rfl
  · obtain ⟨offset, rest, rfl, hr⟩ := Tokens.eq_next_of_list? h
    exact ⟨rest, rfl, hr⟩

theorem eat_other (token : Token) {other : Token} (hne : other ≠ token) (offset : Nat)
    (rest : Tokens) : eat token (.next offset other rest) = .ok (false, .next offset other rest) := by
  have hp : peek (.next offset other rest) = .ok (some other, .next offset other rest) := rfl
  rw [eat, bind_of_ok hp, if_neg (by simpa using hne)]
  rfl

theorem expect_next (token : Token) (offset : Nat) (rest : Tokens) :
    expect token (.next offset token rest) = .ok ((), rest) := by
  have hh : here (.next offset token rest) = .ok (offset, .next offset token rest) := rfl
  have ht : take (.next offset token rest) = .ok (some ⟨offset, token⟩, rest) := rfl
  rw [expect, bind_of_ok hh, bind_of_ok ht]
  simp only [Option.map_some, ne_eq, not_true_eq_false, if_false]
  rfl

/-! ### Keys and values -/

theorem readMoreKeys_equals (fuel offset : Nat) (rest : Tokens) :
    readMoreKeys fuel (.next offset .equals rest) = .ok ([], .next offset .equals rest) := by
  cases fuel with
  | zero => rfl
  | succ fuel =>
    have hne : Token.equals ≠ .period := by decide
    have he := eat_other .period hne offset rest
    rw [readMoreKeys, bind_of_ok he]
    rfl

theorem readKeys_word {tokens : Tokens} {word gap : List Char} {more : List Token}
    (h : tokens.list? = some (.word word :: (gapTokens gap ++ .equals :: more))) :
    ∃ rest, readKeys tokens = .ok ([String.ofList word], rest) ∧
      rest.list? = some (.equals :: more) := by
  obtain ⟨offset, after, rfl, ha⟩ := Tokens.eq_next_of_list? h
  have hk : readKey (.next offset (.word word) after) = .ok (String.ofList word, after) := rfl
  obtain ⟨rest, hs, hr⟩ := skipBlank_gap gap ha (by rintro text ⟨⟩)
  refine ⟨rest, ?_, hr⟩
  obtain ⟨place, last, rfl, -⟩ := Tokens.eq_next_of_list? hr
  rw [readKeys, bind_of_ok hk, bind_of_ok hs]
  have hg : (get : Reading Tokens) (.next place .equals last) =
    .ok (.next place .equals last, .next place .equals last) := rfl
  rw [bind_of_ok hg, bind_of_ok (readMoreKeys_equals _ place last)]
  rfl

theorem nextValue_string (offset : Nat) (value : List Char) (multiline : Bool) (rest : Tokens) :
    nextValue (.next offset (.string value multiline) rest) =
      .ok (⟨offset, .string (String.ofList value)⟩, rest) := by
  have hg : (get : Reading Tokens) (.next offset (.string value multiline) rest) =
    .ok (.next offset (.string value multiline) rest, .next offset (.string value multiline) rest) :=
    rfl
  rw [nextValue, bind_of_ok hg, readValue]
  rfl

/-! ### Lines -/

theorem closeLine_gap {tokens : Tokens} (gap : List Char) {more : List Token}
    (h : tokens.list? = some (gapTokens gap ++ more)) (hm : AtLineEnd more) :
    ∃ rest, closeLine tokens = .ok ((), rest) ∧ rest.list? = some more.tail := by
  obtain ⟨after, hs, ha⟩ := skipBlank_gap gap h hm.noGap
  rw [closeLine, bind_of_ok hs]
  rcases hm with rfl | ⟨more, rfl⟩
  · obtain ⟨offset, rfl⟩ := Tokens.eq_finish_of_list? ha
    exact ⟨_, rfl, rfl⟩
  · obtain ⟨offset, rest, rfl, hr⟩ := Tokens.eq_next_of_list? ha
    have hne : Token.newline ≠ .comment := by decide
    have he := eat_other .comment hne offset rest
    rw [bind_of_ok he]
    exact ⟨rest, rfl, hr⟩

/-- The tokens of a line with a key and a string, its indent left out. -/
def pairTokens (key before after value trail : List Char) : List Token :=
  .word key :: (gapTokens before ++ .equals :: (gapTokens after ++
    .string value false :: gapTokens trail))

theorem readPairLine_pairTokens {tokens : Tokens} {key before after value trail : List Char}
    {more : List Token} (pairs : List Pair)
    (h : tokens.list? = some (pairTokens key before after value trail ++ more))
    (hm : AtLineEnd more) :
    ∃ rest placed, readPairLine pairs tokens = .ok (pairs ++ [(String.ofList key, placed)], rest) ∧
      placed.item = .string (String.ofList value) ∧ rest.list? = some more.tail := by
  simp only [pairTokens, List.cons_append, List.append_assoc] at h
  obtain ⟨t1, hkeys, h1⟩ := readKeys_word h
  obtain ⟨t2, hs2, h2⟩ := skipBlank_gap [] h1 (by rintro text ⟨⟩)
  obtain ⟨o2, t3, rfl, h3⟩ := Tokens.eq_next_of_list? h2
  obtain ⟨t4, hs4, h4⟩ := skipBlank_gap after h3 (by rintro text ⟨⟩)
  obtain ⟨o4, t5, rfl, h5⟩ := Tokens.eq_next_of_list? h4
  obtain ⟨t6, hclose, h6⟩ := closeLine_gap trail h5 hm
  refine ⟨t6, ⟨o4, .string (String.ofList value)⟩, ?_, rfl, h6⟩
  rw [readPairLine, bind_of_ok hkeys, bind_of_ok hs2, bind_of_ok (expect_next .equals o2 t3),
    bind_of_ok hs4, bind_of_ok (nextValue_string o4 value false t5), bind_of_ok hclose]
  rfl

end VrfPresence.Toml
