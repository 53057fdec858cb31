import VrfPresence.Proofs.Toml.Spelling
import VrfPresence.Toml.Tokens

/-!
# The tokens of a text

`Lexes` says which tokens a text is made of, whatever the offsets are at which it stands. One
rule for each kind of token puts it in front of the tokens of what follows it.
-/

namespace VrfPresence.Toml

/-- The tokens up to the end of the source, unless a fault comes before it. -/
def Tokens.list? : Tokens → Option (List Token)
  | .finish _ => some []
  | .fail _ => none
  | .next _ token rest => rest.list?.map (token :: ·)

theorem Tokens.eq_next_of_list? {tokens : Tokens} {token : Token} {more : List Token}
    (h : tokens.list? = some (token :: more)) :
    ∃ offset rest, tokens = .next offset token rest ∧ rest.list? = some more := by
  cases tokens with
  | finish offset => cases h
  | fail fault => cases h
  | next offset first rest =>
    obtain ⟨others, ho, he⟩ := Option.map_eq_some_iff.1 h
    obtain ⟨rfl, rfl⟩ := List.cons.inj he
    exact ⟨offset, rest, rfl, ho⟩

theorem Tokens.eq_finish_of_list? {tokens : Tokens} (h : tokens.list? = some []) :
    ∃ offset, tokens = .finish offset := by
  cases tokens with
  | finish offset => exact ⟨offset, rfl⟩
  | fail fault => cases h
  | next offset first rest =>
    obtain ⟨others, -, he⟩ := Option.map_eq_some_iff.1 h
    cases he

theorem Tokens.count_of_list? {tokens : Tokens} {list : List Token}
    (h : tokens.list? = some list) : tokens.count = list.length := by
  induction list generalizing tokens with
  | nil =>
    obtain ⟨offset, rfl⟩ := Tokens.eq_finish_of_list? h
    rfl
  | cons token list ih =>
    obtain ⟨offset, rest, rfl, hr⟩ := Tokens.eq_next_of_list? h
    rw [Tokens.count, ih hr, List.length_cons]

/-- The characters are cut into the tokens, up to the end. -/
def Lexes (chars : List Char) (list : List Token) : Prop :=
  ∀ (text : List (Placed Char)) (length fuel : Nat), items text = chars → text.length ≤ fuel →
    (tokensFrom length fuel text).list? = some list

theorem length_items (text : List (Placed Char)) : (items text).length = text.length :=
  List.length_map _

theorem lexes_nil : Lexes [] [] := by
  intro text length fuel ht _
  obtain rfl := List.map_eq_nil_iff.1 ht
  cases fuel <;> rfl

/-- A token in front: `readToken` finds it and leaves the rest. -/
theorem lexes_cons {c : Char} {chars rest : List Char} {token : Token} {list : List Token}
    (hread : ∀ (p : Placed Char) (text : List (Placed Char)), p.item = c → items text = chars →
      ∃ after, items after = rest ∧ readToken p text = .ok (token, after))
    (hlength : rest.length ≤ chars.length) (hrest : Lexes rest list) :
    Lexes (c :: chars) (token :: list) := by
  intro text length fuel ht hf
  obtain ⟨p, text, rfl, hp, ht⟩ := items_eq_cons ht
  obtain ⟨after, ha, hr⟩ := hread p text hp ht
  cases fuel with
  | zero => cases hf
  | succ fuel =>
    have hshort : after.length ≤ fuel := by
      rw [← length_items after, ha]
      rw [← ht, length_items] at hlength
      simp only [List.length_cons] at hf
      omega
    have hl := hrest after length fuel ha hshort
    simp only [tokensFrom, hr, Tokens.list?, hl, Option.map_some]

/-! ### Single marks -/

theorem lexes_newline {rest : List Char} {list : List Token} (h : Lexes rest list) :
    Lexes ('\n' :: rest) (.newline :: list) :=
  lexes_cons (fun p text hp ht => ⟨text, ht, by simp [readToken, hp]⟩) (Nat.le_refl _) h

theorem lexes_equals {rest : List Char} {list : List Token} (h : Lexes rest list) :
    Lexes ('=' :: rest) (.equals :: list) :=
  lexes_cons (fun p text hp ht => ⟨text, ht, by simp [readToken, hp]⟩) (Nat.le_refl _) h

/-! ### Runs of characters -/

theorem takeRun_items {belongs : Char → Bool} {run rest : List Char} {text : List (Placed Char)}
    (ht : items text = run ++ rest) (hrun : ∀ c ∈ run, belongs c = true)
    (hrest : ∀ c ∈ rest.head?, belongs c = false) :
    (takeRun belongs text).1 = run ∧ items (takeRun belongs text).2 = rest := by
  induction run generalizing text with
  | nil =>
    cases text with
    | nil => exact ⟨rfl, ht⟩
    | cons p text =>
      have hp : belongs p.item = false := hrest p.item (by rw [← List.nil_append rest, ← ht]; rfl)
      simp only [takeRun, List.takeWhile_cons, List.dropWhile_cons, hp, Bool.false_eq_true, if_false]
      exact ⟨rfl, ht⟩
  | cons c run ih =>
    obtain ⟨p, after, rfl, hp, ha⟩ := items_eq_cons ht
    have hc : belongs p.item = true := hp ▸ hrun c (List.mem_cons_self ..)
    have hr := ih ha fun d hd => hrun d (List.mem_cons_of_mem _ hd)
    simp only [takeRun, List.takeWhile_cons, List.dropWhile_cons, hc, if_true, List.map_cons] at hr ⊢
    exact ⟨by rw [hr.1, hp], hr.2⟩

/-- The characters that are tokens by themselves, or begin a comment or a string. -/
def marks : List Char :=
  ['\n', '=', '.', ',', ':', '+', '\x7b', '\x7d', '[', ']', '#', '"', '\'']

theorem readToken_of_not_mark {p : Placed Char} (h : p.item ∉ marks) (text : List (Placed Char)) :
    readToken p text =
      if isInlineBlank p.item then
        .ok (.blank (p.item :: (takeRun isInlineBlank text).1), (takeRun isInlineBlank text).2)
      else if isWordChar p.item then
        .ok (.word (p.item :: (takeRun isWordChar text).1), (takeRun isWordChar text).2)
      else .error ⟨.unexpectedCharacter p.item, p.offset, []⟩ := by
  unfold readToken
  split <;> simp_all [marks]

theorem lexes_blank {first : Char} {gap rest : List Char} {list : List Token}
    (hgap : ∀ c ∈ first :: gap, isInlineBlank c = true)
    (hrest : ∀ c ∈ rest.head?, isInlineBlank c = false) (h : Lexes rest list) :
    Lexes (first :: gap ++ rest) (.blank (first :: gap) :: list) := by
  have hf : isInlineBlank first = true := hgap first (List.mem_cons_self ..)
  have hm : first ∉ marks := by
    intro hm
    have hmarks : marks.all (!isInlineBlank ·) = true := by decide
    have hfirst := List.all_eq_true.1 hmarks first hm
    rw [hf] at hfirst
    cases hfirst
  refine lexes_cons (fun p text hp ht => ?_) (by simp) h
  have hr := takeRun_items ht (fun c hc => hgap c (List.mem_cons_of_mem _ hc)) hrest
  refine ⟨_, hr.2, ?_⟩
  rw [readToken_of_not_mark (hp ▸ hm), hp, if_pos hf, hr.1]

theorem isInlineBlank_of_isWordChar {c : Char} (h : isWordChar c = true) :
    isInlineBlank c = false := by
  cases hi : isInlineBlank c with
  | false => rfl
  | true =>
    rw [isInlineBlank, Bool.or_eq_true, beq_iff_eq, beq_iff_eq] at hi
    rcases hi with rfl | rfl
    · cases h
    · cases h

theorem lexes_word {first : Char} {word rest : List Char} {list : List Token}
    (hword : ∀ c ∈ first :: word, isWordChar c = true)
    (hrest : ∀ c ∈ rest.head?, isWordChar c = false) (h : Lexes rest list) :
    Lexes (first :: word ++ rest) (.word (first :: word) :: list) := by
  have hf : isWordChar first = true := hword first (List.mem_cons_self ..)
  have hm : first ∉ marks := by
    intro hm
    have hmarks : marks.all (!isWordChar ·) = true := by decide
    have hfirst := List.all_eq_true.1 hmarks first hm
    rw [hf] at hfirst
    cases hfirst
  have hb := isInlineBlank_of_isWordChar hf
  refine lexes_cons (fun p text hp ht => ?_) (by simp) h
  have hr := takeRun_items ht (fun c hc => hword c (List.mem_cons_of_mem _ hc)) hrest
  refine ⟨_, hr.2, ?_⟩
  rw [readToken_of_not_mark (hp ▸ hm), hp, hb, if_pos hf, hr.1]
  rfl

theorem lexes_comment {comment rest : List Char} {list : List Token}
    (hcomment : ∀ c ∈ comment, isCommentChar c = true)
    (hrest : ∀ c ∈ rest.head?, isCommentChar c = false) (h : Lexes rest list) :
    Lexes ('#' :: comment ++ rest) (.comment :: list) := by
  refine lexes_cons (fun p text hp ht => ?_) (by simp) h
  have hr := takeRun_items ht hcomment hrest
  exact ⟨_, hr.2, by simp [readToken, hp]⟩

/-! ### Strings -/

theorem lexes_string {value spelling rest : List Char} {list : List Token}
    (hs : SpellsText value spelling) (hrest : rest.head? ≠ some '"') (h : Lexes rest list) :
    Lexes ('"' :: spelling ++ '"' :: rest) (.string value false :: list) := by
  refine lexes_cons (fun p text hp ht => ?_) (by simp; omega) h
  obtain ⟨after, ha, hr⟩ := readString_spellsText p.offset hs ht hrest
  exact ⟨after, ha, by simp [readToken, hp, hr]⟩

/-! ### Whole sources -/

/-- A text with its line ends folded. -/
def foldLineEnds : List Char → List Char
  | [] => []
  | '\r' :: '\n' :: text => '\n' :: foldLineEnds text
  | c :: text => c :: foldLineEnds text

theorem items_place (offset : Nat) (text : List Char) :
    items (place offset text) = foldLineEnds text := by
  fun_induction place offset text with
  | case1 => rfl
  | case2 offset text ih => simp [items, foldLineEnds, ← ih]
  | case3 offset c text hc ih =>
    rw [foldLineEnds.eq_3 c text hc, ← ih]
    rfl

theorem list?_ofSource {source : String} {list : List Token}
    (hbom : source.toList.head? ≠ some '\ufeff') (h : Lexes (foldLineEnds source.toList) list) :
    (Tokens.ofSource source).list? = some list := by
  have hp : placeSource source.toList = place 0 source.toList := by
    unfold placeSource
    split
    · rename_i text he
      rw [he] at hbom
      exact absurd rfl hbom
    · rfl
  rw [Tokens.ofSource, hp]
  exact h _ _ _ (items_place 0 _) (Nat.le_refl _)

end VrfPresence.Toml
