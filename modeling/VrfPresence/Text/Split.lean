/-!
# Splitting text

Text is cut at single characters: lines at newlines, words at white space, lists at commas,
paths at slashes. All of them are `splitWhere`, which keeps every piece, empty ones too;
`fields` drops the empty ones. Cutting a text that holds a separator is cutting both sides
of it (`splitWhere_append_cons`), and joining the pieces of a split at one character gives
the text back (`join_splitWhere`).
-/

namespace VrfPresence.Text

/-! ### Pieces -/

/-- Puts a character in front of the first piece. -/
def consFirst (c : Char) : List (List Char) → List (List Char)
  | [] => [[c]]
  | piece :: pieces => (c :: piece) :: pieces

/-- The pieces between the separators of a text, in order: one more than there are separators. -/
def splitWhere (separates : Char → Bool) : List Char → List (List Char)
  | [] => [[]]
  | c :: text =>
    if separates c then [] :: splitWhere separates text
    else consFirst c (splitWhere separates text)

/-- The pieces that are not empty. -/
def fields (separates : Char → Bool) (text : List Char) : List (List Char) :=
  (splitWhere separates text).filter (· ≠ [])

/-- Pieces with one separator between any two of them. -/
def join (separator : List Char) : List (List Char) → List Char
  | [] => []
  | [piece] => piece
  | piece :: pieces => piece ++ separator ++ join separator pieces

/-- The lines of a text; a text that ends in a newline has an empty last line. -/
def lines (text : List Char) : List (List Char) := splitWhere (· == '\n') text

/-- The lines of a text, the first behind `head` and the others behind `indent`. -/
def hanging (head indent text : String) : List String :=
  match lines text.toList with
  | [] => []
  | first :: others =>
    (head ++ String.ofList first) :: others.map fun line => indent ++ String.ofList line

/-! ### Laws -/

theorem splitWhere_ne_nil (p : Char → Bool) (text : List Char) : splitWhere p text ≠ [] := by
  induction text with
  | nil => simp [splitWhere]
  | cons c text ih =>
    rw [splitWhere]
    split
    · simp
    · cases h : splitWhere p text with
      | nil => exact absurd h ih
      | cons piece pieces => simp [consFirst]

theorem consFirst_append (c : Char) {a : List (List Char)} (b : List (List Char)) (h : a ≠ []) :
    consFirst c (a ++ b) = consFirst c a ++ b := by
  cases a with
  | nil => exact absurd rfl h
  | cons piece pieces => rfl

theorem splitWhere_append_cons (p : Char → Bool) (a b : List Char) {s : Char} (hs : p s = true) :
    splitWhere p (a ++ s :: b) = splitWhere p a ++ splitWhere p b := by
  induction a with
  | nil => simp [splitWhere, hs]
  | cons c a ih =>
    by_cases hc : p c = true
    · simp [splitWhere, hc, ih]
    · simp [splitWhere, hc, ih, consFirst_append _ _ (splitWhere_ne_nil p a)]

theorem splitWhere_eq_singleton (p : Char → Bool) (text : List Char)
    (h : ∀ c ∈ text, p c = false) : splitWhere p text = [text] := by
  induction text with
  | nil => rfl
  | cons c text ih =>
    have hc : p c = false := h c (List.mem_cons_self ..)
    have ht : ∀ d ∈ text, p d = false := fun d hd => h d (List.mem_cons_of_mem _ hd)
    simp [splitWhere, hc, ih ht, consFirst]

theorem join_consFirst (s : List Char) (c : Char) {pieces : List (List Char)} (h : pieces ≠ []) :
    join s (consFirst c pieces) = c :: join s pieces := by
  cases pieces with
  | nil => exact absurd rfl h
  | cons piece rest => cases rest <;> simp [consFirst, join]

theorem join_splitWhere (s : Char) (text : List Char) :
    join [s] (splitWhere (· == s) text) = text := by
  induction text with
  | nil => rfl
  | cons c text ih =>
    have hne := splitWhere_ne_nil (· == s) text
    by_cases hc : c = s
    · cases hp : splitWhere (· == s) text with
      | nil => exact absurd hp hne
      | cons piece pieces =>
        rw [hp] at ih
        simp [splitWhere, hc, hp, join, ih]
    · simp [splitWhere, hc, join_consFirst _ _ hne, ih]

end VrfPresence.Text
