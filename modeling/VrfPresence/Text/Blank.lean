import VrfPresence.Text.Split

/-!
# White space

The characters with the Unicode property White_Space, the words between them, texts without
them at their ends, and the lines that hold no word. A line has no word exactly when all its
characters are white space (`words_eq_nil_iff`).
-/

namespace VrfPresence.Text

/-- White space: tab to carriage return, the space, and the Unicode spaces and separators. -/
def isBlank (c : Char) : Bool :=
  let n := c.toNat
  (0x9 ≤ n && n ≤ 0xD) || n == 0x20 || n == 0x85 || n == 0xA0 || n == 0x1680 ||
    (0x2000 ≤ n && n ≤ 0x200A) || n == 0x2028 || n == 0x2029 || n == 0x202F || n == 0x205F ||
    n == 0x3000

/-- The maximal runs of characters that are not white space. -/
def words (text : List Char) : List (List Char) := fields isBlank text

/-- A text without white space at its ends. -/
def trim (text : List Char) : List Char :=
  ((text.dropWhile isBlank).reverse.dropWhile isBlank).reverse

def isBlankLine (line : List Char) : Bool := line.all isBlank

/-! ### Laws -/

theorem words_nil : words [] = [] := rfl

theorem words_blank_cons {c : Char} (h : isBlank c = true) (text : List Char) :
    words (c :: text) = words text := by
  simp [words, fields, splitWhere, h]

theorem words_eq_nil_iff (line : List Char) : words line = [] ↔ isBlankLine line = true := by
  induction line with
  | nil => simp [words_nil, isBlankLine]
  | cons c line ih =>
    by_cases h : isBlank c = true
    · rw [words_blank_cons h, ih]
      simp [isBlankLine, h]
    · cases hs : splitWhere isBlank line with
      | nil => exact absurd hs (splitWhere_ne_nil _ _)
      | cons piece pieces => simp [words, fields, splitWhere, h, hs, consFirst, isBlankLine]

end VrfPresence.Text
