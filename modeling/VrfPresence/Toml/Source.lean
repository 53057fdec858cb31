/-!
# The source of a settings file

A settings file is a TOML document (SPEC_FULL.md 6, lines 187-192, and 10.3). Its characters and
what is read from them keep their byte offset in the source, so that a message can point at its
line and column. A carriage return before a newline belongs to the newline, and one byte order
mark at the very start is skipped; both still count as bytes.
-/

namespace VrfPresence.Toml

/-- Something with the byte offset at which it starts. -/
structure Placed (α : Type) where
  offset : Nat
  item : α
  deriving DecidableEq, Repr

/-- Characters at their offsets, the first at `offset`, with line ends folded. -/
def place (offset : Nat) : List Char → List (Placed Char)
  | [] => []
  | '\r' :: '\n' :: text => ⟨offset, '\n'⟩ :: place (offset + 2) text
  | c :: text => ⟨offset, c⟩ :: place (offset + c.utf8Size) text

def placeSource : List Char → List (Placed Char)
  | '\ufeff' :: text => place 3 text
  | text => place 0 text

/-! ### Lines and columns -/

/-- The line and the column of an offset, each counted from one, columns in bytes. -/
def lineColumnFrom (line column : Nat) : Nat → List Char → Nat × Nat
  | _, [] => (line, column)
  | 0, _ => (line, column)
  | offset, c :: text =>
    if offset < c.utf8Size then (line, column + offset)
    else if c = '\n' then lineColumnFrom (line + 1) 1 (offset - 1) text
    else lineColumnFrom line (column + c.utf8Size) (offset - c.utf8Size) text

def lineColumn (source : List Char) (offset : Nat) : Nat × Nat := lineColumnFrom 1 1 offset source

end VrfPresence.Toml
