import VrfPresence.Toml.QuotedString

/-!
# From characters to tokens

The tokens of a source at their offsets. The list of tokens ends at the end of the source or
at the first fault in it, so that a fault is met exactly where its token would have been.
-/

namespace VrfPresence.Toml

inductive Tokens
  /-- The end of the source, at its length. -/
  | finish (offset : Nat)
  /-- No token can be read here. -/
  | fail (fault : Fault)
  | next (offset : Nat) (token : Token) (rest : Tokens)
  deriving DecidableEq, Repr

def Tokens.count : Tokens → Nat
  | .finish _ => 0
  | .fail _ => 0
  | .next _ _ rest => rest.count + 1

def isCommentChar (c : Char) : Bool := c == '\t' || 0x20 ≤ c.toNat

/-- The run of characters of a class that follows, and what follows the run. -/
def takeRun (belongs : Char → Bool) (text : List (Placed Char)) :
    List Char × List (Placed Char) :=
  ((text.takeWhile (belongs ·.item)).map (·.item), text.dropWhile (belongs ·.item))

/-- The token that a character begins, and what follows it. -/
def readToken (c : Placed Char) (text : List (Placed Char)) :
    Except Fault (Token × List (Placed Char)) :=
  match c.item with
  | '\n' => .ok (.newline, text)
  | '=' => .ok (.equals, text)
  | '.' => .ok (.period, text)
  | ',' => .ok (.comma, text)
  | ':' => .ok (.colon, text)
  | '+' => .ok (.plus, text)
  | '\x7b' => .ok (.leftBrace, text)
  | '\x7d' => .ok (.rightBrace, text)
  | '[' => .ok (.leftBracket, text)
  | ']' => .ok (.rightBracket, text)
  | '#' => .ok (.comment, (takeRun isCommentChar text).2)
  | '"' => readString c.offset false text
  | '\'' => readString c.offset true text
  | first =>
    if isInlineBlank first then
      let (run, rest) := takeRun isInlineBlank text
      .ok (.blank (first :: run), rest)
    else if isWordChar first then
      let (run, rest) := takeRun isWordChar text
      .ok (.word (first :: run), rest)
    else .error ⟨.unexpectedCharacter first, c.offset, []⟩

/-- The tokens of a text that ends at offset `length` (`fuel` bounds their number). -/
def tokensFrom (length : Nat) : (fuel : Nat) → List (Placed Char) → Tokens
  | _, [] => .finish length
  | 0, _ => .finish length
  | fuel + 1, c :: text =>
    match readToken c text with
    | .ok (token, rest) => .next c.offset token (tokensFrom length fuel rest)
    | .error fault => .fail fault

def Tokens.ofSource (source : String) : Tokens :=
  let text := placeSource source.toList
  tokensFrom source.utf8ByteSize text.length text

end VrfPresence.Toml
