/-!
# Tokens of a settings file

The words, strings and marks that the lines of a settings file are made of, with the names
that messages give them. White space within a line and comments are tokens too, because the
grammar says where they may stand.
-/

namespace VrfPresence.Toml

/-- A token. A word is a run of letters, digits, dashes and underscores; a string is kept as
the text that it denotes. -/
inductive Token
  | newline
  | blank (text : List Char)
  | comment
  | equals
  | period
  | comma
  | colon
  | plus
  | leftBrace
  | rightBrace
  | leftBracket
  | rightBracket
  | word (text : List Char)
  | string (text : List Char) (multiline : Bool)
  deriving DecidableEq, Repr

def Token.describe : Token → String
  | .newline => "a newline"
  | .blank _ => "whitespace"
  | .comment => "a comment"
  | .equals => "an equals"
  | .period => "a period"
  | .comma => "a comma"
  | .colon => "a colon"
  | .plus => "a plus"
  | .leftBrace => "a left brace"
  | .rightBrace => "a right brace"
  | .leftBracket => "a left bracket"
  | .rightBracket => "a right bracket"
  | .word _ => "an identifier"
  | .string _ false => "a string"
  | .string _ true => "a multiline string"

/-- The characters of words. -/
def isWordChar (c : Char) : Bool := c.isAlphanum || c == '-' || c == '_'

end VrfPresence.Toml
