import VrfPresence.Text.Quoted
import VrfPresence.Toml.Source
import VrfPresence.Toml.Token

/-!
# What can be wrong with a settings file

The causes for which a source is no document, each at the offset it points at, and the text
of the messages about them. A message ends with the key concerned, if there is one, and with
the line and column of the offset.
-/

namespace VrfPresence.Toml

/-- What the grammar asks for at some place. -/
inductive Wanted
  | tableKey
  | value
  | lineEnd
  | token (token : Token)
  deriving DecidableEq, Repr

/-- Why a source is no document. -/
inductive Cause
  | unexpectedCharacter (c : Char)
  | controlInString (c : Char)
  | unknownEscape (c : Char)
  | unknownHexDigit (c : Char)
  | noScalarValue (code : Nat)
  | newlineInString
  | unterminatedString
  | multilineKey
  | unexpectedEnd
  | expected (wanted : Wanted) (found : Option Token)
  | unquotedValue
  | invalidNumber
  | invalidDate
  | keyBelowValue
  | tableAgain (name : String)
  | tableAsArray
  deriving DecidableEq, Repr

/-- A cause at the offset it points at, for a key where one is known. -/
structure Fault where
  cause : Cause
  offset : Nat
  key : List String := []
  deriving DecidableEq, Repr

def Wanted.describe : Wanted → String
  | .tableKey => "a table key"
  | .value => "a value"
  | .lineEnd => "newline"
  | .token wanted => wanted.describe

def backquoted (text : String) : String := "\x60" ++ text ++ "\x60"

def backquotedChar (c : Char) : String := backquoted (String.ofList (Text.plainChar c))

def Cause.describe : Cause → String
  | .unexpectedCharacter c => "unexpected character found: " ++ backquotedChar c
  | .controlInString c => "invalid character in string: " ++ backquotedChar c
  | .unknownEscape c => "invalid escape character in string: " ++ backquotedChar c
  | .unknownHexDigit c => "invalid hex escape character in string: " ++ backquotedChar c
  | .noScalarValue code => "invalid escape value: " ++ backquoted (toString code)
  | .newlineInString => "newline in string found"
  | .unterminatedString => "unterminated string"
  | .multilineKey => "multiline strings are not allowed for key"
  | .unexpectedEnd => "unexpected eof encountered"
  | .expected wanted found =>
    "expected " ++ wanted.describe ++ ", found " ++ (found.map Token.describe).getD "eof"
  | .unquotedValue => "invalid TOML value, did you mean to use a quoted string?"
  | .invalidNumber => "invalid number"
  | .invalidDate => "invalid date"
  | .keyBelowValue => "dotted key attempted to extend non-table type"
  | .tableAgain name => "redefinition of table " ++ backquoted name
  | .tableAsArray => "table redefined as array"

/-- A description with the key and the place that it is about. -/
def locateMessage (source : String) (description : String) (key : List String) (offset : Nat) :
    String :=
  let (line, column) := lineColumn source.toList offset
  let keyPart := if key = [] then "" else " for key " ++ backquoted (".".intercalate key)
  description ++ keyPart ++ " at line " ++ toString line ++ " column " ++ toString column

def Fault.message (source : String) (fault : Fault) : String :=
  locateMessage source fault.cause.describe fault.key fault.offset

end VrfPresence.Toml
