import VrfPresence.Text.Split

/-!
# Paths

A path is a text. What it names is its list of components: slashes separate them, repeated
and trailing slashes add none, and a single dot counts only at the very start of a relative
path. Two paths with the same components are the same path, however they are spelled.
Joining works on the text: an absolute right side replaces the left side, any other is
appended after one slash.
-/

namespace VrfPresence.Path

open Text

inductive Component
  | root
  | current
  | parent
  | name (text : List Char)
  deriving DecidableEq, Repr

/-- The step that a piece between slashes stands for, a leading dot apart. -/
def Component.ofPiece (piece : List Char) : Component :=
  if piece = ['.', '.'] then .parent else .name piece

def isAbsolute (path : String) : Bool := path.toList.head? == some '/'

/-- The pieces between the slashes of a path that are not empty. -/
def pieces (path : String) : List (List Char) := fields (· == '/') path.toList

def components (path : String) : List Component :=
  let steps := ((pieces path).filter (· ≠ ['.'])).map .ofPiece
  if isAbsolute path then .root :: steps
  else if (pieces path).head? = some ['.'] then .current :: steps
  else steps

/-- The two texts spell the same path. -/
def same (a b : String) : Bool := components a == components b

/-- The path of `name` seen from the directory. -/
def join (directory name : String) : String :=
  if isAbsolute name then name
  else if directory.toList.getLast?.all (· == '/') then directory ++ name
  else directory ++ "/" ++ name

end VrfPresence.Path
