import VrfPresence.FileSystem.Basic
import VrfPresence.Path

/-!
# A directory tree with links (`kmod::fs`)

The tree below a working directory, with directories, files and symbolic links, and the
resolution of path names in it. A path is walked name by name: each name must be looked up
in a directory, `.` stays, `..` goes up, and a link is replaced by its target. Walks stop at
a missing name, at a name looked up below something that is no directory, at a name that is
too long, and after too many links. A trailing slash asks for a directory, which the walk
expresses as a last `.`.

Of what lies outside the working directory only directories are known: the root, and the
directories above the working directory. Every name looked up there is missing.

The two questions (`HostFs`, SPEC_FULL.md 4.2, line 130) go by what the path was resolved to
alone: they are `existence` and `content` of one resolution.
-/

namespace VrfPresence.FileSystem

/-- What a name in a directory stands for. A file is kept as the text it holds, `none` where
its bytes are no UTF-8 text. -/
inductive Node
  | directory
  | file (text : Option String)
  | link (target : String)
  deriving DecidableEq, Repr

/-- A place in the tree: the names on the way down from the working directory, or `none`
outside of it. -/
abbrev Place := Option (List (List Char))

/-- The nodes below the working directory, each at its names. -/
structure Tree where
  nodes : List (List (List Char) × Node)
  deriving DecidableEq, Repr

def Tree.empty : Tree := ⟨[]⟩

/-! ### Failures -/

def missing : AccessError := ⟨.notFound, "No such file or directory (os error 2)"⟩

def notDirectory : AccessError := ⟨.notADirectory, "Not a directory (os error 20)"⟩

def directoryText : AccessError := ⟨.isADirectory, "Is a directory (os error 21)"⟩

def nameTooLong : AccessError := ⟨.invalidFilename, "File name too long (os error 36)"⟩

def linksTooDeep : AccessError :=
  ⟨.linkLoop, "Too many levels of symbolic links (os error 40)"⟩

def nullInPath : AccessError :=
  ⟨.invalidInput, "file name contained an unexpected NUL byte"⟩

def notText : AccessError := ⟨.invalidData, "stream did not contain valid UTF-8"⟩

/-! ### Answers by the node that was reached -/

/-- Whether a path leads to something; only absence is a negative answer, every other failure
is one. -/
def existence : Except AccessError Node → Except AccessError Bool
  | .ok _ => .ok true
  | .error e => if e.kind = .notFound then .ok false else .error e

/-- The text that a path leads to. -/
def content : Except AccessError Node → Except AccessError String
  | .ok (.file (some text)) => .ok text
  | .ok (.file none) => .error notText
  | .ok _ => .error directoryText
  | .error e => .error e

/-! ### Limits -/

def byteLength (text : List Char) : Nat := text.foldr (fun c length => c.utf8Size + length) 0

def nameLimit : Nat := 255

/-- The length in bytes from which a path is too long. -/
def pathLimit : Nat := 4096

/-- How many links one walk follows. -/
def linkLimit : Nat := 40

/-! ### Walking -/

namespace Tree

/-- The node at a place; the working directory and all that is known outside of it are
directories. -/
def nodeAt (tree : Tree) : Place → Option Node
  | none => some .directory
  | some [] => some .directory
  | some names => tree.nodes.lookup names

def child (place : Place) (name : List Char) : Place := place.map (· ++ [name])

def above : Place → Place
  | none => none
  | some [] => none
  | some names => some names.dropLast

def childNode (tree : Tree) (place : Place) (name : List Char) : Option Node :=
  match place with
  | none => none
  | some _ => tree.nodeAt (child place name)

def steps (path : String) : List (List Char) :=
  let pieces := Path.pieces path
  if pieces ≠ [] ∧ path.toList.getLast? = some '/' then pieces ++ [['.']] else pieces

/-- Where the walk of a path begins. -/
def start (path : String) (here : Place) : Place := if Path.isAbsolute path then none else here

/-- Where a walk ends: at a node, or at a name that is free in an existing directory. -/
inductive Arrival
  | found (place : Place) (node : Node)
  | vacant (directory : Place) (name : List Char)
  deriving DecidableEq, Repr

/-- Walks down the names from a place. `follow` continues behind a link, with the names that
its target adds in front. -/
def walkWith (tree : Tree)
    (follow : Place → List (List Char) → Except AccessError Arrival) :
    Place → List (List Char) → Except AccessError Arrival
  | place, [] =>
    match tree.nodeAt place with
    | some node => .ok (.found place node)
    | none => .error missing
  | place, name :: rest =>
    if tree.nodeAt place ≠ some .directory then .error notDirectory
    else if name = ['.'] then walkWith tree follow place rest
    else if name = ['.', '.'] then walkWith tree follow (above place) rest
    else if nameLimit < byteLength name then .error nameTooLong
    else match tree.childNode place name with
      | none => if rest = [] then .ok (.vacant place name) else .error missing
      | some (.link target) => follow (start target place) (steps target ++ rest)
      | some _ => walkWith tree follow (child place name) rest

/-- Walks down the names and follows at most `links` links. -/
def walk (tree : Tree) : (links : Nat) → Place → List (List Char) → Except AccessError Arrival
  | 0 => walkWith tree fun _ _ => .error linksTooDeep
  | links + 1 => walkWith tree (walk tree links)

/-- Why a text is no path that could be walked. -/
def refusal? (path : String) : Option AccessError :=
  if '\x00' ∈ path.toList then some nullInPath
  else if pathLimit ≤ byteLength path.toList then some nameTooLong
  else if path.toList = [] then some missing
  else none

def locate (tree : Tree) (path : String) : Except AccessError Arrival :=
  match refusal? path with
  | some e => .error e
  | none => tree.walk linkLimit (start path (some [])) (steps path)

def resolve (tree : Tree) (path : String) : Except AccessError Node :=
  match tree.locate path with
  | .ok (.found _ node) => .ok node
  | .ok (.vacant ..) => .error missing
  | .error e => .error e

/-! ### The two questions -/

def pathExists (tree : Tree) (path : String) : Except AccessError Bool :=
  existence (tree.resolve path)

def readText (tree : Tree) (path : String) : Except AccessError String :=
  content (tree.resolve path)

def reader (tree : Tree) : Reader Id where
  pathExists path := pure (tree.pathExists path)
  readText path := pure (tree.readText path)

/-! ### Changes -/

def put (tree : Tree) (place : Place) (node : Node) : Tree :=
  match place with
  | some (name :: names) => ⟨(name :: names, node) :: tree.nodes.filter (·.1 ≠ name :: names)⟩
  | _ => tree

/-- Removes the node at a place and all below it. -/
def prune (tree : Tree) (place : Place) : Tree :=
  match place with
  | some (name :: names) => ⟨tree.nodes.filter fun entry => !(name :: names).isPrefixOf entry.1⟩
  | _ => tree

/-- The paths on the way to a path, itself last. -/
def wayTo (path : String) : List String :=
  let pieces := Path.pieces path
  (List.range pieces.length).map fun i =>
    let text := Text.join ['/'] (pieces.take (i + 1))
    String.ofList (if Path.isAbsolute path then '/' :: text else text)

/-- The place of the last name of a path in its directory; a link there is not followed. -/
def lastPlace? (tree : Tree) (path : String) : Option Place :=
  let pieces := Path.pieces path
  match pieces.getLast?, tree.walk linkLimit (start path (some [])) pieces.dropLast with
  | some name, .ok (.found place .directory) =>
    if name = ['.'] ∨ name = ['.', '.'] ∨ nameLimit < byteLength name then none
    else some (child place name)
  | _, _ => none

/-- Puts a node at the path, if its name is free in an existing directory. -/
def putNew (tree : Tree) (path : String) (node : Node) : Tree :=
  match tree.lastPlace? path with
  | some place => if (tree.nodeAt place).isNone then tree.put place node else tree
  | none => tree

def makeLast (tree : Tree) (path : String) : Tree := tree.putNew path .directory

/-- Makes the directory at the path and those above it, as far as they are missing. -/
def makeDirectory (tree : Tree) (path : String) : Tree :=
  if (refusal? path).isSome then tree else (wayTo path).foldl makeLast tree

def makeParents (tree : Tree) (path : String) : Tree :=
  (wayTo path).dropLast.foldl makeLast tree

/-- Writes a file at the path, through links, with the directories above it. -/
def writeFile (tree : Tree) (path : String) (text : Option String) : Tree :=
  let tree := tree.makeParents path
  match tree.locate path with
  | .ok (.vacant directory name) => tree.put (child directory name) (.file text)
  | .ok (.found place (.file _)) => tree.put place (.file text)
  | _ => tree

/-- Makes a link at the path, if its name is free, with the directories above it. The target
must be a path, but need not lead anywhere. -/
def makeLink (tree : Tree) (path target : String) : Tree :=
  let tree := tree.makeParents path
  if (refusal? target).isSome then tree else tree.putNew path (.link target)

def remove (tree : Tree) (path : String) : Tree :=
  match tree.lastPlace? path with
  | some place => tree.prune place
  | none => tree

end Tree

end VrfPresence.FileSystem
