import VrfPresence.FileSystem.Basic
import VrfPresence.Path

/-!
# A file system in memory (`kmod::fs`)

A store of directories, text files and denied paths, for trying the probe without a machine
(`MemFs`, SPEC_FULL.md 4.2, lines 131-133). It is flat: a file makes no directories above it.
Paths are kept by their components, so every spelling of a path finds what any other spelling
stored, while messages show the path as it was asked for. A denied path fails whatever else is
stored at it, and of two texts stored at one path the later one counts.
-/

namespace VrfPresence.FileSystem

open VrfPresence.Path

/-- Directories, files (the latest first) and denied paths. -/
structure MemoryStore where
  directories : List (List Component) := []
  files : List (List Component × String) := []
  denied : List (List Component) := []

namespace MemoryStore

def empty : MemoryStore := {}

def addDirectory (store : MemoryStore) (path : String) : MemoryStore :=
  { store with directories := components path :: store.directories }

def addFile (store : MemoryStore) (path text : String) : MemoryStore :=
  { store with files := (components path, text) :: store.files }

/-- Makes every access to a path fail. -/
def deny (store : MemoryStore) (path : String) : MemoryStore :=
  { store with denied := components path :: store.denied }

def isDenied (store : MemoryStore) (path : String) : Bool :=
  store.denied.contains (components path)

def text? (store : MemoryStore) (path : String) : Option String :=
  store.files.lookup (components path)

def isDirectory (store : MemoryStore) (path : String) : Bool :=
  store.directories.contains (components path)

/-- A failed access, with the path in front of the reason. -/
def failure (kind : FailureKind) (path reason : String) : AccessError :=
  ⟨kind, path ++ ": " ++ reason⟩

def pathExists (store : MemoryStore) (path : String) : Except AccessError Bool :=
  if store.isDenied path then .error (failure .permissionDenied path "permission denied")
  else .ok (store.isDirectory path || (store.text? path).isSome)

def readText (store : MemoryStore) (path : String) : Except AccessError String :=
  if store.isDenied path then .error (failure .permissionDenied path "permission denied")
  else match store.text? path with
    | some text => .ok text
    | none =>
      if store.isDirectory path then .error (failure .other path "is a directory")
      else .error (failure .notFound path "no such file or directory")

def reader (store : MemoryStore) : Reader Id where
  pathExists path := pure (store.pathExists path)
  readText path := pure (store.readText path)

end MemoryStore

end VrfPresence.FileSystem
