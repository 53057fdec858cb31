import VrfPresence.Registry.Entry

/-!
# Scanning the module registry (`kmod::registry`)

The registry has one line for each loaded module. `isListed` decides presence from the raw
lines: the name at the very start of a line and the separating space right after it, so that
a longer name never counts for a shorter one and a malformed line still counts for its name.
`entries` and `find` read the lines in full. All three go line by line.
-/

namespace VrfPresence.Registry

open Text

def lineNames (name line : List Char) : Bool := (name ++ [' ']).isPrefixOf line

/-- Some line of the registry names the module in its first column (`is_listed`, SPEC_FULL.md 4.3,
lines 139-140). -/
def isListed (registry module : String) : Bool :=
  (lines registry.toList).any (lineNames module.toList)

/-- What each line of the registry says, blank lines left out (`entries`, SPEC_FULL.md 4.3,
line 143). -/
def entries (registry : String) : List (Except EntryError ModuleEntry) :=
  ((lines registry.toList).filter (!isBlankLine ·)).map (ModuleEntry.parse ∘ String.ofList)

/-- The first well-formed entry of the module (`find`, SPEC_FULL.md 4.3, lines 144-145). -/
def find (registry module : String) : Option ModuleEntry :=
  ((entries registry).filterMap Except.toOption).find? (·.name == module)

end VrfPresence.Registry
