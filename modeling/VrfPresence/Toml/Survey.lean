import VrfPresence.Toml.Document

/-!
# Sections that are not read

Sections of no interest must still fit together: below one key, a table may have one header
only, a header in double brackets cannot come after headers below it, while repeated headers
in double brackets are the elements of an array, each with the sections that follow it up to
the next. The sections are taken in the order of the source, those with a common next key
together.
-/

namespace VrfPresence.Toml

/-- A section, and what is left of its path at some level. -/
structure Pending where
  rest : List String
  header : Section

def Pending.down (pending : Pending) : Pending := { pending with rest := pending.rest.tail }

/-- The header is the last of its path, in double brackets: an element of an array begins. -/
def Pending.beginsElement (pending : Pending) : Bool :=
  pending.header.isArray && pending.rest.length == 1

/-- The sections before the first element, and those behind the header of each element. -/
def splitElements : List Pending → List Pending × List (List Pending)
  | [] => ([], [])
  | pending :: more =>
    let (before, elements) := splitElements more
    if pending.beginsElement then ([], before :: elements) else (pending :: before, elements)

/-- A fault that concerns something below a key. -/
def Fault.below (key : String) (fault : Fault) : Fault := { fault with key := key :: fault.key }

/-- Looks over sections with a common next key; `level` looks over one level below it, where
the table itself has been read or not. -/
def surveyGroup (level : Bool → List Pending → Except Fault Unit) (group : List Pending) :
    Except Fault Unit :=
  if group.head?.any (·.beginsElement) then
    (splitElements group).2.forM fun element => level true (element.map (·.down))
  else level false (group.map (·.down))

/-- Looks over the sections of one level; `read` says that the table of this level was read
(`fuel` bounds the recursion). -/
def surveyLevel : (fuel : Nat) → (read : Bool) → List Pending → Except Fault Unit
  | 0, _, _ => .ok ()
  | _, _, [] => .ok ()
  | fuel + 1, read, pending :: more =>
    match pending.rest with
    | [] =>
      if read then
        .error ⟨.tableAgain (".".intercalate pending.header.path), pending.header.offset, []⟩
      else if pending.header.isArray then .error ⟨.tableAsArray, pending.header.offset, []⟩
      else surveyLevel fuel true more
    | key :: _ => do
      let (group, others) := (pending :: more).partition (·.rest.head? == some key)
      (surveyGroup (surveyLevel fuel) group).mapError (Fault.below key)
      surveyLevel fuel read others

/-- Looks over the sections below one key of the document. -/
def surveySections (key : String) (sections : List Section) : Except Fault Unit :=
  let group := sections.map fun header => Pending.mk header.path header
  let fuel := sections.foldr (fun header fuel => header.path.length + 1 + fuel) 1
  (surveyGroup (surveyLevel fuel) group).mapError (Fault.below key)

end VrfPresence.Toml
