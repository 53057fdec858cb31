import VrfPresence.Toml.Grammar

/-!
# Documents

A document is the pairs before its first header, and then its sections: each a header, single
or double bracketed, with the pairs below it. Reading takes line after line.
-/

namespace VrfPresence.Toml

/-- A header, the offset of its first bracket, and the pairs below it. Headers in double
brackets make arrays of tables. -/
structure Section where
  offset : Nat
  path : List String
  isArray : Bool
  pairs : List Pair

/-- The pairs before the first header, and the sections. -/
structure Document where
  root : List Pair
  sections : List Section

/-- A line with a key and a value, added to the pairs before it. -/
def readPairLine (pairs : List Pair) : Reading (List Pair) := do
  let keys ← readKeys
  skipBlank
  expect .equals
  skipBlank
  let value ← nextValue
  closeLine
  insert keys value pairs

/-- The pairs up to the next header or the end (`fuel` bounds their number). -/
def readPairLines : (fuel : Nat) → List Pair → Reading (List Pair)
  | 0, pairs => return pairs
  | fuel + 1, pairs => do
    skipLines
    match ← peek with
    | none => return pairs
    | some .leftBracket => return pairs
    | some _ => readPairLines fuel (← readPairLine pairs)

def readHeader : Reading Section := do
  let offset ← here
  expect .leftBracket
  let isArray ← eat .leftBracket
  skipBlank
  let path ← readKeys
  expect .rightBracket
  if isArray then expect .rightBracket
  closeLine
  return { offset, path, isArray, pairs := [] }

/-- The sections up to the end (`fuel` bounds their number). -/
def readSections : (fuel : Nat) → Reading (List Section)
  | 0 => return []
  | fuel + 1 => do
    match ← peek with
    | none => return []
    | some _ =>
      let header ← readHeader
      let pairs ← readPairLines ((← get).count + 1) []
      return { header with pairs } :: (← readSections fuel)

def Document.parse (source : String) : Except Fault Document := do
  let tokens := Tokens.ofSource source
  let (document, _) ← reader.run tokens
  return document
where
  reader : Reading Document := do
    let root ← readPairLines ((← get).count + 1) []
    let sections ← readSections ((← get).count + 1)
    return { root, sections }

end VrfPresence.Toml
