import VrfPresence.Text.Blank
import VrfPresence.Text.Numeral

/-!
# Entries of the module registry (`kmod::registry`)

One line of the registry describes one loaded module in six columns and an optional seventh
(SPEC_FULL.md 3, lines 70-79):

    name size refcount dependents state address [taint]

The columns are the words of the line. They are read from left to right, and the first one
that is missing or does not read is the one reported (`EntryError`); words after the seventh
are ignored. `ModuleEntry.render` writes an entry with single spaces in a layout of choice.
-/

namespace VrfPresence.Registry

open Text

/-! ### Entries -/

/-- Where a module stands between loading and unloading. -/
inductive ModuleState
  | live
  | loading
  | unloading
  deriving DecidableEq, Repr

/-- What one line of the registry says of a module (SPEC_FULL.md 3, line 57). -/
structure ModuleEntry where
  name : String
  size : UInt64
  refcount : UInt32
  dependents : List String
  state : ModuleState
  address : UInt64
  taint : Option String
  deriving DecidableEq, Repr

inductive Column
  | name
  | size
  | refcount
  | dependents
  | state
  | address
  deriving DecidableEq, Repr

/-- Why a line is no entry (`RegistryError`, SPEC_FULL.md 4.3, lines 141-142). -/
inductive EntryError
  | missing (column : Column)
  | invalid (column : Column) (value : String)
  deriving DecidableEq, Repr

/-! ### Columns -/

/-- The place of a column in its line, counted from zero. -/
def Column.index : Column → Nat
  | .name => 0
  | .size => 1
  | .refcount => 2
  | .dependents => 3
  | .state => 4
  | .address => 5

def Column.title : Column → String
  | .name => "name"
  | .size => "size"
  | .refcount => "refcount"
  | .dependents => "dependents"
  | .state => "state"
  | .address => "address"

/-- The text of a column, by its place among the words of the line (`field`). -/
def Column.find (column : Column) (words : List String) : Except EntryError String :=
  match words[column.index]? with
  | some word => .ok word
  | none => .error (.missing column)

/-- The value of a column, by the reader of its values. -/
def Column.read {α : Type} (column : Column) (reader : String → Option α)
    (words : List String) : Except EntryError α :=
  match column.find words with
  | .error e => .error e
  | .ok word =>
    match reader word with
    | some value => .ok value
    | none => .error (.invalid column word)

def EntryError.message : EntryError → String
  | .missing column => "Missing required field: " ++ column.title
  | .invalid column value => "Invalid " ++ column.title ++ ": " ++ value

/-! ### Values -/

def ModuleState.text : ModuleState → String
  | .live => "Live"
  | .loading => "Loading"
  | .unloading => "Unloading"

def ModuleState.ofText? (word : String) : Option ModuleState :=
  [.live, .loading, .unloading].find? (·.text == word)

/-- Reads a state column on its own. -/
def ModuleState.parse (word : String) : Except EntryError ModuleState :=
  match ofText? word with
  | some state => .ok state
  | none => .error (.invalid .state word)

/-- A size: a decimal numeral of a 64-bit word. -/
def readSize? (word : String) : Option UInt64 :=
  (readUnsigned? 10 UInt64.size word.toList).map UInt64.ofNat

/-- A reference count: a decimal numeral of a 32-bit word, or a dash where none is kept. -/
def readRefcount? (word : String) : Option UInt32 :=
  if word = "-" then some 0
  else (readUnsigned? 10 UInt32.size word.toList).map UInt32.ofNat

/-- The modules that use a module: a dash for none, else a list in which every comma ends a
name and empty names do not count. -/
def readDependents (word : String) : List String :=
  if word = "-" then [] else (fields (· == ',') word.toList).map String.ofList

/-- An address: a hexadecimal numeral of a 64-bit word after `0x`. -/
def readAddress? (word : String) : Option UInt64 :=
  match word.toList with
  | '0' :: 'x' :: digits => (readUnsigned? 16 UInt64.size digits).map UInt64.ofNat
  | _ => none

/-- A taint: the word without the parentheses around it. -/
def readTaint (word : String) : String :=
  String.ofList ((word.toList.dropWhile (· == '(')).reverse.dropWhile (· == ')')).reverse

/-! ### Reading a line -/

def ModuleEntry.ofWords (words : List String) : Except EntryError ModuleEntry := do
  let name ← Column.name.read some words
  let size ← Column.size.read readSize? words
  let refcount ← Column.refcount.read readRefcount? words
  let dependents ← Column.dependents.read (some ∘ readDependents) words
  let state ← Column.state.read ModuleState.ofText? words
  let address ← Column.address.read readAddress? words
  return { name, size, refcount, dependents, state, address, taint := words[6]?.map readTaint }

/-- Reads a line (`from_str` of `ModuleEntry`, SPEC_FULL.md 4.3, line 141). -/
def ModuleEntry.parse (line : String) : Except EntryError ModuleEntry :=
  ofWords ((words line.toList).map String.ofList)

/-! ### Writing a line -/

/-- The choices that writing a line leaves open. -/
structure Layout where
  /-- A reference count of zero is a dash. -/
  dashForZero : Bool := false
  /-- The least number of digits of an address. -/
  addressWidth : Nat := 16
  /-- The letters among the digits of an address are capitals. -/
  capitalDigits : Bool := false

def Layout.addressDigits (layout : Layout) (address : UInt64) : List Char :=
  let digits := Nat.toDigits 16 address.toNat
  padZeros layout.addressWidth (if layout.capitalDigits then digits.map Char.toUpper else digits)

def ModuleEntry.toWords (layout : Layout) (entry : ModuleEntry) : List (List Char) :=
  [ entry.name.toList,
    Nat.toDigits 10 entry.size.toNat,
    if layout.dashForZero && entry.refcount == 0 then ['-']
      else Nat.toDigits 10 entry.refcount.toNat,
    if entry.dependents.isEmpty then ['-']
      else entry.dependents.flatMap fun dependent => dependent.toList ++ [','],
    entry.state.text.toList,
    '0' :: 'x' :: layout.addressDigits entry.address ] ++
  entry.taint.toList.map fun taint => '(' :: taint.toList ++ [')']

/-- An entry as a line, with single spaces between its words. -/
def ModuleEntry.render (layout : Layout) (entry : ModuleEntry) : String :=
  String.ofList (join [' '] (entry.toWords layout))

end VrfPresence.Registry
