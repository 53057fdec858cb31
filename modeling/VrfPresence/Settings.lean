import VrfPresence.Policy
import VrfPresence.Toml.Survey

/-!
# Settings (`config`)

The settings of the program: a policy and the two locations, each of which may be left out.
In a settings file they are three keys of a TOML document (SPEC_FULL.md 6, lines 187-192); all
other keys and sections are passed over. Fields are read in the order of the source, pairs
before sections, each at most once. A location that is set must not be empty.
-/

namespace VrfPresence

open FileSystem

/-- What a settings file may choose. -/
structure Settings where
  policy : Option Policy := none
  moduleDirectory : Option String := none
  registry : Option String := none
  deriving DecidableEq, Repr

inductive Field
  | policy
  | moduleDirectory
  | registry
  deriving DecidableEq, Repr

/-- Why a value does not fit its field. -/
inductive Misfit
  | unknownPolicy (text : String)
  | policyKind (kind : String)
  | policyCount (several : Bool)
  | policyContent
  | policyContentKind (kind : String)
  | policyAmongTables
  | pathKind (described : String)
  deriving DecidableEq, Repr

/-- Why a source gives no settings, and the offset it is reported at. -/
inductive Problem
  | document (fault : Toml.Fault)
  | fieldTwice (field : Field) (offset : Nat)
  | misfit (field : Field) (reason : Misfit) (offset : Nat)
  deriving DecidableEq, Repr

/-- Why there are no settings (`ConfigError`). -/
inductive SettingsError
  | unreadable (path : String) (cause : AccessError)
  | malformed (source : String) (problem : Problem)
  | emptyPath (field : Field)
  deriving DecidableEq, Repr

/-! ### Messages -/

def Field.key : Field → String
  | .policy => "policy"
  | .moduleDirectory => "sys_module_dir"
  | .registry => "proc_modules"

def Field.ofKey? (key : String) : Option Field :=
  [.policy, .moduleDirectory, .registry].find? (·.key == key)

def Misfit.describe : Misfit → String
  | .unknownPolicy text =>
    "unknown variant " ++ Toml.backquoted text ++ ", expected one of " ++
      ", ".intercalate (Policy.all.map (Toml.backquoted ·.name))
  | .policyKind kind => "expected string or inline table, found " ++ kind
  | .policyCount several =>
    "expected exactly 1 element, found " ++
      if several then "more than 1 element" else "zero elements"
  | .policyContent => "expected empty table"
  | .policyContentKind kind => "expected table, found " ++ kind
  | .policyAmongTables => "enum table must contain exactly one table"
  | .pathKind described => "invalid type: " ++ described ++ ", expected path string"

def Problem.message (source : String) : Problem → String
  | .document fault => fault.message source
  | .fieldTwice field offset =>
    Toml.locateMessage source ("duplicate field " ++ Toml.backquoted field.key) [] offset
  | .misfit field reason offset =>
    Toml.locateMessage source reason.describe [field.key] offset

def SettingsError.message : SettingsError → String
  | .unreadable path cause => "Failed to read config " ++ path ++ ": " ++ cause.message
  | .malformed source problem => "Failed to parse config: " ++ problem.message source
  | .emptyPath field => "Invalid configuration: " ++ field.key ++ " is empty"

/-- The message of what the error comes from, where it comes from another one. -/
def SettingsError.origin? : SettingsError → Option String
  | .unreadable _ cause => some cause.message
  | .malformed source problem => some (problem.message source)
  | .emptyPath _ => none

/-! ### Values of fields -/

/-- A value as messages about paths describe it. -/
def describeValue : Toml.Value → String
  | .integer value => "integer " ++ Toml.backquoted (toString value)
  | .float value => "floating point " ++ Toml.backquoted value.text
  | .boolean value => "boolean " ++ Toml.backquoted (toString value)
  | .string text => "string " ++ Text.quote text
  | .array _ => "sequence"
  | .datetime => "map"
  | .table _ _ => "map"

/-- The policy that a name in a source stands for; an unknown name is reported at `tail`. -/
def readPolicyName (tail : Nat) (name : String) : Except Problem Policy :=
  match Policy.ofName? name with
  | some policy => .ok policy
  | none => .error (.misfit .policy (.unknownPolicy name) tail)

/-- A policy value: its name, or a table that has the name as its only key with an empty table
below it. -/
def readPolicy (tail : Nat) (value : Toml.Placed Toml.Value) : Except Problem Policy :=
  match value.item with
  | .string text => readPolicyName tail text
  | .table false [(name, content)] => do
    let policy ← readPolicyName tail name
    match content.item with
    | .table _ [] => return policy
    | .table _ _ => throw (.misfit .policy .policyContent content.offset)
    | other => throw (.misfit .policy (.policyContentKind other.kind) content.offset)
  | .table false pairs =>
    .error (.misfit .policy (.policyCount (pairs ≠ [])) value.offset)
  | other => .error (.misfit .policy (.policyKind other.kind) value.offset)

/-- A path value: a string. Arrays are reported at `tail`, other values where they stand. -/
def readPath (field : Field) (tail : Nat) (value : Toml.Placed Toml.Value) :
    Except Problem String :=
  match value.item with
  | .string text => .ok text
  | .array items => .error (.misfit field (.pathKind (describeValue (.array items))) tail)
  | other => .error (.misfit field (.pathKind (describeValue other)) value.offset)

/-! ### Reading a document -/

namespace Settings

def has (settings : Settings) : Field → Bool
  | .policy => settings.policy.isSome
  | .moduleDirectory => settings.moduleDirectory.isSome
  | .registry => settings.registry.isSome

def set (settings : Settings) (tail : Nat) (value : Toml.Placed Toml.Value) :
    Field → Except Problem Settings
  | .policy => do return { settings with policy := some (← readPolicy tail value) }
  | .moduleDirectory => do
    return { settings with moduleDirectory := some (← readPath .moduleDirectory tail value) }
  | .registry => do return { settings with registry := some (← readPath .registry tail value) }

def takePair (tail : Nat) (settings : Settings) (pair : Toml.Pair) : Except Problem Settings :=
  match Field.ofKey? pair.1 with
  | none => .ok settings
  | some field =>
    if settings.has field then .error (.fieldTwice field tail)
    else settings.set tail pair.2 field

/-- Sets a field from sections below its key. Only a policy can be given so, in a document
with no other table: the last part of the header is its name, and no pairs are below it. -/
def setFromSections (settings : Settings) (tables tail : Nat) (first : Toml.Section) :
    Field → Except Problem Settings
  | .policy => do
    if tables ≠ 1 then throw (.misfit .policy .policyAmongTables 0)
    let policy ← readPolicyName tail (first.path.getLast?.getD "")
    if first.pairs ≠ [] then throw (.misfit .policy .policyContent 0)
    return { settings with policy := some policy }
  | field =>
    .error (.misfit field
      (.pathKind (if first.isArray ∧ first.path.length = 1 then "sequence" else "map")) tail)

/-- Takes the sections that share the first part of their headers. -/
def takeSections (tables tail : Nat) (settings : Settings)
    (group : String × List Toml.Section) : Except Problem Settings :=
  match Field.ofKey? group.1, group.2 with
  | some field, first :: _ =>
    if settings.has field then .error (.fieldTwice field tail)
    else settings.setFromSections tables tail first field
  | _, sections =>
    match Toml.surveySections group.1 sections with
    | .ok _ => .ok settings
    | .error fault => .error (.document fault)

/-- Sections grouped by the first part of their headers, in the order of first appearance. -/
def groupSections (sections : List Toml.Section) : List (String × List Toml.Section) :=
  let key (header : Toml.Section) : String := header.path.head?.getD ""
  (sections.map key).eraseDups.map fun name => (name, sections.filter (key · == name))

def ofDocument (document : Toml.Document) : Except Problem Settings := do
  let tail := (document.sections.getLast?.map (·.offset)).getD 0
  let tables := document.sections.length + if document.root = [] then 0 else 1
  let settings ← document.root.foldlM (takePair tail) {}
  (groupSections document.sections).foldlM (takeSections tables tail) settings

/-- The settings in a source, not yet checked. -/
def ofSource (source : String) : Except Problem Settings :=
  match Toml.Document.parse source with
  | .ok document => ofDocument document
  | .error fault => .error (.document fault)

/-- Refuses locations that are set and empty (`check`). -/
def check (settings : Settings) : Except SettingsError Settings :=
  if settings.moduleDirectory = some "" then .error (.emptyPath .moduleDirectory)
  else if settings.registry = some "" then .error (.emptyPath .registry)
  else .ok settings

/-- The settings in a source (`parse_config`). -/
def parse (source : String) : Except SettingsError Settings :=
  match ofSource source with
  | .ok settings => settings.check
  | .error problem => .error (.malformed source problem)

/-- The settings in a file (`read_config`). -/
def read {m : Type → Type} [Monad m] (fileSystem : Reader m) (path : String) :
    m (Except SettingsError Settings) := do
  match ← fileSystem.readText path with
  | .ok source => return parse source
  | .error cause => return .error (.unreadable path cause)

/-! ### Using settings -/

/-- The settings, with what they leave out taken from others. -/
def orElse (settings others : Settings) : Settings where
  policy := settings.policy.or others.policy
  moduleDirectory := settings.moduleDirectory.or others.moduleDirectory
  registry := settings.registry.or others.registry

def effectivePolicy (settings : Settings) : Policy := settings.policy.getD .standard

def locations (settings : Settings) : Locations where
  moduleDirectory := settings.moduleDirectory.getD Locations.standard.moduleDirectory
  registry := settings.registry.getD Locations.standard.registry

end Settings

end VrfPresence
