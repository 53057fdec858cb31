import VrfPresence.Settings
import VrfPresence.Text.Terminal

/-!
# The command line (`vrfcheck`)

The options of the program (SPEC_FULL.md 4.5, line 163, and 10.3). Those that take a value are
written `--name value` or `--name=value`, and with a short letter `-x value`, `-xvalue` or
`-x=value`; flags share one dash with each other and with a last option. Two dashes end the
options. Arguments are read from left to right. A value in an argument of its own is looked at
when the next option or the end of the line comes, so that an argument which cannot belong to
the line is reported before it; any other value is looked at where it stands.
-/

namespace VrfPresence.CommandLine

/-! ### Options -/

inductive ValueOption
  | config
  | policy
  | moduleDirectory
  | registry
  deriving DecidableEq, Repr

inductive Flag
  | verbose
  | help
  | version
  deriving DecidableEq, Repr

inductive Switch
  | option (option : ValueOption)
  | flag (flag : Flag)
  deriving DecidableEq, Repr

structure Invocation where
  settingsFile : Option String := none
  settings : Settings := {}
  verbose : Bool := false
  deriving DecidableEq, Repr

inductive UsageError
  | unknownPolicy (unknown : Policy.Unknown)
  | missingValue (option : ValueOption)
  | unexpected (argument : String)
  | repeated (switch : Switch)
  | needlessValue (value : String) (flag : Flag)
  deriving DecidableEq, Repr

inductive Stop
  | help
  | version
  | usage (error : UsageError)
  deriving DecidableEq, Repr

/-! ### Names -/

/-- The name of an option behind its two dashes. -/
def Switch.name : Switch → String
  | .option .config => "config"
  | .option .policy => "policy"
  | .option .moduleDirectory => "sys-module-dir"
  | .option .registry => "proc-modules"
  | .flag .verbose => "verbose"
  | .flag .help => "help"
  | .flag .version => "version"

/-- The letter of an option behind its dash. -/
def Switch.letter? : Switch → Option Char
  | .option .config => some 'c'
  | .option .policy => some 'p'
  | .option .moduleDirectory => none
  | .option .registry => none
  | .flag .verbose => some 'v'
  | .flag .help => some 'h'
  | .flag .version => some 'V'

def Switch.all : List Switch :=
  [.option .config, .option .policy, .option .moduleDirectory, .option .registry,
    .flag .verbose, .flag .help, .flag .version]

def Switch.ofName? (name : List Char) : Option Switch := all.find? (·.name.toList == name)

def Switch.ofLetter? (letter : Char) : Option Switch := all.find? (·.letter? == some letter)

/-- What stands for the value of an option in messages. -/
def ValueOption.placeholder : ValueOption → String
  | .config => "<CONFIG>"
  | .policy => "<POLICY>"
  | .moduleDirectory => "<SYS_MODULE_DIR>"
  | .registry => "<PROC_MODULES>"

def Switch.display : Switch → String
  | .option wanted => "--" ++ (Switch.option wanted).name ++ " " ++ wanted.placeholder
  | .flag raised => "--" ++ (Switch.flag raised).name

/-- The message about a refused command line. What it repeats of the line is repeated without
terminal controls. -/
def UsageError.message : UsageError → String
  | .unknownPolicy unknown =>
    "error: invalid value '" ++ Text.visible unknown.text ++ "' for '" ++
      (Switch.option .policy).display ++ "': " ++ unknown.message
  | .missingValue option =>
    "error: a value is required for '" ++ (Switch.option option).display ++
      "' but none was supplied"
  | .unexpected argument => "error: unexpected argument '" ++ Text.visible argument ++ "' found"
  | .repeated switch =>
    "error: the argument '" ++ switch.display ++ "' cannot be used multiple times"
  | .needlessValue value flag =>
    "error: unexpected value '" ++ Text.visible value ++ "' for '" ++ (Switch.flag flag).display ++
      "' found; no more were expected"

/-! ### Giving values -/

/-- A path value, which must not be empty. -/
def pathValue (option : ValueOption) (value : String) : Except UsageError String :=
  if value = "" then .error (.missingValue option) else .ok value

def policyValue (value : String) : Except UsageError Policy :=
  match Policy.parse value with
  | .ok policy => .ok policy
  | .error unknown => .error (.unknownPolicy unknown)

namespace Invocation

def has (given : Invocation) : ValueOption → Bool
  | .config => given.settingsFile.isSome
  | .policy => given.settings.policy.isSome
  | .moduleDirectory => given.settings.moduleDirectory.isSome
  | .registry => given.settings.registry.isSome

def set (given : Invocation) (value : String) : ValueOption → Except UsageError Invocation
  | .config => do return { given with settingsFile := some (← pathValue .config value) }
  | .policy => do
    return { given with settings.policy := some (← policyValue value) }
  | .moduleDirectory => do
    return { given with settings.moduleDirectory := some (← pathValue .moduleDirectory value) }
  | .registry => do
    return { given with settings.registry := some (← pathValue .registry value) }

/-- Gives an option its value, at most once. -/
def give (given : Invocation) (option : ValueOption) (value : String) :
    Except UsageError Invocation :=
  if given.has option then .error (.repeated (.option option)) else given.set value option

end Invocation

/-! ### Reading arguments -/

/-- How far the reading has got: what was given, and the option whose value stands in an
argument of its own, with that value once it was met. -/
structure Progress where
  given : Invocation := {}
  awaiting : Option (ValueOption × Option String) := none
  deriving DecidableEq, Repr

namespace Progress

/-- Looks at the value of the last option. -/
def settle (progress : Progress) : Except UsageError Invocation :=
  match progress.awaiting with
  | none => .ok progress.given
  | some (option, none) => .error (.missingValue option)
  | some (option, some value) => progress.given.give option value

def raise (progress : Progress) (flag : Flag) : Except Stop Progress := do
  let given ← progress.settle.mapError .usage
  match flag with
  | .help => throw .help
  | .version => throw .version
  | .verbose =>
    if given.verbose then throw (.usage (.repeated (.flag .verbose)))
    return { given := { given with verbose := true } }

def attach (progress : Progress) (option : ValueOption) (value : List Char) :
    Except Stop Progress := do
  let given ← progress.settle.mapError .usage
  let given ← (given.give option (String.ofList value)).mapError .usage
  return { given }

def await (progress : Progress) (option : ValueOption) : Except Stop Progress := do
  let given ← progress.settle.mapError .usage
  return { given, awaiting := some (option, none) }

def takePlain (progress : Progress) (argument : String) : Except Stop Progress :=
  match progress.awaiting with
  | some (option, none) => .ok { progress with awaiting := some (option, some argument) }
  | _ => .error (.usage (.unexpected argument))

/-- Meets a name behind two dashes, and a value behind an equals sign. -/
def takeLong (progress : Progress) (name : List Char) (value : Option (List Char)) :
    Except Stop Progress :=
  match Switch.ofName? name, value with
  | none, _ => .error (.usage (.unexpected ("--" ++ String.ofList name)))
  | some (.option option), some value => progress.attach option value
  | some (.option option), none => progress.await option
  | some (.flag flag), some value =>
    .error (.usage (.needlessValue (String.ofList value) flag))
  | some (.flag flag), none => progress.raise flag

def takeLetters (progress : Progress) : List Char → Except Stop Progress
  | [] => .ok progress
  | letter :: rest =>
    match Switch.ofLetter? letter with
    | none => .error (.usage (.unexpected (String.ofList ['-', letter])))
    | some (.flag flag) => do takeLetters (← progress.raise flag) rest
    | some (.option option) =>
      match rest with
      | [] => progress.await option
      | '=' :: value => progress.attach option value
      | value => progress.attach option value

end Progress

/-- A text before its first equals sign, and what stands behind that. -/
def splitEquals (text : List Char) : List Char × Option (List Char) :=
  (text.takeWhile (· ≠ '='), (text.dropWhile (· ≠ '=')).tail?)

def readFrom (progress : Progress) : List String → Except Stop Invocation
  | [] => progress.settle.mapError .usage
  | argument :: rest => do
    match argument.toList with
    | ['-', '-'] =>
      match rest with
      | [] => progress.settle.mapError .usage
      | stray :: _ => throw (.usage (.unexpected stray))
    | '-' :: '-' :: text =>
      let (name, value) := splitEquals text
      readFrom (← progress.takeLong name value) rest
    | '-' :: letter :: letters => readFrom (← progress.takeLetters (letter :: letters)) rest
    | _ => readFrom (← progress.takePlain argument) rest

def read (arguments : List String) : Except Stop Invocation := readFrom {} arguments

/-! ### Texts -/

def helpText : String :=
  "Usage: vrfcheck [OPTIONS]\n\nOptions:\n" ++
  "  -c, --config <CONFIG>                  \n" ++
  "  -p, --policy <POLICY>                  strict, lenient or warn\n" ++
  "      --sys-module-dir <SYS_MODULE_DIR>  \n" ++
  "      --proc-modules <PROC_MODULES>      \n" ++
  "  -v, --verbose                          Log the registry entry of the module\n" ++
  "  -h, --help                             Print help\n" ++
  "  -V, --version                          Print version\n"

def versionText : String := "vrfcheck 0.1.0\n"

end VrfPresence.CommandLine
