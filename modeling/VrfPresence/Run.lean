import VrfPresence.CommandLine
import VrfPresence.Log

/-!
# A run of the program (`vrfcheck`)

The command line is read first, then the settings file it names; what the command line gives
goes before what the file gives, field by field. The probe is run, the policy passes its
verdict, and the log tells of it. With a detection, a verbose run also logs the entry of the
module in the registry, which decides nothing. A run depends on the machine only by the
answers of a file system (SPEC_FULL.md 4.5, lines 161-170).
-/

namespace VrfPresence

open FileSystem

structure Report where
  code : UInt8
  stdout : String
  stderr : List String
  deriving DecidableEq, Repr

/-! ### Runs that end early -/

/-- The report of a command line that is not carried out; of an error, its first line. -/
def CommandLine.Stop.report : CommandLine.Stop → Report
  | .help => ⟨0, CommandLine.helpText, []⟩
  | .version => ⟨0, CommandLine.versionText, []⟩
  | .usage error => ⟨2, "", ((Text.lines error.message.toList).take 1).map String.ofList⟩

/-- The lines about an error and what it comes from; two are numbered, a single one is not. -/
def causeLines (error : SettingsError) : List String :=
  match error.origin? with
  | none => Text.hanging "    " "    " error.message
  | some origin =>
    Text.hanging "    0: " "       " error.message ++ Text.hanging "    1: " "       " origin

/-- The report of a run whose settings file gives no settings. -/
def settingsReport (path : String) (error : SettingsError) : Report :=
  ⟨1, "", Text.hanging "Error: loading " "" path ++ ["", "Caused by:"] ++ causeLines error⟩

/-! ### Records -/

/-- The record of what the run goes by. -/
def startRecord (settings : Settings) : Log.Record :=
  ⟨.debug, "policy " ++ settings.effectivePolicy.name ++ " with " ++ settings.locations.describe⟩

def Verdict.record : Verdict → Log.Record
  | .proceed detection => ⟨.info, "VRF kernel module loaded (" ++ detection.title ++ " probe)"⟩
  | .degrade failure => ⟨.warn, failure.message ++ "; VRF-scoped features disabled"⟩
  | .abort failure => ⟨.error, failure.message⟩

/-- The record of the entry of the module, by what was read at the path (`log_entry`, SPEC_FULL.md
4.5, line 167). -/
def entryRecord (path : String) : Except AccessError String → Log.Record
  | .error cause => ⟨.debug, "cannot read " ++ path ++ ": " ++ cause.message⟩
  | .ok registry =>
    match Registry.find registry vrfModule with
    | some entry =>
      ⟨.info, entry.name ++ ": size " ++ toString entry.size.toNat ++ " refcount " ++
        toString entry.refcount.toNat ++ " state " ++ entry.state.text ++ " used by [" ++
        ", ".intercalate entry.dependents ++ "]"⟩
    | none => ⟨.debug, vrfModule ++ " not listed in " ++ path⟩

/-! ### The run -/

section

variable {m : Type → Type} [Monad m]

/-- The settings of an invocation: its own, and behind them those of its settings file. -/
def CommandLine.Invocation.load (fileSystem : Reader m) (invocation : CommandLine.Invocation) :
    m (Except (String × SettingsError) Settings) := do
  match invocation.settingsFile with
  | none => return .ok invocation.settings
  | some path =>
    match ← Settings.read fileSystem path with
    | .ok settings => return .ok (invocation.settings.orElse settings)
    | .error error => return .error (path, error)

/-- Probes by the settings: the verdict and all records of it. -/
def startup (fileSystem : Reader m) (settings : Settings) (verbose : Bool) :
    m (Verdict × List Log.Record) := do
  let outcome ← detect fileSystem settings.locations
  let verdict := settings.effectivePolicy.apply outcome
  let records := [startRecord settings, verdict.record]
  match verdict, verbose with
  | .proceed _, true =>
    let path := settings.locations.registry
    return (verdict, records ++ [entryRecord path (← fileSystem.readText path)])
  | _, _ => return (verdict, records)

def run (fileSystem : Reader m) (filter : Log.Filter) (arguments : List String) : m Report := do
  match CommandLine.read arguments with
  | .error stop => return stop.report
  | .ok invocation =>
    match ← invocation.load fileSystem with
    | .error (path, error) => return settingsReport path error
    | .ok settings =>
      let (verdict, records) ← startup fileSystem settings invocation.verbose
      return ⟨verdict.exitCode, "", Log.write filter records⟩

end

end VrfPresence
