import VrfPresence.FileSystem.Basic
import VrfPresence.Path
import VrfPresence.Registry.Scan
import VrfPresence.Text.Quoted

/-!
# The probe (`vrf`, `error`)

The VRF module is loaded when its marker exists or the registry lists it (SPEC_FULL.md 4.1,
lines 88-108). The marker is asked for first; every answer but a clear yes, a failure included,
leads on to the registry. Only a registry that was read and does not list the module shows that
it is not loaded; when the registry cannot be read the probe is inconclusive. The probe is one
program over the answers of a file system, so what it asks and what it concludes do not depend
on who answers.
-/

namespace VrfPresence

open FileSystem

/-! ### Where modules are exposed -/

/-- The directory with one entry for each loaded module, and the registry of loaded modules
(`ModulePaths`, SPEC_FULL.md 3, line 58). -/
structure Locations where
  moduleDirectory : String := "/sys/module"
  registry : String := "/proc/modules"
  deriving DecidableEq, Repr

namespace Locations

/-- The places where the kernel exposes its modules. -/
def standard : Locations := {}

/-- The path that exists while the module is loaded (SPEC_FULL.md 3, line 54). -/
def marker (locations : Locations) (module : String) : String :=
  Path.join locations.moduleDirectory module

def same (a b : Locations) : Bool :=
  Path.same a.moduleDirectory b.moduleDirectory && Path.same a.registry b.registry

def describe (locations : Locations) : String :=
  "ModulePaths \x7b sys_module_dir: " ++ Text.quote locations.moduleDirectory ++
    ", proc_modules: " ++ Text.quote locations.registry ++ " \x7d"

end Locations

/-! ### Outcomes -/

/-- The module that VRF-scoped routing needs. -/
def vrfModule : String := "vrf"

/-- What showed that the module is loaded. -/
inductive Detection
  | marker
  | registry
  deriving DecidableEq, Repr

/-- Why the module was not found to be loaded (`VrfError`, SPEC_FULL.md 4.1, lines 101-104). -/
inductive ProbeFailure
  | inconclusive (cause : AccessError)
  | notLoaded
  deriving DecidableEq, Repr

abbrev Outcome := Except ProbeFailure Detection

/-- The probe did not get to know. -/
def ProbeFailure.isInconclusive : ProbeFailure → Bool
  | .inconclusive _ => true
  | .notLoaded => false

def ProbeFailure.message : ProbeFailure → String
  | .inconclusive cause => "unable to check kernel modules: " ++ cause.message
  | .notLoaded =>
    "VRF kernel module is not loaded. Please load it with 'modprobe vrf' or ensure it's " ++
      "configured to load at boot"

def Detection.title : Detection → String
  | .marker => "Marker"
  | .registry => "Registry"

/-! ### Probing -/

/-- What a registry that was read, or failed to be, says about the module. -/
def concludeFrom : Except AccessError String → Outcome
  | .error cause => .error (.inconclusive cause)
  | .ok registry =>
    if Registry.isListed registry vrfModule then .ok .registry else .error .notLoaded

/-- Asks for the marker, and for the registry unless the marker exists (`detect`, SPEC_FULL.md 4.1,
lines 88-99). -/
def detect {m : Type → Type} [Monad m] (fileSystem : Reader m) (locations : Locations) :
    m Outcome := do
  match ← fileSystem.pathExists (locations.marker vrfModule) with
  | .ok true => return .ok .marker
  | _ => return concludeFrom (← fileSystem.readText locations.registry)

/-- Only whether the module is loaded (`validate`, SPEC_FULL.md 4.1, lines 113-114). -/
def validate {m : Type → Type} [Monad m] (fileSystem : Reader m) (locations : Locations) :
    m (Except ProbeFailure Unit) := do
  return (← detect fileSystem locations).map fun _ => ()

/-! ### Probing in a task of its own -/

/-- What is said of a crash; the number of the task is left open. -/
def crashReport (crash : Crash) : String :=
  "task N panicked with message " ++ Text.quote crash.message

/-- A probe in a task whose file system may crash it. A crashed probe is inconclusive
(`detect_with`, SPEC_FULL.md 4.1, lines 116-118). -/
def detectInTask {m : Type → Type} [Monad m] (fileSystem : Reader (ExceptT Crash m))
    (locations : Locations) : m Outcome := do
  match ← (detect fileSystem locations).run with
  | .ok outcome => return outcome
  | .error crash => return .error (.inconclusive ⟨.other, crashReport crash⟩)

end VrfPresence
