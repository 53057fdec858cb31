import VrfPresence.Proofs.Probe.Answers
import VrfPresence.Run

/-!
# Runs on a file system that answers at once

On such a file system, a tree, a store or any other, a run is a plain report. There are three
kinds of runs, each with its equation: those that the command line stops, those that get no
settings from their file, and those that probe by settings. What is at the absolute paths of the
default locations is for the file system to say, as it is for any other path.
-/

namespace VrfPresence

open FileSystem

def runOn (reader : Reader Id) (filter : Log.Filter) (arguments : List String) : Report :=
  Id.run (run reader filter arguments)

def settingsOn (reader : Reader Id) (path : String) : Except SettingsError Settings :=
  Id.run (Settings.read reader path)

def detectOn (reader : Reader Id) (locations : Locations) : Outcome :=
  Id.run (detect reader locations)

/-- What a run by some settings decides. -/
def verdictOn (reader : Reader Id) (settings : Settings) : Verdict :=
  settings.effectivePolicy.apply (detectOn reader settings.locations)

/-- What a run by some settings has to log. -/
def recordsOn (reader : Reader Id) (settings : Settings) (verbose : Bool) : List Log.Record :=
  (Id.run (startup reader settings verbose)).2

/-! ### Settings and probes -/

theorem read_eq_pure (reader : Reader Id) (path : String) :
    Settings.read reader path = pure (settingsOn reader path) := rfl

theorem detect_eq_pure (reader : Reader Id) (locations : Locations) :
    detect reader locations = pure (detectOn reader locations) := rfl

theorem settingsOn_eq (reader : Reader Id) (path : String) : settingsOn reader path =
    match (reader.readText path).run with
    | .ok source => Settings.parse source
    | .error cause => .error (.unreadable path cause) := by
  have hread : reader.readText path = pure (reader.readText path).run := rfl
  unfold settingsOn Settings.read
  rw [hread, pure_bind]
  cases (reader.readText path).run <;> rfl

theorem settingsOn_of_text {reader : Reader Id} {path source : String}
    (h : (reader.readText path).run = .ok source) :
    settingsOn reader path = Settings.parse source := by
  rw [settingsOn_eq, h]

theorem detectOn_of_marker {reader : Reader Id} {locations : Locations}
    (h : (reader.pathExists (locations.marker vrfModule)).run = .ok true) :
    detectOn reader locations = .ok .marker :=
  (detect_run reader locations).trans (if_pos h)

theorem detectOn_of_not_marker {reader : Reader Id} {locations : Locations}
    (h : (reader.pathExists (locations.marker vrfModule)).run ≠ .ok true) :
    detectOn reader locations = concludeFrom (reader.readText locations.registry).run :=
  (detect_run reader locations).trans (if_neg h)

theorem loadOn_of_error {reader : Reader Id} {invocation : CommandLine.Invocation} {path : String}
    {error : SettingsError} (hp : invocation.settingsFile = some path)
    (he : settingsOn reader path = .error error) :
    Id.run (invocation.load reader) = .error (path, error) := by
  unfold CommandLine.Invocation.load
  simp only [hp]
  rw [read_eq_pure, he]
  rfl

/-- The settings of the file that an invocation names, and none where it names no file. -/
def FileSettings (reader : Reader Id) (invocation : CommandLine.Invocation) (file : Settings) :
    Prop :=
  match invocation.settingsFile with
  | none => file = {}
  | some path => settingsOn reader path = .ok file

theorem Settings.orElse_empty (settings : Settings) : settings.orElse {} = settings := by
  simp [Settings.orElse]

theorem loadOn_of_settings {reader : Reader Id} {invocation : CommandLine.Invocation}
    {file : Settings} (h : FileSettings reader invocation file) :
    Id.run (invocation.load reader) = .ok (invocation.settings.orElse file) := by
  unfold FileSettings at h
  unfold CommandLine.Invocation.load
  cases hp : invocation.settingsFile with
  | none =>
    rw [hp] at h
    rw [h, Settings.orElse_empty]
    rfl
  | some path =>
    rw [hp] at h
    simp only
    rw [read_eq_pure, h]
    rfl

theorem startupOn_eq (reader : Reader Id) (settings : Settings) (verbose : Bool) :
    Id.run (startup reader settings verbose) =
      (verdictOn reader settings, recordsOn reader settings verbose) := by
  have hv : (Id.run (startup reader settings verbose)).1 = verdictOn reader settings := by
    unfold startup
    rw [detect_eq_pure, pure_bind]
    simp only
    split <;> rfl
  exact Prod.ext hv rfl

/-- What a run has to log of the entry of the module, if it is asked to: nothing, unless it goes
on. -/
def entryOn (reader : Reader Id) (settings : Settings) : Option Log.Record :=
  match verdictOn reader settings with
  | .proceed _ =>
    some (entryRecord settings.locations.registry (reader.readText settings.locations.registry).run)
  | .degrade _ => none
  | .abort _ => none

theorem recordsOn_eq (reader : Reader Id) (settings : Settings) (verbose : Bool) :
    recordsOn reader settings verbose =
      [startRecord settings, (verdictOn reader settings).record] ++
        if verbose then (entryOn reader settings).toList else [] := by
  unfold recordsOn startup entryOn verdictOn
  simp only [detect_eq_pure, pure_bind]
  generalize settings.effectivePolicy.apply (detectOn reader settings.locations) = verdict
  cases verdict <;> cases verbose <;> rfl

/-- An accepted line leads to settings, or has a settings file that gives none. -/
theorem settings_cases (reader : Reader Id) (invocation : CommandLine.Invocation) :
    (∃ path error, invocation.settingsFile = some path ∧
      settingsOn reader path = .error error) ∨ ∃ file, FileSettings reader invocation file := by
  cases hp : invocation.settingsFile with
  | none =>
    refine .inr ⟨{}, ?_⟩
    rw [FileSettings, hp]
  | some path =>
    cases hs : settingsOn reader path with
    | error error => exact .inl ⟨path, error, rfl, hs⟩
    | ok file =>
      refine .inr ⟨file, ?_⟩
      rw [FileSettings, hp]
      exact hs

/-! ### The three kinds of runs -/

variable (reader : Reader Id) (filter : Log.Filter) {arguments : List String}

theorem runOn_of_stop {stop : CommandLine.Stop} (h : CommandLine.read arguments = .error stop) :
    runOn reader filter arguments = stop.report := by
  rw [runOn, run, h]
  rfl

theorem runOn_of_refused {invocation : CommandLine.Invocation} {path : String}
    {error : SettingsError} (h : CommandLine.read arguments = .ok invocation)
    (hp : invocation.settingsFile = some path) (he : settingsOn reader path = .error error) :
    runOn reader filter arguments = settingsReport path error := by
  have hl := loadOn_of_error hp he
  rw [runOn, run, h]
  simp only [Id.run] at hl ⊢
  simp only [bind, hl]
  rfl

theorem runOn_of_settings {invocation : CommandLine.Invocation} {file : Settings}
    (h : CommandLine.read arguments = .ok invocation) (hf : FileSettings reader invocation file) :
    runOn reader filter arguments =
      ⟨(verdictOn reader (invocation.settings.orElse file)).exitCode, "",
        Log.write filter
          (recordsOn reader (invocation.settings.orElse file) invocation.verbose)⟩ := by
  have hl := loadOn_of_settings hf
  have hs := startupOn_eq reader (invocation.settings.orElse file) invocation.verbose
  rw [runOn, run, h]
  simp only [Id.run] at hl hs ⊢
  simp only [bind, hl, hs]
  rfl

end VrfPresence
