import VrfPresence.FileSystem.MemoryStore
import VrfPresence.Proofs.CommandLine.Given
import VrfPresence.Proofs.FileSystem.Asking
import VrfPresence.Proofs.Path.Joined
import VrfPresence.Proofs.Run.OnReader
import VrfPresence.Proofs.Settings.Checked
import VrfPresence.Proofs.Settings.FlatDocument

/-!
# The paths of a run

A location comes from a source, from the command line or from the defaults, and in none of them
is it empty. So no run, whatever the answers, asks a file system for the empty path, or for the
name of the module alone in the place of its marker.
-/

namespace VrfPresence

open FileSystem

namespace FileSystem

/-- A run on a script: its report, unless it crashed, and its calls. -/
def Script.report (script : Script) (filter : Log.Filter) (arguments : List String) :
    Except Crash Report × List Call :=
  ((run script.reader filter arguments).run.run []).run

/-- A marker is looked for in a directory, and only files are read. -/
def Call.IsPlaced : Call → Prop
  | .pathExists path =>
    path ≠ vrfModule ∧ ∃ directory, directory ≠ "" ∧ path = Path.join directory vrfModule
  | .readText path => path ≠ ""

end FileSystem

theorem Locations.marker_ne {locations : Locations} (h : locations.moduleDirectory ≠ "") :
    locations.marker vrfModule ≠ vrfModule :=
  fun he => h ((Path.join_eq_name_iff (by decide)).1 he)

/-! ### Settings -/

theorem Settings.checked_of_line {arguments : List String} {invocation : CommandLine.Invocation}
    (h : CommandLine.read arguments = .ok invocation) : invocation.settings.Checked := by
  obtain ⟨hn, -⟩ := CommandLine.read_iff_gives.1 h
  obtain ⟨-, hdirectory, hregistry⟩ := invocation.proper_iff.1 hn
  exact ⟨hdirectory, hregistry⟩

theorem FileSettings.checked {reader : Reader Id} {invocation : CommandLine.Invocation}
    {file : Settings} (h : FileSettings reader invocation file) : file.Checked := by
  unfold FileSettings at h
  split at h
  · rw [h]
    exact Settings.checked_empty
  · rw [settingsOn_eq] at h
    split at h
    · exact Settings.checked_of_parse h
    · cases h

/-! ### Calls -/

section

variable (script : Script)

theorem asks_detect {locations : Locations} (hd : locations.moduleDirectory ≠ "")
    (hr : locations.registry ≠ "") :
    Asks Call.IsPlaced (fun _ => True) (detect script.reader locations) := by
  have hmarker : Call.IsPlaced (.pathExists (locations.marker vrfModule)) :=
    ⟨Locations.marker_ne hd, _, hd, rfl⟩
  have hregistry : Call.IsPlaced (.readText locations.registry) := hr
  refine (Asks.give hmarker _).bind fun answer _ => ?_
  split
  · exact .pure trivial
  · exact (Asks.give hregistry _).bind fun _ _ => .pure trivial

theorem asks_read {path : String} (h : path ≠ "") :
    Asks Call.IsPlaced (IfOk Settings.Checked) (Settings.read script.reader path) := by
  have hfile : Call.IsPlaced (.readText path) := h
  refine (Asks.give hfile _).bind fun answer _ => ?_
  cases answer with
  | error cause => exact .pure (ifOk_error _)
  | ok source => exact .pure fun settings => Settings.checked_of_parse

theorem asks_load {arguments : List String} {invocation : CommandLine.Invocation}
    (h : CommandLine.read arguments = .ok invocation) :
    Asks Call.IsPlaced (IfOk Settings.Checked) (invocation.load script.reader) := by
  have hgiven := Settings.checked_of_line h
  obtain ⟨hn, -⟩ := CommandLine.read_iff_gives.1 h
  obtain ⟨hfile, -⟩ := invocation.proper_iff.1 hn
  unfold CommandLine.Invocation.load
  split
  · exact .pure (ifOk_ok hgiven)
  · rename_i path hp
    have hpath : path ≠ "" := fun he => hfile (he ▸ hp)
    refine (asks_read script hpath).bind fun answer hchecked => ?_
    cases answer with
    | error error => exact .pure (ifOk_error _)
    -- the merge comes after the check of the file and is itself unchecked
    | ok file => exact .pure (ifOk_ok (hgiven.orElse (hchecked file rfl)))

theorem asks_startup {settings : Settings} (h : settings.Checked) (verbose : Bool) :
    Asks Call.IsPlaced (fun _ => True) (startup script.reader settings verbose) := by
  obtain ⟨hd, hr⟩ := h.locations
  have hregistry : Call.IsPlaced (.readText settings.locations.registry) := hr
  refine (asks_detect script hd hr).bind fun outcome _ => ?_
  simp only
  split
  · exact (Asks.give hregistry _).bind fun _ _ => .pure trivial
  · exact .pure trivial

theorem asks_run (filter : Log.Filter) (arguments : List String) :
    Asks Call.IsPlaced (fun _ => True) (run script.reader filter arguments) := by
  unfold run
  split
  · exact .pure trivial
  · rename_i invocation hi
    refine (asks_load script hi).bind fun answer hchecked => ?_
    cases answer with
    | error refusal => exact .pure trivial
    | ok settings =>
      exact (asks_startup script (hchecked settings rfl) _).bind fun _ _ => .pure trivial

end

/-! ### No empty path -/

/-- A source that is accepted sets no empty location, what a line and its file give together, by
which a run probes, has none, and on whatever answers no call is made with one. -/
theorem probed_paths_ne_empty :
    (∀ source settings, Settings.parse source = .ok settings →
      settings.moduleDirectory ≠ some "" ∧ settings.registry ≠ some "" ∧
      settings.locations.moduleDirectory ≠ "" ∧ settings.locations.registry ≠ "") ∧
    (∀ (reader : Reader Id) arguments invocation file, CommandLine.read arguments = .ok invocation →
      FileSettings reader invocation file →
      (invocation.settings.orElse file).locations.moduleDirectory ≠ "" ∧
      (invocation.settings.orElse file).locations.registry ≠ "" ∧
      (invocation.settings.orElse file).locations.marker vrfModule ≠ vrfModule) ∧
    ∀ (script : Script) filter arguments, ∀ call ∈ (script.report filter arguments).2,
      call.IsPlaced := by
  refine ⟨?parsed, ?effective, ?called⟩
  case parsed =>
    intro source settings h
    have hchecked := Settings.checked_of_parse h
    exact ⟨hchecked.moduleDirectory, hchecked.registry, hchecked.locations⟩
  case effective =>
    intro reader arguments invocation file hr hf
    obtain ⟨hd, hregistry⟩ := ((Settings.checked_of_line hr).orElse hf.checked).locations
    exact ⟨hd, hregistry, Locations.marker_ne hd⟩
  case called =>
    intro script filter arguments call hc
    exact ((asks_run script filter arguments).calls [] call hc).resolve_left List.not_mem_nil

/-- A directory from a file, a registry from the command line, and answers that crash. -/
theorem probed_paths_ne_empty_merged :
    let chosen : Settings := { moduleDirectory := some "m" }
    let source := (Toml.FlatDocument.written chosen.assignments).source
    let reader := (MemoryStore.empty.addFile "c" source).reader
    let invocation : CommandLine.Invocation := ⟨some "c", ⟨none, none, some "r"⟩, true⟩
    let script : Script := ⟨fun _ => .answer false, fun _ => .crash ⟨"late"⟩⟩
    Settings.parse source = .ok chosen ∧ chosen.locations.moduleDirectory ≠ "" ∧
      CommandLine.read ["-vcc", "--proc-modules=r"] = .ok invocation ∧
      FileSettings reader invocation chosen ∧
      (invocation.settings.orElse chosen).locations.marker vrfModule ≠ vrfModule ∧
      Call.readText "/proc/modules" ∈ (script.report .standard []).2 ∧
      (Call.readText "/proc/modules").IsPlaced := by
  intro chosen source reader invocation script
  have hparse : Settings.parse source = .ok chosen := chosen.parse_written
  have hread : CommandLine.read ["-vcc", "--proc-modules=r"] = .ok invocation := rfl
  have hheld : (reader.readText "c").run = .ok source := rfl
  have hfile : FileSettings reader invocation chosen := (settingsOn_of_text hheld).trans hparse
  have hcall : Call.readText "/proc/modules" ∈ (script.report .standard []).2 :=
    .tail _ (.head _)
  obtain ⟨hparsed, heffective, hcalled⟩ := probed_paths_ne_empty
  exact ⟨hparse, (hparsed source chosen hparse).2.2.1, hread, hfile,
    (heffective reader _ invocation chosen hread hfile).2.2, hcall,
    hcalled script .standard [] _ hcall⟩

end VrfPresence
