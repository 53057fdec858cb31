import VrfPresence.FileSystem.MemoryStore
import VrfPresence.Proofs.CommandLine.Given
import VrfPresence.Proofs.Run.OnReader
import VrfPresence.Proofs.Settings.FlatDocument

/-!
# The two channels of settings

Settings can be given on the command line, or in a settings file that the command line names.
Both undo what the texts are written in, quotes and escapes in the one and equals signs and
dashes in the other, so that the same choices lead to the same report.
-/

namespace VrfPresence

open CommandLine FileSystem Toml

theorem Settings.empty_orElse (settings : Settings) :
    ({} : Settings).orElse settings = settings := by
  simp [Settings.orElse]

theorem proper_of_settings {settings : Settings} {settingsFile : Option String} (verbose : Bool)
    (hfile : settingsFile ≠ some "") (hdirectory : settings.moduleDirectory ≠ some "")
    (hregistry : settings.registry ≠ some "") :
    Invocation.Proper ⟨settingsFile, settings, verbose⟩ :=
  (Invocation.proper_iff _).2 ⟨hfile, hdirectory, hregistry⟩

/-- The same choices through either channel, in any order and writing, give the same report. -/
theorem runOn_channels (reader : Reader Id) (filter : Log.Filter) (verbose : Bool)
    {chosen : Settings} (hdirectory : chosen.moduleDirectory ≠ some "")
    (hregistry : chosen.registry ≠ some "")
    {direct through : List Item} {directLine throughLine : List String} {path : String}
    {document : FlatDocument}
    (hd : WritesAll direct directLine) (hdirect : Gives direct ⟨none, chosen, verbose⟩)
    (ht : WritesAll through throughLine) (hthrough : Gives through ⟨some path, {}, verbose⟩)
    (hv : document.Valid) (hh : chosen.Holds document.assignments)
    (hpath : path ≠ "") (hread : (reader.readText path).run = .ok document.source) :
    runOn reader filter directLine = runOn reader filter throughLine := by
  have hnone : (none : Option String) ≠ some "" := by decide
  have hdirectRead := read_of_gives hd hdirect
    (proper_of_settings verbose hnone hdirectory hregistry)
  have hthroughRead := read_of_gives ht hthrough
    (proper_of_settings verbose (mt Option.some.inj hpath) hnone hnone)
  have hcheck : chosen.check = .ok chosen := by
    rw [Settings.check, if_neg hdirectory, if_neg hregistry]
  have hfile : FileSettings reader ⟨some path, {}, verbose⟩ chosen :=
    (settingsOn_of_text hread).trans ((hh.parse_eq hv).trans hcheck)
  rw [runOn_of_settings reader filter hdirectRead rfl,
    runOn_of_settings reader filter hthroughRead hfile, Settings.orElse_empty,
    Settings.empty_orElse]

/-- A registry with a backslash and a newline in its name, and a directory that could be an option,
with a quote in it. -/
theorem runOn_channels_quoted :
    let chosen : Settings := ⟨some .warn, some "-\"=", some "\\\n"⟩
    let source := (FlatDocument.written chosen.assignments).source
    let reader := ((MemoryStore.empty.addFile "c" source).addFile "\\\n"
      "vrf 7 - a, Live 0x0\n").reader
    let filter := Log.Filter.ofText "debug"
    let directLine := ["--proc-modules=\\\n", "-v", "--policy=warn", "--sys-module-dir=-\"="]
    Settings.parse source = .ok chosen ∧
      runOn reader filter directLine = runOn reader filter ["-c", "c", "-v"] ∧
      runOn reader filter directLine = ⟨0, "",
        ["[DEBUG vrfcheck] policy warn with ModulePaths \x7b " ++
            "sys_module_dir: \"-\\\"=\", proc_modules: \"\\\\\\n\" \x7d",
          "[INFO  vrfcheck] VRF kernel module loaded (Registry probe)",
          "[INFO  vrfcheck] vrf: size 7 refcount 0 state Live used by [a]"]⟩ := by
  intro chosen source reader filter directLine
  have hparse : Settings.parse source = .ok chosen := chosen.parse_written
  have hdirect : WritesAll
      [.option .registry "\\\n", .verbose, .option .policy "warn", .option .moduleDirectory "-\"="]
      directLine :=
    .cons (.attached .registry "\\\n") <| .cons .verboseLetter <|
      .cons (.attached .policy "warn") <| .cons (.attached .moduleDirectory "-\"=") .nil
  have hthrough : WritesAll [.option .config "c", .verbose] ["-c", "c", "-v"] :=
    .cons (.letterApart rfl (by rintro rest ⟨⟩)) <| .cons .verboseLetter .nil
  have hdirectGives : Gives
      [.option .registry "\\\n", .verbose, .option .policy "warn", .option .moduleDirectory "-\"="]
      ⟨none, chosen, true⟩ := ⟨fun option => by cases option <;> rfl, rfl⟩
  have hthroughGives : Gives [.option .config "c", .verbose] ⟨some "c", {}, true⟩ :=
    ⟨fun option => by cases option <;> rfl, rfl⟩
  have hholds : chosen.Holds (FlatDocument.written chosen.assignments).assignments := by
    rw [FlatDocument.assignments_written]
    exact chosen.holds_assignments
  have hread : (reader.readText "c").run = .ok source := rfl
  refine ⟨hparse, ?_, by decide +kernel⟩
  exact runOn_channels reader filter true (by decide) (by decide) hdirect hdirectGives hthrough
    hthroughGives chosen.valid_written hholds (by decide) hread

end VrfPresence
