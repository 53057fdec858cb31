import VrfPresence.FileSystem.MemoryStore
import VrfPresence.Proofs.Run.OnReader
import VrfPresence.Proofs.Settings.FlatDocument
import VrfPresence.Proofs.Text.Pieces

/-!
# What a run means

A run that the command line stops says the same on every machine. A run whose settings file
gives no settings says so and nothing else. Every other run goes by three choices, each made on
the command line, else in the settings file, else by default, and its exit code is a table over
the policy and the two answers of the file system (SPEC_FULL.md 4.5, lines 161-170). What it has
to log is settled with its verdict, and the filter only chooses among these records.
-/

namespace VrfPresence

open FileSystem

/-- A choice of the command line, else of the settings file, else the default. -/
def choose {α : Type} (given file : Option α) (default : α) : α :=
  match given, file with
  | some a, _ => a
  | none, some a => a
  | none, none => default

/-- A line of the registry starts with `vrf` and a space. -/
def HasVrfLine (registry : String) : Prop :=
  ∃ line ∈ Text.lines registry.toList, ['v', 'r', 'f', ' '] <+: line

theorem isListed_iff_hasVrfLine (registry : String) :
    Registry.isListed registry vrfModule = true ↔ HasVrfLine registry := by
  rw [Registry.isListed, List.any_eq_true]
  refine exists_congr fun line => and_congr_right fun _ => ?_
  exact List.isPrefixOf_iff_prefix

/-! ### The exit code of a verdict -/

/-- The table of exit codes over what is known of the marker and the registry. -/
structure CodeTable (code : UInt8) (policy : Policy) (marker : Prop)
    (registry : Except AccessError String) : Prop where
  zero : code = 0 ↔ marker ∨ (∃ text, registry = .ok text ∧ HasVrfLine text) ∨
    policy = .warn ∨ (policy = .lenient ∧ ∃ cause, registry = .error cause)
  one : code = 1 ↔ ¬ marker ∧ (∃ text, registry = .ok text ∧ ¬ HasVrfLine text) ∧
    (policy = .strict ∨ policy = .lenient)
  two : code = 2 ↔ ¬ marker ∧ (∃ cause, registry = .error cause) ∧ policy = .strict

theorem codeTable_of_marker (policy : Policy) {marker : Prop} (hm : marker)
    (registry : Except AccessError String) :
    CodeTable (policy.apply (.ok .marker)).exitCode policy marker registry := by
  constructor <;> simp [Policy.apply, Verdict.exitCode, hm]

theorem codeTable_of_registry (policy : Policy) {marker : Prop} (hm : ¬ marker)
    (registry : Except AccessError String) :
    CodeTable (policy.apply (concludeFrom registry)).exitCode policy marker registry := by
  cases registry with
  | error cause =>
    constructor <;> cases policy <;>
      simp [concludeFrom, Policy.apply, ProbeFailure.isInconclusive, Verdict.exitCode, hm]
  | ok text =>
    by_cases hl : Registry.isListed text vrfModule = true
    · have hv := (isListed_iff_hasVrfLine text).1 hl
      constructor <;> simp [concludeFrom, hl, Policy.apply, Verdict.exitCode, hm, hv]
    · have hv := mt (isListed_iff_hasVrfLine text).2 hl
      constructor <;> cases policy <;>
        simp [concludeFrom, hl, Policy.apply, ProbeFailure.isInconclusive, Verdict.exitCode, hm, hv]

theorem codeTable_verdictOn (reader : Reader Id) (settings : Settings) :
    CodeTable (verdictOn reader settings).exitCode settings.effectivePolicy
      ((reader.pathExists (settings.locations.marker vrfModule)).run = .ok true)
      (reader.readText settings.locations.registry).run := by
  by_cases hm : (reader.pathExists (settings.locations.marker vrfModule)).run = .ok true
  · rw [verdictOn, detectOn_of_marker hm]
    exact codeTable_of_marker _ hm _
  · rw [verdictOn, detectOn_of_not_marker hm]
    exact codeTable_of_registry _ hm _

/-! ### Choices -/

theorem effectivePolicy_orElse (given file : Settings) :
    (given.orElse file).effectivePolicy = choose given.policy file.policy .strict := by
  cases hg : given.policy <;> cases hf : file.policy <;>
    simp [Settings.orElse, Settings.effectivePolicy, choose, Policy.standard, hg, hf]

theorem moduleDirectory_orElse (given file : Settings) :
    (given.orElse file).locations.moduleDirectory =
      choose given.moduleDirectory file.moduleDirectory "/sys/module" := by
  cases hg : given.moduleDirectory <;> cases hf : file.moduleDirectory <;>
    simp [Settings.orElse, Settings.locations, choose, Locations.standard, hg, hf]

theorem registry_orElse (given file : Settings) :
    (given.orElse file).locations.registry =
      choose given.registry file.registry "/proc/modules" := by
  cases hg : given.registry <;> cases hf : file.registry <;>
    simp [Settings.orElse, Settings.locations, choose, Locations.standard, hg, hf]

/-! ### The report of a refused settings file -/

/-- The text on standard error. -/
def Report.errorText (report : Report) : List Char :=
  Text.join ['\n'] (report.stderr.map String.toList)

theorem join_hanging (head text : String) :
    Text.join ['\n'] ((Text.hanging head "" text).map String.toList) =
      head.toList ++ text.toList := by
  have hj := Text.join_splitWhere '\n' text.toList
  cases hs : Text.lines text.toList with
  | nil => exact absurd hs (Text.splitWhere_ne_nil _ _)
  | cons first others =>
    have hl : Text.join ['\n'] (first :: others) = text.toList := hs ▸ hj
    have hm : (Text.hanging head "" text).map String.toList =
        (head.toList ++ first) :: others := by
      simp [Text.hanging, hs, Function.comp_def]
    rw [hm, Text.join_append_first, hl]

theorem errorText_settingsReport (path : String) (error : SettingsError) :
    ("Error: loading " ++ path).toList <+: (settingsReport path error).errorText := by
  have hh := join_hanging "Error: loading " path
  have hne : (Text.hanging "Error: loading " "" path).map String.toList ≠ [] := by
    intro he
    rw [he] at hh
    simp [Text.join] at hh
  rw [Report.errorText, settingsReport, List.append_assoc, List.map_append,
    Text.join_append _ hne (by simp), hh, String.toList_append, List.append_assoc, List.append_assoc]
  exact List.prefix_append _ _

/-! ### The whole run -/

/-- What a run comes to on any file system that answers at once: stopped by its command line, refused
for its settings file, or settled by its choices. -/
theorem run_meaning (reader : Reader Id) (filter : Log.Filter) (arguments : List String) :
    (∀ stop, CommandLine.read arguments = .error stop →
      (∀ other otherFilter, runOn other otherFilter arguments = runOn reader filter arguments) ∧
      ((runOn reader filter arguments).code = 0 ↔ stop = .help ∨ stop = .version) ∧
      ((runOn reader filter arguments).code = 2 ↔ ∃ error, stop = .usage error) ∧
      ((runOn reader filter arguments).code = 2 → (runOn reader filter arguments).stdout = "")) ∧
    (∀ invocation path error, CommandLine.read arguments = .ok invocation →
      invocation.settingsFile = some path → settingsOn reader path = .error error →
      (runOn reader filter arguments).code = 1 ∧ (runOn reader filter arguments).stdout = "" ∧
      ("Error: loading " ++ path).toList <+: (runOn reader filter arguments).errorText ∧
      ∀ other otherFilter, settingsOn other path = .error error →
        runOn other otherFilter arguments = settingsReport path error) ∧
    ∀ invocation file, CommandLine.read arguments = .ok invocation →
      FileSettings reader invocation file →
      (runOn reader filter arguments).stdout = "" ∧
      (runOn reader filter arguments).stderr = Log.write filter
        (recordsOn reader (invocation.settings.orElse file) invocation.verbose) ∧
      CodeTable (runOn reader filter arguments).code
        (choose invocation.settings.policy file.policy .strict)
        ((reader.pathExists (Path.join (choose invocation.settings.moduleDirectory
          file.moduleDirectory "/sys/module") "vrf")).run = .ok true)
        (reader.readText
          (choose invocation.settings.registry file.registry "/proc/modules")).run := by
  refine ⟨?stopped, ?refused, ?settled⟩
  case stopped =>
    intro stop hs
    have hr := fun other otherFilter => runOn_of_stop other otherFilter hs
    refine ⟨fun other otherFilter => (hr _ _).trans (hr reader filter).symm, ?_⟩
    rw [hr reader filter]
    cases stop <;> simp [CommandLine.Stop.report]
  case refused =>
    intro invocation path error hi hp he
    have hr := runOn_of_refused reader filter hi hp he
    refine ⟨by rw [hr]; rfl, by rw [hr]; rfl, ?_, ?_⟩
    · rw [hr]
      exact errorText_settingsReport path error
    · exact fun other otherFilter ho => runOn_of_refused other otherFilter hi hp ho
  case settled =>
    intro invocation file hi hf
    have ht := codeTable_verdictOn reader (invocation.settings.orElse file)
    rw [effectivePolicy_orElse, registry_orElse, Locations.marker, moduleDirectory_orElse] at ht
    rw [runOn_of_settings reader filter hi hf]
    exact ⟨rfl, rfl, ht⟩

/-- Each code of each clause, at the default locations, by policies of the command line, of a file
and by default. -/
theorem run_meaning_clauses :
    let chosen : Settings := { policy := some .lenient }
    let source := (Toml.FlatDocument.written chosen.assignments).source
    let bare := MemoryStore.empty.addFile "c" source
    let marked := bare.addDirectory "/sys/module/vrf"
    let listed := bare.addFile "/proc/modules" "nf 1\nvrf 1"
    let unlisted := bare.addFile "/proc/modules" "vrfx 1\nvrf\t1"
    ((runOn bare.reader .standard ["-x"]).code = 2 ∧
      (runOn bare.reader .standard ["-c", "d"]).code = 1) ∧
    ((runOn marked.reader .standard []).code = 0 ∧ (runOn listed.reader .standard []).code = 0 ∧
      (runOn unlisted.reader .standard []).code = 1 ∧ (runOn bare.reader .standard []).code = 2) ∧
    ((runOn unlisted.reader .standard ["-c", "c"]).code = 1 ∧
      (runOn bare.reader .standard ["-c", "c"]).code = 0 ∧
      (runOn bare.reader .standard ["-c", "c", "-p", "strict"]).code = 2) ∧
    (runOn marked.reader .standard []).stderr =
      ["[INFO  vrfcheck] VRF kernel module loaded (Marker probe)"] := by
  intro chosen source bare marked listed unlisted
  have hstop : CommandLine.read ["-x"] = .error (.usage (.unexpected "-x")) := rfl
  have hfile : ∀ store : MemoryStore, (store.reader.readText "c").run = .ok source →
      settingsOn store.reader "c" = .ok chosen := by
    intro store hread
    exact (settingsOn_of_text hread).trans chosen.parse_written
  have hvrf : HasVrfLine "nf 1\nvrf 1" := (isListed_iff_hasVrfLine _).1 (by decide)
  have hother : ¬ HasVrfLine "vrfx 1\nvrf\t1" := mt (isListed_iff_hasVrfLine _).2 (by decide)
  have hlistedText : listed.readText "/proc/modules" = .ok "nf 1\nvrf 1" := rfl
  have hunlistedText : unlisted.readText "/proc/modules" = .ok "vrfx 1\nvrf\t1" := rfl
  have hbareText : ∃ cause, bare.readText "/proc/modules" = .error cause := ⟨_, rfl⟩
  have hmarker : marked.pathExists "/sys/module/vrf" = .ok true := rfl
  have hunlistedMarker : unlisted.pathExists "/sys/module/vrf" ≠ .ok true := by decide
  have hbareMarker : bare.pathExists "/sys/module/vrf" ≠ .ok true := by decide
  have hmarked := (run_meaning marked.reader .standard []).2.2 {} {} rfl rfl
  have hlisted := (run_meaning listed.reader .standard []).2.2 {} {} rfl rfl
  have hunlisted := (run_meaning unlisted.reader .standard []).2.2 {} {} rfl rfl
  have hbare := (run_meaning bare.reader .standard []).2.2 {} {} rfl rfl
  have hlenient := (run_meaning unlisted.reader .standard ["-c", "c"]).2.2
    { settingsFile := some "c" } { policy := some .lenient } rfl (hfile unlisted rfl)
  have hdegraded := (run_meaning bare.reader .standard ["-c", "c"]).2.2
    { settingsFile := some "c" } { policy := some .lenient } rfl (hfile bare rfl)
  have hstrict := (run_meaning bare.reader .standard ["-c", "c", "-p", "strict"]).2.2
    { settingsFile := some "c", settings.policy := some .strict } { policy := some .lenient } rfl
    (hfile bare rfl)
  refine ⟨⟨?_, ?_⟩, ⟨?_, ?_, ?_, ?_⟩, ⟨?_, ?_, ?_⟩, ?_⟩
  · exact ((run_meaning bare.reader .standard ["-x"]).1 _ hstop).2.2.1.2 ⟨_, rfl⟩
  · exact ((run_meaning bare.reader .standard ["-c", "d"]).2.1 { settingsFile := some "d" } _ _
      rfl rfl rfl).1
  · exact hmarked.2.2.zero.2 (.inl hmarker)
  · exact hlisted.2.2.zero.2 (.inr (.inl ⟨_, hlistedText, hvrf⟩))
  · exact hunlisted.2.2.one.2 ⟨hunlistedMarker, ⟨_, hunlistedText, hother⟩, .inl rfl⟩
  · exact hbare.2.2.two.2 ⟨hbareMarker, hbareText, rfl⟩
  · exact hlenient.2.2.one.2 ⟨hunlistedMarker, ⟨_, hunlistedText, hother⟩, .inr rfl⟩
  · exact hdegraded.2.2.zero.2 (.inr (.inr (.inr ⟨rfl, hbareText⟩)))
  · exact hstrict.2.2.two.2 ⟨hbareMarker, hbareText, rfl⟩
  · rw [hmarked.2.1]
    decide

end VrfPresence
