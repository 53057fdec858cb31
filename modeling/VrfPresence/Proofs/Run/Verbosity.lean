import Mathlib.Data.List.Flatten
import VrfPresence.FileSystem.Tree
import VrfPresence.Proofs.CommandLine.Given
import VrfPresence.Proofs.Run.OnReader

/-!
# Verdicts and what is told of them

A run decides before it writes. The filter of the log only chooses among the records of the run,
and the flag for more records adds one at most, behind that of the verdict. Neither can change the
exit code, whatever the registry looks like when it is read once more.
-/

namespace VrfPresence

open FileSystem

/-! ### Filters -/

theorem Log.write_append (filter : Log.Filter) (a b : List Log.Record) :
    Log.write filter (a ++ b) = Log.write filter a ++ Log.write filter b := by
  rw [Log.write, List.filter_append, List.flatMap_append]
  rfl

theorem Log.write_sublist {filter other : Log.Filter}
    (h : filter.threshold Log.target.toList ≤ other.threshold Log.target.toList)
    (records : List Log.Record) : (Log.write filter records).Sublist (Log.write other records) := by
  have hadmits : ∀ record, filter.admits record = true → other.admits record = true := by
    intro record hr
    exact decide_eq_true (Nat.le_trans (of_decide_eq_true hr) h)
  exact (List.monotone_filter_right records hadmits).flatMap _

theorem Log.write_of_rank_le {filter : Log.Filter} {level : Log.Level}
    (h : level.rank ≤ filter.threshold Log.target.toList) {records : List Log.Record}
    (hr : ∀ record ∈ records, record.level.rank ≤ level.rank) :
    Log.write filter records = records.flatMap Log.Record.lines := by
  rw [Log.write, List.filter_eq_self.2]
  intro record hrecord
  exact decide_eq_true (Nat.le_trans (hr record hrecord) h)

/-- A run is decided apart from the filter, which only sees its records. -/
inductive Filtered (reader : Reader Id) (arguments : List String) : Prop
  | told (report : Report) (h : ∀ filter, runOn reader filter arguments = report)
  | logged (code : UInt8) (records : List Log.Record)
      (h : ∀ filter, runOn reader filter arguments = ⟨code, "", Log.write filter records⟩)

theorem runOn_filtered (reader : Reader Id) (arguments : List String) :
    Filtered reader arguments := by
  cases hr : CommandLine.read arguments with
  | error stop => exact .told _ fun filter => runOn_of_stop reader filter hr
  | ok invocation =>
    rcases settings_cases reader invocation with ⟨path, error, hp, he⟩ | ⟨file, hf⟩
    · exact .told _ fun filter => runOn_of_refused reader filter hr hp he
    · exact .logged _ _ fun filter => runOn_of_settings reader filter hr hf

theorem Filtered.code {reader : Reader Id} {arguments : List String} (h : Filtered reader arguments)
    (filter other : Log.Filter) :
    (runOn reader filter arguments).code = (runOn reader other arguments).code ∧
      (runOn reader filter arguments).stdout = (runOn reader other arguments).stdout := by
  cases h with
  | told report h => exact ⟨by rw [h filter, h other], by rw [h filter, h other]⟩
  | logged code records h => exact ⟨by rw [h filter, h other], by rw [h filter, h other]⟩

theorem Filtered.stderr {reader : Reader Id} {arguments : List String}
    (h : Filtered reader arguments) {filter other : Log.Filter}
    (hle : filter.threshold Log.target.toList ≤ other.threshold Log.target.toList) :
    (runOn reader filter arguments).stderr.Sublist (runOn reader other arguments).stderr := by
  cases h with
  | told report h =>
    rw [h filter, h other]
  | logged code records h =>
    rw [h filter, h other]
    exact Log.write_sublist hle records

theorem pairwise_threshold_ofText :
    ["off", "error", "warn", "info", "debug", "trace"].Pairwise fun a b =>
      (Log.Filter.ofText a).threshold Log.target.toList ≤
        (Log.Filter.ofText b).threshold Log.target.toList := by
  decide

/-! ### The flag -/

theorem entryOn_eq_some_iff {reader : Reader Id} {settings : Settings} {record : Log.Record} :
    entryOn reader settings = some record ↔
      (∃ detection, verdictOn reader settings = .proceed detection) ∧
        record = entryRecord settings.locations.registry
          (reader.readText settings.locations.registry).run := by
  unfold entryOn
  cases verdictOn reader settings <;> simp [eq_comm]

/-- The flag adds what there is to log of the entry, at the end. -/
theorem runOn_of_verbose (reader : Reader Id) (filter : Log.Filter) {arguments : List String}
    {invocation : CommandLine.Invocation} {file : Settings}
    (h : CommandLine.read arguments = .ok invocation) (hv : invocation.verbose = false)
    (hf : FileSettings reader invocation file) :
    runOn reader filter ("-v" :: arguments) =
      { runOn reader filter arguments with
        stderr := (runOn reader filter arguments).stderr ++
          Log.write filter (entryOn reader (invocation.settings.orElse file)).toList } := by
  have hverbose := runOn_of_settings reader filter (CommandLine.read_verbose h hv)
    (show FileSettings reader { invocation with verbose := true } file from hf)
  rw [hverbose, runOn_of_settings reader filter h hf, recordsOn_eq, recordsOn_eq, hv, if_pos rfl,
    Log.write_append]
  rfl

/-- The filter and the flag choose what is told of a run and change nothing else. -/
theorem runOn_verbosity (reader : Reader Id) (arguments : List String) :
    (∀ filter other, (runOn reader filter arguments).code = (runOn reader other arguments).code ∧
      (runOn reader filter arguments).stdout = (runOn reader other arguments).stdout) ∧
    (∀ filter other : Log.Filter,
      filter.threshold Log.target.toList ≤ other.threshold Log.target.toList →
      (runOn reader filter arguments).stderr.Sublist (runOn reader other arguments).stderr) ∧
    (["off", "error", "warn", "info", "debug", "trace"].Pairwise fun a b =>
      (runOn reader (.ofText a) arguments).stderr.Sublist
        (runOn reader (.ofText b) arguments).stderr) ∧
    ∀ invocation, CommandLine.read arguments = .ok invocation → invocation.verbose = false →
      ∃ extra : Option Log.Record,
        (∀ filter, runOn reader filter ("-v" :: arguments) =
          { runOn reader filter arguments with
            stderr := (runOn reader filter arguments).stderr ++ Log.write filter extra.toList }) ∧
        ∀ record, extra = some record → ∃ settings detection,
          verdictOn reader settings = .proceed detection ∧
          (∀ filter, runOn reader filter arguments = ⟨0, "", Log.write filter
            [startRecord settings, (Verdict.proceed detection).record]⟩) ∧
          record = entryRecord settings.locations.registry
            (reader.readText settings.locations.registry).run := by
  have hfiltered := runOn_filtered reader arguments
  refine ⟨hfiltered.code, fun filter other => hfiltered.stderr, ?names, ?flag⟩
  case names => exact pairwise_threshold_ofText.imp fun h => hfiltered.stderr h
  case flag =>
    intro invocation hr hv
    rcases settings_cases reader invocation with ⟨path, error, hp, he⟩ | ⟨file, hf⟩
    · refine ⟨none, fun filter => ?_, by simp⟩
      rw [runOn_of_refused reader filter hr hp he,
        runOn_of_refused reader filter (CommandLine.read_verbose hr hv) hp he]
      simp [Log.write]
    · refine ⟨_, fun filter => runOn_of_verbose reader filter hr hv hf, fun record hrecord => ?_⟩
      obtain ⟨⟨detection, hverdict⟩, hrecord⟩ := entryOn_eq_some_iff.1 hrecord
      refine ⟨_, detection, hverdict, fun filter => ?_, hrecord⟩
      rw [runOn_of_settings reader filter hr hf, recordsOn_eq, hv, hverdict]
      rfl

/-- The registry is a directory, which the flag makes the run find out. -/
theorem runOn_verbosity_unreadable :
    let tree : Tree := ⟨[([['m']], .directory), ([['m'], ['v', 'r', 'f']], .directory)]⟩
    let arguments := ["--sys-module-dir=m", "--proc-modules=m"]
    let invocation : CommandLine.Invocation := ⟨none, ⟨none, some "m", some "m"⟩, false⟩
    CommandLine.read arguments = .ok invocation ∧ tree.readText "m" = .error directoryText ∧
      (runOn tree.reader (.ofText "off") arguments).stderr.Sublist
        (runOn tree.reader .standard arguments).stderr ∧
      (∀ filter, (runOn tree.reader filter ("-v" :: arguments)).code = 0) ∧
      (runOn tree.reader (.ofText "debug") ("-v" :: arguments)).stderr =
        ["[DEBUG vrfcheck] policy strict with ModulePaths \x7b " ++
            "sys_module_dir: \"m\", proc_modules: \"m\" \x7d",
          "[INFO  vrfcheck] VRF kernel module loaded (Marker probe)",
          "[DEBUG vrfcheck] cannot read m: Is a directory (os error 21)"] ∧
      ∃ extra : Option Log.Record, ∀ filter, (runOn tree.reader filter ("-v" :: arguments)).stderr =
        (runOn tree.reader filter arguments).stderr ++ Log.write filter extra.toList := by
  intro tree arguments invocation
  have hread : CommandLine.read arguments = .ok invocation := rfl
  have hcode : (verdictOn tree.reader (invocation.settings.orElse {})).exitCode = 0 := by decide
  have hlaw := runOn_verbosity tree.reader arguments
  obtain ⟨extra, hflag, -⟩ := hlaw.2.2.2 invocation hread rfl
  refine ⟨hread, by decide, hlaw.2.1 _ _ (by decide), fun filter => ?_, by decide +kernel, extra,
    fun filter => ?_⟩
  · rw [hflag filter, runOn_of_settings tree.reader filter hread rfl]
    exact hcode
  · rw [hflag filter]

end VrfPresence
