import VrfPresence.Proofs.Registry.Presence
import VrfPresence.Proofs.Run.Verbosity

/-!
# The entry that is told of

Behind a detection the flag makes a run tell of the entry of the module. It goes by the well-formed
lines of the registry, and the detection by all of them. So the two can contradict each other: a
registry in which every line of the module is malformed lists it, and is said not to.
-/

namespace VrfPresence

open FileSystem Registry

def foundRecord (entry : ModuleEntry) : Log.Record :=
  ⟨.info, entry.name ++ ": size " ++ toString entry.size.toNat ++ " refcount " ++
    toString entry.refcount.toNat ++ " state " ++ entry.state.text ++ " used by [" ++
    ", ".intercalate entry.dependents ++ "]"⟩

def absentRecord (path : String) : Log.Record :=
  ⟨.debug, vrfModule ++ " not listed in " ++ path⟩

/-- The record says of the module what the registry does: if it lists the module, what it has on
it, and that it does not list it only if so. -/
structure Agrees (registry path : String) (record : Log.Record) : Prop where
  listed : isListed registry vrfModule = true →
    ∃ entry, FirstEntry registry vrfModule entry ∧ record = foundRecord entry
  absent : record = absentRecord path → isListed registry vrfModule = false

/-! ### The record -/

theorem foundRecord_ne_absentRecord (entry : ModuleEntry) (path : String) :
    foundRecord entry ≠ absentRecord path := by
  intro h
  cases congrArg Log.Record.level h

theorem entryRecord_of_firstEntry {registry : String} {entry : ModuleEntry} (path : String)
    (h : FirstEntry registry vrfModule entry) : entryRecord path (.ok registry) = foundRecord entry := by
  simp only [entryRecord, find_eq_some_iff.2 h]
  rfl

theorem entryRecord_cases (registry path : String) :
    (∃ entry, FirstEntry registry vrfModule entry ∧
      entryRecord path (.ok registry) = foundRecord entry) ∨
    find registry vrfModule = none ∧ entryRecord path (.ok registry) = absentRecord path := by
  cases hf : find registry vrfModule with
  | some entry =>
    have hfirst := find_eq_some_iff.1 hf
    exact .inl ⟨entry, hfirst, entryRecord_of_firstEntry path hfirst⟩
  | none =>
    refine .inr ⟨rfl, ?_⟩
    simp only [entryRecord, hf]
    rfl

theorem entryRecord_eq_absentRecord_iff (registry path : String) :
    entryRecord path (.ok registry) = absentRecord path ↔ find registry vrfModule = none := by
  rcases entryRecord_cases registry path with ⟨entry, hfirst, hrecord⟩ | ⟨hnone, hrecord⟩
  · simp [hrecord, foundRecord_ne_absentRecord, find_eq_some_iff.2 hfirst]
  · simp [hrecord, hnone]

theorem agrees_entryRecord_iff (registry path : String) :
    Agrees registry path (entryRecord path (.ok registry)) ↔
      (isListed registry vrfModule = true → ∃ entry, FirstEntry registry vrfModule entry) := by
  constructor
  · intro h hlisted
    obtain ⟨entry, hfirst, -⟩ := h.listed hlisted
    exact ⟨entry, hfirst⟩
  · intro h
    constructor
    · intro hlisted
      obtain ⟨entry, hfirst⟩ := h hlisted
      exact ⟨entry, hfirst, entryRecord_of_firstEntry path hfirst⟩
    · intro habsent
      apply Bool.eq_false_iff.2
      intro hlisted
      obtain ⟨entry, hfirst⟩ := h hlisted
      rw [entryRecord_of_firstEntry path hfirst] at habsent
      exact foundRecord_ne_absentRecord entry path habsent

/-! ### The run -/

theorem isListed_of_detection {reader : Reader Id} {settings : Settings} {registry : String}
    (hverdict : verdictOn reader settings = .proceed .registry)
    (hread : (reader.readText settings.locations.registry).run = .ok registry) :
    isListed registry vrfModule = true := by
  have hdetect : detectOn reader settings.locations = .ok .registry := by
    have ho := Policy.outcome_apply settings.effectivePolicy (detectOn reader settings.locations)
    rw [← ho]
    exact congrArg Verdict.outcome hverdict
  by_cases hm : (reader.pathExists (settings.locations.marker vrfModule)).run = .ok true
  · rw [detectOn_of_marker hm] at hdetect
    cases hdetect
  · rw [detectOn_of_not_marker hm, hread, concludeFrom] at hdetect
    by_contra hlisted
    rw [if_neg hlisted] at hdetect
    cases hdetect

theorem rank_entryRecord_le (path : String) (registry : Except AccessError String) :
    (entryRecord path registry).level.rank ≤ Log.Level.debug.rank := by
  cases registry with
  | error cause => exact Nat.le_refl _
  | ok registry =>
    rcases entryRecord_cases registry path with ⟨entry, -, hrecord⟩ | ⟨-, hrecord⟩
    · rw [hrecord]
      exact Nat.le_succ _
    · rw [hrecord]
      exact Nat.le_refl _

theorem runOn_of_detection (reader : Reader Id) (filter : Log.Filter) {arguments : List String}
    {invocation : CommandLine.Invocation} {file : Settings} {detection : Detection}
    (h : CommandLine.read arguments = .ok invocation) (hv : invocation.verbose = true)
    (hf : FileSettings reader invocation file)
    (hlevel : Log.Level.debug.rank ≤ filter.threshold Log.target.toList)
    (hverdict : verdictOn reader (invocation.settings.orElse file) = .proceed detection) :
    runOn reader filter arguments = ⟨0, "",
      [startRecord (invocation.settings.orElse file), (Verdict.proceed detection).record,
        entryRecord (invocation.settings.orElse file).locations.registry
          (reader.readText (invocation.settings.orElse file).locations.registry).run].flatMap
            Log.Record.lines⟩ := by
  have hentry := entryOn_eq_some_iff.2 ⟨⟨detection, hverdict⟩, rfl⟩
  rw [runOn_of_settings reader filter h hf, recordsOn_eq, hv, if_pos rfl, hentry, hverdict]
  refine congrArg (Report.mk 0 "") (Log.write_of_rank_le hlevel ?_)
  simp only [Option.toList_some, List.cons_append, List.nil_append, List.forall_mem_cons]
  refine ⟨Nat.le_refl _, Nat.le_succ _, rank_entryRecord_le _ _, ?_⟩
  intro record hrecord
  cases hrecord

/-- What a run with the flag tells of the entry, behind a detection: that of the first line of the
module that is well-formed, or that there is none. It contradicts the detection exactly if the
registry lists the module in malformed lines only. -/
theorem runOn_tells_entry (reader : Reader Id) (filter : Log.Filter) {arguments : List String}
    {invocation : CommandLine.Invocation} {file : Settings} {detection : Detection}
    {registry : String} (h : CommandLine.read arguments = .ok invocation)
    (hv : invocation.verbose = true) (hf : FileSettings reader invocation file)
    (hlevel : Log.Level.debug.rank ≤ filter.threshold Log.target.toList)
    (hverdict : verdictOn reader (invocation.settings.orElse file) = .proceed detection)
    (hread : (reader.readText (invocation.settings.orElse file).locations.registry).run =
      .ok registry) :
    ∃ record,
      runOn reader filter arguments = ⟨0, "",
        [startRecord (invocation.settings.orElse file), (Verdict.proceed detection).record,
          record].flatMap Log.Record.lines⟩ ∧
      (∀ entry, FirstEntry registry vrfModule entry → record = foundRecord entry) ∧
      (record = absentRecord (invocation.settings.orElse file).locations.registry ↔
        ∀ line ∈ Text.lines registry.toList, IsFirstWord vrfModule.toList line →
          ∃ error, ModuleEntry.parse (String.ofList line) = .error error) ∧
      (detection = .registry → isListed registry vrfModule = true) ∧
      (Agrees registry (invocation.settings.orElse file).locations.registry record ↔
        (isListed registry vrfModule = true → ∃ entry, FirstEntry registry vrfModule entry)) := by
  refine ⟨_, runOn_of_detection reader filter h hv hf hlevel hverdict, ?_⟩
  rw [hread]
  refine ⟨fun entry hfirst => entryRecord_of_firstEntry _ hfirst, ?_, ?_, agrees_entryRecord_iff _ _⟩
  · rw [entryRecord_eq_absentRecord_iff, find_eq_none_iff]
  · intro hd
    subst hd
    exact isListed_of_detection hverdict hread

/-- The first line of the module is malformed, and the next one is told of. -/
theorem runOn_tells_entry_behind_malformed :
    let registry := "vrf x\nvrf 7 - a, Live 0x0\n"
    let entry : ModuleEntry := ⟨"vrf", 7, 0, ["a"], .live, 0, none⟩
    let tree : Tree := ⟨[([['m']], .file (some registry))]⟩
    let settings : Settings := ⟨none, some "s", some "m"⟩
    runOn tree.reader (.ofText "debug") ["--sys-module-dir=s", "--proc-modules=m", "-v"] = ⟨0, "",
      [startRecord settings, (Verdict.proceed .registry).record, foundRecord entry].flatMap
        Log.Record.lines⟩ ∧
      Agrees registry "m" (foundRecord entry) := by
  intro registry entry tree settings
  have hfirst : FirstEntry registry vrfModule entry := find_eq_some_iff.1 (by decide)
  have hread : CommandLine.read ["--sys-module-dir=s", "--proc-modules=m", "-v"] =
      .ok ⟨none, settings, true⟩ := rfl
  have hverdict : verdictOn tree.reader (settings.orElse {}) = .proceed .registry := by decide
  have htext : tree.readText (settings.orElse {}).locations.registry = .ok registry := by decide
  obtain ⟨record, hrun, hfound, -, -, hagrees⟩ := runOn_tells_entry tree.reader
    (.ofText "debug") hread rfl rfl (by decide) hverdict htext
  obtain rfl := hfound entry hfirst
  exact ⟨hrun, hagrees.2 fun _ => ⟨entry, hfirst⟩⟩

/-- All lines of the module are malformed: loaded, as the registry shows, but not listed in it. -/
theorem runOn_contradicts_detection :
    let registry := "vrf garbage\n"
    let tree : Tree := ⟨[(["proc".toList], .directory),
      (["proc".toList, "modules".toList], .file (some registry))]⟩
    let settings : Settings := ⟨none, some "sys/module", some "proc/modules"⟩
    let arguments :=
      ["--sys-module-dir", "sys/module", "--proc-modules", "proc/modules", "-v"]
    tree.readText "proc/modules" = .ok registry ∧ isListed registry vrfModule = true ∧
      runOn tree.reader (.ofText "debug") arguments = ⟨0, "", (startRecord settings).lines ++
        ["[INFO  vrfcheck] VRF kernel module loaded (Registry probe)",
          "[DEBUG vrfcheck] vrf not listed in proc/modules"]⟩ ∧
      ¬ Agrees registry "proc/modules" (absentRecord "proc/modules") := by
  intro registry tree settings arguments
  have hlisted : isListed registry vrfModule = true := by decide
  have hread : CommandLine.read arguments = .ok ⟨none, settings, true⟩ := rfl
  have htext : tree.readText "proc/modules" = .ok registry := by decide
  have hverdict : verdictOn tree.reader (settings.orElse {}) = .proceed .registry := by decide
  have hloaded : (Verdict.proceed .registry).record.lines =
      ["[INFO  vrfcheck] VRF kernel module loaded (Registry probe)"] := by decide
  have habsent : entryRecord "proc/modules" (.ok registry) = absentRecord "proc/modules" :=
    (entryRecord_eq_absentRecord_iff registry "proc/modules").2 (by decide)
  have htold : (absentRecord "proc/modules").lines =
      ["[DEBUG vrfcheck] vrf not listed in proc/modules"] := by decide
  have hpath : settings.locations.registry = "proc/modules" := rfl
  have hheld : (tree.reader.readText "proc/modules").run = .ok registry := htext
  have hrun := runOn_of_detection tree.reader (.ofText "debug") hread rfl rfl (by decide) hverdict
  simp only [Settings.orElse_empty, hpath, hheld, habsent, List.flatMap_cons, List.flatMap_nil,
    hloaded, htold] at hrun
  refine ⟨htext, hlisted, hrun, fun h => ?_⟩
  have hfalse := h.absent rfl
  rw [hlisted] at hfalse
  cases hfalse

end VrfPresence
