import VrfPresence.FileSystem.Script
import VrfPresence.Probe

/-!
# The probe on arbitrary answers

Whatever a file system answers, the probe asks for the marker, and for the registry unless the
marker settled the matter. A marker that is not confirmed, be it absent or not to be determined,
leaves everything to the registry, and only a registry that was read can show absence. In a task
of its own the probe comes to the same, and a crash that it meets leaves it inconclusive.
-/

namespace VrfPresence

open FileSystem

/-! ### Scripted runs -/

namespace FileSystem

def Reply.crash? {α : Type} : Reply α → Option Crash
  | .crash reason => some reason
  | _ => none

/-- The crash in which a call of the script ends, if it does. -/
def Script.crash? (script : Script) : Call → Option Crash
  | .pathExists path => (script.pathExists path).crash?
  | .readText path => (script.readText path).crash?

/-- A probe on a script: its outcome, unless it crashed, and its calls. -/
def Script.probe (script : Script) (locations : Locations) : Except Crash Outcome × List Call :=
  ((detect script.reader locations).run.run []).run

def Script.probeInTask (script : Script) (locations : Locations) : Outcome × List Call :=
  ((detectInTask script.reader locations).run []).run

end FileSystem

/-- The marker neither exists for certain nor crashed the probe. -/
def Undecided (marker : Reply Bool) : Prop :=
  marker = .answer false ∨ ∃ error, marker = .failure error

/-- What the registry says by itself. -/
def conclusion : Reply String → Outcome
  | .answer text => if Registry.isListed text vrfModule then .ok .registry else .error .notLoaded
  | .failure error => .error (.inconclusive error)
  | .crash reason => .error (.inconclusive ⟨.other, crashReport reason⟩)

/-- The calls and the outcome of a probe by the replies to its two questions. -/
structure ProbeLaw (script : Script) (locations : Locations) (outcome : Outcome)
    (calls : List Call) : Prop where
  markerOnly : calls = [.pathExists (locations.marker vrfModule)] ↔
    script.pathExists (locations.marker vrfModule) = .answer true ∨
      ∃ reason, script.pathExists (locations.marker vrfModule) = .crash reason
  markerThenRegistry :
    calls = [.pathExists (locations.marker vrfModule), .readText locations.registry] ↔
      Undecided (script.pathExists (locations.marker vrfModule))
  marker : outcome = .ok .marker ↔
    script.pathExists (locations.marker vrfModule) = .answer true
  registry : Undecided (script.pathExists (locations.marker vrfModule)) →
    outcome = conclusion (script.readText locations.registry)
  absent : outcome = .error .notLoaded → .readText locations.registry ∈ calls ∧
    ∃ text, script.readText locations.registry = .answer text ∧
      Registry.isListed text vrfModule = false

/-! ### Runs by their replies -/

theorem run_give_bind {α β : Type} (reply : Reply α) (call : Call)
    (next : Except AccessError α → Recorded β) (calls : List Call) :
    (reply.give call >>= next).run.run calls = match reply with
      | .answer value => (next (.ok value)).run.run (calls ++ [call])
      | .failure error => (next (.error error)).run.run (calls ++ [call])
      | .crash reason => (.error reason, calls ++ [call]) := by
  cases reply <;> rfl

section

variable {script : Script} {locations : Locations}

theorem probe_of_marker (h : script.pathExists (locations.marker vrfModule) = .answer true) :
    script.probe locations =
      (.ok (.ok .marker), [.pathExists (locations.marker vrfModule)]) := by
  show (((script.pathExists _).give _ >>= _ : Recorded Outcome).run.run []).run = _
  rw [run_give_bind, h]
  rfl

theorem probe_of_markerCrash {reason : Crash}
    (h : script.pathExists (locations.marker vrfModule) = .crash reason) :
    script.probe locations = (.error reason, [.pathExists (locations.marker vrfModule)]) := by
  show (((script.pathExists _).give _ >>= _ : Recorded Outcome).run.run []).run = _
  rw [run_give_bind, h]
  rfl

theorem run_readRegistry (calls : List Call) :
    (script.reader.readText locations.registry >>= fun answer =>
        (return concludeFrom answer : Recorded Outcome)).run.run calls =
      (match (script.readText locations.registry).crash? with
        | some reason => .error reason
        | none => .ok (conclusion (script.readText locations.registry)),
        calls ++ [.readText locations.registry]) := by
  show ((script.readText _).give _ >>= _ : Recorded Outcome).run.run calls = _
  rw [run_give_bind]
  cases script.readText locations.registry <;> rfl

theorem probe_of_undecided (h : Undecided (script.pathExists (locations.marker vrfModule))) :
    script.probe locations =
      (match (script.readText locations.registry).crash? with
        | some reason => .error reason
        | none => .ok (conclusion (script.readText locations.registry)),
        [.pathExists (locations.marker vrfModule), .readText locations.registry]) := by
  show (((script.pathExists _).give _ >>= _ : Recorded Outcome).run.run []).run = _
  rw [run_give_bind]
  rcases h with h | ⟨error, h⟩
  · rw [h]
    exact run_readRegistry _
  · rw [h]
    exact run_readRegistry _

/-- The task ends as the probe does, with an outcome in the place of a crash. -/
theorem probeInTask_eq : script.probeInTask locations =
    (match (script.probe locations).1 with
      | .ok outcome => outcome
      | .error crash => .error (.inconclusive ⟨.other, crashReport crash⟩),
      (script.probe locations).2) := by
  have hb : script.probeInTask locations = ((match (script.probe locations).1 with
      | .ok outcome => pure outcome
      | .error crash => pure (.error (.inconclusive ⟨.other, crashReport crash⟩)) :
      StateM (List Call) Outcome).run (script.probe locations).2).run := rfl
  rw [hb]
  cases (script.probe locations).1 <;> rfl

/-! ### The law -/

theorem reply_cases (marker : Reply Bool) :
    marker = .answer true ∨ (∃ reason, marker = .crash reason) ∨ Undecided marker := by
  cases marker with
  | answer found =>
    cases found with
    | true => exact .inl rfl
    | false => exact .inr (.inr (.inl rfl))
  | failure error => exact .inr (.inr (.inr ⟨error, rfl⟩))
  | crash reason => exact .inr (.inl ⟨reason, rfl⟩)

theorem conclusion_eq_notLoaded {registry : Reply String}
    (h : conclusion registry = .error .notLoaded) :
    ∃ text, registry = .answer text ∧ Registry.isListed text vrfModule = false := by
  cases registry with
  | answer text =>
    rw [conclusion] at h
    split at h
    · cases h
    · rename_i hl
      exact ⟨text, rfl, Bool.eq_false_iff.2 hl⟩
  | failure error => cases h
  | crash reason => cases h

theorem conclusion_ne_marker (registry : Reply String) : conclusion registry ≠ .ok .marker := by
  intro h
  cases registry with
  | answer text =>
    rw [conclusion] at h
    split at h <;> cases h
  | failure error => cases h
  | crash reason => cases h

theorem probeInTask_of_undecided
    (h : Undecided (script.pathExists (locations.marker vrfModule))) :
    script.probeInTask locations = (conclusion (script.readText locations.registry),
      [.pathExists (locations.marker vrfModule), .readText locations.registry]) := by
  rw [probeInTask_eq, probe_of_undecided h]
  cases script.readText locations.registry <;> rfl

theorem probeLaw_inTask : ProbeLaw script locations (script.probeInTask locations).1
    (script.probeInTask locations).2 := by
  rcases reply_cases (script.pathExists (locations.marker vrfModule)) with h | ⟨reason, h⟩ | h
  · rw [probeInTask_eq, probe_of_marker h]
    constructor <;> simp [h, Undecided]
  · rw [probeInTask_eq, probe_of_markerCrash h]
    constructor <;> simp [h, Undecided]
  · have hc := conclusion_ne_marker (script.readText locations.registry)
    rw [probeInTask_of_undecided h]
    refine ⟨?_, ?_, ?_, fun _ => rfl, fun ha => ⟨by simp, conclusion_eq_notLoaded ha⟩⟩
    · rcases h with h | ⟨error, h⟩ <;> simp [h]
    · simp [h]
    · rcases h with h | ⟨error, h⟩ <;> simp [h, hc]

theorem probeInTask_of_ok {outcome : Outcome} {calls : List Call}
    (h : script.probe locations = (.ok outcome, calls)) :
    script.probeInTask locations = (outcome, calls) := by
  rw [probeInTask_eq, h]

theorem Undecided.crash? {marker : Reply Bool} (h : Undecided marker) : marker.crash? = none := by
  rcases h with rfl | ⟨error, rfl⟩ <;> rfl

/-- A probe crashes exactly if one of the calls that it makes does. -/
theorem probe_eq_error_iff {reason : Crash} : (script.probe locations).1 = .error reason ↔
    ∃ call ∈ (script.probe locations).2, script.crash? call = some reason := by
  rcases reply_cases (script.pathExists (locations.marker vrfModule)) with h | ⟨crash, h⟩ | h
  · rw [probe_of_marker h]
    simp [Script.crash?, h, Reply.crash?]
  · rw [probe_of_markerCrash h]
    simp [Script.crash?, h, Reply.crash?]
  · rw [probe_of_undecided h]
    simp only [List.mem_cons, List.not_mem_nil, or_false, exists_eq_or_imp, exists_eq_left,
      Script.crash?, h.crash?]
    cases (script.readText locations.registry).crash? <;> simp

end

/-- The law of the probe, in the calling task and in a task of its own. Without a crash among the
calls that are made both come to the same; with one, the task of its own is inconclusive. -/
theorem probe_law (script : Script) (locations : Locations) :
    ProbeLaw script locations (script.probeInTask locations).1
      (script.probeInTask locations).2 ∧
    (∀ outcome calls, script.probe locations = (.ok outcome, calls) →
      ProbeLaw script locations outcome calls) ∧
    ((∀ call ∈ (script.probe locations).2, script.crash? call = none) →
      script.probe locations =
        (.ok (script.probeInTask locations).1, (script.probeInTask locations).2)) ∧
    ∀ call ∈ (script.probeInTask locations).2, ∀ reason, script.crash? call = some reason →
      (script.probeInTask locations).1 = .error (.inconclusive ⟨.other, crashReport reason⟩) := by
  refine ⟨probeLaw_inTask, ?ended, ?uncrashed, ?crashed⟩
  case ended =>
    intro outcome calls h
    have hl : ProbeLaw script locations (script.probeInTask locations).1
        (script.probeInTask locations).2 := probeLaw_inTask
    rwa [probeInTask_of_ok h] at hl
  case uncrashed =>
    intro h
    cases hp : (script.probe locations).1 with
    | ok outcome => rw [probeInTask_of_ok (Prod.ext hp rfl), ← hp]
    | error reason =>
      obtain ⟨call, hcall, hcrash⟩ := probe_eq_error_iff.1 hp
      rw [h call hcall] at hcrash
      cases hcrash
  case crashed =>
    intro call hcall reason hcrash
    rw [probeInTask_eq] at hcall ⊢
    rw [probe_eq_error_iff.2 ⟨call, hcall, hcrash⟩]

theorem probe_law_crashes :
    let slow : Reply Bool := .failure ⟨.timedOut, "slow"⟩
    let unreached : Script := ⟨fun _ => .answer true, fun _ => .crash ⟨"late"⟩⟩
    let reached : Script := ⟨fun _ => slow, fun _ => .crash ⟨"late"⟩⟩
    let silent : Script := ⟨fun _ => slow, fun _ => .answer "vrf"⟩
    ((∀ call ∈ (unreached.probe .standard).2, unreached.crash? call = none) ∧
      unreached.probe .standard = (.ok (unreached.probeInTask .standard).1,
        (unreached.probeInTask .standard).2)) ∧
      (reached.probeInTask .standard).1 =
        .error (.inconclusive ⟨.other, crashReport ⟨"late"⟩⟩) ∧
      Undecided slow ∧ (silent.probeInTask .standard).1 = .error .notLoaded := by
  intro slow unreached reached silent
  have hcalls : ∀ call ∈ (unreached.probe .standard).2, unreached.crash? call = none := by
    intro call hc
    rw [List.mem_singleton.1 hc]
    rfl
  have hslow : Undecided slow := .inr ⟨_, rfl⟩
  have hread : .readText Locations.standard.registry ∈ (reached.probeInTask .standard).2 :=
    .tail _ (.head _)
  have hregistry := (probe_law silent .standard).1.registry hslow
  exact ⟨⟨hcalls, (probe_law unreached .standard).2.2.1 hcalls⟩,
    (probe_law reached .standard).2.2.2 _ hread ⟨"late"⟩ rfl, hslow, hregistry⟩

end VrfPresence
