import VrfPresence.Proofs.FileSystem.History
import VrfPresence.Proofs.Path.Joined
import VrfPresence.Proofs.Probe.Answers

/-!
# The probe and the spelling of paths

A store in memory keeps components, so that the spelling of its steps leaves no trace. A path
that is asked for leaves one: a failure shows it as it was spelled. Two probes that differ in
spelling alone come to the same outcome, with the same text up to the path it shows.
-/

namespace VrfPresence

open FileSystem VrfPresence.Path
open FileSystem.MemoryStore (Step failure)

/-! ### Steps -/

/-- The same step at another spelling of its path. -/
inductive Respelled : Step → Step → Prop
  | directory {path other : String} (h : same path other = true) :
      Respelled (.directory path) (.directory other)
  | file {path other : String} (h : same path other = true) (text : String) :
      Respelled (.file path text) (.file other text)
  | deny {path other : String} (h : same path other = true) : Respelled (.deny path) (.deny other)

theorem take_respelled {step other : Step} (h : Respelled step other) (store : MemoryStore) :
    store.take step = store.take other := by
  cases h with
  | directory h =>
    simp only [MemoryStore.take, MemoryStore.addDirectory, same_iff_components.1 h]
  | file h text =>
    simp only [MemoryStore.take, MemoryStore.addFile, same_iff_components.1 h]
  | deny h =>
    simp only [MemoryStore.take, MemoryStore.deny, same_iff_components.1 h]

theorem foldl_take_respelled {history other : List Step} (h : List.Forall₂ Respelled history other)
    (store : MemoryStore) :
    history.foldl MemoryStore.take store = other.foldl MemoryStore.take store := by
  induction h generalizing store with
  | nil => rfl
  | cons hstep _ ih => rw [List.foldl_cons, List.foldl_cons, take_respelled hstep, ih]

/-! ### Answers -/

/-- The same answer, but that a failure shows the path it was asked for. -/
inductive AlikeAnswers {α : Type} (path other : String) :
    Except AccessError α → Except AccessError α → Prop
  | answer (value : α) : AlikeAnswers path other (.ok value) (.ok value)
  | failure (kind : FailureKind) (reason : String) :
      AlikeAnswers path other (.error (failure kind path reason)) (.error (failure kind other reason))

section

variable {path other : String}

theorem views_same (h : same path other = true) (store : MemoryStore) :
    store.isDenied path = store.isDenied other ∧
      store.isDirectory path = store.isDirectory other ∧ store.text? path = store.text? other := by
  simp only [MemoryStore.isDenied, MemoryStore.isDirectory, MemoryStore.text?,
    same_iff_components.1 h, and_self]

theorem pathExists_alike (h : same path other = true) (store : MemoryStore) :
    AlikeAnswers path other (store.pathExists path) (store.pathExists other) := by
  obtain ⟨hdenied, hdirectory, htext⟩ := views_same h store
  rw [MemoryStore.pathExists, MemoryStore.pathExists, hdenied, hdirectory, htext]
  cases store.isDenied other with
  | true => exact .failure _ _
  | false => exact .answer _

theorem readText_alike (h : same path other = true) (store : MemoryStore) :
    AlikeAnswers path other (store.readText path) (store.readText other) := by
  obtain ⟨hdenied, hdirectory, htext⟩ := views_same h store
  rw [MemoryStore.readText, MemoryStore.readText, hdenied, hdirectory, htext]
  cases store.isDenied other with
  | true => exact .failure _ _
  | false =>
    cases store.text? other with
    | some text => exact .answer text
    | none => cases store.isDirectory other <;> exact .failure _ _

theorem AlikeAnswers.eq_ok_iff {α : Type} {a b : Except AccessError α}
    (h : AlikeAnswers path other a b) (value : α) : a = .ok value ↔ b = .ok value := by
  cases h with
  | answer value => rfl
  | failure kind reason => simp

end

/-! ### Outcomes -/

/-- The same outcome, but that a failure shows the path of the registry. -/
inductive AlikeOutcomes (path other : String) : Outcome → Outcome → Prop
  | found (detection : Detection) : AlikeOutcomes path other (.ok detection) (.ok detection)
  | notLoaded : AlikeOutcomes path other (.error .notLoaded) (.error .notLoaded)
  | inconclusive (kind : FailureKind) (reason : String) :
      AlikeOutcomes path other (.error (.inconclusive (failure kind path reason)))
        (.error (.inconclusive (failure kind other reason)))

theorem concludeFrom_alike {path other : String} {a b : Except AccessError String}
    (h : AlikeAnswers path other a b) :
    AlikeOutcomes path other (concludeFrom a) (concludeFrom b) := by
  cases h with
  | failure kind reason => exact .inconclusive kind reason
  | answer text =>
    rw [concludeFrom]
    split
    · exact .found .registry
    · exact .notLoaded

/-- The texts of two failures, where they differ, differ in the path they show. -/
theorem AlikeOutcomes.message {path other : String} {cause otherCause : ProbeFailure}
    (h : AlikeOutcomes path other (.error cause) (.error otherCause)) :
    cause.message = otherCause.message ∨ ∃ before behind,
      cause.message = before ++ path ++ behind ∧
      otherCause.message = before ++ other ++ behind := by
  cases h with
  | notLoaded => exact .inl rfl
  | inconclusive kind reason =>
    have ht : ∀ shown, (ProbeFailure.inconclusive (failure kind shown reason)).message =
        "unable to check kernel modules: " ++ shown ++ (": " ++ reason) := by
      intro shown
      show "unable to check kernel modules: " ++ (shown ++ ": " ++ reason) = _
      rw [@String.append_assoc shown ": " reason]
      exact String.append_assoc.symm
    exact .inr ⟨_, _, ht path, ht other⟩

/-! ### Probes -/

theorem detect_alike {locations others : Locations} (h : locations.same others = true)
    (store : MemoryStore) :
    AlikeOutcomes locations.registry others.registry (detect store.reader locations).run
      (detect store.reader others).run := by
  obtain ⟨hdirectory, hregistry⟩ := Bool.and_eq_true_iff.1 h
  have hvrf : IsComponent vrfModule := ⟨by decide, by decide, by decide⟩
  have hmarker : same (locations.marker vrfModule) (others.marker vrfModule) = true :=
    (same_join_iff hvrf hvrf _ _).2 ⟨hdirectory, rfl⟩
  have hm := (pathExists_alike hmarker store).eq_ok_iff true
  have hr := concludeFrom_alike (readText_alike hregistry store)
  rw [detect_run, detect_run]
  by_cases he : store.pathExists (others.marker vrfModule) = .ok true
  · rw [if_pos (show (store.reader.pathExists _).run = _ from hm.2 he),
      if_pos (show (store.reader.pathExists _).run = _ from he)]
    exact .found .marker
  · rw [if_neg (show (store.reader.pathExists _).run ≠ _ from mt hm.1 he),
      if_neg (show (store.reader.pathExists _).run ≠ _ from he)]
    exact hr

/-- A respelled history and respelled locations give the same outcome, and texts that differ in the
path they show at most. So do locations that are the same, on any store. -/
theorem detect_respelled {history other : List Step} {locations others : Locations}
    (hsteps : List.Forall₂ Respelled history other) (hlocations : locations.same others = true) :
    AlikeOutcomes locations.registry others.registry
        (detect (MemoryStore.after history).reader locations).run
        (detect (MemoryStore.after other).reader others).run ∧
      (∀ cause otherCause,
        (detect (MemoryStore.after history).reader locations).run = .error cause →
        (detect (MemoryStore.after other).reader others).run = .error otherCause →
        cause.message = otherCause.message ∨ ∃ before behind,
          cause.message = before ++ locations.registry ++ behind ∧
          otherCause.message = before ++ others.registry ++ behind) ∧
      ∀ store : MemoryStore, AlikeOutcomes locations.registry others.registry
        (detect store.reader locations).run (detect store.reader others).run := by
  have hstore : MemoryStore.after history = MemoryStore.after other :=
    foldl_take_respelled hsteps .empty
  have halike := detect_alike hlocations
  rw [hstore]
  refine ⟨halike _, fun cause otherCause hc ho => ?_, halike⟩
  have hfailed := halike (MemoryStore.after other)
  rw [hc, ho] at hfailed
  exact hfailed.message

/-- A leading dot counts, unlike the others: the marker is missed in both spellings, and the registry
shows the module where it may be read. Without the dot the marker is found. -/
theorem detect_respelled_leading_dot :
    let history : List Step := [.directory "sys/vrf", .file "./proc//m" "vrf 1",
      .deny "./proc/m/.", .file "./list" "vrf 1"]
    let other : List Step := [.directory "sys//vrf/", .file "./proc/m" "vrf 1",
      .deny ".//proc/./m", .file ".//list/." "vrf 1"]
    let store := (MemoryStore.after history).reader
    let otherStore := (MemoryStore.after other).reader
    let locations : Locations := ⟨"./sys", "./proc/m/"⟩
    let others : Locations := ⟨"./sys/.", "./proc/./m"⟩
    (detect store locations).run =
        .error (.inconclusive ⟨.permissionDenied, "./proc/m/: permission denied"⟩) ∧
      List.Forall₂ Respelled history other ∧ locations.same others = true ∧
      AlikeOutcomes locations.registry others.registry
        (detect store locations).run (detect otherStore others).run ∧
      ((detect store ⟨"./sys", "./list"⟩).run = .ok .registry ∧
        AlikeOutcomes "./list" "./list/" (detect store ⟨"./sys", "./list"⟩).run
          (detect otherStore ⟨"./sys/", "./list/"⟩).run) ∧
      ((detect store ⟨"sys", "./proc/m"⟩).run = .ok .marker ∧
        AlikeOutcomes "./proc/m" ".//proc/m" (detect store ⟨"sys", "./proc/m"⟩).run
          (detect otherStore ⟨"sys/.", ".//proc/m"⟩).run) := by
  intro history other store otherStore locations others
  have hsteps : List.Forall₂ Respelled history other :=
    .cons (.directory (by decide)) <| .cons (.file (by decide) "vrf 1") <|
      .cons (.deny (by decide)) <| .cons (.file (by decide) "vrf 1") .nil
  have hlocations : locations.same others = true := by decide
  have hlisted : Locations.same ⟨"./sys", "./list"⟩ ⟨"./sys/", "./list/"⟩ = true := by decide
  have hmarked : Locations.same ⟨"sys", "./proc/m"⟩ ⟨"sys/.", ".//proc/m"⟩ = true := by decide
  exact ⟨by decide, hsteps, hlocations, (detect_respelled hsteps hlocations).1,
    ⟨by decide, (detect_respelled hsteps hlisted).1⟩,
    ⟨by decide, (detect_respelled hsteps hmarked).1⟩⟩

end VrfPresence
