import VrfPresence.Proofs.FileSystem.Listing
import VrfPresence.Proofs.Probe.Answers

/-!
# The probe in memory and on a machine

Laid out in a store in memory, a listing is as good for the probe as on a machine. The two
answer with different failures, since a store knows nothing of what lies above a path, but
always agree on the marker and on the text of the registry, and no more counts.
-/

namespace VrfPresence

open FileSystem
open FileSystem.MemoryStore (Step)

/-- The same outcome, up to the cause of an inconclusive one. -/
inductive Agree : Outcome → Outcome → Prop
  | found (detection : Detection) : Agree (.ok detection) (.ok detection)
  | inconclusive (cause other : AccessError) :
    Agree (.error (.inconclusive cause)) (.error (.inconclusive other))
  | notLoaded : Agree (.error .notLoaded) (.error .notLoaded)

theorem Agree.refl (outcome : Outcome) : Agree outcome outcome := by
  cases outcome with
  | ok detection => exact .found detection
  | error failure =>
    cases failure with
    | inconclusive cause => exact .inconclusive cause cause
    | notLoaded => exact .notLoaded

/-! ### Outcomes by their answers -/

theorem concludeFrom_agree {a b : Except AccessError String}
    (h : ∀ text, a = .ok text ↔ b = .ok text) : Agree (concludeFrom a) (concludeFrom b) := by
  cases a with
  | ok text =>
    rw [(h text).1 rfl]
    exact .refl _
  | error cause =>
    cases b with
    | ok text => cases (h text).2 rfl
    | error other => exact .inconclusive cause other

theorem agree_of_answers {a b : Reader Id} {locations : Locations}
    (hmarker : (a.pathExists (locations.marker vrfModule)).run = .ok true ↔
      (b.pathExists (locations.marker vrfModule)).run = .ok true)
    (hregistry : ∀ text, (a.readText locations.registry).run = .ok text ↔
      (b.readText locations.registry).run = .ok text) :
    Agree (detect a locations).run (detect b locations).run := by
  rw [detect_run, detect_run]
  simp only [hmarker]
  split
  · exact .found .marker
  · exact concludeFrom_agree hregistry

/-! ### One listing on both -/

/-- The probe comes to the same on a machine and in memory wherever both hold one listing,
whatever the order in which the store was made. -/
theorem standIn_agrees (items : List ListedItem) (history : List Step)
    (hclean : ∀ item ∈ items, Clean item.path) (hapart : Apart items)
    (hmakes : Makes history items) (locations : Locations)
    (hdirectory : Clean locations.moduleDirectory) (hregistry : Clean locations.registry) :
    Agree (detect (treeOf items).reader locations).run
      (detect (MemoryStore.after history).reader locations).run := by
  have hmarker : Spells (locations.marker vrfModule) _ := hdirectory.spells.join (by decide)
  have hspells := hregistry.spells
  apply agree_of_answers
  · show (treeOf items).pathExists _ = _ ↔ (MemoryStore.after history).pathExists _ = _
    rw [Tree.pathExists_eq_true_iff, hmakes.pathExists hclean hapart hmarker, Except.ok.injEq,
      Option.isSome_iff_exists]
    exact exists_congr fun node => resolve_treeOf hclean hapart hmarker node
  · intro text
    show (treeOf items).readText _ = _ ↔ (MemoryStore.after history).readText _ = _
    rw [Tree.readText_eq_ok_iff, hmakes.readText_eq_ok_iff hclean hapart hspells]
    exact resolve_treeOf hclean hapart hspells _

/-- A registry asked for below a file: the machine and the store fail differently. The registry in
its place and a marker are found on both. -/
theorem standIn_agrees_below_file :
    let items : List ListedItem := [.directory "sys/module/nf", .file "proc/modules" "vrf 1 0",
      .directory "box/vrf"]
    let history : List Step := [.file "proc/modules" "vrf 1 0", .directory "sys/module/nf",
      .directory "sys/module", .directory "sys", .directory "proc", .directory "box/vrf",
      .directory "box"]
    let machine := (treeOf items).reader
    let store := (MemoryStore.after history).reader
    let below : Locations := ⟨"sys/module", "proc/modules/vrf"⟩
    let listed : Locations := ⟨"sys/module", "proc/modules"⟩
    let marked : Locations := ⟨"box", "proc/modules/vrf"⟩
    (∀ item ∈ items, Clean item.path) ∧ Apart items ∧ Makes history items ∧
      ((detect machine below).run = .error (.inconclusive notDirectory) ∧
        (detect store below).run = .error (.inconclusive
          ⟨.notFound, "proc/modules/vrf: no such file or directory"⟩) ∧
        Agree (detect machine below).run (detect store below).run) ∧
      ((detect store listed).run = .ok .registry ∧
        Agree (detect machine listed).run (detect store listed).run) ∧
      ((detect store marked).run = .ok .marker ∧
        Agree (detect machine marked).run (detect store marked).run) := by
  intro items history machine store below listed marked
  have hclean : ∀ item ∈ items, Clean item.path := by decide
  have hfile : ∀ path text, ListedItem.file path text ∈ items →
      path = "proc/modules" ∧ text = "vrf 1 0" := by simp [items]
  have hapart : Apart items := by
    refine ⟨fun path text other ht ho => ?_, fun path text hm => ?_, fun path text hm => ?_⟩
    · rw [(hfile path text ht).2, (hfile path other ho).2]
    · rw [(hfile path text hm).1]
      decide
    · rw [(hfile path text hm).1]
      decide
  have hmakes : Makes history items := by decide
  have hagree := standIn_agrees items history hclean hapart hmakes
  exact ⟨hclean, hapart, hmakes,
    ⟨by decide, by decide, hagree below (by decide) (by decide)⟩,
    ⟨by decide, hagree listed (by decide) (by decide)⟩,
    ⟨by decide, hagree marked (by decide) (by decide)⟩⟩

end VrfPresence
