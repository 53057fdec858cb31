import VrfPresence.Proofs.Settings.Assignments

/-!
# Settings in flat documents

Which flat documents are settings, which errors the others give, and what the settings are. A
document is refused for a key given twice, or for a policy that is none, before any empty
location in it is.
-/

namespace VrfPresence

open Toml

/-- A key of the settings is given twice, or the policy a text that names none. -/
def Misassigned (assignments : List (String × String)) : Prop :=
  (∃ key ∈ ["policy", "sys_module_dir", "proc_modules"],
    2 ≤ (valuesOf key assignments).length) ∨
  ∃ text ∈ valuesOf "policy" assignments, ∃ unknown, Policy.parse text = .error unknown

instance (text : String) : Decidable (∃ unknown, Policy.parse text = .error unknown) :=
  match Policy.parse text with
  | .ok _ => isFalse (by rintro ⟨unknown, ⟨⟩⟩)
  | .error unknown => isTrue ⟨unknown, rfl⟩

instance (assignments : List (String × String)) : Decidable (Misassigned assignments) :=
  inferInstanceAs (Decidable (_ ∨ _))

theorem misassigned_iff (assignments : List (String × String)) :
    Misassigned assignments ↔ ∃ field : Field, ¬ field.Fits (valuesOf field.key assignments) := by
  constructor
  · rintro (⟨key, hk, hl⟩ | ⟨text, ht, unknown, hu⟩)
    · obtain ⟨field, rfl⟩ : ∃ field : Field, field.key = key := by
        simp only [List.mem_cons, List.not_mem_nil, or_false] at hk
        rcases hk with rfl | rfl | rfl
        · exact ⟨.policy, rfl⟩
        · exact ⟨.moduleDirectory, rfl⟩
        · exact ⟨.registry, rfl⟩
      refine ⟨field, fun hf => ?_⟩
      have honce := hf.once
      omega
    · refine ⟨.policy, fun hf => ?_⟩
      obtain ⟨policy, hp⟩ := hf.takes text ht
      rw [hp] at hu
      cases hu
  · rintro ⟨field, hf⟩
    by_cases hl : (valuesOf field.key assignments).length ≤ 1
    · have htakes : ¬ ∀ text ∈ valuesOf field.key assignments, field.Takes text :=
        fun ht => hf ⟨hl, ht⟩
      cases field with
      | policy =>
        simp only [not_forall] at htakes
        obtain ⟨text, ht, hp⟩ := htakes
        refine .inr ⟨text, ht, ?_⟩
        cases hr : Policy.parse text with
        | ok policy => exact absurd ⟨policy, hr⟩ hp
        | error unknown => exact ⟨unknown, rfl⟩
      | moduleDirectory => exact absurd (fun _ _ => trivial) htakes
      | registry => exact absurd (fun _ _ => trivial) htakes
    · refine .inl ⟨field.key, ?_, by omega⟩
      cases field <;> decide

/-! ### Reading a document -/

/-- Every field holds the one text that it is assigned, or none. -/
def Settings.Holds (settings : Settings) (assignments : List (String × String)) : Prop :=
  ∀ field, (settings.text field).toList = valuesOf field.key assignments

theorem Settings.Holds.text_eq_some_iff {settings : Settings}
    {assignments : List (String × String)} (h : settings.Holds assignments) {field : Field}
    {text : String} : settings.text field = some text ↔ (field.key, text) ∈ assignments := by
  rw [← mem_valuesOf, ← h field, Option.mem_toList]

theorem Settings.Holds.not_misassigned {settings : Settings} {assignments : List (String × String)}
    (h : settings.Holds assignments) : ¬ Misassigned assignments := by
  rw [misassigned_iff]
  rintro ⟨field, hf⟩
  exact hf (h field ▸ settings.fits_text field)

theorem Settings.ofSource_source {document : FlatDocument} (hv : document.Valid) :
    (∃ settings, Settings.ofSource document.source = .ok settings ∧
      settings.Holds document.assignments) ∨
    (∃ problem, Settings.ofSource document.source = .error problem) ∧
      Misassigned document.assignments := by
  obtain ⟨pairs, hparse, hpairs⟩ := Document.parse_source hv
  have hof : Settings.ofSource document.source = pairs.foldlM (Settings.takePair 0) {} := by
    rw [Settings.ofSource, hparse]
    show (pairs.foldlM (Settings.takePair 0) {} >>= fun settings => pure settings) = _
    exact bind_pure _
  have hpending : ∀ field, ({} : Settings).pending document.assignments field =
      valuesOf field.key document.assignments := by
    intro field
    cases field <;> rfl
  rw [hof, misassigned_iff]
  rcases Settings.foldlM_takePair 0 hpairs {} with ⟨settings, hs, ht⟩ | ⟨hs, field, hf⟩
  · exact .inl ⟨settings, hs, fun field => (ht field).trans (hpending field)⟩
  · exact .inr ⟨hs, field, hpending field ▸ hf⟩

theorem Settings.parse_of_ofSource {source : String} {settings : Settings}
    (h : Settings.ofSource source = .ok settings) : Settings.parse source = settings.check := by
  rw [Settings.parse, h]

/-- Settings that a document holds are the settings in its source, once they are checked. -/
theorem Settings.Holds.parse_eq {settings : Settings} {document : FlatDocument}
    (h : settings.Holds document.assignments) (hv : document.Valid) :
    Settings.parse document.source = settings.check := by
  rcases ofSource_source hv with ⟨read, hr, hh⟩ | ⟨-, hm⟩
  · have heq : read = settings :=
      Settings.ext_text fun field => eq_of_toList_eq ((hh field).trans (h field).symm)
    rw [← heq]
    exact parse_of_ofSource hr
  · exact absurd hm h.not_misassigned

/-! ### Settings that were written -/

/-- What the settings assign to the keys of a document. -/
def Settings.assignments (settings : Settings) : List (String × String) :=
  [Field.policy, .moduleDirectory, .registry].filterMap fun field =>
    (settings.text field).map fun text => (field.key, text)

theorem Settings.holds_assignments (settings : Settings) : settings.Holds settings.assignments := by
  intro field
  cases hp : settings.text .policy <;> cases hd : settings.text .moduleDirectory <;>
    cases hr : settings.text .registry <;> cases field <;>
      simp [assignments, hp, hd, hr, valuesOf, Field.key]

theorem Field.isBareKey_key (field : Field) : IsBareKey field.key := by
  cases field <;> decide

theorem Settings.valid_written (settings : Settings) :
    (FlatDocument.written settings.assignments).Valid := by
  refine FlatDocument.valid_written fun assignment ha => ?_
  obtain ⟨field, -, hf⟩ := List.mem_filterMap.1 ha
  obtain ⟨text, -, rfl⟩ := Option.map_eq_some_iff.1 hf
  exact field.isBareKey_key

theorem Settings.parse_written (settings : Settings) :
    Settings.parse (FlatDocument.written settings.assignments).source = settings.check := by
  refine Holds.parse_eq ?_ settings.valid_written
  rw [FlatDocument.assignments_written]
  exact settings.holds_assignments

/-! ### What the settings are -/

/-- What a key is assigned, or the default where it is assigned nothing. -/
def InForce (assignments : List (String × String)) (key default text : String) : Prop :=
  (key, text) ∈ assignments ∨ (∀ other, (key, other) ∉ assignments) ∧ text = default

theorem inForce_getD {assignments : List (String × String)} {key : String} {given : Option String}
    (h : ∀ text, given = some text ↔ (key, text) ∈ assignments) (default : String) :
    InForce assignments key default (given.getD default) := by
  cases hg : given with
  | none =>
    refine .inr ⟨fun other ho => ?_, rfl⟩
    rw [← h other, hg] at ho
    cases ho
  | some text => exact .inl ((h text).1 hg)

/-- The settings that assignments decide on, and what is in force with them. -/
structure Settings.Decoded (settings : Settings) (assignments : List (String × String)) :
    Prop where
  policy : ∀ policy, settings.policy = some policy ↔
    ∃ text, ("policy", text) ∈ assignments ∧ Policy.parse text = .ok policy
  policy_none : settings.policy = none ↔ ∀ text, ("policy", text) ∉ assignments
  moduleDirectory : ∀ text,
    settings.moduleDirectory = some text ↔ ("sys_module_dir", text) ∈ assignments
  registry : ∀ text, settings.registry = some text ↔ ("proc_modules", text) ∈ assignments
  policyInForce : InForce assignments "policy" "strict" settings.effectivePolicy.name
  directoryInForce :
    InForce assignments "sys_module_dir" "/sys/module" settings.locations.moduleDirectory
  registryInForce :
    InForce assignments "proc_modules" "/proc/modules" settings.locations.registry

theorem Settings.Holds.decoded {settings : Settings} {assignments : List (String × String)}
    (h : settings.Holds assignments) : settings.Decoded assignments := by
  have htext : ∀ field text, settings.text field = some text ↔ (field.key, text) ∈ assignments :=
    fun field text => h.text_eq_some_iff
  have hname : settings.effectivePolicy.name = (settings.text .policy).getD "strict" := by
    cases hp : settings.policy <;> simp [effectivePolicy, Settings.text, hp, Policy.standard,
      Policy.name]
  constructor
  case policy =>
    intro policy
    have hp : settings.policy = some policy ↔ settings.text .policy = some policy.name := by
      refine ⟨fun hs => congrArg (Option.map Policy.name) hs, fun hs => ?_⟩
      obtain ⟨held, hh, hn⟩ := Option.map_eq_some_iff.1 hs
      rw [hh, Policy.name_injective hn]
    rw [hp, htext]
    constructor
    · exact fun hm => ⟨policy.name, hm, Policy.parse_eq_ok_iff.2 rfl⟩
    · rintro ⟨text, hm, ht⟩
      exact Policy.parse_eq_ok_iff.1 ht ▸ hm
  case policy_none =>
    have hn : settings.policy = none ↔ settings.text .policy = none := Option.map_eq_none_iff.symm
    rw [hn, Option.eq_none_iff_forall_ne_some]
    exact forall_congr' fun text => not_congr (htext .policy text)
  case moduleDirectory => exact htext .moduleDirectory
  case registry => exact htext .registry
  case policyInForce => exact hname ▸ inForce_getD (htext .policy) "strict"
  case directoryInForce => exact inForce_getD (htext .moduleDirectory) "/sys/module"
  case registryInForce => exact inForce_getD (htext .registry) "/proc/modules"

/-- Every flat document is refused for what it assigns, or decides the settings. -/
theorem Settings.parse_flatDocument (document : FlatDocument) (hv : document.Valid) :
    (Misassigned document.assignments →
      ∃ problem, Settings.parse document.source = .error (.malformed document.source problem)) ∧
    (¬ Misassigned document.assignments →
      (("sys_module_dir", "") ∈ document.assignments →
        Settings.parse document.source = .error (.emptyPath .moduleDirectory) ∧
          (SettingsError.emptyPath .moduleDirectory).message =
            "Invalid configuration: sys_module_dir is empty") ∧
      (("sys_module_dir", "") ∉ document.assignments →
        ("proc_modules", "") ∈ document.assignments →
        Settings.parse document.source = .error (.emptyPath .registry) ∧
          (SettingsError.emptyPath .registry).message =
            "Invalid configuration: proc_modules is empty") ∧
      (("sys_module_dir", "") ∉ document.assignments →
        ("proc_modules", "") ∉ document.assignments →
        ∃ settings, Settings.parse document.source = .ok settings ∧
          settings.Decoded document.assignments)) := by
  rcases ofSource_source hv with ⟨settings, hs, hh⟩ | ⟨⟨problem, hp⟩, hm⟩
  · refine ⟨fun hm => absurd hm hh.not_misassigned, fun _ => ?_⟩
    have hdirectory : settings.moduleDirectory = some "" ↔
        ("sys_module_dir", "") ∈ document.assignments := hh.decoded.moduleDirectory ""
    have hregistry : settings.registry = some "" ↔
        ("proc_modules", "") ∈ document.assignments := hh.decoded.registry ""
    rw [parse_of_ofSource hs, check, ← hdirectory, ← hregistry]
    refine ⟨fun hd => ?_, fun hd hr => ?_, fun hd hr => ?_⟩
    · rw [if_pos hd]
      exact ⟨rfl, rfl⟩
    · rw [if_neg hd, if_pos hr]
      exact ⟨rfl, rfl⟩
    · rw [if_neg hd, if_neg hr]
      exact ⟨settings, rfl, hh.decoded⟩
  · refine ⟨fun _ => ⟨problem, ?_⟩, fun hn => absurd hm hn⟩
    rw [parse, hp]

theorem Settings.parse_flatDocument_unordered :
    let unordered : FlatDocument :=
      ⟨[(.comment [' '] ['q'], .returnNewline), (.written "proc_modules" "a\"\n", .newline),
        (.written "x" "", .newline), (.written "x" "", .newline)], .written "policy" "warn"⟩
    let twice : FlatDocument :=
      ⟨[(.written "policy" "warn", .newline), (.written "sys_module_dir" "", .newline)],
        .written "policy" "warn"⟩
    (unordered.Valid ∧ ∃ settings, Settings.parse unordered.source = .ok settings ∧
      settings.policy = some .warn ∧ settings.locations = ⟨"/sys/module", "a\"\n"⟩) ∧
    twice.Valid ∧ ∃ problem,
      Settings.parse twice.source = .error (.malformed twice.source problem) := by
  intro unordered twice
  have hline : ∀ key ∈ ["policy", "sys_module_dir", "proc_modules", "x"], ∀ value,
      (FlatLine.written key value).Valid := by
    have hbare : ∀ key ∈ ["policy", "sys_module_dir", "proc_modules", "x"], IsBareKey key := by
      decide
    exact fun key hk value => FlatLine.valid_written (hbare key hk) value
  have hu : unordered.Valid := by
    refine ⟨?_, hline "policy" (by decide) "warn"⟩
    simp only [unordered, List.forall_mem_cons]
    exact ⟨⟨by decide, List.forall_mem_singleton.2 rfl⟩, hline _ (by decide) _,
      hline _ (by decide) _, hline _ (by decide) _, nofun⟩
  have ht : twice.Valid := by
    refine ⟨?_, hline "policy" (by decide) "warn"⟩
    simp only [twice, List.forall_mem_cons]
    exact ⟨hline _ (by decide) _, hline _ (by decide) _, nofun⟩
  refine ⟨⟨hu, ?_⟩, ht, (parse_flatDocument twice ht).1 (by decide)⟩
  obtain ⟨settings, hs, hd⟩ := ((parse_flatDocument unordered hu).2 (by decide)).2.2
    (by decide) (by decide)
  have hpolicy : settings.policy = some .warn := (hd.policy .warn).2 ⟨"warn", by decide, rfl⟩
  have hregistry : settings.registry = some "a\"\n" := (hd.registry _).2 (by decide)
  have hdirectory : settings.moduleDirectory = none := by
    refine Option.eq_none_iff_forall_ne_some.2 fun text ht => ?_
    have hm := (hd.moduleDirectory text).1 ht
    simp [unordered, FlatDocument.assignments, FlatLine.assignments, FlatLine.written] at hm
  refine ⟨settings, hs, hpolicy, ?_⟩
  rw [Settings.locations, hdirectory, hregistry]
  rfl

end VrfPresence
