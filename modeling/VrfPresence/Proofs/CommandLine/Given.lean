import VrfPresence.Proofs.CommandLine.Lines
import VrfPresence.Proofs.Settings.Assignments

/-!
# What a command line gives

A line of written items that gives every option at most once, and asks for more records at most
once, is read as the invocation that it gives, in any order of the items.
-/

namespace VrfPresence.CommandLine

/-! ### Options and texts -/

/-- What was given for an option, as a text. -/
def Invocation.text (given : Invocation) : ValueOption → Option String
  | .config => given.settingsFile
  | .policy => given.settings.text .policy
  | .moduleDirectory => given.settings.text .moduleDirectory
  | .registry => given.settings.text .registry

theorem Invocation.ext_text {a b : Invocation} (h : ∀ option, a.text option = b.text option)
    (hv : a.verbose = b.verbose) : a = b := by
  have hsettings : a.settings = b.settings := by
    refine Settings.ext_text fun field => ?_
    cases field with
    | policy => exact h .policy
    | moduleDirectory => exact h .moduleDirectory
    | registry => exact h .registry
  have hfile : a.settingsFile = b.settingsFile := h .config
  cases a
  cases b
  simp_all

theorem Invocation.has_eq (given : Invocation) (option : ValueOption) :
    given.has option = (given.text option).isSome := by
  cases option with
  | config => rfl
  | policy => exact given.settings.has_eq .policy
  | moduleDirectory => rfl
  | registry => rfl

/-- A text that the option can be given. -/
def ValueOption.Takes : ValueOption → String → Prop
  | .config, text => text ≠ ""
  | .policy, text => ∃ policy, Policy.parse text = .ok policy
  | .moduleDirectory, text => text ≠ ""
  | .registry, text => text ≠ ""

theorem Invocation.give_takes {given : Invocation} {option : ValueOption} {value : String}
    (hfree : given.text option = none) (h : option.Takes value) :
    ∃ after, given.give option value = .ok after ∧ after.text option = some value ∧
      (∀ other, other ≠ option → after.text other = given.text other) ∧
      after.verbose = given.verbose := by
  have hhas : given.has option = false := by rw [has_eq, hfree, Option.isSome_none]
  have hgive : given.give option value = given.set value option := by
    rw [give, hhas]
    rfl
  have hpath : ∀ option, value ≠ "" → pathValue option value = .ok value := by
    intro option hne
    rw [pathValue, if_neg hne]
  rw [hgive]
  cases option with
  | config =>
    refine ⟨{ given with settingsFile := some value }, ?_, rfl, ?_, rfl⟩
    · rw [set, hpath .config h]
      rfl
    · intro other hne
      cases other with
      | config => exact absurd rfl hne
      | _ => rfl
  | policy =>
    obtain ⟨policy, hp⟩ := h
    refine ⟨{ given with settings.policy := some policy }, ?_, ?_, ?_, rfl⟩
    · rw [set, policyValue, hp]
      rfl
    · exact congrArg some (Policy.parse_eq_ok_iff.1 hp)
    · intro other hne
      cases other with
      | policy => exact absurd rfl hne
      | _ => rfl
  | moduleDirectory =>
    refine ⟨{ given with settings.moduleDirectory := some value }, ?_, rfl, ?_, rfl⟩
    · rw [set, hpath .moduleDirectory h]
      rfl
    · intro other hne
      cases other with
      | moduleDirectory => exact absurd rfl hne
      | _ => rfl
  | registry =>
    refine ⟨{ given with settings.registry := some value }, ?_, rfl, ?_, rfl⟩
    · rw [set, hpath .registry h]
      rfl
    · intro other hne
      cases other with
      | registry => exact absurd rfl hne
      | _ => rfl

/-! ### Lines -/

/-- The value that an item gives an option. -/
def Item.value? (option : ValueOption) : Item → Option String
  | .verbose => none
  | .option other value => if other = option then some value else none

theorem Item.values_cons_self (option : ValueOption) (value : String) (items : List Item) :
    (.option option value :: items).filterMap (·.value? option) =
      value :: items.filterMap (·.value? option) :=
  List.filterMap_cons_some (if_pos rfl)

theorem Item.values_cons_ne {option other : ValueOption} (h : option ≠ other) (value : String)
    (items : List Item) :
    (.option option value :: items).filterMap (·.value? other) =
      items.filterMap (·.value? other) :=
  List.filterMap_cons_none (if_neg h)

/-- Items that give all of an invocation, and nothing twice. -/
structure Gives (items : List Item) (invocation : Invocation) : Prop where
  values : ∀ option, items.filterMap (·.value? option) = (invocation.text option).toList
  verbose : items.count .verbose = invocation.verbose.toNat

/-- The options of an invocation have values that they can be given. -/
def Invocation.Proper (invocation : Invocation) : Prop :=
  ∀ option value, invocation.text option = some value → option.Takes value

/-- Only the paths are restricted: a policy is always one that can be named. -/
theorem Invocation.proper_iff (invocation : Invocation) : invocation.Proper ↔
    invocation.settingsFile ≠ some "" ∧ invocation.settings.moduleDirectory ≠ some "" ∧
      invocation.settings.registry ≠ some "" := by
  constructor
  · intro h
    exact ⟨fun he => h .config "" he rfl, fun he => h .moduleDirectory "" he rfl,
      fun he => h .registry "" he rfl⟩
  · rintro ⟨hfile, hdirectory, hregistry⟩ option value hv
    cases option with
    | config => exact fun he => hfile (he ▸ hv)
    | policy => exact (invocation.settings.fits_text .policy).takes value (Option.mem_toList.2 hv)
    | moduleDirectory => exact fun he => hdirectory (he ▸ hv)
    | registry => exact fun he => hregistry (he ▸ hv)

/-- What is held and what comes later are at most one. -/
theorem toList_append_cons {held all : Option String} {value : String} {rest : List String}
    (h : held.toList ++ value :: rest = all.toList) : held = none ∧ all = some value ∧ rest = [] := by
  cases all with
  | none => cases held <;> cases h
  | some text =>
    cases held with
    | none =>
      obtain ⟨rfl, rfl⟩ := List.cons.inj h
      exact ⟨rfl, rfl, rfl⟩
    | some other => cases (List.cons.inj h).2

theorem foldlM_takeItem {invocation : Invocation} (hn : invocation.Proper) (items : List Item)
    {given : Invocation}
    (hvalues : ∀ option, (given.text option).toList ++ items.filterMap (·.value? option) =
      (invocation.text option).toList)
    (hverbose : given.verbose.toNat + items.count .verbose = invocation.verbose.toNat) :
    items.foldlM Invocation.takeItem given = .ok invocation := by
  induction items generalizing given with
  | nil =>
    have hgiven : given = invocation := by
      refine Invocation.ext_text (fun option => ?_) ?_
      · have hv := hvalues option
        rw [List.filterMap_nil, List.append_nil] at hv
        exact eq_of_toList_eq hv
      · rw [List.count_nil, Nat.add_zero] at hverbose
        cases hg : given.verbose <;> cases hi : invocation.verbose <;> simp [hg, hi] at hverbose ⊢
    rw [hgiven]
    rfl
  | cons item items ih =>
    rw [List.foldlM_cons]
    cases item with
    | verbose =>
      rw [List.count_cons_self] at hverbose
      have hle := Bool.toNat_le invocation.verbose
      have hfalse : given.verbose = false := by
        cases hg : given.verbose with
        | false => rfl
        | true =>
          rw [hg, Bool.toNat_true] at hverbose
          omega
      have htake : given.takeItem .verbose = .ok { given with verbose := true } := by
        rw [Invocation.takeItem, hfalse]
        rfl
      rw [htake]
      refine ih (fun option => ?_) ?_
      · have hv := hvalues option
        cases option <;> exact hv
      · rw [hfalse, Bool.toNat_false] at hverbose
        rw [Bool.toNat_true]
        omega
    | option option value =>
      have hself := hvalues option
      rw [Item.values_cons_self] at hself
      obtain ⟨hfree, hgiven, hrest⟩ := toList_append_cons hself
      obtain ⟨after, hg, hset, hother, hv⟩ := Invocation.give_takes hfree (hn option value hgiven)
      rw [Invocation.takeItem, hg]
      refine ih (fun other => ?_) ?_
      · by_cases ho : other = option
        · rw [ho, hset, hrest, hgiven]
          rfl
        · have hkept := hvalues other
          rw [Item.values_cons_ne (Ne.symm ho)] at hkept
          rw [hother other ho]
          exact hkept
      · rw [hv]
        exact hverbose

theorem Invocation.of_give_eq_ok {given after : Invocation} {option : ValueOption} {value : String}
    (h : given.give option value = .ok after) :
    given.text option = none ∧ option.Takes value := by
  have hpath : ∀ option {path : String}, pathValue option value = .ok path → value ≠ "" := by
    intro option path hp he
    rw [pathValue, if_pos he] at hp
    cases hp
  rw [give] at h
  split at h
  · cases h
  · rename_i hfree
    rw [has_eq, Option.not_isSome_iff_eq_none] at hfree
    refine ⟨hfree, ?_⟩
    cases option with
    | policy =>
      obtain ⟨policy, hp, -⟩ := of_bind_eq_ok h
      unfold policyValue at hp
      split at hp
      · rename_i found hf
        exact ⟨found, hf⟩
      · cases hp
    | config =>
      obtain ⟨path, hp, -⟩ := of_bind_eq_ok h
      exact hpath .config hp
    | moduleDirectory =>
      obtain ⟨path, hp, -⟩ := of_bind_eq_ok h
      exact hpath .moduleDirectory hp
    | registry =>
      obtain ⟨path, hp, -⟩ := of_bind_eq_ok h
      exact hpath .registry hp

/-- Taking an item moves it from what comes later to what is held. -/
theorem Invocation.of_takeItem_eq_ok {given after : Invocation} {item : Item}
    (h : given.takeItem item = .ok after) (items : List Item) :
    (∀ option, (given.text option).toList ++ (item :: items).filterMap (·.value? option) =
      (after.text option).toList ++ items.filterMap (·.value? option)) ∧
    given.verbose.toNat + (item :: items).count .verbose =
      after.verbose.toNat + items.count .verbose ∧
    (given.Proper → after.Proper) := by
  cases item with
  | verbose =>
    rw [takeItem] at h
    split at h
    · cases h
    · rename_i hfalse
      obtain rfl := Except.ok.inj h
      refine ⟨fun option => ?_, ?_, fun hn option => ?_⟩
      · cases option <;> rfl
      · rw [List.count_cons_self, Bool.eq_false_iff.2 hfalse, Bool.toNat_false, Bool.toNat_true]
        omega
      · have ho := hn option
        cases option <;> exact ho
  | option option value =>
    obtain ⟨hfree, htakes⟩ := of_give_eq_ok h
    obtain ⟨again, hg, hset, hother, hv⟩ := give_takes hfree htakes
    obtain rfl := Except.ok.inj (h.symm.trans hg)
    refine ⟨fun other => ?_, ?_, fun hn other text ht => ?_⟩
    · by_cases ho : other = option
      · rw [ho, hfree, hset, Item.values_cons_self]
        rfl
      · rw [hother other ho, Item.values_cons_ne (Ne.symm ho)]
    · rw [hv]
      exact congrArg _ (List.count_cons_of_ne (by simp))
    · by_cases ho : other = option
      · rw [ho, hset] at ht
        obtain rfl := Option.some.inj ht
        exact ho ▸ htakes
      · rw [hother other ho] at ht
        exact hn other text ht

theorem of_foldlM_takeItem {invocation : Invocation} {items : List Item} {given : Invocation}
    (h : items.foldlM Invocation.takeItem given = .ok invocation) :
    (∀ option, (given.text option).toList ++ items.filterMap (·.value? option) =
      (invocation.text option).toList) ∧
    given.verbose.toNat + items.count .verbose = invocation.verbose.toNat ∧
    (given.Proper → invocation.Proper) := by
  induction items generalizing given with
  | nil =>
    obtain rfl := Except.ok.inj h
    exact ⟨fun option => List.append_nil _, rfl, id⟩
  | cons item items ih =>
    obtain ⟨after, hi, h⟩ := of_bind_eq_ok h
    obtain ⟨hvalues, hverbose, hproper⟩ := Invocation.of_takeItem_eq_ok hi items
    obtain ⟨hrest, hflags, hn⟩ := ih h
    exact ⟨fun option => (hvalues option).trans (hrest option), hverbose.trans hflags, hn ∘ hproper⟩

theorem toList_text_empty (option : ValueOption) : (({} : Invocation).text option).toList = [] := by
  cases option <;> rfl

/-- The lines that are read as an invocation: those with items that give it, if its values are
ones that the options take. -/
theorem read_iff_gives {line : List String} {invocation : Invocation} :
    read line = .ok invocation ↔
      invocation.Proper ∧ ∃ items, Gives items invocation ∧ WritesLine items line := by
  constructor
  · intro h
    obtain ⟨items, hw, ht⟩ := read_eq_ok_iff.1 h
    obtain ⟨hvalues, hverbose, hproper⟩ := of_foldlM_takeItem ht
    refine ⟨hproper ((Invocation.proper_iff {}).2 (by decide)), items, ⟨fun option => ?_, ?_⟩, hw⟩
    · rw [← hvalues option, toList_text_empty]
      rfl
    · rw [← hverbose]
      exact (Nat.zero_add _).symm
  · rintro ⟨hn, items, hg, hw⟩
    refine read_eq_ok_iff.2 ⟨items, hw, foldlM_takeItem hn items (fun option => ?_) ?_⟩
    · rw [← hg.values option, toList_text_empty]
      rfl
    · rw [← hg.verbose]
      exact Nat.zero_add _

theorem read_of_gives {items : List Item} {arguments : List String} {invocation : Invocation}
    (hw : WritesAll items arguments) (hg : Gives items invocation) (hn : invocation.Proper) :
    read arguments = .ok invocation :=
  read_iff_gives.2 ⟨hn, items, hg, hw.line⟩

/-- The flag can be put in front of a line that does without. -/
theorem read_verbose {arguments : List String} {invocation : Invocation}
    (h : read arguments = .ok invocation) (hv : invocation.verbose = false) :
    read ("-v" :: arguments) = .ok { invocation with verbose := true } := by
  obtain ⟨hn, items, hg, hw⟩ := read_iff_gives.1 h
  refine read_iff_gives.2 ⟨?_, .verbose :: items, ⟨?_, ?_⟩, .cons .verboseLetter hw⟩
  · exact (Invocation.proper_iff _).2 ((Invocation.proper_iff _).1 hn)
  · intro option
    have hvalues := hg.values option
    cases option <;> exact hvalues
  · rw [List.count_cons_self, hg.verbose, hv]
    rfl

end VrfPresence.CommandLine
