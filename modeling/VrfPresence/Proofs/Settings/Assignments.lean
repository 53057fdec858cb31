import VrfPresence.Proofs.Toml.FlatReading
import VrfPresence.Settings

/-!
# Settings from assignments

Pairs that give texts to keys are taken one after the other. What a field holds, together with
what it is still to be given, stays the same from pair to pair. So they are all taken when every
field is given at most one text, of a kind it takes, and refused otherwise.
-/

namespace VrfPresence

open Toml

/-! ### The texts of a key -/

/-- The texts that a key is assigned, in order. -/
def valuesOf (key : String) (assignments : List (String × String)) : List String :=
  (assignments.filter (·.1 == key)).map (·.2)

theorem valuesOf_cons_self (key text : String) (assignments : List (String × String)) :
    valuesOf key ((key, text) :: assignments) = text :: valuesOf key assignments := by
  rw [valuesOf, List.filter_cons_of_pos (by simp), List.map_cons, valuesOf]

theorem valuesOf_cons_ne {key other : String} (h : other ≠ key) (text : String)
    (assignments : List (String × String)) :
    valuesOf key ((other, text) :: assignments) = valuesOf key assignments := by
  rw [valuesOf, List.filter_cons_of_neg (by simpa using h), valuesOf]

theorem mem_valuesOf {key text : String} {assignments : List (String × String)} :
    text ∈ valuesOf key assignments ↔ (key, text) ∈ assignments := by
  simp [valuesOf]

theorem eq_of_toList_eq {a b : Option String} (h : a.toList = b.toList) : a = b := by
  refine Option.ext fun text => ?_
  rw [← Option.mem_toList, h, Option.mem_toList]

/-! ### Texts of policies -/

theorem readPolicyName_of_parse {text : String} {policy : Policy} (tail : Nat)
    (h : Policy.parse text = .ok policy) : readPolicyName tail text = .ok policy := by
  obtain rfl := Policy.parse_eq_ok_iff.1 h
  rw [readPolicyName, Policy.ofName?_name]

theorem readPolicyName_of_not_parse {text : String} (tail : Nat)
    (h : ¬ ∃ policy, Policy.parse text = .ok policy) :
    ∃ problem, readPolicyName tail text = .error problem := by
  unfold readPolicyName
  split
  · rename_i policy hp
    exact absurd ⟨policy, by rw [Policy.parse, hp]⟩ h
  · exact ⟨_, rfl⟩

/-! ### Fields and texts -/

/-- What a field holds as a text. -/
def Settings.text (settings : Settings) : Field → Option String
  | .policy => settings.policy.map (·.name)
  | .moduleDirectory => settings.moduleDirectory
  | .registry => settings.registry

theorem Settings.ext_text {a b : Settings} (h : ∀ field, a.text field = b.text field) : a = b := by
  have hpolicy : a.policy = b.policy :=
    Option.map_injective (fun _ _ => Policy.name_injective) (h .policy)
  have hdirectory : a.moduleDirectory = b.moduleDirectory := h .moduleDirectory
  have hregistry : a.registry = b.registry := h .registry
  cases a
  cases b
  simp_all

/-- A text that the field can be set to. -/
def Field.Takes : Field → String → Prop
  | .policy, text => ∃ policy, Policy.parse text = .ok policy
  | .moduleDirectory, _ => True
  | .registry, _ => True

/-- No more than one text, and one that the field takes. -/
structure Field.Fits (field : Field) (values : List String) : Prop where
  once : values.length ≤ 1
  takes : ∀ text ∈ values, field.Takes text

theorem Settings.has_eq (settings : Settings) (field : Field) :
    settings.has field = (settings.text field).isSome := by
  cases field with
  | policy => exact Option.isSome_map.symm
  | moduleDirectory => rfl
  | registry => rfl

theorem Settings.fits_text (settings : Settings) (field : Field) :
    field.Fits (settings.text field).toList := by
  refine ⟨?_, fun text ht => ?_⟩
  · cases settings.text field <;> simp
  · cases field with
    | policy =>
      obtain ⟨policy, -, hn⟩ := Option.map_eq_some_iff.1 (Option.mem_toList.1 ht)
      exact ⟨policy, Policy.parse_eq_ok_iff.2 hn⟩
    | moduleDirectory => trivial
    | registry => trivial

theorem Field.ofKey?_key (field : Field) : Field.ofKey? field.key = some field := by
  cases field <;> decide

theorem Field.key_of_ofKey? {key : String} {field : Field} (h : Field.ofKey? key = some field) :
    field.key = key := by
  simpa using List.find?_some h

theorem Field.key_injective {a b : Field} (h : a.key = b.key) : a = b := by
  have ha := Field.ofKey?_key a
  rw [h, Field.ofKey?_key b] at ha
  exact (Option.some.inj ha).symm

/-! ### Setting a field -/

theorem Settings.set_takes (settings : Settings) (tail : Nat) {value : Placed Value}
    {text : String} (hv : value.item = .string text) {field : Field} (h : field.Takes text) :
    ∃ after, settings.set tail value field = .ok after ∧ after.text field = some text ∧
      ∀ other, other ≠ field → after.text other = settings.text other := by
  cases field with
  | policy =>
    obtain ⟨policy, hp⟩ := h
    have hr : readPolicy tail value = .ok policy := by
      rw [readPolicy, hv]
      exact readPolicyName_of_parse tail hp
    refine ⟨{ settings with policy := some policy }, ?_, ?_, ?_⟩
    · rw [Settings.set, hr]
      rfl
    · exact congrArg some (Policy.parse_eq_ok_iff.1 hp)
    · rintro (_ | _ | _) hne
      · exact absurd rfl hne
      · rfl
      · rfl
  | moduleDirectory =>
    have hr : readPath .moduleDirectory tail value = .ok text := by rw [readPath, hv]
    refine ⟨{ settings with moduleDirectory := some text }, ?_, rfl, ?_⟩
    · rw [Settings.set, hr]
      rfl
    · rintro (_ | _ | _) hne
      · rfl
      · exact absurd rfl hne
      · rfl
  | registry =>
    have hr : readPath .registry tail value = .ok text := by rw [readPath, hv]
    refine ⟨{ settings with registry := some text }, ?_, rfl, ?_⟩
    · rw [Settings.set, hr]
      rfl
    · rintro (_ | _ | _) hne
      · rfl
      · rfl
      · exact absurd rfl hne

theorem Settings.set_not_takes (settings : Settings) (tail : Nat) {value : Placed Value}
    {text : String} (hv : value.item = .string text) {field : Field} (h : ¬ field.Takes text) :
    ∃ problem, settings.set tail value field = .error problem := by
  cases field with
  | policy =>
    obtain ⟨problem, hp⟩ := readPolicyName_of_not_parse tail h
    refine ⟨problem, ?_⟩
    rw [Settings.set, readPolicy, hv]
    show (readPolicyName tail text >>= _) = _
    rw [hp]
    rfl
  | moduleDirectory => exact absurd trivial h
  | registry => exact absurd trivial h

/-! ### Taking pairs -/

/-- What a field holds, and what it is still to be given. -/
def Settings.pending (settings : Settings) (assignments : List (String × String)) (field : Field) :
    List String :=
  (settings.text field).toList ++ valuesOf field.key assignments

/-- A pair is taken and changes nothing of what is pending, or some field does not fit. -/
theorem Settings.takePair_assigns (settings : Settings) (tail : Nat) {pair : Pair}
    {assignment : String × String} (hp : Assigns pair assignment)
    (more : List (String × String)) :
    (∃ after, settings.takePair tail pair = .ok after ∧
      ∀ field, after.pending more field = settings.pending (assignment :: more) field) ∨
    (∃ problem, settings.takePair tail pair = .error problem) ∧
      ∃ field : Field, ¬ field.Fits (settings.pending (assignment :: more) field) := by
  obtain ⟨key, text⟩ := assignment
  obtain ⟨rfl, hv⟩ := hp
  cases hk : Field.ofKey? pair.1 with
  | none =>
    refine .inl ⟨settings, by rw [takePair, hk], fun field => ?_⟩
    have hne : pair.1 ≠ field.key := by
      intro he
      rw [he, Field.ofKey?_key] at hk
      cases hk
    rw [pending, pending, valuesOf_cons_ne hne]
  | some field =>
    have hkey := Field.key_of_ofKey? hk
    cases ht : settings.text field with
    | some held =>
      have hhas : settings.has field = true := by rw [has_eq, ht, Option.isSome_some]
      refine .inr ⟨⟨.fieldTwice field tail, by rw [takePair, hk]; exact if_pos hhas⟩, field, ?_⟩
      intro hf
      have hl := hf.once
      rw [pending, ht, ← hkey, valuesOf_cons_self] at hl
      simp at hl
    | none =>
      have hhas : settings.has field = false := by rw [has_eq, ht, Option.isSome_none]
      have htake : settings.takePair tail pair = settings.set tail pair.2 field := by
        simp only [takePair, hk, hhas, Bool.false_eq_true, if_false]
      rw [htake]
      by_cases hx : field.Takes text
      · obtain ⟨after, hs, hself, hother⟩ := settings.set_takes tail hv hx
        refine .inl ⟨after, hs, fun other => ?_⟩
        by_cases ho : other = field
        · rw [pending, pending, ho, hself, ht, ← hkey, valuesOf_cons_self]
          rfl
        · have hne : pair.1 ≠ other.key := fun he => ho (Field.key_injective (hkey.trans he)).symm
          rw [pending, pending, hother other ho, valuesOf_cons_ne hne]
      · refine .inr ⟨settings.set_not_takes tail hv hx, field, fun hf => hx (hf.takes text ?_)⟩
        rw [pending, ← hkey, valuesOf_cons_self]
        exact List.mem_append_right _ (List.mem_cons_self ..)

/-- All pairs are taken and the fields hold what was pending, or some field does not fit. -/
theorem Settings.foldlM_takePair (tail : Nat) {pairs : List Pair}
    {assignments : List (String × String)} (h : List.Forall₂ Assigns pairs assignments)
    (settings : Settings) :
    (∃ after, pairs.foldlM (takePair tail) settings = .ok after ∧
      ∀ field, (after.text field).toList = settings.pending assignments field) ∨
    (∃ problem, pairs.foldlM (takePair tail) settings = .error problem) ∧
      ∃ field : Field, ¬ field.Fits (settings.pending assignments field) := by
  induction h generalizing settings with
  | nil => exact .inl ⟨settings, rfl, fun field => (List.append_nil _).symm⟩
  | cons hp _ ih =>
    rw [List.foldlM_cons]
    rcases settings.takePair_assigns tail hp _ with ⟨after, hs, hkept⟩ | ⟨⟨problem, hs⟩, hf⟩
    · rw [hs]
      rcases ih after with ⟨last, hl, htext⟩ | ⟨⟨problem, hl⟩, field, hf⟩
      · exact .inl ⟨last, hl, fun field => (htext field).trans (hkept field)⟩
      · exact .inr ⟨⟨problem, hl⟩, field, hkept field ▸ hf⟩
    · rw [hs]
      exact .inr ⟨⟨problem, rfl⟩, hf⟩

end VrfPresence
