import VrfPresence.Proofs.Failure
import VrfPresence.Settings

/-!
# Checked settings

Settings that a source gives have no empty location, whatever the source looks like: they were
checked after all else. Filling them up, from other checked settings and by default, keeps that.
-/

namespace VrfPresence

/-- No location is set to the empty path. -/
structure Settings.Checked (settings : Settings) : Prop where
  moduleDirectory : settings.moduleDirectory ≠ some ""
  registry : settings.registry ≠ some ""

theorem Settings.of_check_eq_ok {settings after : Settings} (h : settings.check = .ok after) :
    after = settings ∧ settings.Checked := by
  unfold check at h
  split at h
  · cases h
  · rename_i hdirectory
    split at h
    · cases h
    · rename_i hregistry
      exact ⟨(Except.ok.inj h).symm, hdirectory, hregistry⟩

theorem Settings.checked_of_parse {source : String} {settings : Settings}
    (h : Settings.parse source = .ok settings) : settings.Checked := by
  unfold parse at h
  split at h
  · obtain ⟨rfl, hchecked⟩ := Settings.of_check_eq_ok h
    exact hchecked
  · cases h

theorem Settings.checked_empty : ({} : Settings).Checked := ⟨by decide, by decide⟩

theorem ne_some_empty_or {a b : Option String} (ha : a ≠ some "") (hb : b ≠ some "") :
    a.or b ≠ some "" := by
  cases a with
  | none => exact hb
  | some path => exact ha

theorem Settings.Checked.orElse {settings others : Settings} (h : settings.Checked)
    (ho : others.Checked) : (settings.orElse others).Checked :=
  ⟨ne_some_empty_or h.moduleDirectory ho.moduleDirectory,
    ne_some_empty_or h.registry ho.registry⟩

theorem getD_ne_empty {a : Option String} (ha : a ≠ some "") {default : String}
    (hd : default ≠ "") : a.getD default ≠ "" := by
  cases a with
  | none => exact hd
  | some path => exact fun he => ha (congrArg some he)

theorem Settings.Checked.locations {settings : Settings} (h : settings.Checked) :
    settings.locations.moduleDirectory ≠ "" ∧ settings.locations.registry ≠ "" :=
  ⟨getD_ne_empty h.moduleDirectory (by decide), getD_ne_empty h.registry (by decide)⟩

end VrfPresence
