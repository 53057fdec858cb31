import Mathlib.Data.List.Basic
import VrfPresence.Probe

/-!
# The probe by its two answers

On a file system that answers at once, the probe is a function of two answers: whether the
marker exists, and what the registry holds.
-/

namespace VrfPresence

open FileSystem

theorem detect_run (reader : Reader Id) (locations : Locations) :
    (detect reader locations).run =
      if (reader.pathExists (locations.marker vrfModule)).run = .ok true then .ok .marker
      else concludeFrom (reader.readText locations.registry).run := by
  obtain ⟨answer, ha⟩ : ∃ answer, reader.pathExists (locations.marker vrfModule) = pure answer :=
    ⟨_, rfl⟩
  rw [detect, ha, pure_bind]
  cases answer with
  | error cause => rfl
  | ok found => cases found <;> rfl

end VrfPresence
