import VrfPresence.Probe
import VrfPresence.Proofs.Path.Joined

/-!
# The marker of a module

The marker is the module's own entry in the directory of modules: one component below the directory,
whatever this is spelled like. Two markers are the same path only for one module in one directory.
A name that starts at the root is no entry of the directory; it is its own marker.
-/

namespace VrfPresence

open VrfPresence.Path

/-- The marker of a module is one component below the directory, and so tells both apart from every
other directory and module. -/
theorem marker_below_directory :
    (∀ (locations : Locations) (module : String), IsComponent module →
      components module = [.ofPiece module.toList] ∧
      components (locations.marker module) =
        components locations.moduleDirectory ++ [.ofPiece module.toList]) ∧
    (∀ (a b : Locations) (module other : String), IsComponent module → IsComponent other →
      (same (a.marker module) (b.marker other) = true ↔
        same a.moduleDirectory b.moduleDirectory = true ∧ module = other)) ∧
    ∀ (locations : Locations) (module : String), module.toList.head? = some '/' →
      locations.marker module = module := by
  refine ⟨?below, ?apart, ?absolute⟩
  case below =>
    intro locations module h
    exact ⟨h.components_eq, components_join h.ne_empty h.ne_dot h.no_slash _⟩
  case apart =>
    intro a b module other hm ho
    exact same_join_iff hm ho a.moduleDirectory b.moduleDirectory
  case absolute =>
    intro locations module h
    exact join_of_isAbsolute (beq_iff_eq.2 h) locations.moduleDirectory

/-- Behind no directory, behind slashes and dots, and with a name that steps up. -/
theorem marker_below_directory_seams :
    let bare : Locations := ⟨"", "m"⟩
    let plain : Locations := ⟨"./sys", "m"⟩
    let dotted : Locations := ⟨".//sys/./", "m"⟩
    (IsComponent "vrf" ∧ components (bare.marker "vrf") = [.name "vrf".toList]) ∧
      (IsComponent ".." ∧ components (dotted.marker "..") =
        [.current, .name "sys".toList, .parent]) ∧
      same (plain.marker "vrf") (dotted.marker "vrf") = true ∧
      same (plain.marker "vrf") (bare.marker "vrf") = false ∧
      (("/vrf".toList.head? = some '/') ∧ dotted.marker "/vrf" = "/vrf") := by
  intro bare plain dotted
  have hvrf : IsComponent "vrf" := ⟨by decide, by decide, by decide⟩
  have hup : IsComponent ".." := ⟨by decide, by decide, by decide⟩
  have hdotted : components dotted.moduleDirectory = [.current, .name "sys".toList] := by decide
  obtain ⟨hbelow, hsame, habsolute⟩ := marker_below_directory
  have hupper := (hbelow dotted ".." hup).2
  rw [hdotted] at hupper
  refine ⟨⟨hvrf, (hbelow bare "vrf" hvrf).2⟩, ⟨hup, hupper⟩,
    (hsame plain dotted "vrf" "vrf" hvrf hvrf).2 ⟨by decide, rfl⟩, ?_,
    rfl, habsolute dotted "/vrf" rfl⟩
  apply Bool.eq_false_iff.2
  intro h
  have hdirectory := ((hsame plain bare "vrf" "vrf" hvrf hvrf).1 h).1
  exact absurd hdirectory (by decide)

end VrfPresence
