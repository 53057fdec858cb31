import Mathlib.Data.List.TakeWhile
import VrfPresence.Proofs.Registry.Presence

/-!
# Blank lines

A line is left out of the entries of a registry if nothing is left of it without the white space at
its ends, and a line has no first column if it has no words. Both scans look for the same characters,
so that the lines left out are those that would say that they have no name.
-/

namespace VrfPresence.Registry

open Text

/-! ### Lines without a word -/

theorem trim_eq_nil_iff (text : List Char) : trim text = [] ↔ isBlankLine text = true := by
  unfold trim isBlankLine
  rw [List.reverse_eq_nil_iff]
  induction text with
  | nil => simp
  | cons c text ih =>
    by_cases hc : isBlank c = true
    · rw [List.dropWhile_cons_of_pos hc, ih, List.all_cons, hc, Bool.true_and]
    · -- nothing is dropped in front, and from behind the first character stays
      rw [List.dropWhile_cons_of_neg hc, List.dropWhile_eq_nil_iff]
      simp [hc]

theorem parse_eq_missing_name_iff (line : List Char) :
    ModuleEntry.parse (String.ofList line) = .error (.missing .name) ↔ isBlankLine line = true := by
  constructor
  · intro h
    rw [← words_eq_nil_iff]
    by_contra hne
    -- with a first word the error is about a later column
    unfold ModuleEntry.parse at h
    rw [String.toList_ofList] at h
    exact column_ne_name_of_ofWords hne h rfl
  · exact parse_of_isBlankLine

/-! ### Lines left out -/

theorem entries_eq_filter (registry : String) :
    entries registry = ((lines registry.toList).map (ModuleEntry.parse ∘ String.ofList)).filter
      (· ≠ .error (.missing .name)) := by
  unfold entries
  rw [List.filter_map]
  congr 1
  apply List.filter_congr
  intro line _
  simp [parse_eq_missing_name_iff]

theorem length_entries (registry : String) :
    (entries registry).length = (lines registry.toList).countP (·.any (!isBlank ·)) := by
  unfold entries isBlankLine
  rw [List.length_map, ← List.countP_eq_length_filter]
  simp only [List.not_all_eq_any_not]

/-- To leave out the lines that trim to nothing is to leave out the results that miss the name: there
is one result for each line with a character that is not white space, and none misses the name. -/
theorem entries_of_not_blank :
    (∀ line : String,
      trim line.toList = [] ↔ ModuleEntry.parse line = .error (.missing .name)) ∧
    ∀ registry : String,
      entries registry = ((lines registry.toList).filter (trim · ≠ [])).map
        (ModuleEntry.parse ∘ String.ofList) ∧
      entries registry = ((lines registry.toList).map (ModuleEntry.parse ∘ String.ofList)).filter
        (· ≠ .error (.missing .name)) ∧
      (entries registry).length = (lines registry.toList).countP (·.any (!isBlank ·)) ∧
      .error (.missing .name) ∉ entries registry := by
  constructor
  · intro line
    rw [trim_eq_nil_iff, ← parse_eq_missing_name_iff, String.ofList_toList]
  · intro registry
    refine ⟨?_, entries_eq_filter registry, length_entries registry, ?_⟩
    · unfold entries
      congr 1
      apply List.filter_congr
      intro line _
      simp [trim_eq_nil_iff]
    · intro h
      rw [entries_eq_filter] at h
      simpa using (List.mem_filter.1 h).2

/-- The carriage return, the em space and the line separator are white space, the zero-width space
is not. -/
example : entries "\r\u2003\n\u2028\n\n\u200b" = [.error (.missing .size)] := by decide

end VrfPresence.Registry
