import VrfPresence.Proofs.Registry.Presence
import VrfPresence.Proofs.Text.Runs

/-!
# Registries by their lines

All three readers go line by line, so that a registry in two parts, the second starting on a line of
its own, is read as its parts are. A line that does not list a module, or has no entry of it, can
stand anywhere in a registry or be taken away, and the module is listed, or found, as before.
-/

namespace VrfPresence.Registry

open Text

/-! ### Two parts -/

theorem lines_append_newline_append (a b : String) :
    lines (a ++ "\n" ++ b).toList = lines a.toList ++ lines b.toList := by
  have htext : (a ++ "\n" ++ b).toList = a.toList ++ '\n' :: b.toList := by simp
  rw [htext, lines_append_cons]

theorem entries_append (a b : String) : entries (a ++ "\n" ++ b) = entries a ++ entries b := by
  simp only [entries_eq_readLines, lines_append_newline_append, readLines_append]

theorem isListed_append (a b module : String) :
    isListed (a ++ "\n" ++ b) module = (isListed a module || isListed b module) := by
  simp only [isListed, lines_append_newline_append, List.any_append]

theorem find_append (a b module : String) :
    find (a ++ "\n" ++ b) module = (find a module).or (find b module) := by
  simp only [find_eq_findSome?, lines_append_newline_append, List.findSome?_append]

/-! ### Given lines -/

def ofLines (lines : List (List Char)) : String := String.ofList (join ['\n'] lines)

theorem ofLines_lines (registry : String) : ofLines (lines registry.toList) = registry := by
  rw [ofLines, lines, join_splitWhere, String.ofList_toList]

section

variable {texts : List (List Char)}

/-- No lines at all are written like a single empty one. -/
theorem lines_ofLines (h : ∀ text ∈ texts, '\n' ∉ text) :
    lines (ofLines texts).toList = if texts = [] then [[]] else texts := by
  rw [ofLines, String.toList_ofList]
  by_cases hn : texts = []
  · subst hn
    rfl
  · rw [if_neg hn]
    exact lines_join texts hn h

theorem isListed_ofLines (h : ∀ text ∈ texts, '\n' ∉ text) (module : String) :
    isListed (ofLines texts) module = texts.any (lineNames module.toList) := by
  unfold isListed
  rw [lines_ofLines h]
  by_cases hn : texts = []
  · subst hn
    simp [lineNames]
  · rw [if_neg hn]

theorem find_ofLines (h : ∀ text ∈ texts, '\n' ∉ text) (module : String) :
    find (ofLines texts) module = texts.findSome? (entryNamed? module) := by
  rw [find_eq_findSome?, lines_ofLines h]
  by_cases hn : texts = []
  · subst hn
    rfl
  · rw [if_neg hn]

end

/-! ### One line more or less -/

/-- A line that does not list the module is nothing to `isListed`, and one without an entry of it is
nothing to `find`. -/
theorem readers_of_unrelated {before after : List (List Char)} {line : List Char}
    (hfree : ∀ text ∈ before ++ line :: after, '\n' ∉ text) (module : String) :
    (¬ module.toList ++ [' '] <+: line →
      isListed (ofLines (before ++ line :: after)) module =
        isListed (ofLines (before ++ after)) module) ∧
    ((∀ entry, ModuleEntry.parse (String.ofList line) = .ok entry → entry.name ≠ module) →
      find (ofLines (before ++ line :: after)) module = find (ofLines (before ++ after)) module) := by
  have hothers : ∀ text ∈ before ++ after, '\n' ∉ text := by
    have hsub : (before ++ after).Sublist (before ++ line :: after) :=
      (List.sublist_cons_self line after).append_left before
    exact fun text ht => hfree text (hsub.subset ht)
  rw [isListed_ofLines hfree, isListed_ofLines hothers, find_ofLines hfree, find_ofLines hothers]
  constructor
  · intro hline
    have hnames : lineNames module.toList line = false := by
      apply Bool.eq_false_iff.2
      exact fun h => hline (List.isPrefixOf_iff_prefix.1 h)
    simp [hnames]
  · intro hline
    have hnone : entryNamed? module line = none := by
      apply Option.eq_none_iff_forall_ne_some.2
      intro entry hs
      obtain ⟨hp, hname⟩ := entryNamed?_eq_some_iff.1 hs
      exact hline entry hp hname
    simp [List.findSome?_append, hnone]

/-- The registry with one more line, in front of the line at the position. -/
def insertLine (registry : String) (position : Nat) (line : String) : String :=
  let texts := lines registry.toList
  ofLines (texts.take position ++ line.toList :: texts.drop position)

/-- The registry without the line at the position. -/
def deleteLine (registry : String) (position : Nat) : String :=
  let texts := lines registry.toList
  ofLines (texts.take position ++ texts.drop (position + 1))

theorem eq_take_append_cons_drop {registry line : String} {position : Nat}
    (h : (lines registry.toList)[position]? = some line.toList) :
    lines registry.toList = (lines registry.toList).take position ++
      line.toList :: (lines registry.toList).drop (position + 1) := by
  obtain ⟨hlt, hget⟩ := List.getElem?_eq_some_iff.1 h
  rw [← hget, List.getElem_cons_drop, List.take_append_drop]

/-- To read two parts of a registry, the second starting on a new line, is to read each of them. So a
line can be added or taken away at any position: `isListed` changes for the modules that the line
lists and `find` for the module that it is a well-formed entry of. The order of the lines does not
matter to `isListed`. -/
theorem readers_line_by_line (module : String) :
    (∀ a b : String,
      entries (a ++ "\n" ++ b) = entries a ++ entries b ∧
      isListed (a ++ "\n" ++ b) module = (isListed a module || isListed b module) ∧
      find (a ++ "\n" ++ b) module = (find a module).or (find b module)) ∧
    (∀ (registry line : String) (position : Nat), '\n' ∉ line.toList →
      (¬ module.toList ++ [' '] <+: line.toList →
        isListed (insertLine registry position line) module = isListed registry module) ∧
      ((∀ entry, ModuleEntry.parse line = .ok entry → entry.name ≠ module) →
        find (insertLine registry position line) module = find registry module)) ∧
    (∀ (registry line : String) (position : Nat),
      (lines registry.toList)[position]? = some line.toList →
      (¬ module.toList ++ [' '] <+: line.toList →
        isListed (deleteLine registry position) module = isListed registry module) ∧
      ((∀ entry, ModuleEntry.parse line = .ok entry → entry.name ≠ module) →
        find (deleteLine registry position) module = find registry module)) ∧
    ∀ a b : String, (lines a.toList).Perm (lines b.toList) →
      isListed a module = isListed b module := by
  refine ⟨?parts, ?inserted, ?deleted, ?permuted⟩
  case parts =>
    intro a b
    exact ⟨entries_append a b, isListed_append a b module, find_append a b module⟩
  case inserted =>
    intro registry line position hline
    have hfree : ∀ text ∈ (lines registry.toList).take position ++
        line.toList :: (lines registry.toList).drop position, '\n' ∉ text := by
      intro text ht
      simp only [List.mem_append, List.mem_cons] at ht
      rcases ht with ht | rfl | ht
      · exact newline_not_mem_of_mem_lines (List.mem_of_mem_take ht)
      · exact hline
      · exact newline_not_mem_of_mem_lines (List.mem_of_mem_drop ht)
    have h := readers_of_unrelated hfree module
    rwa [List.take_append_drop, ofLines_lines, String.ofList_toList] at h
  case deleted =>
    intro registry line position hline
    have hsplit := eq_take_append_cons_drop hline
    have hfree : ∀ text ∈ (lines registry.toList).take position ++
        line.toList :: (lines registry.toList).drop (position + 1), '\n' ∉ text := by
      rw [← hsplit]
      exact fun text => newline_not_mem_of_mem_lines
    have h := readers_of_unrelated hfree module
    rw [← hsplit, ofLines_lines, String.ofList_toList] at h
    exact ⟨fun hn => (h.1 hn).symm, fun hn => (h.2 hn).symm⟩
  case permuted =>
    intro a b hp
    exact hp.any_eq

/-- A malformed line lists its module and has no entry, a line behind white space has an entry and
does not list its module: each is seen by one reader only. -/
theorem readers_line_by_line_one_sided :
    let registry := "vrf garbage\nbridge 1 0 - Live 0x0"
    let turned := "bridge 1 0 - Live 0x0\nvrf garbage"
    let indented := "\tvrf 1 0 - Live 0x0"
    find (registry ++ "\n" ++ indented) "vrf" = (find registry "vrf").or (find indented "vrf") ∧
      (¬ "vrf".toList ++ [' '] <+: indented.toList ∧
        isListed (insertLine registry 1 indented) "vrf" = isListed registry "vrf") ∧
      ((lines registry.toList)[0]? = some "vrf garbage".toList ∧
        find (deleteLine registry 0) "vrf" = find registry "vrf") ∧
      ((lines registry.toList).Perm (lines turned.toList) ∧
        isListed registry "vrf" = isListed turned "vrf") := by
  intro registry turned indented
  have hbehind : ¬ "vrf".toList ++ [' '] <+: indented.toList := by decide
  have hplace : (lines registry.toList)[0]? = some "vrf garbage".toList := by decide
  have hmalformed : ∀ entry, ModuleEntry.parse "vrf garbage" = .ok entry → entry.name ≠ "vrf" := by
    have herror : ModuleEntry.parse "vrf garbage" = .error (.invalid .size "garbage") := rfl
    intro entry h
    rw [herror] at h
    cases h
  have hperm : (lines registry.toList).Perm (lines turned.toList) := by decide
  obtain ⟨hparts, hinserted, hdeleted, hpermuted⟩ := readers_line_by_line "vrf"
  exact ⟨(hparts registry indented).2.2,
    ⟨hbehind, (hinserted registry indented 1 (by decide)).1 hbehind⟩,
    ⟨hplace, (hdeleted registry "vrf garbage" 0 hplace).2 hmalformed⟩,
    hperm, hpermuted registry turned hperm⟩

end VrfPresence.Registry
