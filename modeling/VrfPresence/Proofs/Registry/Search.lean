import VrfPresence.Proofs.Text.Runs
import VrfPresence.Registry.Scan

/-!
# Presence as a search

A module is listed where its name and a space stand at the start of the registry or behind a
newline. So said, presence needs no lines, and it only ever grows with the registry: what was listed
in a part that starts at a line stays listed in the whole.
-/

namespace VrfPresence.Registry

open Text

/-! ### Anchors -/

/-- The text stands at the start of the whole or behind a newline. -/
def Anchored (text whole : List Char) : Prop := text <+: whole ∨ '\n' :: text <:+: whole

theorem Anchored.append {text whole : List Char} (h : Anchored text whole) (more : List Char) :
    Anchored text (whole ++ more) := by
  rcases h with h | h
  · exact .inl (h.trans (List.prefix_append _ _))
  · exact .inr (h.trans (List.prefix_append _ _).isInfix)

theorem Anchored.behind {text whole : List Char} (h : Anchored text whole) (front : List Char) :
    Anchored text (front ++ '\n' :: whole) := by
  rcases h with h | h
  · have hline : '\n' :: text <+: '\n' :: whole := List.cons_prefix_cons.2 ⟨rfl, h⟩
    exact .inr (hline.isInfix.trans (List.suffix_append _ _).isInfix)
  · have hwhole : whole <:+ front ++ '\n' :: whole :=
      (List.suffix_cons _ _).trans (List.suffix_append _ _)
    exact .inr (h.trans hwhole.isInfix)

theorem anchored_of_lineNames {name line whole : List Char} (hline : line ∈ lines whole)
    (h : lineNames name line = true) : '\n' ∉ name ∧ Anchored (name ++ [' ']) whole := by
  have hstart : name ++ [' '] <+: line := List.isPrefixOf_iff_prefix.1 h
  constructor
  · intro hm
    apply newline_not_mem_of_mem_lines hline
    exact hstart.subset (List.mem_append_left _ hm)
  · rcases anchored_of_mem_lines hline with hfirst | hlater
    · exact .inl (hstart.trans hfirst)
    · have hbehind : '\n' :: (name ++ [' ']) <+: '\n' :: line := List.cons_prefix_cons.2 ⟨rfl, hstart⟩
      exact .inr (hbehind.isInfix.trans hlater)

theorem exists_line_of_prefix {name whole : List Char} (hname : '\n' ∉ name)
    (h : name ++ [' '] <+: whole) : ∃ line ∈ lines whole, lineNames name line = true := by
  obtain ⟨rest, rfl⟩ := h
  have hstart : '\n' ∉ name ++ [' '] := by simp [hname]
  obtain ⟨more, hline⟩ := exists_mem_lines_append hstart rest
  exact ⟨_, hline, List.isPrefixOf_iff_prefix.2 (List.prefix_append _ _)⟩

theorem isListed_iff_anchored (registry module : String) : isListed registry module = true ↔
    '\n' ∉ module.toList ∧ Anchored (module.toList ++ [' ']) registry.toList := by
  rw [isListed, List.any_eq_true]
  constructor
  · intro h
    obtain ⟨line, hline, hnames⟩ := h
    exact anchored_of_lineNames hline hnames
  · intro h
    obtain ⟨hname, hfirst | hlater⟩ := h
    · exact exists_line_of_prefix hname hfirst
    · obtain ⟨before, after, hwhole⟩ := hlater
      have hsplit : registry.toList = before ++ '\n' :: (module.toList ++ [' '] ++ after) := by
        rw [← hwhole]
        simp
      -- the newline ends a line, so that the rest is searched from its own start
      obtain ⟨line, hline, hnames⟩ := exists_line_of_prefix hname
        (List.prefix_append (module.toList ++ [' ']) after)
      refine ⟨line, ?_, hnames⟩
      rw [hsplit, lines_append_cons]
      exact List.mem_append_right _ hline

/-! ### Growing registries -/

/-- Presence is an anchored search for the name and a space, and nothing that is written behind a
registry, or in front of it on lines of its own, takes it back. -/
theorem isListed_search (registry module : String) :
    (isListed registry module = true ↔ '\n' ∉ module.toList ∧
      (module.toList ++ [' '] <+: registry.toList ∨
        '\n' :: (module.toList ++ [' ']) <:+: registry.toList)) ∧
    (isListed registry module = true → ∀ more, isListed (registry ++ more) module = true) ∧
    (isListed registry module = true →
      ∀ front : String, front.toList.getLast? = some '\n' →
        isListed (front ++ registry) module = true) := by
  refine ⟨isListed_iff_anchored registry module, fun h more => ?_, fun h front hfront => ?_⟩
  · obtain ⟨hname, hanchored⟩ := (isListed_iff_anchored registry module).1 h
    rw [isListed_iff_anchored, String.toList_append]
    exact ⟨hname, hanchored.append more.toList⟩
  · obtain ⟨hname, hanchored⟩ := (isListed_iff_anchored registry module).1 h
    obtain ⟨lead, hlead⟩ := List.getLast?_eq_some_iff.1 hfront
    rw [isListed_iff_anchored, String.toList_append, hlead, List.append_assoc]
    exact ⟨hname, hanchored.behind lead⟩

/-- A name that is empty, one that holds a space, and one that holds a newline. -/
theorem isListed_search_odd_names :
    isListed "a\n b" "" = true ∧ isListed "a\n b\nvr" "" = true ∧
      isListed "vrf x 1" "vrf x" = true ∧ isListed "\nvrf x 1" "vrf x" = true ∧
      isListed "a\nvrf 1" "a\nvrf" = false := by
  have hempty : isListed "a\n b" "" = true :=
    (isListed_search "a\n b" "").1.2 ⟨by decide, .inr ⟨['a'], ['b'], rfl⟩⟩
  have hspaced : isListed "vrf x 1" "vrf x" = true :=
    (isListed_search "vrf x 1" "vrf x").1.2 ⟨by decide, .inl ⟨['1'], rfl⟩⟩
  refine ⟨hempty, (isListed_search _ _).2.1 hempty "\nvr", hspaced,
    (isListed_search _ _).2.2 hspaced "\n" rfl, ?_⟩
  apply Bool.eq_false_iff.2
  intro h
  exact ((isListed_search _ _).1.1 h).1 (by decide)

end VrfPresence.Registry
