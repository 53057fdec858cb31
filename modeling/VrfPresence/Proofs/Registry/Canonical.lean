import VrfPresence.Proofs.Registry.Grammar
import VrfPresence.Proofs.Registry.Line

/-!
# Entries that were read

Whatever line an entry was read from, its texts fit into their columns. So it can be written again in
any layout, and is read back from what was written: to read, write and read once more is to read.
-/

namespace VrfPresence.Registry

open Text

theorem not_isBlank_of_mem_column {line : String} {word : List Char} {i : Nat}
    (h : (words line.toList)[i]? = some word) : ∀ c ∈ word, isBlank c = false :=
  (isWord_of_mem_words (List.mem_of_getElem? h)).2

theorem isWord_of_listsNames {word : List Char} {names : List (List Char)} (h : ListsNames word names)
    (hword : ∀ c ∈ word, isBlank c = false) : ∀ name ∈ names, IsWord name ∧ ',' ∉ name := by
  intro name hname
  rcases h with ⟨-, rfl⟩ | ⟨-, pieces, hcut, rfl⟩
  · cases hname
  · obtain ⟨hpiece, hne⟩ := List.mem_filter.1 hname
    have hsplit : name ∈ splitWhere (· == ',') word := isCut_iff.1 hcut ▸ hpiece
    refine ⟨⟨by simpa using hne, fun c hc => ?_⟩, hcut.free name hpiece⟩
    exact hword c (of_mem_splitWhere hsplit c hc).1

theorem Parenthesises.mem {word taint : List Char} (h : Parenthesises word taint) :
    ∀ c ∈ taint, c ∈ word := by
  obtain ⟨opening, closing, rfl, -⟩ := h
  intro c hc
  simp [hc]

theorem ModuleEntry.DescribedBy.representable {entry : ModuleEntry} {line : String}
    (h : entry.DescribedBy (words line.toList)) : entry.Representable := by
  constructor
  case name => exact isWord_of_mem_words (List.mem_of_getElem? h.name)
  case dependents =>
    intro dependent hdependent
    obtain ⟨word, hword, hnames⟩ := h.dependents
    apply isWord_of_listsNames hnames (not_isBlank_of_mem_column hword)
    exact List.mem_map_of_mem hdependent
  case taint =>
    intro taint htaint
    rcases h.taint with ⟨-, hnone⟩ | ⟨word, bare, hword, hbare, hparens⟩
    · rw [hnone] at htaint
      cases htaint
    · rw [hbare] at htaint
      obtain rfl := Option.some.inj htaint
      have hmem := hparens.mem
      obtain ⟨opening, closing, -, hfirst, hlast⟩ := hparens
      rw [String.toList_ofList]
      exact ⟨fun c hc => not_isBlank_of_mem_column hword c (hmem c hc), hfirst, hlast⟩

theorem representable_of_parse {line : String} {entry : ModuleEntry}
    (h : ModuleEntry.parse line = .ok entry) : entry.Representable :=
  (ofWords_eq_ok_iff.1 h).representable

/-- What is read from a line fits into the columns of a line, and is read again from every line that
is written of it. -/
theorem parse_canonical (line : String) :
    (∀ entry, ModuleEntry.parse line = .ok entry → entry.Representable ∧
      ∀ layout, ModuleEntry.parse (entry.render layout) = .ok entry) ∧
    ∀ layout, (do ModuleEntry.parse ((← ModuleEntry.parse line).render layout)) =
      ModuleEntry.parse line := by
  have hread : ∀ entry, ModuleEntry.parse line = .ok entry → entry.Representable ∧
      ∀ layout, ModuleEntry.parse (entry.render layout) = .ok entry := by
    intro entry h
    have hr := representable_of_parse h
    exact ⟨hr, fun layout => parse_render layout hr⟩
  refine ⟨hread, fun layout => ?_⟩
  cases hp : ModuleEntry.parse line with
  | error error => rfl
  | ok entry =>
    have hagain := (hread entry hp).2 layout
    simpa only [bind, Except.bind] using hagain

theorem parse_canonical_untidy :
    let line := "\tvrf +007 - ,a,,-,  Live 0x+0F )(x)) y"
    let entry : ModuleEntry := ⟨"vrf", 7, 0, ["a", "-"], .live, 15, some ")(x"⟩
    let layout : Layout := ⟨true, 16, false⟩
    ModuleEntry.parse line = .ok entry ∧ entry.Representable ∧
      entry.render layout = "vrf 7 - a,-, Live 0x000000000000000f ()(x)" ∧
      ModuleEntry.parse (entry.render layout) = .ok entry := by
  intro line entry layout
  have hp : ModuleEntry.parse line = .ok entry := by
    unfold line entry
    rfl
  obtain ⟨hr, hagain⟩ := (parse_canonical line).1 entry hp
  exact ⟨hp, hr, by decide, hagain layout⟩

end VrfPresence.Registry
