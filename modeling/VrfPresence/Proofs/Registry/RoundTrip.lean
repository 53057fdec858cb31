import VrfPresence.Proofs.Registry.Line

/-!
# Registries that were written

A registry with one line for each of some representable entries is read back by all of its
readers: `entries` gives the entries in order, `find` the first of a name, and `isListed`, which
looks at raw lines only, tells whether there is one.
-/

namespace VrfPresence.Registry

open Text

/-- One line for each entry, in a layout of its own; the last line may end in a newline too. -/
def write (items : List (Layout × ModuleEntry)) (lastNewline : Bool) : String :=
  let rendered := join ['\n'] (items.map fun item => (item.2.render item.1).toList)
  String.ofList (rendered ++ if lastNewline then ['\n'] else [])

/-! ### Lines of a written registry -/

/-- Without an entry, and behind a last newline, there are lines without a character. -/
theorem lines_write (items : List (Layout × ModuleEntry)) (lastNewline : Bool)
    (h : ∀ item ∈ items, item.2.Representable) :
    ∃ count, lines (write items lastNewline).toList =
      (items.map fun item => (item.2.render item.1).toList) ++ List.replicate count [] := by
  have hjoin : ∃ count, lines (join ['\n'] (items.map fun item => (item.2.render item.1).toList)) =
      (items.map fun item => (item.2.render item.1).toList) ++ List.replicate count [] := by
    cases items with
    | nil => exact ⟨1, rfl⟩
    | cons item items =>
      refine ⟨0, ?_⟩
      rw [lines_join _ (by simp), List.replicate_zero, List.append_nil]
      intro line hl
      obtain ⟨written, hw, rfl⟩ := List.mem_map.1 hl
      exact newline_not_mem_render written.1 (h written hw)
  obtain ⟨count, hc⟩ := hjoin
  rw [write, String.toList_ofList]
  cases lastNewline with
  | false => exact ⟨count, by simpa using hc⟩
  | true =>
    refine ⟨count + 1, ?_⟩
    rw [if_pos rfl, lines_append_newline, hc, List.append_assoc, List.replicate_succ']

theorem isBlankLine_render (layout : Layout) {entry : ModuleEntry} (h : entry.Representable) :
    isBlankLine (entry.render layout).toList = false := by
  have hw : words (entry.render layout).toList ≠ [] := by
    rw [words_render layout h]
    exact List.cons_ne_nil _ _
  have hb := mt (words_eq_nil_iff _).2 hw
  simpa using hb

theorem render_eq_name_cons (layout : Layout) (entry : ModuleEntry) :
    ∃ rest, (entry.render layout).toList = entry.name.toList ++ ' ' :: rest := by
  rw [ModuleEntry.render, String.toList_ofList, ModuleEntry.toWords]
  simp only [List.cons_append, join, List.append_assoc, List.nil_append]
  exact ⟨_, rfl⟩

theorem lineNames_render (layout : Layout) {entry : ModuleEntry} (h : entry.Representable)
    {name : String} (hn : ' ' ∉ name.toList) :
    lineNames name.toList (entry.render layout).toList = true ↔ entry.name = name := by
  obtain ⟨rest, hr⟩ := render_eq_name_cons layout entry
  have hfree : ' ' ∉ entry.name.toList := fun hm => by cases h.name.2 ' ' hm
  rw [lineNames, List.isPrefixOf_iff_prefix, hr]
  constructor
  · rintro ⟨tail, ht⟩
    rw [List.append_assoc, List.singleton_append] at ht
    exact (String.toList_inj.1 (eq_of_append_cons hn hfree ht)).symm
  · rintro rfl
    exact ⟨rest, by simp⟩

/-! ### Reading back -/

theorem entries_write (items : List (Layout × ModuleEntry)) (lastNewline : Bool)
    (h : ∀ item ∈ items, item.2.Representable) :
    entries (write items lastNewline) = items.map fun item => .ok item.2 := by
  obtain ⟨count, hc⟩ := lines_write items lastNewline h
  have hkept : (items.map fun item => (item.2.render item.1).toList).filter (!isBlankLine ·) =
      items.map fun item => (item.2.render item.1).toList := by
    refine List.filter_eq_self.2 fun line hl => ?_
    obtain ⟨item, hi, rfl⟩ := List.mem_map.1 hl
    rw [isBlankLine_render item.1 (h item hi)]
    rfl
  have hdropped : (List.replicate count []).filter (!isBlankLine ·) = [] := by
    refine List.filter_eq_nil_iff.2 fun line hl => ?_
    rw [List.eq_of_mem_replicate hl]
    decide
  rw [entries, hc, List.filter_append, hkept, hdropped, List.append_nil, List.map_map]
  refine List.map_congr_left fun item hi => ?_
  rw [Function.comp, Function.comp, String.ofList_toList, parse_render item.1 (h item hi)]

theorem find_write (items : List (Layout × ModuleEntry)) (lastNewline : Bool)
    (h : ∀ item ∈ items, item.2.Representable) (module : String) :
    find (write items lastNewline) module =
      (items.map fun item => item.2).find? (·.name == module) := by
  have hsome : (Except.toOption ∘ fun item : Layout × ModuleEntry =>
      (.ok item.2 : Except EntryError ModuleEntry)) = some ∘ fun item => item.2 := rfl
  rw [find, entries_write items lastNewline h, List.filterMap_map, hsome, List.filterMap_eq_map]

theorem isListed_write (items : List (Layout × ModuleEntry)) (lastNewline : Bool)
    (h : ∀ item ∈ items, item.2.Representable) (module : String) (hm : ' ' ∉ module.toList) :
    isListed (write items lastNewline) module = true ↔ ∃ item ∈ items, item.2.name = module := by
  obtain ⟨count, hc⟩ := lines_write items lastNewline h
  have hempty : (List.replicate count []).any (lineNames module.toList) = false := by
    refine List.any_eq_false.2 fun line hl => ?_
    rw [List.eq_of_mem_replicate hl]
    simp [lineNames]
  rw [isListed, hc, List.any_append, hempty, Bool.or_false, List.any_map, List.any_eq_true]
  constructor
  · rintro ⟨item, hi, hl⟩
    exact ⟨item, hi, (lineNames_render item.1 (h item hi) hm).1 hl⟩
  · rintro ⟨item, hi, hn⟩
    exact ⟨item, hi, (lineNames_render item.1 (h item hi) hm).2 hn⟩

/-- All three readers agree on a registry that was written from representable entries. -/
theorem readers_of_write (items : List (Layout × ModuleEntry)) (lastNewline : Bool)
    (h : ∀ item ∈ items, item.2.Representable) :
    entries (write items lastNewline) = items.map (fun item => .ok item.2) ∧
    (∀ module, find (write items lastNewline) module =
      (items.map fun item => item.2).find? (·.name == module)) ∧
    ∀ module : String, ' ' ∉ module.toList →
      (isListed (write items lastNewline) module = true ↔ ∃ item ∈ items, item.2.name = module) :=
  ⟨entries_write items lastNewline h, find_write items lastNewline h,
    isListed_write items lastNewline h⟩

theorem readers_of_write_corners :
    let dashed : ModuleEntry := ⟨"-", 0xffffffffffffffff, 0, ["-", "b"], .unloading,
      0xffffffffffffffff, some ""⟩
    let inner : ModuleEntry := ⟨"vrf", 0, 0xffffffff, [], .live, 0, some "a)(b"⟩
    let items := [(⟨true, 0, true⟩, dashed), (⟨false, 3, false⟩, inner)]
    (∀ item ∈ items, item.2.Representable) ∧
      entries (write items true) = [.ok dashed, .ok inner] ∧
      find (write items true) "vrf" = some inner ∧ isListed (write items true) "vrf" = true := by
  intro dashed inner items
  have h : ∀ item ∈ items, item.2.Representable := by decide
  have hr := readers_of_write items true h
  refine ⟨h, hr.1, (hr.2.1 "vrf").trans (by decide), (hr.2.2 "vrf" (by decide)).2 ?_⟩
  exact ⟨(⟨false, 3, false⟩, inner), by simp [items], rfl⟩

end VrfPresence.Registry
