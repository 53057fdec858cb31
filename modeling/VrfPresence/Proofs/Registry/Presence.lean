import VrfPresence.Proofs.Registry.Grammar
import VrfPresence.Registry.Scan

/-!
# Presence and entry

Presence is read off the raw lines of a registry, an entry off the words of a line. Both look at
the first word of a line, and differ in three ways of setting it: behind white space, in front
of white space other than the space, and alone on its line. Where no line does so, a module
with an entry is listed; a module that is listed has an entry unless its lines are malformed.
-/

namespace VrfPresence.Registry

open Text

/-! ### First words -/

def IsFirstWord (name line : List Char) : Prop := (words line).head? = some name

/-- The name is set so that it can be the first word of the line but does not list it. -/
inductive Misplaced (name : List Char) : List Char → Prop
  | behind {c : Char} {rest : List Char} (hc : isBlank c = true) : Misplaced name (c :: rest)
  | before {c : Char} {rest : List Char} (hc : isBlank c = true) (hs : c ≠ ' ') :
      Misplaced name (name ++ c :: rest)
  | alone : Misplaced name name

theorem isFirstWord_of_lineNames {name line : List Char} (hn : IsWord name)
    (h : lineNames name line = true) : IsFirstWord name line := by
  obtain ⟨rest, rfl⟩ := List.isPrefixOf_iff_prefix.1 h
  rw [List.append_assoc]
  exact head?_words_append hn fun c hc => Option.some.inj hc ▸ rfl

theorem lineNames_or_misplaced {name line : List Char} (h : IsFirstWord name line) :
    lineNames name line = true ∨ Misplaced name line := by
  obtain ⟨blanks, rest, rfl, hblanks, hrest⟩ := eq_append_of_head?_words h
  -- only a name at the very start with a space behind it lists
  cases blanks with
  | cons c blanks => exact .inr (.behind (hblanks c (List.mem_cons_self ..)))
  | nil =>
    cases rest with
    | nil =>
      rw [List.append_nil]
      exact .inr .alone
    | cons c rest =>
      by_cases hs : c = ' '
      · refine .inl (List.isPrefixOf_iff_prefix.2 ⟨rest, ?_⟩)
        simp [hs]
      · exact .inr (.before (hrest c rfl) hs)

theorem not_misplaced_of_lineNames {name line : List Char} (hn : IsWord name)
    (h : lineNames name line = true) : ¬ Misplaced name line := by
  obtain ⟨rest, rfl⟩ := List.isPrefixOf_iff_prefix.1 h
  rw [List.append_assoc, List.singleton_append]
  intro hmis
  generalize ht : name ++ ' ' :: rest = text at hmis
  cases hmis with
  | @behind c text hc =>
    obtain ⟨first, name, rfl⟩ := List.exists_cons_of_ne_nil hn.1
    obtain ⟨rfl, -⟩ := List.cons.inj ht
    rw [hn.2 first (List.mem_cons_self ..)] at hc
    cases hc
  | before hc hs => exact hs (List.cons.inj (List.append_cancel_left ht)).1.symm
  | alone =>
    have hl := congrArg List.length ht
    simp at hl

theorem not_misplaced {name line : List Char} (hstart : ∀ c ∈ line.head?, isBlank c = false)
    (hblank : ∀ c ∈ line, isBlank c = true → c = ' ') (hlong : line ≠ name) :
    ¬ Misplaced name line := by
  intro h
  cases h with
  | @behind c rest hc =>
    have hf := hstart c rfl
    rw [hc] at hf
    cases hf
  | before hc hs => exact hs (hblank _ (by simp) hc)
  | alone => exact hlong rfl

theorem isListed_eq_false_iff {module : String} (hm : IsWord module.toList) (registry : String) :
    isListed registry module = false ↔ ∀ line ∈ lines registry.toList,
      IsFirstWord module.toList line → Misplaced module.toList line := by
  rw [isListed, List.any_eq_false]
  constructor
  · intro h line hline hfirst
    exact (lineNames_or_misplaced hfirst).resolve_left (h line hline)
  · intro h line hline hnames
    exact not_misplaced_of_lineNames hm hnames (h line hline (isFirstWord_of_lineNames hm hnames))

/-! ### Entries by their lines -/

/-- What lines say, blank ones left out. -/
def readLines (lines : List (List Char)) : List (Except EntryError ModuleEntry) :=
  (lines.filter (!isBlankLine ·)).map (ModuleEntry.parse ∘ String.ofList)

theorem entries_eq_readLines (registry : String) :
    entries registry = readLines (lines registry.toList) := rfl

theorem readLines_append (a b : List (List Char)) :
    readLines (a ++ b) = readLines a ++ readLines b := by
  simp [readLines]

theorem readLines_cons {line : List Char} (h : isBlankLine line = false) (lines : List (List Char)) :
    readLines (line :: lines) = ModuleEntry.parse (String.ofList line) :: readLines lines := by
  simp [readLines, h]

theorem IsFirstWord.isBlankLine {name line : List Char} (h : IsFirstWord name line) :
    isBlankLine line = false := by
  refine Bool.eq_false_iff.2 fun hb => ?_
  rw [IsFirstWord, (words_eq_nil_iff line).2 hb] at h
  cases h

/-! ### What a line says of its first word -/

/-- With a first word, the column at fault is one of the later ones. -/
theorem column_ne_name_of_ofWords {columns : List (List Char)} {error : EntryError}
    (hne : columns ≠ []) (h : ModuleEntry.ofWords (columns.map String.ofList) = .error error) :
    error.column ≠ .name := by
  intro hname
  obtain ⟨column, hfails, -⟩ := blames_of_ofWords h
  rw [hfails.column_eq] at hname
  subst hname
  obtain ⟨word, others, rfl⟩ := List.exists_cons_of_ne_nil hne
  have hholds : Column.name.Holds (word :: others) := ⟨word, rfl, trivial⟩
  exact hholds.not_fails hfails

theorem isFirstWord_of_parse {line : String} {entry : ModuleEntry}
    (h : ModuleEntry.parse line = .ok entry) : IsFirstWord entry.name.toList line.toList := by
  rw [IsFirstWord, List.head?_eq_getElem?]
  exact (ofWords_eq_ok_iff.1 h).name

theorem isFirstWord_of_parse_ofList {line : List Char} {entry : ModuleEntry}
    (h : ModuleEntry.parse (String.ofList line) = .ok entry) :
    IsFirstWord entry.name.toList line := by
  have hfirst := isFirstWord_of_parse h
  rwa [String.toList_ofList] at hfirst

theorem parse_of_isFirstWord {name : List Char} {line : String} (h : IsFirstWord name line.toList) :
    (∃ entry, ModuleEntry.parse line = .ok entry ∧ entry.name.toList = name) ∨
      ∃ error, ModuleEntry.parse line = .error error ∧ error ≠ .missing .name := by
  cases hp : ModuleEntry.parse line with
  | ok entry =>
    have hf := isFirstWord_of_parse hp
    exact .inl ⟨entry, rfl, Option.some.inj (hf.symm.trans h)⟩
  | error error =>
    refine .inr ⟨error, rfl, ?_⟩
    rintro rfl
    obtain ⟨rest, hw⟩ := List.head?_eq_some_iff.1 h
    exact column_ne_name_of_ofWords (hw ▸ List.cons_ne_nil _ _) hp rfl

/-! ### Finding an entry -/

/-- The entry of the module that a line gives. -/
def entryNamed? (module : String) (line : List Char) : Option ModuleEntry :=
  (ModuleEntry.parse (String.ofList line)).toOption.filter (·.name == module)

theorem entryNamed?_eq_some_iff {module : String} {line : List Char} {entry : ModuleEntry} :
    entryNamed? module line = some entry ↔
      ModuleEntry.parse (String.ofList line) = .ok entry ∧ entry.name = module := by
  rw [entryNamed?, Option.filter_eq_some_iff, beq_iff_eq]
  cases ModuleEntry.parse (String.ofList line) <;> simp [Except.toOption]

theorem parse_of_isBlankLine {line : List Char} (h : isBlankLine line = true) :
    ModuleEntry.parse (String.ofList line) = .error (.missing .name) := by
  rw [ModuleEntry.parse, String.toList_ofList, (words_eq_nil_iff line).2 h]
  rfl

/-- Line by line, the first that gives an entry of the module; blank lines give none. -/
theorem find_eq_findSome? (registry module : String) :
    find registry module = (lines registry.toList).findSome? (entryNamed? module) := by
  rw [find, entries_eq_readLines]
  induction lines registry.toList with
  | nil => rfl
  | cons line others ih =>
    by_cases hb : isBlankLine line = true
    · have hskip : readLines (line :: others) = readLines others := by simp [readLines, hb]
      have hnone : entryNamed? module line = none := by
        rw [entryNamed?, parse_of_isBlankLine hb]
        rfl
      rw [hskip, ih, List.findSome?_cons, hnone]
    · rw [readLines_cons (Bool.eq_false_iff.2 hb), List.findSome?_cons, entryNamed?]
      cases ModuleEntry.parse (String.ofList line) with
      | error error => exact ih
      | ok entry =>
        by_cases hn : (entry.name == module) = true
        · simp [Except.toOption, Option.filter, hn]
        · simpa [Except.toOption, Option.filter, hn] using ih

theorem find_isSome_iff (registry module : String) : (find registry module).isSome = true ↔
    ∃ line ∈ lines registry.toList, ∃ entry,
      ModuleEntry.parse (String.ofList line) = .ok entry ∧ entry.name = module := by
  rw [find_eq_findSome?, List.findSome?_isSome_iff]
  simp only [Option.isSome_iff_exists, entryNamed?_eq_some_iff]

/-- The entry of the first line that starts with the word for the module and is well-formed. -/
def FirstEntry (registry module : String) (entry : ModuleEntry) : Prop :=
  ∃ before line after, lines registry.toList = before ++ line :: after ∧
    IsFirstWord module.toList line ∧ ModuleEntry.parse (String.ofList line) = .ok entry ∧
    ∀ earlier ∈ before, IsFirstWord module.toList earlier →
      ∃ error, ModuleEntry.parse (String.ofList earlier) = .error error

theorem entryNamed?_eq_some_iff_isFirstWord {module : String} {line : List Char} {entry : ModuleEntry} :
    entryNamed? module line = some entry ↔
      IsFirstWord module.toList line ∧ ModuleEntry.parse (String.ofList line) = .ok entry := by
  rw [entryNamed?_eq_some_iff]
  constructor
  · intro h
    obtain ⟨hp, rfl⟩ := h
    exact ⟨isFirstWord_of_parse_ofList hp, hp⟩
  · intro h
    obtain ⟨hfirst, hp⟩ := h
    have hname := Option.some.inj ((isFirstWord_of_parse_ofList hp).symm.trans hfirst)
    exact ⟨hp, String.toList_injective hname⟩

theorem entryNamed?_eq_none_iff {module : String} {line : List Char} :
    entryNamed? module line = none ↔ (IsFirstWord module.toList line →
      ∃ error, ModuleEntry.parse (String.ofList line) = .error error) := by
  rw [Option.eq_none_iff_forall_ne_some]
  simp only [ne_eq, entryNamed?_eq_some_iff_isFirstWord, not_and]
  cases ModuleEntry.parse (String.ofList line) <;> simp

theorem find_eq_some_iff {registry module : String} {entry : ModuleEntry} :
    find registry module = some entry ↔ FirstEntry registry module entry := by
  rw [find_eq_findSome?, List.findSome?_eq_some_iff, FirstEntry]
  simp only [entryNamed?_eq_some_iff_isFirstWord, entryNamed?_eq_none_iff, and_assoc]

theorem find_eq_none_iff {registry module : String} : find registry module = none ↔
    ∀ line ∈ lines registry.toList, IsFirstWord module.toList line →
      ∃ error, ModuleEntry.parse (String.ofList line) = .error error := by
  rw [find_eq_findSome?, List.findSome?_eq_none_iff]
  simp only [entryNamed?_eq_none_iff]

/-- A line with an entry is longer than the name of the entry. -/
theorem ne_name_of_parse {line : List Char} {entry : ModuleEntry}
    (h : ModuleEntry.parse (String.ofList line) = .ok entry) (hn : IsWord entry.name.toList) :
    line ≠ entry.name.toList := by
  rintro rfl
  have hsize := (of_ofWords_eq_ok h).2.1
  rw [String.toList_ofList, words_of_isWord hn] at hsize
  cases hsize

/-! ### Listed and found -/

/-- A listed module has a line that its name begins, and whether it is found depends on whether
its lines are well-formed. A module that is found is listed too, unless all of its lines set the
name in one of the ways that do not list it. -/
theorem isListed_vs_find (registry module : String) (hm : IsWord module.toList) :
    (isListed registry module = true →
      (∃ before line after, lines registry.toList = before ++ line :: after ∧
        IsFirstWord module.toList line ∧
        entries registry = readLines before ++
          ModuleEntry.parse (String.ofList line) :: readLines after ∧
        ((∃ entry, ModuleEntry.parse (String.ofList line) = .ok entry ∧ entry.name = module) ∨
          ∃ error, ModuleEntry.parse (String.ofList line) = .error error ∧
            error ≠ .missing .name)) ∧
      ((∀ line ∈ lines registry.toList, IsFirstWord module.toList line →
          ∃ entry, ModuleEntry.parse (String.ofList line) = .ok entry) →
        (find registry module).isSome = true)) ∧
    ((∀ line ∈ lines registry.toList, ∀ c ∈ line.head?, isBlank c = false) →
      (∀ line ∈ lines registry.toList, ∀ c ∈ line, isBlank c = true → c = ' ') →
      ∀ entry, find registry module = some entry → isListed registry module = true) ∧
    (∀ entry, find registry module = some entry →
      (isListed registry module = false ↔ ∀ line ∈ lines registry.toList,
        IsFirstWord module.toList line → Misplaced module.toList line)) := by
  refine ⟨?listed, ?found, fun _ _ => isListed_eq_false_iff hm registry⟩
  case listed =>
    intro hl
    obtain ⟨line, hline, hnames⟩ := List.any_eq_true.1 hl
    have hfirst := isFirstWord_of_lineNames hm hnames
    have htext : IsFirstWord module.toList (String.ofList line).toList := by
      rwa [String.toList_ofList]
    have hparse := parse_of_isFirstWord htext
    refine ⟨?_, fun hwell => ?_⟩
    · obtain ⟨before, after, hsplit⟩ := List.append_of_mem hline
      refine ⟨before, line, after, hsplit, hfirst, ?_, ?_⟩
      · rw [entries_eq_readLines, hsplit, readLines_append, readLines_cons hfirst.isBlankLine]
      · simpa only [String.toList_inj] using hparse
    · obtain ⟨entry, hp⟩ := hwell line hline hfirst
      refine (find_isSome_iff registry module).2 ⟨line, hline, entry, hp, ?_⟩
      rcases hparse with ⟨named, hn, hname⟩ | ⟨error, he, -⟩
      · obtain rfl := Except.ok.inj (hp.symm.trans hn)
        exact String.toList_inj.1 hname
      · rw [hp] at he
        cases he
  case found =>
    intro hstart hblank entry hf
    obtain ⟨line, hline, entry, hp, rfl⟩ :=
      (find_isSome_iff registry module).1 (Option.isSome_iff_exists.2 ⟨entry, hf⟩)
    have hfirst := isFirstWord_of_parse hp
    rw [String.toList_ofList] at hfirst
    rcases lineNames_or_misplaced hfirst with hnames | hmis
    · exact List.any_eq_true.2 ⟨line, hline, hnames⟩
    · exact absurd hmis
        (not_misplaced (hstart line hline) (hblank line hline) (ne_name_of_parse hp hm))

theorem isListed_vs_find_unlike :
    let plain := "ab 2 0 - Live 0x1\nvrf 1 - - Live 0x0"
    let malformed := "vrf garbage\nvrf 1 - - Live 0x0"
    let tabbed := "\tvrf 1 - - Live 0x0\nvrf"
    let entry : ModuleEntry := ⟨"vrf", 1, 0, [], .live, 0, none⟩
    IsWord "vrf".toList ∧
      (find plain "vrf" = some entry ∧ isListed plain "vrf" = true) ∧
      (isListed malformed "vrf" = true ∧
        ∃ before line after, lines malformed.toList = before ++ line :: after ∧
          IsFirstWord "vrf".toList line) ∧
      find tabbed "vrf" = some entry ∧ isListed tabbed "vrf" = false ∧
      ∀ line ∈ lines tabbed.toList, IsFirstWord "vrf".toList line →
        Misplaced "vrf".toList line := by
  intro plain malformed tabbed entry
  have hword : IsWord "vrf".toList := by decide
  have hplain : find plain "vrf" = some entry := by decide
  have hstart : ∀ line ∈ lines plain.toList, ∀ c ∈ line.head?, isBlank c = false := by
    have hall : (lines plain.toList).all (·.head?.all (!isBlank ·)) = true := by decide
    intro line hline c hc
    have hfirst := List.all_eq_true.1 hall line hline
    rw [Option.mem_def.1 hc] at hfirst
    simpa using hfirst
  have hblank : ∀ line ∈ lines plain.toList, ∀ c ∈ line, isBlank c = true → c = ' ' := by
    have hall : (lines plain.toList).all (·.all fun c => !isBlank c || c == ' ') = true := by decide
    intro line hline c hc hb
    have hone := List.all_eq_true.1 (List.all_eq_true.1 hall line hline) c hc
    simpa [hb] using hone
  have hlisted : isListed malformed "vrf" = true := by decide
  have hfound : find tabbed "vrf" = some entry := by decide
  have hunlisted : isListed tabbed "vrf" = false := by decide
  obtain ⟨⟨before, line, after, hsplit, hfirst, -⟩, -⟩ :=
    (isListed_vs_find malformed "vrf" hword).1 hlisted
  exact ⟨hword,
    ⟨hplain, (isListed_vs_find plain "vrf" hword).2.1 hstart hblank entry hplain⟩,
    ⟨hlisted, before, line, after, hsplit, hfirst⟩, hfound, hunlisted,
    ((isListed_vs_find tabbed "vrf" hword).2.2 entry hfound).1 hunlisted⟩

end VrfPresence.Registry
