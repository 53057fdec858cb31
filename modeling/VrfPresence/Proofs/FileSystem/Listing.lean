import VrfPresence.Proofs.FileSystem.History
import VrfPresence.Proofs.FileSystem.PlainChanges

/-!
# One listing in two file systems

A listing names directories and files. It can be laid out in a directory tree, where the
directories above each path are made as well, and in a store in memory, which is flat and has to
be told of them. Both hold the same node at each path of ordinary names: the text listed for the
path, else a directory if one is listed there or is needed above something listed. In the store
the order of the steps is free.
-/

namespace VrfPresence.FileSystem

open MemoryStore (Step)

/-! ### Listings -/

inductive ListedItem
  | directory (path : String)
  | file (path text : String)
  deriving DecidableEq, Repr

def ListedItem.path : ListedItem → String
  | .directory path => path
  | .file path _ => path

def ListedItem.names (item : ListedItem) : List (List Char) := Path.pieces item.path

/-- No file is listed as a directory too, or above another path, or with two texts. -/
structure Apart (items : List ListedItem) : Prop where
  oneText : ∀ path text other, ListedItem.file path text ∈ items →
    ListedItem.file path other ∈ items → text = other
  notDirectory : ∀ path text, ListedItem.file path text ∈ items → ListedItem.directory path ∉ items
  notAbove : ∀ path text, ListedItem.file path text ∈ items → ∀ item ∈ items,
    Path.pieces path <+: item.names → Path.pieces path = item.names

def ListedItem.addTo (tree : Tree) : ListedItem → Tree
  | .directory path => tree.makeDirectory path
  | .file path text => tree.writeFile path (some text)

def treeOf (items : List ListedItem) : Tree := items.foldl ListedItem.addTo .empty

/-- The steps that make the item in a store, the directories above it first. -/
def ListedItem.steps : ListedItem → List Step
  | .directory path => (Tree.wayTo path).map .directory
  | .file path text => (Tree.wayTo path).dropLast.map .directory ++ [.file path text]

/-- The history has the steps of all items and no other, in whatever order and number. -/
def Makes (history : List Step) (items : List ListedItem) : Prop :=
  (∀ step ∈ history, ∃ item ∈ items, step ∈ item.steps) ∧
    ∀ item ∈ items, ∀ step ∈ item.steps, step ∈ history

instance (history : List Step) (items : List ListedItem) : Decidable (Makes history items) := by
  unfold Makes
  infer_instance

/-! ### What a listing says of a path -/

/-- The text that the item puts at the names. -/
def ListedItem.text? (names : List (List Char)) : ListedItem → Option String
  | .directory _ => none
  | .file path text => if Path.pieces path = names then some text else none

/-- The item is a directory at the names, or stands below them. -/
def ListedItem.needs (names : List (List Char)) : ListedItem → Bool
  | .directory path => names <+: Path.pieces path
  | .file path _ => names <+: Path.pieces path ∧ names ≠ Path.pieces path

def textOf (items : List ListedItem) (names : List (List Char)) : Option String :=
  (items.filterMap (·.text? names)).getLast?

def nodeOf (items : List ListedItem) (names : List (List Char)) : Option Node :=
  match textOf items names with
  | some text => some (.file (some text))
  | none => if items.any (·.needs names) then some .directory else none

theorem textOf_append (items : List ListedItem) (item : ListedItem) (names : List (List Char)) :
    textOf (items ++ [item]) names = (item.text? names).or (textOf items names) := by
  have hs : ([item].filterMap (·.text? names)).getLast? = item.text? names := by
    cases h : item.text? names <;> simp [h]
  rw [textOf, List.filterMap_append, List.getLast?_append, hs, textOf]

theorem exists_file_of_mem {items : List ListedItem} {names : List (List Char)} {text : String}
    (h : text ∈ items.filterMap (·.text? names)) :
    ∃ path, ListedItem.file path text ∈ items ∧ Path.pieces path = names := by
  obtain ⟨item, hm, ht⟩ := List.mem_filterMap.1 h
  cases item with
  | directory path => cases ht
  | file path other =>
    rw [ListedItem.text?] at ht
    split at ht
    · rename_i he
      cases ht
      exact ⟨path, hm, he⟩
    · cases ht

theorem exists_file_of_textOf {items : List ListedItem} {names : List (List Char)} {text : String}
    (h : textOf items names = some text) :
    ∃ path, ListedItem.file path text ∈ items ∧ Path.pieces path = names :=
  exists_file_of_mem (List.mem_of_getLast? h)

/-- Something is listed at or below each node. -/
theorem exists_item_of_nodeOf {items : List ListedItem} {names : List (List Char)}
    (h : (nodeOf items names).isSome = true) : ∃ item ∈ items, names <+: item.names := by
  rw [nodeOf] at h
  split at h
  · rename_i text ht
    obtain ⟨path, hm, rfl⟩ := exists_file_of_textOf ht
    exact ⟨_, hm, List.prefix_rfl⟩
  · split at h
    · rename_i hany
      obtain ⟨item, hm, hn⟩ := List.any_eq_true.1 hany
      refine ⟨item, hm, ?_⟩
      cases item with
      | directory path => exact of_decide_eq_true hn
      | file path text => exact (of_decide_eq_true hn).1
    · cases h

theorem Clean.path_eq {a b : String} (ha : Clean a) (hb : Clean b)
    (h : Path.pieces a = Path.pieces b) : a = b := by
  refine String.toList_inj.1 ?_
  rw [ha.spells.text, hb.spells.text, h]

theorem Apart.of_append {items : List ListedItem} {item : ListedItem} (h : Apart (items ++ [item])) :
    Apart items :=
  ⟨fun path text other ht ho => h.oneText path text other (List.mem_append_left _ ht)
      (List.mem_append_left _ ho),
    fun path text hm hd => h.notDirectory path text (List.mem_append_left _ hm)
      (List.mem_append_left _ hd),
    fun path text hm other ho => h.notAbove path text (List.mem_append_left _ hm) other
      (List.mem_append_left _ ho)⟩

/-- No item needs a directory where a file is listed. -/
theorem Apart.needs_eq_false {items : List ListedItem} {item : ListedItem} {path text : String}
    (hclean : ∀ item ∈ items, Clean item.path) (h : Apart items)
    (hf : ListedItem.file path text ∈ items) (hm : item ∈ items) :
    item.needs (Path.pieces path) = false := by
  cases item with
  | directory other =>
    refine decide_eq_false fun hp => ?_
    have he : path = other := (hclean _ hf).path_eq (hclean _ hm) (h.notAbove path text hf _ hm hp)
    exact h.notDirectory other text (he ▸ hf) hm
  | file other content =>
    exact decide_eq_false fun hp => hp.2 (h.notAbove path text hf _ hm hp.1)

theorem Apart.textOf_eq_none {items : List ListedItem} {item : ListedItem} {names : List (List Char)}
    (hclean : ∀ item ∈ items, Clean item.path) (h : Apart items) (hm : item ∈ items)
    (hn : item.needs names = true) : textOf items names = none := by
  cases ht : textOf items names with
  | none => rfl
  | some text =>
    obtain ⟨path, hf, rfl⟩ := exists_file_of_textOf ht
    rw [h.needs_eq_false hclean hf hm] at hn
    cases hn

/-! ### The tree -/

theorem nodeOf_directory {items : List ListedItem} {path : String}
    (hclean : ∀ item ∈ items ++ [.directory path], Clean item.path)
    (h : Apart (items ++ [.directory path])) (names : List (List Char)) :
    nodeOf (items ++ [.directory path]) names =
      if names <+: Path.pieces path then some .directory else nodeOf items names := by
  have hneeds : (ListedItem.directory path).needs names = decide (names <+: Path.pieces path) := rfl
  split
  · rename_i hp
    have ht := h.textOf_eq_none hclean (by simp) (hneeds.trans (decide_eq_true hp))
    rw [nodeOf, ht, List.any_append]
    simp [hneeds, hp]
  · rename_i hp
    rw [nodeOf, nodeOf, textOf_append, List.any_append]
    simp [ListedItem.text?, hneeds, hp]

theorem nodeOf_file {items : List ListedItem} {path text : String}
    (hclean : ∀ item ∈ items ++ [.file path text], Clean item.path)
    (h : Apart (items ++ [.file path text])) (names : List (List Char)) :
    nodeOf (items ++ [.file path text]) names =
      if names = Path.pieces path then some (.file (some text))
      else if names <+: Path.pieces path then some .directory else nodeOf items names := by
  have hneeds : (ListedItem.file path text).needs names =
      decide (names <+: Path.pieces path ∧ names ≠ Path.pieces path) := rfl
  split
  · rename_i he
    rw [nodeOf, textOf_append, ListedItem.text?, if_pos he.symm]
    rfl
  · rename_i he
    have he' : ¬ Path.pieces path = names := fun hp => he hp.symm
    split
    · rename_i hp
      have ht := h.textOf_eq_none hclean (by simp) (hneeds.trans (decide_eq_true ⟨hp, he⟩))
      rw [nodeOf, ht, List.any_append]
      simp [hneeds, hp, he]
    · rename_i hp
      rw [nodeOf, nodeOf, textOf_append, List.any_append]
      simp [ListedItem.text?, hneeds, hp, he']

section

variable {items : List ListedItem} {item : ListedItem} {tree : Tree}

/-- Where the next item needs a directory, the items so far put no file. -/
theorem open_of_needs (hclean : ∀ other ∈ items ++ [item], Clean other.path)
    (h : Apart (items ++ [item]))
    (hview : ∀ names, names ≠ [] → tree.nodeAt (some names) = nodeOf items names)
    {names : List (List Char)} (hn : item.needs names = true) : tree.Open names := by
  by_cases hne : names = []
  · rw [hne]
    exact .inr rfl
  · have ht := h.textOf_eq_none hclean (by simp) hn
    rw [textOf_append, Option.or_eq_none_iff] at ht
    rw [Tree.Open, hview names hne, nodeOf, ht.2]
    simp only
    split
    · exact .inr rfl
    · exact .inl rfl

/-- Where the next item puts a file, the items so far need no directory. -/
theorem nodeOf_ne_directory {path text : String}
    (hclean : ∀ other ∈ items ++ [.file path text], Clean other.path)
    (h : Apart (items ++ [.file path text])) :
    nodeOf items (Path.pieces path) ≠ some .directory := by
  have hfile : ListedItem.file path text ∈ items ++ [.file path text] := by simp
  have hneeds : items.any (·.needs (Path.pieces path)) = false := by
    refine List.any_eq_false.2 fun other hm => ?_
    rw [h.needs_eq_false hclean hfile (List.mem_append_left _ hm)]
    simp
  rw [nodeOf, hneeds]
  split <;> simp

theorem addTo_spec (hclean : ∀ other ∈ items ++ [item], Clean other.path)
    (h : Apart (items ++ [item])) (hp : tree.Plain)
    (hview : ∀ names, names ≠ [] → tree.nodeAt (some names) = nodeOf items names) :
    (item.addTo tree).Plain ∧ ∀ names, names ≠ [] →
      (item.addTo tree).nodeAt (some names) = nodeOf (items ++ [item]) names := by
  have hopen : ∀ names, item.needs names = true → tree.Open names :=
    fun _ => open_of_needs hclean h hview
  cases item with
  | directory path =>
    have hc : Clean path := hclean (.directory path) (by simp)
    obtain ⟨hplain, hnode⟩ := Tree.makeDirectory_spec hp hc fun names hf =>
      hopen names (decide_eq_true hf)
    refine ⟨hplain, fun names hne => ?_⟩
    rw [nodeOf_directory hclean h, ← hview names hne]
    exact hnode names
  | file path text =>
    have hc : Clean path := hclean (.file path text) (by simp)
    have hnot : tree.nodeAt (some (Path.pieces path)) ≠ some .directory := by
      rw [hview _ hc.spells.ne_nil]
      exact nodeOf_ne_directory hclean h
    obtain ⟨hplain, hnode⟩ := Tree.writeFile_spec (some text) hp hc
      (fun names hf he => hopen names (decide_eq_true ⟨hf, he⟩)) hnot
    refine ⟨hplain, fun names hne => ?_⟩
    rw [nodeOf_file hclean h, ← hview names hne]
    exact hnode names

end

theorem treeOf_spec (items : List ListedItem) (hclean : ∀ item ∈ items, Clean item.path)
    (hapart : Apart items) : (treeOf items).Plain ∧
      ∀ names, names ≠ [] → (treeOf items).nodeAt (some names) = nodeOf items names := by
  -- item by item from the first: the tree holds what the items so far say
  induction items using List.reverseRecOn with
  | nil =>
    refine ⟨Tree.plain_empty, fun names hne => ?_⟩
    obtain ⟨first, names, rfl⟩ := List.exists_cons_of_ne_nil hne
    rfl
  | append_singleton items item ih =>
    obtain ⟨hp, hview⟩ := ih (fun other hm => hclean other (List.mem_append_left _ hm))
      hapart.of_append
    rw [treeOf, List.foldl_append, List.foldl_cons, List.foldl_nil]
    exact addTo_spec hclean hapart hp hview

/-- What a path leads to in the tree. -/
theorem resolve_treeOf {items : List ListedItem} {path : String} {names : List (List Char)}
    (hclean : ∀ item ∈ items, Clean item.path) (hapart : Apart items) (hs : Spells path names)
    (node : Node) : (treeOf items).resolve path = .ok node ↔ nodeOf items names = some node := by
  obtain ⟨hp, hview⟩ := treeOf_spec items hclean hapart
  by_cases hshort : byteLength path.toList < pathLimit
  · rw [Tree.resolve_eq_ok_iff hp hs hshort, hview names hs.ne_nil]
  · rw [Tree.resolve_long _ hs (Nat.not_lt.1 hshort)]
    -- whatever is listed at or below the path is at least as long
    refine iff_of_false (by simp) fun hn => hshort ?_
    obtain ⟨item, hm, hbelow⟩ := exists_item_of_nodeOf (Option.isSome_of_eq_some hn)
    have hc : Clean item.path := hclean item hm
    exact Nat.lt_of_le_of_lt (hs.byteLength_le hc.spells hbelow) hc.short

/-! ### The store -/

theorem same_iff {a b : String} {first second : List (List Char)} (ha : Spells a first)
    (hb : Spells b second) : Path.same a b = true ↔ first = second := by
  rw [Path.same, beq_iff_eq, ha.components, hb.components]
  exact List.map_inj_right fun _ _ h => Path.Component.name.inj h

variable {path : String} {names : List (List Char)}

theorem any_same_waysTo (hs : Spells path names) {all : List (List Char)}
    (hall : ∀ name ∈ all, IsName name) :
    (waysTo all).any (Path.same · path) = decide (names <+: all) := by
  rw [Bool.eq_iff_iff, List.any_eq_true, decide_eq_true_iff]
  constructor
  · rintro ⟨way, hw, hsame⟩
    obtain ⟨front, hne, hp, rfl⟩ := mem_waysTo.1 hw
    have hf := spells_ofNames hne fun name hm => hall name (hp.subset hm)
    rwa [← (same_iff hf hs).1 hsame]
  · intro hp
    refine ⟨ofNames names, mem_waysTo.2 ⟨names, hs.ne_nil, hp, rfl⟩, ?_⟩
    exact (same_iff (spells_ofNames hs.ne_nil hs.isName) hs).2 rfl

theorem any_directory_map (p : Step → Bool) (ways : List String) :
    (ways.map Step.directory).any p = ways.any fun way => p (.directory way) := by
  rw [List.any_map]
  rfl

theorem textsAt_map_directory (ways : List String) :
    MemoryStore.textsAt path (ways.map Step.directory) = [] := by
  rw [MemoryStore.textsAt, List.filterMap_map]
  exact List.filterMap_eq_nil_iff.2 fun _ _ => rfl

theorem isDenial_steps (item : ListedItem) : item.steps.any (·.isDenial path) = false := by
  refine List.any_eq_false.2 fun step hm => ?_
  cases item with
  | directory other =>
    obtain ⟨way, -, rfl⟩ := List.mem_map.1 hm
    exact Bool.false_ne_true
  | file other text =>
    rcases List.mem_append.1 hm with hm | hm
    · obtain ⟨way, -, rfl⟩ := List.mem_map.1 hm
      exact Bool.false_ne_true
    · rw [List.mem_singleton.1 hm]
      exact Bool.false_ne_true

theorem prefix_dropLast_iff {all : List (List Char)} (hne : all ≠ []) :
    names <+: all.dropLast ↔ names <+: all ∧ names ≠ all := by
  obtain ⟨front, name, rfl⟩ := (List.eq_nil_or_concat' all).resolve_left hne
  rw [List.dropLast_concat]
  exact prefix_iff_prefix_concat

theorem dropLast_waysTo (all : List (List Char)) : (waysTo all).dropLast = waysTo all.dropLast := by
  induction all using List.reverseRecOn with
  | nil => rfl
  | append_singleton front name => rw [waysTo_append, List.dropLast_concat, List.dropLast_concat]

theorem isDirectory_steps (hs : Spells path names) {item : ListedItem} (hc : Clean item.path) :
    item.steps.any (·.isDirectory path) = item.needs names := by
  cases item with
  | directory other =>
    have hother : Clean other := hc
    rw [ListedItem.steps, any_directory_map, hother.spells.wayTo]
    exact any_same_waysTo hs hother.spells.isName
  | file other text =>
    have hother : Clean other := hc
    have hfront : ∀ name ∈ (Path.pieces other).dropLast, IsName name :=
      fun name hm => hother.spells.isName name (List.dropLast_subset _ hm)
    have hneeds : decide (names <+: (Path.pieces other).dropLast) =
        (ListedItem.file other text).needs names :=
      decide_eq_decide.2 (prefix_dropLast_iff hother.spells.ne_nil)
    rw [ListedItem.steps, List.any_append, any_directory_map, hother.spells.wayTo, dropLast_waysTo,
      ← hneeds, ← any_same_waysTo hs hfront]
    exact Bool.or_false _

theorem textsAt_steps (hs : Spells path names) {item : ListedItem} (hc : Clean item.path) :
    MemoryStore.textsAt path item.steps = (item.text? names).toList := by
  cases item with
  | directory other => exact textsAt_map_directory _
  | file other text =>
    have hother : Clean other := hc
    have htext : (Step.file other text).text? path = (ListedItem.file other text).text? names := by
      rw [Step.text?, ListedItem.text?]
      simp only [same_iff hother.spells hs]
    rw [ListedItem.steps, MemoryStore.textsAt_append, textsAt_map_directory, List.nil_append,
      MemoryStore.textsAt_cons, htext]
    exact List.append_nil _

/-! ### What the store answers -/

variable {items : List ListedItem} {history : List Step}

theorem Makes.exists_step_iff (h : Makes history items) (p : Step → Prop) :
    (∃ step ∈ history, p step) ↔ ∃ item ∈ items, ∃ step ∈ item.steps, p step := by
  constructor
  · rintro ⟨step, hm, hp⟩
    obtain ⟨item, hi, hs⟩ := h.1 step hm
    exact ⟨item, hi, step, hs, hp⟩
  · rintro ⟨item, hi, step, hs, hp⟩
    exact ⟨step, h.2 item hi step hs, hp⟩

theorem Makes.isDenied (h : Makes history items) (path : String) :
    (MemoryStore.after history).isDenied path = false := by
  rw [MemoryStore.isDenied_after]
  refine Bool.eq_false_iff.2 fun ha => ?_
  obtain ⟨item, -, hs⟩ := (h.exists_step_iff _).1 (List.any_eq_true.1 ha)
  rw [← List.any_eq_true, isDenial_steps] at hs
  cases hs

theorem Makes.isDirectory (h : Makes history items) (hclean : ∀ item ∈ items, Clean item.path)
    (hs : Spells path names) :
    (MemoryStore.after history).isDirectory path = items.any (·.needs names) := by
  rw [MemoryStore.isDirectory_after, Bool.eq_iff_iff, List.any_eq_true, List.any_eq_true,
    h.exists_step_iff]
  refine exists_congr fun item => and_congr_right fun hm => ?_
  rw [← List.any_eq_true, isDirectory_steps hs (hclean item hm)]

theorem getLast?_eq_some_iff_mem {texts : List String} {text : String}
    (h : ∀ other ∈ texts, text ∈ texts → other = text) :
    texts.getLast? = some text ↔ text ∈ texts := by
  refine ⟨List.mem_of_getLast?, fun hm => ?_⟩
  obtain ⟨last, hl⟩ := Option.isSome_iff_exists.1 (List.getLast?_isSome.2 (List.ne_nil_of_mem hm))
  rw [hl, h last (List.mem_of_getLast? hl) hm]

theorem Apart.text_unique (h : Apart items) (hclean : ∀ item ∈ items, Clean item.path)
    {text other : String} (ht : text ∈ items.filterMap (·.text? names))
    (ho : other ∈ items.filterMap (·.text? names)) : text = other := by
  obtain ⟨path, hp, he⟩ := exists_file_of_mem ht
  obtain ⟨path', hp', he'⟩ := exists_file_of_mem ho
  have hsame : path = path' := (hclean _ hp).path_eq (hclean _ hp') (he.trans he'.symm)
  exact h.oneText path text other hp (hsame ▸ hp')

theorem Makes.text? (h : Makes history items) (hclean : ∀ item ∈ items, Clean item.path)
    (hapart : Apart items) (hs : Spells path names) :
    (MemoryStore.after history).text? path = textOf items names := by
  have hmem : ∀ text, text ∈ MemoryStore.textsAt path history ↔
      text ∈ items.filterMap (·.text? names) := by
    intro text
    rw [MemoryStore.textsAt, List.mem_filterMap, List.mem_filterMap, h.exists_step_iff]
    refine exists_congr fun item => and_congr_right fun hm => ?_
    rw [← List.mem_filterMap, ← Option.mem_toList, ← textsAt_steps hs (hclean item hm)]
    rfl
  rw [MemoryStore.text?_after, textOf]
  -- the history may repeat a text, but there is only one to repeat
  refine Option.ext fun text => ?_
  rw [getLast?_eq_some_iff_mem, getLast?_eq_some_iff_mem, hmem]
  · exact fun other ho ht => hapart.text_unique hclean ho ht
  · exact fun other ho ht => hapart.text_unique hclean ((hmem other).1 ho) ((hmem text).1 ht)

theorem Makes.pathExists (h : Makes history items) (hclean : ∀ item ∈ items, Clean item.path)
    (hapart : Apart items) (hs : Spells path names) :
    (MemoryStore.after history).pathExists path = .ok (nodeOf items names).isSome := by
  rw [MemoryStore.pathExists, h.isDenied, h.isDirectory hclean hs, h.text? hclean hapart hs, nodeOf]
  cases textOf items names <;> cases items.any (·.needs names) <;> rfl

theorem Makes.readText_eq_ok_iff (h : Makes history items)
    (hclean : ∀ item ∈ items, Clean item.path) (hapart : Apart items) (hs : Spells path names)
    (text : String) : (MemoryStore.after history).readText path = .ok text ↔
      nodeOf items names = some (.file (some text)) := by
  rw [MemoryStore.readText, h.isDenied, h.isDirectory hclean hs, h.text? hclean hapart hs, nodeOf]
  cases textOf items names <;> cases items.any (·.needs names) <;> simp

end VrfPresence.FileSystem
