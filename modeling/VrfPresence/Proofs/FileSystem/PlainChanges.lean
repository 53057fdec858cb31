import VrfPresence.Proofs.FileSystem.PlainTree

/-!
# Changes of trees without links

What making a directory and writing a file do to the nodes of a tree without links, at a path of
ordinary names whose way is open. The nodes on the way become directories, the node at the path
becomes what was asked for, every other node stays, and the tree still has no links.
-/

namespace VrfPresence.FileSystem.Tree

variable {tree : Tree}

/-! ### One node -/

theorem lookup_filter_ne {α β : Type} [BEq α] [LawfulBEq α] [DecidableEq α] {key other : α}
    (h : other ≠ key) (entries : List (α × β)) :
    (entries.filter (·.1 ≠ key)).lookup other = entries.lookup other := by
  induction entries with
  | nil => rfl
  | cons entry entries ih =>
    by_cases hk : entry.1 = key
    · have hne : (other == entry.1) = false := by simpa [hk] using h
      rw [List.filter_cons_of_neg (by simpa using hk), ih, List.lookup_cons, hne]
    · rw [List.filter_cons_of_pos (by simpa using hk), List.lookup_cons, List.lookup_cons, ih]

theorem nodeAt_put {names : List (List Char)} (hne : names ≠ []) (node : Node)
    (other : List (List Char)) : (tree.put (some names) node).nodeAt (some other) =
      if other = names then some node else tree.nodeAt (some other) := by
  obtain ⟨first, names, rfl⟩ := List.exists_cons_of_ne_nil hne
  cases other with
  | nil => rfl
  | cons name other =>
    show ((first :: names, node) :: _).lookup (name :: other) = _
    by_cases he : name :: other = first :: names
    · rw [if_pos he, he, List.lookup_cons_self]
    · have hb : (name :: other == first :: names) = false := by simpa using he
      rw [if_neg he, List.lookup_cons, hb]
      exact lookup_filter_ne he tree.nodes

/-- A node put into a directory leaves the tree without links, unless it is a link itself or
takes the place of a directory. -/
theorem Plain.put (hp : Plain tree) {front : List (List Char)} {name : List Char} {node : Node}
    (hd : tree.nodeAt (some front) = some .directory)
    (hkeep : tree.nodeAt (some (front ++ [name])) = some .directory → node = .directory)
    (hlink : ∀ target, node ≠ .link target) : Plain (tree.put (some (front ++ [name])) node) := by
  have hv : ∀ other, (tree.put (some (front ++ [name])) node).nodeAt (some other) =
      if other = front ++ [name] then some node else tree.nodeAt (some other) :=
    nodeAt_put (by simp) node
  constructor
  · intro names last found hf
    rw [hv] at hf ⊢
    split at hf
    · rename_i he
      obtain ⟨rfl, -⟩ := List.append_inj' he rfl
      rw [if_neg (by simp), hd]
    · have hin := hp.inDirectory hf
      split
      · rename_i he
        rw [he] at hin
        rw [hkeep hin]
      · exact hin
  · intro names target hf
    rw [hv] at hf
    split at hf
    · exact hlink target (Option.some.inj hf)
    · exact hp.noLink hf

/-! ### One directory -/

theorem lastPlace?_eq {path : String} {front : List (List Char)} {name : List Char}
    (hp : Plain tree) (hs : Spells path (front ++ [name]))
    (hd : tree.nodeAt (some front) = some .directory) :
    tree.lastPlace? path = some (some (front ++ [name])) := by
  obtain ⟨follow, hw⟩ := walk_eq_walkWith tree linkLimit
  have hn : IsName name := hs.isName name (by simp)
  have hfront : ∀ name ∈ front, IsName name := fun name hm => hs.isName name (by simp [hm])
  have hlast : (front ++ [name]).getLast? = some name := by simp
  have hbad : ¬ (name = ['.'] ∨ name = ['.', '.'] ∨ nameLimit < byteLength name) := by
    rintro (h | h | h)
    · exact hn.2.1 h
    · exact hn.2.2.1 h
    · exact Nat.not_lt.2 hn.2.2.2.2.2 h
  rw [lastPlace?, hs.pieces, hs.start, hw, List.dropLast_concat, walkWith_found hp hfront hd, hlast]
  simp only [if_neg hbad]
  rfl

/-- The names lead to a directory, or to nothing yet. -/
def Open (tree : Tree) (names : List (List Char)) : Prop :=
  tree.nodeAt (some names) = none ∨ tree.nodeAt (some names) = some .directory

theorem makeLast_spec {path : String} {front : List (List Char)} {name : List Char}
    (hp : Plain tree) (hs : Spells path (front ++ [name]))
    (hd : tree.nodeAt (some front) = some .directory) (ho : Open tree (front ++ [name])) :
    Plain (tree.makeLast path) ∧ ∀ other, (tree.makeLast path).nodeAt (some other) =
      if other = front ++ [name] then some .directory else tree.nodeAt (some other) := by
  rw [makeLast, putNew, lastPlace?_eq hp hs hd]
  rcases ho with hn | hn
  · simp only [hn, Option.isNone_none, if_true]
    refine ⟨hp.put hd (fun _ => rfl) (by simp), fun other => nodeAt_put (by simp) _ _⟩
  · simp only [hn, Option.isNone_some, Bool.false_eq_true, if_false]
    refine ⟨hp, fun other => ?_⟩
    split
    · rename_i he
      rw [he, hn]
    · rfl

/-! ### The way to a path -/

/-- Making the directories on the way makes exactly the missing ones. -/
theorem foldl_makeLast_spec {names : List (List Char)} (hp : Plain tree)
    (hnames : ∀ name ∈ names, IsName name) (ho : ∀ front, front <+: names → Open tree front) :
    Plain ((waysTo names).foldl makeLast tree) ∧
      ∀ other, ((waysTo names).foldl makeLast tree).nodeAt (some other) =
        if other <+: names then some .directory else tree.nodeAt (some other) := by
  -- from the last name: when its turn comes, all directories above it stand
  induction names using List.reverseRecOn with
  | nil =>
    refine ⟨hp, fun other => ?_⟩
    split
    · rename_i h
      rw [List.prefix_nil.1 h]
      rfl
    · rfl
  | append_singleton names name ih =>
    have hopen : ∀ front, front <+: names → Open tree front :=
      fun front hf => ho front (hf.trans (List.prefix_append names [name]))
    obtain ⟨hplain, hview⟩ := ih (fun n hm => hnames n (List.mem_append_left _ hm)) hopen
    have hd : ((waysTo names).foldl makeLast tree).nodeAt (some names) = some .directory := by
      rw [hview, if_pos List.prefix_rfl]
    have hlast : Open ((waysTo names).foldl makeLast tree) (names ++ [name]) := by
      rw [Open, hview, if_neg (not_append_prefix_self names name)]
      exact ho _ List.prefix_rfl
    have hs : Spells (ofNames (names ++ [name])) (names ++ [name]) :=
      spells_ofNames (by simp) hnames
    obtain ⟨hplain', hview'⟩ := makeLast_spec hplain hs hd hlast
    rw [waysTo_append, List.foldl_append, List.foldl_cons, List.foldl_nil]
    refine ⟨hplain', fun other => ?_⟩
    rw [hview', hview]
    by_cases he : other = names ++ [name]
    · rw [if_pos he, if_pos (List.prefix_concat_iff.2 (.inl he))]
    · simp only [List.prefix_concat_iff, he, false_or, if_false]

theorem makeDirectory_spec {path : String} (hp : Plain tree) (hc : Clean path)
    (ho : ∀ front, front <+: Path.pieces path → Open tree front) :
    Plain (tree.makeDirectory path) ∧ ∀ other, (tree.makeDirectory path).nodeAt (some other) =
      if other <+: Path.pieces path then some .directory else tree.nodeAt (some other) := by
  rw [makeDirectory, hc.refusal?, hc.spells.wayTo]
  exact foldl_makeLast_spec hp hc.spells.isName ho

/-! ### Writing a file -/

theorem locate_vacant {path : String} {front : List (List Char)} {name : List Char}
    (hp : Plain tree) (hr : refusal? path = none) (hs : Spells path (front ++ [name]))
    (hd : tree.nodeAt (some front) = some .directory)
    (hn : tree.nodeAt (some (front ++ [name])) = none) :
    tree.locate path = .ok (.vacant (some front) name) := by
  obtain ⟨follow, hw⟩ := walk_eq_walkWith tree linkLimit
  have hfront : ∀ name ∈ front, IsName name := fun name hm => hs.isName name (by simp [hm])
  rw [locate, hr, hs.start, hs.steps, hw]
  exact walkWith_vacant hp hfront (hs.isName name (by simp)) hd hn

theorem locate_found {path : String} {names : List (List Char)} {node : Node} (hp : Plain tree)
    (hr : refusal? path = none) (hs : Spells path names)
    (hn : tree.nodeAt (some names) = some node) :
    tree.locate path = .ok (.found (some names) node) := by
  obtain ⟨follow, hw⟩ := walk_eq_walkWith tree linkLimit
  rw [locate, hr, hs.start, hs.steps, hw]
  exact walkWith_found hp hs.isName hn

/-- Writing a file needs an open way, and no directory at the path itself. -/
theorem writeFile_spec {path : String} (text : Option String) (hp : Plain tree) (hc : Clean path)
    (ho : ∀ front, front <+: Path.pieces path → front ≠ Path.pieces path → Open tree front)
    (hnot : tree.nodeAt (some (Path.pieces path)) ≠ some .directory) :
    Plain (tree.writeFile path text) ∧ ∀ other, (tree.writeFile path text).nodeAt (some other) =
      if other = Path.pieces path then some (.file text)
      else if other <+: Path.pieces path then some .directory else tree.nodeAt (some other) := by
  have hs := hc.spells
  generalize Path.pieces path = names at hs ho hnot ⊢
  obtain ⟨front, name, rfl⟩ := (List.eq_nil_or_concat' names).resolve_left hs.ne_nil
  have hfront : ∀ name ∈ front, IsName name := fun name hm => hs.isName name (by simp [hm])
  have hopen : ∀ other, other <+: front → Open tree other := by
    intro other hf
    have hproper : other <+: front ++ [name] ∧ other ≠ front ++ [name] :=
      prefix_iff_prefix_concat.1 hf
    exact ho other hproper.1 hproper.2
  obtain ⟨hplain, hview⟩ := foldl_makeLast_spec hp hfront hopen
  have hparents : tree.makeParents path = (waysTo front).foldl makeLast tree := by
    rw [makeParents, hs.wayTo, waysTo_append, List.dropLast_concat]
  rw [← hparents] at hplain hview
  have hd : (tree.makeParents path).nodeAt (some front) = some .directory := by
    rw [hview, if_pos List.prefix_rfl]
  -- making the parents does not touch the path itself
  have hsame : (tree.makeParents path).nodeAt (some (front ++ [name])) =
      tree.nodeAt (some (front ++ [name])) := by
    rw [hview, if_neg (not_append_prefix_self front name)]
  have hwrite : tree.writeFile path text =
      (tree.makeParents path).put (some (front ++ [name])) (.file text) := by
    rw [writeFile]
    cases hn : (tree.makeParents path).nodeAt (some (front ++ [name])) with
    | none =>
      simp only [locate_vacant hplain hc.refusal? hs hd hn]
      rfl
    | some node =>
      simp only [locate_found hplain hc.refusal? hs hn]
      cases node with
      | file old => rfl
      | directory => exact absurd (hsame.symm.trans hn) hnot
      | link target => exact absurd hn hplain.noLink
  rw [hwrite]
  refine ⟨hplain.put hd (fun hn => absurd (hsame.symm.trans hn) hnot) (by simp), fun other => ?_⟩
  rw [nodeAt_put (by simp), hview]
  by_cases he : other = front ++ [name]
  · rw [if_pos he, if_pos he]
  · simp only [List.prefix_concat_iff, he, false_or, if_false]

end VrfPresence.FileSystem.Tree
