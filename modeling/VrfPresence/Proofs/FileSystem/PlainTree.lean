import VrfPresence.Proofs.FileSystem.CleanPath

/-!
# Trees without links

In a tree without links, in which every node stands in a directory, a walk along ordinary names
ends at the node of these names. So a tree can be seen as a function from names to nodes, and
every change of a tree is described by what it does to this function: making a directory also
makes those on the way to it, and writing a file makes those on the way and puts the text.
-/

namespace VrfPresence.FileSystem.Tree

/-- Every node stands in a directory, and none is a link. -/
structure Plain (tree : Tree) : Prop where
  inDirectory : ∀ {names : List (List Char)} {name : List Char} {node : Node},
    tree.nodeAt (some (names ++ [name])) = some node → tree.nodeAt (some names) = some .directory
  noLink : ∀ {names : List (List Char)} {target : String},
    tree.nodeAt (some names) ≠ some (.link target)

theorem plain_empty : Plain .empty := by
  constructor
  · intro names name node h
    cases names with
    | nil => rfl
    | cons first names => cases h
  · intro names target h
    cases names with
    | nil => cases h
    | cons first names => cases h

theorem Plain.directory_of_prefix {tree : Tree} (h : Plain tree) {front rest : List (List Char)}
    {node : Node} (hn : tree.nodeAt (some (front ++ rest)) = some node) (hr : rest ≠ []) :
    tree.nodeAt (some front) = some .directory := by
  induction rest using List.reverseRecOn generalizing node with
  | nil => exact absurd rfl hr
  | append_singleton rest name ih =>
    rw [← List.append_assoc] at hn
    have hd := h.inDirectory hn
    by_cases he : rest = []
    · rwa [he, List.append_nil] at hd
    · exact ih hd he

/-! ### Walking -/

variable {tree : Tree} {follow : Place → List (List Char) → Except AccessError Arrival}

theorem walkWith_name {here rest : List (List Char)} {name : List Char} (hn : IsName name)
    (hd : tree.nodeAt (some here) = some .directory) :
    walkWith tree follow (some here) (name :: rest) =
      match tree.nodeAt (some (here ++ [name])) with
      | none => if rest = [] then .ok (.vacant (some here) name) else .error missing
      | some (.link target) => follow (start target (some here)) (steps target ++ rest)
      | some _ => walkWith tree follow (some (here ++ [name])) rest := by
  rw [walkWith, if_neg (not_not.2 hd), if_neg hn.2.1, if_neg hn.2.2.1,
    if_neg (Nat.not_lt.2 hn.2.2.2.2.2)]
  rfl

theorem walkWith_through {here rest : List (List Char)} {name : List Char} {node : Node}
    (hp : Plain tree) (hn : IsName name)
    (hnode : tree.nodeAt (some (here ++ [name])) = some node) :
    walkWith tree follow (some here) (name :: rest) =
      walkWith tree follow (some (here ++ [name])) rest := by
  rw [walkWith_name hn (hp.inDirectory hnode), hnode]
  cases node with
  | link target => exact absurd hnode hp.noLink
  | directory => rfl
  | file text => rfl

theorem walkWith_append {here front rest : List (List Char)} {node : Node} (hp : Plain tree)
    (hf : ∀ name ∈ front, IsName name)
    (hnode : tree.nodeAt (some (here ++ front)) = some node) :
    walkWith tree follow (some here) (front ++ rest) =
      walkWith tree follow (some (here ++ front)) rest := by
  induction front generalizing here with
  | nil => rw [List.nil_append, List.append_nil]
  | cons name front ih =>
    have hassoc : here ++ name :: front = here ++ [name] ++ front := by simp
    rw [hassoc] at hnode ⊢
    -- the first name leads to the node itself or to a directory above it
    have hname : ∃ child, tree.nodeAt (some (here ++ [name])) = some child := by
      by_cases he : front = []
      · rw [he, List.append_nil] at hnode
        exact ⟨node, hnode⟩
      · exact ⟨_, hp.directory_of_prefix hnode he⟩
    obtain ⟨child, hc⟩ := hname
    rw [List.cons_append, walkWith_through hp (hf name (List.mem_cons_self ..)) hc]
    exact ih (fun name hm => hf name (List.mem_cons_of_mem _ hm)) hnode

theorem walkWith_found {names : List (List Char)} {node : Node} (hp : Plain tree)
    (hf : ∀ name ∈ names, IsName name) (hnode : tree.nodeAt (some names) = some node) :
    walkWith tree follow (some []) names = .ok (.found (some names) node) := by
  have hw : walkWith tree follow (some []) (names ++ []) = walkWith tree follow (some names) [] :=
    walkWith_append hp hf hnode
  rw [List.append_nil] at hw
  rw [hw, walkWith, hnode]

theorem walkWith_vacant {names : List (List Char)} {name : List Char} (hp : Plain tree)
    (hf : ∀ name ∈ names, IsName name) (hn : IsName name)
    (hd : tree.nodeAt (some names) = some .directory)
    (hnode : tree.nodeAt (some (names ++ [name])) = none) :
    walkWith tree follow (some []) (names ++ [name]) = .ok (.vacant (some names) name) := by
  have hw : walkWith tree follow (some []) (names ++ [name]) =
      walkWith tree follow (some names) [name] := walkWith_append hp hf hd
  rw [hw, walkWith_name hn hd, hnode]
  rfl

/-- Names that lead to no node are walked to no node. -/
theorem walkWith_ne_found {here rest : List (List Char)} (hp : Plain tree)
    (hf : ∀ name ∈ rest, IsName name) (hnode : tree.nodeAt (some (here ++ rest)) = none)
    (place : Place) (node : Node) :
    walkWith tree follow (some here) rest ≠ .ok (.found place node) := by
  induction rest generalizing here with
  | nil =>
    rw [List.append_nil] at hnode
    rw [walkWith, hnode]
    intro h
    cases h
  | cons name rest ih =>
    by_cases hd : tree.nodeAt (some here) = some .directory
    · have hname : IsName name := hf name (List.mem_cons_self ..)
      cases hc : tree.nodeAt (some (here ++ [name])) with
      | none =>
        rw [walkWith_name hname hd, hc]
        simp only
        split <;> rintro ⟨⟩
      | some child =>
        rw [walkWith_through hp hname hc]
        refine ih (fun name hm => hf name (List.mem_cons_of_mem _ hm)) ?_
        rwa [List.append_assoc]
    · -- below a file every name is refused
      rw [walkWith, if_pos hd]
      intro h
      cases h

theorem walk_eq_walkWith (tree : Tree) (links : Nat) :
    ∃ follow, walk tree links = walkWith tree follow := by
  cases links with
  | zero => exact ⟨_, rfl⟩
  | succ links => exact ⟨_, rfl⟩

/-! ### The two questions -/

theorem pathExists_eq_true_iff (tree : Tree) (path : String) :
    tree.pathExists path = .ok true ↔ ∃ node, tree.resolve path = .ok node := by
  unfold pathExists existence
  cases tree.resolve path with
  | ok node => simp
  | error e =>
    simp only [reduceCtorEq, exists_false, iff_false]
    split <;> simp

theorem readText_eq_ok_iff (tree : Tree) (path text : String) :
    tree.readText path = .ok text ↔ tree.resolve path = .ok (.file (some text)) := by
  unfold readText content
  split
  · rename_i found h
    simp [h]
  · rename_i h
    simp [h]
  · rename_i node hfile hnone h
    simp only [h, reduceCtorEq, Except.ok.injEq, false_iff]
    exact fun he => hfile text he
  · rename_i e h
    simp [h]

variable {path : String} {names : List (List Char)}

theorem resolve_eq_ok_iff (hp : Plain tree) (hs : Spells path names)
    (hshort : byteLength path.toList < pathLimit) (node : Node) :
    tree.resolve path = .ok node ↔ tree.nodeAt (some names) = some node := by
  obtain ⟨follow, hw⟩ := walk_eq_walkWith tree linkLimit
  rw [resolve, locate, hs.refusal?, if_neg (Nat.not_le.2 hshort), hs.start, hs.steps, hw]
  simp only
  cases hnode : tree.nodeAt (some names) with
  | some found =>
    rw [walkWith_found hp hs.isName hnode]
    simp
  | none =>
    have hne : ∀ place node, walkWith tree follow (some []) names ≠ .ok (.found place node) :=
      walkWith_ne_found hp hs.isName hnode
    split
    · rename_i place found h
      exact absurd h (hne place found)
    · simp
    · simp

/-- A path that is too long leads nowhere. -/
theorem resolve_long (tree : Tree) (hs : Spells path names)
    (hlong : pathLimit ≤ byteLength path.toList) : tree.resolve path = .error nameTooLong := by
  rw [resolve, locate, hs.refusal?, if_pos hlong]

end VrfPresence.FileSystem.Tree
