import Mathlib.Data.List.Basic
import Mathlib.Data.List.Induction
import VrfPresence.FileSystem.Tree
import VrfPresence.Proofs.Text.Pieces

/-!
# Clean relative paths

A clean path is a list of ordinary names with single slashes between them. All readings of such
a path agree: its pieces, the steps of a walk and its components are these names.
-/

namespace VrfPresence.FileSystem

open VrfPresence.Path

/-! ### Names -/

/-- A name that a directory can hold. -/
def IsName (name : List Char) : Prop :=
  name ≠ [] ∧ name ≠ ['.'] ∧ name ≠ ['.', '.'] ∧ '/' ∉ name ∧ '\x00' ∉ name ∧
    byteLength name ≤ nameLimit

instance (name : List Char) : Decidable (IsName name) := by
  unfold IsName
  infer_instance

/-- The path has these names, with a slash between any two of them. -/
structure Spells (path : String) (names : List (List Char)) : Prop where
  text : path.toList = Text.join ['/'] names
  ne_nil : names ≠ []
  isName : ∀ name ∈ names, IsName name

/-- A relative path of ordinary names, not too long to be walked. -/
structure Clean (path : String) : Prop where
  isName : ∀ piece ∈ Text.splitWhere (· == '/') path.toList, IsName piece
  short : byteLength path.toList < pathLimit

instance (path : String) : Decidable (Clean path) :=
  decidable_of_iff ((∀ piece ∈ Text.splitWhere (· == '/') path.toList, IsName piece) ∧
    byteLength path.toList < pathLimit) ⟨fun h => ⟨h.1, h.2⟩, fun h => ⟨h.1, h.2⟩⟩

theorem IsName.not_slash {name : List Char} (h : IsName name) : ∀ c ∈ name, (c == '/') = false := by
  intro c hc
  have hne : c ≠ '/' := fun he => h.2.2.2.1 (he ▸ hc)
  simpa using hne

/-! ### Readings of a clean path -/

namespace Spells

variable {path : String} {names : List (List Char)}

theorem split (h : Spells path names) : Text.splitWhere (· == '/') path.toList = names := by
  rw [h.text]
  exact Text.splitWhere_join _ (by decide) names h.ne_nil fun name hm => (h.isName name hm).not_slash

theorem pieces (h : Spells path names) : Path.pieces path = names := by
  rw [Path.pieces, Text.fields, h.split, List.filter_eq_self]
  intro name hm
  simpa using (h.isName name hm).1

theorem nil_not_mem (h : Spells path names) : [] ∉ Text.splitWhere (· == '/') path.toList := by
  rw [h.split]
  exact fun hm => (h.isName [] hm).1 rfl

/-- A slash at either end would leave an empty piece. -/
theorem isAbsolute (h : Spells path names) : isAbsolute path = false := by
  refine Bool.eq_false_iff.2 fun ha => ?_
  obtain ⟨text, ht⟩ := List.head?_eq_some_iff.1 (eq_of_beq ha)
  refine h.nil_not_mem ?_
  rw [ht]
  exact List.mem_cons_self ..

theorem getLast?_ne (h : Spells path names) : path.toList.getLast? ≠ some '/' := by
  intro hl
  obtain ⟨text, ht⟩ := List.getLast?_eq_some_iff.1 hl
  refine h.nil_not_mem ?_
  rw [ht, Text.splitWhere_append_cons _ text [] (by decide)]
  exact List.mem_append_right _ (List.mem_cons_self ..)

theorem toList_ne_nil (h : Spells path names) : path.toList ≠ [] := by
  intro he
  refine h.nil_not_mem ?_
  rw [he]
  exact List.mem_cons_self ..

theorem steps (h : Spells path names) : Tree.steps path = names := by
  rw [Tree.steps, h.pieces, if_neg fun hs => h.getLast?_ne hs.2]

theorem start (h : Spells path names) (here : Place) : Tree.start path here = here := by
  rw [Tree.start, h.isAbsolute]
  rfl

theorem components (h : Spells path names) : Path.components path = names.map .name := by
  have hsteps : ((Path.pieces path).filter (· ≠ ['.'])).map Component.ofPiece =
      names.map .name := by
    rw [h.pieces, List.filter_eq_self.2 fun name hm => by simpa using (h.isName name hm).2.1]
    exact List.map_congr_left fun name hm => if_neg (h.isName name hm).2.2.1
  have hfirst : (Path.pieces path).head? ≠ some ['.'] := by
    rw [h.pieces]
    exact fun hf => (h.isName _ (List.mem_of_head? hf)).2.1 rfl
  simp only [Path.components, hsteps, h.isAbsolute, if_neg hfirst, Bool.false_eq_true, if_false]

theorem refusal? (h : Spells path names) :
    Tree.refusal? path = if pathLimit ≤ byteLength path.toList then some nameTooLong else none := by
  have hnull : '\x00' ∉ path.toList := by
    rw [h.text]
    exact Text.not_mem_join (by decide) fun name hm => (h.isName name hm).2.2.2.2.1
  rw [Tree.refusal?, if_neg hnull, if_neg h.toList_ne_nil]

theorem join (h : Spells path names) {name : String} (hn : IsName name.toList) :
    Spells (Path.join path name) (names ++ [name.toList]) := by
  -- a single name is a path too, and so does not start at the root
  have halone : Spells name [name.toList] := ⟨rfl, by simp, by simpa using hn⟩
  have hslash : path.toList.getLast?.all (· == '/') = false := by
    obtain ⟨last, hl⟩ := Option.isSome_iff_exists.1 (List.getLast?_isSome.2 h.toList_ne_nil)
    have hne : last ≠ '/' := fun he => h.getLast?_ne (he ▸ hl)
    simpa [hl] using hne
  have htext : (Path.join path name).toList = path.toList ++ ['/'] ++ name.toList := by
    rw [Path.join, halone.isAbsolute, hslash]
    simp
  refine ⟨?_, by simp, fun piece hm => ?_⟩
  · rw [htext, h.text, Text.join_append ['/'] h.ne_nil (by simp)]
    rfl
  · rcases List.mem_append.1 hm with hm | hm
    · exact h.isName piece hm
    · rwa [List.mem_singleton.1 hm]

end Spells

theorem Clean.spells {path : String} (h : Clean path) : Spells path (pieces path) := by
  have hp : pieces path = Text.splitWhere (· == '/') path.toList := by
    rw [pieces, Text.fields, List.filter_eq_self]
    intro piece hm
    simpa using (h.isName piece hm).1
  rw [hp]
  exact ⟨(Text.join_splitWhere '/' path.toList).symm, Text.splitWhere_ne_nil _ _, h.isName⟩

theorem Clean.refusal? {path : String} (h : Clean path) : Tree.refusal? path = none := by
  rw [h.spells.refusal?, if_neg (Nat.not_le.2 h.short)]

/-! ### Paths from names -/

def ofNames (names : List (List Char)) : String := String.ofList (Text.join ['/'] names)

theorem spells_ofNames {names : List (List Char)} (hne : names ≠ [])
    (h : ∀ name ∈ names, IsName name) : Spells (ofNames names) names :=
  ⟨String.toList_ofList, hne, h⟩

/-- The paths of the names on the way to the last one. -/
def waysTo (names : List (List Char)) : List String :=
  (List.range names.length).map fun i => ofNames (names.take (i + 1))

theorem waysTo_append (names : List (List Char)) (name : List Char) :
    waysTo (names ++ [name]) = waysTo names ++ [ofNames (names ++ [name])] := by
  have hinner : (List.range names.length).map (fun i => ofNames ((names ++ [name]).take (i + 1))) =
      waysTo names := by
    refine List.map_congr_left fun i hi => ?_
    rw [List.take_append_of_le_length (Nat.succ_le_of_lt (List.mem_range.1 hi))]
  rw [waysTo, List.length_append, List.length_singleton, List.range_succ, List.map_append, hinner,
    List.map_singleton, List.take_of_length_le (by simp)]

theorem mem_waysTo {way : String} {names : List (List Char)} :
    way ∈ waysTo names ↔ ∃ front, front ≠ [] ∧ front <+: names ∧ way = ofNames front := by
  induction names using List.reverseRecOn with
  | nil => simp [waysTo]
  | append_singleton names name ih =>
    rw [waysTo_append, List.mem_append, ih, List.mem_singleton]
    constructor
    · rintro (⟨front, hne, hp, rfl⟩ | rfl)
      · exact ⟨front, hne, hp.trans (List.prefix_append ..), rfl⟩
      · exact ⟨names ++ [name], by simp, List.prefix_rfl, rfl⟩
    · rintro ⟨front, hne, hp, rfl⟩
      rcases List.prefix_concat_iff.1 hp with rfl | hp
      · exact .inr rfl
      · exact .inl ⟨front, hne, hp, rfl⟩

theorem Spells.wayTo {path : String} {names : List (List Char)} (h : Spells path names) :
    Tree.wayTo path = waysTo names := by
  simp only [Tree.wayTo, h.pieces, h.isAbsolute]
  rfl

theorem not_append_prefix_self (names : List (List Char)) (name : List Char) :
    ¬ names ++ [name] <+: names := by
  intro h
  have hl := h.length_le
  rw [List.length_append, List.length_singleton] at hl
  omega

/-- The prefixes of a list of names are the proper prefixes of a list with one name more. -/
theorem prefix_iff_prefix_concat {names front : List (List Char)} {name : List Char} :
    names <+: front ↔ names <+: front ++ [name] ∧ names ≠ front ++ [name] := by
  rw [List.prefix_concat_iff]
  constructor
  · intro hp
    refine ⟨.inr hp, ?_⟩
    rintro rfl
    exact not_append_prefix_self front name hp
  · rintro ⟨rfl | hp, hne⟩
    · exact absurd rfl hne
    · exact hp

/-! ### Lengths -/

theorem byteLength_append (a b : List Char) : byteLength (a ++ b) = byteLength a + byteLength b := by
  induction a with
  | nil => exact (Nat.zero_add _).symm
  | cons c a ih =>
    show c.utf8Size + byteLength (a ++ b) = c.utf8Size + byteLength a + byteLength b
    rw [ih, Nat.add_assoc]

theorem byteLength_join_le {front names : List (List Char)} (h : front <+: names) :
    byteLength (Text.join ['/'] front) ≤ byteLength (Text.join ['/'] names) := by
  obtain ⟨rest, rfl⟩ := h
  by_cases hf : front = []
  · rw [hf]
    exact Nat.zero_le _
  by_cases hr : rest = []
  · simp [hr]
  rw [Text.join_append ['/'] hf hr, byteLength_append, byteLength_append]
  omega

/-- A path is no longer than a path that continues it. -/
theorem Spells.byteLength_le {path longer : String} {front names : List (List Char)}
    (hp : Spells path front) (hl : Spells longer names) (h : front <+: names) :
    byteLength path.toList ≤ byteLength longer.toList := by
  rw [hp.text, hl.text]
  exact byteLength_join_le h

end VrfPresence.FileSystem
