import VrfPresence.Path
import VrfPresence.Proofs.Text.Pieces

/-!
# Joined paths

Joining works on the text of a directory: it puts a slash behind it, or finds one there. Read by
components, it adds those of the name to those of the directory, whatever this is spelled like.
-/

namespace VrfPresence.Path

open Text

theorem same_iff_components {a b : String} : same a b = true ↔ components a = components b :=
  beq_iff_eq

/-! ### The seam -/

/-- Between a directory and a name stands one slash, put there or found, unless there is no
directory. -/
theorem toList_join {name : String} (hn : isAbsolute name = false) (directory : String) :
    (directory = "" ∧ join directory name = name) ∨
      ∃ front, (join directory name).toList = front ++ '/' :: name.toList ∧
        (directory.toList = front ++ ['/'] ∨ front ≠ [] ∧ directory.toList = front) := by
  cases hl : directory.toList.getLast? with
  | none =>
    have hd : directory = "" := String.toList_eq_nil_iff.1 (List.getLast?_eq_none_iff.1 hl)
    have hj : join directory name = directory ++ name := by
      rw [join, hn, hl]
      rfl
    exact .inl ⟨hd, by rw [hj, hd, String.empty_append]⟩
  | some last =>
    obtain ⟨front, hf⟩ := List.getLast?_eq_some_iff.1 hl
    by_cases hs : last = '/'
    · have hj : join directory name = directory ++ name := by
        rw [join, hn, hl, hs]
        rfl
      refine .inr ⟨front, ?_, .inl (hs ▸ hf)⟩
      rw [hj, String.toList_append, hf, hs, List.append_assoc]
      rfl
    · have hall : (some last).all (· == '/') = false := by simpa using hs
      have hj : join directory name = directory ++ "/" ++ name := by
        rw [join, hn, hl, hall]
        rfl
      refine .inr ⟨directory.toList, ?_, .inr ⟨?_, rfl⟩⟩
      · rw [hj, String.toList_append, String.toList_append, List.append_assoc]
        rfl
      · rw [hf]
        exact List.concat_ne_nil last front

theorem isAbsolute_join {name : String} (hn : isAbsolute name = false) (directory : String) :
    isAbsolute (join directory name) = isAbsolute directory := by
  rcases toList_join hn directory with ⟨rfl, hj⟩ | ⟨front, hj, hd⟩
  · rw [hj, hn]
    rfl
  · have hhead : (join directory name).toList.head? = directory.toList.head? := by
      rw [hj]
      rcases hd with hd | ⟨hne, hd⟩
      · rw [hd, List.head?_append, List.head?_append]
        rfl
      · obtain ⟨c, text, rfl⟩ := List.exists_cons_of_ne_nil hne
        rw [hd]
        rfl
    rw [isAbsolute, isAbsolute, hhead]

theorem pieces_join {name : String} (hn : isAbsolute name = false) (directory : String) :
    pieces (join directory name) = pieces directory ++ pieces name := by
  rcases toList_join hn directory with ⟨rfl, hj⟩ | ⟨front, hj, hd⟩
  · rw [hj]
    rfl
  · have hfront : pieces directory = fields (· == '/') front := by
      rcases hd with hd | ⟨-, hd⟩
      · rw [pieces, hd, fields_append_cons _ (by decide)]
        exact List.append_nil _
      · rw [pieces, hd]
    rw [hfront, pieces, hj, fields_append_cons _ (by decide)]
    rfl

theorem isAbsolute_eq_false {name : String} (h : '/' ∉ name.toList) : isAbsolute name = false :=
  Bool.eq_false_iff.2 fun ha => h (List.mem_of_head? (eq_of_beq ha))

theorem join_eq_name_iff {name : String} (h : '/' ∉ name.toList) {directory : String} :
    join directory name = name ↔ directory = "" := by
  rcases toList_join (isAbsolute_eq_false h) directory with ⟨hd, hj⟩ | ⟨front, hj, hd⟩
  · exact iff_of_true hj hd
  · refine iff_of_false (fun he => h ?_) ?_
    · rw [← he, hj]
      exact List.mem_append_right front List.mem_cons_self
    · rintro rfl
      rcases hd with hd | ⟨hne, hd⟩
      · exact List.concat_ne_nil '/' front hd.symm
      · exact hne hd.symm

/-! ### Components -/

theorem components_join {name : String} (hne : name ≠ "") (hdot : name ≠ ".")
    (hslash : '/' ∉ name.toList) (directory : String) :
    components (join directory name) = components directory ++ [.ofPiece name.toList] := by
  have hn : isAbsolute name = false := isAbsolute_eq_false hslash
  have hpieces : pieces name = [name.toList] := by
    have hfree : ∀ c ∈ name.toList, (c == '/') = false := by
      intro c hc
      have hcs : c ≠ '/' := fun he => hslash (he ▸ hc)
      simpa using hcs
    rw [pieces, fields, splitWhere_eq_singleton _ _ hfree]
    simp [hne]
  have hkept : name.toList ≠ ['.'] := fun he => hdot (String.toList_inj.1 he)
  have hsteps : ((pieces directory ++ [name.toList]).filter (· ≠ ['.'])).map Component.ofPiece =
      ((pieces directory).filter (· ≠ ['.'])).map .ofPiece ++ [.ofPiece name.toList] := by
    simp [hkept]
  -- a leading dot can only be the directory's own, also where the name comes first
  have hhead : (pieces directory ++ [name.toList]).head? = some ['.'] ↔
      (pieces directory).head? = some ['.'] := by
    cases pieces directory <;> simp [hkept]
  simp only [components, isAbsolute_join hn, pieces_join hn, hpieces, hsteps, hhead]
  split
  · rfl
  · split <;> rfl

/-! ### Names that are one component -/

/-- A name that stands for one component behind every directory. -/
structure IsComponent (name : String) : Prop where
  ne_empty : name ≠ ""
  ne_dot : name ≠ "."
  no_slash : '/' ∉ name.toList

theorem IsComponent.components_eq {name : String} (h : IsComponent name) :
    components name = [.ofPiece name.toList] := by
  have hjoin : join "" name = name := (join_eq_name_iff h.no_slash).2 rfl
  have hc := components_join h.ne_empty h.ne_dot h.no_slash ""
  rw [hjoin] at hc
  exact hc

theorem ofPiece_injective {a b : List Char} (h : Component.ofPiece a = .ofPiece b) : a = b := by
  unfold Component.ofPiece at h
  by_cases ha : a = ['.', '.'] <;> by_cases hb : b = ['.', '.'] <;> simp_all

theorem same_join_iff {name other : String} (hn : IsComponent name) (ho : IsComponent other)
    (a b : String) :
    same (join a name) (join b other) = true ↔ same a b = true ∧ name = other := by
  rw [same_iff_components, same_iff_components,
    components_join hn.ne_empty hn.ne_dot hn.no_slash,
    components_join ho.ne_empty ho.ne_dot ho.no_slash]
  constructor
  · intro h
    obtain ⟨hd, hlast⟩ := List.append_inj' h rfl
    have htext := ofPiece_injective (List.cons.inj hlast).1
    exact ⟨hd, String.toList_inj.1 htext⟩
  · intro h
    obtain ⟨hd, rfl⟩ := h
    rw [hd]

theorem join_of_isAbsolute {name : String} (h : isAbsolute name = true) (directory : String) :
    join directory name = name := by
  unfold join
  rw [if_pos h]

end VrfPresence.Path
