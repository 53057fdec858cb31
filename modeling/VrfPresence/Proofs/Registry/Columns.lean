import VrfPresence.Proofs.Text.Numerals
import VrfPresence.Proofs.Text.Runs
import VrfPresence.Registry.Entry

/-!
# What the words of a line say

For each column of a line, the words that are read in it and the values they are read as, told
without the readers: numerals of a bounded value, the names between commas, the three states, an
address behind `0x`, and a taint between parentheses.
-/

namespace VrfPresence.Registry

open Text

/-! ### Numbers -/

theorem readSize?_eq_some_iff {word : List Char} {size : UInt64} :
    readSize? (String.ofList word) = some size ↔ IsNumeral 10 word size.toNat := by
  rw [readSize?, String.toList_ofList]
  exact map_readUnsigned?_eq_some_iff (by decide) UInt64.toNat_lt_size
    (fun _ => UInt64.toNat_ofNat_of_lt') fun _ => UInt64.ofNat_toNat

theorem not_isNumeral_dash (n : Nat) : ¬ IsNumeral 10 ['-'] n := by
  intro h
  have hread := (readUnsigned?_eq_some_iff (by decide)).2 ⟨h, Nat.lt_succ_self n⟩
  cases hread

theorem readRefcount?_eq_some_iff {word : List Char} {refcount : UInt32} :
    readRefcount? (String.ofList word) = some refcount ↔
      word = ['-'] ∧ refcount = 0 ∨ IsNumeral 10 word refcount.toNat := by
  unfold readRefcount?
  by_cases hw : word = ['-']
  · subst hw
    simp [not_isNumeral_dash, eq_comm]
  · have hd : String.ofList word ≠ "-" := fun he => hw (String.ofList_injective he)
    rw [if_neg hd, String.toList_ofList, map_readUnsigned?_eq_some_iff (by decide)
      UInt32.toNat_lt_size (fun _ => UInt32.toNat_ofNat_of_lt') fun _ => UInt32.ofNat_toNat]
    simp [hw]

theorem readAddress?_eq_some_iff {word : List Char} {address : UInt64} :
    readAddress? (String.ofList word) = some address ↔
      ∃ digits, word = '0' :: 'x' :: digits ∧ IsNumeral 16 digits address.toNat := by
  unfold readAddress?
  rw [String.toList_ofList]
  split
  · rename_i digits
    rw [map_readUnsigned?_eq_some_iff (by decide) UInt64.toNat_lt_size
      (fun _ => UInt64.toNat_ofNat_of_lt') fun _ => UInt64.ofNat_toNat]
    simp
  · rename_i hw
    constructor
    · intro h
      cases h
    · intro h
      obtain ⟨digits, rfl, -⟩ := h
      exact absurd rfl (hw digits)

/-! ### Names and states -/

/-- The names that a word lists: none, or what stands between its commas. -/
def ListsNames (word : List Char) (names : List (List Char)) : Prop :=
  word = ['-'] ∧ names = [] ∨
    word ≠ ['-'] ∧ ∃ pieces, IsCut ',' word pieces ∧ names = pieces.filter (· ≠ [])

theorem readDependents_eq_iff {word : List Char} {dependents : List String} :
    readDependents (String.ofList word) = dependents ↔
      ListsNames word (dependents.map String.toList) := by
  unfold readDependents ListsNames
  by_cases hw : word = ['-']
  · subst hw
    simp [eq_comm]
  · have hd : String.ofList word ≠ "-" := fun he => hw (String.ofList_injective he)
    simp only [if_neg hd, String.toList_ofList, isCut_iff, hw, false_and, false_or, not_false_eq_true,
      true_and, exists_eq_left', ne_eq]
    constructor
    · intro h
      rw [← h]
      simp [fields]
    · intro h
      have hnames := congrArg (List.map String.ofList) h
      rw [List.map_map] at hnames
      simpa [fields] using hnames.symm

theorem ofText?_eq_some_iff {word : List Char} {state : ModuleState} :
    ModuleState.ofText? (String.ofList word) = some state ↔ word = state.text.toList := by
  constructor
  · intro h
    have ht := List.find?_some h
    rw [beq_iff_eq] at ht
    rw [ht, String.toList_ofList]
  · intro h
    rw [h, String.ofList_toList]
    cases state <;> decide

/-! ### Taints -/

theorem dropWhile_beq_eq_iff {c : Char} {text rest : List Char} : text.dropWhile (· == c) = rest ↔
    ∃ count, text = List.replicate count c ++ rest ∧ rest.head? ≠ some c := by
  constructor
  · intro h
    subst h
    induction text with
    | nil => exact ⟨0, rfl, by simp⟩
    | cons d text ih =>
      by_cases hd : d = c
      · obtain ⟨count, htext, hhead⟩ := ih
        refine ⟨count + 1, ?_, ?_⟩
        · rw [List.dropWhile_cons_of_pos (by simpa using hd), List.replicate_succ, List.cons_append,
            ← htext, hd]
        · rwa [List.dropWhile_cons_of_pos (by simpa using hd)]
      · refine ⟨0, ?_, ?_⟩
        · rw [List.dropWhile_cons_of_neg (by simpa using hd)]
          rfl
        · rw [List.dropWhile_cons_of_neg (by simpa using hd)]
          simpa using hd
  · intro h
    obtain ⟨count, rfl, hhead⟩ := h
    have hstay : rest.dropWhile (· == c) = rest := by
      apply dropWhile_of_head?
      intro d hd
      have hne : d ≠ c := fun he => hhead (he ▸ hd)
      simpa using hne
    induction count with
    | zero => exact hstay
    | succ count ih => simpa [List.replicate_succ] using ih

/-- The word is the taint with parentheses around it, of which the taint has none at its ends. -/
def Parenthesises (word taint : List Char) : Prop :=
  ∃ opening closing, word = List.replicate opening '(' ++ taint ++ List.replicate closing ')' ∧
    taint.head? ≠ some '(' ∧ taint.getLast? ≠ some ')'

theorem readTaint_eq_iff {word taint : List Char} :
    readTaint (String.ofList word) = String.ofList taint ↔ Parenthesises word taint := by
  have hclosed (bare : List Char) : (bare.reverse.dropWhile (· == ')')).reverse = taint ↔
      ∃ closing, bare = taint ++ List.replicate closing ')' ∧ taint.getLast? ≠ some ')' := by
    rw [List.reverse_eq_iff, dropWhile_beq_eq_iff, List.head?_reverse]
    simp only [List.reverse_eq_iff, List.reverse_append, List.reverse_reverse, List.reverse_replicate]
  rw [readTaint, String.toList_ofList, String.ofList_inj, hclosed]
  constructor
  · intro h
    obtain ⟨closing, hbare, hlast⟩ := h
    obtain ⟨opening, hword, hhead⟩ := dropWhile_beq_eq_iff.1 hbare
    refine ⟨opening, closing, by rw [hword, List.append_assoc], fun he => hhead ?_, hlast⟩
    rw [List.head?_append, he]
    rfl
  · intro h
    obtain ⟨opening, closing, hword, hhead, hlast⟩ := h
    refine ⟨closing, dropWhile_beq_eq_iff.2 ⟨opening, by rw [hword, List.append_assoc], ?_⟩, hlast⟩
    cases taint with
    | nil => cases closing <;> simp [List.replicate_succ]
    | cons c taint => simpa using hhead

end VrfPresence.Registry
