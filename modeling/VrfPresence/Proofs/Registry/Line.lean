import VrfPresence.Proofs.Registry.Columns
import VrfPresence.Registry.Scan

/-!
# Lines that were written

A line written from an entry reads back as that entry, in every layout, provided that the texts
of the entry fit into their columns. Column by column: each written word is the word that was
meant, and its reader gives the value back.
-/

namespace VrfPresence.Registry

open Text

/-- The texts of the entry fit into the columns of a line. -/
structure ModuleEntry.Representable (entry : ModuleEntry) : Prop where
  name : IsWord entry.name.toList
  dependents : ∀ dependent ∈ entry.dependents, IsWord dependent.toList ∧ ',' ∉ dependent.toList
  taint : ∀ taint ∈ entry.taint, (∀ c ∈ taint.toList, isBlank c = false) ∧
    taint.toList.head? ≠ some '(' ∧ taint.toList.getLast? ≠ some ')'

theorem ModuleEntry.representable_iff (entry : ModuleEntry) : entry.Representable ↔
    IsWord entry.name.toList ∧
    (∀ dependent ∈ entry.dependents, IsWord dependent.toList ∧ ',' ∉ dependent.toList) ∧
    ∀ taint ∈ entry.taint, taint.toList.all (!isBlank ·) = true ∧
      taint.toList.head? ≠ some '(' ∧ taint.toList.getLast? ≠ some ')' :=
  ⟨fun h => ⟨h.name, h.dependents, by simpa using h.taint⟩,
    fun h => ⟨h.1, h.2.1, by simpa using h.2.2⟩⟩

instance (entry : ModuleEntry) : Decidable entry.Representable :=
  decidable_of_iff _ entry.representable_iff.symm

/-! ### Numbers -/

theorem isWord_of_readDigits {base n : Nat} {text : List Char} (hne : text ≠ [])
    (h : readDigits base 0 text = some n) : IsWord text :=
  ⟨hne, fun c hc => isBlank_of_digitIn? (digitIn?_of_readDigits 0 (by rw [h]; rfl) c hc)⟩

theorem isWord_decimal (n : Nat) : IsWord (Nat.toDigits 10 n) :=
  isWord_of_readDigits Nat.toDigits_ne_nil (readDigits_decimal n)

theorem readSize?_decimal (size : UInt64) :
    readSize? (String.ofList (Nat.toDigits 10 size.toNat)) = some size := by
  have hr := readUnsigned?_of_readDigits Nat.toDigits_ne_nil (readDigits_decimal size.toNat)
    size.toNat_lt_size
  simp [readSize?, hr]

theorem readRefcount?_decimal (refcount : UInt32) :
    readRefcount? (String.ofList (Nat.toDigits 10 refcount.toNat)) = some refcount := by
  have hd : String.ofList (Nat.toDigits 10 refcount.toNat) ≠ "-" := by
    intro he
    have hl := congrArg String.toList he
    have hr := readDigits_decimal refcount.toNat
    rw [String.toList_ofList] at hl
    rw [hl] at hr
    cases hr
  have hr := readUnsigned?_of_readDigits Nat.toDigits_ne_nil (readDigits_decimal refcount.toNat)
    refcount.toNat_lt_size
  simp [readRefcount?, hd, hr]

theorem readDigits_addressDigits (layout : Layout) (address : UInt64) :
    readDigits 16 0 (layout.addressDigits address) = some address.toNat := by
  have hd : readDigits 16 0 (Nat.toDigits 16 address.toNat) = some address.toNat := by
    simp [readDigits_toDigits]
  refine readDigits_padZeros ?_
  split
  · rw [readDigits_map_toUpper, hd]
  · exact hd

theorem addressDigits_ne_nil (layout : Layout) (address : UInt64) :
    layout.addressDigits address ≠ [] := by
  intro h
  have hr := congrArg List.length h
  have hp : 0 < (Nat.toDigits 16 address.toNat).length := Nat.length_toDigits_pos
  simp only [Layout.addressDigits, padZeros, List.length_append, List.length_nil] at hr
  split at hr
  · rw [List.length_map] at hr
    omega
  · omega

theorem readAddress?_addressDigits (layout : Layout) (address : UInt64) :
    readAddress? (String.ofList ('0' :: 'x' :: layout.addressDigits address)) = some address := by
  have hr := readUnsigned?_of_readDigits (addressDigits_ne_nil layout address)
    (readDigits_addressDigits layout address) address.toNat_lt_size
  simp [readAddress?, hr]

/-! ### Names -/

theorem readDependents_dash : readDependents "-" = [] := rfl

/-- Ended by a comma, even a dependent that is called by a dash is no dash. -/
theorem readDependents_ended (dependents : List String) (hne : dependents ≠ [])
    (h : ∀ dependent ∈ dependents, IsWord dependent.toList ∧ ',' ∉ dependent.toList) :
    readDependents (String.ofList (dependents.flatMap fun d => d.toList ++ [','])) = dependents := by
  have hd : String.ofList (dependents.flatMap fun d => d.toList ++ [',']) ≠ "-" := by
    intro he
    have hl := congrArg String.toList he
    rw [String.toList_ofList] at hl
    have hm : ',' ∈ dependents.flatMap fun d => d.toList ++ [','] := by
      obtain ⟨d, ds, rfl⟩ := List.exists_cons_of_ne_nil hne
      simp
    rw [hl] at hm
    revert hm
    decide
  have hf := fields_ended (· == ',') (s := ',') (by decide) (dependents.map String.toList) (by
    intro piece hp
    obtain ⟨d, hm, rfl⟩ := List.mem_map.1 hp
    refine ⟨(h d hm).1.1, fun c hc => ?_⟩
    have hne' : c ≠ ',' := fun he => (h d hm).2 (he ▸ hc)
    simpa using hne')
  rw [List.flatMap_map] at hf
  rw [readDependents, if_neg hd, String.toList_ofList, hf]
  simp

theorem ofText?_text (state : ModuleState) : ModuleState.ofText? state.text = some state := by
  cases state <;> decide

theorem readTaint_parenthesised (taint : String) (hfirst : taint.toList.head? ≠ some '(')
    (hlast : taint.toList.getLast? ≠ some ')') :
    readTaint (String.ofList ('(' :: taint.toList ++ [')'])) = taint := by
  have hparens : Parenthesises ('(' :: taint.toList ++ [')']) taint.toList :=
    ⟨1, 1, rfl, hfirst, hlast⟩
  have hread := readTaint_eq_iff.2 hparens
  rwa [String.ofList_toList] at hread

/-! ### Columns -/

theorem Column.read_of_word {α : Type} {column : Column} {reader : String → Option α}
    {words : List String} {word : String} {value : α} (hw : words[column.index]? = some word)
    (hr : reader word = some value) : column.read reader words = .ok value := by
  simp [Column.read, Column.find, hw, hr]

theorem readRefcount?_word (layout : Layout) (refcount : UInt32) :
    readRefcount? (String.ofList (if layout.dashForZero && refcount == 0 then ['-']
      else Nat.toDigits 10 refcount.toNat)) = some refcount := by
  split
  · rename_i h
    have hz : refcount = 0 := by
      rw [Bool.and_eq_true, beq_iff_eq] at h
      exact h.2
    rw [hz]
    rfl
  · exact readRefcount?_decimal refcount

theorem readDependents_word (dependents : List String)
    (h : ∀ dependent ∈ dependents, IsWord dependent.toList ∧ ',' ∉ dependent.toList) :
    readDependents (String.ofList (if dependents.isEmpty then ['-']
      else dependents.flatMap fun dependent => dependent.toList ++ [','])) = dependents := by
  cases dependents with
  | nil => exact readDependents_dash
  | cons d ds => exact readDependents_ended (d :: ds) (List.cons_ne_nil _ _) h

theorem isWord_dependents (dependents : List String)
    (h : ∀ dependent ∈ dependents, IsWord dependent.toList ∧ ',' ∉ dependent.toList) :
    IsWord (if dependents.isEmpty then ['-']
      else dependents.flatMap fun dependent => dependent.toList ++ [',']) := by
  cases dependents with
  | nil => decide
  | cons d ds =>
    refine ⟨by simp, fun c hc => ?_⟩
    obtain ⟨dependent, hd, hm⟩ := List.mem_flatMap.1 hc
    rcases List.mem_append.1 hm with hm | hm
    · exact (h dependent hd).1.2 c hm
    · rw [List.mem_singleton.1 hm]
      rfl

theorem isWord_address (layout : Layout) (address : UInt64) :
    IsWord ('0' :: 'x' :: layout.addressDigits address) := by
  have hd := isWord_of_readDigits (addressDigits_ne_nil layout address)
    (readDigits_addressDigits layout address)
  refine ⟨List.cons_ne_nil _ _, fun c hc => ?_⟩
  rcases List.mem_cons.1 hc with rfl | hc
  · rfl
  rcases List.mem_cons.1 hc with rfl | hc
  · rfl
  · exact hd.2 c hc

theorem isWord_taint {taint : String} (h : ∀ c ∈ taint.toList, isBlank c = false) :
    IsWord ('(' :: taint.toList ++ [')']) := by
  refine ⟨List.cons_ne_nil _ _, fun c hc => ?_⟩
  rcases List.mem_append.1 hc with hc | hc
  · rcases List.mem_cons.1 hc with rfl | hc
    · rfl
    · exact h c hc
  · rw [List.mem_singleton.1 hc]
    rfl

/-! ### Lines -/

theorem isWord_of_mem_toWords (layout : Layout) {entry : ModuleEntry} (h : entry.Representable) :
    ∀ word ∈ entry.toWords layout, IsWord word := by
  intro word hw
  simp only [ModuleEntry.toWords, List.mem_append, List.mem_cons, List.not_mem_nil, or_false,
    List.mem_map, Option.mem_toList] at hw
  rcases hw with (rfl | rfl | rfl | rfl | rfl | rfl) | ⟨taint, ht, rfl⟩
  · exact h.name
  · exact isWord_decimal _
  · split
    · decide
    · exact isWord_decimal _
  · exact isWord_dependents _ h.dependents
  · cases entry.state <;> decide
  · exact isWord_address layout entry.address
  · exact isWord_taint (h.taint taint ht).1

theorem words_render (layout : Layout) {entry : ModuleEntry} (h : entry.Representable) :
    words (entry.render layout).toList = entry.toWords layout := by
  rw [ModuleEntry.render, String.toList_ofList, words_join _ (isWord_of_mem_toWords layout h)]

theorem readTaint_word (layout : Layout) {entry : ModuleEntry} (h : entry.Representable) :
    ((entry.toWords layout).map String.ofList)[6]?.map readTaint = entry.taint := by
  show (entry.taint.toList.map _ |>.map String.ofList)[0]?.map readTaint = entry.taint
  cases ht : entry.taint with
  | none => rfl
  | some taint =>
    obtain ⟨-, hfirst, hlast⟩ := h.taint taint ht
    exact congrArg some (readTaint_parenthesised taint hfirst hlast)

theorem parse_render (layout : Layout) {entry : ModuleEntry} (h : entry.Representable) :
    ModuleEntry.parse (entry.render layout) = .ok entry := by
  have hname : Column.name.read some ((entry.toWords layout).map String.ofList) = .ok entry.name :=
    Column.read_of_word rfl (by rw [String.ofList_toList])
  have hsize : Column.size.read readSize? ((entry.toWords layout).map String.ofList) =
      .ok entry.size := Column.read_of_word rfl (readSize?_decimal _)
  have hrefcount : Column.refcount.read readRefcount? ((entry.toWords layout).map String.ofList) =
      .ok entry.refcount := Column.read_of_word rfl (readRefcount?_word layout _)
  have hdependents : Column.dependents.read (some ∘ readDependents)
      ((entry.toWords layout).map String.ofList) = .ok entry.dependents :=
    Column.read_of_word rfl (congrArg some (readDependents_word _ h.dependents))
  have hstate : Column.state.read ModuleState.ofText? ((entry.toWords layout).map String.ofList) =
      .ok entry.state := Column.read_of_word rfl (by rw [String.ofList_toList, ofText?_text])
  have haddress : Column.address.read readAddress? ((entry.toWords layout).map String.ofList) =
      .ok entry.address := Column.read_of_word rfl (readAddress?_addressDigits layout _)
  rw [ModuleEntry.parse, words_render layout h, ModuleEntry.ofWords, hname, hsize, hrefcount,
    hdependents, hstate, haddress, readTaint_word layout h]
  rfl

theorem newline_not_mem_render (layout : Layout) {entry : ModuleEntry} (h : entry.Representable) :
    '\n' ∉ (entry.render layout).toList := by
  rw [ModuleEntry.render, String.toList_ofList]
  refine not_mem_join (by decide) fun word hw hm => ?_
  have hb := (isWord_of_mem_toWords layout h word hw).2 _ hm
  cases hb

end VrfPresence.Registry
