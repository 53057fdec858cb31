import VrfPresence.Proofs.Failure
import VrfPresence.Proofs.Registry.Columns

/-!
# The grammar of a line

The columns of a line are its runs, and each of the first six admits words of its own. A line is read
as an entry if all six are there and admitted, and the entry is what they say. Otherwise the error is
about the first column that is missing or not admitted: all columns before it are in order.
-/

namespace VrfPresence.Registry

open Text

/-! ### Columns in order -/

def Column.Admits : Column → List Char → Prop
  | .name, _ => True
  | .size, word => ∃ n < 2 ^ 64, IsNumeral 10 word n
  | .refcount, word => word = ['-'] ∨ ∃ n < 2 ^ 32, IsNumeral 10 word n
  | .dependents, _ => True
  | .state, word => word ∈ ["Live".toList, "Loading".toList, "Unloading".toList]
  | .address, word => ∃ digits, word = '0' :: 'x' :: digits ∧ ∃ n < 2 ^ 64, IsNumeral 16 digits n

def Column.Holds (column : Column) (columns : List (List Char)) : Prop :=
  ∃ word, columns[column.index]? = some word ∧ column.Admits word

inductive Column.Fails (column : Column) (columns : List (List Char)) : EntryError → Prop
  | missing (h : columns[column.index]? = none) : Fails column columns (.missing column)
  | invalid {word : List Char} (h : columns[column.index]? = some word)
      (hw : ¬ column.Admits word) : Fails column columns (.invalid column (String.ofList word))

/-- The error is about the first column that is not in order. -/
def Blames (columns : List (List Char)) (error : EntryError) : Prop :=
  ∃ column : Column, column.Fails columns error ∧
    ∀ earlier : Column, earlier.index < column.index → earlier.Holds columns

theorem Column.index_injective {a b : Column} (h : a.index = b.index) : a = b := by
  cases a <;> cases b <;> first | rfl | cases h

theorem Column.forall_holds_iff {columns : List (List Char)} :
    (∀ column : Column, column.Holds columns) ↔ 6 ≤ columns.length ∧
      ∀ (column : Column) (word : List Char), columns[column.index]? = some word →
        column.Admits word := by
  constructor
  · intro h
    refine ⟨?_, fun column word hw => ?_⟩
    · obtain ⟨word, hw, -⟩ := h .address
      exact (List.getElem?_eq_some_iff.1 hw).1
    · obtain ⟨other, ho, hadmits⟩ := h column
      obtain rfl := Option.some.inj (hw.symm.trans ho)
      exact hadmits
  · intro h column
    have hlt : column.index < columns.length := by
      have hi : column.index < 6 := by cases column <;> decide
      omega
    have hw := List.getElem?_eq_getElem hlt
    exact ⟨_, hw, h.2 column _ hw⟩

theorem Column.Holds.not_fails {column : Column} {columns : List (List Char)} {error : EntryError}
    (h : column.Holds columns) : ¬ column.Fails columns error := by
  obtain ⟨word, hw, hadmits⟩ := h
  intro hf
  cases hf with
  | missing hm =>
    rw [hw] at hm
    cases hm
  | invalid ho hn =>
    obtain rfl := Option.some.inj (hw.symm.trans ho)
    exact hn hadmits

/-- The column that an error is about. -/
def EntryError.column : EntryError → Column
  | .missing column => column
  | .invalid column _ => column

theorem Column.Fails.column_eq {column : Column} {columns : List (List Char)} {error : EntryError}
    (h : column.Fails columns error) : error.column = column := by
  cases h <;> rfl

theorem Column.Fails.unique {column : Column} {columns : List (List Char)} {a b : EntryError}
    (ha : column.Fails columns a) (hb : column.Fails columns b) : a = b := by
  cases ha with
  | missing h =>
    cases hb with
    | missing => rfl
    | invalid ho => rw [h] at ho; cases ho
  | invalid h =>
    cases hb with
    | missing ho => rw [h] at ho; cases ho
    | invalid ho => rw [Option.some.inj (h.symm.trans ho)]

theorem Blames.unique {columns : List (List Char)} {a b : EntryError} (ha : Blames columns a)
    (hb : Blames columns b) : a = b := by
  obtain ⟨c, hc, hbefore⟩ := ha
  obtain ⟨d, hd, hearlier⟩ := hb
  rcases Nat.lt_trichotomy c.index d.index with hlt | heq | hgt
  · exact absurd hc (hearlier c hlt).not_fails
  · obtain rfl := Column.index_injective heq
    exact hc.unique hd
  · exact absurd hd (hbefore d hgt).not_fails

/-! ### Reading one column -/

/-- The reader reads the words that the column admits. -/
def Column.ReadBy {α : Type} (column : Column) (reader : String → Option α) : Prop :=
  ∀ word, (∃ value, reader (String.ofList word) = some value) ↔ column.Admits word

theorem Column.readBy_name : Column.name.ReadBy some := by
  intro word
  simp [Column.Admits]

theorem Column.readBy_size : Column.size.ReadBy readSize? := by
  intro word
  simp only [readSize?_eq_some_iff]
  constructor
  · intro h
    obtain ⟨size, hsize⟩ := h
    exact ⟨size.toNat, size.toNat_lt_size, hsize⟩
  · intro h
    obtain ⟨n, hn, hnumeral⟩ := h
    exact ⟨UInt64.ofNat n, by rwa [UInt64.toNat_ofNat_of_lt' hn]⟩

theorem Column.readBy_refcount : Column.refcount.ReadBy readRefcount? := by
  intro word
  simp only [readRefcount?_eq_some_iff]
  constructor
  · intro h
    obtain ⟨refcount, ⟨hdash, -⟩ | hrefcount⟩ := h
    · exact .inl hdash
    · exact .inr ⟨refcount.toNat, refcount.toNat_lt_size, hrefcount⟩
  · intro h
    obtain hdash | ⟨n, hn, hnumeral⟩ := h
    · exact ⟨0, .inl ⟨hdash, rfl⟩⟩
    · exact ⟨UInt32.ofNat n, .inr (by rwa [UInt32.toNat_ofNat_of_lt' hn])⟩

theorem Column.readBy_dependents : Column.dependents.ReadBy (some ∘ readDependents) := by
  intro word
  simp [Column.Admits]

theorem Column.readBy_state : Column.state.ReadBy ModuleState.ofText? := by
  intro word
  simp only [ofText?_eq_some_iff]
  constructor
  · intro h
    obtain ⟨state, rfl⟩ := h
    show state.text.toList ∈ ["Live".toList, "Loading".toList, "Unloading".toList]
    cases state <;> decide
  · intro h
    simp only [Column.Admits, List.mem_cons, List.not_mem_nil, or_false] at h
    rcases h with rfl | rfl | rfl
    · exact ⟨.live, rfl⟩
    · exact ⟨.loading, rfl⟩
    · exact ⟨.unloading, rfl⟩

theorem Column.readBy_address : Column.address.ReadBy readAddress? := by
  intro word
  simp only [readAddress?_eq_some_iff]
  constructor
  · intro h
    obtain ⟨address, digits, hword, haddress⟩ := h
    exact ⟨digits, hword, address.toNat, address.toNat_lt_size, haddress⟩
  · intro h
    obtain ⟨digits, hword, n, hn, hnumeral⟩ := h
    exact ⟨UInt64.ofNat n, digits, hword, by rwa [UInt64.toNat_ofNat_of_lt' hn]⟩

section

variable {α : Type} {column : Column} {reader : String → Option α} {columns : List (List Char)}

theorem Column.read_eq_ok_iff {value : α} :
    column.read reader (columns.map String.ofList) = .ok value ↔
      ∃ word, columns[column.index]? = some word ∧ reader (String.ofList word) = some value := by
  unfold Column.read Column.find
  rw [List.getElem?_map]
  cases columns[column.index]? with
  | none => simp
  | some word => cases hr : reader (String.ofList word) <;> simp [hr]

theorem Column.fails_of_read (hr : column.ReadBy reader) {error : EntryError}
    (h : column.read reader (columns.map String.ofList) = .error error) :
    column.Fails columns error := by
  unfold Column.read Column.find at h
  rw [List.getElem?_map] at h
  cases hw : columns[column.index]? with
  | none =>
    simp only [hw, Option.map_none] at h
    cases h
    exact .missing hw
  | some word =>
    simp only [hw, Option.map_some] at h
    cases hv : reader (String.ofList word) with
    | none =>
      simp only [hv] at h
      cases h
      refine .invalid hw fun hadmits => ?_
      obtain ⟨value, hvalue⟩ := (hr word).2 hadmits
      rw [hv] at hvalue
      cases hvalue
    | some value =>
      simp only [hv] at h
      cases h

theorem Column.holds_of_read (hr : column.ReadBy reader) {value : α}
    (h : column.read reader (columns.map String.ofList) = .ok value) : column.Holds columns := by
  obtain ⟨word, hw, hvalue⟩ := Column.read_eq_ok_iff.1 h
  exact ⟨word, hw, (hr word).1 ⟨value, hvalue⟩⟩

/-- One step of reading: with the columns before in order, this one is blamed, or it is in order
too and the reading goes on. -/
theorem blames_of_bind (hr : column.ReadBy reader)
    (hbefore : ∀ earlier : Column, earlier.index < column.index → earlier.Holds columns)
    {β : Type} {next : α → Except EntryError β} {error : EntryError}
    (h : column.read reader (columns.map String.ofList) >>= next = .error error)
    (hnext : ∀ value,
      (∀ earlier : Column, earlier.index < column.index + 1 → earlier.Holds columns) →
        next value = .error error → Blames columns error) :
    Blames columns error := by
  rcases of_bind_eq_error h with hread | ⟨value, hread, h⟩
  · exact ⟨column, Column.fails_of_read hr hread, hbefore⟩
  · apply hnext value _ h
    intro earlier hlt
    rcases Nat.lt_or_eq_of_le (Nat.le_of_lt_succ hlt) with hlt | heq
    · exact hbefore earlier hlt
    · rw [Column.index_injective heq]
      exact Column.holds_of_read hr hread

end

/-! ### Reading all columns -/

/-- An entry that was read has in each column what the reader of the column gives. -/
theorem of_ofWords_eq_ok {words : List String} {entry : ModuleEntry}
    (h : ModuleEntry.ofWords words = .ok entry) :
    Column.name.read some words = .ok entry.name ∧
      Column.size.read readSize? words = .ok entry.size ∧
      Column.refcount.read readRefcount? words = .ok entry.refcount ∧
      Column.dependents.read (some ∘ readDependents) words = .ok entry.dependents ∧
      Column.state.read ModuleState.ofText? words = .ok entry.state ∧
      Column.address.read readAddress? words = .ok entry.address ∧
      words[6]?.map readTaint = entry.taint := by
  obtain ⟨name, hname, h⟩ := of_bind_eq_ok h
  obtain ⟨size, hsize, h⟩ := of_bind_eq_ok h
  obtain ⟨refcount, hrefcount, h⟩ := of_bind_eq_ok h
  obtain ⟨dependents, hdependents, h⟩ := of_bind_eq_ok h
  obtain ⟨state, hstate, h⟩ := of_bind_eq_ok h
  obtain ⟨address, haddress, h⟩ := of_bind_eq_ok h
  cases h
  exact ⟨hname, hsize, hrefcount, hdependents, hstate, haddress, rfl⟩

theorem blames_of_ofWords {columns : List (List Char)} {error : EntryError}
    (h : ModuleEntry.ofWords (columns.map String.ofList) = .error error) :
    Blames columns error := by
  refine blames_of_bind Column.readBy_name (fun _ hlt => nomatch hlt) h fun _ hname h => ?_
  refine blames_of_bind Column.readBy_size hname h fun _ hsize h => ?_
  refine blames_of_bind Column.readBy_refcount hsize h fun _ hrefcount h => ?_
  refine blames_of_bind Column.readBy_dependents hrefcount h fun _ hdependents h => ?_
  refine blames_of_bind Column.readBy_state hdependents h fun _ hstate h => ?_
  refine blames_of_bind Column.readBy_address hstate h fun _ _ h => ?_
  cases h

/-- What the columns of a line say. Columns behind the seventh say nothing. -/
structure ModuleEntry.DescribedBy (entry : ModuleEntry) (columns : List (List Char)) : Prop where
  name : columns[0]? = some entry.name.toList
  size : ∃ word, columns[1]? = some word ∧ IsNumeral 10 word entry.size.toNat
  refcount : ∃ word, columns[2]? = some word ∧
    (word = ['-'] ∧ entry.refcount = 0 ∨ IsNumeral 10 word entry.refcount.toNat)
  dependents : ∃ word, columns[3]? = some word ∧
    ListsNames word (entry.dependents.map String.toList)
  state : columns[4]? = some entry.state.text.toList
  address : ∃ digits, columns[5]? = some ('0' :: 'x' :: digits) ∧
    IsNumeral 16 digits entry.address.toNat
  taint : columns[6]? = none ∧ entry.taint = none ∨ ∃ word taint, columns[6]? = some word ∧
    entry.taint = some (String.ofList taint) ∧ Parenthesises word taint

theorem map_readTaint_eq_iff {word : Option (List Char)} {taint : Option String} :
    (word.map String.ofList).map readTaint = taint ↔ word = none ∧ taint = none ∨
      ∃ text bare, word = some text ∧ taint = some (String.ofList bare) ∧
        Parenthesises text bare := by
  cases word with
  | none => simp [eq_comm]
  | some text =>
    constructor
    · intro h
      subst h
      have hbare : readTaint (String.ofList text) =
          String.ofList (readTaint (String.ofList text)).toList := String.ofList_toList.symm
      exact .inr ⟨text, _, rfl, congrArg some hbare, readTaint_eq_iff.1 hbare⟩
    · intro h
      rcases h with ⟨hn, -⟩ | ⟨other, bare, hw, rfl, hbare⟩
      · cases hn
      · obtain rfl := Option.some.inj hw
        exact congrArg some (readTaint_eq_iff.2 hbare)

theorem ofWords_eq_ok_iff {columns : List (List Char)} {entry : ModuleEntry} :
    ModuleEntry.ofWords (columns.map String.ofList) = .ok entry ↔ entry.DescribedBy columns := by
  constructor
  · intro h
    obtain ⟨hname, hsize, hrefcount, hdependents, hstate, haddress, htaint⟩ := of_ofWords_eq_ok h
    simp only [Column.read_eq_ok_iff, Column.index, Function.comp_apply, Option.some.injEq,
      readSize?_eq_some_iff, readRefcount?_eq_some_iff, readDependents_eq_iff, ofText?_eq_some_iff,
      readAddress?_eq_some_iff] at hname hsize hrefcount hdependents hstate haddress
    rw [List.getElem?_map] at htaint
    obtain ⟨name, hword, hname⟩ := hname
    obtain ⟨state, hstate, rfl⟩ := hstate
    obtain ⟨address, hfound, digits, rfl, hnumeral⟩ := haddress
    refine ⟨?_, hsize, hrefcount, hdependents, hstate, ⟨digits, hfound, hnumeral⟩,
      map_readTaint_eq_iff.1 htaint⟩
    rw [hword, ← hname, String.toList_ofList]
  · intro h
    have hname : Column.name.read some (columns.map String.ofList) = .ok entry.name :=
      Column.read_eq_ok_iff.2 ⟨_, h.name, by rw [String.ofList_toList]⟩
    have hsize : Column.size.read readSize? (columns.map String.ofList) = .ok entry.size := by
      simpa only [Column.read_eq_ok_iff, Column.index, readSize?_eq_some_iff] using h.size
    have hrefcount : Column.refcount.read readRefcount? (columns.map String.ofList) =
        .ok entry.refcount := by
      simpa only [Column.read_eq_ok_iff, Column.index, readRefcount?_eq_some_iff] using h.refcount
    have hdependents : Column.dependents.read (some ∘ readDependents) (columns.map String.ofList) =
        .ok entry.dependents := by
      simpa only [Column.read_eq_ok_iff, Column.index, Function.comp_apply, Option.some.injEq,
        readDependents_eq_iff] using h.dependents
    have hstate : Column.state.read ModuleState.ofText? (columns.map String.ofList) =
        .ok entry.state := Column.read_eq_ok_iff.2 ⟨_, h.state, ofText?_eq_some_iff.2 rfl⟩
    have haddress : Column.address.read readAddress? (columns.map String.ofList) =
        .ok entry.address := by
      obtain ⟨digits, hfound, hnumeral⟩ := h.address
      exact Column.read_eq_ok_iff.2
        ⟨_, hfound, readAddress?_eq_some_iff.2 ⟨digits, rfl, hnumeral⟩⟩
    have htaint : (columns.map String.ofList)[6]?.map readTaint = entry.taint := by
      rw [List.getElem?_map]
      exact map_readTaint_eq_iff.2 h.taint
    rw [ModuleEntry.ofWords, hname, hsize, hrefcount, hdependents, hstate, haddress, htaint]
    rfl

theorem holds_of_ofWords {columns : List (List Char)} {entry : ModuleEntry}
    (h : ModuleEntry.ofWords (columns.map String.ofList) = .ok entry) (column : Column) :
    column.Holds columns := by
  obtain ⟨hname, hsize, hrefcount, hdependents, hstate, haddress, -⟩ := of_ofWords_eq_ok h
  cases column with
  | name => exact Column.holds_of_read Column.readBy_name hname
  | size => exact Column.holds_of_read Column.readBy_size hsize
  | refcount => exact Column.holds_of_read Column.readBy_refcount hrefcount
  | dependents => exact Column.holds_of_read Column.readBy_dependents hdependents
  | state => exact Column.holds_of_read Column.readBy_state hstate
  | address => exact Column.holds_of_read Column.readBy_address haddress

theorem not_blames_of_holds {columns : List (List Char)} (h : ∀ column : Column, column.Holds columns)
    (error : EntryError) : ¬ Blames columns error := by
  intro hb
  obtain ⟨column, hfails, -⟩ := hb
  exact (h column).not_fails hfails

theorem exists_ofWords_eq_ok_iff {columns : List (List Char)} :
    (∃ entry, ModuleEntry.ofWords (columns.map String.ofList) = .ok entry) ↔
      ∀ column : Column, column.Holds columns := by
  constructor
  · intro h
    obtain ⟨entry, hok⟩ := h
    exact holds_of_ofWords hok
  · intro h
    cases hp : ModuleEntry.ofWords (columns.map String.ofList) with
    | ok entry => exact ⟨entry, rfl⟩
    | error error => exact absurd (blames_of_ofWords hp) (not_blames_of_holds h error)

theorem ofWords_eq_error_iff {columns : List (List Char)} {error : EntryError} :
    ModuleEntry.ofWords (columns.map String.ofList) = .error error ↔ Blames columns error := by
  constructor
  · exact blames_of_ofWords
  · intro h
    cases hp : ModuleEntry.ofWords (columns.map String.ofList) with
    | ok entry => exact absurd h (not_blames_of_holds (holds_of_ofWords hp) error)
    | error other => rw [h.unique (blames_of_ofWords hp)]

/-- A line is an entry exactly if its first six runs are admitted, and then the entry that they
describe; otherwise the error blames the first of them that is missing or not admitted. -/
theorem parse_by_columns (line : String) :
    ∃ columns, (∀ runs, Runs line.toList runs ↔ runs = columns) ∧
      ((∃ entry, ModuleEntry.parse line = .ok entry) ↔ 6 ≤ columns.length ∧
        ∀ (column : Column) (word : List Char), columns[column.index]? = some word →
          column.Admits word) ∧
      (∀ entry : ModuleEntry, ModuleEntry.parse line = .ok entry ↔ entry.DescribedBy columns) ∧
      ∀ error, ModuleEntry.parse line = .error error ↔ Blames columns error :=
  ⟨words line.toList, fun _ => runs_iff,
    exists_ofWords_eq_ok_iff.trans Column.forall_holds_iff,
    fun _ => ofWords_eq_ok_iff, fun _ => ofWords_eq_error_iff⟩

example : ModuleEntry.parse "\tvrf +007 - ,a,,-,  Live 0x+0F )(x)) y" =
    .ok ⟨"vrf", 7, 0, ["a", "-"], .live, 15, some ")(x"⟩ := rfl

example : ModuleEntry.parse "vrf 7 4294967296 - Dead" = .error (.invalid .refcount "4294967296") :=
  rfl

end VrfPresence.Registry
