import VrfPresence.Proofs.CommandLine.Written
import VrfPresence.Proofs.Failure

/-!
# The language of command lines

A whole line is made of written items. The letter of the flag may be put in front of other
letters in one argument, and two dashes may end the line. Reading accepts these lines and no
others, as long as no item is refused: what a progress still awaits, together with the arguments
that are left, is such a line at every step.
-/

namespace VrfPresence.CommandLine

/-- The arguments of a line with these items. -/
inductive WritesLine : List Item → List String → Prop
  | nil : WritesLine [] []
  | ended : WritesLine [] ["--"]
  | cons {item : Item} {items : List Item} {words arguments : List String}
      (h : Writes item words) (ht : WritesLine items arguments) :
      WritesLine (item :: items) (words ++ arguments)
  | grouped {items : List Item} {letter : Char} {text : List Char} {arguments : List String}
      (hl : letter ≠ '-')
      (ht : WritesLine items (String.ofList ('-' :: letter :: text) :: arguments)) :
      WritesLine (.verbose :: items) (String.ofList ('-' :: 'v' :: letter :: text) :: arguments)

theorem WritesAll.line {items : List Item} {arguments : List String}
    (h : WritesAll items arguments) : WritesLine items arguments := by
  induction h with
  | nil => exact .nil
  | cons hw _ ih => exact .cons hw ih

/-! ### Written lines are read -/

theorem readFrom_ended (progress : Progress) : readFrom progress ["--"] = readFrom progress [] := by
  rw [readFrom, readFrom]
  rfl

theorem readFrom_grouped (progress : Progress) {letter : Char} (hl : letter ≠ '-')
    (text : List Char) (rest : List String) :
    readFrom progress (String.ofList ('-' :: 'v' :: letter :: text) :: rest) =
      progress.raise .verbose >>=
        (readFrom · (String.ofList ('-' :: letter :: text) :: rest)) := by
  rw [readFrom_letters progress String.toList_ofList (by decide)]
  show ((progress.raise .verbose >>= fun next => next.takeLetters (letter :: text)) >>= _) = _
  rw [bind_assoc]
  refine bind_congr fun next => ?_
  rw [readFrom_letters next String.toList_ofList hl]

theorem readFrom_line {items : List Item} {line : List String} (h : WritesLine items line)
    {progress : Progress} {given after : Invocation} (hs : progress.settle = .ok given)
    (ht : items.foldlM Invocation.takeItem given = .ok after) :
    readFrom progress line = .ok after := by
  have hnil : ∀ {progress : Progress} {given : Invocation}, progress.settle = .ok given →
      readFrom progress [] = .ok given := by
    intro progress given hs
    rw [readFrom, hs]
    rfl
  induction h generalizing progress given with
  | nil =>
    obtain rfl := Except.ok.inj ht
    exact hnil hs
  | ended =>
    obtain rfl := Except.ok.inj ht
    rw [readFrom_ended]
    exact hnil hs
  | @cons item items words arguments hw _ ih =>
    obtain ⟨middle, hi, ht⟩ := of_bind_eq_ok ht
    obtain ⟨next, hn, hr⟩ := readFrom_item hw hs hi arguments
    rw [hr]
    exact ih hn ht
  | @grouped items letter text arguments hl _ ih =>
    obtain ⟨middle, hi, ht⟩ := of_bind_eq_ok ht
    rw [readFrom_grouped progress hl, Progress.raise_verbose hs hi]
    exact ih rfl ht

/-! ### What a step takes -/

section

variable {progress next : Progress}

theorem Progress.of_raise_eq_ok {flag : Flag} (h : progress.raise flag = .ok next) :
    flag = .verbose ∧ ∃ given after, progress.settle = .ok given ∧
      given.takeItem .verbose = .ok after ∧ next = { given := after } := by
  obtain ⟨given, hs, h⟩ := of_bind_eq_ok h
  cases flag with
  | help => cases h
  | version => cases h
  | verbose =>
    refine ⟨rfl, given, ?_⟩
    cases hv : given.verbose with
    | true =>
      simp only [hv] at h
      cases h
    | false =>
      simp only [hv] at h
      cases h
      exact ⟨_, of_mapError_eq_ok hs, by rw [Invocation.takeItem, hv]; rfl, rfl⟩

theorem Progress.of_attach_eq_ok {option : ValueOption} {value : List Char}
    (h : progress.attach option value = .ok next) :
    ∃ given after, progress.settle = .ok given ∧
      given.takeItem (.option option (String.ofList value)) = .ok after ∧
      next = { given := after } := by
  obtain ⟨given, hs, h⟩ := of_bind_eq_ok h
  obtain ⟨after, hg, h⟩ := of_bind_eq_ok h
  cases h
  exact ⟨given, after, of_mapError_eq_ok hs, of_mapError_eq_ok hg, rfl⟩

theorem Progress.of_await_eq_ok {option : ValueOption} (h : progress.await option = .ok next) :
    ∃ given, progress.settle = .ok given ∧ next = { given, awaiting := some (option, none) } := by
  obtain ⟨given, hs, h⟩ := of_bind_eq_ok h
  cases h
  exact ⟨given, of_mapError_eq_ok hs, rfl⟩

theorem Progress.of_takePlain_eq_ok {argument : String}
    (h : progress.takePlain argument = .ok next) :
    ∃ option, progress.awaiting = some (option, none) ∧
      next = { progress with awaiting := some (option, some argument) } := by
  unfold takePlain at h
  split at h
  · rename_i option ha
    cases h
    exact ⟨option, ha, rfl⟩
  · cases h

end

theorem Switch.name_of_ofName? {name : List Char} {switch : Switch}
    (h : Switch.ofName? name = some switch) : name = switch.name.toList := by
  have hn := List.find?_some h
  exact (eq_of_beq hn).symm

theorem Switch.letter_of_ofLetter? {letter : Char} {switch : Switch}
    (h : Switch.ofLetter? letter = some switch) : switch.letter? = some letter := by
  have hl := List.find?_some h
  exact eq_of_beq hl

theorem eq_of_splitEquals (text : List Char) :
    text = (splitEquals text).1 ++ match (splitEquals text).2 with
      | some value => '=' :: value
      | none => [] := by
  have ht := List.takeWhile_append_dropWhile (p := (· ≠ '=')) (l := text)
  cases hd : text.dropWhile (· ≠ '=') with
  | nil =>
    rw [hd] at ht
    simp only [splitEquals, hd]
    exact ht.symm
  | cons c rest =>
    have hc := List.head?_dropWhile_not (· ≠ '=') text
    rw [hd] at hc
    obtain rfl : c = '=' := by simpa using hc
    rw [hd] at ht
    simp only [splitEquals, hd]
    exact ht.symm

/-! ### Lines that are read were written -/

/-- The items and arguments still to come behind a progress: an option that awaits its value has it
in the next argument. -/
inductive Remains : Option (ValueOption × Option String) → List Item → List String → Prop
  | settled {items : List Item} {line : List String} (h : WritesLine items line) :
      Remains none items line
  | met {items : List Item} {line : List String} (option : ValueOption) (value : String)
      (h : WritesLine items line) :
      Remains (some (option, some value)) (.option option value :: items) line
  | awaited {items : List Item} {line : List String} (option : ValueOption) {value : String}
      (hv : IsPlain value) (h : WritesLine items line) :
      Remains (some (option, none)) (.option option value :: items) (value :: line)

/-- The line is the rest of an accepted one. -/
def Accepts (progress : Progress) (line : List String) (invocation : Invocation) : Prop :=
  ∃ items, Remains progress.awaiting items line ∧
    items.foldlM Invocation.takeItem progress.given = .ok invocation

theorem accepts_of_settle {progress : Progress} {given invocation : Invocation}
    {items : List Item} {line : List String} (hs : progress.settle = .ok given)
    (h : WritesLine items line) (ht : items.foldlM Invocation.takeItem given = .ok invocation) :
    Accepts progress line invocation := by
  obtain ⟨given', awaiting⟩ := progress
  match awaiting, hs with
  | none, hs =>
    obtain rfl := Except.ok.inj hs
    exact ⟨items, .settled h, ht⟩
  | some (option, some value), hs =>
    refine ⟨.option option value :: items, .met option value h, ?_⟩
    rw [List.foldlM_cons, Invocation.takeItem, show given'.give option value = .ok given from hs]
    exact ht

theorem Accepts.of_given {given invocation : Invocation} {line : List String}
    (h : Accepts { given } line invocation) :
    ∃ items, WritesLine items line ∧ items.foldlM Invocation.takeItem given = .ok invocation := by
  obtain ⟨items, hr, ht⟩ := h
  cases hr with
  | settled h => exact ⟨items, h, ht⟩

theorem Accepts.of_awaiting {given invocation : Invocation} {option : ValueOption}
    {line : List String} (h : Accepts { given, awaiting := some (option, none) } line invocation) :
    ∃ value items rest, line = value :: rest ∧ IsPlain value ∧ WritesLine items rest ∧
      (.option option value :: items).foldlM Invocation.takeItem given = .ok invocation := by
  obtain ⟨items, hr, ht⟩ := h
  cases hr with
  | @awaited items rest option value hv h => exact ⟨value, items, rest, rfl, hv, h, ht⟩

theorem accepts_of_take {progress : Progress} {given after invocation : Invocation} {item : Item}
    {rest line : List String} (hs : progress.settle = .ok given)
    (hi : given.takeItem item = .ok after)
    (hw : ∀ {items}, WritesLine items rest → WritesLine (item :: items) line)
    (h : Accepts { given := after } rest invocation) : Accepts progress line invocation := by
  obtain ⟨items, hl, ht⟩ := h.of_given
  refine accepts_of_settle hs (hw hl) ?_
  rw [List.foldlM_cons, hi]
  exact ht

theorem argument_cases (argument : String) :
    argument = "--" ∨ (∃ text, text ≠ [] ∧ argument.toList = '-' :: '-' :: text) ∨
      (∃ letter letters, letter ≠ '-' ∧ argument.toList = '-' :: letter :: letters) ∨
      IsPlain argument := by
  cases ha : argument.toList with
  | nil =>
    refine .inr (.inr (.inr fun rest hr => ?_))
    rw [ha] at hr
    cases hr
  | cons c text =>
    by_cases hc : c = '-'
    · subst hc
      match text, ha with
      | [], ha =>
        refine .inr (.inr (.inr fun rest hr => ?_))
        rw [ha] at hr
        exact (List.cons.inj hr).2.symm
      | letter :: letters, ha =>
        by_cases hl : letter = '-'
        · subst hl
          by_cases hn : letters = []
          · rw [hn] at ha
            exact .inl (String.toList_inj.1 ha)
          · exact .inr (.inl ⟨letters, hn, rfl⟩)
        · exact .inr (.inr (.inl ⟨letter, letters, hl, rfl⟩))
    · refine .inr (.inr (.inr fun rest hr => absurd ?_ hc))
      rw [ha] at hr
      exact (List.cons.inj hr).1

section

variable {progress : Progress} {invocation : Invocation} {argument : String} {rest : List String}
  (hrest : ∀ next, readFrom next rest = .ok invocation → Accepts next rest invocation)

include hrest

theorem accepts_raise {flag : Flag} (hw : flag = .verbose → Writes .verbose [argument])
    (h : progress.raise flag >>= (readFrom · rest) = .ok invocation) :
    Accepts progress (argument :: rest) invocation := by
  obtain ⟨next, hr, h⟩ := of_bind_eq_ok h
  obtain ⟨hflag, given, after, hs, hi, rfl⟩ := Progress.of_raise_eq_ok hr
  exact accepts_of_take hs hi (.cons (hw hflag)) (hrest _ h)

theorem accepts_attach {option : ValueOption} {value : List Char}
    (hw : Writes (.option option (String.ofList value)) [argument])
    (h : progress.attach option value >>= (readFrom · rest) = .ok invocation) :
    Accepts progress (argument :: rest) invocation := by
  obtain ⟨next, ha, h⟩ := of_bind_eq_ok h
  obtain ⟨given, after, hs, hi, rfl⟩ := Progress.of_attach_eq_ok ha
  exact accepts_of_take hs hi (.cons hw) (hrest _ h)

theorem accepts_await {option : ValueOption}
    (hw : ∀ value, IsPlain value → Writes (.option option value) [argument, value])
    (h : progress.await option >>= (readFrom · rest) = .ok invocation) :
    Accepts progress (argument :: rest) invocation := by
  obtain ⟨next, ha, h⟩ := of_bind_eq_ok h
  obtain ⟨given, hs, rfl⟩ := Progress.of_await_eq_ok ha
  obtain ⟨value, items, line, rfl, hv, hl, ht⟩ := (hrest _ h).of_awaiting
  exact accepts_of_settle hs (.cons (hw value hv) hl) ht

theorem accepts_plain (hp : IsPlain argument)
    (h : progress.takePlain argument >>= (readFrom · rest) = .ok invocation) :
    Accepts progress (argument :: rest) invocation := by
  obtain ⟨next, ha, h⟩ := of_bind_eq_ok h
  obtain ⟨option, hawaiting, rfl⟩ := Progress.of_takePlain_eq_ok ha
  obtain ⟨items, hr, ht⟩ := hrest _ h
  cases hr with
  | @met items line option value hl =>
    refine ⟨.option option argument :: items, ?_, ht⟩
    rw [hawaiting]
    exact .awaited option hp hl

theorem accepts_long {text : List Char} (ha : argument.toList = '-' :: '-' :: text)
    (h : progress.takeLong (splitEquals text).1 (splitEquals text).2 >>= (readFrom · rest) =
      .ok invocation) :
    Accepts progress (argument :: rest) invocation := by
  have htext := eq_of_splitEquals text
  have hargument : argument = "--" ++ String.ofList text := String.toList_inj.1 (by simp [ha])
  rw [hargument]
  cases hn : Switch.ofName? (splitEquals text).1 with
  | none =>
    simp only [Progress.takeLong, hn] at h
    cases h
  | some switch =>
    have hname := Switch.name_of_ofName? hn
    cases hv : (splitEquals text).2 with
    | none =>
      have hwords : "--" ++ String.ofList text = "--" ++ switch.name := by
        rw [htext, hv, hname, List.append_nil, String.ofList_toList]
      simp only [Progress.takeLong, hn, hv] at h
      rw [hwords]
      cases switch with
      | option option => exact accepts_await hrest (fun value hp => .apart option hp) h
      | flag flag =>
        refine accepts_raise hrest (fun hf => ?_) h
        subst hf
        exact .verboseName
    | some value =>
      have hwords : "--" ++ String.ofList text =
          "--" ++ switch.name ++ "=" ++ String.ofList value := by
        rw [htext, hv, hname]
        exact String.toList_inj.1 (by simp)
      simp only [Progress.takeLong, hn, hv] at h
      rw [hwords]
      cases switch with
      | option option => exact accepts_attach hrest (.attached option _) h
      | flag flag => cases h

theorem accepts_letters {letters : List Char} (hne : letters ≠ [])
    (h : progress.takeLetters letters >>= (readFrom · rest) = .ok invocation) :
    Accepts progress (String.ofList ('-' :: letters) :: rest) invocation := by
  -- a flag leaves fewer letters, which are an argument of their own; an option ends them
  induction letters generalizing progress with
  | nil => exact absurd rfl hne
  | cons letter letters ih =>
    rw [Progress.takeLetters] at h
    cases hl : Switch.ofLetter? letter with
    | none =>
      simp only [hl] at h
      cases h
    | some switch =>
      have hletter := Switch.letter_of_ofLetter? hl
      simp only [hl] at h
      cases switch with
      | flag flag =>
        simp only [bind_assoc] at h
        cases letters with
        | nil =>
          refine accepts_raise hrest (fun hf => ?_) h
          subst hf
          obtain rfl := Option.some.inj hletter
          exact .verboseLetter
        | cons second letters =>
          obtain ⟨next, hr, h⟩ := of_bind_eq_ok h
          obtain ⟨rfl, given, after, hs, hi, rfl⟩ := Progress.of_raise_eq_ok hr
          obtain rfl := Option.some.inj hletter
          have hsecond : second ≠ '-' := by
            rintro rfl
            cases h
          exact accepts_of_take hs hi (.grouped hsecond) (ih (List.cons_ne_nil _ _) h)
      | option option =>
        simp only at h
        split at h
        · exact accepts_await hrest (fun value hp => .letterApart hletter hp) h
        · rename_i value
          have hw := Writes.letterAttached hletter (String.ofList value)
          rw [String.toList_ofList] at hw
          exact accepts_attach hrest hw h
        · rename_i hnil hequals
          have hhead : (String.ofList letters).toList.head? ≠ some '=' := by
            rw [String.toList_ofList]
            intro he
            obtain ⟨value, hv⟩ := List.head?_eq_some_iff.1 he
            exact hequals value hv
          have hw := Writes.letterJoined hletter (mt String.ofList_eq_empty_iff.1 hnil) hhead
          rw [String.toList_ofList] at hw
          exact accepts_attach hrest hw h

end

theorem accepts_of_readFrom {arguments : List String} {progress : Progress}
    {invocation : Invocation} (h : readFrom progress arguments = .ok invocation) :
    Accepts progress arguments invocation := by
  induction arguments generalizing progress with
  | nil =>
    rw [readFrom] at h
    exact accepts_of_settle (of_mapError_eq_ok h) .nil rfl
  | cons argument rest ih =>
    rcases argument_cases argument with rfl | ⟨text, hne, ha⟩ | ⟨letter, letters, hl, ha⟩ | hp
    · cases rest with
      | nil =>
        rw [readFrom_ended, readFrom] at h
        exact accepts_of_settle (of_mapError_eq_ok h) .ended rfl
      | cons stray rest => cases h
    · rw [readFrom_long progress ha hne] at h
      exact accepts_long (fun _ => ih) ha h
    · rw [readFrom_letters progress ha hl] at h
      rw [← String.ofList_toList (s := argument), ha]
      exact accepts_letters (fun _ => ih) (List.cons_ne_nil _ _) h
    · rw [readFrom_plain progress hp] at h
      exact accepts_plain (fun _ => ih) hp h

/-- What reading accepts: lines of items that can be taken one after the other. -/
theorem read_eq_ok_iff {line : List String} {invocation : Invocation} :
    read line = .ok invocation ↔
      ∃ items, WritesLine items line ∧ items.foldlM Invocation.takeItem {} = .ok invocation := by
  constructor
  · exact fun h => (accepts_of_readFrom h).of_given
  · rintro ⟨items, hw, ht⟩
    exact readFrom_line hw rfl ht

end VrfPresence.CommandLine
