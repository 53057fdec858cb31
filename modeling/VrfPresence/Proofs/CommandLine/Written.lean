import VrfPresence.CommandLine

/-!
# Command lines that were written

An item of a command line, a value for an option or the wish for more records, can be written in
several ways. A line of written items is read back item by item, whatever way each was written
in, although a value in an argument of its own is looked at only when the next item comes.
-/

namespace VrfPresence.CommandLine

inductive Item
  | verbose
  | option (option : ValueOption) (value : String)
  deriving DecidableEq

/-- A text that is not taken for an option. -/
def IsPlain (text : String) : Prop := ∀ rest, text.toList = '-' :: rest → rest = []

/-- The arguments that an item is written in. -/
inductive Writes : Item → List String → Prop
  | verboseLetter : Writes .verbose ["-v"]
  | verboseName : Writes .verbose ["--verbose"]
  | attached (option : ValueOption) (value : String) :
      Writes (.option option value) ["--" ++ (Switch.option option).name ++ "=" ++ value]
  | apart (option : ValueOption) {value : String} (hv : IsPlain value) :
      Writes (.option option value) ["--" ++ (Switch.option option).name, value]
  | letterJoined {option : ValueOption} {letter : Char} {value : String}
      (hl : (Switch.option option).letter? = some letter) (hne : value ≠ "")
      (hv : value.toList.head? ≠ some '=') :
      Writes (.option option value) [String.ofList ('-' :: letter :: value.toList)]
  | letterAttached {option : ValueOption} {letter : Char}
      (hl : (Switch.option option).letter? = some letter) (value : String) :
      Writes (.option option value) [String.ofList ('-' :: letter :: '=' :: value.toList)]
  | letterApart {option : ValueOption} {letter : Char} {value : String}
      (hl : (Switch.option option).letter? = some letter) (hv : IsPlain value) :
      Writes (.option option value) [String.ofList ['-', letter], value]

inductive WritesAll : List Item → List String → Prop
  | nil : WritesAll [] []
  | cons {item : Item} {items : List Item} {words arguments : List String}
      (h : Writes item words) (ht : WritesAll items arguments) :
      WritesAll (item :: items) (words ++ arguments)

/-- What an item adds to what was given. -/
def Invocation.takeItem (given : Invocation) : Item → Except UsageError Invocation
  | .verbose =>
    if given.verbose then .error (.repeated (.flag .verbose)) else .ok { given with verbose := true }
  | .option option value => given.give option value

/-! ### Names and letters -/

theorem Switch.ofName?_name (switch : Switch) : Switch.ofName? switch.name.toList = some switch := by
  rcases switch with option | flag
  · cases option <;> decide
  · cases flag <;> decide

theorem Switch.ofLetter?_letter {switch : Switch} {letter : Char}
    (h : switch.letter? = some letter) : Switch.ofLetter? letter = some switch := by
  rcases switch with option | flag
  · cases option <;> cases h <;> decide
  · cases flag <;> cases h <;> decide

theorem Switch.letter_ne_dash {switch : Switch} {letter : Char}
    (h : switch.letter? = some letter) : letter ≠ '-' := by
  rintro rfl
  have hd := Switch.ofLetter?_letter h
  cases hd

theorem Switch.name_ne_nil (switch : Switch) : switch.name.toList ≠ [] := by
  rcases switch with option | flag
  · cases option <;> decide
  · cases flag <;> decide

theorem Switch.equals_not_mem_name (switch : Switch) : '=' ∉ switch.name.toList := by
  rcases switch with option | flag
  · cases option <;> decide
  · cases flag <;> decide

theorem splitEquals_append {name : List Char} (h : '=' ∉ name) (rest : List Char) :
    splitEquals (name ++ rest) = (name ++ (splitEquals rest).1, (splitEquals rest).2) := by
  have hname : ∀ c ∈ name, decide (c ≠ '=') = true := fun c hc =>
    decide_eq_true (fun he => h (he ▸ hc))
  rw [splitEquals, List.takeWhile_append_of_pos hname, List.dropWhile_append_of_pos hname]
  rfl

theorem splitEquals_attached (switch : Switch) (value : List Char) :
    splitEquals (switch.name.toList ++ '=' :: value) = (switch.name.toList, some value) := by
  rw [splitEquals_append (Switch.equals_not_mem_name switch)]
  simp [splitEquals]

theorem splitEquals_name (switch : Switch) :
    splitEquals switch.name.toList = (switch.name.toList, none) := by
  have hs := splitEquals_append (Switch.equals_not_mem_name switch) []
  rw [List.append_nil] at hs
  rw [hs]
  simp [splitEquals]

/-! ### Single arguments -/

theorem readFrom_long (progress : Progress) {argument : String} {text : List Char}
    (h : argument.toList = '-' :: '-' :: text) (hne : text ≠ []) (rest : List String) :
    readFrom progress (argument :: rest) =
      progress.takeLong (splitEquals text).1 (splitEquals text).2 >>= (readFrom · rest) := by
  obtain ⟨c, text, rfl⟩ := List.exists_cons_of_ne_nil hne
  rw [readFrom.eq_def]
  simp only [h]

theorem readFrom_letters (progress : Progress) {argument : String} {letter : Char}
    {letters : List Char} (h : argument.toList = '-' :: letter :: letters) (hl : letter ≠ '-')
    (rest : List String) :
    readFrom progress (argument :: rest) =
      progress.takeLetters (letter :: letters) >>= (readFrom · rest) := by
  rw [readFrom.eq_def]
  simp only [h]
  split
  case h_1 he => exact absurd (List.cons.inj (List.cons.inj he).2).1 hl
  case h_2 he => exact absurd (List.cons.inj (List.cons.inj he).2).1 hl
  case h_3 he =>
    obtain ⟨rfl, rfl⟩ := List.cons.inj (List.cons.inj he).2
    rfl
  case h_4 hn => exact absurd rfl (hn letter letters)

theorem readFrom_plain (progress : Progress) {argument : String} (h : IsPlain argument)
    (rest : List String) :
    readFrom progress (argument :: rest) =
      progress.takePlain argument >>= (readFrom · rest) := by
  rw [readFrom.eq_def]
  simp only
  split
  case h_1 he => cases h _ he
  case h_2 he => cases h _ he
  case h_3 he => cases h _ he
  case h_4 => rfl

/-! ### Steps of a line -/

section

variable {progress : Progress} {given after : Invocation} {option : ValueOption}

theorem Progress.attach_give (hs : progress.settle = .ok given) {value : String}
    (hg : given.give option value = .ok after) :
    progress.attach option value.toList = .ok { given := after } := by
  rw [attach, hs]
  show ((given.give option (String.ofList value.toList)).mapError Stop.usage >>= _) = _
  rw [String.ofList_toList, hg]
  rfl

theorem Progress.await_settle (hs : progress.settle = .ok given) (option : ValueOption) :
    progress.await option = .ok { given, awaiting := some (option, none) } := by
  rw [await, hs]
  rfl

theorem Progress.takeLong_attached (progress : Progress) (option : ValueOption)
    (value : List Char) :
    progress.takeLong (Switch.option option).name.toList (some value) =
      progress.attach option value := by
  simp only [takeLong, Switch.ofName?_name]

theorem Progress.takeLong_apart (progress : Progress) (option : ValueOption) :
    progress.takeLong (Switch.option option).name.toList none = progress.await option := by
  simp only [takeLong, Switch.ofName?_name]

theorem Progress.takeLetters_joined (progress : Progress) {letter : Char}
    (hl : (Switch.option option).letter? = some letter) {value : List Char} (hne : value ≠ [])
    (hv : value.head? ≠ some '=') :
    progress.takeLetters (letter :: value) = progress.attach option value := by
  rw [takeLetters, Switch.ofLetter?_letter hl]
  cases value with
  | nil => exact absurd rfl hne
  | cons c text =>
    have hc : c ≠ '=' := fun he => hv (congrArg some he)
    simp only
    split
    case h_1 he => cases he
    case h_2 he => exact absurd (List.cons.inj he).1 hc
    case h_3 => rfl

theorem Progress.takeLetters_attached (progress : Progress) {letter : Char}
    (hl : (Switch.option option).letter? = some letter) (value : List Char) :
    progress.takeLetters (letter :: '=' :: value) = progress.attach option value := by
  rw [takeLetters, Switch.ofLetter?_letter hl]
  rfl

theorem Progress.takeLetters_apart (progress : Progress) {letter : Char}
    (hl : (Switch.option option).letter? = some letter) :
    progress.takeLetters [letter] = progress.await option := by
  rw [takeLetters, Switch.ofLetter?_letter hl]

theorem Progress.raise_verbose (hs : progress.settle = .ok given)
    (hg : given.takeItem .verbose = .ok after) :
    progress.raise .verbose = .ok { given := after } := by
  rw [raise, hs]
  cases hv : given.verbose with
  | true =>
    rw [Invocation.takeItem, hv] at hg
    cases hg
  | false =>
    rw [Invocation.takeItem, hv] at hg
    obtain rfl := Except.ok.inj hg
    show (if given.verbose then _ else _) = _
    rw [hv]
    rfl

/-- The value waits in `awaiting`, and is settled when the next item comes. -/
theorem readFrom_apart (rest : List String) {value : String} (hv : IsPlain value)
    (hg : given.give option value = .ok after) :
    ∃ next : Progress, next.settle = .ok after ∧
      readFrom { given, awaiting := some (option, none) } (value :: rest) = readFrom next rest :=
  ⟨{ given, awaiting := some (option, some value) }, hg, readFrom_plain _ hv rest⟩

theorem readFrom_item {item : Item} {words : List String} (h : Writes item words)
    (hs : progress.settle = .ok given) (ht : given.takeItem item = .ok after) (rest : List String) :
    ∃ next : Progress, next.settle = .ok after ∧
      readFrom progress (words ++ rest) = readFrom next rest := by
  cases h with
  | verboseLetter =>
    have hr := Progress.raise_verbose hs ht
    refine ⟨{ given := after }, rfl, ?_⟩
    rw [List.singleton_append, readFrom_letters progress rfl (by decide)]
    show (progress.raise .verbose >>= fun next => next.takeLetters []) >>= _ = _
    rw [hr]
    rfl
  | verboseName =>
    have hr := Progress.raise_verbose hs ht
    refine ⟨{ given := after }, rfl, ?_⟩
    rw [List.singleton_append, readFrom_long progress rfl (by decide)]
    show progress.raise .verbose >>= _ = _
    rw [hr]
    rfl
  | attached option value =>
    have ha := Progress.attach_give hs ht
    have hl : ("--" ++ (Switch.option option).name ++ "=" ++ value).toList =
        '-' :: '-' :: ((Switch.option option).name.toList ++ '=' :: value.toList) := by simp
    refine ⟨{ given := after }, rfl, ?_⟩
    rw [List.singleton_append, readFrom_long progress hl (by simp), splitEquals_attached,
      Progress.takeLong_attached, ha]
    rfl
  | @apart option value hv =>
    have hl : ("--" ++ (Switch.option option).name).toList =
        '-' :: '-' :: (Switch.option option).name.toList := by simp
    obtain ⟨next, hn, hr⟩ := readFrom_apart rest hv ht
    refine ⟨next, hn, ?_⟩
    rw [← hr, List.cons_append, readFrom_long progress hl (Switch.name_ne_nil _), splitEquals_name,
      Progress.takeLong_apart, Progress.await_settle hs]
    rfl
  | @letterJoined option letter value hl hne hv =>
    have ha := Progress.attach_give hs ht
    refine ⟨{ given := after }, rfl, ?_⟩
    rw [List.singleton_append, readFrom_letters progress String.toList_ofList
      (Switch.letter_ne_dash hl), Progress.takeLetters_joined progress hl
      (mt String.toList_eq_nil_iff.1 hne) hv, ha]
    rfl
  | letterAttached hl value =>
    have ha := Progress.attach_give hs ht
    refine ⟨{ given := after }, rfl, ?_⟩
    rw [List.singleton_append, readFrom_letters progress String.toList_ofList
      (Switch.letter_ne_dash hl), Progress.takeLetters_attached progress hl, ha]
    rfl
  | @letterApart option letter value hl hv =>
    obtain ⟨next, hn, hr⟩ := readFrom_apart rest hv ht
    refine ⟨next, hn, ?_⟩
    rw [← hr, List.cons_append, readFrom_letters progress String.toList_ofList
      (Switch.letter_ne_dash hl), Progress.takeLetters_apart progress hl, Progress.await_settle hs]
    rfl

end

end VrfPresence.CommandLine
