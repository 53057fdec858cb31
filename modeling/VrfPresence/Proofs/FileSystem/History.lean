import VrfPresence.FileSystem.MemoryStore

/-!
# What a store answers after its making

A store is made by steps, each at a path. What it answers for a path depends only on the steps
at this path, whatever they are spelled like: whether one of them denied it, whether one made
it a directory, and the last text that was put there.
-/

namespace VrfPresence.FileSystem.MemoryStore

open VrfPresence.Path

/-! ### Making a store -/

inductive Step
  | directory (path : String)
  | file (path text : String)
  | deny (path : String)
  deriving DecidableEq, Repr

def Step.path : Step → String
  | .directory path => path
  | .file path _ => path
  | .deny path => path

def take (store : MemoryStore) : Step → MemoryStore
  | .directory path => store.addDirectory path
  | .file path text => store.addFile path text
  | .deny path => store.deny path

/-- The store after the steps of a history, in order. -/
def after (history : List Step) : MemoryStore := history.foldl take empty

/-! ### Steps at a path -/

def Step.isDenial (path : String) : Step → Bool
  | .deny other => same other path
  | _ => false

def Step.isDirectory (path : String) : Step → Bool
  | .directory other => same other path
  | _ => false

def Step.text? (path : String) : Step → Option String
  | .file other text => if same other path then some text else none
  | _ => none

/-- The texts that a history puts at the path, in order. -/
def textsAt (path : String) (history : List Step) : List String :=
  history.filterMap (·.text? path)

theorem isDenied_take (store : MemoryStore) (step : Step) (path : String) :
    (store.take step).isDenied path = (step.isDenial path || store.isDenied path) := by
  cases step with
  | directory other => rfl
  | file other text => rfl
  | deny other =>
    show (components path == components other || store.isDenied path) = _
    rw [BEq.comm]
    rfl

theorem isDirectory_take (store : MemoryStore) (step : Step) (path : String) :
    (store.take step).isDirectory path = (step.isDirectory path || store.isDirectory path) := by
  cases step with
  | directory other =>
    show (components path == components other || store.isDirectory path) = _
    rw [BEq.comm]
    rfl
  | file other text => rfl
  | deny other => rfl

theorem text?_take (store : MemoryStore) (step : Step) (path : String) :
    (store.take step).text? path = (step.text? path).or (store.text? path) := by
  cases step with
  | directory other => rfl
  | file other text =>
    show (match components path == components other with
      | true => some text
      | false => store.text? path) = _
    rw [BEq.comm, Step.text?, same]
    cases components other == components path <;> rfl
  | deny other => rfl

/-! ### Histories at a path -/

-- Stated for any store to start from: each step of the induction moves the start.

theorem isDenied_foldl (history : List Step) (store : MemoryStore) (path : String) :
    (history.foldl take store).isDenied path =
      (history.any (·.isDenial path) || store.isDenied path) := by
  induction history generalizing store with
  | nil => rfl
  | cons step history ih =>
    rw [List.foldl_cons, ih, isDenied_take, List.any_cons, Bool.or_assoc, Bool.or_left_comm]

theorem isDirectory_foldl (history : List Step) (store : MemoryStore) (path : String) :
    (history.foldl take store).isDirectory path =
      (history.any (·.isDirectory path) || store.isDirectory path) := by
  induction history generalizing store with
  | nil => rfl
  | cons step history ih =>
    rw [List.foldl_cons, ih, isDirectory_take, List.any_cons, Bool.or_assoc, Bool.or_left_comm]

theorem textsAt_cons (path : String) (step : Step) (history : List Step) :
    textsAt path (step :: history) = (step.text? path).toList ++ textsAt path history := by
  cases hs : step.text? path <;> simp [textsAt, hs]

theorem textsAt_append (path : String) (a b : List Step) :
    textsAt path (a ++ b) = textsAt path a ++ textsAt path b := List.filterMap_append

theorem text?_foldl (history : List Step) (store : MemoryStore) (path : String) :
    (history.foldl take store).text? path =
      (textsAt path history).getLast?.or (store.text? path) := by
  induction history generalizing store with
  | nil => rfl
  | cons step history ih =>
    have hs : (step.text? path).toList.getLast? = step.text? path := by
      cases step.text? path <;> rfl
    rw [List.foldl_cons, ih, text?_take, textsAt_cons, List.getLast?_append, hs, Option.or_assoc]

theorem isDenied_after (history : List Step) (path : String) :
    (after history).isDenied path = history.any (·.isDenial path) := by
  rw [after, isDenied_foldl]
  exact Bool.or_false _

theorem isDirectory_after (history : List Step) (path : String) :
    (after history).isDirectory path = history.any (·.isDirectory path) := by
  rw [after, isDirectory_foldl]
  exact Bool.or_false _

theorem text?_after (history : List Step) (path : String) :
    (after history).text? path = (textsAt path history).getLast? := by
  rw [after, text?_foldl]
  exact Option.or_none

/-! ### Answers -/

def SameAnswers (path : String) (a b : MemoryStore) : Prop :=
  a.pathExists path = b.pathExists path ∧ a.readText path = b.readText path

theorem sameAnswers_of_views {path : String} {a b : MemoryStore}
    (hdenied : a.isDenied path = b.isDenied path)
    (hdirectory : a.isDirectory path = b.isDirectory path)
    (htext : a.text? path = b.text? path) : SameAnswers path a b := by
  rw [SameAnswers, pathExists, pathExists, readText, readText, hdenied, hdirectory, htext]
  exact ⟨rfl, rfl⟩

theorem sameAnswers_of_perm {path : String} {history other : List Step} (hp : history.Perm other)
    (ht : textsAt path history = textsAt path other) :
    SameAnswers path (after history) (after other) := by
  apply sameAnswers_of_views
  · rw [isDenied_after, isDenied_after, hp.any_eq]
  · rw [isDirectory_after, isDirectory_after, hp.any_eq]
  · rw [text?_after, text?_after, ht]

/-- A step elsewhere is none of the steps at the path. -/
theorem not_at_of_elsewhere {path : String} {step : Step} (h : same step.path path = false) :
    step.isDenial path = false ∧ step.isDirectory path = false ∧ step.text? path = none := by
  cases step with
  | directory other => exact ⟨rfl, h, rfl⟩
  | file other text => exact ⟨rfl, rfl, if_neg (Bool.eq_false_iff.1 h)⟩
  | deny other => exact ⟨h, rfl, rfl⟩

theorem sameAnswers_of_elsewhere {path : String} {step : Step}
    (h : same step.path path = false) (before rest : List Step) :
    SameAnswers path (after (before ++ step :: rest)) (after (before ++ rest)) := by
  obtain ⟨hdenied, hdirectory, htext⟩ := not_at_of_elsewhere h
  apply sameAnswers_of_views
  · simp only [isDenied_after, List.any_append, List.any_cons, hdenied, Bool.false_or]
  · simp only [isDirectory_after, List.any_append, List.any_cons, hdirectory, Bool.false_or]
  · rw [text?_after, text?_after, textsAt_append, textsAt_append, textsAt_cons, htext]
    rfl

theorem exists_text?_iff (path : String) (history : List Step) :
    (textsAt path history).getLast?.isSome = true ↔
      ∃ step ∈ history, (step.text? path).isSome = true := by
  constructor
  · intro h
    obtain ⟨text, ht⟩ := Option.isSome_iff_exists.1 h
    have hm := List.mem_of_getLast? ht
    obtain ⟨step, hs, ht⟩ := List.mem_filterMap.1 hm
    exact ⟨step, hs, Option.isSome_of_eq_some ht⟩
  · rintro ⟨step, hs, ht⟩
    obtain ⟨text, ht⟩ := Option.isSome_iff_exists.1 ht
    have hm : text ∈ textsAt path history := List.mem_filterMap.2 ⟨step, hs, ht⟩
    rw [List.getLast?_isSome]
    exact List.ne_nil_of_mem hm

theorem failure_eq (kind : FailureKind) (path reason : String) :
    failure kind path reason = ⟨kind, path ++ (": " ++ reason)⟩ := by
  rw [failure, String.append_assoc]

/-- What a store answers for a path after its making: a denial wins over all else, a text over a
directory, and the last text over the others. Neither the order of the other steps nor steps
elsewhere matter. -/
theorem answers_after (history : List Step) (path : String) :
    ((∃ step ∈ history, step.isDenial path = true) →
      (after history).pathExists path =
        .error ⟨.permissionDenied, path ++ ": permission denied"⟩ ∧
      (after history).readText path =
        .error ⟨.permissionDenied, path ++ ": permission denied"⟩) ∧
    ((∀ step ∈ history, step.isDenial path = false) →
      (∃ found, (after history).pathExists path = .ok found ∧
        (found = true ↔ ∃ step ∈ history,
          step.isDirectory path = true ∨ (step.text? path).isSome = true)) ∧
      (∀ text, (textsAt path history).getLast? = some text →
        (after history).readText path = .ok text) ∧
      (textsAt path history = [] → (∃ step ∈ history, step.isDirectory path = true) →
        (after history).readText path = .error ⟨.other, path ++ ": is a directory"⟩) ∧
      (textsAt path history = [] → (∀ step ∈ history, step.isDirectory path = false) →
        (after history).readText path =
          .error ⟨.notFound, path ++ ": no such file or directory"⟩)) ∧
    (∀ other, history.Perm other → textsAt path history = textsAt path other →
      SameAnswers path (after history) (after other)) ∧
    ∀ before step rest, history = before ++ rest → same step.path path = false →
      SameAnswers path (after (before ++ step :: rest)) (after history) := by
  refine ⟨?denied, ?allowed, fun other hp ht => sameAnswers_of_perm hp ht, ?elsewhere⟩
  case denied =>
    intro h
    have hd : (after history).isDenied path = true := by
      rw [isDenied_after]
      exact List.any_eq_true.2 h
    rw [pathExists, readText, if_pos hd, if_pos hd, failure_eq]
    exact ⟨rfl, rfl⟩
  case allowed =>
    intro h
    have hd : ¬ (after history).isDenied path = true := by
      rw [isDenied_after, List.any_eq_true]
      rintro ⟨step, hm, hs⟩
      rw [h step hm] at hs
      cases hs
    have hread : (after history).readText path = _ := if_neg hd
    rw [hread, text?_after]
    refine ⟨⟨_, if_neg hd, ?_⟩, ?_, ?_, ?_⟩
    · rw [isDirectory_after, text?_after, Bool.or_eq_true, List.any_eq_true, exists_text?_iff,
        ← exists_or]
      exact exists_congr fun step => and_or_left.symm
    · intro text ht
      rw [ht]
    · intro ht hdirectory
      rw [ht, isDirectory_after, List.any_eq_true.2 hdirectory, failure_eq]
      rfl
    · intro ht hdirectory
      have hn : history.any (·.isDirectory path) = false :=
        List.any_eq_false.2 fun step hm => Bool.eq_false_iff.1 (hdirectory step hm)
      rw [ht, isDirectory_after, hn, failure_eq, failure_eq]
      rfl
  case elsewhere =>
    rintro before step rest rfl h
    exact sameAnswers_of_elsewhere h before rest

theorem answers_after_spellings :
    let steps : List Step := [.deny "c/.", .file "a//b" "1", .directory "a/b", .directory "c",
      .file "./a/b" "0", .file "a/./b/" "2"]
    let other : List Step := [.file "./a/b" "0", .file "a//b" "1", .directory "c",
      .file "a/./b/" "2", .directory "a/b", .deny "c/."]
    (after steps).pathExists "c" = .error ⟨.permissionDenied, "c: permission denied"⟩ ∧
      (after steps).readText "a/b" = .ok "2" ∧
      (steps.Perm other ∧ SameAnswers "a/b" (after steps) (after other)) ∧
      (same "./a/b" "a/b" = false ∧
        SameAnswers "a/b" (after (.deny "./a/b" :: steps)) (after steps)) := by
  intro steps other
  have hc : ∃ step ∈ steps, step.isDenial "c" = true := by decide
  have hab : ∀ step ∈ steps, step.isDenial "a/b" = false := by decide
  have hlast : (textsAt "a/b" steps).getLast? = some "2" := by decide
  have hperm : steps.Perm other := by decide
  have htexts : textsAt "a/b" steps = textsAt "a/b" other := by decide
  have helse : same "./a/b" "a/b" = false := by decide
  have hsteps := answers_after steps "a/b"
  exact ⟨((answers_after steps "c").1 hc).1, (hsteps.2.1 hab).2.1 "2" hlast,
    ⟨hperm, hsteps.2.2.1 other hperm htexts⟩,
    helse, hsteps.2.2.2 [] (.deny "./a/b") steps rfl helse⟩

end VrfPresence.FileSystem.MemoryStore
