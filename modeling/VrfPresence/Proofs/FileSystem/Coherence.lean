import Mathlib.Data.List.Basic
import VrfPresence.FileSystem.MemoryStore
import VrfPresence.FileSystem.Tree

/-!
# The two questions together

Whether a path exists and what it holds are asked apart, and the answers fit together: the path that
is missing to one question is missing to the other, what keeps presence from being determined keeps
the text from being read in the same way, and only what exists can be read. So it is with a store in
memory, and with a tree in which paths lead through links.

In a tree one resolution of the path serves both questions, and the law is about what they make of
its end (`CoherentAt.of_resolved`). It does not depend on how paths are resolved: a tree knows nothing
of what lies outside its working directory, but with a root, where absolute paths and absolute links
lead somewhere, the answers would fit together in the same way.
-/

namespace VrfPresence.FileSystem

/-! ### Answers that fit together -/

structure CoherentAt (found : Except AccessError Bool) (held : Except AccessError String) : Prop where
  missing_iff : (∃ e, held = .error e ∧ e.kind = .notFound) ↔ found = .ok false
  failed : ∀ e, found = .error e → ∃ cause, held = .error cause ∧ cause.kind = e.kind
  readable : ∀ text, held = .ok text → found = .ok true

def Reader.Coherent (reader : Reader Id) : Prop :=
  ∀ path, CoherentAt (reader.pathExists path).run (reader.readText path).run

theorem CoherentAt.of_missing {e : AccessError} (h : e.kind = .notFound) :
    CoherentAt (.ok false) (.error e) := by
  constructor <;> simp [h]

theorem CoherentAt.of_text (text : String) : CoherentAt (.ok true) (.ok text) := by
  constructor <;> simp

/-- It exists but is no text. -/
theorem CoherentAt.of_unreadable {e : AccessError} (h : e.kind ≠ .notFound) :
    CoherentAt (.ok true) (.error e) := by
  constructor <;> simp [h]

/-- Whether it exists is not known. -/
theorem CoherentAt.of_failure {e : AccessError} (h : e.kind ≠ .notFound) :
    CoherentAt (.error e) (.error e) := by
  constructor <;> simp [h]

/-! ### The two file systems -/

theorem MemoryStore.coherent (store : MemoryStore) : store.reader.Coherent := by
  intro path
  show CoherentAt (store.pathExists path) (store.readText path)
  unfold MemoryStore.pathExists MemoryStore.readText
  by_cases hd : store.isDenied path = true
  · rw [if_pos hd, if_pos hd]
    exact .of_failure (by simp [failure])
  · rw [if_neg hd, if_neg hd]
    cases store.text? path with
    | some text =>
      rw [Option.isSome_some, Bool.or_true]
      exact .of_text text
    | none =>
      rw [Option.isSome_none, Bool.or_false]
      cases store.isDirectory path with
      | true => exact .of_unreadable (by simp [failure])
      | false => exact .of_missing rfl

/-- Whatever a path was resolved to, and in whatever way. -/
theorem CoherentAt.of_resolved (resolved : Except AccessError Node) :
    CoherentAt (existence resolved) (content resolved) := by
  cases resolved with
  | ok node =>
    cases node with
    | directory => exact .of_unreadable (by simp [directoryText])
    | link target => exact .of_unreadable (by simp [directoryText])
    | file text =>
      cases text with
      | some text => exact .of_text text
      | none => exact .of_unreadable (by simp [notText])
  | error e =>
    by_cases he : e.kind = .notFound
    · simp only [existence, if_pos he]
      exact .of_missing he
    · simp only [existence, if_neg he]
      exact .of_failure he

theorem Tree.coherent (tree : Tree) : tree.reader.Coherent := fun path =>
  .of_resolved (tree.resolve path)

/-- In every store and in every tree, the two questions fit together at every path. -/
theorem coherent_readers :
    (∀ store : MemoryStore, store.reader.Coherent) ∧ ∀ tree : Tree, tree.reader.Coherent :=
  ⟨MemoryStore.coherent, Tree.coherent⟩

/-- A link to nothing, a link to itself, a file with a slash behind it, and a directory. -/
example :
    let tree : Tree := ⟨[([['d']], .directory), ([['f']], .file (some "vrf 1")),
      ([['g']], .link "d/vrf"), ([['h']], .link "h")]⟩
    (tree.pathExists "g" = .ok false ∧ tree.readText "g" = .error missing) ∧
      (tree.pathExists "h" = .error linksTooDeep ∧ tree.readText "h" = .error linksTooDeep) ∧
      (tree.pathExists "f/" = .error notDirectory ∧ tree.readText "f/" = .error notDirectory) ∧
      tree.pathExists "d" = .ok true ∧ tree.readText "d" = .error directoryText := by decide

end VrfPresence.FileSystem
