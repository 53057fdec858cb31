import VrfPresence.FileSystem.Script

/-!
# What a computation asks

On scripted answers a computation leaves the list of its calls. What holds of all its calls, and
of its value should it come to one, is found step by step: the calls of a chain are those of its
first step and those of the rest, which starts from a value of the first.
-/

namespace VrfPresence.FileSystem

/-- Every call of the computation is of the first kind, and its value of the second. -/
structure Asks {α : Type} (P : Call → Prop) (Q : α → Prop) (x : Recorded α) : Prop where
  calls (before : List Call) : ∀ call ∈ (x.run.run before).run.2, call ∈ before ∨ P call
  value (before : List Call) (a : α) (h : (x.run.run before).run.1 = .ok a) : Q a

variable {α β : Type} {P : Call → Prop} {Q : α → Prop} {R : β → Prop}

theorem run_bind (x : Recorded α) (f : α → Recorded β) (before : List Call) :
    ((x >>= f).run.run before).run = match (x.run.run before).run with
      | (.ok a, calls) => ((f a).run.run calls).run
      | (.error crash, calls) => (.error crash, calls) := by
  simp only [ExceptT.run_bind, StateT.run_bind]
  cases hr : (x.run.run before).run with
  | mk result calls =>
    have hx : x.run.run before = pure (result, calls) := hr
    rw [hx, pure_bind]
    cases result <;> rfl

theorem Asks.pure {a : α} (h : Q a) : Asks P Q (Pure.pure a : Recorded α) where
  calls before call hc := .inl hc
  value before b hb := by
    obtain rfl := Except.ok.inj hb
    exact h

theorem Asks.bind {x : Recorded α} {f : α → Recorded β} (hx : Asks P Q x)
    (hf : ∀ a, Q a → Asks P R (f a)) : Asks P R (x >>= f) where
  calls before call hc := by
    rw [run_bind] at hc
    cases hr : (x.run.run before).run with
    | mk result calls =>
      rw [hr] at hc
      cases result with
      | error crash => exact hx.calls before call (by rw [hr]; exact hc)
      | ok a =>
        have ha := hx.value before a (by rw [hr])
        rcases (hf a ha).calls calls call hc with hc | hp
        · exact hx.calls before call (by rw [hr]; exact hc)
        · exact .inr hp
  value before b hb := by
    rw [run_bind] at hb
    cases hr : (x.run.run before).run with
    | mk result calls =>
      rw [hr] at hb
      cases result with
      | error crash => cases hb
      | ok a => exact (hf a (hx.value before a (by rw [hr]))).value calls b hb

theorem Asks.give {call : Call} (h : P call) (reply : Reply α) :
    Asks P (fun _ => True) (reply.give call) where
  calls before other hc := by
    have hlog : ((reply.give call).run.run before).run.2 = before ++ [call] := by
      cases reply <;> rfl
    rw [hlog, List.mem_append, List.mem_singleton] at hc
    rcases hc with hc | rfl
    · exact .inl hc
    · exact .inr h
  value _ _ _ := trivial

end VrfPresence.FileSystem
