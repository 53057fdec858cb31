import VrfPresence.Probe

/-!
# Startup policy (`startup`)

What a daemon does with the outcome of the probe. A detection always proceeds. A failure
aborts or degrades: `strict` aborts on every failure, `lenient` only on a confirmed absence,
`warn` on none (SPEC_FULL.md 4.4, lines 149-159). The exit code tells a service manager which
kind of abort it was.
-/

namespace VrfPresence

/-! ### Policies -/

/-- How failures of the probe are met. -/
inductive Policy
  | strict
  | lenient
  | warn
  deriving DecidableEq, Repr

namespace Policy

/-- The policy where none is chosen. -/
def standard : Policy := .strict

def all : List Policy := [.strict, .lenient, .warn]

def name : Policy → String
  | .strict => "strict"
  | .lenient => "lenient"
  | .warn => "warn"

def ofName? (text : String) : Option Policy := all.find? (·.name == text)

structure Unknown where
  text : String
  deriving DecidableEq, Repr

def Unknown.message (unknown : Unknown) : String :=
  "unknown policy " ++ Text.quote unknown.text ++ ", expected one of strict, lenient, warn"

def parse (text : String) : Except Unknown Policy :=
  match ofName? text with
  | some policy => .ok policy
  | none => .error ⟨text⟩

end Policy

/-! ### Verdicts -/

/-- What the daemon does: start in full, start without VRF-scoped features, or not start. -/
inductive Verdict
  | proceed (detection : Detection)
  | degrade (failure : ProbeFailure)
  | abort (failure : ProbeFailure)
  deriving DecidableEq, Repr

def Policy.apply (policy : Policy) : Outcome → Verdict
  | .ok detection => .proceed detection
  | .error failure =>
    match policy with
    | .strict => .abort failure
    | .lenient => if failure.isInconclusive then .degrade failure else .abort failure
    | .warn => .degrade failure

/-- The outcome that a verdict was passed on. -/
def Verdict.outcome : Verdict → Outcome
  | .proceed detection => .ok detection
  | .degrade failure => .error failure
  | .abort failure => .error failure

/-- Zero unless startup aborts: one on a confirmed absence, two when the probe did not get to
know (`exit_code`, SPEC_FULL.md 4.5, lines 168-169). -/
def Verdict.exitCode : Verdict → UInt8
  | .proceed _ => 0
  | .degrade _ => 0
  | .abort .notLoaded => 1
  | .abort (.inconclusive _) => 2

/-! ### Laws -/

theorem Policy.ofName?_name (policy : Policy) : Policy.ofName? policy.name = some policy := by
  cases policy <;> decide

theorem Policy.parse_eq_ok_iff {text : String} {policy : Policy} :
    Policy.parse text = .ok policy ↔ policy.name = text := by
  constructor
  · intro h
    unfold Policy.parse at h
    split at h
    · rename_i found hf
      obtain rfl := Except.ok.inj h
      simpa using List.find?_some hf
    · cases h
  · rintro rfl
    rw [Policy.parse, Policy.ofName?_name]

theorem Policy.name_injective {a b : Policy} (h : a.name = b.name) : a = b := by
  have ha := Policy.ofName?_name a
  rw [h, Policy.ofName?_name] at ha
  exact (Option.some.inj ha).symm

theorem Policy.outcome_apply (policy : Policy) (outcome : Outcome) :
    (policy.apply outcome).outcome = outcome := by
  cases outcome with
  | ok detection => rfl
  | error failure => cases policy <;> cases failure <;> rfl

end VrfPresence
