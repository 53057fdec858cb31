import Mathlib.Data.List.Infix
import VrfPresence.Policy
import VrfPresence.Proofs.Text.Quoting

/-!
# Unknown policies

A text that names no policy is refused with a message that quotes it. The message stays on its line
and has no control characters, and the text can be read off it, so that no two refused texts have
one message.
-/

namespace VrfPresence.Policy

open Text (IsControl)

/-! ### Refused texts -/

theorem parse_eq_error_iff {text : String} {unknown : Unknown} :
    Policy.parse text = .error unknown ↔
      unknown = ⟨text⟩ ∧ ∀ policy : Policy, text ≠ policy.name := by
  cases hn : Policy.ofName? text with
  | some policy =>
    have hp : Policy.parse text = .ok policy := by rw [Policy.parse, hn]
    constructor
    · intro h
      rw [hp] at h
      cases h
    · intro h
      exact absurd (Policy.parse_eq_ok_iff.1 hp).symm (h.2 policy)
  | none =>
    have hp : Policy.parse text = .error ⟨text⟩ := by rw [Policy.parse, hn]
    constructor
    · intro h
      rw [hp] at h
      refine ⟨(Except.error.inj h).symm, fun policy hname => ?_⟩
      rw [Policy.parse_eq_ok_iff.2 hname.symm] at hp
      cases hp
    · intro h
      rw [hp, h.1]

/-! ### What stands in the message -/

theorem Unknown.toList_message (unknown : Unknown) :
    unknown.message.toList = "unknown policy ".toList ++ ((Text.quote unknown.text).toList ++
      ", expected one of strict, lenient, warn".toList) := by
  -- by definition; to unfold the message with `rw` takes seconds for its literals
  show ("unknown policy " ++ Text.quote unknown.text ++
    ", expected one of strict, lenient, warn").toList = _
  rw [String.toList_append, String.toList_append, List.append_assoc]

theorem Unknown.isInvisible_of_mem_message (unknown : Unknown) :
    ∀ c ∈ unknown.message.toList, Text.isInvisible c = false := by
  intro c hc
  rw [unknown.toList_message, List.mem_append, List.mem_append] at hc
  rcases hc with hbefore | hquoted | hafter
  · exact Text.isInvisible_of_all (by decide) c hbefore
  · exact Text.isInvisible_of_mem_quote unknown.text c hquoted
  · exact Text.isInvisible_of_all (by decide) c hafter

theorem Unknown.not_isControl_of_mem_message (unknown : Unknown) :
    ∀ c ∈ unknown.message.toList, ¬ IsControl c := fun c hc =>
  Text.not_isControl_of_isInvisible (unknown.isInvisible_of_mem_message c hc)

theorem Unknown.lines_message (unknown : Unknown) :
    Text.lines unknown.message.toList = [unknown.message.toList] := by
  refine Text.splitWhere_eq_singleton _ _ fun c hc => ?_
  have hne : c ≠ '\n' := by
    rintro rfl
    exact unknown.not_isControl_of_mem_message '\n' hc (.inl (by decide))
  simpa using hne

/-! ### What the message tells -/

/-- The refused text, read off the message. -/
def Unknown.ofMessage? (message : String) : Option Unknown :=
  match "unknown policy ".toList.isPrefixOf? message.toList with
  | some quoted => (Text.readQuoted? quoted).map fun (text, _) => ⟨String.ofList text⟩
  | none => none

theorem Unknown.ofMessage?_message (unknown : Unknown) :
    Unknown.ofMessage? unknown.message = some unknown := by
  have hquoted : "unknown policy ".toList.isPrefixOf? unknown.message.toList =
      some ((Text.quote unknown.text).toList ++
        ", expected one of strict, lenient, warn".toList) := by
    rw [List.isPrefixOf?_eq_some_iff_append_eq, unknown.toList_message]
  rw [Unknown.ofMessage?, hquoted]
  simp only [Text.readQuoted?_quote, Option.map_some, String.ofList_toList]

theorem Unknown.message_injective {a b : Unknown} (h : a.message = b.message) : a = b := by
  have hread := congrArg Unknown.ofMessage? h
  rw [Unknown.ofMessage?_message, Unknown.ofMessage?_message] at hread
  exact Option.some.inj hread

/-- Exactly the names of policies are read. Any other text is refused with a message that is one line
without control characters; the text can be read off it, as off any quotation, and the messages of
two texts differ. -/
theorem unknown_told_apart :
    (∀ (text : String) (policy : Policy),
      Policy.parse text = .ok policy ↔ text = policy.name) ∧
    (∀ text : String, (∀ policy : Policy, text ≠ policy.name) →
      ∃ unknown, Policy.parse text = .error unknown ∧
        Text.lines unknown.message.toList = [unknown.message.toList] ∧
        (∀ c ∈ unknown.message.toList, ¬ IsControl c) ∧
        Unknown.ofMessage? unknown.message = some ⟨text⟩ ∧
        Text.unquote? (Text.quote text) = some text) ∧
    ∀ (text other : String) (unknown different : Unknown),
      Policy.parse text = .error unknown → Policy.parse other = .error different →
      text ≠ other → unknown.message ≠ different.message := by
  refine ⟨?names, ?told, ?apart⟩
  case names =>
    intro text policy
    rw [Policy.parse_eq_ok_iff]
    exact eq_comm
  case told =>
    intro text h
    exact ⟨⟨text⟩, parse_eq_error_iff.2 ⟨rfl, h⟩, Unknown.lines_message _,
      Unknown.not_isControl_of_mem_message _, Unknown.ofMessage?_message _,
      Text.unquote?_quote text⟩
  case apart =>
    intro text other unknown different htext hother hne hmessage
    obtain ⟨rfl, -⟩ := parse_eq_error_iff.1 htext
    obtain ⟨rfl, -⟩ := parse_eq_error_iff.1 hother
    exact hne (congrArg Unknown.text (Unknown.message_injective hmessage))

/-- An invisible hyphen and a newline, and the text that looks like their quotation. -/
theorem unknown_told_apart_escapes :
    let text := "\u00ad\n"
    let other := "\\u\x7bad\x7d\\n"
    ((∀ policy : Policy, text ≠ policy.name) ∧
      ∃ unknown, Policy.parse text = .error unknown ∧
        Text.lines unknown.message.toList = [unknown.message.toList] ∧
        (∀ c ∈ unknown.message.toList, ¬ IsControl c) ∧
        Unknown.ofMessage? unknown.message = some ⟨text⟩ ∧
        Text.unquote? (Text.quote text) = some text) ∧
      (Policy.parse text = .error ⟨text⟩ ∧ Policy.parse other = .error ⟨other⟩ ∧ text ≠ other) ∧
      Unknown.message ⟨text⟩ =
        "unknown policy \"\\u\x7bad\x7d\\n\", expected one of strict, lenient, warn" ∧
      Unknown.message ⟨text⟩ ≠ Unknown.message ⟨other⟩ ∧
      (Policy.parse "warn" = .ok .warn ∧ Policy.parse "warn " ≠ .ok .warn) := by
  intro text other
  obtain ⟨hnames, htold, hapart⟩ := unknown_told_apart
  have htext : ∀ policy : Policy, text ≠ policy.name := by
    intro policy
    cases policy <;> decide
  have hparse : Policy.parse text = .error ⟨text⟩ := rfl
  have hother : Policy.parse other = .error ⟨other⟩ := rfl
  have hne : text ≠ other := by decide
  refine ⟨⟨htext, htold text htext⟩, ⟨hparse, hother, hne⟩, by decide,
    hapart text other _ _ hparse hother hne, (hnames "warn" .warn).2 rfl, ?_⟩
  intro h
  exact absurd ((hnames "warn " .warn).1 h) (by decide)

end VrfPresence.Policy
