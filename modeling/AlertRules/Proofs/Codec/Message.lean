import AlertRules.Message.Rule
import AlertRules.Proofs.Codec.Rule

/-!
# Rules that come in messages

The condition and the settings of a message are texts of their own, so each of them may nest as deep
as any text (`RuleMessage.bounded_of_toRule`). In the text of the whole rule they stand deeper: a
rule that is read from a message need not be `Shallow`.

The other way round, a message is read if its condition keeps the limit
(`RuleMessage.toRule_plain`).
-/

namespace AlertRules

open Json

/-- What a message says of a condition is ordered and keeps the limit. -/
theorem Condition.bounded_of_ofMessage {text : String} {c : Condition}
    (h : ofMessage text = .ok c) : c.Bounded maxNesting := by
  unfold ofMessage at h
  split at h
  · cases h
    exact bounded_empty 126
  · split at h
    next c' hread =>
      cases h
      obtain ⟨d, -, hd⟩ := Option.bind_eq_some_iff.mp hread
      exact bounded_of_ofDocument? hd
    next => exact nomatch h

/-- What a message says of settings is ordered and keeps the limit. -/
theorem Action.bounded_of_configOfMessage {path text : String} {config : List (String × Value)}
    (h : configOfMessage path text = .ok config) :
    (Value.object config).Ordered ∧ (Value.object config).nesting ≤ maxNesting := by
  unfold configOfMessage at h
  split at h
  · cases h
    exact ⟨trivial, Nat.le_add_left 1 126⟩
  · split at h
    next fields hread =>
      cases h
      obtain ⟨d, -, hd⟩ := Option.bind_eq_some_iff.mp hread
      exact Document.ordered_of_toValue? hd
    next => exact nomatch h
    next => exact nomatch h

theorem bind_eq_ok {ε α β : Type} {x : Except ε α} {f : α → Except ε β} {b : β}
    (h : x.bind f = .ok b) : ∃ a, x = .ok a ∧ f a = .ok b := by
  cases x with
  | error e => exact nomatch h
  | ok a => exact ⟨a, rfl, h⟩

theorem Action.bounded_of_ofMessage {path : String} {m : ActionMessage} {a : Action}
    (h : ofMessage path m = .ok a) :
    (Value.object a.config).Ordered ∧ (Value.object a.config).nesting ≤ maxNesting := by
  unfold ofMessage at h
  split at h
  · obtain ⟨kind, -, h⟩ := bind_eq_ok h
    obtain ⟨config, hconfig, h⟩ := bind_eq_ok h
    cases h
    exact bounded_of_configOfMessage hconfig
  · exact nomatch h

theorem Action.bounded_of_listOfMessages : ∀ {messages : List ActionMessage} {index : Nat}
    {actions : List Action}, listOfMessages index messages = .ok actions →
      ∀ a ∈ actions, (Value.object a.config).Ordered ∧
        (Value.object a.config).nesting ≤ maxNesting
  | [], _, _, h => by
    cases h
    exact fun _ ha => nomatch ha
  | m :: rest, index, _, h => by
    obtain ⟨a, hfirst, h⟩ := bind_eq_ok h
    obtain ⟨others, hothers, h⟩ := bind_eq_ok h
    cases h
    intro b hb
    rcases List.mem_cons.mp hb with rfl | hb
    · exact bounded_of_ofMessage hfirst
    · exact bounded_of_listOfMessages hothers b hb

namespace RuleMessage

/-- **Condition and settings of a rule that comes in a message** are ordered, and each of them keeps
the limit. -/
theorem bounded_of_toRule {m : RuleMessage} {r : Rule} (h : m.toRule = .ok r) :
    r.condition.Bounded maxNesting ∧ ∀ a ∈ r.actions,
      (Value.object a.config).Ordered ∧ (Value.object a.config).nesting ≤ maxNesting := by
  obtain ⟨condition, hcondition, h⟩ := bind_eq_ok h
  obtain ⟨actions, hactions, h⟩ := bind_eq_ok h
  obtain ⟨id, -, h⟩ := bind_eq_ok h
  obtain ⟨severity, -, h⟩ := bind_eq_ok h
  cases h
  exact ⟨Condition.bounded_of_ofMessage hcondition, Action.bounded_of_listOfMessages hactions⟩

/-- The values of a rule that comes in a message are ordered. -/
theorem ordered_of_toRule {m : RuleMessage} {r : Rule} (h : m.toRule = .ok r) :
    r.EachValue Value.Ordered := by
  obtain ⟨hcondition, hactions⟩ := bounded_of_toRule h
  exact ⟨hcondition.1, fun a ha => (hactions a ha).1⟩

/-- A message that says nothing but a name and a condition. -/
def plain (name : String) (c : Condition) : RuleMessage where
  id := ""
  name := name
  description := ""
  enabled := none
  priority := none
  severity := Severity.info.toMessage
  conditionJson := c.text
  actions := []
  createdAt := none
  updatedAt := none

end RuleMessage

/-- The text of an object is not blank. -/
theorem Json.Document.isBlank_text_object (members : List (Option String × Document)) :
    Text.isBlank (object members).text = false := by
  have hbrace : ∃ rest, (object members).text.toList = '\x7b' :: rest := by
    rw [Document.text, String.toList_ofList]
    cases members <;> exact ⟨_, rfl⟩
  obtain ⟨rest, hrest⟩ := hbrace
  rw [Text.isBlank, hrest]
  rfl

theorem Condition.isBlank_text (c : Condition) : Text.isBlank c.text = false := by
  cases c <;> exact Document.isBlank_text_object _

/-- A condition is read from the text it makes if it keeps the limit, and refused otherwise. -/
theorem Condition.ofMessage_text {c : Condition} (hord : c.EachValue Value.Ordered)
    (hnum : c.EachValue Value.Survives) : ofMessage c.text =
      if c.toDocument.nesting ≤ maxNesting then .ok c
      else .error (.invalid "condition_json" "条件 JSON 无法解析: ") := by
  have hread : read? c.text = if c.toDocument.nesting ≤ maxNesting then some c else none := by
    rw [read?, text, Document.read?_text (plain_toDocument hnum), Option.bind_eq_bind,
      Option.bind_some, ofDocument?_toDocument maxNesting hord]
  unfold ofMessage
  rw [isBlank_text, hread]
  by_cases hnest : c.toDocument.nesting ≤ maxNesting
  · rw [if_pos hnest, if_pos hnest]
    rfl
  · rw [if_neg hnest, if_neg hnest]
    rfl

theorem RuleMessage.toRule_plain {name : String} {c : Condition} (hbounded : c.Bounded maxNesting)
    (hnum : c.EachValue Value.Survives) : (plain name c).toRule = .ok (.ofCondition name c) := by
  have hread : (plain name c).toRule = (Condition.ofMessage c.text).bind fun condition =>
      .ok (.ofCondition name condition) := rfl
  rw [hread, Condition.ofMessage_text hbounded.1 hnum, if_pos hbounded.2]
  rfl

end AlertRules
