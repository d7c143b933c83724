import AlertRules.Service
import AlertRules.Proofs.Codec.Message

/-!
# Rules through messages and back

A rule goes out as a message and comes back as one, so that a caller may get a rule, change a field
and send it in again. Identifiers, severities and instants always come back, leap seconds included.
The condition and the settings of an action travel as texts of their own, and a text that nests more
than `maxNesting` deep is refused: so a rule comes back if all of them keep the limit
(`Rule.FitsMessage`), and is refused otherwise. No rule comes back as another one.

What came in by a message fits a message again, whatever else the message said. The store only gives
a rule its identifier and its instants, so what is got from the store can be sent in again.

> `Service.message_comes_back`: a faithful rule that fits a message comes back from its message, one
> that does not is refused at the part that nests too deep, and a rule that came in fits.
-/

namespace AlertRules

open Json

/-! ## Instants and severities -/

theorem Timestamp.toTimestamp?_toMessage (t : Timestamp) : t.toMessage.toTimestamp? = some t := by
  obtain ⟨hfirst, hlast, hnanos, -⟩ := t.valid
  have hsecond : firstSecond = -8334601228800 ∧ lastSecond = 8210266876799 := by decide
  have hseconds : (Int64.ofInt t.seconds).toInt = t.seconds :=
    Int64.toInt_ofInt_of_le (by omega) (by omega)
  have hnano : nanosPerSecond = 1000000000 := rfl
  -- The nanoseconds run on in a leap second, but two seconds of them fit as well.
  have hnanoseconds : (Int32.ofInt t.nanos).toInt = t.nanos :=
    Int32.toInt_ofInt_of_le (by omega) (by omega)
  rw [TimestampMessage.toTimestamp?, toMessage, hseconds, hnanoseconds, if_neg (by omega),
    Int.toNat_natCast, ofParts?, dif_pos t.valid]

theorem Timestamp.bind_toTimestamp? (t : Option Timestamp) :
    (t.map toMessage).bind TimestampMessage.toTimestamp? = t := by
  cases t with
  | none => rfl
  | some t => rw [Option.map_some, Option.bind_some, toTimestamp?_toMessage]

theorem Severity.ofMessage_toMessage (v : Severity) : ofMessage v.toMessage = .ok v := by
  cases v <;> rfl

/-! ## Identifiers -/

theorem Text.trimStart_of_visible {cs : List Char} (h : ∀ c ∈ cs, isBlankChar c = false) :
    trimStart cs = cs := by
  cases cs with
  | nil => rfl
  | cons c rest =>
    rw [trimStart, List.dropWhile_cons_of_neg]
    rw [h c (List.mem_cons_self ..)]
    exact Bool.false_ne_true

/-- Nothing is trimmed from a text without blanks. -/
theorem Text.trim_of_visible {s : String} (h : ∀ c ∈ s.toList, isBlankChar c = false) :
    trim s = s := by
  rw [trim, trimChars, trimStart_of_visible h,
    trimStart_of_visible fun c hc => h c (List.mem_reverse.mp hc), List.reverse_reverse,
    String.ofList_toList]

theorem Uuid.isBlankChar_of_mem_text {u : Uuid} {c : Char} (h : c ∈ u.text.toList) :
    Text.isBlankChar c = false := by
  have hdigit : ∀ d : Nat, d < 16 → Text.isBlankChar (hexDigit d) = false := by decide
  have hmem : c ∈ hexDigits u.val 32 ∨ c = '-' := by
    rw [toList_text] at h
    simp only [List.mem_append, List.mem_cons] at h
    -- Every group is a part of the digits.
    rcases h with (((h | rfl | h) | rfl | h) | rfl | h) | rfl | h
    · exact .inl (List.mem_of_mem_take h)
    · exact .inr rfl
    · exact .inl (List.mem_of_mem_drop (List.mem_of_mem_take h))
    · exact .inr rfl
    · exact .inl (List.mem_of_mem_drop (List.mem_of_mem_take h))
    · exact .inr rfl
    · exact .inl (List.mem_of_mem_drop (List.mem_of_mem_take h))
    · exact .inr rfl
    · exact .inl (List.mem_of_mem_drop h)
  rcases hmem with hmem | rfl
  · rw [hexDigits_eq_map] at hmem
    obtain ⟨d, hd, rfl⟩ := List.mem_map.mp hmem
    exact hdigit d (lt_of_mem_nibbles hd)
  · rfl

theorem Uuid.isBlank_text (u : Uuid) : Text.isBlank u.text = false := by
  have hvisible : ∀ c ∈ u.text.toList, Text.isBlankChar c = false :=
    fun _ => isBlankChar_of_mem_text
  have hlen : u.text.toList.length = 36 := by simp [toList_text, length_hexDigits]
  rw [Text.isBlank]
  cases hcs : u.text.toList with
  | nil =>
    rw [hcs] at hlen
    exact absurd hlen (by decide)
  | cons c rest =>
    rw [List.all_cons, hvisible c (hcs ▸ List.mem_cons_self ..), Bool.false_and]

theorem Uuid.ofMessage_text (id : Option Uuid) (path : String) :
    ofMessage ((id.map text).getD "") path = .ok id := by
  cases id with
  | none => rfl
  | some id =>
    unfold ofMessage
    rw [Option.map_some, Option.getD_some, isBlank_text,
      Text.trim_of_visible fun _ => isBlankChar_of_mem_text, ofString?_text]
    rfl

/-! ## Actions -/

namespace Action

theorem read_name (k : ActionKind) : ActionKind.read k.name = .ok k := by
  have hlower : k.name.map Char.toLower = k.name := by
    rw [← String.toList_inj, String.toList_map]
    cases k <;> decide
  have hname : ActionKind.ofName? k.name = some k := ActionKind.ofDocument?_name 0 k
  rw [ActionKind.read, hlower, hname]

/-- Settings are read from the text they make if they keep the limit, and refused otherwise. -/
theorem configOfMessage_text {config : List (String × Value)} (path : String)
    (hord : (Value.object config).Ordered) (hnum : (Value.object config).Survives) :
    configOfMessage path (Value.object config).text =
      if (Value.object config).nesting ≤ maxNesting then .ok config
      else .error (.invalid path "动作配置无法解析: ") := by
  have hblank : Text.isBlank (Value.object config).text = false :=
    Document.isBlank_text_object _
  have hread := Value.read?_text hord hnum
  unfold configOfMessage
  rw [hblank, hread]
  by_cases hnest : (Value.object config).nesting ≤ maxNesting
  · rw [if_pos hnest, if_pos hnest]
    rfl
  · rw [if_neg hnest, if_neg hnest]
    rfl

theorem ofMessage_toMessage {a : Action} (path : String) (hord : (Value.object a.config).Ordered)
    (hnum : (Value.object a.config).Survives) :
    ofMessage path a.toMessage =
      if (Value.object a.config).nesting ≤ maxNesting then .ok a
      else .error (.invalid (path ++ ".config") "动作配置无法解析: ") := by
  unfold ofMessage
  rw [toMessage, read_name, configOfMessage_text _ hord hnum]
  by_cases hnest : (Value.object a.config).nesting ≤ maxNesting
  · rw [if_pos hnest, if_pos hnest]
    rfl
  · rw [if_neg hnest, if_neg hnest]
    rfl

/-- The path of an action in the message of its rule. -/
def messagePath (index : Nat) : String := "actions[" ++ toString index ++ "]"

theorem listOfMessages_cons {a : Action} {rest : List Action} {index : Nat}
    (hord : (Value.object a.config).Ordered) (hnum : (Value.object a.config).Survives) :
    listOfMessages index ((a :: rest).map toMessage) =
      if (Value.object a.config).nesting ≤ maxNesting then
        (listOfMessages (index + 1) (rest.map toMessage)).map (a :: ·)
      else .error (.invalid (messagePath index ++ ".config") "动作配置无法解析: ") := by
  have hlist : listOfMessages index ((a :: rest).map toMessage) =
      (ofMessage (messagePath index) a.toMessage).bind fun a =>
        (listOfMessages (index + 1) (rest.map toMessage)).bind fun others =>
          .ok (a :: others) := rfl
  rw [hlist, ofMessage_toMessage _ hord hnum]
  by_cases hnest : (Value.object a.config).nesting ≤ maxNesting
  · rw [if_pos hnest, if_pos hnest]
    cases listOfMessages (index + 1) (rest.map toMessage) <;> rfl
  · rw [if_neg hnest, if_neg hnest]
    rfl

theorem listOfMessages_of_fit : ∀ {actions : List Action} (index : Nat),
    (∀ a ∈ actions, (Value.object a.config).Ordered) →
    (∀ a ∈ actions, (Value.object a.config).Survives) →
    (∀ a ∈ actions, (Value.object a.config).nesting ≤ maxNesting) →
      listOfMessages index (actions.map toMessage) = .ok actions
  | [], _, _, _, _ => rfl
  | a :: rest, index, hord, hnum, hfit => by
    rw [List.forall_mem_cons] at hord hnum hfit
    rw [listOfMessages_cons hord.1 hnum.1, if_pos hfit.1,
      listOfMessages_of_fit (index + 1) hord.2 hnum.2 hfit.2]
    rfl

/-- Of the actions that nest too deep the first is reported. -/
theorem listOfMessages_of_deep : ∀ {actions : List Action} (index : Nat),
    (∀ a ∈ actions, (Value.object a.config).Ordered) →
    (∀ a ∈ actions, (Value.object a.config).Survives) →
    ¬ (∀ a ∈ actions, (Value.object a.config).nesting ≤ maxNesting) →
      ∃ (i : Nat) (a : Action) (text : String), actions[i]? = some a ∧
        maxNesting < (Value.object a.config).nesting ∧
        listOfMessages index (actions.map toMessage) =
          .error (.invalid (messagePath (index + i) ++ ".config") text)
  | [], _, _, _, hdeep => absurd (fun _ h => nomatch h) hdeep
  | a :: rest, index, hord, hnum, hdeep => by
    rw [List.forall_mem_cons] at hord hnum hdeep
    rw [listOfMessages_cons hord.1 hnum.1]
    by_cases hfirst : (Value.object a.config).nesting ≤ maxNesting
    · obtain ⟨i, b, text, hget, hnest, herror⟩ :=
        listOfMessages_of_deep (index + 1) hord.2 hnum.2 fun hrest => hdeep ⟨hfirst, hrest⟩
      refine ⟨i + 1, b, text, hget, hnest, ?_⟩
      rw [if_pos hfirst, herror, Nat.add_right_comm, Nat.add_assoc]
      rfl
    · exact ⟨0, a, _, rfl, Nat.lt_of_not_le hfirst, if_neg hfirst⟩

end Action

/-! ## Rules -/

namespace Rule

/-- That each text of the message of a rule keeps the limit. -/
def FitsMessage (r : Rule) : Prop :=
  r.condition.toDocument.nesting ≤ maxNesting ∧
    ∀ a ∈ r.actions, (Value.object a.config).nesting ≤ maxNesting

/-- A message of a rule is read part by part: only the condition and the actions may be refused. -/
theorem toRule_toMessage_eq (r : Rule) : r.toMessage.toRule =
    (Condition.ofMessage r.condition.text).bind fun condition =>
      (Action.listOfMessages 0 (r.actions.map Action.toMessage)).bind fun actions =>
        .ok { r with condition := condition, actions := actions } := by
  have hread : r.toMessage.toRule =
      (Condition.ofMessage r.condition.text).bind fun condition =>
        (Action.listOfMessages 0 (r.actions.map Action.toMessage)).bind fun actions =>
          (Uuid.ofMessage ((r.id.map Uuid.text).getD "") "id").bind fun id =>
            (Severity.ofMessage r.severity.toMessage).bind fun severity =>
              .ok { r with
                id := id
                severity := severity
                condition := condition
                actions := actions
                createdAt := (r.createdAt.map Timestamp.toMessage).bind
                  TimestampMessage.toTimestamp?
                updatedAt := (r.updatedAt.map Timestamp.toMessage).bind
                  TimestampMessage.toTimestamp? } := rfl
  rw [hread, Uuid.ofMessage_text, Severity.ofMessage_toMessage, Timestamp.bind_toTimestamp?,
    Timestamp.bind_toTimestamp?]
  rfl

theorem toRule_toMessage_of_fits {r : Rule} (h : r.Faithful) (hfits : r.FitsMessage) :
    r.toMessage.toRule = .ok r := by
  rw [toRule_toMessage_eq, Condition.ofMessage_text h.ordered.1 h.survives.1, if_pos hfits.1,
    Action.listOfMessages_of_fit 0 h.ordered.2 h.survives.2 hfits.2]
  rfl

/-- A rule that does not fit is refused at the first part that nests too deep. -/
theorem toRule_toMessage_of_deep {r : Rule} (h : r.Faithful) (hdeep : ¬ r.FitsMessage) :
    ∃ path text, r.toMessage.toRule = .error (.invalid path text) ∧
      ((path = "condition_json" ∧ maxNesting < r.condition.toDocument.nesting) ∨
        ∃ (i : Nat) (a : Action), r.actions[i]? = some a ∧
          maxNesting < (Value.object a.config).nesting ∧
          path = "actions[" ++ toString i ++ "].config") := by
  rw [toRule_toMessage_eq, Condition.ofMessage_text h.ordered.1 h.survives.1]
  by_cases hcondition : r.condition.toDocument.nesting ≤ maxNesting
  · obtain ⟨i, a, text, hget, hnest, herror⟩ := Action.listOfMessages_of_deep 0 h.ordered.2
      h.survives.2 fun hactions => hdeep ⟨hcondition, hactions⟩
    rw [if_pos hcondition, herror, Nat.zero_add]
    refine ⟨_, text, rfl, .inr ⟨i, a, hget, hnest, ?_⟩⟩
    rw [Action.messagePath, String.append_assoc]
    rfl
  · rw [if_neg hcondition]
    exact ⟨_, _, rfl, .inl ⟨rfl, Nat.lt_of_not_le hcondition⟩⟩

theorem fitsMessage_of_toRule {m : RuleMessage} {r : Rule} (h : m.toRule = .ok r) :
    r.FitsMessage := by
  obtain ⟨hcondition, hactions⟩ := RuleMessage.bounded_of_toRule h
  exact ⟨hcondition.2, fun a ha => (hactions a ha).2⟩

end Rule

namespace Service

/-- A valid rule with an identifier that comes back from its message is accepted as an update. -/
theorem ruleToUpdate_toMessage {s : Service} {q : Rule} {id : Uuid} (hid : q.id = some id)
    (hback : q.toMessage.toRule = .ok q) (hvalid : s.validate q = .ok ()) :
    s.ruleToUpdate (some q.toMessage) = .ok (id, q) := by
  have hrequired : requiredRule (some q.toMessage) = .ok q := by
    rw [requiredRule, hback]
    rfl
  simp only [ruleToUpdate, hrequired, bind, Except.bind, hid, hvalid]
  rfl

/-- **Rules come back from their messages.** A faithful rule that fits a message is the rule of its
message; one that does not is refused where it nests too deep, and so is never read as another rule.
What came in by a message fits one, also with the identifier and the instants the store gives it, so
a service that accepts it takes the message of the stored rule as an update to the very rule. -/
theorem message_comes_back :
    (∀ r : Rule, r.Faithful →
      (r.FitsMessage → r.toMessage.toRule = .ok r) ∧
      (¬ r.FitsMessage → ∃ path text, r.toMessage.toRule = .error (.invalid path text) ∧
        ((path = "condition_json" ∧ maxNesting < r.condition.toDocument.nesting) ∨
          ∃ (i : Nat) (a : Action), r.actions[i]? = some a ∧
            maxNesting < (Value.object a.config).nesting ∧
            path = "actions[" ++ toString i ++ "].config"))) ∧
    (∀ (m : RuleMessage) (r : Rule), m.toRule = .ok r → r.FitsMessage ∧
      (r.EachValue Value.Survives →
        ∀ (id : Uuid) (createdAt updatedAt : Option Timestamp) (q : Rule),
        q = { r with id := some id, createdAt := createdAt, updatedAt := updatedAt } →
          q.toMessage.toRule = .ok q ∧
          ∀ s : Service, s.validate r = .ok () →
            s.ruleToUpdate (some q.toMessage) = .ok (id, q))) := by
  constructor
  · intro r hfaithful
    exact ⟨Rule.toRule_toMessage_of_fits hfaithful, Rule.toRule_toMessage_of_deep hfaithful⟩
  · intro m r hread
    have hfits := Rule.fitsMessage_of_toRule hread
    refine ⟨hfits, fun hnum id createdAt updatedAt q hq => ?_⟩
    subst hq
    have hordered : r.EachValue Value.Ordered := RuleMessage.ordered_of_toRule hread
    have hback := Rule.toRule_toMessage_of_fits
      (r := { r with id := some id, createdAt := createdAt, updatedAt := updatedAt })
      ⟨hordered, hnum⟩ hfits
    -- Nothing that the store gives a rule is looked at when the rule is checked.
    exact ⟨hback, fun s hvalid => ruleToUpdate_toMessage rfl hback hvalid⟩

/-- A rule of a leap second, with all shapes of a condition that are valid and with settings. -/
def packed : Rule where
  id := some (.ofNat 7)
  name := "packed"
  description := ""
  enabled := false
  priority := 0xffffffff
  severity := .critical
  condition := .anyOf [.allOf [.comparison ⟨"host", .notEqual, .null⟩],
    .comparison ⟨"load", .member, .array [.string "high", .object [("at", .bool true)]]⟩]
  actions := [.ofKind .log, ⟨.webhook, [("to", .array [.object [], .string "ops"])]⟩]
  createdAt := some ⟨1483228799, 1999999999, by decide⟩
  updatedAt := none

theorem faithful_packed : packed.Faithful := by
  constructor
  · simp [packed, Rule.EachValue, Condition.EachValue, Condition.EachValueOf, Value.Ordered,
      Value.OrderedItems, Value.OrderedFields, Action.ofKind]
  · simp [packed, Rule.EachValue, Condition.EachValue, Condition.EachValueOf, Value.Survives,
      Value.SurvivesItems, Value.SurvivesFields, Action.ofKind]

/-- A rule packed with everything comes back; one whose groups nest too deep is refused; and the
first, stored under another identifier, may be sent in again. -/
theorem message_comes_back_packed :
    packed.Faithful ∧ packed.FitsMessage ∧ packed.toMessage.toRule = .ok packed ∧
    ¬ (Rule.ofCondition "deep" (.chain 64)).FitsMessage ∧
    (∃ path text, (Rule.ofCondition "deep" (.chain 64)).toMessage.toRule =
      .error (.invalid path text)) ∧
    ({ repository := none } : Service).validate packed = .ok () ∧
    ({ repository := none } : Service).ruleToUpdate
      (some { packed with id := some (.ofNat 8) : Rule }.toMessage) =
      .ok (.ofNat 8, { packed with id := some (.ofNat 8) }) := by
  have hfits : packed.FitsMessage := by
    unfold Rule.FitsMessage
    decide
  have hback : packed.toMessage.toRule = .ok packed :=
    (message_comes_back.1 packed faithful_packed).1 hfits
  have hdeep : ¬ (Rule.ofCondition "deep" (.chain 64)).FitsMessage := by
    rintro ⟨hnest, -⟩
    have hchain : (Condition.chain 64).toDocument.nesting ≤ 127 := hnest
    rw [Condition.nesting_chain] at hchain
    omega
  have hchain : (Rule.ofCondition "deep" (.chain 64)).Faithful :=
    ⟨⟨Condition.eachValue_chain trivial 64, fun _ h => nomatch h⟩,
      Condition.eachValue_chain trivial 64, fun _ h => nomatch h⟩
  obtain ⟨path, text, hrefused, -⟩ := (message_comes_back.1 _ hchain).2 hdeep
  have hvalid : ({ repository := none } : Service).validate packed = .ok () := by rfl
  have hagain := ((message_comes_back.2 packed.toMessage packed hback).2 faithful_packed.survives
    (.ofNat 8) packed.createdAt packed.updatedAt _ rfl).2 ({ repository := none } : Service) hvalid
  exact ⟨faithful_packed, hfits, hback, hdeep, ⟨path, text, hrefused⟩, hvalid, hagain⟩

end Service

end AlertRules
