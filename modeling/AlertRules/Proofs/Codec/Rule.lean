import AlertRules.Proofs.Codec.Condition
import AlertRules.Proofs.Codec.Timestamp
import AlertRules.Proofs.Codec.Uuid
import AlertRules.Rule.Codec

/-!
# Reading back rules

A rule is read back from its text unless condition or settings nest too deep. The condition stands
one level down in the document of a rule, the settings of an action three (`Rule.nesting_le_iff`).

What is asked of a rule is that its values are faithful: that the fields of every object are in
ascending order of their names, as `Value.insertField` keeps them, and that its numbers survive
being written and read. Identifiers, instants and texts always do.

> `Rule.read?_text`: a faithful rule is read back from its text if its document nests at most
> `maxNesting` deep, and not otherwise.
-/

namespace AlertRules

open Json

/-! ## Parts of a rule -/

theorem Severity.ofDocument?_toDocument (limit : Nat) (v : Severity) :
    ofDocument? limit v.toDocument = some v := by
  show ofName? v.name = some v
  cases v <;> decide

theorem ActionKind.ofDocument?_name (limit : Nat) (k : ActionKind) :
    ofDocument? limit (.ofString k.name) = some k := by
  show ofName? k.name = some k
  cases k <;> decide

theorem Uuid.ofDocument?_toDocument (id : Uuid) : ofDocument? id.toDocument = some id := by
  rw [ofDocument?, toDocument, Document.ofString, Document.asString?, Option.bind_eq_bind,
    Option.bind_some, ofString?_text]

theorem Timestamp.ofDocument?_toDocument (t : Timestamp) : ofDocument? t.toDocument = some t := by
  rw [ofDocument?, toDocument, Document.ofString, Document.asString?, Option.bind_eq_bind,
    Option.bind_some, ofString?_text]

/-- Something that may be missing is read back, if it is written as a text when it is there. -/
theorem Json.Document.optional_ofOption {α : Type} {write : α → Document}
    {read : Document → Option α} (hread : ∀ a, read (write a) = some a)
    (hnull : ∀ a, write a ≠ .null) (value : Option α) :
    optional read (some (ofOption write value)) = some value := by
  cases value with
  | none => rfl
  | some a =>
    have ha := hread a
    rw [ofOption]
    unfold optional
    split
    next heq => exact nomatch heq
    next heq => exact absurd (Option.some.inj heq) (hnull a)
    next heq =>
      rw [← Option.some.inj heq, ha, Option.map_some]

theorem Uuid.optional_toDocument (id : Option Uuid) :
    Document.optional ofDocument? (some (.ofOption toDocument id)) = some id :=
  Document.optional_ofOption ofDocument?_toDocument (fun _ h => nomatch h) id

theorem Timestamp.optional_toDocument (t : Option Timestamp) :
    Document.optional ofDocument? (some (.ofOption toDocument t)) = some t :=
  Document.optional_ofOption ofDocument?_toDocument (fun _ h => nomatch h) t

-- The integer is a variable in what follows: the bounds of `Integer` are not to be evaluated at
-- a natural number.

theorem Json.Document.nesting_ofInt (k : Int) : (ofInt k).nesting = 0 := by
  rw [ofInt, nesting_ofValue]
  unfold Value.ofInt
  cases Integer.ofInt? k with
  | none => rfl
  | some i => rfl

theorem Json.Document.plain_ofInt (k : Int) : (ofInt k).Plain := by
  unfold ofInt Value.ofInt
  cases Integer.ofInt? k with
  | none => trivial
  | some i => exact ⟨.integer i, rfl, Number.readsBack_integer i⟩

theorem Json.Document.asInt?_ofInt {k : Int} (h : -0x8000000000000000 ≤ k)
    (h' : k < 0x10000000000000000) : (ofInt k).asInt? = some k := by
  rw [ofInt, Value.ofInt, Integer.ofInt?_eq ⟨h, h'⟩]
  rfl

theorem Json.Document.ofNat_eq_ofInt (n : Nat) : ofNat n = ofInt n := rfl

theorem Json.Document.nesting_ofNat (n : Nat) : (ofNat n).nesting = 0 := by
  rw [ofNat_eq_ofInt]
  exact nesting_ofInt n

theorem Rule.priority?_ofNat (p : UInt32) : priority? (.ofNat p.toNat) = some p := by
  have hlt : p.toNat < 4294967296 := p.toNat_lt
  rw [priority?, Document.asNatBelow?, Document.ofNat_eq_ofInt,
    Document.asInt?_ofInt (by omega) (by omega), Option.bind_eq_bind, Option.bind_some,
    if_pos ⟨by omega, by unfold UInt32.size; omega⟩, Int.toNat_natCast, Option.map_some,
    UInt32.ofNat_toNat]

theorem of_required {α : Type} {read : Document → Option α} {field : Option Document} {a : α}
    (h : Document.required read field = some a) : ∃ d, field = some d ∧ read d = some a := by
  cases field with
  | none => exact nomatch h
  | some d => exact ⟨d, rfl, h⟩

theorem of_withDefault {α : Type} {default a : α} {read : Document → Option α}
    {field : Option Document} (h : Document.withDefault default read field = some a) :
    a = default ∨ ∃ d, field = some d ∧ read d = some a := by
  cases field with
  | none => exact .inl (Option.some.inj h).symm
  | some d => exact .inr ⟨d, rfl, h⟩

namespace Action

/-- An action stands one level above its settings. -/
theorem nesting_toDocument (a : Action) :
    a.toDocument.nesting = (Value.object a.config).nesting + 1 := by
  show max 0 (max (Document.ofValue (.object a.config)).nesting 0) + 1 = _
  rw [Document.nesting_ofValue, Nat.zero_max, Nat.max_zero]

/-- An action is read back from its document within the limit, and not beyond it. -/
theorem ofDocument?_toDocument {a : Action} (limit : Nat) (h : (Value.object a.config).Ordered) :
    ofDocument? limit a.toDocument = if a.toDocument.nesting ≤ limit then some a else none := by
  rw [nesting_toDocument]
  cases limit with
  | zero => rfl
  | succ limit =>
    have hread : ofDocument? (limit + 1) a.toDocument =
        (ActionKind.ofDocument? limit (.ofString a.kind.name)).bind fun kind =>
          (Document.asFields? limit (.ofValue (.object a.config))).bind fun config =>
            some ⟨kind, config⟩ := rfl
    rw [hread, ActionKind.ofDocument?_name, Option.bind_some, Document.asFields?,
      Document.toValue?_ofValue limit h]
    by_cases hn : (Value.object a.config).nesting ≤ limit
    · rw [if_pos hn, if_pos (by omega)]
      rfl
    · rw [if_neg hn, if_neg (by omega)]
      rfl

/-- The settings of an action that is read are ordered and keep the limit, unless it has none. -/
theorem nesting_of_ofDocument? {limit : Nat} (hpos : 1 ≤ limit) {d : Document} {a : Action}
    (h : ofDocument? (limit + 1) d = some a) :
    (Value.object a.config).Ordered ∧ (Value.object a.config).nesting ≤ limit := by
  obtain ⟨⟨inner, fields⟩, hfields, h⟩ := Option.bind_eq_some_iff.mp h
  obtain rfl : limit = inner := Nat.succ_inj.mp (Document.limit_of_fields? hfields)
  clear hfields
  split at h
  next heq =>
    cases heq
    obtain ⟨kind, -, h⟩ := Option.bind_eq_some_iff.mp h
    obtain ⟨config, hconfig, h⟩ := Option.bind_eq_some_iff.mp h
    cases h
    rcases of_withDefault hconfig with rfl | ⟨d, -, hd⟩
    · exact ⟨trivial, hpos⟩
    · obtain ⟨v, hv, hd⟩ := Option.bind_eq_some_iff.mp hd
      split at hd
      · cases hd
        exact Document.ordered_of_toValue? hv
      · exact nomatch hd
  next => exact nomatch h

end Action

namespace Rule

/-! ## Values of a rule -/

/-- That something holds of every value of a rule: of those its condition compares with, and of the
settings of each action. -/
def EachValue (P : Value → Prop) (r : Rule) : Prop :=
  r.condition.EachValue P ∧ ∀ a ∈ r.actions, P (.object a.config)

/-- That the values of a rule are kept by being written and read. -/
structure Faithful (r : Rule) : Prop where
  /-- The fields of every object are in ascending order of their names, as they always are. -/
  ordered : r.EachValue Value.Ordered
  /-- Every number survives. -/
  survives : r.EachValue Value.Survives

/-- A rule on one field of events, for examples. -/
def onStatus (status : String) : Rule :=
  .ofCondition status (.comparison ⟨"status", .equal, .string status⟩)

theorem faithful_onStatus (status : String) : (onStatus status).Faithful :=
  ⟨⟨trivial, fun _ h => nomatch h⟩, ⟨trivial, fun _ h => nomatch h⟩⟩

/-! ## Nesting -/

theorem nesting_record (id name description enabled priority severity condition actions createdAt
    updatedAt : Document) :
    (Document.record [("id", id), ("name", name), ("description", description),
      ("enabled", enabled), ("priority", priority), ("severity", severity),
      ("condition", condition), ("actions", actions), ("created_at", createdAt),
      ("updated_at", updatedAt)]).nesting =
    max id.nesting (max name.nesting (max description.nesting (max enabled.nesting
      (max priority.nesting (max severity.nesting (max condition.nesting (max actions.nesting
        (max createdAt.nesting (max updatedAt.nesting 0))))))))) + 1 := rfl

theorem nesting_toDocument (r : Rule) : r.toDocument.nesting =
    max r.condition.toDocument.nesting
      (Document.nestingOfItems (r.actions.map Action.toDocument) + 1) + 1 := by
  have hid : (Document.ofOption Uuid.toDocument r.id).nesting = 0 := by cases r.id <;> rfl
  have hcreated : (Document.ofOption Timestamp.toDocument r.createdAt).nesting = 0 := by
    cases r.createdAt <;> rfl
  have hupdated : (Document.ofOption Timestamp.toDocument r.updatedAt).nesting = 0 := by
    cases r.updatedAt <;> rfl
  have hactions : (Document.ofList Action.toDocument r.actions).nesting =
      Document.nestingOfItems (r.actions.map Action.toDocument) + 1 := rfl
  have hstring : ∀ t, (Document.ofString t).nesting = 0 := fun _ => rfl
  have hbool : ∀ b, (Document.bool b).nesting = 0 := fun _ => rfl
  have hseverity : r.severity.toDocument.nesting = 0 := rfl
  rw [toDocument, nesting_record, hid, hstring, hstring, hbool, Document.nesting_ofNat, hseverity,
    hactions, hcreated, hupdated]
  simp only [Nat.zero_max, Nat.max_zero]

/-- A rule keeps a limit if its condition keeps one level less, and the settings of each action
three less. -/
theorem nesting_le_iff {r : Rule} {n : Nat} : r.toDocument.nesting ≤ n + 3 ↔
    r.condition.toDocument.nesting ≤ n + 2 ∧
      ∀ a ∈ r.actions, (Value.object a.config).nesting ≤ n := by
  have hitems : Document.nestingOfItems (r.actions.map Action.toDocument) ≤ n + 1 ↔
      ∀ a ∈ r.actions, (Value.object a.config).nesting ≤ n := by
    rw [Document.nestingOfItems_le_iff]
    constructor
    · intro h a ha
      have hle := h _ (List.mem_map_of_mem ha)
      rw [Action.nesting_toDocument] at hle
      omega
    · intro h d hd
      obtain ⟨a, ha, rfl⟩ := List.mem_map.mp hd
      have hle := h a ha
      rw [Action.nesting_toDocument]
      omega
  rw [nesting_toDocument, ← hitems]
  omega

/-! ## Reading back -/

theorem ofDocument?_record (limit : Nat) (id name description enabled priority severity condition
    actions createdAt updatedAt : Document) :
    ofDocument? (limit + 1) (Document.record [("id", id), ("name", name),
      ("description", description), ("enabled", enabled), ("priority", priority),
      ("severity", severity), ("condition", condition), ("actions", actions),
      ("created_at", createdAt), ("updated_at", updatedAt)]) =
    (do
      let id ← Document.optional Uuid.ofDocument? (some id)
      let name ← name.asString?
      let description ← description.asString?
      let enabled ← enabled.asBool?
      let priority ← priority? priority
      let severity ← Severity.ofDocument? limit severity
      let condition ← Condition.ofDocument? limit condition
      let actions ← actions.list? Action.ofDocument? limit
      let createdAt ← Document.optional Timestamp.ofDocument? (some createdAt)
      let updatedAt ← Document.optional Timestamp.ofDocument? (some updatedAt)
      return ⟨id, name, description, enabled, priority, severity, condition, actions, createdAt,
        updatedAt⟩) := rfl

/-- **A rule is read back from its document within the limit, and not beyond it.** -/
theorem ofDocument?_toDocument {r : Rule} (limit : Nat) (h : r.EachValue Value.Ordered) :
    ofDocument? limit r.toDocument = if r.toDocument.nesting ≤ limit then some r else none := by
  rw [nesting_toDocument]
  cases limit with
  | zero => rfl
  | succ limit =>
    have hstring : ∀ t, (Document.ofString t).asString? = some t := fun _ => rfl
    have hbool : ∀ b, (Document.bool b).asBool? = some b := fun _ => rfl
    rw [toDocument, ofDocument?_record, Uuid.optional_toDocument, hstring, hstring, hbool,
      priority?_ofNat, Severity.ofDocument?_toDocument, Timestamp.optional_toDocument,
      Timestamp.optional_toDocument, Condition.ofDocument?_toDocument limit h.1]
    simp only [Option.bind_eq_bind, Option.bind_some]
    cases limit with
    | zero =>
      have hpos := r.condition.nesting_pos
      rw [if_neg (by omega), if_neg (by omega)]
      rfl
    | succ limit =>
      have hactions : Document.list? Action.ofDocument? (limit + 1)
          (.ofList Action.toDocument r.actions) =
          if Document.nestingOfItems (r.actions.map Action.toDocument) ≤ limit then some r.actions
            else none :=
        mapM_readBack fun a ha => Action.ofDocument?_toDocument limit (h.2 a ha)
      rw [hactions]
      -- Of all fields only condition and actions nest.
      have hlimit : max r.condition.toDocument.nesting
          (Document.nestingOfItems (r.actions.map Action.toDocument) + 1) + 1 ≤ limit + 1 + 1 ↔
          r.condition.toDocument.nesting ≤ limit + 1 ∧
            Document.nestingOfItems (r.actions.map Action.toDocument) ≤ limit := by
        omega
      by_cases hc : r.condition.toDocument.nesting ≤ limit + 1
      · by_cases ha : Document.nestingOfItems (r.actions.map Action.toDocument) ≤ limit
        · rw [if_pos hc, if_pos ha, if_pos (hlimit.mpr ⟨hc, ha⟩)]
          rfl
        · rw [if_pos hc, if_neg ha, if_neg fun hle => ha (hlimit.mp hle).2]
          rfl
      · rw [if_neg hc, if_neg fun hle => hc (hlimit.mp hle).1]
        rfl

/-! ## Texts -/

theorem plain_record {id name description enabled priority severity condition actions createdAt
    updatedAt : Document} (hid : id.Plain) (hname : name.Plain) (hdescription : description.Plain)
    (henabled : enabled.Plain) (hpriority : priority.Plain) (hseverity : severity.Plain)
    (hcondition : condition.Plain) (hactions : actions.Plain) (hcreated : createdAt.Plain)
    (hupdated : updatedAt.Plain) :
    (Document.record [("id", id), ("name", name), ("description", description),
      ("enabled", enabled), ("priority", priority), ("severity", severity),
      ("condition", condition), ("actions", actions), ("created_at", createdAt),
      ("updated_at", updatedAt)]).Plain :=
  ⟨rfl, hid, rfl, hname, rfl, hdescription, rfl, henabled, rfl, hpriority, rfl, hseverity, rfl,
    hcondition, rfl, hactions, rfl, hcreated, rfl, hupdated, trivial⟩

theorem plainItems_actions : ∀ {actions : List Action},
    (∀ a ∈ actions, (Value.object a.config).Survives) →
      Document.PlainItems (actions.map Action.toDocument)
  | [], _ => trivial
  | a :: _, h =>
    ⟨⟨rfl, rfl, rfl, Document.plain_ofValue (h a (List.mem_cons_self ..)), trivial⟩,
      plainItems_actions fun b hb => h b (List.mem_cons_of_mem _ hb)⟩

/-- A rule whose numbers survive makes a plain document. -/
theorem plain_toDocument {r : Rule} (h : r.EachValue Value.Survives) : r.toDocument.Plain := by
  rw [toDocument, Document.ofNat_eq_ofInt]
  -- The bounds of integers are not to be evaluated at the priority.
  generalize (r.priority.toNat : Int) = k
  apply plain_record
  · cases r.id <;> trivial
  · rfl
  · rfl
  · trivial
  · exact Document.plain_ofInt k
  · rfl
  · exact Condition.plain_toDocument h.1
  · exact plainItems_actions h.2
  · cases r.createdAt <;> trivial
  · cases r.updatedAt <;> trivial

/-- **A faithful rule is read back from its text if it nests at most `maxNesting` deep, and not
otherwise.** -/
theorem read?_text {r : Rule} (h : r.Faithful) :
    read? r.text = if r.toDocument.nesting ≤ maxNesting then some r else none := by
  rw [read?, text, Document.read?_text (plain_toDocument h.survives), Option.bind_eq_bind,
    Option.bind_some, ofDocument?_toDocument maxNesting h.ordered]

/-- That a rule nests so little that its text is read: two levels less than it may for its
condition, and three less for the settings of each action. -/
def Shallow (r : Rule) : Prop :=
  r.condition.toDocument.nesting ≤ 126 ∧ ∀ a ∈ r.actions, (Value.object a.config).nesting ≤ 124

theorem shallow_iff {r : Rule} : r.Shallow ↔ r.toDocument.nesting ≤ maxNesting :=
  (nesting_le_iff (n := 124)).symm

theorem read?_text_of_shallow {r : Rule} (h : r.Faithful) (hshallow : r.Shallow) :
    read? r.text = some r := by
  rw [read?_text h, if_pos (shallow_iff.mp hshallow)]

/-- **Whatever is read of a text is shallow.** -/
theorem shallow_of_read? {text : String} {r : Rule} (h : read? text = some r) : r.Shallow := by
  obtain ⟨d, -, h⟩ := Option.bind_eq_some_iff.mp h
  obtain ⟨⟨inner, fields⟩, hfields, h⟩ := Option.bind_eq_some_iff.mp h
  obtain rfl : 126 = inner := Nat.succ_inj.mp (Document.limit_of_fields? hfields)
  clear hfields
  split at h
  next heq =>
    cases heq
    -- The ten fields are read in turn. What the two that nest were read from keeps the limit.
    obtain ⟨id, -, h⟩ := Option.bind_eq_some_iff.mp h
    obtain ⟨name, -, h⟩ := Option.bind_eq_some_iff.mp h
    obtain ⟨description, -, h⟩ := Option.bind_eq_some_iff.mp h
    obtain ⟨enabled, -, h⟩ := Option.bind_eq_some_iff.mp h
    obtain ⟨priority, -, h⟩ := Option.bind_eq_some_iff.mp h
    obtain ⟨severity, -, h⟩ := Option.bind_eq_some_iff.mp h
    obtain ⟨condition, hcondition, h⟩ := Option.bind_eq_some_iff.mp h
    obtain ⟨actions, hactions, h⟩ := Option.bind_eq_some_iff.mp h
    obtain ⟨createdAt, -, h⟩ := Option.bind_eq_some_iff.mp h
    obtain ⟨updatedAt, -, h⟩ := Option.bind_eq_some_iff.mp h
    cases h
    constructor
    · obtain ⟨c, -, hc⟩ := of_required hcondition
      exact (Condition.bounded_of_ofDocument? hc).2
    · rcases of_withDefault hactions with rfl | ⟨d, -, hd⟩
      · exact fun _ ha => nomatch ha
      · obtain ⟨⟨inner, items⟩, hitems, hd⟩ := Option.bind_eq_some_iff.mp hd
        obtain rfl : 125 = inner := Nat.succ_inj.mp (Document.limit_of_items? hitems)
        have hpos : 1 ≤ 124 := Nat.le_add_left 1 123
        exact forall_of_mapM hd fun _ _ a ha => (Action.nesting_of_ofDocument? hpos ha).2
  next => exact nomatch h

/-- A rule is shallow if its condition is not too deep for the values it compares with. -/
theorem shallow_of_depth {r : Rule} {n : Nat} (hvalues : r.condition.EachValue (·.nesting ≤ n))
    (hdepth : 2 * r.condition.depth + n ≤ 126)
    (hconfigs : ∀ a ∈ r.actions, (Value.object a.config).nesting ≤ 124) : r.Shallow :=
  ⟨Nat.le_trans (Condition.nesting_le_depth hvalues) hdepth, hconfigs⟩

theorem shallow_onStatus (status : String) : (onStatus status).Shallow :=
  shallow_of_depth (n := 0) (Nat.le_refl 0) (Nat.le_add_left 2 124) fun _ h => nomatch h

/-- There is a faithful and shallow rule with any identifier. -/
theorem exists_faithful (id : Uuid) (status : String) :
    ∃ r : Rule, r.id = some id ∧ r.name = status ∧ r.Faithful ∧ r.Shallow :=
  ⟨{ onStatus status with id := some id }, rfl, rfl,
    ⟨(faithful_onStatus status).ordered, (faithful_onStatus status).survives⟩,
    shallow_onStatus status⟩

theorem read?_onStatus (status : String) (id : Option Uuid) :
    read? { onStatus status with id := id : Rule }.text =
      some { onStatus status with id := id } := by
  apply read?_text_of_shallow
  · exact ⟨(faithful_onStatus status).ordered, (faithful_onStatus status).survives⟩
  · exact shallow_onStatus status

end Rule

end AlertRules
