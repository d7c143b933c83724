import Mathlib.Data.List.Forall2
import AlertRules.Database.RuleTable
import AlertRules.Proofs.Codec.Exchange
import AlertRules.Proofs.Database.Column

/-!
# Rows of rules

What the table is given of a rule is read back from its row, with the identifier and the instants
that the database gives, as long as the two JSON columns can be read. The column of the condition
holds just the text that the condition came in, so it always can. The column of the actions holds
them all: the settings of each stand two levels further down than in the text they came in. So
settings that came in with more than `maxNesting - 2` levels make a row that cannot be read
(`Rule.FitsColumns`).

> `RuleTable.rule_comes_back`: a rule that came in is read back from its row if its settings leave
> the two levels. If not, the row is unreadable, and so is every list that holds it. A priority
> beyond the column is refused before anything is asked.
-/

namespace AlertRules

open Json

/-! ## Columns of conditions -/

namespace Condition

mutual

/-- The document of a condition is that of a value: its members are in order as they are written. -/
theorem exists_ofValue : ∀ {c : Condition}, c.EachValue Value.Ordered →
    ∃ v : Value, v.Ordered ∧ Document.ofValue v = c.toDocument
  | .comparison c, h => by
    have hfield : "field" < "op" ∧ "field" < "value" ∧ "op" < "value" := by decide
    refine ⟨.object [("field", .string c.field), ("op", .string c.op.symbol), ("value", c.value)],
      ⟨?_, trivial, ?_, trivial, ?_, h, trivial⟩, rfl⟩
    · intro f hf
      rcases List.mem_cons.mp hf with rfl | hf
      · exact hfield.1
      · rw [List.mem_singleton.mp hf]
        exact hfield.2.1
    · intro f hf
      rw [List.mem_singleton.mp hf]
      exact hfield.2.2
    · exact fun _ hf => nomatch hf
  | .allOf cs, h => by
    obtain ⟨vs, hvs, heq⟩ := exists_ofItems h
    refine ⟨.object [("and", .array vs)], ⟨fun _ hf => (nomatch hf), hvs, trivial⟩, ?_⟩
    rw [toDocument, ← heq]
    rfl
  | .anyOf cs, h => by
    obtain ⟨vs, hvs, heq⟩ := exists_ofItems h
    refine ⟨.object [("or", .array vs)], ⟨fun _ hf => (nomatch hf), hvs, trivial⟩, ?_⟩
    rw [toDocument, ← heq]
    rfl
  | .empty, _ => ⟨.object [], trivial, rfl⟩

theorem exists_ofItems : ∀ {cs : List Condition}, EachValueOf Value.Ordered cs →
    ∃ vs : List Value, Value.OrderedItems vs ∧ Document.ofItems vs = toDocuments cs
  | [], _ => ⟨[], trivial, rfl⟩
  | c :: rest, h => by
    obtain ⟨v, hv, heq⟩ := exists_ofValue h.1
    obtain ⟨vs, hvs, heqs⟩ := exists_ofItems h.2
    refine ⟨v :: vs, ⟨hv, hvs⟩, ?_⟩
    rw [Document.ofItems, toDocuments, heq, heqs]

end

/-- The value in the column of a condition has its levels, and is read as the condition. -/
theorem exists_shownBy {c : Condition} (hord : c.EachValue Value.Ordered)
    (hnum : c.EachValue Value.Survives) : ∃ v : Value, v.ShownBy c.toDocument.text ∧
      v.nesting = c.toDocument.nesting ∧ RuleRow.readCondition v = .ok c := by
  obtain ⟨v, hv, heq⟩ := exists_ofValue hord
  have hnest : c.toDocument.nesting = v.nesting := by rw [← heq, Document.nesting_ofValue]
  have hvalue : c.toDocument.toValue? c.toDocument.nesting = some v := by
    rw [hnest, ← heq, Document.toValue?_ofValue _ hv, if_pos (Nat.le_refl _)]
  have hread : ofDocument? c.toDocument.nesting c.toDocument = some c := by
    rw [ofDocument?_toDocument _ hord, if_pos (Nat.le_refl _)]
  refine ⟨v, Document.shownBy_text (plain_toDocument hnum) hnest hvalue, hnest.symm, ?_⟩
  rw [RuleRow.readCondition, Document.decodeValue?, heq, hread]

end Condition

/-! ## Columns of actions -/

namespace Action

/-- An action as a value, in which the settings come first. -/
def toValue (a : Action) : Value :=
  .object [("config", .object a.config), ("type", .string a.kind.name)]

theorem nesting_toValue (a : Action) : a.toValue.nesting = a.toDocument.nesting := by
  rw [nesting_toDocument]
  show max (Value.object a.config).nesting (max 0 0) + 1 = _
  rw [Nat.max_self, Nat.max_zero]

/-- The document of an action stands for its value, within the limit. -/
theorem toValue?_toDocument {a : Action} (limit : Nat) (h : (Value.object a.config).Ordered) :
    a.toDocument.toValue? limit =
      if a.toDocument.nesting ≤ limit then some a.toValue else none := by
  rw [nesting_toDocument]
  cases limit with
  | zero => rfl
  | succ limit =>
    have hmembers : a.toDocument.toValue? (limit + 1) =
        ((Document.ofValue (.object a.config)).toValue? limit).map fun v =>
          .ofMembers [("type", .string a.kind.name), ("config", v)] := by
      show (Document.toFields? limit [(some "type", .string (some a.kind.name)),
        (some "config", .ofValue (.object a.config))]).map Value.ofMembers = _
      simp only [Document.toFields?, Document.toValue?, Option.map_some]
      cases (Document.ofValue (.object a.config)).toValue? limit <;> rfl
    have hsorted : Value.ofMembers [("type", .string a.kind.name), ("config", .object a.config)] =
        a.toValue := by
      have hlt : "config" < "type" := by decide
      simp [Value.ofMembers, Value.fieldsOf, Value.insertField, hlt, toValue]
    rw [hmembers, Document.toValue?_ofValue limit h]
    by_cases hn : (Value.object a.config).nesting ≤ limit
    · rw [if_pos hn, if_pos (by omega), Option.map_some, hsorted]
    · rw [if_neg hn, if_neg (by omega), Option.map_none]

theorem toItems?_toDocument : ∀ {actions : List Action} (limit : Nat),
    (∀ a ∈ actions, (Value.object a.config).Ordered) →
      Document.nestingOfItems (actions.map toDocument) ≤ limit →
        Document.toItems? limit (actions.map toDocument) = some (actions.map toValue)
  | [], _, _, _ => by rw [List.map_nil, Document.toItems?, List.map_nil]
  | a :: rest, limit, hord, hle => by
    rw [List.forall_mem_cons] at hord
    obtain ⟨hfirst, hrest⟩ := Nat.max_le.mp hle
    rw [List.map_cons, Document.toItems?, toValue?_toDocument limit hord.1, if_pos hfirst,
      toItems?_toDocument limit hord.2 hrest]
    rfl

theorem nestingOfItems_toValue (actions : List Action) :
    Value.nestingOfItems (actions.map toValue) =
      Document.nestingOfItems (actions.map toDocument) := by
  induction actions with
  | nil => rfl
  | cons a rest ih =>
    rw [List.map_cons, Value.nestingOfItems, nesting_toValue, ih, List.map_cons,
      Document.nestingOfItems]

theorem ofItems_toValue (actions : List Action) :
    Document.ofItems (actions.map toValue) = actions.map fun a => Document.ofValue a.toValue := by
  induction actions with
  | nil => rfl
  | cons a rest ih => rw [List.map_cons, Document.ofItems, ih, List.map_cons]

/-- An action is read back from its value: fields are found wherever they stand. -/
theorem ofDocument?_toValue {a : Action} (limit : Nat) (h : (Value.object a.config).Ordered) :
    ofDocument? limit (.ofValue a.toValue) =
      if (Document.ofValue a.toValue).nesting ≤ limit then some a else none := by
  have hsame : ofDocument? limit (.ofValue a.toValue) = ofDocument? limit a.toDocument := by
    cases limit <;> rfl
  rw [hsame, ofDocument?_toDocument limit h, Document.nesting_ofValue, nesting_toValue]

/-- The value in the column of actions has its levels, and is read as the actions. -/
theorem exists_shownBy {actions : List Action}
    (hord : ∀ a ∈ actions, (Value.object a.config).Ordered)
    (hnum : ∀ a ∈ actions, (Value.object a.config).Survives) :
    ∃ v : Value, v.ShownBy (Document.ofList toDocument actions).text ∧
      v.nesting = Document.nestingOfItems (actions.map toDocument) + 1 ∧
      RuleRow.readActions v = .ok actions := by
  have hnest : (Value.array (actions.map toValue)).nesting =
      Document.nestingOfItems (actions.map toDocument) + 1 := by
    rw [Value.nesting, nestingOfItems_toValue]
  have hvalue : (Document.ofList toDocument actions).toValue?
      (Document.ofList toDocument actions).nesting = some (.array (actions.map toValue)) := by
    rw [Document.ofList, Document.nesting, Document.toValue?,
      toItems?_toDocument _ hord (Nat.le_refl _), Option.map_some]
  have hplain : (Document.ofList toDocument actions).Plain := Rule.plainItems_actions hnum
  refine ⟨.array (actions.map toValue), Document.shownBy_text hplain hnest.symm hvalue, hnest, ?_⟩
  have hread : Document.decodeValue? (Document.list? ofDocument?) (.array (actions.map toValue)) =
      (Document.ofItems (actions.map toValue)).mapM
        (ofDocument? (Document.nestingOfItems (Document.ofItems (actions.map toValue)))) := rfl
  rw [RuleRow.readActions, hread, ofItems_toValue,
    mapM_readBack fun a ha => ofDocument?_toValue _ (hord a ha), if_pos (Nat.le_refl _)]

end Action

/-! ## Rows -/

/-- The row that a database keeps of the cells it was given: it puts the identifier before them and
the two instants behind. -/
def Row.Keeps (id : Uuid) (createdAt updatedAt : Timestamp) (given : List Cell)
    (row : Row) : Prop :=
  ∃ kept, List.Forall₂ Cell.ComesBack given kept ∧
    row = .uuid id :: (kept ++ [.instant createdAt, .instant updatedAt])

theorem Cell.ComesBack.eq {given kept : Cell} (h : ComesBack given kept)
    (hjson : ∀ text, given ≠ .json text) : kept = given := by
  cases h with
  | same => rfl
  | json => exact absurd rfl (hjson _)

theorem Cell.ComesBack.of_json {v : Value} {given : String} {cell : Cell}
    (h : ComesBack (.json given) cell) (hv : v.ShownBy given) :
    ∃ kept, cell = .json kept ∧ v.ShownBy kept := by
  cases h with
  | same => exact ⟨given, rfl, hv⟩
  | json hgiven hkept =>
    obtain rfl := Value.eq_of_shownBy hgiven hv
    exact ⟨_, rfl, hkept⟩

theorem Severity.read_name (v : Severity) : read v.name = .ok v := by
  have hupper : v.name.map Char.toUpper = v.name := by
    rw [← String.toList_inj, String.toList_map]
    cases v <;> decide
  have hname : ofName? v.name = some v := by
    cases v <;> decide
  rw [read, hupper, hname]

theorem RuleRow.readPriority_toNat (p : UInt32) : readPriority p.toNat = .ok p := by
  rw [readPriority, if_pos (Int.natCast_nonneg _), Int.toNat_natCast, UInt32.ofNat_toNat]

namespace Rule

/-- That the columns of a rule can be read: settings stand two levels down in theirs. -/
def FitsColumns (r : Rule) : Prop :=
  r.condition.toDocument.nesting ≤ maxNesting ∧
    ∀ a ∈ r.actions, (Value.object a.config).nesting + 2 ≤ maxNesting

/-- The rule as the database gives it back. -/
def stored (r : Rule) (id : Uuid) (createdAt updatedAt : Timestamp) : Rule :=
  { r with id := some id, createdAt := some createdAt, updatedAt := some updatedAt }

theorem fitsColumns_iff {r : Rule} : r.FitsColumns ↔
    r.condition.toDocument.nesting ≤ maxNesting ∧
      Document.nestingOfItems (r.actions.map Action.toDocument) + 1 ≤ maxNesting := by
  have hitems : Document.nestingOfItems (r.actions.map Action.toDocument) ≤ 126 ↔
      ∀ a ∈ r.actions, (Value.object a.config).nesting + 2 ≤ maxNesting := by
    rw [Document.nestingOfItems_le_iff, List.forall_mem_map]
    have hone : ∀ a : Action, a.toDocument.nesting ≤ 126 ↔
        (Value.object a.config).nesting + 2 ≤ 127 := by
      intro a
      rw [Action.nesting_toDocument]
      omega
    exact forall₂_congr fun a _ => hone a
  rw [FitsColumns, ← hitems]
  exact and_congr_right fun _ => Nat.succ_le_succ_iff.symm

end Rule

namespace RuleTable

/-! ## Reading rows -/

/-- A kept row has the cells of its columns; those of condition and actions are texts of their
values. -/
theorem exists_cells {r : Rule} {cells : List Cell} {id : Uuid} {createdAt updatedAt : Timestamp}
    {row : Row} {condition actions : Value} (hcells : authoredCells r = .ok cells)
    (hkeeps : Row.Keeps id createdAt updatedAt cells row)
    (hcondition : condition.ShownBy r.condition.toDocument.text)
    (hactions : actions.ShownBy (Document.ofList Action.toDocument r.actions).text) :
    ∃ conditionText actionsText, condition.ShownBy conditionText ∧ actions.ShownBy actionsText ∧
      row = [.uuid id, .text r.name, .text r.description, .bool r.enabled, .int r.priority.toNat,
        .text r.severity.name, .json conditionText, .json actionsText, .instant createdAt,
        .instant updatedAt] := by
  obtain ⟨priority, hpriority, hcells⟩ := bind_eq_ok hcells
  cases hcells
  obtain rfl : priority = .int r.priority.toNat := by
    unfold priorityCell at hpriority
    split at hpriority
    · exact (Except.ok.inj hpriority).symm
    · exact nomatch hpriority
  obtain ⟨kept, hkept, rfl⟩ := hkeeps
  -- Seven cells were given, so seven came back.
  obtain _ | ⟨hname, hkept⟩ := hkept
  obtain _ | ⟨hdescription, hkept⟩ := hkept
  obtain _ | ⟨henabled, hkept⟩ := hkept
  obtain _ | ⟨hpriority', hkept⟩ := hkept
  obtain _ | ⟨hseverity, hkept⟩ := hkept
  obtain _ | ⟨hcondition', hkept⟩ := hkept
  obtain _ | ⟨hactions', hkept⟩ := hkept
  obtain _ | _ := hkept
  obtain ⟨conditionText, rfl, hconditionText⟩ := hcondition'.of_json hcondition
  obtain ⟨actionsText, rfl, hactionsText⟩ := hactions'.of_json hactions
  obtain rfl := hname.eq fun _ h => nomatch h
  obtain rfl := hdescription.eq fun _ h => nomatch h
  obtain rfl := henabled.eq fun _ h => nomatch h
  obtain rfl := hpriority'.eq fun _ h => nomatch h
  obtain rfl := hseverity.eq fun _ h => nomatch h
  exact ⟨conditionText, actionsText, hconditionText, hactionsText, rfl⟩

variable {r : Rule} {cells : List Cell} {id : Uuid} {createdAt updatedAt : Timestamp} {row : Row}

/-- The row of a faithful rule whose columns can be read holds that rule. -/
theorem readRow_of_fits (h : r.Faithful) (hcells : authoredCells r = .ok cells)
    (hkeeps : Row.Keeps id createdAt updatedAt cells row) (hfits : r.FitsColumns) :
    ∃ read, readRow row = .ok read ∧ read.toRule = .ok (r.stored id createdAt updatedAt) := by
  obtain ⟨condition, hcondition, hconditionNest, hreadCondition⟩ :=
    Condition.exists_shownBy h.ordered.1 h.survives.1
  obtain ⟨actions, hactions, hactionsNest, hreadActions⟩ :=
    Action.exists_shownBy h.ordered.2 h.survives.2
  obtain ⟨conditionText, actionsText, hconditionText, hactionsText, rfl⟩ :=
    exists_cells hcells hkeeps hcondition hactions
  obtain ⟨hconditionFits, hactionsFit⟩ := Rule.fitsColumns_iff.mp hfits
  refine ⟨⟨id, r.name, r.description, r.enabled, r.priority.toNat, r.severity.name, condition,
    actions, createdAt, updatedAt⟩, ?_, ?_⟩
  · rw [readRow, RuleRow.ofCells?, Value.read?_of_shownBy hconditionText,
      Value.read?_of_shownBy hactionsText, if_pos (by rwa [hconditionNest]),
      if_pos (by rwa [hactionsNest])]
    rfl
  · rw [RuleRow.toRule, RuleRow.read, RuleRow.readPriority_toNat, Severity.read_name,
      hreadCondition, hreadActions]
    rfl

/-- The fault of a row that cannot be read. -/
def unreadable : RuleFault := .database "unreadable row"

/-- A row of which a JSON column nests too deep is unreadable. -/
theorem readRow_of_deep (h : r.Faithful) (hcells : authoredCells r = .ok cells)
    (hkeeps : Row.Keeps id createdAt updatedAt cells row) (hdeep : ¬ r.FitsColumns) :
    readRow row = .error unreadable := by
  obtain ⟨condition, hcondition, hconditionNest, -⟩ :=
    Condition.exists_shownBy h.ordered.1 h.survives.1
  obtain ⟨actions, hactions, hactionsNest, -⟩ := Action.exists_shownBy h.ordered.2 h.survives.2
  obtain ⟨conditionText, actionsText, hconditionText, hactionsText, rfl⟩ :=
    exists_cells hcells hkeeps hcondition hactions
  rw [Rule.fitsColumns_iff, ← hconditionNest, ← hactionsNest] at hdeep
  rw [readRow, RuleRow.ofCells?, Value.read?_of_shownBy hconditionText,
    Value.read?_of_shownBy hactionsText]
  by_cases hcondition : condition.nesting ≤ maxNesting
  · rw [if_pos hcondition, if_neg fun hactions => hdeep ⟨hcondition, hactions⟩]
    rfl
  · rw [if_neg hcondition]
    rfl

/-- A list with an unreadable row is not read at all. -/
theorem readRules_of_unreadable {rows : List Row} (hmem : row ∈ rows)
    (hrow : readRow row = .error unreadable) : readRules rows = .error unreadable := by
  have hmap : rows.mapM readRow = .error unreadable := by
    induction rows with
    | nil => exact nomatch hmem
    | cons first rest ih =>
      rw [List.mapM_cons]
      cases hfirst : readRow first with
      | error f =>
        -- Whichever row is unreadable, the fault is the same.
        unfold readRow at hfirst
        split at hfirst
        · exact nomatch hfirst
        · rw [← Except.error.inj hfirst]
          rfl
      | ok read =>
        rcases List.mem_cons.mp hmem with rfl | hmem
        · exact nomatch hrow.symm.trans hfirst
        · rw [ih hmem]
          rfl
  rw [readRules, hmap]
  rfl

end RuleTable

/-! ## Sessions -/

/-- A session against a database that gives one reply to all statements: what it yields, and what it
has asked. -/
def Session.against {α : Type} (reply : Reply) (p : Session α) : α × List DatabaseCall :=
  p.run (fun c asked =>
    (match c with
      | .carryOut _ => .ok reply
      | .start | .commit | .rollback => .ok (), asked ++ [c])) []

namespace RuleTable

/-- That a rule is written by one statement with the cells as its parameters, of which the first row
of the reply is read. -/
structure Writes (r : Rule) (cells : List Cell) : Prop where
  insert : ∀ reply, ∃ sql, (insert r).against reply =
    (readRule reply.rows, [.carryOut ⟨sql, some cells⟩])
  update : ∀ reply id, r.id = some id → ∃ sql, (update r).against reply =
    (readRule? reply.rows, [.carryOut ⟨sql, some (.uuid id :: cells)⟩])

/-- That a row is read as a rule: after a write, when it is asked for alone, and in lists. -/
structure ReadsAs (row : Row) (q : Rule) : Prop where
  written : ∀ rest, readRule (row :: rest) = .ok q ∧ readRule? (row :: rest) = .ok (some q)
  alone : ∀ id rest, ((fetchById id).against { rows := row :: rest }).1 = .ok (some q)
  enabled : ∀ rest rules, (fetchEnabled.against { rows := rest }).1 = .ok rules →
    (fetchEnabled.against { rows := row :: rest }).1 = .ok (q :: rules)
  byIds : ∀ id ids rest rules, ((fetchByIds (id :: ids)).against { rows := rest }).1 = .ok rules →
    ((fetchByIds (id :: ids)).against { rows := row :: rest }).1 = .ok (q :: rules)

/-- That a row makes whatever reads it fail: what wrote it, what asks for it alone, and every list
that it is in, whatever the other rows are. -/
structure Unreadable (row : Row) : Prop where
  written : ∀ rest, readRule (row :: rest) = .error unreadable ∧
    readRule? (row :: rest) = .error unreadable
  alone : ∀ id rest, ((fetchById id).against { rows := row :: rest }).1 = .error unreadable
  enabled : ∀ rows, row ∈ rows → (fetchEnabled.against { rows := rows }).1 = .error unreadable
  byIds : ∀ id ids rows, row ∈ rows →
    ((fetchByIds (id :: ids)).against { rows := rows }).1 = .error unreadable

theorem exists_authoredCells {r : Rule} (h : r.priority.toNat < 0x80000000) :
    ∃ cells, authoredCells r = .ok cells := by
  rw [authoredCells, priorityCell, if_pos h]
  exact ⟨_, rfl⟩

theorem writes_of_authoredCells {r : Rule} {cells : List Cell} (h : authoredCells r = .ok cells) :
    Writes r cells := by
  constructor
  · intro reply
    rw [insert, h]
    exact ⟨_, rfl⟩
  · intro reply id hid
    rw [update, hid, h]
    exact ⟨_, rfl⟩

theorem readsAs_of_readRow {row : Row} {read : RuleRow} {q : Rule} (hread : readRow row = .ok read)
    (hrule : read.toRule = .ok q) : ReadsAs row q := by
  have hfirst : ∀ rest, readRule? (row :: rest) = .ok (some q) := by
    intro rest
    rw [readRule?, hread]
    show (read.toRule).bind _ = _
    rw [hrule]
    rfl
  have hlist : ∀ rest rules, readRules rest = .ok rules →
      readRules (row :: rest) = .ok (q :: rules) := by
    intro rest rules hrest
    obtain ⟨reads, hreads, hrules⟩ := bind_eq_ok hrest
    cases hrules
    have hmap : (row :: rest).mapM readRow = .ok (read :: reads) := by
      rw [List.mapM_cons, hread, hreads]
      rfl
    rw [readRules, hmap]
    show Except.ok (List.filterMap _ (read :: reads)) = _
    rw [List.filterMap_cons, hrule]
    rfl
  refine ⟨fun rest => ⟨?_, hfirst rest⟩, fun _ => hfirst, hlist, fun _ _ => hlist⟩
  rw [readRule, hfirst]
  rfl

theorem unreadable_of_readRow {row : Row} (hrow : readRow row = .error unreadable) :
    Unreadable row := by
  have hfirst : ∀ rest, readRule? (row :: rest) = .error unreadable := by
    intro rest
    rw [readRule?, hrow]
    rfl
  refine ⟨fun rest => ⟨?_, hfirst rest⟩, fun _ => hfirst,
    fun _ hmem => readRules_of_unreadable hmem hrow,
    fun _ _ _ hmem => readRules_of_unreadable hmem hrow⟩
  rw [readRule, hfirst]
  rfl

/-- The fault of a priority that the column cannot hold. -/
def priorityFault (r : Rule) : RuleFault :=
  .invalid "priority" ("优先级超出范围: " ++ toString r.priority.toNat)

theorem refused_of_priority {r : Rule} (h : 0x80000000 ≤ r.priority.toNat) :
    insert r = .done (.error (priorityFault r)) ∧
      ∀ id, r.id = some id → update r = .done (.error (priorityFault r)) := by
  have hcells : authoredCells r = .error (priorityFault r) := by
    rw [authoredCells, priorityCell, if_neg (Nat.not_lt_of_le h)]
    rfl
  constructor
  · rw [insert, hcells]
    rfl
  · intro id hid
    rw [update, hid, hcells]
    rfl

/-- **When rules come back from their rows.** A rule that came in by a message is written by one
statement, and whatever row is kept of it is read as that rule, with the identifier and the instants
of the row, if all its settings nest at least two levels less deep than texts may. If not, the row
makes every read fail that meets it. A rule whose priority the column cannot hold is refused before
anything is asked. -/
theorem rule_comes_back (r : Rule) :
    (∀ m : RuleMessage, m.toRule = .ok r → r.EachValue Value.Survives →
      r.priority.toNat < 0x80000000 → ∃ cells, Writes r cells ∧
        ∀ id createdAt updatedAt row, Row.Keeps id createdAt updatedAt cells row →
          ((∀ a ∈ r.actions, (Value.object a.config).nesting + 2 ≤ maxNesting) →
            (readRow row).bind RuleRow.toRule = .ok (r.stored id createdAt updatedAt) ∧
            ReadsAs row (r.stored id createdAt updatedAt)) ∧
          (¬ (∀ a ∈ r.actions, (Value.object a.config).nesting + 2 ≤ maxNesting) →
            Unreadable row)) ∧
    (0x80000000 ≤ r.priority.toNat →
      insert r = .done (.error (priorityFault r)) ∧
        ∀ id, r.id = some id → update r = .done (.error (priorityFault r))) := by
  refine ⟨fun m hm hnum hpriority => ?_, refused_of_priority⟩
  obtain ⟨cells, hcells⟩ := exists_authoredCells hpriority
  have hfaithful : r.Faithful := ⟨RuleMessage.ordered_of_toRule hm, hnum⟩
  -- The condition stands in its column as it stood in the message.
  have hcondition : r.condition.toDocument.nesting ≤ maxNesting := (Rule.fitsMessage_of_toRule hm).1
  refine ⟨cells, writes_of_authoredCells hcells, fun id createdAt updatedAt row hkeeps =>
    ⟨fun hactions => ?_, fun hdeep => ?_⟩⟩
  · obtain ⟨read, hread, hrule⟩ :=
      readRow_of_fits hfaithful hcells hkeeps ⟨hcondition, hactions⟩
    refine ⟨?_, readsAs_of_readRow hread hrule⟩
    rw [hread]
    exact hrule
  · exact unreadable_of_readRow
      (readRow_of_deep hfaithful hcells hkeeps fun hfits => hdeep hfits.2)

end RuleTable

/-! ## Settings that nest -/

namespace Json.Value

/-- Arrays in arrays, so many levels deep. -/
def tower : (levels : Nat) → Value
  | 0 => .null
  | n + 1 => .array [tower n]

theorem nesting_tower (n : Nat) : (tower n).nesting = n := by
  induction n with
  | zero => rfl
  | succ n ih => rw [tower, nesting, nestingOfItems, nestingOfItems, ih, Nat.max_zero]

theorem ordered_tower (n : Nat) : (tower n).Ordered := by
  induction n with
  | zero => trivial
  | succ n ih => exact ⟨ih, trivial⟩

theorem survives_tower (n : Nat) : (tower n).Survives := by
  induction n with
  | zero => trivial
  | succ n ih => exact ⟨ih, trivial⟩

end Json.Value

namespace Rule

/-- A rule that is valid, with one action whose settings nest one level deeper than the tower in
them. -/
def towering (levels : Nat) : Rule :=
  { onStatus "up" with actions := [⟨.log, [("deep", .tower levels)]⟩] }

theorem nesting_towering (n : Nat) : ∀ a ∈ (towering n).actions,
    (Value.object a.config).nesting = n + 1 := by
  intro a ha
  obtain rfl := List.mem_singleton.mp ha
  show max (Value.tower n).nesting 0 + 1 = n + 1
  rw [Value.nesting_tower, Nat.max_zero]

theorem towering_fits_iff {n : Nat} :
    (∀ a ∈ (towering n).actions, (Value.object a.config).nesting + 2 ≤ maxNesting) ↔
      n + 3 ≤ maxNesting := by
  constructor
  · intro h
    have hle := h _ (List.mem_singleton.mpr rfl)
    rwa [nesting_towering n _ (List.mem_singleton.mpr rfl)] at hle
  · intro h a ha
    rwa [nesting_towering n a ha]

theorem faithful_towering (n : Nat) : (towering n).Faithful := by
  constructor
  · refine ⟨trivial, fun a ha => ?_⟩
    obtain rfl := List.mem_singleton.mp ha
    exact ⟨fun _ hf => (nomatch hf), Value.ordered_tower n, trivial⟩
  · refine ⟨trivial, fun a ha => ?_⟩
    obtain rfl := List.mem_singleton.mp ha
    exact ⟨Value.survives_tower n, trivial⟩

/-- A message that brings such a rule is accepted, up to the limit of texts. -/
theorem accepted_towering {n : Nat} (h : n + 1 ≤ maxNesting) :
    (towering n).toMessage.toRule = .ok (towering n) ∧
      ({} : Validator).check (towering n) = .ok () := by
  constructor
  · refine toRule_toMessage_of_fits (faithful_towering n) ⟨Nat.le_add_left 1 126, fun a ha => ?_⟩
    rw [nesting_towering n a ha]
    exact h
  · have hcheck : ({} : Validator).check (towering n) = ({} : Validator).check (onStatus "up") :=
      rfl
    rw [hcheck]
    rfl

end Rule

namespace RuleTable

/-- The row that holds the very cells it was given. -/
theorem keeps_cells (id : Uuid) (createdAt updatedAt : Timestamp) (cells : List Cell) :
    Row.Keeps id createdAt updatedAt cells
      (.uuid id :: (cells ++ [.instant createdAt, .instant updatedAt])) :=
  ⟨cells, List.forall₂_same.mpr fun c _ => .same c, rfl⟩

/-- The start of 1970, for examples. -/
def epoch : Timestamp := ⟨0, 0, by decide⟩

/-- Settings of 125 levels come back from a row, those of 126 make it unreadable, and the largest
priority is refused. -/
theorem rule_comes_back_towering :
    (∃ cells row, Writes (.towering 124) cells ∧ Row.Keeps (.ofNat 1) epoch epoch cells row ∧
      ReadsAs row ((Rule.towering 124).stored (.ofNat 1) epoch epoch)) ∧
    (∃ cells row, Writes (.towering 125) cells ∧ Row.Keeps (.ofNat 1) epoch epoch cells row ∧
      Unreadable row) ∧
    insert { Rule.towering 1 with priority := 0xffffffff } =
      .done (.error (priorityFault { Rule.towering 1 with priority := 0xffffffff })) := by
  have hpriority : ∀ n, (Rule.towering n).priority.toNat < 0x80000000 :=
    fun _ => (by decide : Rule.defaultPriority.toNat < 0x80000000)
  have hlargest : 0x80000000 ≤
      ({ Rule.towering 1 with priority := 0xffffffff } : Rule).priority.toNat := by decide
  refine ⟨?_, ?_, ((rule_comes_back _).2 hlargest).1⟩
  · obtain ⟨cells, hwrites, hrows⟩ := (rule_comes_back _).1 _
      (Rule.accepted_towering (n := 124) (by decide)).1 (Rule.faithful_towering 124).survives
      (hpriority 124)
    have hkeeps := keeps_cells (.ofNat 1) epoch epoch cells
    exact ⟨cells, _, hwrites, hkeeps,
      ((hrows _ _ _ _ hkeeps).1 (Rule.towering_fits_iff.mpr (by decide))).2⟩
  · obtain ⟨cells, hwrites, hrows⟩ := (rule_comes_back _).1 _
      (Rule.accepted_towering (n := 125) (by decide)).1 (Rule.faithful_towering 125).survives
      (hpriority 125)
    have hkeeps := keeps_cells (.ofNat 1) epoch epoch cells
    exact ⟨cells, _, hwrites, hkeeps,
      (hrows _ _ _ _ hkeeps).2 (mt Rule.towering_fits_iff.mp (by decide))⟩

/-- An accepted rule is lost in its row: settings of 126 levels are taken, and then whatever reads
the row fails. -/
theorem accepted_rule_lost :
    (Rule.towering 125).toMessage.toRule = .ok (.towering 125) ∧
    ({} : Validator).check (.towering 125) = .ok () ∧
    ∃ cells row, Writes (.towering 125) cells ∧ Row.Keeps (.ofNat 1) epoch epoch cells row ∧
      ¬ ReadsAs row ((Rule.towering 125).stored (.ofNat 1) epoch epoch) ∧ Unreadable row := by
  obtain ⟨haccepted, hvalid⟩ := Rule.accepted_towering (n := 125) (by decide)
  obtain ⟨cells, hcells⟩ := exists_authoredCells (r := .towering 125)
    (by decide : Rule.defaultPriority.toNat < 0x80000000)
  have hkeeps := keeps_cells (.ofNat 1) epoch epoch cells
  have hdeep : ¬ (Rule.towering 125).FitsColumns := fun hfits =>
    absurd (Rule.towering_fits_iff.mp hfits.2) (by decide)
  have hunreadable := unreadable_of_readRow
    (readRow_of_deep (Rule.faithful_towering 125) hcells hkeeps hdeep)
  refine ⟨haccepted, hvalid, cells, _, writes_of_authoredCells hcells, hkeeps, fun hreads => ?_,
    hunreadable⟩
  exact nomatch (hreads.alone (.ofNat 1) []).symm.trans (hunreadable.alone (.ofNat 1) [])

end RuleTable

end AlertRules
