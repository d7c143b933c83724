import AlertRules.Proofs.Codec.Rule
import AlertRules.Validation

/-!
# Outlines of conditions

A check does not look at all there is in a condition: of the value a comparison expects it sees the
text, if it is one, and otherwise whether it is a list. That is the outline (`Condition.outline`),
and checks and depth are functions of it (`Validator.check_eq_of_outline`).

What the text of a rule is read as has the outline of the rule, because its numbers are all that may
have changed on the way. So this needs no assumption on numbers.

> `Rule.outline_of_read?`: whatever is read from the text of a rule has its identifier and its name,
> is enabled if it is, and has a condition of the same outline.
-/

namespace AlertRules

open Json

/-- What a check sees of a value: a text, or else whether it is a list. -/
def Json.Value.outline : Value → Value
  | .string s => .string s
  | .array _ => .array []
  | .null | .bool _ | .number _ | .object _ => .null

namespace Condition

mutual

/-- What a check sees of a condition. -/
def outline : Condition → Condition
  | .comparison c => .comparison { c with value := c.value.outline }
  | .allOf children => .allOf (outlines children)
  | .anyOf children => .anyOf (outlines children)
  | .empty => .empty

/-- What a check sees of conditions. -/
def outlines : List Condition → List Condition
  | [] => []
  | c :: rest => outline c :: outlines rest

end

theorem outlines_eq_map (cs : List Condition) : outlines cs = cs.map outline := by
  induction cs with
  | nil => rfl
  | cons c rest ih => rw [outlines, ih, List.map_cons]

mutual

theorem depth_outline : ∀ c : Condition, c.outline.depth = c.depth
  | .comparison _ => rfl
  | .empty => rfl
  | .allOf cs => by rw [outline, depth, depth, depthOfList_outlines cs]
  | .anyOf cs => by rw [outline, depth, depth, depthOfList_outlines cs]

theorem depthOfList_outlines : ∀ cs : List Condition, depthOfList (outlines cs) = depthOfList cs
  | [] => rfl
  | c :: rest => by
    rw [outlines, depthOfList, depthOfList, depth_outline c, depthOfList_outlines rest]

end

end Condition

/-! ## Checks -/

namespace Validator

variable (v : Validator)

theorem checkComparison_outline (path : String) (c : Comparison) :
    v.checkComparison path { c with value := c.value.outline } = v.checkComparison path c := by
  obtain ⟨field, op, value⟩ := c
  cases op <;> cases value <;> rfl

mutual

/-- A check of a condition sees its outline. -/
theorem checkCondition_outline : ∀ (path : String) (c : Condition),
    v.checkCondition path c.outline = v.checkCondition path c
  | _, .empty => rfl
  | path, .comparison c => v.checkComparison_outline path c
  | _, .allOf [] => rfl
  | _, .anyOf [] => rfl
  | path, .allOf (c :: rest) => checkChildren_outlines (path ++ ".and") 0 (c :: rest)
  | path, .anyOf (c :: rest) => checkChildren_outlines (path ++ ".or") 0 (c :: rest)

theorem checkChildren_outlines : ∀ (path : String) (index : Nat) (cs : List Condition),
    v.checkChildren path index (Condition.outlines cs) = v.checkChildren path index cs
  | _, _, [] => rfl
  | path, index, c :: rest => by
    rw [Condition.outlines, checkChildren, checkChildren,
      checkCondition_outline (childPath path index) c, checkChildren_outlines path (index + 1) rest]

end

/-- **Rules of one name whose conditions have the same outline** are checked alike. -/
theorem check_eq_of_outline {q r : Rule} (hname : q.name = r.name)
    (hcondition : q.condition.outline = r.condition.outline) : v.check q = v.check r := by
  unfold check
  rw [hname, ← q.condition.depth_outline, ← r.condition.depth_outline,
    ← v.checkCondition_outline "condition" q.condition,
    ← v.checkCondition_outline "condition" r.condition, hcondition]

end Validator

/-! ## Reading -/

theorem Json.Document.rereadItems_eq_map (items : List Document) :
    rereadItems items = items.map reread := by
  induction items with
  | nil => rfl
  | cons d rest ih => rw [rereadItems, ih, List.map_cons]

/-- What the text of a value is read as has its outline. -/
theorem outline_of_toValue? {limit : Nat} {v w : Value}
    (h : (Document.ofValue v).reread.toValue? limit = some w) : w.outline = v.outline := by
  cases v with
  | null =>
    cases h
    rfl
  | bool b =>
    cases h
    rfl
  | number n =>
    obtain ⟨m, -, rfl⟩ := Option.map_eq_some_iff.mp h
    rfl
  | string s =>
    cases h
    rfl
  | array items =>
    cases limit with
    | zero => exact nomatch h
    | succ limit =>
      obtain ⟨vs, -, rfl⟩ := Option.map_eq_some_iff.mp h
      rfl
  | object fields =>
    cases limit with
    | zero => exact nomatch h
    | succ limit =>
      obtain ⟨vs, -, rfl⟩ := Option.map_eq_some_iff.mp h
      rfl

theorem outline_of_optional {limit : Nat} {v : Value} {found : Option Value}
    (h : Document.optional (Document.toValue? limit) (some (Document.ofValue v).reread) =
      some found) : (found.getD .null).outline = v.outline := by
  unfold Document.optional at h
  split at h
  next heq => exact nomatch heq
  next heq =>
    -- Only null is read as null.
    have hnull : v = .null := by cases v <;> simp [Document.ofValue, Document.reread] at heq ⊢
    subst hnull
    cases h
    rfl
  next heq =>
    cases heq
    obtain ⟨w, hw, rfl⟩ := Option.map_eq_some_iff.mp h
    exact outline_of_toValue? hw

/-- Parts that are read with something kept are read as a list with it kept of each. -/
theorem map_eq_of_mapM {α β γ : Type} {read : α → Option β} {kept : β → γ} {known : α → γ} :
    ∀ {items : List α} {results : List β}, items.mapM read = some results →
      (∀ a ∈ items, ∀ b, read a = some b → kept b = known a) →
        results.map kept = items.map known
  | [], results, h, _ => by
    cases h
    rfl
  | a :: rest, results, h, hkept => by
    rw [List.mapM_cons] at h
    obtain ⟨b, hb, h⟩ := Option.bind_eq_some_iff.mp h
    obtain ⟨bs, hbs, h⟩ := Option.bind_eq_some_iff.mp h
    cases h
    rw [List.map_cons, List.map_cons, hkept a (List.mem_cons_self ..) b hb,
      map_eq_of_mapM hbs fun c hc => hkept c (List.mem_cons_of_mem _ hc)]

namespace Condition

theorem outline_of_node?_comparison {child : Document → Option Condition} {limit : Nat}
    {c : Comparison} {q : Condition}
    (h : node? child (limit + 1) (toDocument (.comparison c)).reread = some q) :
    q.outline = (Condition.comparison c).outline := by
  have hnode : node? child (limit + 1) (toDocument (.comparison c)).reread =
      ((Operator.ofDocument? limit c.op.toDocument).map some).bind fun op =>
        (Document.optional (Document.toValue? limit) (some (Document.ofValue c.value).reread)).bind
          fun v => some (ofParts (some c.field) op v none none) := rfl
  rw [hnode, Operator.ofDocument?_toDocument, Option.map_some, Option.bind_some] at h
  obtain ⟨v, hv, h⟩ := Option.bind_eq_some_iff.mp h
  cases h
  rw [ofParts, outline, outline, outline_of_optional hv]

/-- The children of a group are read one by one. -/
theorem outlines_of_mapM {child : Document → Option Condition} {cs qs : List Condition}
    (h : (Document.rereadItems (toDocuments cs)).mapM child = some qs)
    (hchild : ∀ c ∈ cs, ∀ q, child c.toDocument.reread = some q → q.outline = c.outline) :
    outlines qs = outlines cs := by
  rw [toDocuments_eq_map, Document.rereadItems_eq_map, List.map_map, List.mapM_map] at h
  rw [outlines_eq_map, outlines_eq_map]
  exact map_eq_of_mapM h hchild

/-- A group is read with children of the same outlines. -/
theorem outlines_of_group {child : Document → Option Condition} {cs : List Condition}
    {q : Condition} {build : Option (List Condition) → Condition}
    (h : ((((Document.rereadItems (toDocuments cs)).mapM child).map some).bind fun found =>
      some (build found)) = some q)
    (hchild : ∀ c ∈ cs, ∀ q, child c.toDocument.reread = some q → q.outline = c.outline) :
    ∃ qs, q = build (some qs) ∧ outlines qs = outlines cs := by
  obtain ⟨found, hfound, h⟩ := Option.bind_eq_some_iff.mp h
  obtain ⟨qs, hqs, rfl⟩ := Option.map_eq_some_iff.mp hfound
  cases h
  exact ⟨qs, rfl, outlines_of_mapM hqs hchild⟩

theorem outline_of_node?_allOf {child : Document → Option Condition} {limit : Nat}
    {cs : List Condition} {q : Condition}
    (h : node? child (limit + 2) (toDocument (.allOf cs)).reread = some q)
    (hchild : ∀ c ∈ cs, ∀ q, child c.toDocument.reread = some q → q.outline = c.outline) :
    q.outline = (Condition.allOf cs).outline := by
  have hnode : node? child (limit + 2) (toDocument (.allOf cs)).reread =
      (((Document.rereadItems (toDocuments cs)).mapM child).map some).bind fun all =>
        some (ofParts none none none all none) := rfl
  rw [hnode] at h
  obtain ⟨qs, rfl, hqs⟩ := outlines_of_group h hchild
  exact congrArg Condition.allOf hqs

theorem outline_of_node?_anyOf {child : Document → Option Condition} {limit : Nat}
    {cs : List Condition} {q : Condition}
    (h : node? child (limit + 2) (toDocument (.anyOf cs)).reread = some q)
    (hchild : ∀ c ∈ cs, ∀ q, child c.toDocument.reread = some q → q.outline = c.outline) :
    q.outline = (Condition.anyOf cs).outline := by
  have hnode : node? child (limit + 2) (toDocument (.anyOf cs)).reread =
      (((Document.rereadItems (toDocuments cs)).mapM child).map some).bind fun any =>
        some (ofParts none none none none any) := rfl
  rw [hnode] at h
  obtain ⟨qs, rfl, hqs⟩ := outlines_of_group h hchild
  exact congrArg Condition.anyOf hqs

/-- **What the text of a condition is read as has its outline.** -/
theorem outline_of_ofDocument? : ∀ {c : Condition} {limit : Nat} {q : Condition},
    ofDocument? limit c.toDocument.reread = some q → q.outline = c.outline
  | c, 0, _, h => by
    have hnothing : ofDocument? 0 c.toDocument.reread = none := by cases c <;> rfl
    rw [hnothing] at h
    exact nomatch h
  | .comparison _, 1, _, h => outline_of_node?_comparison h
  | .comparison _, _ + 2, _, h => outline_of_node?_comparison h
  | .empty, 1, _, h => by
    cases h
    rfl
  | .empty, _ + 2, _, h => by
    cases h
    rfl
  | .allOf _, 1, _, h => nomatch h
  | .anyOf _, 1, _, h => nomatch h
  | .allOf _, _ + 2, _, h => outline_of_node?_allOf h fun _ _ _ hq => outline_of_ofDocument? hq
  | .anyOf _, _ + 2, _, h => outline_of_node?_anyOf h fun _ _ _ hq => outline_of_ofDocument? hq
  termination_by c => c

end Condition

namespace Rule

theorem reread_record (id name description enabled priority severity condition actions createdAt
    updatedAt : Document) :
    (Document.record [("id", id), ("name", name), ("description", description),
      ("enabled", enabled), ("priority", priority), ("severity", severity),
      ("condition", condition), ("actions", actions), ("created_at", createdAt),
      ("updated_at", updatedAt)]).reread =
    Document.record [("id", id.reread), ("name", name.reread), ("description", description.reread),
      ("enabled", enabled.reread), ("priority", priority.reread), ("severity", severity.reread),
      ("condition", condition.reread), ("actions", actions.reread),
      ("created_at", createdAt.reread), ("updated_at", updatedAt.reread)] := rfl

/-- **Whatever is read from the text of a rule** has its identifier and its name, is enabled if it
is, and has a condition of the same outline. -/
theorem outline_of_read? {r q : Rule} (h : read? r.text = some q) :
    q.id = r.id ∧ q.name = r.name ∧ q.enabled = r.enabled ∧
      q.condition.outline = r.condition.outline := by
  rw [read?, text, Document.read?_text_eq, Option.bind_eq_bind, Option.bind_some, toDocument,
    reread_record] at h
  have hreread : (Document.ofOption Uuid.toDocument r.id).reread =
      .ofOption Uuid.toDocument r.id := by cases r.id <;> rfl
  have hlimit : ∀ d, ofDocument? maxNesting d = ofDocument? (126 + 1) d := fun _ => rfl
  rw [hlimit, ofDocument?_record, hreread, Uuid.optional_toDocument] at h
  obtain ⟨id, hid, h⟩ := Option.bind_eq_some_iff.mp h
  obtain ⟨name, hname, h⟩ := Option.bind_eq_some_iff.mp h
  obtain ⟨description, -, h⟩ := Option.bind_eq_some_iff.mp h
  obtain ⟨enabled, henabled, h⟩ := Option.bind_eq_some_iff.mp h
  obtain ⟨priority, -, h⟩ := Option.bind_eq_some_iff.mp h
  obtain ⟨severity, -, h⟩ := Option.bind_eq_some_iff.mp h
  obtain ⟨condition, hcondition, h⟩ := Option.bind_eq_some_iff.mp h
  obtain ⟨actions, -, h⟩ := Option.bind_eq_some_iff.mp h
  obtain ⟨createdAt, -, h⟩ := Option.bind_eq_some_iff.mp h
  obtain ⟨updatedAt, -, h⟩ := Option.bind_eq_some_iff.mp h
  cases h
  exact ⟨(Option.some.inj hid).symm, (Option.some.inj hname).symm, (Option.some.inj henabled).symm,
    Condition.outline_of_ofDocument? hcondition⟩

end Rule

end AlertRules
