import AlertRules.Condition.Codec
import AlertRules.Proofs.Json.RoundTrip

/-!
# Reading back conditions

A condition is read back from its document as far as the limit on nesting allows, and not at all
beyond it (`Condition.ofDocument?_toDocument`). What the reader gives up with every node is what the
node takes: a comparison one level above its value, a group two above its children
(`nesting_allOf`). Conversely nothing that nests deeper is ever read
(`Condition.bounded_of_ofDocument?`).

Readers of parts go over to readers of lists by `mapM_readBack` and `forall_of_mapM`, and the fields
of a record are found where they were put (`Document.pick?_members`).
-/

namespace AlertRules

open Json

/-! ## Lists and records -/

/-- Parts that are read back one by one are read back as a list, if the limit allows for each. -/
theorem mapM_readBack {α : Type} {write : α → Document} {read : Document → Option α} {n : Nat} :
    ∀ {items : List α},
      (∀ a ∈ items, read (write a) = if (write a).nesting ≤ n then some a else none) →
      (items.map write).mapM read =
        if Document.nestingOfItems (items.map write) ≤ n then some items else none
  | [], _ => by simp [Document.nestingOfItems]
  | a :: rest, h => by
    have ha := h a (List.mem_cons_self ..)
    have hrest := mapM_readBack fun b hb => h b (List.mem_cons_of_mem _ hb)
    rw [List.map_cons, List.mapM_cons, ha, hrest, Document.nestingOfItems]
    by_cases hhead : (write a).nesting ≤ n
    · by_cases htail : Document.nestingOfItems (rest.map write) ≤ n
      · rw [if_pos hhead, if_pos htail, if_pos (Nat.max_le.mpr ⟨hhead, htail⟩)]
        rfl
      · rw [if_pos hhead, if_neg htail, if_neg fun hmax => htail (Nat.max_le.mp hmax).2]
        rfl
    · rw [if_neg hhead, if_neg fun hmax => hhead (Nat.max_le.mp hmax).1]
      rfl

/-- What holds of every part that is read holds of every member of a list that is read. -/
theorem forall_of_mapM {α β : Type} {f : α → Option β} {P : β → Prop} :
    ∀ {items : List α} {results : List β}, items.mapM f = some results →
      (∀ a ∈ items, ∀ b, f a = some b → P b) → ∀ b ∈ results, P b
  | [], results, h, _ => by
    cases h
    exact fun b hb => nomatch hb
  | a :: rest, results, h, hP => by
    rw [List.mapM_cons] at h
    obtain ⟨b, hb, h⟩ := Option.bind_eq_some_iff.mp h
    obtain ⟨bs, hbs, h⟩ := Option.bind_eq_some_iff.mp h
    cases h
    have hrest := forall_of_mapM hbs fun a ha => hP a (List.mem_cons_of_mem _ ha)
    intro c hc
    rcases List.mem_cons.mp hc with rfl | hc
    · exact hP a (List.mem_cons_self ..) c hb
    · exact hrest c hc

theorem Json.Document.nestingOfItems_le_iff {n : Nat} {items : List Document} :
    nestingOfItems items ≤ n ↔ ∀ d ∈ items, d.nesting ≤ n := by
  induction items with
  | nil => simp [nestingOfItems]
  | cons d rest ih => rw [nestingOfItems, Nat.max_le, ih, List.forall_mem_cons]

/-- Reading the fields of a record takes one level. -/
theorem Json.Document.limit_of_fields? {names : List String} {d : Document} {limit inner : Nat}
    {fields : List (Option Document)} (h : d.fields? names limit = some (inner, fields)) :
    limit = inner + 1 := by
  unfold fields? at h
  split at h
  next =>
    obtain ⟨ds, -, heq⟩ := Option.map_eq_some_iff.mp h
    cases heq
    rfl
  next =>
    split at h
    · cases h
      rfl
    · exact nomatch h
  next => exact nomatch h

/-- Reading the items of an array takes one level. -/
theorem Json.Document.limit_of_items? {d : Document} {limit inner : Nat} {items : List Document}
    (h : d.items? limit = some (inner, items)) : limit = inner + 1 := by
  unfold items? at h
  split at h
  · cases h
    rfl
  · exact nomatch h

/-- What holds of everything that is read holds of a field that may be null, if it is there. -/
theorem forall_of_optional {α : Type} {read : Document → Option α} {P : α → Prop}
    {field : Option Document} {result : Option α} (h : Document.optional read field = some result)
    (hP : ∀ d a, read d = some a → P a) : ∀ a, result = some a → P a := by
  unfold Document.optional at h
  split at h
  · cases h
    exact fun a ha => nomatch ha
  · cases h
    exact fun a ha => nomatch ha
  · obtain ⟨b, hb, heq⟩ := Option.map_eq_some_iff.mp h
    cases heq
    intro a ha
    cases ha
    exact hP _ _ hb

theorem Operator.ofDocument?_toDocument (limit : Nat) (o : Operator) :
    ofDocument? limit o.toDocument = some o := by
  show ofSymbol? o.symbol = some o
  cases o <;> decide

/-- A field that may be null is read back, whatever its value. -/
theorem optional_ofValue {v : Value} (limit : Nat) (h : v.Ordered) :
    (Document.optional (Document.toValue? limit) (some (.ofValue v))).map (·.getD .null) =
      if v.nesting ≤ limit then some v else none := by
  have hread := Document.toValue?_ofValue limit h
  -- Null alone is not read by the reader of values: it counts as a field that is not there.
  by_cases hnull : v = .null
  · subst hnull
    rfl
  · have hdoc : Document.ofValue v ≠ .null := by
      cases v <;> simp [Document.ofValue] at hnull ⊢
    have hsome : Document.optional (Document.toValue? limit) (some (.ofValue v)) =
        ((Document.ofValue v).toValue? limit).map some := by
      unfold Document.optional
      split <;> simp_all
    rw [hsome, hread]
    by_cases hn : v.nesting ≤ limit
    · rw [if_pos hn]
      rfl
    · rw [if_neg hn]
      rfl

namespace Condition

/-! ## Values of a condition -/

mutual

/-- That something holds of every value a condition compares with. -/
def EachValue (P : Value → Prop) : Condition → Prop
  | .comparison c => P c.value
  | .allOf children | .anyOf children => EachValueOf P children
  | .empty => True

/-- That something holds of every value some conditions compare with. -/
def EachValueOf (P : Value → Prop) : List Condition → Prop
  | [] => True
  | c :: rest => EachValue P c ∧ EachValueOf P rest

end

theorem eachValueOf_iff {P : Value → Prop} {cs : List Condition} :
    EachValueOf P cs ↔ ∀ c ∈ cs, c.EachValue P := by
  induction cs with
  | nil => simp [EachValueOf]
  | cons c rest ih => rw [EachValueOf, ih, List.forall_mem_cons]

theorem toDocuments_eq_map (cs : List Condition) : toDocuments cs = cs.map toDocument := by
  induction cs with
  | nil => rfl
  | cons c rest ih => rw [toDocuments, ih, List.map_cons]

mutual

/-- A condition whose numbers survive makes a plain document. -/
theorem plain_toDocument : ∀ {c : Condition}, c.EachValue Value.Survives → c.toDocument.Plain
  | .comparison _, h => ⟨rfl, rfl, rfl, rfl, rfl, Document.plain_ofValue h, trivial⟩
  | .allOf _, h => ⟨rfl, plainItems_toDocuments h, trivial⟩
  | .anyOf _, h => ⟨rfl, plainItems_toDocuments h, trivial⟩
  | .empty, _ => trivial

theorem plainItems_toDocuments : ∀ {cs : List Condition}, EachValueOf Value.Survives cs →
    Document.PlainItems (toDocuments cs)
  | [], _ => trivial
  | _ :: _, h => ⟨plain_toDocument h.1, plainItems_toDocuments h.2⟩

end

/-! ## Nesting -/

theorem nesting_comparison (c : Comparison) :
    (toDocument (.comparison c)).nesting = c.value.nesting + 1 := by
  show max 0 (max 0 (max (Document.ofValue c.value).nesting 0)) + 1 = c.value.nesting + 1
  rw [Document.nesting_ofValue, Nat.zero_max, Nat.zero_max, Nat.max_zero]

theorem nesting_allOf (cs : List Condition) :
    (toDocument (.allOf cs)).nesting = Document.nestingOfItems (cs.map toDocument) + 2 := by
  rw [← toDocuments_eq_map]
  rfl

theorem nesting_anyOf (cs : List Condition) :
    (toDocument (.anyOf cs)).nesting = Document.nestingOfItems (cs.map toDocument) + 2 := by
  rw [← toDocuments_eq_map]
  rfl

theorem nesting_empty : (toDocument .empty).nesting = 1 := rfl

theorem nesting_pos (c : Condition) : 0 < c.toDocument.nesting := by
  cases c <;> exact Nat.succ_pos _

theorem depth_le_depthOfList {c : Condition} : ∀ {cs : List Condition}, c ∈ cs →
    c.depth ≤ depthOfList cs
  | [], h => nomatch h
  | d :: rest, h => by
    rw [depthOfList]
    rcases List.mem_cons.mp h with rfl | h
    · exact Nat.le_max_left _ _
    · exact Nat.le_trans (depth_le_depthOfList h) (Nat.le_max_right _ _)

theorem nestingOfItems_le_depth {n : Nat} {cs : List Condition}
    (h : ∀ c ∈ cs, c.toDocument.nesting ≤ 2 * c.depth + n) :
    Document.nestingOfItems (cs.map toDocument) ≤ 2 * depthOfList cs + n := by
  rw [Document.nestingOfItems_le_iff]
  intro d hd
  obtain ⟨c, hc, rfl⟩ := List.mem_map.mp hd
  have hnest := h c hc
  have hdepth := depth_le_depthOfList hc
  omega

/-- Every level of a condition takes two levels of its document at most. -/
theorem nesting_le_depth {n : Nat} : ∀ {c : Condition}, c.EachValue (·.nesting ≤ n) →
    c.toDocument.nesting ≤ 2 * c.depth + n
  | .comparison c, h => by
    have hvalue : c.value.nesting ≤ n := h
    rw [nesting_comparison, depth]
    omega
  | .empty, _ => by
    rw [nesting_empty, depth]
    omega
  | .allOf cs, h => by
    have hitems := nestingOfItems_le_depth fun c hc =>
      nesting_le_depth (eachValueOf_iff.mp h c hc)
    rw [nesting_allOf, depth]
    omega
  | .anyOf cs, h => by
    have hitems := nestingOfItems_le_depth fun c hc =>
      nesting_le_depth (eachValueOf_iff.mp h c hc)
    rw [nesting_anyOf, depth]
    omega
  termination_by c => c

/-! ## Reading back -/

/-- A comparison is read back by a reader of nodes if the limit allows for its value. -/
theorem node?_comparison (child : Document → Option Condition) (limit : Nat) {c : Comparison}
    (h : c.value.Ordered) :
    node? child (limit + 1) (toDocument (.comparison c)) =
      if (toDocument (.comparison c)).nesting ≤ limit + 1 then some (.comparison c) else none := by
  have hnode : node? child (limit + 1) (toDocument (.comparison c)) =
      ((Operator.ofDocument? limit c.op.toDocument).map some).bind fun op =>
        (Document.optional (Document.toValue? limit) (some (.ofValue c.value))).bind fun v =>
          some (ofParts (some c.field) op v none none) := rfl
  have hvalue := optional_ofValue limit h
  rw [hnode, Operator.ofDocument?_toDocument, Option.map_some, Option.bind_some, nesting_comparison]
  by_cases hn : c.value.nesting ≤ limit
  · rw [if_pos hn] at hvalue
    rw [if_pos (by omega)]
    obtain ⟨v, hv, hget⟩ := Option.map_eq_some_iff.mp hvalue
    rw [hv, Option.bind_some, ofParts, hget]
  · rw [if_neg hn] at hvalue
    rw [if_neg (by omega), Option.map_eq_none_iff.mp hvalue, Option.bind_none]

theorem node?_allOf (child : Document → Option Condition) (limit : Nat) (cs : List Condition) :
    node? child (limit + 2) (toDocument (.allOf cs)) =
      ((cs.map toDocument).mapM child).map .allOf := by
  rw [← toDocuments_eq_map]
  have hnode : node? child (limit + 2) (toDocument (.allOf cs)) =
      (((toDocuments cs).mapM child).map some).bind fun all =>
        some (ofParts none none none all none) := rfl
  rw [hnode]
  cases (toDocuments cs).mapM child <;> rfl

theorem node?_anyOf (child : Document → Option Condition) (limit : Nat) (cs : List Condition) :
    node? child (limit + 2) (toDocument (.anyOf cs)) =
      ((cs.map toDocument).mapM child).map .anyOf := by
  rw [← toDocuments_eq_map]
  have hnode : node? child (limit + 2) (toDocument (.anyOf cs)) =
      (((toDocuments cs).mapM child).map some).bind fun any =>
        some (ofParts none none none none any) := rfl
  rw [hnode]
  cases (toDocuments cs).mapM child <;> rfl

/-- A group is read back if its children are, with two levels more. -/
theorem group_readBack {child : Document → Option Condition} {limit : Nat} {cs : List Condition}
    (group : List Condition → Condition)
    (h : ∀ c ∈ cs, child c.toDocument = if c.toDocument.nesting ≤ limit then some c else none) :
    ((cs.map toDocument).mapM child).map group =
      if Document.nestingOfItems (cs.map toDocument) + 2 ≤ limit + 2 then some (group cs)
        else none := by
  rw [mapM_readBack h]
  by_cases hn : Document.nestingOfItems (cs.map toDocument) ≤ limit
  · rw [if_pos hn, if_pos (by omega)]
    rfl
  · rw [if_neg hn, if_neg (by omega)]
    rfl

/-- **A condition is read back from its document within the limit, and not beyond it.** -/
theorem ofDocument?_toDocument : ∀ {c : Condition} (limit : Nat), c.EachValue Value.Ordered →
    ofDocument? limit c.toDocument = if c.toDocument.nesting ≤ limit then some c else none
  | c, 0, _ => by
    have hnest := c.nesting_pos
    rw [if_neg (by omega)]
    cases c <;> rfl
  | .comparison c, 1, h => by
    rw [ofDocument?]
    exact node?_comparison _ 0 h
  | .comparison c, limit + 2, h => by
    rw [ofDocument?]
    exact node?_comparison _ (limit + 1) h
  | .empty, 1, _ => rfl
  | .empty, limit + 2, _ => rfl
  | .allOf cs, 1, _ => by
    rw [nesting_allOf, if_neg (by omega)]
    rfl
  | .anyOf cs, 1, _ => by
    rw [nesting_anyOf, if_neg (by omega)]
    rfl
  | .allOf cs, limit + 2, h => by
    rw [ofDocument?, node?_allOf, nesting_allOf]
    exact group_readBack .allOf fun c hc =>
      ofDocument?_toDocument (c := c) limit (eachValueOf_iff.mp h c hc)
  | .anyOf cs, limit + 2, h => by
    rw [ofDocument?, node?_anyOf, nesting_anyOf]
    exact group_readBack .anyOf fun c hc =>
      ofDocument?_toDocument (c := c) limit (eachValueOf_iff.mp h c hc)
  termination_by c => c

/-! ## Whatever is read keeps the limit -/

/-- The values of a condition are ordered, and its document nests at most so deep. -/
def Bounded (limit : Nat) (c : Condition) : Prop :=
  c.EachValue Value.Ordered ∧ c.toDocument.nesting ≤ limit

theorem bounded_comparison {limit : Nat} {c : Comparison} (hord : c.value.Ordered)
    (hnest : c.value.nesting ≤ limit) : Bounded (limit + 1) (.comparison c) := by
  refine ⟨hord, ?_⟩
  rw [nesting_comparison]
  omega

theorem bounded_empty (limit : Nat) : Bounded (limit + 1) .empty :=
  ⟨trivial, Nat.succ_le_succ (Nat.zero_le limit)⟩

/-- Children that keep a limit make groups that keep one two above it. -/
theorem bounded_group {limit : Nat} {cs : List Condition} (h : ∀ c ∈ cs, Bounded limit c) :
    Bounded (limit + 2) (.allOf cs) ∧ Bounded (limit + 2) (.anyOf cs) := by
  have hvalues : EachValueOf Value.Ordered cs := eachValueOf_iff.mpr fun c hc => (h c hc).1
  have hnest : Document.nestingOfItems (cs.map toDocument) ≤ limit := by
    rw [Document.nestingOfItems_le_iff]
    intro d hd
    obtain ⟨c, hc, rfl⟩ := List.mem_map.mp hd
    exact (h c hc).2
  constructor
  · refine ⟨hvalues, ?_⟩
    rw [nesting_allOf]
    omega
  · refine ⟨hvalues, ?_⟩
    rw [nesting_anyOf]
    omega

theorem bounded_of_children? {child : Document → Option Condition} {limit : Nat} {d : Document}
    {cs : List Condition} (h : children? child limit d = some cs)
    (hchild : ∀ d c, child d = some c → Bounded (limit - 1) c) :
    1 ≤ limit ∧ ∀ c ∈ cs, Bounded (limit - 1) c := by
  obtain ⟨⟨inner, items⟩, hitems, h⟩ := Option.bind_eq_some_iff.mp h
  have hlimit := Document.limit_of_items? hitems
  refine ⟨by omega, ?_⟩
  exact forall_of_mapM h fun d _ c hc => hchild d c hc

/-- Parts one level down make a condition that keeps the limit. -/
theorem bounded_ofParts {inner : Nat} {field : Option String} {op : Option Operator}
    {value : Option Value} {all any : Option (List Condition)}
    (hvalue : ∀ v, value = some v → v.Ordered ∧ v.nesting ≤ inner)
    (hall : ∀ cs, all = some cs → 1 ≤ inner ∧ ∀ c ∈ cs, Bounded (inner - 1) c)
    (hany : ∀ cs, any = some cs → 1 ≤ inner ∧ ∀ c ∈ cs, Bounded (inner - 1) c) :
    Bounded (inner + 1) (ofParts field op value all any) := by
  unfold ofParts
  split
  next cs =>
    obtain ⟨hpos, hcs⟩ := hall cs rfl
    have hbound := (bounded_group hcs).1
    rwa [show inner - 1 + 2 = inner + 1 by omega] at hbound
  next cs =>
    obtain ⟨hpos, hcs⟩ := hany cs rfl
    have hbound := (bounded_group hcs).2
    rwa [show inner - 1 + 2 = inner + 1 by omega] at hbound
  next =>
    cases value with
    | none => exact bounded_comparison trivial (Nat.zero_le inner)
    | some v => exact bounded_comparison (hvalue v rfl).1 (hvalue v rfl).2
  next => exact bounded_empty inner

/-- A reader of nodes keeps the limit if its reader of children keeps one two below it. -/
theorem bounded_of_node? {child : Document → Option Condition} {limit : Nat} {d : Document}
    {c : Condition} (h : node? child limit d = some c)
    (hchild : ∀ d c, child d = some c → Bounded (limit - 2) c) : Bounded limit c := by
  obtain ⟨⟨inner, fields⟩, hfields, hnode⟩ := Option.bind_eq_some_iff.mp h
  obtain rfl := Document.limit_of_fields? hfields
  clear h
  -- There are five fields, as there are five names.
  split at hnode
  next heq =>
    cases heq
    obtain ⟨field, -, hnode⟩ := Option.bind_eq_some_iff.mp hnode
    obtain ⟨op, -, hnode⟩ := Option.bind_eq_some_iff.mp hnode
    obtain ⟨value, hvalue, hnode⟩ := Option.bind_eq_some_iff.mp hnode
    obtain ⟨all, hall, hnode⟩ := Option.bind_eq_some_iff.mp hnode
    obtain ⟨any, hany, hnode⟩ := Option.bind_eq_some_iff.mp hnode
    cases hnode
    -- Both kinds of group read their children alike.
    have hgroup : ∀ d cs, children? child inner d = some cs →
        1 ≤ inner ∧ ∀ c ∈ cs, Bounded (inner - 1) c := fun d cs hcs =>
      bounded_of_children? hcs fun d c hc => hchild d c hc
    exact bounded_ofParts
      (forall_of_optional hvalue fun d v hv => Document.ordered_of_toValue? hv)
      (forall_of_optional hall hgroup) (forall_of_optional hany hgroup)
  next => exact nomatch hnode

/-- **Whatever is read has ordered values and keeps the limit.** -/
theorem bounded_of_ofDocument? : ∀ {limit : Nat} {d : Document} {c : Condition},
    ofDocument? limit d = some c → Bounded limit c
  | 0, _, _, h => bounded_of_node? h fun _ _ hc => nomatch hc
  | 1, _, _, h => bounded_of_node? h fun _ _ hc => nomatch hc
  | _ + 2, _, _, h => bounded_of_node? h fun _ _ hc => bounded_of_ofDocument? hc

/-! ## Chains of groups -/

/-- A comparison inside of some groups of one child. -/
def chain : (groups : Nat) → Condition
  | 0 => .comparison ⟨"status", .equal, .string "up"⟩
  | n + 1 => .allOf [chain n]

theorem depth_chain (n : Nat) : (chain n).depth = n + 1 := by
  induction n with
  | zero => rfl
  | succ n ih =>
    rw [chain, depth, depthOfList, depthOfList, ih]
    omega

theorem nesting_chain (n : Nat) : (chain n).toDocument.nesting = 2 * n + 1 := by
  induction n with
  | zero => rfl
  | succ n ih =>
    rw [chain, nesting_allOf, List.map_singleton, Document.nestingOfItems, Document.nestingOfItems,
      ih]
    omega

theorem eachValue_chain {P : Value → Prop} (h : P (.string "up")) (n : Nat) :
    (chain n).EachValue P := by
  induction n with
  | zero => exact h
  | succ n ih => exact ⟨ih, trivial⟩

end Condition

end AlertRules
