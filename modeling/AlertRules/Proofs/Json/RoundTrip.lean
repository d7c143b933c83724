import AlertRules.Proofs.Json.Rereading

/-!
# Reading back what was written

A plain document is read back from its text as it is, at any depth (`Document.read?_text`): its
tokens are those of `Rereading`, and `build` puts them together again. The stack of open brackets
carries the induction: reading the tokens of a document puts the document into the innermost open
bracket, and leaves the rest of the stack alone (`build_tokens`).

A value is read back from its document as far as the limit on nesting allows, and not at all beyond
it (`Document.toValue?_ofValue`). Here the fields of an object must be in ascending order of their
names, as `Value.insertField` keeps them; `Value.Ordered` says so of a whole value, and every value
that was read is ordered (`Document.ordered_of_toValue?`).

> `Value.read?_text`: a value whose numbers survive is read back from its text if and only if it
> nests at most `maxNesting` deep.
-/

namespace AlertRules.Json

/-! ## Documents -/

namespace Document

theorem tokens_cons (d : Document) :
    ∃ t rest, d.tokens = t :: rest ∧ t ≠ .arrayClose ∧ t ≠ .objectClose := by
  cases d with
  | null => exact ⟨_, _, rfl, by decide, by decide⟩
  | bool b => exact ⟨_, _, rfl, by simp, by simp⟩
  | number n => exact ⟨_, _, rfl, by simp, by simp⟩
  | string s => exact ⟨_, _, rfl, by simp, by simp⟩
  | array items => cases items <;> exact ⟨_, _, rfl, by simp, by simp⟩
  | object members =>
    match members with
    | [] => exact ⟨_, _, rfl, by simp, by simp⟩
    | (name, d) :: rest => exact ⟨_, _, rfl, by simp, by simp⟩

/-- Right behind the bracket of an array, an item is read like anywhere else. -/
theorem build_firstItem (d : Document) (outer : List Frame) (ts : List Token) :
    build (.array [] :: outer) .firstItem (d.tokens ++ ts) =
      build (.array [] :: outer) .value (d.tokens ++ ts) := by
  obtain ⟨t, rest, htokens, hne, -⟩ := d.tokens_cons
  rw [htokens, List.cons_append, build, build]
  congr 1
  -- Only a closing bracket is read differently there, and no document begins with one.
  cases t <;> first | rfl | exact absurd rfl hne

theorem tokens_array_append (d : Document) (items : List Document) (ts : List Token) :
    tokens (.array (d :: items)) ++ ts =
      .arrayOpen :: (d.tokens ++ (itemTokens items ++ .arrayClose :: ts)) := by
  simp [tokens]

theorem tokens_object_append (name : Option String) (d : Document)
    (members : List (Option String × Document)) (ts : List Token) :
    tokens (.object ((name, d) :: members)) ++ ts =
      .objectOpen :: .string name :: .colon ::
        (d.tokens ++ (memberTokens members ++ .objectClose :: ts)) := by
  simp [tokens]

mutual

/-- The tokens of a document put it into the innermost open bracket. -/
theorem build_tokens : ∀ (d : Document) (frames : List Frame) (ts : List Token),
    build frames .value (d.tokens ++ ts) = (settle d frames).bind fun p => build p.1 p.2 ts
  | .null, _, _ => rfl
  | .bool _, _, _ => rfl
  | .number _, _, _ => rfl
  | .string _, _, _ => rfl
  | .array [], _, _ => rfl
  | .array (d :: items), frames, ts => by
    have hitem := build_tokens d (.array [] :: frames) (itemTokens items ++ .arrayClose :: ts)
    have hitems := build_itemTokens items [d] frames ts
    rw [tokens_array_append]
    show build (.array [] :: frames) .firstItem _ = _
    rw [build_firstItem]
    exact hitem.trans hitems
  | .object [], _, _ => rfl
  | .object ((name, d) :: members), frames, ts => by
    have hmember := build_tokens d (.member [] name :: frames)
      (memberTokens members ++ .objectClose :: ts)
    have hmembers := build_memberTokens members [(name, d)] frames ts
    rw [tokens_object_append]
    exact hmember.trans hmembers

/-- The tokens of the further items of an array close it, -/
theorem build_itemTokens : ∀ (items read : List Document) (outer : List Frame) (ts : List Token),
    build (.array read :: outer) .next (itemTokens items ++ .arrayClose :: ts) =
      (settle (.array (read.reverse ++ items)) outer).bind fun p => build p.1 p.2 ts
  | [], read, outer, ts => by
    rw [List.append_nil]
    rfl
  | d :: items, read, outer, ts => by
    have hitem := build_tokens d (.array read :: outer) (itemTokens items ++ .arrayClose :: ts)
    have hitems := build_itemTokens items (d :: read) outer ts
    show build (.array read :: outer) .value (_ ++ itemTokens items ++ .arrayClose :: ts) = _
    rw [List.append_assoc]
    refine hitem.trans (hitems.trans ?_)
    rw [List.reverse_cons, List.append_assoc]
    rfl

/-- and those of the further members of an object close that. -/
theorem build_memberTokens : ∀ (members read : List (Option String × Document))
    (outer : List Frame) (ts : List Token),
    build (.object read :: outer) .next (memberTokens members ++ .objectClose :: ts) =
      (settle (.object (read.reverse ++ members)) outer).bind fun p => build p.1 p.2 ts
  | [], read, outer, ts => by
    rw [List.append_nil]
    rfl
  | (name, d) :: members, read, outer, ts => by
    have hmember := build_tokens d (.member read name :: outer)
      (memberTokens members ++ .objectClose :: ts)
    have hmembers := build_memberTokens members ((name, d) :: read) outer ts
    show build (.member read name :: outer) .value (_ ++ memberTokens members ++ _ :: ts) = _
    rw [List.append_assoc]
    refine hmember.trans (hmembers.trans ?_)
    rw [List.reverse_cons, List.append_assoc]
    rfl

end

/-- **Every document is read from its text** as what `reread` says. -/
theorem read?_text_eq (d : Document) : read? d.text = some d.reread := by
  have htokens := tokens?_write d terminated_nil (rfl : tokens? [] = some [])
  have hbuild := build_tokens d.reread [] []
  simp only [List.append_nil] at htokens hbuild
  rw [read?, text, String.toList_ofList, htokens]
  exact hbuild

/-- **A plain document is read back from its text.** -/
theorem read?_text {d : Document} (h : d.Plain) : read? d.text = some d := by
  rw [read?_text_eq, reread_of_plain h]

end Document

/-! ## Values -/

namespace Value

mutual

/-- That the fields of every object in a value ascend by their names, each name once. -/
def Ordered : Value → Prop
  | .array items => OrderedItems items
  | .object fields => OrderedFields fields
  | _ => True

/-- That all of some values are ordered. -/
def OrderedItems : List Value → Prop
  | [] => True
  | v :: rest => Ordered v ∧ OrderedItems rest

/-- That some fields ascend by their names and hold ordered values. -/
def OrderedFields : List (String × Value) → Prop
  | [] => True
  | (name, v) :: rest => (∀ f ∈ rest, name < f.1) ∧ Ordered v ∧ OrderedFields rest

end

/-- A field whose name comes after all others goes to the end. -/
theorem insertField_last {name : String} {v : Value} :
    ∀ {fields : List (String × Value)}, (∀ f ∈ fields, f.1 < name) →
      insertField name v fields = fields ++ [(name, v)]
  | [], _ => rfl
  | (k, w) :: rest, h => by
    have hk : k < name := h (k, w) (List.mem_cons_self ..)
    have hne : k ≠ name := by
      rintro rfl
      exact String.lt_irrefl k hk
    rw [insertField, if_neg (String.lt_asymm hk), if_neg hne,
      insertField_last fun f hf => h f (List.mem_cons_of_mem _ hf)]
    rfl

/-- Fields in ascending order stay as they are when they are put into an object one by one. -/
theorem foldl_insertField {fields : List (String × Value)} (hfields : OrderedFields fields) :
    ∀ {acc : List (String × Value)}, (∀ a ∈ acc, ∀ f ∈ fields, a.1 < f.1) →
      fields.foldl (fun fs (name, v) => insertField name v fs) acc = acc ++ fields := by
  induction fields with
  | nil => intro acc _; exact (List.append_nil acc).symm
  | cons f rest ih =>
    intro acc hacc
    obtain ⟨hlt, -, hrest⟩ := hfields
    rw [List.foldl_cons]
    show rest.foldl _ (insertField f.1 f.2 acc) = _
    rw [insertField_last fun a ha => hacc a ha f (List.mem_cons_self ..), ih hrest,
      List.append_assoc]
    · rfl
    · intro a ha g hg
      -- A field put in earlier comes before this one, which comes before those that follow.
      rcases List.mem_append.mp ha with ha | ha
      · exact hacc a ha g (List.mem_cons_of_mem _ hg)
      · obtain rfl := List.mem_singleton.mp ha
        exact hlt g hg

theorem fieldsOf_ordered {fields : List (String × Value)} (h : OrderedFields fields) :
    fieldsOf fields = fields :=
  foldl_insertField h fun _ ha => nomatch ha

theorem mem_insertField {name : String} {v : Value} {g : String × Value} :
    ∀ {fields : List (String × Value)}, g ∈ insertField name v fields → g = (name, v) ∨ g ∈ fields
  | [], h => Or.inl (List.mem_singleton.mp h)
  | (k, w) :: rest, h => by
    rw [insertField] at h
    split at h
    next => exact List.mem_cons.mp h
    next =>
      split at h
      next => exact (List.mem_cons.mp h).imp_right (List.mem_cons_of_mem _)
      next =>
        rcases List.mem_cons.mp h with rfl | h
        · exact Or.inr (List.mem_cons_self ..)
        · exact (mem_insertField h).imp_right (List.mem_cons_of_mem _)

/-- Inserting a field keeps fields in order. -/
theorem orderedFields_insertField {name : String} {v : Value} (hv : v.Ordered) :
    ∀ {fields : List (String × Value)}, OrderedFields fields →
      OrderedFields (insertField name v fields)
  | [], _ => ⟨fun _ hf => (nomatch hf), hv, trivial⟩
  | (k, w) :: rest, h => by
    obtain ⟨hlt, hw, hrest⟩ := h
    rw [insertField]
    split
    next hname =>
      refine ⟨fun f hf => ?_, hv, hlt, hw, hrest⟩
      rcases List.mem_cons.mp hf with rfl | hf
      · exact hname
      · exact String.lt_trans hname (hlt f hf)
    next hname =>
      split
      next heq => exact ⟨heq ▸ hlt, hv, hrest⟩
      next hne =>
        have hk : k < name := by
          rcases Decidable.em (k < name) with hk | hk
          · exact hk
          · exact absurd (String.le_antisymm hname hk) hne
        refine ⟨fun f hf => ?_, hw, orderedFields_insertField hv hrest⟩
        rcases mem_insertField hf with rfl | hf
        · exact hk
        · exact hlt f hf

/-- Members of ordered values make an ordered object. -/
theorem orderedFields_fieldsOf {members : List (String × Value)}
    (h : ∀ m ∈ members, m.2.Ordered) : OrderedFields (fieldsOf members) := by
  have hfold : ∀ {ms acc : List (String × Value)}, (∀ m ∈ ms, m.2.Ordered) → OrderedFields acc →
      OrderedFields (ms.foldl (fun fs (name, v) => insertField name v fs) acc) := by
    intro ms
    induction ms with
    | nil => intro acc _ hacc; exact hacc
    | cons m ms ih =>
      intro acc hms hacc
      exact ih (fun x hx => hms x (List.mem_cons_of_mem _ hx))
        (orderedFields_insertField (hms m (List.mem_cons_self ..)) hacc)
  exact hfold h trivial

mutual

/-- That all numbers in a value survive being written and read. -/
def Survives : Value → Prop
  | .number n => n.ReadsBack
  | .array items => SurvivesItems items
  | .object fields => SurvivesFields fields
  | _ => True

/-- That all numbers in some values survive. -/
def SurvivesItems : List Value → Prop
  | [] => True
  | v :: rest => Survives v ∧ SurvivesItems rest

/-- That all numbers in some named values survive. -/
def SurvivesFields : List (String × Value) → Prop
  | [] => True
  | (_, v) :: rest => Survives v ∧ SurvivesFields rest

end

theorem nestingOfFields_le_iff {n : Nat} : ∀ {fields : List (String × Value)},
    nestingOfFields fields ≤ n ↔ ∀ f ∈ fields, f.2.nesting ≤ n
  | [] => by simp [nestingOfFields]
  | (k, v) :: rest => by
    rw [nestingOfFields, Nat.max_le, nestingOfFields_le_iff, List.forall_mem_cons]

theorem mem_fieldsOf {g : String × Value} {members : List (String × Value)}
    (h : g ∈ fieldsOf members) : g ∈ members := by
  have hfold : ∀ {ms acc : List (String × Value)},
      g ∈ ms.foldl (fun fs (name, v) => insertField name v fs) acc → g ∈ ms ∨ g ∈ acc := by
    intro ms
    induction ms with
    | nil => intro acc hg; exact Or.inr hg
    | cons m ms ih =>
      intro acc hg
      rcases ih hg with hg | hg
      · exact Or.inl (List.mem_cons_of_mem _ hg)
      · rcases mem_insertField hg with rfl | hg
        · exact Or.inl (List.mem_cons_self ..)
        · exact Or.inr hg
  rcases hfold h with hg | hg
  · exact hg
  · exact nomatch hg

end Value

namespace Document

mutual

/-- A value whose numbers survive makes a plain document. -/
theorem plain_ofValue : ∀ {v : Value}, v.Survives → (ofValue v).Plain
  | .null, _ => trivial
  | .bool _, _ => trivial
  | .number n, h => ⟨n, rfl, h⟩
  | .string _, _ => rfl
  | .array _, h => plainItems_ofItems h
  | .object _, h => plainMembers_ofFields h

theorem plainItems_ofItems : ∀ {vs : List Value}, Value.SurvivesItems vs → PlainItems (ofItems vs)
  | [], _ => trivial
  | _ :: _, h => ⟨plain_ofValue h.1, plainItems_ofItems h.2⟩

theorem plainMembers_ofFields : ∀ {fields : List (String × Value)},
    Value.SurvivesFields fields → PlainMembers (ofFields fields)
  | [], _ => trivial
  | (_, _) :: _, h => ⟨rfl, plain_ofValue h.1, plainMembers_ofFields h.2⟩

end

mutual

theorem nesting_ofValue : ∀ v : Value, (ofValue v).nesting = v.nesting
  | .null => rfl
  | .bool _ => rfl
  | .number _ => rfl
  | .string _ => rfl
  | .array items => congrArg (· + 1) (nestingOfItems_ofItems items)
  | .object fields => congrArg (· + 1) (nestingOfMembers_ofFields fields)

theorem nestingOfItems_ofItems : ∀ vs : List Value,
    nestingOfItems (ofItems vs) = Value.nestingOfItems vs
  | [] => rfl
  | v :: rest => by
    rw [ofItems, nestingOfItems, Value.nestingOfItems, nesting_ofValue, nestingOfItems_ofItems]

theorem nestingOfMembers_ofFields : ∀ fields : List (String × Value),
    nestingOfMembers (ofFields fields) = Value.nestingOfFields fields
  | [] => rfl
  | (name, v) :: rest => by
    rw [ofFields, nestingOfMembers, Value.nestingOfFields, nesting_ofValue,
      nestingOfMembers_ofFields]

end

mutual

/-- **An ordered value is read back from its document within the limit, and not beyond it.** -/
theorem toValue?_ofValue : ∀ {v : Value} (limit : Nat), v.Ordered →
    (ofValue v).toValue? limit = if v.nesting ≤ limit then some v else none
  | .null, limit, _ => by simp [ofValue, toValue?, Value.nesting]
  | .bool _, limit, _ => by simp [ofValue, toValue?, Value.nesting]
  | .number _, limit, _ => by simp [ofValue, toValue?, Value.nesting]
  | .string _, limit, _ => by simp [ofValue, toValue?, Value.nesting]
  | .array items, 0, _ => rfl
  | .array items, limit + 1, h => by
    rw [ofValue, toValue?, toItems?_ofItems limit h, Value.nesting]
    by_cases hn : Value.nestingOfItems items ≤ limit
    · rw [if_pos hn, if_pos (by omega)]
      rfl
    · rw [if_neg hn, if_neg (by omega)]
      rfl
  | .object fields, 0, _ => rfl
  | .object fields, limit + 1, h => by
    rw [ofValue, toValue?, toFields?_ofFields limit h, Value.nesting]
    by_cases hn : Value.nestingOfFields fields ≤ limit
    · rw [if_pos hn, if_pos (by omega), Option.map_some, Value.ofMembers,
        Value.fieldsOf_ordered h]
    · rw [if_neg hn, if_neg (by omega)]
      rfl

theorem toItems?_ofItems : ∀ {vs : List Value} (limit : Nat), Value.OrderedItems vs →
    toItems? limit (ofItems vs) = if Value.nestingOfItems vs ≤ limit then some vs else none
  | [], limit, _ => by simp [ofItems, toItems?, Value.nestingOfItems]
  | v :: rest, limit, h => by
    rw [ofItems, toItems?, toValue?_ofValue limit h.1, toItems?_ofItems limit h.2,
      Value.nestingOfItems]
    simp only [Nat.max_le]
    by_cases hv : v.nesting ≤ limit
    · by_cases hr : Value.nestingOfItems rest ≤ limit
      · simp [hv, hr]
      · simp [hv, hr]
    · simp [hv]

theorem toFields?_ofFields : ∀ {fields : List (String × Value)} (limit : Nat),
    Value.OrderedFields fields → toFields? limit (ofFields fields) =
      if Value.nestingOfFields fields ≤ limit then some fields else none
  | [], limit, _ => by simp [ofFields, toFields?, Value.nestingOfFields]
  | (name, v) :: rest, limit, h => by
    rw [ofFields, toFields?, toValue?_ofValue limit h.2.1, toFields?_ofFields limit h.2.2,
      Value.nestingOfFields]
    simp only [Nat.max_le]
    by_cases hv : v.nesting ≤ limit
    · by_cases hr : Value.nestingOfFields rest ≤ limit
      · simp [hv, hr]
      · simp [hv, hr]
    · simp [hv]

end

mutual

/-- Whatever was read is ordered and keeps the limit. -/
theorem ordered_of_toValue? : ∀ {d : Document} {limit : Nat} {v : Value},
    d.toValue? limit = some v → v.Ordered ∧ v.nesting ≤ limit
  | .null, limit, v, h => by
    obtain rfl : Value.null = v := by simpa [toValue?] using h
    exact ⟨trivial, Nat.zero_le _⟩
  | .bool b, limit, v, h => by
    obtain rfl : Value.bool b = v := by simpa [toValue?] using h
    exact ⟨trivial, Nat.zero_le _⟩
  | .number n, limit, v, h => by
    rw [toValue?] at h
    obtain ⟨k, -, rfl⟩ := Option.map_eq_some_iff.mp h
    exact ⟨trivial, Nat.zero_le _⟩
  | .string s, limit, v, h => by
    rw [toValue?] at h
    obtain ⟨k, -, rfl⟩ := Option.map_eq_some_iff.mp h
    exact ⟨trivial, Nat.zero_le _⟩
  | .array items, 0, v, h => nomatch h
  | .array items, limit + 1, v, h => by
    rw [toValue?] at h
    obtain ⟨vs, hvs, rfl⟩ := Option.map_eq_some_iff.mp h
    obtain ⟨hord, hnest⟩ := ordered_of_toItems? hvs
    exact ⟨hord, Nat.succ_le_succ hnest⟩
  | .object members, 0, v, h => nomatch h
  | .object members, limit + 1, v, h => by
    rw [toValue?] at h
    obtain ⟨fields, hfields, rfl⟩ := Option.map_eq_some_iff.mp h
    have hall := ordered_of_toFields? hfields
    refine ⟨Value.orderedFields_fieldsOf fun m hm => (hall m hm).1, ?_⟩
    refine Nat.succ_le_succ (Value.nestingOfFields_le_iff.mpr fun f hf => ?_)
    exact (hall f (Value.mem_fieldsOf hf)).2

theorem ordered_of_toItems? : ∀ {items : List Document} {limit : Nat} {vs : List Value},
    toItems? limit items = some vs → Value.OrderedItems vs ∧ Value.nestingOfItems vs ≤ limit
  | [], limit, vs, h => by
    obtain rfl : [] = vs := by simpa [toItems?] using h
    exact ⟨trivial, Nat.zero_le _⟩
  | d :: rest, limit, vs, h => by
    rw [toItems?] at h
    obtain ⟨v, hv, h⟩ := Option.bind_eq_some_iff.mp h
    obtain ⟨others, hothers, h⟩ := Option.bind_eq_some_iff.mp h
    cases h
    obtain ⟨hord, hnest⟩ := ordered_of_toValue? hv
    obtain ⟨hords, hnests⟩ := ordered_of_toItems? hothers
    exact ⟨⟨hord, hords⟩, Nat.max_le.mpr ⟨hnest, hnests⟩⟩

theorem ordered_of_toFields? : ∀ {members : List (Option String × Document)} {limit : Nat}
    {fields : List (String × Value)}, toFields? limit members = some fields →
      ∀ f ∈ fields, f.2.Ordered ∧ f.2.nesting ≤ limit
  | [], limit, fields, h => by
    obtain rfl : [] = fields := by simpa [toFields?] using h
    exact fun _ hf => nomatch hf
  | (name, d) :: rest, limit, fields, h => by
    rw [toFields?] at h
    obtain ⟨k, -, h⟩ := Option.bind_eq_some_iff.mp h
    obtain ⟨v, hv, h⟩ := Option.bind_eq_some_iff.mp h
    obtain ⟨others, hothers, h⟩ := Option.bind_eq_some_iff.mp h
    cases h
    intro f hf
    rcases List.mem_cons.mp hf with rfl | hf
    · exact ordered_of_toValue? hv
    · exact ordered_of_toFields? hothers f hf

end

end Document

/-- **A value whose numbers survive is read back from its text if it nests at most `maxNesting`
deep, and not otherwise.** -/
theorem Value.read?_text {v : Value} (hord : v.Ordered) (hnum : v.Survives) :
    Value.read? v.text = if v.nesting ≤ maxNesting then some v else none := by
  rw [Value.read?, Value.text, Document.read?_text (Document.plain_ofValue hnum)]
  exact Document.toValue?_ofValue maxNesting hord

end AlertRules.Json
