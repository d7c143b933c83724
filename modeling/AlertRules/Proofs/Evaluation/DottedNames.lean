import AlertRules.Proofs.Evaluation.FieldPath
import AlertRules.Proofs.Evaluation.Leaves

/-!
# Names with dots in them

A path is followed name by name, and its names are what stands between its dots. So what a path
finds is settled by two cases: under a name without a dot it finds the field of that name
(`resolve_of_not_mem`), and under two paths with a dot between them what the second one finds in
what the first one finds (`resolve_append`).

Fields may have dots in their names all the same. No path comes to such a field, wherever it stands,
since no path has a segment with a dot in it: every path finds the same when all of these are left
out (`Value.undotted`), except that they are then missing in what it finds as well. A condition sees
an event under paths only, and none of them is the event itself. So it does not see the fields of
the event that have dots in their names, whatever they are.

> `Condition.dotted_fields_unseen`: paths are followed one after the other, no path comes to a field
> with a dot in its name, and to add, change or take away such a field of an event changes the
> outcome of no condition.
-/

namespace AlertRules

namespace Json.Value

mutual

/-- A value without the fields, at any depth, that have a dot in their names. -/
def undotted : Value → Value
  | .array items => .array (undottedItems items)
  | .object fields => .object (undottedFields fields)
  | .null => .null
  | .bool b => .bool b
  | .number n => .number n
  | .string s => .string s

/-- Items without such fields in them. -/
def undottedItems : List Value → List Value
  | [] => []
  | v :: rest => undotted v :: undottedItems rest

/-- Fields without those that have a dot in their names, and without such fields in what is left. -/
def undottedFields : List (String × Value) → List (String × Value)
  | [] => []
  | (name, v) :: rest =>
    if '.' ∈ name.toList then undottedFields rest else (name, undotted v) :: undottedFields rest

end

/-- Fields without the one of a name. -/
def removeField (name : String) (fields : List (String × Value)) : List (String × Value) :=
  fields.filter fun f => f.1 ≠ name

variable {name other : String} {fields fields' : List (String × Value)}

/-! ## Fields of one name -/

theorem field?_insertField (name other : String) (v : Value) (fields : List (String × Value)) :
    field? other (insertField name v fields) =
      if name = other then some v else field? other fields := by
  induction fields with
  | nil => rfl
  | cons f rest ih =>
    obtain ⟨k, w⟩ := f
    rw [insertField]
    split
    next => rw [field?]
    next =>
      split
      next hk =>
        rw [field?, field?, hk]
        split <;> rfl
      next hk =>
        -- The two names differ, so it does not matter which is looked at first.
        rw [field?, field?, ih]
        grind

theorem field?_removeField (name other : String) (fields : List (String × Value)) :
    field? other (removeField name fields) =
      if name = other then none else field? other fields := by
  induction fields with
  | nil => simp [removeField, field?]
  | cons f rest ih =>
    obtain ⟨k, w⟩ := f
    by_cases hk : k = name
    · have hskip : removeField name ((k, w) :: rest) = removeField name rest := by
        simp [removeField, hk]
      rw [hskip, ih, field?, hk]
      split <;> rfl
    · have hkeep : removeField name ((k, w) :: rest) = (k, w) :: removeField name rest := by
        simp [removeField, hk]
      rw [hkeep, field?, field?, ih]
      grind

theorem field?_undottedFields (hname : '.' ∉ name.toList) (fields : List (String × Value)) :
    field? name (undottedFields fields) = (field? name fields).map undotted := by
  induction fields with
  | nil => rfl
  | cons f rest ih =>
    obtain ⟨k, v⟩ := f
    rw [undottedFields, field?]
    by_cases hk : k = name
    · rw [if_neg (hk ▸ hname), field?, if_pos hk, if_pos hk, Option.map_some]
    · rw [if_neg hk]
      split
      next => exact ih
      next => rw [field?, if_neg hk, ih]

/-! ## Paths -/

theorem child?_undotted (hname : '.' ∉ name.toList) (v : Value) :
    v.undotted.child? name = (v.child? name).map undotted := by
  cases v with
  | object fields =>
    rw [undotted, child?, child?, field?_undottedFields hname]
    cases field? name fields with
    | none => rfl
    | some w => cases w <;> rfl
  | _ => rfl

theorem follow_undotted {names : List String} (hnames : ∀ name ∈ names, '.' ∉ name.toList)
    (v : Value) : v.undotted.follow names = (v.follow names).map undotted := by
  induction names generalizing v with
  | nil => rfl
  | cons name rest ih =>
    rw [List.forall_mem_cons] at hnames
    rw [follow, follow, child?_undotted hnames.1]
    cases v.child? name with
    | none => rfl
    | some w => exact ih hnames.2 w

/-- **No path comes to a field with a dot in its name**, at any depth. -/
theorem resolve_undotted (v : Value) (path : String) :
    v.undotted.resolve path = (v.resolve path).map undotted :=
  follow_undotted (fun _ => Text.not_mem_of_mem_split) v

/-- A path sees those fields of an object only that have no dot in their names. -/
theorem resolve_object_congr
    (h : ∀ name, '.' ∉ name.toList → field? name fields = field? name fields') (path : String) :
    (Value.object fields).resolve path = (Value.object fields').resolve path := by
  obtain ⟨name, names, hpath⟩ := List.exists_cons_of_ne_nil (Text.split_ne_nil '.' path)
  have hname : '.' ∉ name.toList := Text.not_mem_of_mem_split (hpath ▸ List.mem_cons_self ..)
  rw [resolve, resolve, hpath, follow, follow, child?, child?, h name hname]

end Json.Value

namespace Condition

open Json Json.Value

variable {fields fields' : List (String × Value)}

/-- **A condition sees those fields of an event only that have no dot in their names.** -/
theorem holds_object_congr
    (h : ∀ name, '.' ∉ name.toList → field? name fields = field? name fields') (c : Condition) :
    c.holds (.object fields) = c.holds (.object fields') :=
  c.holds_congr fun leaf _ => resolve_object_congr h leaf.field

/-- **Paths compose, and pass by names with dots.** What is under two paths with a dot between them
is what is under the second one, of what is under the first; a name without a dot is the path of the
field of that name. A path finds in an event what it finds when the fields that have a dot in their
names are left out, at any depth, up to such fields in what it finds. If such a field of an event is
added, changed or taken away, every condition holds of the event that held before, and no other. -/
theorem dotted_fields_unseen (event : Value) (fields : List (String × Value)) :
    (∀ path path', event.resolve (path ++ "." ++ path') =
      (event.resolve path).bind fun v => v.resolve path') ∧
    (∀ name, '.' ∉ name.toList → event.resolve name = event.child? name) ∧
    (∀ path, event.undotted.resolve path = (event.resolve path).map undotted) ∧
    ∀ name, '.' ∈ name.toList → ∀ c : Condition,
      (∀ v, c.holds (.object (insertField name v fields)) = c.holds (.object fields)) ∧
      c.holds (.object (removeField name fields)) = c.holds (.object fields) := by
  refine ⟨event.resolve_append, fun _ hname => event.resolve_of_not_mem hname,
    event.resolve_undotted, ?_⟩
  intro name hdot c
  have hne {other : String} (hother : '.' ∉ other.toList) : name ≠ other := by
    rintro rfl
    exact hother hdot
  constructor
  · intro v
    apply c.holds_object_congr
    intro other hother
    rw [field?_insertField, if_neg (hne hother)]
  · apply c.holds_object_congr
    intro other hother
    rw [field?_removeField, if_neg (hne hother)]

/-- A server with a state, and with fields beside it that only look like that state. -/
def shadowed : List (String × Value) :=
  [("server", .object [("state", .string "up"), ("state.since", .null)]),
    ("server.state", .string "down")]

/-- A server that is up stays so, whatever field has the path of its state for a name; and it is
found without the field beside its state when those with dots in their names are left out. -/
theorem dotted_fields_unseen_shadowed :
    let isUp := Condition.comparison ⟨"server.state", .equal, .string "up"⟩
    '.' ∉ "server".toList ∧ '.' ∈ "server.state".toList ∧
    (Value.object shadowed).resolve "server.state" = some (.string "up") ∧
    (Value.object shadowed).undotted.resolve "server" = some (.object [("state", .string "up")]) ∧
    isUp.holds (.object (insertField "server.state" (.string "broken") shadowed)) = true ∧
    isUp.holds (.object (removeField "server.state" shadowed)) = true := by
  intro isUp
  have hname : '.' ∉ "server".toList := by decide
  have hdot : '.' ∈ "server.state".toList := by decide
  obtain ⟨hcompose, hfield, hundotted, hunseen⟩ := dotted_fields_unseen (.object shadowed) shadowed
  have hstate : (Value.object shadowed).resolve "server.state" = some (.string "up") := by
    have hpath : "server.state" = "server" ++ "." ++ "state" := rfl
    rw [hpath, hcompose, hfield "server" hname]
    decide
  have hserver :
      (Value.object shadowed).undotted.resolve "server" =
        some (.object [("state", .string "up")]) := by
    rw [hundotted, hfield "server" hname]
    decide
  have hup : isUp.holds (.object shadowed) = true := by decide
  obtain ⟨hchange, htake⟩ := hunseen "server.state" hdot isUp
  exact ⟨hname, hdot, hstate, hserver, (hchange _).trans hup, htake.trans hup⟩

end Condition

end AlertRules
