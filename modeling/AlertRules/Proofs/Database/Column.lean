import AlertRules.Database
import AlertRules.Proofs.Json.RoundTrip

/-!
# JSON columns

A JSON column keeps the value of a text, not the text: what comes back may have other blanks, and
the members of its objects may come in another order. So of the text that comes back only this is
known, that it is a text of the same value (`Value.ShownBy`), and two texts of one value are read
alike.

> `Value.read?_of_shownBy`: a text of a value is read as that value if the value nests at most
> `maxNesting` deep, and not otherwise.
-/

namespace AlertRules

namespace Json

namespace Document

/-! ## Limits

What a document is read as does not depend on the limit, as long as the document keeps it. -/

mutual

theorem toValue?_eq_none : ∀ {d : Document} {limit : Nat}, limit < d.nesting →
    d.toValue? limit = none
  | .null, _, h | .bool _, _, h | .number _, _, h | .string _, _, h =>
    absurd h (Nat.not_lt_zero _)
  | .array _, 0, _ | .object _, 0, _ => by rw [toValue?]
  | .array items, limit + 1, h => by
    rw [toValue?, toItems?_eq_none (Nat.lt_of_succ_lt_succ h), Option.map_none]
  | .object members, limit + 1, h => by
    rw [toValue?, toFields?_eq_none (Nat.lt_of_succ_lt_succ h), Option.map_none]

theorem toItems?_eq_none : ∀ {items : List Document} {limit : Nat},
    limit < nestingOfItems items → toItems? limit items = none
  | [], _, h => absurd h (Nat.not_lt_zero _)
  | d :: rest, limit, h => by
    have hmax : limit < d.nesting ∨ limit < nestingOfItems rest := by
      rw [nestingOfItems] at h
      omega
    rw [toItems?]
    rcases hmax with h | h
    · rw [toValue?_eq_none h]
      rfl
    · rw [toItems?_eq_none h]
      cases d.toValue? limit <;> rfl

theorem toFields?_eq_none : ∀ {members : List (Option String × Document)} {limit : Nat},
    limit < nestingOfMembers members → toFields? limit members = none
  | [], _, h => absurd h (Nat.not_lt_zero _)
  | (name, d) :: rest, limit, h => by
    have hmax : limit < d.nesting ∨ limit < nestingOfMembers rest := by
      rw [nestingOfMembers] at h
      omega
    rw [toFields?]
    rcases hmax with h | h
    · rw [toValue?_eq_none h]
      cases name <;> rfl
    · rw [toFields?_eq_none h]
      cases name <;> cases d.toValue? limit <;> rfl

end

mutual

theorem toValue?_of_le : ∀ {d : Document} {limit limit' : Nat} {v : Value},
    d.toValue? limit = some v → d.nesting ≤ limit' → d.toValue? limit' = some v
  | .null, _, _, _, h, _ | .bool _, _, _, _, h, _ | .number _, _, _, _, h, _
  | .string _, _, _, _, h, _ => by
    rw [toValue?] at h ⊢
    exact h
  | .array _, 0, _, _, h, _ | .object _, 0, _, _, h, _ => nomatch h
  | .array _, _, 0, _, _, hle | .object _, _, 0, _, _, hle => absurd hle (Nat.not_succ_le_zero _)
  | .array items, limit + 1, limit' + 1, v, h, hle => by
    rw [toValue?] at h ⊢
    obtain ⟨vs, hvs, rfl⟩ := Option.map_eq_some_iff.mp h
    rw [toItems?_of_le hvs (Nat.le_of_succ_le_succ hle), Option.map_some]
  | .object members, limit + 1, limit' + 1, v, h, hle => by
    rw [toValue?] at h ⊢
    obtain ⟨fields, hfields, rfl⟩ := Option.map_eq_some_iff.mp h
    rw [toFields?_of_le hfields (Nat.le_of_succ_le_succ hle), Option.map_some]

theorem toItems?_of_le : ∀ {items : List Document} {limit limit' : Nat} {vs : List Value},
    toItems? limit items = some vs → nestingOfItems items ≤ limit' →
      toItems? limit' items = some vs
  | [], _, _, _, h, _ => by
    rw [toItems?] at h ⊢
    exact h
  | d :: rest, limit, limit', vs, h, hle => by
    rw [toItems?] at h ⊢
    obtain ⟨v, hv, h⟩ := Option.bind_eq_some_iff.mp h
    obtain ⟨others, hothers, h⟩ := Option.bind_eq_some_iff.mp h
    obtain ⟨hd, hrest⟩ := Nat.max_le.mp hle
    rw [toValue?_of_le hv hd, toItems?_of_le hothers hrest]
    exact h

theorem toFields?_of_le : ∀ {members : List (Option String × Document)} {limit limit' : Nat}
    {fields : List (String × Value)}, toFields? limit members = some fields →
      nestingOfMembers members ≤ limit' → toFields? limit' members = some fields
  | [], _, _, _, h, _ => by
    rw [toFields?] at h ⊢
    exact h
  | (name, d) :: rest, limit, limit', fields, h, hle => by
    rw [toFields?] at h ⊢
    obtain ⟨k, hk, h⟩ := Option.bind_eq_some_iff.mp h
    obtain ⟨v, hv, h⟩ := Option.bind_eq_some_iff.mp h
    obtain ⟨others, hothers, h⟩ := Option.bind_eq_some_iff.mp h
    obtain ⟨hd, hrest⟩ := Nat.max_le.mp hle
    rw [hk, toValue?_of_le hv hd, toFields?_of_le hothers hrest]
    exact h

end

end Document

namespace Value

/-! ## Texts of a value -/

/-- That a text is one of a value: blanks and the order of members are free. -/
def ShownBy (v : Value) (text : String) : Prop :=
  ∃ d, Document.read? text = some d ∧ d.nesting = v.nesting ∧ d.toValue? d.nesting = some v

/-- A text has one value at most. -/
theorem eq_of_shownBy {v w : Value} {text : String} (hv : v.ShownBy text) (hw : w.ShownBy text) :
    v = w := by
  obtain ⟨d, hread, -, hv⟩ := hv
  obtain ⟨d', hread', -, hw⟩ := hw
  obtain rfl := Option.some.inj (hread.symm.trans hread')
  exact Option.some.inj (hv.symm.trans hw)

/-- **A text of a value is read as that value if the value nests at most `maxNesting` deep, and not
otherwise.** -/
theorem read?_of_shownBy {v : Value} {text : String} (h : v.ShownBy text) :
    read? text = if v.nesting ≤ maxNesting then some v else none := by
  obtain ⟨d, hread, hnest, hv⟩ := h
  rw [read?, hread, Option.bind_eq_bind, Option.bind_some, ← hnest]
  by_cases hle : d.nesting ≤ maxNesting
  · rw [if_pos hle]
    exact Document.toValue?_of_le hv hle
  · rw [if_neg hle]
    exact Document.toValue?_eq_none (Nat.lt_of_not_le hle)

end Value

/-- The text of a plain document is one of its value. -/
theorem Document.shownBy_text {d : Document} {v : Value} (hplain : d.Plain)
    (hnest : d.nesting = v.nesting) (hvalue : d.toValue? d.nesting = some v) : v.ShownBy d.text :=
  ⟨d, read?_text hplain, hnest, hvalue⟩

end Json

open Json

/-- What a database may give back of a cell that it was given: the cell itself, and for a JSON text
any text of its value. -/
inductive Cell.ComesBack : Cell → Cell → Prop
  | same (c : Cell) : ComesBack c c
  | json {v : Value} {given kept : String} (hgiven : v.ShownBy given) (hkept : v.ShownBy kept) :
    ComesBack (.json given) (.json kept)

end AlertRules
