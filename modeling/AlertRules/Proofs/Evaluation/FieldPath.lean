import AlertRules.FieldPath

/-!
# Paths that are put together

A path is split at its dots, so two paths with a dot between them have the segments of the one and
then those of the other (`Text.split_append`), whatever dots they have themselves. Names are
followed one by one, so whoever follows some and then others has followed both. No segment has a dot
in it (`Text.not_mem_of_mem_split`), and a name without one is a path of one segment.

> `Json.Value.resolve_append`: what is under two paths with a dot between them is what is under the
> second one, of what is under the first.
-/

namespace AlertRules

namespace Text

/-! ## Segments -/

theorem splitChars_ne_nil (separator : Char) (cs : List Char) : splitChars separator cs ≠ [] := by
  cases cs with
  | nil => simp [splitChars]
  | cons c rest =>
    unfold splitChars
    split
    next => simp
    next => split <;> simp

/-- A separator between two texts splits nothing but them. -/
theorem splitChars_append (separator : Char) (cs ds : List Char) :
    splitChars separator (cs ++ separator :: ds) =
      splitChars separator cs ++ splitChars separator ds := by
  induction cs with
  | nil => simp [splitChars]
  | cons c rest ih =>
    rw [List.cons_append, splitChars, splitChars]
    by_cases hc : c = separator
    · rw [if_pos hc, if_pos hc, ih, List.cons_append]
    · rw [if_neg hc, if_neg hc, ih]
      -- The first segment of the rest goes on to the left, and there is one.
      cases hrest : splitChars separator rest with
      | nil => exact absurd hrest (splitChars_ne_nil separator rest)
      | cons segment others => rfl

theorem split_append (s t : String) : split '.' (s ++ "." ++ t) = split '.' s ++ split '.' t := by
  have hchars : (s ++ "." ++ t).toList = s.toList ++ '.' :: t.toList := by
    rw [String.toList_append, String.toList_append, List.append_assoc]
    rfl
  rw [split, hchars, splitChars_append, List.map_append]
  rfl

theorem split_ne_nil (separator : Char) (s : String) : split separator s ≠ [] := by
  intro h
  exact splitChars_ne_nil separator s.toList (List.map_eq_nil_iff.mp h)

theorem not_mem_of_mem_splitChars {separator : Char} {cs segment : List Char}
    (h : segment ∈ splitChars separator cs) : separator ∉ segment := by
  induction cs generalizing segment with
  | nil =>
    rw [splitChars, List.mem_singleton] at h
    subst h
    exact List.not_mem_nil
  | cons c rest ih =>
    rw [splitChars] at h
    by_cases hc : c = separator
    · rw [if_pos hc] at h
      rcases List.mem_cons.mp h with rfl | h
      · exact List.not_mem_nil
      · exact ih h
    · rw [if_neg hc] at h
      cases hrest : splitChars separator rest with
      | nil => exact absurd hrest (splitChars_ne_nil separator rest)
      | cons first others =>
        rw [hrest] at h ih
        rcases List.mem_cons.mp h with rfl | h
        · exact List.not_mem_cons_of_ne_of_not_mem (Ne.symm hc) (ih (List.mem_cons_self ..))
        · exact ih (List.mem_cons_of_mem _ h)

theorem not_mem_of_mem_split {separator : Char} {s segment : String}
    (h : segment ∈ split separator s) : separator ∉ segment.toList := by
  obtain ⟨cs, hcs, rfl⟩ := List.mem_map.mp h
  rw [String.toList_ofList]
  exact not_mem_of_mem_splitChars hcs

/-- A text without the separator is its only segment. -/
theorem splitChars_of_not_mem {separator : Char} {cs : List Char} (h : separator ∉ cs) :
    splitChars separator cs = [cs] := by
  induction cs with
  | nil => rfl
  | cons c rest ih =>
    rw [List.mem_cons, not_or] at h
    rw [splitChars, if_neg (Ne.symm h.1), ih h.2]

theorem split_of_not_mem {separator : Char} {s : String} (h : separator ∉ s.toList) :
    split separator s = [s] := by
  rw [split, splitChars_of_not_mem h, List.map_singleton, String.ofList_toList]

end Text

namespace Json.Value

/-! ## Following names -/

theorem follow_append (v : Value) (names others : List String) :
    v.follow (names ++ others) = (v.follow names).bind fun w => w.follow others := by
  induction names generalizing v with
  | nil => rfl
  | cons name rest ih =>
    rw [List.cons_append, follow, follow]
    cases v.child? name with
    | none => rfl
    | some w => exact ih w

/-- **Paths are followed one after the other.** -/
theorem resolve_append (v : Value) (path path' : String) :
    v.resolve (path ++ "." ++ path') = (v.resolve path).bind fun w => w.resolve path' := by
  unfold resolve
  rw [Text.split_append, follow_append]

/-- A name without a dot is the path of the field of that name. -/
theorem resolve_of_not_mem (v : Value) {name : String} (h : '.' ∉ name.toList) :
    v.resolve name = v.child? name := by
  rw [resolve, Text.split_of_not_mem h, follow]
  cases v.child? name <;> rfl

end Json.Value

end AlertRules
