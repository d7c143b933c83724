import AlertRules.Settings.Layer

/-!
# Laying values over others

A value that is laid over a place is found there afterwards, or, where it is a table, its entries
are found in the table that is there, one by one, and nothing else has changed. This is said of what
can be read at a path (`value?`): it is what the value has for that path (`given?`), or what was
there before (`map_value?_mergeAt`). A table that is laid over another is merged with it, so what is
read must be the same for both, which holds of leaves, for no table can be read as one (`Leaflike`).
-/

namespace AlertRules.Setting

/-! ## Entries -/

theorem entryIfAny_cons (name k : String) (v : Setting) (es : List (String × Setting)) :
    entryIfAny name ((k, v) :: es) = if k = name then some v else entryIfAny name es := by
  unfold entryIfAny
  rw [List.find?_cons]
  by_cases h : k = name
  · simp [h]
  · simp [h]

theorem entryIfAny_put_self (name : String) (v : Setting) (es : List (String × Setting)) :
    entryIfAny name (put name v es) = some v := by
  induction es with
  | nil => rw [put, entryIfAny_cons, if_pos rfl]
  | cons e rest ih =>
    obtain ⟨k, w⟩ := e
    rw [put]
    split
    next heq => rw [entryIfAny_cons, if_pos heq]
    next hne => rw [entryIfAny_cons, if_neg hne, ih]

theorem entryIfAny_put_ne {name other : String} (h : other ≠ name) (v : Setting)
    (es : List (String × Setting)) : entryIfAny other (put name v es) = entryIfAny other es := by
  induction es with
  | nil => rw [put, entryIfAny_cons, if_neg (Ne.symm h)]
  | cons e rest ih =>
    obtain ⟨k, w⟩ := e
    rw [put]
    split
    next heq =>
      subst heq
      rw [entryIfAny_cons, entryIfAny_cons, if_neg (Ne.symm h), if_neg (Ne.symm h)]
    next => rw [entryIfAny_cons, entryIfAny_cons, ih]

theorem entry_eq (name : String) (es : List (String × Setting)) :
    entry name es = (entryIfAny name es).getD .absent := by
  induction es with
  | nil => rfl
  | cons e rest ih =>
    obtain ⟨k, v⟩ := e
    rw [entry, entryIfAny_cons, ih]
    split <;> rfl

theorem entry_put_ne {name other : String} (h : other ≠ name) (v : Setting)
    (es : List (String × Setting)) : entry other (put name v es) = entry other es := by
  rw [entry_eq, entry_eq, entryIfAny_put_ne h]

theorem entryIfAny_eq_none {name : String} {es : List (String × Setting)}
    (h : name ∉ es.map (·.1)) : entryIfAny name es = none := by
  induction es with
  | nil => rfl
  | cons e rest ih =>
    rw [List.map_cons, List.mem_cons, not_or] at h
    rw [entryIfAny_cons, if_neg (Ne.symm h.1), ih h.2]

/-- **Entries laid over others** go in one by one: each to the entry of its name, if there is
one. -/
theorem entryIfAny_mergeEntries {new : List (String × Setting)} (hnames : (new.map (·.1)).Nodup)
    (old : List (String × Setting)) (name : String) :
    entryIfAny name (mergeEntries new old) =
      ((entryIfAny name new).map fun v => merge v (entry name old)).or (entryIfAny name old) := by
  induction new generalizing old with
  | nil => rw [mergeEntries]; rfl
  | cons e rest ih =>
    obtain ⟨k, v⟩ := e
    rw [List.map_cons, List.nodup_cons] at hnames
    rw [mergeEntries, ih hnames.2, entryIfAny_cons]
    by_cases h : k = name
    · subst h
      rw [entryIfAny_eq_none hnames.1, entryIfAny_put_self, if_pos rfl]
      rfl
    · rw [entryIfAny_put_ne (Ne.symm h), entry_put_ne (Ne.symm h), if_neg h]

/-! ## Paths -/

/-- The value at a path, if there is one. -/
def value? : (path : List String) → Setting → Option Setting
  | [], v => some v
  | name :: names, v => (entryIfAny name v.entries).bind (value? names)

/-- What a value that is laid over a place has for a path. -/
def given? : (path place : List String) → Setting → Option Setting
  | path, [], v => value? path v
  | [], _ :: _, _ => none
  | a :: path, b :: place, v => if a = b then given? path place v else none

theorem given?_nil (path : List String) (v : Setting) : given? path [] v = value? path v := by
  cases path <;> rfl

theorem given?_cons (a b : String) (path place : List String) (v : Setting) :
    given? (a :: path) (b :: place) v = if a = b then given? path place v else none := rfl

theorem given?_self (path : List String) (v : Setting) : given? path path v = some v := by
  induction path with
  | nil => rfl
  | cons a path ih => rw [given?_cons, if_pos rfl, ih]

/-- A value has nothing for a path that does not lead through its place. -/
theorem given?_eq_none {path place : List String} (h : ¬ place <+: path) (v : Setting) :
    given? path place v = none := by
  induction place generalizing path with
  | nil => exact absurd List.nil_prefix h
  | cons b place ih =>
    cases path with
    | nil => rfl
    | cons a path =>
      rw [given?_cons]
      by_cases heq : a = b
      · subst heq
        rw [if_pos rfl]
        exact ih fun hprefix => h ((List.prefix_cons_inj a).mpr hprefix)
      · rw [if_neg heq]

theorem value?_entry (a : String) (path : List String) (name : String)
    (es : List (String × Setting)) :
    value? (a :: path) (entry name es) = (entryIfAny name es).bind (value? (a :: path)) := by
  rw [entry_eq]
  cases entryIfAny name es <;> rfl

theorem value?_mergeAt_cons (a b : String) (path place : List String) (v root : Setting) :
    value? (a :: path) (mergeAt (b :: place) v root) =
      if a = b then value? path (mergeAt place v (entry b root.entries))
      else value? (a :: path) root := by
  show (entryIfAny a (put b _ root.entries)).bind (value? path) = _
  by_cases h : a = b
  · rw [h, entryIfAny_put_self, if_pos rfl]
    rfl
  · rw [entryIfAny_put_ne h, if_neg h]
    rfl

/-- That a table is read as nothing is, so that a value is read alike whatever it is laid over. -/
def Leaflike {α : Type} (read : Setting → Option α) : Prop :=
  ∀ entries, read (.table entries) = none

theorem Leaflike.merge {α : Type} {read : Setting → Option α} (h : Leaflike read)
    (v below : Setting) : read (merge v below) = read v := by
  cases v with
  | table new =>
    rw [Setting.merge, h, h]
  | _ => rw [Setting.merge]; exact nofun

/-- That a value at a place leaves what is at a path alone, or is one for all of the path, or is a
table with an entry for the last name of it. -/
def Fits : (path place : List String) → Setting → Prop
  | [], [], _ => True
  | path, [], v => ∃ name new, path = [name] ∧ v = .table new ∧ (new.map (·.1)).Nodup
  | [], _ :: _, _ => False
  | a :: path, b :: place, v => a = b → Fits path place v

/-- **What is read at a path** after a value has been laid over a place is what the value has for
it, or what was there before. -/
theorem map_value?_mergeAt {α : Type} {read : Setting → Option α} (hread : Leaflike read) :
    ∀ {path place : List String} {v : Setting} (root : Setting), Fits path place v →
      (value? path (mergeAt place v root)).map read =
        ((given? path place v).map read).or ((value? path root).map read)
  | [], [], v, root, _ => congrArg some (hread.merge v root)
  | name :: names, [], v, root, hfits => by
    -- a table for the rest of the path: its entries go into the table that is there one by one
    obtain ⟨name, new, hpath, rfl, hnames⟩ := hfits
    cases hpath
    show (value? [name] (merge (.table new) root)).map read = _
    rw [Setting.merge]
    show ((entryIfAny name (mergeEntries new root.entries)).bind some).map read =
      (((entryIfAny name new).bind some).map read).or
        (((entryIfAny name root.entries).bind some).map read)
    rw [entryIfAny_mergeEntries hnames]
    cases entryIfAny name new with
    | none => rfl
    | some w => exact congrArg some (hread.merge w _)
  | [], _ :: _, _, _, hfits => hfits.elim
  | a :: path, b :: place, v, root, hfits => by
    rw [value?_mergeAt_cons, given?_cons]
    by_cases h : a = b
    · subst h
      rw [if_pos rfl, if_pos rfl, map_value?_mergeAt hread _ (hfits rfl)]
      -- where there is no entry yet, `entry` is `absent`, of which only the empty path would find
      -- something
      cases path with
      | nil =>
        cases place with
        | nil => rfl
        | cons c place => exact (hfits rfl).elim
      | cons c path =>
        rw [value?_entry]
        rfl
    · rw [if_neg h, if_neg h]
      rfl

end AlertRules.Setting
