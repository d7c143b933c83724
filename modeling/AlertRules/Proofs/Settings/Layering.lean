import AlertRules.Proofs.Settings.Leaves

/-!
# Laying layers over each other

Entries are laid over each other one at a time, so a layer is followed entry by entry, and what
matters of an entry is what it has for the path of a leaf: of all that have anything for it the last
decides (`Layer.map_value?_apply`). Nothing is lost on the way as long as what is laid over a
section is a table without names that stand twice (`Settings.Orderly`), and then each section stays
a table (`Settings.Sectioned.apply`).
-/

namespace AlertRules

open Setting

/-! ## Layers -/

namespace Layer

/-- What a layer has for a path: its last entry that has anything for it decides. -/
def given? (path : List String) : Layer → Option Setting
  | [] => none
  | (key, v) :: rest => (given? path rest).or (Setting.given? path (place key) v)

theorem given?_append (path : List String) (below above : Layer) :
    given? path (below ++ above) = (given? path above).or (given? path below) := by
  induction below with
  | nil => exact Option.or_none.symm
  | cons e rest ih =>
    obtain ⟨key, v⟩ := e
    rw [List.cons_append, given?, ih, given?, Option.or_assoc]

theorem apply_append (below above : Layer) (root : Setting) :
    (below ++ above).apply root = above.apply (below.apply root) := List.foldl_append

theorem map_value?_apply {α : Type} {read : Setting → Option α} (hread : Leaflike read)
    {path : List String} {layer : Layer} (hfits : ∀ e ∈ layer, Fits path (place e.1) e.2)
    (root : Setting) :
    (value? path (layer.apply root)).map read =
      ((layer.given? path).map read).or ((value? path root).map read) := by
  induction layer generalizing root with
  | nil => rfl
  | cons e rest ih =>
    obtain ⟨hfirst, hrest⟩ := List.forall_mem_cons.mp hfits
    show (value? path (apply rest (mergeAt (place e.1) e.2 root))).map read = _
    rw [ih hrest, map_value?_mergeAt hread root hfirst, given?, Option.map_or, Option.or_assoc]

/-- A layer whose names are their own places, and stand there once, has for a path what it has as a
table. -/
theorem given?_of_own {layer : Layer} (hown : ∀ e ∈ layer, place e.1 = [e.1])
    (hnames : (layer.map (·.1)).Nodup) (name : String) (names : List String) :
    layer.given? (name :: names) = value? (name :: names) (.table layer) := by
  show _ = (entryIfAny name layer).bind (value? names)
  induction layer with
  | nil => rfl
  | cons e rest ih =>
    obtain ⟨key, v⟩ := e
    obtain ⟨hkey, hrest⟩ := List.forall_mem_cons.mp hown
    rw [List.map_cons, List.nodup_cons] at hnames
    rw [given?, ih hrest hnames.2, hkey, given?_cons, given?_nil, entryIfAny_cons]
    -- the last entry with a name decides here, the first in a table; they agree since there is but
    -- one
    by_cases h : key = name
    · subst h
      rw [entryIfAny_eq_none hnames.1, if_pos rfl, if_pos rfl]
      rfl
    · rw [if_neg h, if_neg (Ne.symm h), Option.or_none]

end Layer

/-! ## Order among entries -/

namespace Settings

variable {α : Type}

/-- That a value may be laid over a place: anything over a field at the top or over a field of a
section, and over a section only a table without a name that stands twice. -/
inductive Orderly : (place : List String) → Setting → Prop
  | field {name : String} (v : Setting) (hname : name ∉ sectionNames) : Orderly [name] v
  | table (name : String) {new : List (String × Setting)} (hnames : (new.map (·.1)).Nodup) :
    Orderly [name] (.table new)
  | inner {part : String} (name : String) (v : Setting) (hpart : part ∈ sectionNames) :
    Orderly [part, name] v

theorem Orderly.fits {place : List String} {v : Setting} (h : Orderly place v) (l : Leaf α) :
    Fits l.path place v := by
  obtain ⟨name, hpath, hname⟩ | ⟨part, name, hpath, hpart⟩ := l.path_cases
  · rw [hpath]
    cases h with
    | field => exact fun _ => trivial
    | table => exact fun _ => trivial
    | inner _ _ hpart => exact fun heq => absurd (heq ▸ hpart) hname
  · rw [hpath]
    cases h with
    | field _ hname => exact fun heq => absurd (heq ▸ hpart) hname
    | table _ hnames => exact fun _ => ⟨name, _, rfl, rfl, hnames⟩
    | inner => exact fun _ _ => trivial

theorem Leaf.orderly_path (l : Leaf α) (v : Setting) : Orderly l.path v := by
  obtain ⟨name, hpath, hname⟩ | ⟨part, name, hpath, hpart⟩ := l.path_cases
  · rw [hpath]
    exact .field v hname
  · rw [hpath]
    exact .inner name v hpart

theorem Sectioned.empty : Sectioned (.table []) := ⟨⟨[], rfl⟩, fun _ _ _ h => nomatch h⟩

theorem Sectioned.put {root : Setting} (h : Sectioned root) {name : String} {w : Setting}
    (hw : name ∈ sectionNames → ∃ inner, w = .table inner) :
    Sectioned (.table (put name w root.entries)) := by
  refine ⟨⟨_, rfl⟩, fun part hpart v hv => ?_⟩
  by_cases heq : part = name
  · subst heq
    cases (entryIfAny_put_self part w root.entries).symm.trans hv
    exact hw hpart
  · exact h.sections part hpart v ((entryIfAny_put_ne heq w root.entries).symm.trans hv)

theorem Sectioned.mergeAt {place : List String} {v root : Setting} (h : Sectioned root)
    (hv : Orderly place v) : Sectioned (mergeAt place v root) := by
  cases hv with
  | field _ hname => exact h.put fun hpart => absurd hpart hname
  | @table name new =>
    refine h.put fun _ => ⟨mergeEntries new (entry name root.entries).entries, ?_⟩
    rw [Setting.mergeAt, merge]
  | inner => exact h.put fun _ => ⟨_, rfl⟩

theorem Sectioned.apply {layer : Layer} {root : Setting} (h : Sectioned root)
    (hlayer : ∀ e ∈ layer, Orderly (Layer.place e.1) e.2) : Sectioned (layer.apply root) := by
  induction layer generalizing root with
  | nil => exact h
  | cons e rest ih =>
    obtain ⟨hfirst, hrest⟩ := List.forall_mem_cons.mp hlayer
    exact ih (h.mergeAt hfirst) hrest

end Settings

end AlertRules
