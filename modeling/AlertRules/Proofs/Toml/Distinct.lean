import AlertRules.Toml.Reading

/-!
# The names in a TOML document

No table of a document that is read has two entries of one name. While the document is read this
holds of the tables that are open: an entry is changed where it stands, or added if there is none of
its name (`Entries.names_alter?`), and all that a line does to the tables it does in this way
(`Entries.Keeps`).

> `distinct_of_read?`: so it holds of the tables that a document stands for, at any depth.
-/

namespace AlertRules.Toml

/-- That no table in a value has two entries of one name. -/
inductive Distinct : Toml → Prop
  | string (s : String) : Distinct (.string s)
  | integer (n : Int) : Distinct (.integer n)
  | float (f : Floating) : Distinct (.float f)
  | bool (b : Bool) : Distinct (.bool b)
  | dateTime (text : String) : Distinct (.dateTime text)
  | array {items : List Toml} (hitems : ∀ v ∈ items, Distinct v) : Distinct (.array items)
  | table {entries : List (String × Toml)} (hnames : (entries.map (·.1)).Nodup)
    (hentries : ∀ e ∈ entries, Distinct e.2) : Distinct (.table entries)

/-- That no table in what a name stands for has two entries of one name. -/
inductive Node.Distinct : Node → Prop
  | value {v : Toml} (hv : v.Distinct) : Node.Distinct (.value v)
  | table {origin : Origin} {entries : Entries} (hnames : (entries.map (·.1)).Nodup)
    (hentries : ∀ e ∈ entries, Node.Distinct e.2) : Node.Distinct (.table origin entries)
  | tables {items : List Entries} (hnames : ∀ entries ∈ items, (entries.map (·.1)).Nodup)
    (hentries : ∀ entries ∈ items, ∀ e ∈ entries, Node.Distinct e.2) : Node.Distinct (.tables items)

/-! ## Closing tables -/

theorem closeEntries_eq (es : Entries) : closeEntries es = es.map fun e => (e.1, e.2.close) := by
  induction es with
  | nil => rfl
  | cons e rest ih =>
    obtain ⟨name, n⟩ := e
    rw [closeEntries, ih]
    rfl

theorem closeItems_eq (items : List Entries) :
    closeItems items = items.map fun es => .table (closeEntries es) := by
  induction items with
  | nil => rfl
  | cons es rest ih =>
    rw [closeItems, ih]
    rfl

theorem names_closeEntries (es : Entries) : (closeEntries es).map (·.1) = es.map (·.1) := by
  rw [closeEntries_eq, List.map_map]
  rfl

theorem Node.Distinct.close {n : Node} (h : n.Distinct) : n.close.Distinct := by
  have htable : ∀ {es : Entries}, (es.map (·.1)).Nodup → (∀ e ∈ es, e.2.close.Distinct) →
      Toml.Distinct (.table (closeEntries es)) := by
    intro es hnames hentries
    refine .table (by rwa [names_closeEntries]) fun e he => ?_
    rw [closeEntries_eq] at he
    obtain ⟨e', he', rfl⟩ := List.mem_map.mp he
    exact hentries e' he'
  induction h with
  | value hv => exact hv
  | table hnames _ ih => exact htable hnames ih
  | tables hnames _ ih =>
    refine .array fun v hv => ?_
    rw [List.mem_reverse, closeItems_eq] at hv
    obtain ⟨es, hes, rfl⟩ := List.mem_map.mp hv
    exact htable (hnames es hes) (ih es hes)

namespace Entries

/-- That no table among some entries has two of one name, nor have these. -/
structure Distinct (es : Entries) : Prop where
  names : (es.map (·.1)).Nodup
  entries : ∀ e ∈ es, e.2.Distinct

theorem Distinct.nil : Distinct [] := ⟨List.nodup_nil, nofun⟩

theorem Distinct.close {es : Entries} (h : es.Distinct) :
    Toml.Distinct (.table (closeEntries es)) :=
  Node.Distinct.close (n := .table .passed es) (.table h.names h.entries)

/-! ## Changing entries -/

/-- An entry is changed where it stands, or added at the end. -/
theorem names_alter? {name : String} {change : Option Node → Option Node} {es es' : Entries}
    (h : es.alter? name change = some es') :
    es'.map (·.1) = if name ∈ es.map (·.1) then es.map (·.1) else es.map (·.1) ++ [name] := by
  induction es generalizing es' with
  | nil =>
    obtain ⟨n, -, rfl⟩ := Option.map_eq_some_iff.mp h
    rfl
  | cons e rest ih =>
    obtain ⟨k, n⟩ := e
    rw [alter?] at h
    split at h
    next heq =>
      obtain ⟨n', -, rfl⟩ := Option.map_eq_some_iff.mp h
      simp [heq]
    next hne =>
      obtain ⟨rest', hrest, rfl⟩ := Option.map_eq_some_iff.mp h
      rw [List.map_cons, ih hrest]
      by_cases hmem : name ∈ rest.map (·.1)
      · simp [hmem]
      · simp [hmem, Ne.symm hne]

/-- Each entry after a change was there before, or it is what has been made of one. -/
theorem of_mem_alter? {name : String} {change : Option Node → Option Node} {es es' : Entries}
    (h : es.alter? name change = some es') {e : String × Node} (he : e ∈ es') :
    e ∈ es ∨ ∃ n?, change n? = some e.2 ∧ ∀ n, n? = some n → ∃ e' ∈ es, e'.2 = n := by
  induction es generalizing es' with
  | nil =>
    obtain ⟨n, hn, rfl⟩ := Option.map_eq_some_iff.mp h
    obtain rfl := List.mem_singleton.mp he
    exact .inr ⟨none, hn, nofun⟩
  | cons e₀ rest ih =>
    obtain ⟨k, n⟩ := e₀
    rw [alter?] at h
    split at h
    next =>
      obtain ⟨n', hn', rfl⟩ := Option.map_eq_some_iff.mp h
      obtain rfl | hrest := List.mem_cons.mp he
      · exact .inr ⟨some n, hn', fun m hm => ⟨(k, n), List.mem_cons_self, Option.some.inj hm⟩⟩
      · exact .inl (List.mem_cons_of_mem _ hrest)
    next =>
      obtain ⟨rest', hrest, rfl⟩ := Option.map_eq_some_iff.mp h
      obtain rfl | hmem := List.mem_cons.mp he
      · exact .inl List.mem_cons_self
      · obtain hold | ⟨n?, hchange, hn⟩ := ih hrest hmem
        · exact .inl (List.mem_cons_of_mem _ hold)
        · refine .inr ⟨n?, hchange, fun m hm => ?_⟩
          obtain ⟨e', he', heq⟩ := hn m hm
          exact ⟨e', List.mem_cons_of_mem _ he', heq⟩

/-- That a change of what a name stands for makes no two entries of one name. -/
def KeepsNode (change : Option Node → Option Node) : Prop :=
  ∀ n? n', (∀ n, n? = some n → n.Distinct) → change n? = some n' → n'.Distinct

/-- That a change of entries makes no two of one name. -/
def Keeps (change : Entries → Option Entries) : Prop :=
  ∀ es es', Distinct es → change es = some es' → Distinct es'

theorem keeps_alter? {name : String} {change : Option Node → Option Node} (h : KeepsNode change) :
    Keeps (alter? name change) := by
  intro es es' hes halter
  constructor
  · rw [names_alter? halter]
    split
    next => exact hes.names
    next hnew =>
      refine List.nodup_append.mpr ⟨hes.names, by simp, fun k hk k' hk' heq => hnew ?_⟩
      rw [← List.mem_singleton.mp hk', ← heq]
      exact hk
  · intro e he
    obtain hold | ⟨n?, hchange, hn⟩ := of_mem_alter? halter he
    · exact hes.entries e hold
    · refine h n? e.2 (fun n heq => ?_) hchange
      obtain ⟨e', he', rfl⟩ := hn n heq
      exact hes.entries e' he'

section Inner

variable {change : Entries → Option Entries} (h : Keeps change) {n' : Node}

include h

/-- A table that is changed may come about in another way from then on. -/
theorem Keeps.table {origin origin' : Origin} {es : Entries} (hn : Node.Distinct (.table origin es))
    (hchange : (change es).map (.table origin') = some n') : n'.Distinct := by
  obtain ⟨es', hes', rfl⟩ := Option.map_eq_some_iff.mp hchange
  cases hn with
  | table hnames hentries =>
    have hdistinct := h es es' ⟨hnames, hentries⟩ hes'
    exact .table hdistinct.names hdistinct.entries

theorem Keeps.newTable {origin : Origin} (hchange : (change []).map (.table origin) = some n') :
    n'.Distinct :=
  h.table (.table List.nodup_nil nofun : Node.Distinct (.table origin [])) hchange

/-- Of a list of tables the last is changed. -/
theorem Keeps.tables {last : Entries} {before : List Entries}
    (hn : Node.Distinct (.tables (last :: before)))
    (hchange : (change last).map (fun last => .tables (last :: before)) = some n') :
    n'.Distinct := by
  obtain ⟨es, hes, rfl⟩ := Option.map_eq_some_iff.mp hchange
  cases hn with
  | tables hnames hentries =>
    rw [List.forall_mem_cons] at hnames hentries
    have hdistinct := h last es ⟨hnames.1, hentries.1⟩ hes
    exact .tables (List.forall_mem_cons.mpr ⟨hdistinct.names, hnames.2⟩)
      (List.forall_mem_cons.mpr ⟨hdistinct.entries, hentries.2⟩)

theorem keepsNode_pass? : KeepsNode (pass? change) := by
  intro n? n' hn hpass
  unfold pass? at hpass
  split at hpass
  next => exact h.newTable hpass
  next => exact h.table (hn _ rfl) hpass
  next => exact h.tables (hn _ rfl) hpass
  next => exact nomatch hpass

end Inner

theorem keeps_openTable? : ∀ path, Keeps (openTable? path)
  | [] => fun _ _ _ h => nomatch h
  | [name] => by
    refine keeps_alter? fun n? n' hn h => ?_
    split at h
    next =>
      cases h
      exact .table List.nodup_nil nofun
    next entries =>
      cases h
      cases hn _ rfl with
      | table hnames hentries => exact .table hnames hentries
    next => exact nomatch h
  | name :: name' :: names => keeps_alter? (keepsNode_pass? (keeps_openTable? (name' :: names)))

theorem keeps_openItem? : ∀ path, Keeps (openItem? path)
  | [] => fun _ _ _ h => nomatch h
  | [name] => by
    refine keeps_alter? fun n? n' hn h => ?_
    split at h
    next =>
      cases h
      exact .tables (List.forall_mem_singleton.mpr List.nodup_nil)
        (List.forall_mem_singleton.mpr nofun)
    next items =>
      cases h
      cases hn _ rfl with
      | tables hnames hentries =>
        exact .tables (List.forall_mem_cons.mpr ⟨List.nodup_nil, hnames⟩)
          (List.forall_mem_cons.mpr ⟨nofun, hentries⟩)
    next => exact nomatch h
  | name :: name' :: names => keeps_alter? (keepsNode_pass? (keeps_openItem? (name' :: names)))

theorem keeps_assign? {v : Toml} (hv : v.Distinct) : ∀ key, Keeps (assign? v key)
  | [] => fun _ _ _ h => nomatch h
  | [name] => by
    refine keeps_alter? fun n? n' hn h => ?_
    split at h
    next =>
      cases h
      exact .value hv
    next => exact nomatch h
  | name :: name' :: names => by
    have hinner := keeps_assign? hv (name' :: names)
    refine keeps_alter? fun n? n' hn h => ?_
    split at h
    next => exact hinner.newTable h
    next => exact hinner.table (hn _ rfl) h
    next =>
      split at h
      next => exact nomatch h
      next => exact hinner.table (hn _ rfl) h
    next =>
      split at h
      next => exact nomatch h
      next => exact hinner.tables (hn _ rfl) h
    next => exact nomatch h

theorem keeps_within? {change : Entries → Option Entries} (h : Keeps change) :
    ∀ path, Keeps (within? change path)
  | [] => h
  | _ :: names => keeps_alter? (keepsNode_pass? (keeps_within? h names))

end Entries

/-! ## Reading -/

theorem distinct_of_scalar? {word : List Char} {v : Toml} (h : scalar? word = some v) :
    v.Distinct := by
  unfold scalar? at h
  split at h
  next =>
    cases h
    exact .bool true
  next =>
    cases h
    exact .bool false
  next =>
    cases hinteger : integer? word with
    | some n =>
      rw [hinteger] at h
      cases h
      exact .integer n
    | none =>
      cases hfloat : float? word with
      | some f =>
        rw [hinteger, hfloat] at h
        cases h
        exact .float f
      | none =>
        rw [hinteger, hfloat] at h
        obtain ⟨text, -, rfl⟩ :=
          Option.map_eq_some_iff.mp (show (dateTime? word).map .dateTime = some v from h)
        exact .dateTime text

/-- What is read of values, items of arrays and entries of inline tables has no two entries of one
name in a table, whatever there is fuel for. -/
theorem distinct_of_scan (fuel : Nat) :
    (∀ cs v rest, scanValue? fuel cs = some (v, rest) → v.Distinct) ∧
    (∀ cs items rest, scanItems? fuel cs = some (items, rest) → ∀ v ∈ items, v.Distinct) ∧
    ∀ entries cs entries' rest, Entries.Distinct entries →
      scanEntries? fuel entries cs = some (entries', rest) → Entries.Distinct entries' := by
  induction fuel with
  | zero =>
    exact ⟨fun _ _ _ h => (nomatch h), fun _ _ _ h => (nomatch h), fun _ _ _ _ _ h => (nomatch h)⟩
  | succ fuel ih =>
    obtain ⟨hvalue, hitems, hentries⟩ := ih
    refine ⟨fun cs v rest h => ?_, fun cs items rest h => ?_,
      fun entries cs entries' rest hold h => ?_⟩
    · rw [scanValue?.eq_def] at h
      dsimp only at h
      split at h
      · obtain ⟨skipped, -, h⟩ := Option.bind_eq_some_iff.mp h
        obtain ⟨⟨items, behind⟩, hread, h⟩ := Option.bind_eq_some_iff.mp h
        cases h
        exact .array (hitems _ _ _ hread)
      · obtain ⟨skipped, -, h⟩ := Option.bind_eq_some_iff.mp h
        obtain ⟨⟨entries, behind⟩, hread, h⟩ := Option.bind_eq_some_iff.mp h
        cases h
        exact (hentries _ _ _ _ Entries.Distinct.nil hread).close
      · obtain ⟨⟨text, behind⟩, -, h⟩ := Option.map_eq_some_iff.mp h
        cases h
        exact .string _
      · obtain ⟨⟨text, behind⟩, -, h⟩ := Option.map_eq_some_iff.mp h
        cases h
        exact .string _
      · obtain ⟨w, hscalar, h⟩ := Option.map_eq_some_iff.mp h
        cases h
        exact distinct_of_scalar? hscalar
    · rw [scanItems?.eq_def] at h
      dsimp only at h
      split at h
      · cases h
        exact nofun
      · obtain ⟨⟨v, behind⟩, hread, h⟩ := Option.bind_eq_some_iff.mp h
        obtain ⟨skipped, -, h⟩ := Option.bind_eq_some_iff.mp h
        have hv := hvalue _ _ _ hread
        split at h
        · obtain ⟨skipped', -, h⟩ := Option.bind_eq_some_iff.mp h
          obtain ⟨⟨others, behind'⟩, hothers, h⟩ := Option.bind_eq_some_iff.mp h
          cases h
          exact List.forall_mem_cons.mpr ⟨hv, hitems _ _ _ hothers⟩
        · cases h
          exact List.forall_mem_singleton.mpr hv
        · exact nomatch h
    · rw [scanEntries?.eq_def] at h
      dsimp only at h
      split at h
      · cases h
        exact hold
      · obtain ⟨⟨key, behind⟩, -, h⟩ := Option.bind_eq_some_iff.mp h
        dsimp only at h
        split at h
        · obtain ⟨⟨v, behind'⟩, hread, h⟩ := Option.bind_eq_some_iff.mp h
          obtain ⟨changed, hassign, h⟩ := Option.bind_eq_some_iff.mp h
          obtain ⟨skipped, -, h⟩ := Option.bind_eq_some_iff.mp h
          have hchanged := Entries.keeps_assign? (hvalue _ _ _ hread) key _ _ hold hassign
          split at h
          · obtain ⟨skipped', -, h⟩ := Option.bind_eq_some_iff.mp h
            exact hentries _ _ _ _ hchanged h
          · cases h
            exact hchanged
          · exact nomatch h
        · exact nomatch h

/-- Reading lines keeps the names of entries apart. -/
theorem distinct_of_readLines? {fuel : Nat} {here : List String} {entries entries' : Entries}
    {cs : List Char} (hold : entries.Distinct)
    (h : readLines? fuel here entries cs = some entries') : entries'.Distinct := by
  induction fuel generalizing here entries cs with
  | zero => exact nomatch h
  | succ fuel ih =>
    rw [readLines?] at h
    obtain ⟨skipped, -, h⟩ := Option.bind_eq_some_iff.mp h
    split at h
    · cases h
      exact hold
    · obtain ⟨⟨path, behind⟩, -, h⟩ := Option.bind_eq_some_iff.mp h
      dsimp only at h
      split at h
      · obtain ⟨changed, hchange, h⟩ := Option.bind_eq_some_iff.mp h
        obtain ⟨ended, -, h⟩ := Option.bind_eq_some_iff.mp h
        exact ih (Entries.keeps_openItem? path _ _ hold hchange) h
      · exact nomatch h
    · obtain ⟨⟨path, behind⟩, -, h⟩ := Option.bind_eq_some_iff.mp h
      dsimp only at h
      split at h
      · obtain ⟨changed, hchange, h⟩ := Option.bind_eq_some_iff.mp h
        obtain ⟨ended, -, h⟩ := Option.bind_eq_some_iff.mp h
        exact ih (Entries.keeps_openTable? path _ _ hold hchange) h
      · exact nomatch h
    · obtain ⟨⟨key, behind⟩, -, h⟩ := Option.bind_eq_some_iff.mp h
      dsimp only at h
      split at h
      · obtain ⟨⟨v, behind'⟩, hread, h⟩ := Option.bind_eq_some_iff.mp h
        obtain ⟨changed, hchange, h⟩ := Option.bind_eq_some_iff.mp h
        obtain ⟨ended, -, h⟩ := Option.bind_eq_some_iff.mp h
        have hassign := Entries.keeps_assign? ((distinct_of_scan _).1 _ _ _ hread) key
        exact ih (Entries.keeps_within? hassign here _ _ hold hchange) h
      · exact nomatch h

/-- **No table of a document** that is read has two entries of one name. -/
theorem distinct_of_read? {text : String} {entries : List (String × Toml)}
    (h : read? text = some entries) : Toml.Distinct (.table entries) := by
  have hlines : ∀ {cs : List Char}, (readLines? (cs.length + 1) [] [] cs).map closeEntries =
      some entries → Toml.Distinct (.table entries) := by
    intro cs h
    obtain ⟨es, hread, rfl⟩ := Option.map_eq_some_iff.mp h
    exact (distinct_of_readLines? Entries.Distinct.nil hread).close
  unfold read? at h
  simp only [bind_pure_comp] at h
  split at h
  · split at h
    · obtain ⟨cs, -, h⟩ := Option.bind_eq_some_iff.mp h
      exact hlines h
    · obtain ⟨cs, -, h⟩ := Option.bind_eq_some_iff.mp h
      exact hlines h
  · obtain ⟨cs, -, h⟩ := Option.bind_eq_some_iff.mp h
    exact hlines h

end AlertRules.Toml
