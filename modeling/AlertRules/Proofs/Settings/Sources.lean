import AlertRules.Proofs.Settings.Layering
import AlertRules.Proofs.Toml.Distinct

/-!
# Settings leaf by leaf

Each leaf of loaded settings comes from the highest source that sets it, whatever the sources say of
other leaves, and a variable of its own overrides it last (`Settings.leaves_layered`).

What a source has for a leaf is found in it directly: in a file at the path of the leaf, among
variables under the key that names the leaf. That loading finds the same there is shown of each
source on its own, and that all that they lay over settings is in order.
-/

namespace AlertRules

open Setting

/-! ## Files -/

theorem Setting.names_ofTomlEntries (es : List (String × Toml)) :
    (ofTomlEntries es).map (·.1) = es.map (·.1) := by
  induction es with
  | nil => rfl
  | cons e rest ih =>
    obtain ⟨name, v⟩ := e
    rw [ofTomlEntries, List.map_cons, ih, List.map_cons]

theorem Setting.exists_of_mem_ofTomlEntries {es : List (String × Toml)} {e : String × Setting}
    (h : e ∈ ofTomlEntries es) : ∃ v, (e.1, v) ∈ es ∧ ofToml v = e.2 := by
  induction es with
  | nil => exact nomatch h
  | cons first rest ih =>
    obtain ⟨name, v⟩ := first
    rw [ofTomlEntries] at h
    obtain rfl | h := List.mem_cons.mp h
    · exact ⟨v, List.mem_cons_self, rfl⟩
    · obtain ⟨w, hw, heq⟩ := ih h
      exact ⟨w, List.mem_cons_of_mem _ hw, heq⟩

theorem Setting.names_nodup_of_ofToml {v : Toml} {new : List (String × Setting)} (h : v.Distinct)
    (hnew : ofToml v = .table new) : (new.map (·.1)).Nodup := by
  cases h with
  | table hnames =>
    rw [ofToml] at hnew
    cases hnew
    rwa [names_ofTomlEntries]
  | _ =>
    rw [ofToml] at hnew
    cases hnew

/-- Whether a value is a table. -/
def Setting.isTable : Setting → Bool
  | .table _ => true
  | _ => false

theorem Setting.exists_of_isTable {v : Setting} (h : v.isTable = true) :
    ∃ entries, v = .table entries := by
  cases v with
  | table entries => exact ⟨entries, rfl⟩
  | _ => exact nomatch h

namespace Layer

/-- That a layer sets fields by their names, and tables where there are sections. -/
def ByFields (layer : Layer) : Prop :=
  ∀ e ∈ layer, place e.1 = [e.1] ∧ (e.1 ∈ Settings.sectionNames → e.2.isTable = true)

instance (layer : Layer) : Decidable layer.ByFields :=
  inferInstanceAs <| Decidable <|
    ∀ e ∈ layer, place e.1 = [e.1] ∧ (e.1 ∈ Settings.sectionNames → e.2.isTable = true)

theorem names_nodup_of_ofFile? {text : Option String} {layer : Layer}
    (h : ofFile? text = some layer) :
    (layer.map (·.1)).Nodup ∧ ∀ e ∈ layer, ∀ new, e.2 = .table new → (new.map (·.1)).Nodup := by
  cases text with
  | none =>
    cases h
    exact ⟨List.nodup_nil, nofun⟩
  | some text =>
    obtain ⟨entries, hread, rfl⟩ := Option.map_eq_some_iff.mp h
    cases Toml.distinct_of_read? hread with
    | table hnames hentries =>
      refine ⟨by rwa [names_ofTomlEntries], fun e he new hnew => ?_⟩
      obtain ⟨v, hv, heq⟩ := exists_of_mem_ofTomlEntries he
      exact names_nodup_of_ofToml (hentries _ hv) (heq.trans hnew)

theorem ofVariables_cons (e : String × String) (env : List (String × String)) :
    ofVariables (e :: env) =
      ((keyOfVariable? e.1).map fun key => (key, ofVariable e.2)).toList ++ ofVariables env := by
  obtain ⟨name, text⟩ := e
  rw [ofVariables, List.filterMap_cons]
  dsimp only
  cases keyOfVariable? name <;> rfl

end Layer

namespace Settings

variable {α : Type}

theorem orderly_of_ofFile? {text : Option String} {layer : Layer}
    (h : Layer.ofFile? text = some layer) (hfields : layer.ByFields) :
    ∀ e ∈ layer, Orderly (Layer.place e.1) e.2 := by
  intro e he
  obtain ⟨hplace, hsection⟩ := hfields e he
  rw [hplace]
  by_cases hname : e.1 ∈ sectionNames
  · obtain ⟨new, hnew⟩ := exists_of_isTable (hsection hname)
    rw [hnew]
    exact .table e.1 ((Layer.names_nodup_of_ofFile? h).2 e he new hnew)
  · exact .field e.2 hname

/-- What a file, of which `none` is missing, has for a leaf. -/
def Leaf.inFile? (l : Leaf α) (text : Option String) : Option Setting :=
  (Layer.ofFile? text).bind fun layer => value? l.path (.table layer)

theorem Leaf.given?_ofFile? (l : Leaf α) {text : Option String} {layer : Layer}
    (h : Layer.ofFile? text = some layer) (hfields : layer.ByFields) :
    layer.given? l.path = l.inFile? text := by
  have hown : ∀ e ∈ layer, Layer.place e.1 = [e.1] := fun e he => (hfields e he).1
  have hnames := (Layer.names_nodup_of_ofFile? h).1
  rw [inFile?, h, Option.bind_some]
  obtain ⟨name, hpath, -⟩ | ⟨part, name, hpath, -⟩ := l.path_cases
  · rw [hpath, Layer.given?_of_own hown hnames]
  · rw [hpath, Layer.given?_of_own hown hnames]

/-! ## Variables -/

/-- The key that names a leaf. -/
def Leaf.key (l : Leaf α) : String := ".".intercalate l.path

theorem Leaf.place_key (l : Leaf α) : Layer.place l.key = l.path := by
  cases l <;> decide +kernel

/-- The paths of leaves do not lead through each other. -/
theorem Leaf.path_eq_of_prefix {β : Type} {l : Leaf α} {other : Leaf β}
    (h : l.path <+: other.path) : l.path = other.path := by
  obtain ⟨name, hpath, hname⟩ | ⟨part, name, hpath, hpart⟩ := l.path_cases <;>
    obtain ⟨name', hpath', hname'⟩ | ⟨part', name', hpath', hpart'⟩ := other.path_cases <;>
    rw [hpath, hpath'] at h ⊢
  · exact h.eq_of_length rfl
  · have heq := (List.cons_prefix_cons.mp h).1
    exact absurd (heq ▸ hpart') hname
  · exact absurd h.length_le (by simp)
  · exact h.eq_of_length rfl

theorem Leaf.given?_key {β : Type} (l : Leaf α) (other : Leaf β) (v : Setting) :
    Setting.given? l.path (Layer.place other.key) v =
      if other.key = l.key then some v else none := by
  by_cases h : other.key = l.key
  · rw [h, if_pos rfl, l.place_key, given?_self]
  · rw [if_neg h, other.place_key]
    refine given?_eq_none (fun hprefix => h ?_) v
    rw [key, path_eq_of_prefix hprefix, key]

/-- That a variable, if it stands for a setting, names a leaf. -/
def NamesLeaf (name : String) : Prop :=
  ∀ key, Layer.keyOfVariable? name = some key → ∃ (α : Type) (l : Leaf α), l.key = key

theorem keyOfVariable?_environment : Layer.keyOfVariable? "TELEMETRYX_ENV" = some "env" := by
  decide +kernel

theorem place_env : Layer.place "env" = ["env"] := by
  decide +kernel

theorem Leaf.given?_variable (l : Leaf α) {name key : String}
    (hname : name = "TELEMETRYX_ENV" ∨ NamesLeaf name)
    (hkey : Layer.keyOfVariable? name = some key) (v : Setting) :
    Setting.given? l.path (Layer.place key) v = if key = l.key then some v else none := by
  obtain rfl | hname := hname
  · cases keyOfVariable?_environment.symm.trans hkey
    have hpath : ¬ ["env"] <+: l.path := by cases l <;> decide
    have hne : "env" ≠ l.key := by
      intro heq
      have henv : l.path = ["env"] := by rw [← l.place_key, ← heq, place_env]
      exact hpath (henv ▸ List.prefix_rfl)
    rw [if_neg hne, place_env, given?_eq_none hpath]
  · obtain ⟨β, other, rfl⟩ := hname key hkey
    exact l.given?_key other v

/-- The text of the variable that names a leaf, of several the last. -/
def Leaf.namedIn? (l : Leaf α) (env : List (String × String)) : Option String :=
  (env.reverse.find? fun e => Layer.keyOfVariable? e.1 = some l.key).map (·.2)

theorem Leaf.namedIn?_cons (l : Leaf α) (e : String × String) (env : List (String × String)) :
    l.namedIn? (e :: env) =
      (l.namedIn? env).or (if Layer.keyOfVariable? e.1 = some l.key then some e.2 else none) := by
  rw [namedIn?, List.reverse_cons, List.find?_append, Option.map_or, List.find?_singleton]
  by_cases h : Layer.keyOfVariable? e.1 = some l.key
  · rw [if_pos (decide_eq_true h), if_pos h]
    rfl
  · rw [if_neg (by simpa using h), if_neg h]
    rfl

theorem Leaf.given?_ofVariables (l : Leaf α) {env : List (String × String)}
    (henv : ∀ e ∈ env, e.1 = "TELEMETRYX_ENV" ∨ NamesLeaf e.1) :
    (Layer.ofVariables env).given? l.path = (l.namedIn? env).map ofVariable := by
  induction env with
  | nil => rfl
  | cons e rest ih =>
    obtain ⟨hfirst, hrest⟩ := List.forall_mem_cons.mp henv
    have hentry :
        Layer.given? l.path ((Layer.keyOfVariable? e.1).map fun key =>
          (key, ofVariable e.2)).toList =
          (if Layer.keyOfVariable? e.1 = some l.key then some e.2 else none).map ofVariable := by
      cases hkey : Layer.keyOfVariable? e.1 with
      | none => rfl
      | some key =>
        show Option.or none (Setting.given? l.path (Layer.place key) (ofVariable e.2)) = _
        rw [l.given?_variable hfirst hkey, Option.none_or]
        by_cases h : key = l.key
        · rw [if_pos h, if_pos (congrArg some h)]
          rfl
        · rw [if_neg h, if_neg fun heq => h (Option.some.inj heq)]
          rfl
    rw [Layer.ofVariables_cons, Layer.given?_append, ih hrest, hentry, namedIn?_cons, Option.map_or]

theorem orderly_ofVariables {env : List (String × String)}
    (henv : ∀ e ∈ env, e.1 = "TELEMETRYX_ENV" ∨ NamesLeaf e.1) :
    ∀ e ∈ Layer.ofVariables env, Orderly (Layer.place e.1) e.2 := by
  intro e he
  obtain ⟨⟨name, text⟩, hmem, h⟩ := List.mem_filterMap.mp he
  obtain ⟨key, hkey, rfl⟩ := Option.map_eq_some_iff.mp h
  obtain rfl | hname := henv _ hmem
  · cases keyOfVariable?_environment.symm.trans hkey
    rw [place_env]
    exact .field _ (by decide)
  · obtain ⟨β, l, rfl⟩ := hname key hkey
    rw [l.place_key]
    exact l.orderly_path _

/-! ## Defaults -/

/-- What holds for a leaf by default for a process in an environment. -/
def Leaf.initial? : Leaf α → (service environment : String) → Option Setting
  | .serviceName, service, _ | .reportedName, service, _ => some (.string service)
  | .environment, _, name => some (.string name)
  | _, _, _ => none

theorem defaults_eq (service environment : String) :
    Layer.defaults service environment =
      [(Leaf.serviceName.key, .string service), (Leaf.environment.key, .string environment),
        (Leaf.reportedName.key, .string service)] := rfl

theorem Leaf.given?_defaults (l : Leaf α) (service environment : String) :
    (Layer.defaults service environment).given? l.path = l.initial? service environment := by
  rw [defaults_eq, Layer.given?, Layer.given?, Layer.given?, Layer.given?, place_key,
    place_key, place_key]
  cases l <;> rfl

theorem orderly_defaults (service environment : String) :
    ∀ e ∈ Layer.defaults service environment, Orderly (Layer.place e.1) e.2 := by
  rw [defaults_eq]
  simp only [List.forall_mem_cons, Leaf.place_key]
  exact ⟨Leaf.orderly_path _ _, Leaf.orderly_path _ _, Leaf.orderly_path _ _, nofun⟩

/-! ## All sources -/

/-- The environment that a process runs in. -/
def environmentOf (env : List (String × String)) : String :=
  (env.lookup "TELEMETRYX_ENV").getD "development"

/-- What the highest source that sets a leaf has for it: its variable, the file of the process, the
file of the environment, the file for all, or what holds by default. -/
def Leaf.highest? (l : Leaf α) (service : String) (file? : String → Option String)
    (env : List (String × String)) : Option Setting :=
  ((l.namedIn? env).map ofVariable).or <|
    (l.inFile? (file? (service ++ ".toml"))).or <|
      (l.inFile? (file? (environmentOf env ++ ".toml"))).or <|
        (l.inFile? (file? "default.toml")).or (l.initial? service (environmentOf env))

theorem orDefault_congr {standard : α} {read : Setting → Option α} {v w : Option Setting}
    (h : v.map read = w.map read) : orDefault standard read v = orDefault standard read w := by
  cases v with
  | none =>
    cases w with
    | none => rfl
    | some w => exact nomatch h
  | some v =>
    cases w with
    | none => exact nomatch h
    | some w => exact Option.some.inj h

/-- Settings that load were read from their layers, laid over each other. -/
theorem exists_of_load? {service : String} {file? : String → Option String}
    {env : List (String × String)} {s : Settings} (h : load? service file? env = some s) :
    ∃ general specific own before,
      Layer.ofFile? (file? "default.toml") = some general ∧
      Layer.ofFile? (file? (environmentOf env ++ ".toml")) = some specific ∧
      Layer.ofFile? (file? (service ++ ".toml")) = some own ∧
      ofSetting? (Layer.apply
        (Layer.defaults service (environmentOf env) ++ general ++ specific ++ own ++
          Layer.ofVariables env) (.table [])) = some before ∧
      s = before.override (env.lookup ·) := by
  obtain ⟨layers, hlayers, h⟩ := Option.bind_eq_some_iff.mp h
  obtain ⟨general, hgeneral, hlayers⟩ := Option.bind_eq_some_iff.mp hlayers
  obtain ⟨specific, hspecific, hlayers⟩ := Option.bind_eq_some_iff.mp hlayers
  obtain ⟨own, hown, hlayers⟩ := Option.bind_eq_some_iff.mp hlayers
  cases hlayers
  obtain ⟨before, hbefore, h⟩ := Option.bind_eq_some_iff.mp h
  cases h
  refine ⟨general, specific, own, before, hgeneral, hspecific, hown, ?_, rfl⟩
  simp only [Layer.apply_append]
  exact hbefore

/-- **Each leaf** of settings that load is what the highest source that sets it has for it, or its
default, unless a variable of its own overrides it; where files set fields by their names, and
variables name leaves. -/
theorem leaves_layered {service : String} {file? : String → Option String}
    {env : List (String × String)} {s : Settings}
    (hfiles : ∀ name ∈ ["default.toml", environmentOf env ++ ".toml", service ++ ".toml"],
      ∀ layer ∈ Layer.ofFile? (file? name), layer.ByFields)
    (henv : ∀ e ∈ env, e.1 = "TELEMETRYX_ENV" ∨ NamesLeaf e.1)
    (h : load? service file? env = some s) {α : Type} (l : Leaf α) :
    ∃ base, orDefault l.standard l.read? (l.highest? service file? env) = some base ∧
      l.get s = (l.override? (env.lookup ·)).getD base := by
  obtain ⟨general, specific, own, before, hgeneral, hspecific, hown, hread, rfl⟩ :=
    exists_of_load? h
  obtain ⟨hgeneral', hspecific', hown'⟩ : general.ByFields ∧ specific.ByFields ∧ own.ByFields := by
    simpa [hgeneral, hspecific, hown] using hfiles
  have horderly : ∀ e ∈ Layer.defaults service (environmentOf env) ++ general ++ specific ++ own ++
      Layer.ofVariables env, Orderly (Layer.place e.1) e.2 := by
    simp only [List.forall_mem_append]
    exact ⟨⟨⟨⟨orderly_defaults service _, orderly_of_ofFile? hgeneral hgeneral'⟩,
      orderly_of_ofFile? hspecific hspecific'⟩, orderly_of_ofFile? hown hown'⟩,
        orderly_ofVariables henv⟩
  -- what is overridden is the leaf of the settings as they were read
  refine ⟨l.get before, ?_, l.get_override _ before⟩
  rw [← Leaf.of_ofSetting? (Sectioned.empty.apply horderly) hread l]
  -- tables may be merged on the way, so sources and result agree only in what can be read of them
  refine orDefault_congr ?_
  have hempty : value? l.path (.table []) = none := by cases l <;> rfl
  rw [Layer.map_value?_apply l.leaflike_read? fun e he => (horderly e he).fits l, hempty,
    Option.map_none, Option.or_none]
  simp only [Layer.given?_append]
  rw [l.given?_ofVariables henv, l.given?_ofFile? hown hown', l.given?_ofFile? hspecific hspecific',
    l.given?_ofFile? hgeneral hgeneral', l.given?_defaults]
  rfl

/-- Files that all set the port, and of which one also sets the host. -/
def stagingFile? (name : String) : Option String :=
  [("default.toml", "[server]\nhost = \"10.0.0.1\"\nport = 1\n"),
    ("staging.toml", "server.port = 2\n"),
    ("alert-rules.toml", "[server]\nport = \"3000\"\n")].lookup name

/-- Variables of which one names a leaf, one overrides a leaf, and one would but is no port. -/
def stagingVariables : List (String × String) :=
  [("HOME", "/root"), ("TELEMETRYX_ENV", "staging"),
    ("TELEMETRYX_SERVER__MAX_MESSAGE_BYTES", "1024"),
    ("GRPC_PORT", "none"), ("DATABASE_URL", "postgres://own")]

/-- The host is from the file for all, the port from the file of the process, as a text, the bound
on messages from its variable, and the database from one of its own. -/
theorem leaves_layered_staging :
    ∃ s, load? "alert-rules" stagingFile? stagingVariables = some s ∧
      s.server.host = "10.0.0.1" ∧ s.server.port = 3000 ∧ s.server.maxMessageBytes = 1024 ∧
      s.database.url = "postgres://own" := by
  have hfiles :
      ∀ name ∈ ["default.toml", environmentOf stagingVariables ++ ".toml",
        "alert-rules" ++ ".toml"],
      ∀ layer ∈ Layer.ofFile? (stagingFile? name), layer.ByFields := by
    decide +kernel
  have henv : ∀ e ∈ stagingVariables, e.1 = "TELEMETRYX_ENV" ∨ NamesLeaf e.1 := by
    have hhome : Layer.keyOfVariable? "HOME" = none := by decide +kernel
    have hsize : Layer.keyOfVariable? "TELEMETRYX_SERVER__MAX_MESSAGE_BYTES" =
        some Leaf.maxMessageBytes.key := by
      decide +kernel
    have hport : Layer.keyOfVariable? "GRPC_PORT" = none := by decide +kernel
    have hdatabase : Layer.keyOfVariable? "DATABASE_URL" = none := by decide +kernel
    simp only [stagingVariables, List.forall_mem_cons]
    refine ⟨.inr fun key hkey => ?_, .inl trivial, .inr fun key hkey => ?_, .inr fun key hkey => ?_,
      .inr fun key hkey => ?_, nofun⟩
    · cases hhome.symm.trans hkey
    · cases hsize.symm.trans hkey
      exact ⟨UInt64, .maxMessageBytes, rfl⟩
    · cases hport.symm.trans hkey
    · cases hdatabase.symm.trans hkey
  have hloads : (load? "alert-rules" stagingFile? stagingVariables).isSome = true := by
    decide +kernel
  obtain ⟨s, hload⟩ := Option.isSome_iff_exists.mp hloads
  have hleaf {α : Type} (l : Leaf α) {base : α}
      (hbase : orDefault l.standard l.read?
        (l.highest? "alert-rules" stagingFile? stagingVariables) = some base) :
      l.get s = (l.override? (stagingVariables.lookup ·)).getD base := by
    obtain ⟨base', hbase', hget⟩ := leaves_layered hfiles henv hload l
    cases hbase.symm.trans hbase'
    exact hget
  refine ⟨s, hload, ?_, ?_, ?_, ?_⟩
  · exact hleaf .host (by decide +kernel)
  · exact hleaf .port (by decide +kernel)
  · exact hleaf .maxMessageBytes (by decide +kernel)
  · exact hleaf .databaseUrl (show _ = some "" by decide +kernel)

end Settings

end AlertRules
