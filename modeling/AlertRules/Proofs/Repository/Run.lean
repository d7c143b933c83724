import AlertRules.Proofs.Program
import AlertRules.Proofs.Repository.Contract

/-!
# Runs of operations

A `World` is what an operation meets: the state of a store, and what stands in the cache under each
key. `World.Step` is one request and its answer, `Reaches` any number of them: the part of a program
that is still to do is itself a program, so a run may be looked at, or cut off, after any request.

What may go wrong with the cache is up to `Hazards`: whether entries may vanish between two
requests, and which of its calls may fail. A `set` or `delete` that is reported as failed may have
been done all the same. What a run has asked the store, and what its lookups gave, is listed by
`storeCalls` and `lookups`.

> `exists_run`: every program has a run to its end, whatever may go wrong.
-/

namespace AlertRules

/-- What may go wrong with a cache. -/
structure Hazards where
  /-- Entries may vanish between two requests. -/
  expiry : Prop
  /-- Calls that may fail. -/
  fails : CacheOperation → Prop

/-- Nothing goes wrong. -/
def Hazards.calm : Hazards := ⟨False, fun _ => False⟩

/-- Everything may go wrong but deletions. -/
def Hazards.sparingDeletions : Hazards := ⟨True, fun op => op ≠ .delete⟩

/-- A store in some state, and the texts in a cache. -/
structure World (σ : Type) where
  store : σ
  entries : String → Option String

namespace World

variable {σ : Type}

/-- The world with a text under a key. -/
def put (w : World σ) (key text : String) : World σ :=
  { w with entries := fun k => if k = key then some text else w.entries k }

/-- The world with nothing under a key. -/
def drop (w : World σ) (key : String) : World σ :=
  { w with entries := fun k => if k = key then none else w.entries k }

@[simp] theorem store_drop (w : World σ) (key : String) : (w.drop key).store = w.store := rfl

@[simp] theorem entries_put_self (w : World σ) (key text : String) :
    (w.put key text).entries key = some text := if_pos rfl

theorem entries_put_ne {w : World σ} {key text k : String} (h : k ≠ key) :
    (w.put key text).entries k = w.entries k := if_neg h

@[simp] theorem entries_drop_self (w : World σ) (key : String) :
    (w.drop key).entries key = none := if_pos rfl

theorem entries_drop_ne {w : World σ} {key k : String} (h : k ≠ key) :
    (w.drop key).entries k = w.entries k := if_neg h

theorem entries_put {w : World σ} {key text k t : String}
    (h : (w.put key text).entries k = some t) : (k = key ∧ t = text) ∨ w.entries k = some t := by
  unfold put at h
  dsimp only at h
  split at h
  next heq => exact .inl ⟨heq, (Option.some.inj h).symm⟩
  next => exact .inr h

theorem entries_drop {w : World σ} {key k t : String} (h : (w.drop key).entries k = some t) :
    k ≠ key ∧ w.entries k = some t := by
  unfold drop at h
  dsimp only at h
  split at h
  next => exact nomatch h
  next hne => exact ⟨hne, h⟩

/-- That a world differs from an earlier one at most by entries that have vanished since. -/
def Fades (hz : Hazards) (w w' : World σ) : Prop :=
  w' = w ∨ hz.expiry ∧ w'.store = w.store ∧ ∀ k, w'.entries k = w.entries k ∨ w'.entries k = none

theorem Fades.store_eq {hz : Hazards} {w w' : World σ} (h : Fades hz w w') :
    w'.store = w.store := by
  rcases h with rfl | ⟨-, hstore, -⟩
  · rfl
  · exact hstore

theorem Fades.entries {hz : Hazards} {w w' : World σ} (h : Fades hz w w') {k t : String}
    (ht : w'.entries k = some t) : w.entries k = some t := by
  rcases h with rfl | ⟨-, -, hentries⟩
  · exact ht
  · rcases hentries k with heq | hnone
    · rw [← heq]
      exact ht
    · rw [hnone] at ht
      exact nomatch ht

/-- If nothing vanishes, worlds stay as they are between requests. -/
theorem Fades.eq_of_steady {hz : Hazards} {w w' : World σ} (hsteady : ¬ hz.expiry)
    (h : w.Fades hz w') : w' = w := by
  rcases h with rfl | ⟨hexpiry, -⟩
  · rfl
  · exact absurd hexpiry hsteady

theorem Fades.trans {hz : Hazards} {w w₁ w' : World σ} (h : w.Fades hz w₁) (h' : w₁.Fades hz w') :
    w.Fades hz w' := by
  rcases h with rfl | ⟨hexpiry, hstore, hentries⟩
  · exact h'
  · rcases h' with rfl | ⟨-, hstore', hentries'⟩
    · exact .inr ⟨hexpiry, hstore, hentries⟩
    · refine .inr ⟨hexpiry, hstore'.trans hstore, fun key => ?_⟩
      rcases hentries' key with hsame | hnone
      · rw [hsame]
        exact hentries key
      · exact .inr hnone

/-- One request, and its answer. -/
inductive Step (S : RuleStore σ) (hz : Hazards) :
    World σ → (r : Request) → r.Answer → World σ → Prop
  | store {w : World σ} {c : StoreCall} :
    Step S hz w (.store c) (S.answer c w.store).1 { w with store := (S.answer c w.store).2 }
  | get {w : World σ} {key : String} : Step S hz w (.cache (.get key)) (.ok (w.entries key)) w
  | set {w : World σ} {key text : String} {ttl : Nat} :
    Step S hz w (.cache (.set key text ttl)) (.ok ()) (w.put key text)
  | delete {w : World σ} {key : String} : Step S hz w (.cache (.delete key)) (.ok ()) (w.drop key)
  | getFails {w : World σ} {key : String} {f : RuleFault} (hfails : hz.fails .get) :
    Step S hz w (.cache (.get key)) (.error f) w
  | setFails {w w' : World σ} {key text : String} {ttl : Nat} {f : RuleFault}
    (hfails : hz.fails .set) (hw' : w' = w ∨ w' = w.put key text) :
    Step S hz w (.cache (.set key text ttl)) (.error f) w'
  | deleteFails {w w' : World σ} {key : String} {f : RuleFault} (hfails : hz.fails .delete)
    (hw' : w' = w ∨ w' = w.drop key) : Step S hz w (.cache (.delete key)) (.error f) w'
  | observe {w : World σ} {o : Observation} : Step S hz w (.observe o) () w

/-- Every request can be answered. -/
theorem exists_step (S : RuleStore σ) (hz : Hazards) (w : World σ) :
    ∀ r : Request, ∃ x w', Step S hz w r x w'
  | .store _ => ⟨_, _, .store⟩
  | .cache (.get _) => ⟨_, _, .get⟩
  | .cache (.set _ _ _) => ⟨_, _, .set⟩
  | .cache (.delete _) => ⟨_, _, .delete⟩
  | .observe _ => ⟨_, _, .observe⟩

variable {S : RuleStore σ} {hz : Hazards} {w w' : World σ}

theorem Step.of_answer {c : StoreCall} {x : Except RuleFault c.Answer} {s : σ}
    (h : S.answer c w.store = (x, s)) : Step S hz w (.store c) x { w with store := s } := by
  have hstep : Step S hz w (.store c) (S.answer c w.store).1
    { w with store := (S.answer c w.store).2 } := .store
  rw [h] at hstep
  exact hstep

/-- The store answers as it does, and nothing else changes. -/
theorem Step.of_store {c : StoreCall} {x : Except RuleFault c.Answer}
    (h : Step S hz w (.store c) x w') :
    x = (S.answer c w.store).1 ∧ w' = { w with store := (S.answer c w.store).2 } := by
  cases h
  exact ⟨rfl, rfl⟩

/-- A cache that may not fail to set a text sets it. -/
theorem Step.of_set {key text : String} {ttl : Nat} {x : Except RuleFault Unit}
    (hset : ¬ hz.fails .set) (h : Step S hz w (.cache (.set key text ttl)) x w') :
    w' = w.put key text := by
  cases h with
  | set => rfl
  | setFails hfails => exact absurd hfails hset

/-- A cache that may not fail to delete a key deletes it. -/
theorem Step.of_delete {key : String} {x : Except RuleFault Unit} (hdelete : ¬ hz.fails .delete)
    (h : Step S hz w (.cache (.delete key)) x w') : w' = w.drop key := by
  cases h with
  | delete => rfl
  | deleteFails hfails => exact absurd hfails hdelete

/-- A cache that may not fail to give a text gives what is there. -/
theorem Step.of_get {key : String} {x : Except RuleFault (Option String)} (hget : ¬ hz.fails .get)
    (h : Step S hz w (.cache (.get key)) x w') : x = .ok (w.entries key) ∧ w' = w := by
  cases h with
  | get => exact ⟨rfl, rfl⟩
  | getFails hfails => exact absurd hfails hget

/-- Every text in the cache was there, or has been set. -/
theorem Step.entries {r : Request} {x : r.Answer} (h : Step S hz w r x w') {key text : String}
    (ht : w'.entries key = some text) :
    w.entries key = some text ∨ ∃ ttl, r = .cache (.set key text ttl) := by
  have hput : ∀ {k t : String} {ttl : Nat}, (w.put k t).entries key = some text →
      w.entries key = some text ∨
        ∃ ttl', Request.cache (.set k t ttl) = .cache (.set key text ttl') := by
    intro k t ttl hentry
    rcases entries_put hentry with ⟨rfl, rfl⟩ | hbefore
    · exact .inr ⟨ttl, rfl⟩
    · exact .inl hbefore
  cases h with
  | store => exact .inl ht
  | get => exact .inl ht
  | set => exact hput ht
  | delete => exact .inl (entries_drop ht).2
  | getFails => exact .inl ht
  | setFails hfails hw' =>
    rcases hw' with rfl | rfl
    · exact .inl ht
    · exact hput ht
  | deleteFails hfails hw' =>
    rcases hw' with rfl | rfl
    · exact .inl ht
    · exact .inl (entries_drop ht).2
  | observe => exact .inl ht

/-- Only a call on the store changes its state. -/
theorem Step.store_eq {r : Request} {x : r.Answer} (h : Step S hz w r x w') :
    (∃ c, r = .store c ∧ w'.store = (S.answer c w.store).2) ∨ w'.store = w.store := by
  cases h with
  | store => exact .inl ⟨_, rfl, rfl⟩
  | get => exact .inr rfl
  | set => exact .inr rfl
  | delete => exact .inr rfl
  | getFails => exact .inr rfl
  | setFails hfails hw' => rcases hw' with rfl | rfl <;> exact .inr rfl
  | deleteFails hfails hw' => rcases hw' with rfl | rfl <;> exact .inr rfl
  | observe => exact .inr rfl

theorem Step.of_observe {o : Observation} {x : Unit} (h : Step S hz w (.observe o) x w') :
    w' = w := by
  cases h
  rfl

end World

/-- A request and its answer. -/
abbrev Exchange : Type := (r : Request) × r.Answer

/-- That a program, begun in one world, may have made some requests, be left with the rest of its
work, and find itself in another world. -/
inductive Reaches {σ : Type} (S : RuleStore σ) (hz : Hazards) {α : Type} :
    Work α → World σ → List Exchange → Work α → World σ → Prop
  | refl (p : Work α) (w : World σ) : Reaches S hz p w [] p w
  | next {r : Request} {next : r.Answer → Work α} {w w₁ w₂ w' : World σ} {x : r.Answer}
    {trace : List Exchange} {p' : Work α} (hfade : w.Fades hz w₁) (hstep : w₁.Step S hz r x w₂)
    (hrest : Reaches S hz (next x) w₂ trace p' w') :
    Reaches S hz (.ask r next) w (⟨r, x⟩ :: trace) p' w'

namespace Reaches

variable {σ : Type} {S : RuleStore σ} {hz : Hazards} {α β : Type}

/-- **Every program has a run to its end, whatever may go wrong.** -/
theorem exists_run (S : RuleStore σ) (hz : Hazards) (p : Work α) (w : World σ) :
    ∃ trace a w', Reaches S hz p w trace (.done a) w' := by
  induction p generalizing w with
  | done a => exact ⟨[], a, w, .refl _ _⟩
  | ask r rest ih =>
    obtain ⟨x, w₁, hstep⟩ := World.exists_step S hz w r
    obtain ⟨trace, a, w', hrest⟩ := ih x w₁
    exact ⟨_, a, w', .next (.inl rfl) hstep hrest⟩

theorem trans {p p₁ p' : Work α} {w w₁ w' : World σ} {trace₁ trace₂ : List Exchange}
    (h₁ : Reaches S hz p w trace₁ p₁ w₁) (h₂ : Reaches S hz p₁ w₁ trace₂ p' w') :
    Reaches S hz p w (trace₁ ++ trace₂) p' w' := by
  induction h₁ with
  | refl => exact h₂
  | next hfade hstep _ ih => exact .next hfade hstep (ih h₂)

/-- Whatever goes on with its result, a program takes the same steps. -/
theorem andThen {p p' : Work α} {w w' : World σ} {trace : List Exchange}
    (h : Reaches S hz p w trace p' w') (f : α → Work β) :
    Reaches S hz (p.andThen f) w trace (p'.andThen f) w' := by
  induction h with
  | refl => exact .refl _ _
  | next hfade hstep _ ih => exact .next hfade hstep ih

/-- A program that is done goes nowhere. -/
theorem of_done {a : α} {p' : Work α} {w w' : World σ} {trace : List Exchange}
    (h : Reaches S hz (.done a) w trace p' w') : trace = [] ∧ p' = .done a ∧ w' = w := by
  cases h
  exact ⟨rfl, rfl, rfl⟩

/-- A program that has made no request yet is all there is to do; otherwise the first one has been
answered. -/
theorem of_ask {r : Request} {rest : r.Answer → Work α} {p' : Work α} {w w' : World σ}
    {trace : List Exchange} (h : Reaches S hz (.ask r rest) w trace p' w') :
    (trace = [] ∧ p' = .ask r rest ∧ w' = w) ∨
      ∃ w₁ x w₂ trace', w.Fades hz w₁ ∧ w₁.Step S hz r x w₂ ∧
        Reaches S hz (rest x) w₂ trace' p' w' ∧ trace = ⟨r, x⟩ :: trace' := by
  cases h with
  | refl => exact .inl ⟨rfl, rfl, rfl⟩
  | next hfade hstep hrest => exact .inr ⟨_, _, _, _, hfade, hstep, hrest, rfl⟩

/-- The first request of a run to the end has been answered. -/
theorem of_ask_done {r : Request} {rest : r.Answer → Work α} {a : α} {w w' : World σ}
    {trace : List Exchange} (h : Reaches S hz (.ask r rest) w trace (.done a) w') :
    ∃ w₁ x w₂ trace', w.Fades hz w₁ ∧ w₁.Step S hz r x w₂ ∧
      Reaches S hz (rest x) w₂ trace' (.done a) w' ∧ trace = ⟨r, x⟩ :: trace' := by
  rcases of_ask h with ⟨-, hp, -⟩ | hfirst
  · exact nomatch hp
  · exact hfirst

/-- A program that goes on with the result of another is either still busy with that one, or has got
its result and gone on. -/
theorem of_andThen {f : α → Work β} : ∀ {p : Work α} {w w' : World σ} {trace : List Exchange}
    {q : Work β}, Reaches S hz (p.andThen f) w trace q w' →
      (∃ p', Reaches S hz p w trace p' w' ∧ q = p'.andThen f) ∨
        ∃ trace₁ a w₁ trace₂, Reaches S hz p w trace₁ (.done a) w₁ ∧
          Reaches S hz (f a) w₁ trace₂ q w' ∧ trace = trace₁ ++ trace₂
  | .done a, w, _, trace, _, h => .inr ⟨[], a, w, trace, .refl _ _, h, rfl⟩
  | .ask r rest, w, _, trace, _, h => by
    rcases of_ask h with ⟨rfl, rfl, rfl⟩ | ⟨w₁, x, w₂, trace', hfade, hstep, hrest, rfl⟩
    · exact .inl ⟨.ask r rest, .refl _ _, rfl⟩
    · rcases of_andThen hrest with ⟨p', hp', rfl⟩ | ⟨trace₁, a, w₁, trace₂, hdone, hgoes, rfl⟩
      · exact .inl ⟨p', .next hfade hstep hp', rfl⟩
      · exact .inr ⟨_, a, w₁, trace₂, .next hfade hstep hdone, hgoes, rfl⟩

/-- A program that goes on with the result of another, and comes to its end, has got that result. -/
theorem of_andThen_done {f : α → Work β} {b : β} : ∀ {p : Work α} {w w' : World σ}
    {trace : List Exchange}, Reaches S hz (p.andThen f) w trace (.done b) w' →
      ∃ trace₁ a w₁ trace₂, Reaches S hz p w trace₁ (.done a) w₁ ∧
        Reaches S hz (f a) w₁ trace₂ (.done b) w' ∧ trace = trace₁ ++ trace₂
  | .done a, w, _, trace, h => ⟨[], a, w, trace, .refl _ _, h, rfl⟩
  | .ask r rest, w, _, trace, h => by
    obtain ⟨w₁, x, w₂, trace', hfade, hstep, hrest, rfl⟩ := of_ask_done h
    obtain ⟨trace₁, a, w₃, trace₂, hdone, hgoes, rfl⟩ := of_andThen_done hrest
    exact ⟨_, a, w₃, trace₂, .next hfade hstep hdone, hgoes, rfl⟩

/-- A program that comes to an answer has got the one it goes on with. -/
theorem of_orFail_ok {ε : Type} {p : Work (Except ε α)} {f : α → Work (Except ε β)} {b : β}
    {w w' : World σ} {trace : List Exchange}
    (h : Reaches S hz (p.orFail f) w trace (.done (.ok b)) w') :
    ∃ trace₁ a w₁ trace₂, Reaches S hz p w trace₁ (.done (.ok a)) w₁ ∧
      Reaches S hz (f a) w₁ trace₂ (.done (.ok b)) w' := by
  obtain ⟨trace₁, x, w₁, trace₂, hp, hf, -⟩ := of_andThen_done h
  cases x with
  | ok a => exact ⟨trace₁, a, w₁, trace₂, hp, hf⟩
  | error e =>
    obtain ⟨-, hdone, -⟩ := of_done hf
    exact nomatch hdone

/-- An answer of the store is as it should be. -/
theorem of_askStore_ok {w w' : World σ} {trace : List Exchange} {c : StoreCall} {a : c.Answer}
    (h : Reaches S hz (Work.askStore c) w trace (.done (.ok a)) w') :
    c.Effect (S.rules w.store) a (S.rules w'.store) := by
  obtain ⟨w₁, x, w₂, trace', hfade, hstore, hend, -⟩ := of_ask_done h
  obtain ⟨-, hdone, rfl⟩ := of_done hend
  cases hdone
  obtain ⟨hanswer, rfl⟩ := hstore.of_store
  have hlawful := S.lawful c w₁.store
  rw [← hanswer, hfade.store_eq] at hlawful
  rw [hfade.store_eq]
  exact hlawful

end Reaches

/-! ## What runs have asked -/

namespace Exchange

/-- The call on the store an exchange is, if it is one. -/
def storeCall? : Exchange → Option StoreCall
  | ⟨.store c, _⟩ => some c
  | ⟨.cache _, _⟩ | ⟨.observe _, _⟩ => none

/-- The key that is looked up in an exchange, and what comes of it. -/
def lookup? : Exchange → Option (String × Except RuleFault (Option String))
  | ⟨.cache (.get key), x⟩ => some (key, x)
  | ⟨.cache (.set _ _ _), _⟩ | ⟨.cache (.delete _), _⟩ | ⟨.store _, _⟩ | ⟨.observe _, _⟩ => none

end Exchange

/-- The calls on the store in a run, in order. -/
def storeCalls (trace : List Exchange) : List StoreCall := trace.filterMap Exchange.storeCall?

/-- The lookups in a run, in order, and what came of them. -/
def lookups (trace : List Exchange) : List (String × Except RuleFault (Option String)) :=
  trace.filterMap Exchange.lookup?

@[simp] theorem storeCalls_append (trace trace' : List Exchange) :
    storeCalls (trace ++ trace') = storeCalls trace ++ storeCalls trace' := List.filterMap_append ..

@[simp] theorem lookups_append (trace trace' : List Exchange) :
    lookups (trace ++ trace') = lookups trace ++ lookups trace' := List.filterMap_append ..

end AlertRules
