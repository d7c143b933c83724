import AlertRules.Proofs.Repository.Slot

/-!
# Operations at the same time

A `System` is a world and the operations that have been begun in it, each with the work that is
left of it. In any order operations begin and make their requests (`System.Step`); a request and
its answer are one step. The requests of one operation that follow one another and are not to the
store may be made in any order (`Reorders`).

> `Keeps.step`: whatever else is going on, an operation puts into the cache only what the store had
> under an identifier when it was asked.
-/

namespace AlertRules

/-! ## Requests in any order -/

/-- Whether a request is to the store. -/
def Request.isStore : Request → Bool
  | store _ => true
  | cache _ | observe _ => false

/-- That two programs are the same but for the order of requests that follow one another and are not
to the store. -/
inductive Reorders {α : Type} : Work α → Work α → Prop
  | refl (p : Work α) : Reorders p p
  | symm {p q : Work α} (h : Reorders p q) : Reorders q p
  | trans {p q r : Work α} (h : Reorders p q) (h' : Reorders q r) : Reorders p r
  | ask {r : Request} {f g : r.Answer → Work α} (h : ∀ x, Reorders (f x) (g x)) :
    Reorders (.ask r f) (.ask r g)
  | swap {r r' : Request} (h : r.isStore = false) (h' : r'.isStore = false)
    {f : r.Answer → r'.Answer → Work α} :
    Reorders (.ask r fun x => .ask r' fun y => f x y) (.ask r' fun y => .ask r fun x => f x y)

/-- A request that is not to the store is admitted if it may be made and all goes well with some
answers, of which there is one. -/
theorem Terms.admits_of_not_store (T : Terms) {r : Request} (h : r.isStore = false) :
    ∃ (may : Prop) (P : r.Answer → Prop), (∃ x, P x) ∧
      ∀ k, T.Admits r k ↔ may ∧ ∀ x, P x → k x := by
  match r with
  | .store c => exact nomatch h
  | .cache (.get key) =>
    refine ⟨True, fun x => ∀ text, x = .ok (some text) → T.finds key text, ⟨.ok none, ?_⟩,
      fun k => ?_⟩
    · exact fun _ heq => nomatch heq
    · exact ⟨fun hk => ⟨trivial, hk⟩, fun hk => hk.2⟩
  | .cache (.set key text ttl) =>
    exact ⟨T.fits key text, fun _ => True, ⟨.ok (), trivial⟩,
      fun k => and_congr_right fun _ => forall_congr' fun _ => (forall_const True).symm⟩
  | .cache (.delete key) =>
    exact ⟨True, fun _ => True, ⟨.ok (), trivial⟩,
      fun k => ⟨fun hk => ⟨trivial, fun x _ => hk x⟩, fun hk x => hk.2 x trivial⟩⟩
  | .observe o =>
    exact ⟨True, fun _ => True, ⟨(), trivial⟩,
      fun k => ⟨fun hk => ⟨trivial, fun x _ => hk x⟩, fun hk x => hk.2 x trivial⟩⟩

namespace Reorders

variable {α : Type} {p q : Work α}

/-- The order of requests that are not to the store makes no difference to whether a program is
sound. -/
theorem sound_iff {T : Terms} {good : α → Prop} (h : Reorders p q) :
    Sound T good p ↔ Sound T good q := by
  induction h with
  | refl => exact Iff.rfl
  | symm _ ih => exact ih.symm
  | trans _ _ ih ih' => exact ih.trans ih'
  | ask _ ih =>
    constructor
    · exact fun hp => Terms.Admits.mono hp fun x => (ih x).mp
    · exact fun hp => Terms.Admits.mono hp fun x => (ih x).mpr
  | @swap r r' hr hr' f =>
    obtain ⟨may, P, ⟨x₀, hx₀⟩, hP⟩ := T.admits_of_not_store hr
    obtain ⟨may', P', ⟨y₀, hy₀⟩, hP'⟩ := T.admits_of_not_store hr'
    show T.Admits r (fun x => T.Admits r' fun y => Sound T good (f x y)) ↔
      T.Admits r' fun y => T.Admits r fun x => Sound T good (f x y)
    rw [hP, hP']
    simp only [hP, hP']
    -- Some answer comes to the first request, so the second may be made whatever comes.
    constructor
    · rintro ⟨hmay, h⟩
      exact ⟨(h x₀ hx₀).1, fun y hy => ⟨hmay, fun x hx => (h x hx).2 y hy⟩⟩
    · rintro ⟨hmay', h⟩
      exact ⟨(h y₀ hy₀).1, fun x hx => ⟨hmay', fun y hy => (h y hy).2 x hx⟩⟩

/-- A call on the store that comes first on one side comes first on the other. -/
theorem store_first (h : Reorders p q) (c : StoreCall) :
    (∀ f, p = .ask (.store c) f → ∃ g, q = .ask (.store c) g ∧ ∀ x, Reorders (f x) (g x)) ∧
      ∀ g, q = .ask (.store c) g → ∃ f, p = .ask (.store c) f ∧ ∀ x, Reorders (f x) (g x) := by
  induction h with
  | refl p =>
    constructor
    · exact fun f hf => ⟨f, hf, fun x => .refl _⟩
    · exact fun g hg => ⟨g, hg, fun x => .refl _⟩
  | symm _ ih =>
    constructor
    · intro f hf
      obtain ⟨g, hg, hrest⟩ := ih.2 f hf
      exact ⟨g, hg, fun x => (hrest x).symm⟩
    · intro g hg
      obtain ⟨f, hf, hrest⟩ := ih.1 g hg
      exact ⟨f, hf, fun x => (hrest x).symm⟩
  | trans _ _ ih ih' =>
    constructor
    · intro f hf
      obtain ⟨g, hg, hfirst⟩ := ih.1 f hf
      obtain ⟨k, hk, hsecond⟩ := ih'.1 g hg
      exact ⟨k, hk, fun x => (hfirst x).trans (hsecond x)⟩
    · intro k hk
      obtain ⟨g, hg, hsecond⟩ := ih'.2 k hk
      obtain ⟨f, hf, hfirst⟩ := ih.2 g hg
      exact ⟨f, hf, fun x => (hfirst x).trans (hsecond x)⟩
  | ask h =>
    constructor
    · intro f hf
      cases hf
      exact ⟨_, rfl, h⟩
    · intro g hg
      cases hg
      exact ⟨_, rfl, h⟩
  | swap hr hr' =>
    constructor
    · intro f hf
      cases hf
      exact nomatch hr
    · intro g hg
      cases hg
      exact nomatch hr'

end Reorders

/-! ## Systems -/

/-- A world, and what is left to do of the operations that have been begun in it. -/
structure System (σ : Type) where
  world : World σ
  threads : List (Work RuleReply)

/-- What happens in a system: an operation is begun, or the one with a number makes a request. -/
inductive Event
  | begins (op : RuleOperation)
  | asks (i : Nat) (e : Exchange)

namespace System

variable {σ : Type}

/-- One thing that happens. -/
inductive Step (S : RuleStore σ) (hz : Hazards) (repo : Repository) :
    System σ → Event → System σ → Prop
  | begins {s : System σ} {op : RuleOperation} {p : Work RuleReply}
    (horder : Reorders (repo.perform op) p) :
    Step S hz repo s (.begins op) { s with threads := s.threads ++ [p] }
  | asks {s : System σ} {i : Nat} {r : Request} {rest : r.Answer → Work RuleReply}
    {w₁ w₂ : World σ} {x : r.Answer} (hthread : s.threads[i]? = some (.ask r rest))
    (hfade : s.world.Fades hz w₁) (hstep : w₁.Step S hz r x w₂) :
    Step S hz repo s (.asks i ⟨r, x⟩) ⟨w₂, s.threads.set i (rest x)⟩

/-- That some things happen one after the other. -/
inductive Runs (S : RuleStore σ) (hz : Hazards) (repo : Repository) :
    System σ → List Event → System σ → Prop
  | refl (s : System σ) : Runs S hz repo s [] s
  | next {s s₁ s' : System σ} {e : Event} {events : List Event} (hstep : Step S hz repo s e s₁)
    (hrest : Runs S hz repo s₁ events s') : Runs S hz repo s (e :: events) s'

variable {S : RuleStore σ} {hz : Hazards} {repo : Repository}

/-- What holds of the beginning, and is kept by everything that happens, holds of the end. The
invariant may speak of all that has happened so far. -/
theorem Runs.invariant {I : System σ → List Event → Prop} {s s' : System σ}
    {events : List Event} (hrun : Runs S hz repo s events s') (before : List Event)
    (hkept : ∀ {s s₁ : System σ} {past future : List Event} {e : Event}, I s past →
      past ++ e :: future = before ++ events → Step S hz repo s e s₁ → I s₁ (past ++ [e]))
    (h : I s before) : I s' (before ++ events) := by
  induction hrun generalizing before with
  | refl s =>
    rw [List.append_nil]
    exact h
  | @next s s₁ s' e events hstep _ ih =>
    -- The first event goes over to what has happened so far.
    have hsplit : before ++ e :: events = before ++ [e] ++ events := by
      rw [List.append_assoc]
      rfl
    rw [hsplit]
    refine ih (before ++ [e]) (fun hpast heq => hkept hpast (heq.trans hsplit.symm)) ?_
    exact hkept h rfl hstep

theorem Runs.trans {s s₁ s' : System σ} {events₁ events₂ : List Event}
    (h₁ : Runs S hz repo s events₁ s₁) (h₂ : Runs S hz repo s₁ events₂ s') :
    Runs S hz repo s (events₁ ++ events₂) s' := by
  induction h₁ with
  | refl => exact h₂
  | next hstep _ ih => exact .next hstep (ih h₂)

/-- Any operation may go on alone. -/
theorem Runs.alone {i : Nat} {p p' : Work RuleReply} {w' : World σ} {trace : List Exchange}
    {s : System σ} (hthread : s.threads[i]? = some p) (h : Reaches S hz p s.world trace p' w') :
    Runs S hz repo s (trace.map (.asks i)) ⟨w', s.threads.set i p'⟩ := by
  obtain ⟨w, threads⟩ := s
  change Reaches S hz p w trace p' w' at h
  induction h generalizing threads with
  | refl p w =>
    obtain ⟨hlt, rfl⟩ := List.getElem?_eq_some_iff.mp hthread
    rw [List.set_getElem_self]
    exact .refl _
  | @next r rest w w₁ w₂ w' x trace p' hfade hstep _ ih =>
    have hlt : i < threads.length := (List.getElem?_eq_some_iff.mp hthread).1
    have hrest := ih (threads.set i (rest x)) (List.getElem?_set_self hlt)
    dsimp only at hrest
    rw [List.set_set] at hrest
    exact .next (.asks hthread hfade hstep) hrest

/-- An operation is begun, and goes on alone. -/
theorem Runs.begins_alone {s : System σ} {op : RuleOperation} {p : Work RuleReply} {w : World σ}
    {trace : List Exchange} (h : Reaches S hz (repo.perform op) s.world trace p w) :
    Runs S hz repo s (.begins op :: trace.map (.asks s.threads.length)) ⟨w, s.threads ++ [p]⟩ := by
  have halone : Runs S hz repo ⟨s.world, s.threads ++ [repo.perform op]⟩ _ _ :=
    .alone List.getElem?_concat_length h
  rw [List.set_append_right _ _ (Nat.le_refl _), Nat.sub_self, List.set_cons_zero] at halone
  exact .next (.begins (.refl _)) halone

end System

/-- What the store has under an identifier after a request: what has been written, or what it
had. -/
theorem World.Step.ruleWith?_eq {σ : Type} {S : RuleStore σ} {hz : Hazards} {w w' : World σ}
    {r : Request} {x : r.Answer} (h : w.Step S hz r x w') (id : Uuid) :
    (∃ c a want, (⟨r, x⟩ : Exchange) = ⟨.store c, .ok a⟩ ∧ c.wrote? a = some (id, want) ∧
      ruleWith? (S.rules w'.store) id = want) ∨
    ruleWith? (S.rules w'.store) id = ruleWith? (S.rules w.store) id := by
  -- Only a call on the store can change anything, and one that fails does not.
  rcases h.store_eq with ⟨c, rfl, hstore⟩ | hstore
  · obtain ⟨rfl, -⟩ := h.of_store
    rw [hstore]
    have hlawful := S.lawful c w.store
    cases hx : (S.answer c w.store).1 with
    | error e =>
      rw [hx] at hlawful
      exact .inr (congrArg (ruleWith? · id) hlawful)
    | ok a =>
      rw [hx] at hlawful
      rcases StoreCall.Effect.ruleWith?_eq hlawful (S.wellKept _) (S.wellKept _) id with
        ⟨want, hwrote, hwant⟩ | ⟨-, hsame⟩
      · exact .inl ⟨c, a, want, rfl, hwrote, hwant⟩
      · exact .inr hsame
  · rw [hstore]
    exact .inr rfl

namespace Repository

/-- That a program puts into the cache only what the store had under an identifier when it was
asked, if all that it has had so far is in `had`. It may find there what it will. -/
def Keeps (id : Uuid) (had : Option Rule → Prop) (p : Work RuleReply) : Prop :=
  ∀ wants : Option Rule → Prop, (∀ v, had v → wants v) →
    Sound (.slot id wants (fun _ _ => True) fun _ _ _ => trivial) (fun _ => True) p

variable {id : Uuid} {had had' : Option Rule → Prop}

theorem Keeps.mono {p : Work RuleReply} (h : Keeps id had p) (hsub : ∀ v, had v → had' v) :
    Keeps id had' p := fun wants hwants => h wants fun v hv => hwants v (hsub v hv)

theorem Keeps.reorders {p q : Work RuleReply} (h : Keeps id had p) (horder : Reorders p q) :
    Keeps id had q := fun wants hwants => horder.sound_iff.mp (h wants hwants)

/-- An operation that has not asked yet has had nothing. -/
theorem keeps_perform (repo : Repository) {op : RuleOperation} (hop : op.Faithful) :
    Keeps id (fun _ => False) (repo.perform op) := fun _ _ => repo.sound_perform_slot hop

variable {σ : Type} {S : RuleStore σ} {hz : Hazards} {w w₁ w' : World σ}

/-- **One request of an operation**: a text is put into the cache only if it says what the store had
under the identifier, and what is left of the operation is no different. -/
theorem Keeps.step (havail : S.Available) {r : Request} {rest : r.Answer → Work RuleReply}
    {x : r.Answer} {seen : Option Rule → Prop} (hp : Keeps id had (.ask r rest))
    (hrules : ∀ q ∈ S.rules w.store, q.Faithful)
    (hentries : ∀ key text, w.entries key = some text → SlotFits id seen key text)
    (hfade : w.Fades hz w₁) (hstep : w₁.Step S hz r x w')
    (hslot : ∀ c, r = .store c → had (ruleWith? (S.rules w.store) id)) :
    (∀ key text ttl, r = .cache (.set key text ttl) → SlotFits id had key text) ∧
      Keeps id had (rest x) ∧ ∀ q ∈ S.rules w'.store, q.Faithful := by
  rw [← hfade.store_eq] at hrules hslot
  have hloose : ∀ key text, w₁.entries key = some text → SlotFits id (fun _ => True) key text :=
    fun key text htext => (hentries key text (hfade.entries htext)).mono fun _ _ => trivial
  have htells : ∀ wants : Option Rule → Prop, (∀ v, had v → wants v) → ∀ c, r = .store c →
      (Terms.slot id wants (fun _ _ => True) fun _ _ _ => trivial).tells c
        (S.answer c w₁.store).1 := by
    intro wants hwants c hc
    refine ⟨_, _, S.wellKept _, hrules, hwants _ (hslot c hc), S.lawful c _, fun hread => ?_⟩
    obtain ⟨a, ha⟩ := havail c w₁.store hread
    exact ⟨a, congrArg Prod.fst ha⟩
  refine ⟨?_, fun wants hwants => ?_, ?_⟩
  · rintro key text ttl rfl
    exact (hp had fun _ hv => hv).1
  · exact ((hp wants hwants).step hloose hstep (htells wants hwants)).2
  · rcases hstep.store_eq with ⟨c, rfl, hstore⟩ | hstore
    · have hc : c.Faithful := (hp had fun _ hv => hv).1
      rw [hstore]
      exact (S.lawful c w₁.store).faithful hc hrules
    · rw [hstore]
      exact hrules

end Repository

end AlertRules
