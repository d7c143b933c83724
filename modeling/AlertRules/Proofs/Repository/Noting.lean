import AlertRules.Proofs.Repository.Parts
import AlertRules.Proofs.Repository.Soundness

/-!
# What programs note

What is noted is a request like any other, so what a program may note is a condition on it as a
tree: `Notes` says so whatever it is answered, and `Proper` says so of a program that counts on its
terms, where what is noted may depend on what has been answered. An operation of the repository
notes how lookups came out, and nothing else (`Repository.notes_perform`).

> `Proper.reaches`: every part of a run of a proper program has noted only what it may.
-/

namespace AlertRules

/-- That a program notes only such things, whatever it is answered. -/
def Notes (P : Observation → Prop) {α : Type} : Work α → Prop
  | .done _ => True
  | .ask r rest => (∀ o, r = .observe o → P o) ∧ ∀ x, Notes P (rest x)

namespace Notes

variable {P : Observation → Prop} {α β : Type}

theorem andThen {p : Work α} {f : α → Work β} (hp : Notes P p) (hf : ∀ a, Notes P (f a)) :
    Notes P (p.andThen f) := by
  induction p with
  | done a => exact hf a
  | ask r rest ih => exact ⟨hp.1, fun x => ih x (hp.2 x)⟩

/-- A program that only passes its result on notes what the rest of it does. -/
theorem of_passedOn {g : α → β} {p : Work α} (h : Notes P (p.andThen fun a => .done (g a))) :
    Notes P p := by
  induction p with
  | done a => trivial
  | ask r rest ih => exact ⟨h.1, fun x => ih x (h.2 x)⟩

theorem observe {o : Observation} (h : P o) : Notes P (Work.observe o) :=
  ⟨fun _ heq => Request.observe.inj heq ▸ h, fun _ => trivial⟩

theorem observeAll : ∀ {os : List Observation}, (∀ o ∈ os, P o) → Notes P (Work.observeAll os)
  | [], _ => trivial
  | _ :: _, h => by
    rw [List.forall_mem_cons] at h
    exact (observe h.1).andThen fun _ => observeAll h.2

theorem askStore (c : StoreCall) : Notes P (Work.askStore c) :=
  ⟨(fun _ h => nomatch h), fun _ => trivial⟩

theorem askCache (c : CacheCall) : Notes P (Work.askCache c) :=
  ⟨(fun _ h => nomatch h), fun _ => trivial⟩

/-- Every part of a run has noted only such things. -/
theorem reaches {σ : Type} {S : RuleStore σ} {hz : Hazards} {w w' : World σ} {p p' : Work α}
    {trace : List Exchange} (hrun : Reaches S hz p w trace p' w') (hp : Notes P p) :
    ∀ e ∈ trace, ∀ o, e.1 = .observe o → P o := by
  induction hrun with
  | refl => exact fun _ he => nomatch he
  | @next r rest w w₁ w₂ w' x trace p' _ _ _ ih =>
    exact List.forall_mem_cons.mpr ⟨hp.1, ih (hp.2 x)⟩

end Notes

/-! ## Operations -/

namespace Repository

variable {P : Observation → Prop} (hlookup : ∀ kind outcome, P (.lookup kind outcome))
  (repo : Repository)

include hlookup in
theorem notes_lookUp (kind key : String) : Notes P (repo.lookUp kind key) := by
  unfold lookUp
  split
  · refine (Notes.askCache _).andThen fun x => ?_
    match x with
    | .ok (some text) => exact (Notes.observe (hlookup kind .hit)).andThen fun _ => trivial
    | .ok none => exact (Notes.observe (hlookup kind .miss)).andThen fun _ => trivial
    | .error e => exact (Notes.observe (hlookup kind .error)).andThen fun _ => trivial
  · trivial

theorem notes_keep (key text : String) (ttl : Nat) : Notes P (repo.keep key text ttl) := by
  unfold keep
  split
  · exact (Notes.askCache _).andThen fun _ => trivial
  · trivial

theorem notes_forget (key : String) : Notes P (repo.forget key) := by
  unfold forget
  split
  · exact (Notes.askCache _).andThen fun _ => trivial
  · trivial

include hlookup in
theorem inherited_notes : repo.Inherited fun p => Notes P p where
  done _ := trivial
  andThen := Notes.andThen
  askStore := Notes.askStore
  lookUpList := notes_lookUp hlookup repo "enabled_list" listKey
  lookUpRule id := notes_lookUp hlookup repo "rule" (ruleKey id)
  keep := repo.notes_keep
  forget := repo.notes_forget

include hlookup in
/-- **An operation notes how lookups came out**, and nothing else. -/
theorem notes_perform (op : RuleOperation) : Notes P (repo.perform op) :=
  (inherited_notes hlookup repo).perform op

end Repository

/-! ## Noting on terms -/

/-- That a program keeps to the terms, notes only such things, and comes to a good result. -/
def Proper (T : Terms) (P : Observation → Prop) {α : Type} (good : α → Prop) : Work α → Prop
  | .done a => good a
  | .ask r rest => (∀ o, r = .observe o → P o) ∧ T.Admits r fun x => Proper T P good (rest x)

namespace Proper

variable {T : Terms} {P : Observation → Prop} {α β : Type} {good mid : α → Prop} {goal : β → Prop}

/-- A sound program is proper if it notes only such things whatever it is answered. -/
theorem of_sound {p : Work α} (hp : Sound T good p) (hnotes : Notes P p) : Proper T P good p := by
  induction p with
  | done a => exact hp
  | ask r rest ih => exact ⟨hnotes.1, Terms.Admits.mono hp fun x hx => ih x hx (hnotes.2 x)⟩

theorem andThen {p : Work α} {f : α → Work β} (hp : Proper T P mid p)
    (hf : ∀ a, mid a → Proper T P goal (f a)) : Proper T P goal (p.andThen f) := by
  induction p with
  | done a => exact hf a hp
  | ask r rest ih => exact ⟨hp.1, Terms.Admits.mono hp.2 fun x hx => ih x hx⟩

variable {σ : Type} {S : RuleStore σ} {hz : Hazards} {w w' : World σ}

/-- **Every part of a run** of a proper program leaves the cache as the terms say, and has noted
only what it may. -/
theorem reaches {K : σ → Prop}
    (hK : ∀ c s, T.asks c → K s → T.tells c (S.answer c s).1 ∧ K (S.answer c s).2)
    {p p' : Work α} {trace : List Exchange} (hrun : Reaches S hz p w trace p' w')
    (hp : Proper T P good p) (hw : T.Holds w) (hs : K w.store) :
    T.Holds w' ∧ Proper T P good p' ∧ K w'.store ∧
      ∀ e ∈ trace, ∀ o, e.1 = .observe o → P o :=
  Terms.reaches (fun _ _ hask => hask) hK hrun hp hw hs

end Proper

end AlertRules
