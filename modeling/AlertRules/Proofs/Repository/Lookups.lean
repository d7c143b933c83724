import AlertRules.Proofs.Repository.Parts

/-!
# Lookups and notes of them

An operation of the repository notes each lookup that it makes, in the order in which it makes them,
and nothing else: under the kind of the key, and by what came of it (`NotesLookups`). This holds of
a program whose parts do so.

> `Repository.notesLookups_*`: whatever store and cache answer.
-/

namespace AlertRules

/-! ## Notes -/

/-- What is noted in an exchange, if something is. -/
def Exchange.noted? : Exchange → Option Observation
  | ⟨.observe o, _⟩ => some o
  | ⟨.cache _, _⟩ | ⟨.store _, _⟩ => none

/-- What has been noted in a run, in order. -/
def noted (trace : List Exchange) : List Observation := trace.filterMap Exchange.noted?

@[simp] theorem noted_append (trace trace' : List Exchange) :
    noted (trace ++ trace') = noted trace ++ noted trace' := List.filterMap_append ..

/-- How a lookup came out: whatever text is found is a hit. -/
def LookupOutcome.of : Except RuleFault (Option String) → LookupOutcome
  | .ok (some _) => .hit
  | .ok none => .miss
  | .error _ => .error

/-- The kind of a key: the key of the list of enabled rules, or that of a rule. -/
def Repository.kind? (key : String) : Option String :=
  if key = Repository.listKey then some "enabled_list"
  else if "rules:id:".toList.isPrefixOf key.toList then some "rule"
  else none

/-- The note that a lookup is worth. -/
def lookupNote? (lookup : String × Except RuleFault (Option String)) : Option Observation :=
  (Repository.kind? lookup.1).map fun kind => .lookup kind (.of lookup.2)

/-- The notes that the lookups of a run are worth. -/
def lookupNotes (trace : List Exchange) : List Observation := (lookups trace).filterMap lookupNote?

@[simp] theorem lookupNotes_append (trace trace' : List Exchange) :
    lookupNotes (trace ++ trace') = lookupNotes trace ++ lookupNotes trace' := by
  unfold lookupNotes
  rw [lookups_append, List.filterMap_append]

/-! ## Programs that note their lookups -/

/-- That a program notes its lookups and nothing else, whatever it is answered. -/
def NotesLookups {α : Type} (p : Work α) : Prop :=
  ∀ (ω : Type) (answer : (r : Request) → ω → r.Answer × ω) (b : ω),
    noted (p.transcript answer b) = lookupNotes (p.transcript answer b)

namespace NotesLookups

variable {α β : Type}

theorem done (a : α) : NotesLookups (.done a : Work α) := fun _ _ _ => rfl

theorem andThen {p : Work α} {f : α → Work β} (hp : NotesLookups p) (hf : ∀ a, NotesLookups (f a)) :
    NotesLookups (p.andThen f) := by
  intro ω answer b
  rw [Program.transcript_andThen, noted_append, lookupNotes_append, hp, hf]

theorem orFail {ε : Type} {p : Work (Except ε α)} {f : α → Work (Except ε β)} (hp : NotesLookups p)
    (hf : ∀ a, NotesLookups (f a)) : NotesLookups (p.orFail f) := by
  refine hp.andThen fun x => ?_
  cases x with
  | ok a => exact hf a
  | error e => exact done _

theorem askStore (c : StoreCall) : NotesLookups (Work.askStore c) := fun _ _ _ => rfl

end NotesLookups

namespace Repository

theorem kind?_listKey : kind? listKey = some "enabled_list" := by decide

theorem kind?_ruleKey (id : Uuid) : kind? (ruleKey id) = some "rule" := by
  have hprefix : "rules:id:".toList.isPrefixOf (ruleKey id).toList = true := by
    rw [List.isPrefixOf_iff_prefix, ruleKey, String.toList_append]
    exact List.prefix_append _ _
  have hne : ruleKey id ≠ listKey := by
    intro h
    rw [h] at hprefix
    exact absurd hprefix (by decide)
  rw [kind?, if_neg hne, if_pos hprefix]

theorem notesLookups_lookUp (repo : Repository) {kind key : String} (h : kind? key = some kind) :
    NotesLookups (repo.lookUp kind key) := by
  intro ω answer b
  unfold lookUp
  split
  · have hnote : ∀ x, lookupNotes [⟨.cache (.get key), x⟩] = [.lookup kind (.of x)] := by
      intro x
      simp [lookupNotes, lookups, Exchange.lookup?, lookupNote?, h]
    change noted (Program.transcript answer (.ask (.cache (.get key)) _) b) =
      lookupNotes (Program.transcript answer (.ask (.cache (.get key)) _) b)
    rw [Program.transcript]
    cases answer (.cache (.get key)) b with
    | mk x b' =>
      match x with
      | .ok (some text) => exact (hnote (.ok (some text))).symm
      | .ok none => exact (hnote (.ok none)).symm
      | .error f => exact (hnote (.error f)).symm
  · rfl

/-- **The operations of the repository** note their lookups. -/
theorem inherited_notesLookups (repo : Repository) : repo.Inherited NotesLookups where
  done := NotesLookups.done
  andThen := NotesLookups.andThen
  askStore := NotesLookups.askStore
  lookUpList := repo.notesLookups_lookUp kind?_listKey
  lookUpRule id := repo.notesLookups_lookUp (kind?_ruleKey id)
  keep key text ttl := by
    unfold keep
    split
    · exact fun _ _ _ => rfl
    · exact .done _
  forget key := by
    unfold forget
    split
    · exact fun _ _ _ => rfl
    · exact .done _

end Repository

end AlertRules
