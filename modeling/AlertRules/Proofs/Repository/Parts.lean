import AlertRules.Proofs.Repository.Entry

/-!
# The parts of operations

The operations of the repository are put together from calls on the store, lookups under the key of
the list or of a rule, and entries that are put into the cache and taken from it. A property of
programs that these have, and that passes from programs to what is put together from them, is a
property of every operation (`Inherited.perform`).
-/

namespace AlertRules.Repository

/-- A property of programs that passes from parts to the whole, and that the parts of operations
have. -/
structure Inherited (repo : Repository) (P : {α : Type} → Work α → Prop) : Prop where
  done {α : Type} (a : α) : P (.done a : Work α)
  andThen {α β : Type} {p : Work α} {f : α → Work β} (hp : P p) (hf : ∀ a, P (f a)) :
    P (p.andThen f)
  askStore (c : StoreCall) : P (Work.askStore c)
  lookUpList : P (repo.lookUp "enabled_list" listKey)
  lookUpRule (id : Uuid) : P (repo.lookUp "rule" (ruleKey id))
  keep (key text : String) (ttl : Nat) : P (repo.keep key text ttl)
  forget (key : String) : P (repo.forget key)

namespace Inherited

variable {repo : Repository} {P : {α : Type} → Work α → Prop} (h : repo.Inherited P)

include h

theorem orFail {ε α β : Type} {p : Work (Except ε α)} {f : α → Work (Except ε β)} (hp : P p)
    (hf : ∀ a, P (f a)) : P (p.orFail f) := by
  refine h.andThen hp fun x => ?_
  cases x with
  | ok a => exact hf a
  | error e => exact h.done _

/-! ## Reading -/

theorem cachedRules (ids : List Uuid) : P (repo.cachedRules ids) := by
  induction ids with
  | nil => exact h.done _
  | cons id rest ih =>
    have hrule : P (repo.cachedRule id) := h.andThen (h.lookUpRule id) fun _ => h.done _
    exact h.andThen hrule fun _ => h.andThen ih fun _ => h.done _

theorem cacheRule (r : Rule) : P (repo.cacheRule r) := by
  unfold Repository.cacheRule
  split
  next => exact h.done _
  next id _ => exact h.keep (ruleKey id) r.text repo.ruleTtl

theorem cacheRules (rules : List Rule) : P (repo.cacheRules rules) := by
  induction rules with
  | nil => exact h.done _
  | cons r rest ih => exact h.andThen (h.cacheRule r) fun _ => ih

theorem resolveIds (ids : List Uuid) : P (repo.resolveIds ids) := by
  refine h.andThen (h.cachedRules ids) fun found => ?_
  generalize missing found = absent
  match absent with
  | [] => exact h.done _
  | id :: rest =>
    exact h.orFail (h.askStore _) fun rules => h.andThen (h.cacheRules rules) fun _ => h.done _

theorem enabledRules : P repo.enabledRules := by
  have hids : P repo.cachedIds := h.andThen h.lookUpList fun _ => h.done _
  refine h.andThen hids fun found => ?_
  match found with
  | some ids => exact h.orFail (h.resolveIds ids) fun _ => h.done _
  | none =>
    refine h.orFail (h.askStore _) fun rules => ?_
    have hcached : P (repo.cacheEnabled rules) :=
      h.andThen (h.keep listKey _ repo.listTtl) fun _ => h.cacheRules rules
    exact h.andThen hcached fun _ => h.done _

theorem byId (id : Uuid) : P (repo.byId id) := by
  have hrule : P (repo.cachedRule id) := h.andThen (h.lookUpRule id) fun _ => h.done _
  refine h.andThen hrule fun found => ?_
  match found with
  | some r => exact h.done _
  | none =>
    refine h.orFail (h.askStore _) fun fetched => ?_
    match fetched with
    | some r => exact h.andThen (h.cacheRule r) fun _ => h.done _
    | none => exact h.done _

/-! ## Writing -/

theorem create (r : Rule) : P (repo.create r) :=
  h.orFail (h.askStore _) fun _ => h.andThen (h.forget listKey) fun _ => h.done _

theorem forgetRule (id : Uuid) : P (repo.forgetRule id) :=
  h.andThen (h.forget (ruleKey id)) fun _ => h.forget listKey

theorem update (r : Rule) : P (repo.update r) := by
  unfold Repository.update
  split
  next => exact h.done _
  next id _ =>
    refine h.orFail (h.askStore _) fun stored => ?_
    match stored with
    | some q => exact h.andThen (h.forgetRule id) fun _ => h.done _
    | none => exact h.done _

theorem delete (id : Uuid) : P (repo.delete id) := by
  refine h.orFail (h.askStore _) fun removed => ?_
  match removed with
  | true => exact h.andThen (h.forgetRule id) fun _ => h.done _
  | false => exact h.done _

/-- **Every operation** has the property. -/
theorem perform (op : RuleOperation) : P (repo.perform op) := by
  cases op with
  | enabledRules => exact h.andThen h.enabledRules fun _ => h.done _
  | byId id => exact h.andThen (h.byId id) fun _ => h.done _
  | create r => exact h.andThen (h.create r) fun _ => h.done _
  | update r => exact h.andThen (h.update r) fun _ => h.done _
  | delete id => exact h.andThen (h.delete id) fun _ => h.done _

end Inherited

end AlertRules.Repository
