import AlertRules.Proofs.Codec.Rule
import AlertRules.Proofs.Repository.Run
import AlertRules.Repository

/-!
# What stands in the cache

An entry under the key of a rule should hold that rule as the store has it, and the entry under the
key of the list the identifiers of the enabled rules in their order. An entry that cannot be read
does no harm: it counts as not there. So an entry `Fits` some rules if whatever is read from it is
right, and a world agrees if all its entries fit the rules of its store (`World.Agrees`).

What the repository writes into the cache reads back as it was: identifiers always
(`readIds?_idsText`), and a faithful rule as itself or not at all (`ruleFits_text`). No two rules
share a key, and no rule has that of the list (`ruleKey_injective`, `ruleKey_ne_listKey`).
-/

namespace AlertRules

open Json

namespace Repository

/-! ## Keys -/

theorem ruleKey_injective {id id' : Uuid} (h : ruleKey id = ruleKey id') : id = id' := by
  have htext : id.text.toList = id'.text.toList := by
    have hlist := congrArg String.toList h
    rw [ruleKey, ruleKey, String.toList_append, String.toList_append] at hlist
    exact List.append_cancel_left hlist
  exact Uuid.text_injective (String.toList_inj.mp htext)

theorem ruleKey_ne_listKey (id : Uuid) : ruleKey id ≠ listKey := by
  intro h
  -- The two differ within their first seven characters.
  have hlist := congrArg (fun s => s.toList.take 7) h
  rw [ruleKey, String.toList_append, List.take_append_of_le_length (by decide)] at hlist
  exact absurd hlist (by decide)

/-! ## Texts -/

theorem plain_ids (ids : List Uuid) : (Document.ofList Uuid.toDocument ids).Plain := by
  show Document.PlainItems (ids.map Uuid.toDocument)
  induction ids with
  | nil => trivial
  | cons id rest ih => exact ⟨rfl, ih⟩

theorem mapM_asString? (ids : List Uuid) :
    (ids.map Uuid.toDocument).mapM Document.asString? = some (ids.map Uuid.text) := by
  induction ids with
  | nil => rfl
  | cons id rest ih =>
    have hread : id.toDocument.asString? = some id.text := rfl
    rw [List.map_cons, List.mapM_cons, hread, ih]
    rfl

theorem filterMap_ofString? (ids : List Uuid) :
    (ids.map Uuid.text).filterMap Uuid.ofString? = ids := by
  induction ids with
  | nil => rfl
  | cons id rest ih => rw [List.map_cons, List.filterMap_cons, Uuid.ofString?_text, ih]

/-- A list of identifiers is read back from its text. -/
theorem readIds?_idsText (ids : List Uuid) : readIds? (idsText ids) = some ids := by
  have hlist : (Document.ofList Uuid.toDocument ids).list? (fun _ item => item.asString?)
      maxNesting = some (ids.map Uuid.text) := mapM_asString? ids
  rw [readIds?, idsText, Document.read?_text (plain_ids ids), Option.bind_eq_bind,
    Option.bind_some, hlist, Option.bind_eq_bind, Option.bind_some, filterMap_ofString?]
  rfl

/-! ## Entries that fit -/

/-- That a text holds a wanted rule, if it holds any. -/
def RuleFits (want : Option Rule) (text : String) : Prop :=
  ∀ r, Rule.read? text = some r → want = some r

/-- That a text holds wanted identifiers, if it holds any. -/
def ListFits (want : List Uuid) (text : String) : Prop :=
  ∀ ids, readIds? text = some ids → ids = want

/-- The identifiers of the enabled rules, in their order. -/
def enabledIds (rules : List Rule) : List Uuid := (enabledOf rules).filterMap (·.id)

/-- That a text under a key says of some rules what it should. -/
structure Fits (rules : List Rule) (key text : String) : Prop where
  rule : ∀ id, key = ruleKey id → RuleFits (ruleWith? rules id) text
  list : key = listKey → ListFits (enabledIds rules) text

/-- The text of a faithful rule holds that rule, if any. -/
theorem ruleFits_text {r : Rule} (h : r.Faithful) : RuleFits (some r) r.text := by
  intro q hq
  rw [Rule.read?_text h] at hq
  split at hq
  · exact hq
  · exact nomatch hq

theorem listFits_idsText (ids : List Uuid) : ListFits ids (idsText ids) := by
  intro ids' h
  rw [readIds?_idsText] at h
  exact (Option.some.inj h).symm

/-- What is cached of a rule fits, if it is the one that is wanted. -/
theorem fits_ruleKey {rules : List Rule} {id : Uuid} {text : String}
    (h : RuleFits (ruleWith? rules id) text) : Fits rules (ruleKey id) text := by
  constructor
  · intro id' hkey
    rw [← ruleKey_injective hkey]
    exact h
  · intro hkey
    exact absurd hkey (ruleKey_ne_listKey id)

theorem fits_listKey {rules : List Rule} {text : String} (h : ListFits (enabledIds rules) text) :
    Fits rules listKey text := by
  constructor
  · intro id hkey
    exact absurd hkey.symm (ruleKey_ne_listKey id)
  · intro _
    exact h

end Repository

/-- That all entries fit the rules of the store. -/
def World.Agrees {σ : Type} (S : RuleStore σ) (w : World σ) : Prop :=
  ∀ key text, w.entries key = some text → Repository.Fits (S.rules w.store) key text

/-- A world in which nothing is cached agrees. -/
theorem World.agrees_of_empty {σ : Type} {S : RuleStore σ} {s : σ} :
    World.Agrees S ⟨s, fun _ => none⟩ := fun _ _ h => nomatch h

/-! ## Operations -/

/-- What a repository can be asked to do. -/
inductive RuleOperation
  | enabledRules
  | byId (id : Uuid)
  | create (r : Rule)
  | update (r : Rule)
  | delete (id : Uuid)

/-- What a repository answers. -/
inductive RuleReply
  | rules (found : Except RuleFault (List Rule))
  | rule (found : Except RuleFault (Option Rule))
  | created (stored : Except RuleFault Rule)
  | updated (stored : Except RuleFault (Option Rule))
  | deleted (any : Except RuleFault Bool)

namespace RuleOperation

/-- Whether an operation only asks. -/
def isRead : RuleOperation → Bool
  | enabledRules | byId _ => true
  | create _ | update _ | delete _ => false

/-- That the rules an operation brings along are faithful. -/
def Faithful : RuleOperation → Prop
  | create r | update r => r.Faithful
  | enabledRules | byId _ | delete _ => True

/-- That the rule an operation brings along is such a rule. -/
def Brings (P : Rule → Prop) : RuleOperation → Prop
  | create r | update r => P r
  | enabledRules | byId _ | delete _ => True

theorem Brings.mono {P Q : Rule → Prop} {op : RuleOperation} (h : op.Brings P)
    (hPQ : ∀ r, P r → Q r) : op.Brings Q := by
  cases op with
  | create r => exact hPQ r h
  | update r => exact hPQ r h
  | enabledRules => trivial
  | byId id => trivial
  | delete id => trivial

theorem faithful_iff_brings {op : RuleOperation} : op.Faithful ↔ op.Brings Rule.Faithful := by
  cases op <;> exact Iff.rfl

end RuleOperation

namespace StoreCall

/-- That the rules a call brings along are faithful. -/
def Faithful : StoreCall → Prop
  | insert r | update r => r.Faithful
  | fetchEnabled | fetchById _ | fetchByIds _ | remove _ | ping => True

/-- A call that only asks brings along none. -/
theorem faithful_of_read {c : StoreCall} (h : c.isRead) : c.Faithful := by
  cases c with
  | insert r => exact nomatch h
  | update r => exact nomatch h
  | fetchEnabled => trivial
  | fetchById id => trivial
  | fetchByIds ids => trivial
  | remove id => trivial
  | ping => trivial

/-- A call that brings along faithful rules leaves only faithful rules. -/
theorem Outcome.faithful {before after : List Rule} {c : StoreCall} {x : Except RuleFault c.Answer}
    (h : Outcome before c x after) (hc : c.Faithful) (hbefore : ∀ r ∈ before, r.Faithful) :
    ∀ r ∈ after, r.Faithful := by
  cases x with
  | error e =>
    rw [show after = before from h]
    exact hbefore
  | ok a =>
    cases c with
    | fetchEnabled => exact h.2 ▸ hbefore
    | fetchById id => exact h.2 ▸ hbefore
    | fetchByIds ids => exact h.2 ▸ hbefore
    | insert r =>
      obtain ⟨⟨id, createdAt, updatedAt, -, rfl⟩, hmem⟩ := h
      intro q hq
      rcases (hmem q).mp hq with rfl | hq
      · exact ⟨hc.ordered, hc.survives⟩
      · exact hbefore q hq
    | update r =>
      cases a with
      | none => exact h.2 ▸ hbefore
      | some stored =>
        obtain ⟨⟨createdAt, updatedAt, rfl⟩, -, hmem⟩ := h
        intro q hq
        rcases (hmem q).mp hq with rfl | hq
        · exact ⟨hc.ordered, hc.survives⟩
        · exact hbefore q hq.1
    | remove id => exact fun q hq => hbefore q ((h.2.2 q).mp hq).1
    | ping => exact h ▸ hbefore

end StoreCall

namespace Repository

variable (repo : Repository)

/-- Carries out an operation. -/
def perform : RuleOperation → Work RuleReply
  | .enabledRules => repo.enabledRules.andThen fun x => .done (.rules x)
  | .byId id => (repo.byId id).andThen fun x => .done (.rule x)
  | .create r => (repo.create r).andThen fun x => .done (.created x)
  | .update r => (repo.update r).andThen fun x => .done (.updated x)
  | .delete id => (repo.delete id).andThen fun x => .done (.deleted x)

/-- Carries out operations one after the other. -/
def performAll : List RuleOperation → Work (List RuleReply)
  | [] => .done []
  | op :: rest => (repo.perform op).andThen fun reply =>
    (performAll rest).andThen fun replies => .done (reply :: replies)

end Repository

/-! ## A store with one rule -/

theorem Memory.faithful_single {r : Rule} (h : r.Faithful) :
    ∀ q ∈ store.rules (single r), q.Faithful := by
  intro q hq
  obtain rfl := List.mem_singleton.mp hq
  exact ⟨h.ordered, h.survives⟩

namespace Repository

/-- A store with one rule, which is cached. -/
def warmSingle (r : Rule) : World { m : Memory // m.InOrder } where
  store := Memory.single r
  entries key :=
    if key = ruleKey (.ofNat 1) then some { r with id := some (.ofNat 1) : Rule }.text else none

theorem entries_warmSingle_self (r : Rule) : (warmSingle r).entries (ruleKey (.ofNat 1)) =
    some { r with id := some (.ofNat 1) : Rule }.text := by
  unfold warmSingle
  dsimp only
  rw [if_pos rfl]

theorem entries_warmSingle {r : Rule} {key text : String}
    (h : (warmSingle r).entries key = some text) :
    key = ruleKey (.ofNat 1) ∧ text = { r with id := some (.ofNat 1) : Rule }.text := by
  unfold warmSingle at h
  dsimp only at h
  split at h
  next heq => exact ⟨heq, (Option.some.inj h).symm⟩
  next => exact nomatch h

theorem agrees_warmSingle {r : Rule} (h : r.Faithful) :
    (warmSingle r).Agrees Memory.store := by
  intro key text hkey
  obtain ⟨rfl, rfl⟩ := entries_warmSingle hkey
  apply fits_ruleKey
  show RuleFits (ruleWith? (Memory.store.rules (Memory.single r)) (.ofNat 1)) _
  rw [Memory.ruleWith?_single]
  exact ruleFits_text ⟨h.ordered, h.survives⟩

end Repository

end AlertRules
