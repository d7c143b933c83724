import AlertRules.Proofs.Codec.Outline
import AlertRules.Proofs.Repository.Noting

/-!
# Only approved rules

A rule is approved if it passes the checks and has an identifier. While only valid rules are
written, the store has only approved ones: what it adds to a rule is its identifier, which no check
looks at. Whatever is read from their texts in the cache is approved, too
(`Validator.Approves.of_read?`), and the list of identifiers is read as no rule at all
(`Repository.read?_idsText`).

So the terms of `Terms.approved` say nothing of how cache and store agree, and hold whatever may go
wrong with the cache.

> `Repository.sound_perform_approved`: on these terms every operation is sound that brings along a
> valid rule, and answers only approved ones.
-/

namespace AlertRules

open Json

/-- That a rule passes the checks, and has an identifier. -/
structure Validator.Approves (v : Validator) (r : Rule) : Prop where
  valid : v.check r = .ok ()
  numbered : r.id.isSome

variable {v : Validator}

/-- What is read from the text of an approved rule is approved, whatever has become of its
numbers. -/
theorem Validator.Approves.of_read? {r q : Rule} (h : v.Approves r)
    (hq : Rule.read? r.text = some q) : v.Approves q := by
  obtain ⟨hid, hname, -, hcondition⟩ := Rule.outline_of_read? hq
  refine ⟨?_, hid ▸ h.numbered⟩
  rw [v.check_eq_of_outline hname hcondition]
  exact h.valid

/-! ## The store -/

namespace StoreCall

/-- That the rule a call brings along is valid. -/
def Valid (v : Validator) : StoreCall → Prop
  | insert r | update r => v.check r = .ok ()
  | fetchEnabled | fetchById _ | fetchByIds _ | remove _ | ping => True

/-- The rules in an answer. -/
def contents : (c : StoreCall) → c.Answer → List Rule
  | fetchEnabled, found | fetchByIds _, found => found
  | fetchById _, found | update _, found => found.toList
  | insert _, stored => [stored]
  | remove _, _ | ping, _ => []

/-- All rules in an answer are rules of the store, before or after the call. -/
theorem Effect.mem_of_contents {before after : List Rule} {c : StoreCall} {a : c.Answer}
    (h : c.Effect before a after) {r : Rule} (hr : r ∈ c.contents a) : r ∈ before ∨ r ∈ after := by
  cases c with
  | fetchEnabled =>
    obtain ⟨rfl, -⟩ := h
    exact .inl (List.mem_filter.mp hr).1
  | fetchById id =>
    obtain ⟨rfl, -⟩ := h
    exact .inl (mem_of_ruleWith? (Option.mem_toList.mp hr)).1
  | fetchByIds ids => exact .inl ((h.1 r).mp hr).1
  | insert q =>
    obtain rfl := List.mem_singleton.mp hr
    exact .inr ((h.2 r).mpr (.inl rfl))
  | update q =>
    cases a with
    | none => exact nomatch hr
    | some stored =>
      obtain rfl := List.mem_singleton.mp hr
      exact .inr ((h.2.2 r).mpr (.inl rfl))
  | remove id => exact nomatch hr
  | ping => exact nomatch hr

/-- A call that brings along a valid rule leaves only valid ones. -/
theorem Outcome.valid {before after : List Rule} {c : StoreCall} {x : Except RuleFault c.Answer}
    (h : Outcome before c x after) (hc : c.Valid v) (hbefore : ∀ r ∈ before, v.check r = .ok ()) :
    ∀ r ∈ after, v.check r = .ok () := by
  cases x with
  | error e =>
    rw [show after = before from h]
    exact hbefore
  | ok a =>
    cases c with
    | fetchEnabled => exact h.2 ▸ hbefore
    | fetchById id => exact h.2 ▸ hbefore
    | fetchByIds ids => exact h.2 ▸ hbefore
    | insert r =>
      obtain ⟨⟨id, createdAt, updatedAt, -, rfl⟩, hmem⟩ := h
      intro q hq
      rcases (hmem q).mp hq with rfl | hq
      · exact hc
      · exact hbefore q hq
    | update r =>
      cases a with
      | none => exact h.2 ▸ hbefore
      | some stored =>
        obtain ⟨⟨createdAt, updatedAt, rfl⟩, -, hmem⟩ := h
        intro q hq
        rcases (hmem q).mp hq with rfl | hq
        · exact hc
        · exact hbefore q hq.1
    | remove id => exact fun q hq => hbefore q ((h.2.2 q).mp hq).1
    | ping => exact h ▸ hbefore

end StoreCall

/-- The terms on which only approved rules are about: only valid ones are written, and all that the
store answers and the cache holds are approved. -/
def Terms.approved (v : Validator) : Terms where
  asks c := c.Valid v
  tells c x := ∀ a, x = .ok a → ∀ r ∈ c.contents a, v.Approves r
  finds _ text := ∀ r, Rule.read? text = some r → v.Approves r
  fits _ text := ∀ r, Rule.read? text = some r → v.Approves r
  finds_of_fits := id

/-- A store keeps its side of these terms as long as all of its rules are valid. -/
theorem RuleStore.approved {σ : Type} (S : RuleStore σ) (c : StoreCall) (s : σ)
    (hc : (Terms.approved v).asks c) (hs : ∀ r ∈ S.rules s, v.check r = .ok ()) :
    (Terms.approved v).tells c (S.answer c s).1 ∧
      ∀ r ∈ S.rules (S.answer c s).2, v.check r = .ok () := by
  have hlawful := S.lawful c s
  have hafter := hlawful.valid hc hs
  refine ⟨fun a ha r hr => ?_, hafter⟩
  rw [ha] at hlawful
  rcases StoreCall.Effect.mem_of_contents hlawful hr with hmem | hmem
  · exact ⟨hs r hmem, (S.wellKept s).numbered r hmem⟩
  · exact ⟨hafter r hmem, (S.wellKept _).numbered r hmem⟩

/-! ## Operations -/

/-- The rules in a reply. -/
def RuleReply.contents : RuleReply → List Rule
  | rules (.ok found) => found
  | rule (.ok found) | updated (.ok found) => found.toList
  | created (.ok stored) => [stored]
  | rules (.error _) | rule (.error _) | updated (.error _) | created (.error _) | deleted _ => []

/-- The fields of a record that is written as an array are its items. -/
theorem Json.Document.mem_of_fields?_array {names : List String} {items : List Document}
    {limit inner : Nat} {fields : List (Option Document)}
    (h : (Document.array items).fields? names limit = some (inner, fields)) {d : Document}
    (hd : some d ∈ fields) : d ∈ items := by
  cases limit with
  | zero => exact nomatch h
  | succ limit =>
    obtain ⟨-, heq⟩ := Option.ite_none_right_eq_some.mp h
    cases heq
    rcases List.mem_append.mp hd with hitem | habsent
    · obtain ⟨d', hd', heq⟩ := List.mem_map.mp hitem
      exact Option.some.inj heq ▸ hd'
    · exact nomatch List.eq_of_mem_replicate habsent

/-- A text is no condition. -/
theorem Condition.ofDocument?_string (s : Option String) :
    ∀ limit, ofDocument? limit (.string s) = none
  | 0 | 1 | _ + 2 => rfl

namespace Repository

/-- The text of a list of identifiers is the text of no rule: an identifier would stand for its
condition, which is no text, or nothing would. -/
theorem read?_idsText (ids : List Uuid) : Rule.read? (idsText ids) = none := by
  rw [Rule.read?, idsText, Document.read?_text (plain_ids ids), Option.bind_eq_bind,
    Option.bind_some]
  refine Option.eq_none_iff_forall_ne_some.mpr fun r h => ?_
  obtain ⟨⟨inner, fields⟩, hfields, h⟩ := Option.bind_eq_some_iff.mp h
  have hmem : ∀ d, some d ∈ fields → d ∈ ids.map Uuid.toDocument :=
    fun d => Document.mem_of_fields?_array hfields
  clear hfields
  split at h
  next heq =>
    cases heq
    obtain ⟨id, -, h⟩ := Option.bind_eq_some_iff.mp h
    obtain ⟨name, -, h⟩ := Option.bind_eq_some_iff.mp h
    obtain ⟨description, -, h⟩ := Option.bind_eq_some_iff.mp h
    obtain ⟨enabled, -, h⟩ := Option.bind_eq_some_iff.mp h
    obtain ⟨priority, -, h⟩ := Option.bind_eq_some_iff.mp h
    obtain ⟨severity, -, h⟩ := Option.bind_eq_some_iff.mp h
    obtain ⟨condition, hcondition, h⟩ := Option.bind_eq_some_iff.mp h
    obtain ⟨d, rfl, hd⟩ := of_required hcondition
    have hid : d ∈ ids.map Uuid.toDocument := hmem d (by simp)
    obtain ⟨id, -, rfl⟩ := List.mem_map.mp hid
    rw [Uuid.toDocument, Document.ofString, Condition.ofDocument?_string] at hd
    cases hd
  next => cases h

theorem takes_of_approves {r : Rule} (h : v.Approves r) : Takes (.approved v) r :=
  fun _ _ _ hq => h.of_read? hq

theorem approves_of_offers {id : Uuid} {r : Rule} (h : Offers (.approved v) id r) :
    v.Approves r := by
  obtain ⟨text, hfinds, hread⟩ := h
  exact hfinds r hread

theorem fits_idsText (ids : List Uuid) (key : String) :
    (Terms.approved v).fits key (idsText ids) := by
  intro r hr
  rw [read?_idsText] at hr
  exact nomatch hr

/-- A list is put together of what was cached and what was fetched. -/
theorem of_mem_assemble {r : Rule} : ∀ {found : List (Uuid × Option Rule)} {fetched : List Rule},
    r ∈ assemble found fetched → (∃ id, (id, some r) ∈ found) ∨ r ∈ fetched
  | [], _, h => nomatch h
  | (id, some q) :: rest, fetched, h => by
    rcases List.mem_cons.mp h with rfl | h
    · exact .inl ⟨id, List.mem_cons_self ..⟩
    · rcases of_mem_assemble h with ⟨id', hmem⟩ | hmem
      · exact .inl ⟨id', List.mem_cons_of_mem _ hmem⟩
      · exact .inr hmem
  | (id, none) :: rest, fetched, h => by
    rcases List.mem_append.mp h with h | h
    · have hfetched : fetched? fetched id = some r := Option.mem_toList.mp h
      exact .inr (List.mem_filter.mp (List.mem_of_getLast? hfetched)).1
    · rcases of_mem_assemble h with ⟨id', hmem⟩ | hmem
      · exact .inl ⟨id', List.mem_cons_of_mem _ hmem⟩
      · exact .inr (List.mem_filter.mp hmem).1

/-- That only approved rules are answered. -/
def OnlyApproved (v : Validator) (reply : RuleReply) : Prop := ∀ r ∈ reply.contents, v.Approves r

variable (repo : Repository)

/-- A store serves a call that brings along a valid rule. -/
theorem serves_approved {c : StoreCall} {answered : c.Answer → Prop} {failed : RuleFault → Prop}
    (hc : c.Valid v) (hok : ∀ a, (∀ r ∈ c.contents a, v.Approves r) → answered a)
    (herror : ∀ f, failed f) : Serves (.approved v) c answered failed :=
  ⟨hc, fun a ha => hok a (ha a rfl), fun f _ => herror f⟩

theorem sound_resolveIds_approved (ids : List Uuid) :
    Sound (.approved v) (fun x => OnlyApproved v (.rules (x.map Rule.sortByPriority)))
      (repo.resolveIds ids) := by
  have hassemble : ∀ found fetched, FoundFor (.approved v) ids found →
      (∀ r ∈ fetched, v.Approves r) →
        OnlyApproved v (.rules (.ok (Rule.sortByPriority (assemble found fetched)))) := by
    intro found fetched hfound hfetched r hr
    rcases of_mem_assemble (List.mem_mergeSort.mp hr) with ⟨id, hmem⟩ | hmem
    · exact approves_of_offers (hfound.offers id r hmem)
    · exact hfetched r hmem
  apply repo.sound_resolveIds
  · exact fun found hfound _ => hassemble found [] hfound fun _ hr => nomatch hr
  · intro found hfound _
    apply serves_approved (c := .fetchByIds (missing found)) trivial
    · exact fun fetched hfetched =>
        ⟨fun r hr => takes_of_approves (hfetched r hr), hassemble found fetched hfound hfetched⟩
    · exact fun _ _ hr => nomatch hr

theorem sound_enabledRules_approved :
    Sound (.approved v) (fun x => OnlyApproved v (.rules x)) repo.enabledRules := by
  apply repo.sound_enabledRules
  · exact fun _ ids _ _ => repo.sound_resolveIds_approved ids
  · apply serves_approved (c := .fetchEnabled) trivial
    · intro rules hrules
      refine ⟨fits_idsText _ listKey, fun r hr => takes_of_approves (hrules r hr), fun r hr => ?_⟩
      exact hrules r (List.mem_mergeSort.mp hr)
    · exact fun _ _ hr => nomatch hr

theorem sound_byId_approved (id : Uuid) :
    Sound (.approved v) (fun x => OnlyApproved v (.rule x)) (repo.byId id) := by
  apply repo.sound_byId
  · intro r hr q hq
    obtain rfl := List.mem_singleton.mp hq
    exact approves_of_offers hr
  · apply serves_approved (c := .fetchById id) trivial
    · exact fun found hfound =>
        ⟨fun r hr => takes_of_approves (hfound r (Option.mem_toList.mpr hr)), hfound⟩
    · exact fun _ _ hr => nomatch hr

/-- **On these terms every operation is sound** that brings along a valid rule, and answers only
approved ones. -/
theorem sound_perform_approved {op : RuleOperation} (hop : op.Brings fun r => v.check r = .ok ()) :
    Sound (.approved v) (OnlyApproved v) (repo.perform op) := by
  cases op with
  | enabledRules => exact repo.sound_enabledRules_approved.andThen fun _ h => h
  | byId id => exact (repo.sound_byId_approved id).andThen fun _ h => h
  | create r =>
    have hcreate : Sound (.approved v) (fun x => OnlyApproved v (.created x)) (repo.create r) :=
      repo.sound_create (serves_approved hop (fun _ h => h) fun _ _ hr => nomatch hr)
    exact hcreate.andThen fun _ h => h
  | update r =>
    have hupdate : Sound (.approved v) (fun x => OnlyApproved v (.updated x)) (repo.update r) :=
      repo.sound_update (fun _ _ hr => nomatch hr)
        (serves_approved hop (fun _ h => h) fun _ _ hr => nomatch hr)
    exact hupdate.andThen fun _ h => h
  | delete id =>
    have hdelete : Sound (.approved v) (fun x => OnlyApproved v (.deleted x)) (repo.delete id) :=
      repo.sound_delete
        (serves_approved trivial (fun _ _ _ hr => nomatch hr) fun _ _ hr => nomatch hr)
    exact hdelete.andThen fun _ h => h

end Repository

end AlertRules
