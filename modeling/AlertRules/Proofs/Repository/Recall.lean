import AlertRules.Proofs.Codec.Exchange
import AlertRules.Proofs.Repository.Warming

/-!
# Recalling cached rules

What the repository puts under the key of a rule is the text of the rule, and what it recalls from
there is read from that text. A text that nests too deep is not read, which counts as nothing being
cached; otherwise the very rule comes back. Two rules never share a text, so a missing identifier or
instant is never taken for one that is there.

The condition of a rule is read node by node, each with two levels less than the group it stands in
(`Condition.StandsIn`). At every place the limit left is what the node itself needs, so no shape is
taken for another.

> `cached_rule_comes_back`: a faithful rule is recalled as it was cached if its text nests at most
> `maxNesting` deep, and not at all otherwise.
-/

namespace AlertRules

open Json

/-! ## Places in a condition -/

/-- That a condition stands in another, so many groups down. -/
inductive Condition.StandsIn : (level : Nat) → Condition → Condition → Prop
  | root (c : Condition) : StandsIn 0 c c
  | allOf {level : Nat} {c child : Condition} {children : List Condition}
    (hchild : child ∈ children) (h : StandsIn level c child) :
    StandsIn (level + 1) c (.allOf children)
  | anyOf {level : Nat} {c child : Condition} {children : List Condition}
    (hchild : child ∈ children) (h : StandsIn level c child) :
    StandsIn (level + 1) c (.anyOf children)

namespace Condition.StandsIn

variable {level : Nat} {c d : Condition}

theorem eachValue {P : Value → Prop} (h : StandsIn level c d) (hd : d.EachValue P) :
    c.EachValue P := by
  induction h with
  | root => exact hd
  | allOf hchild _ ih => exact ih (eachValueOf_iff.mp hd _ hchild)
  | anyOf hchild _ ih => exact ih (eachValueOf_iff.mp hd _ hchild)

theorem nesting_le_items {child : Condition} {children : List Condition} (h : child ∈ children) :
    child.toDocument.nesting ≤ Document.nestingOfItems (children.map toDocument) :=
  Document.nestingOfItems_le_iff.mp (Nat.le_refl _) _ (List.mem_map_of_mem h)

/-- Every group takes two levels from what stands in it. -/
theorem nesting_le (h : StandsIn level c d) :
    c.toDocument.nesting + 2 * level ≤ d.toDocument.nesting := by
  induction h with
  | root => exact Nat.le_refl _
  | allOf hchild _ ih =>
    have hitems := nesting_le_items hchild
    rw [nesting_allOf]
    omega
  | anyOf hchild _ ih =>
    have hitems := nesting_le_items hchild
    rw [nesting_anyOf]
    omega

/-- What stands in a condition that keeps a limit is read back with the levels left there. -/
theorem readBack (h : StandsIn level c d) (hordered : d.EachValue Value.Ordered) {limit : Nat}
    (hlimit : d.toDocument.nesting ≤ limit) :
    ofDocument? (limit - 2 * level) c.toDocument = some c := by
  have hnest := h.nesting_le
  rw [ofDocument?_toDocument _ (h.eachValue hordered), if_pos (by omega)]

end Condition.StandsIn

/-! ## Texts of rules -/

namespace Rule

/-- A faithful rule is what its text says, however deep it nests. -/
theorem document_of_text {r : Rule} (h : r.Faithful) :
    Document.read? r.text = some r.toDocument := Document.read?_text (plain_toDocument h.survives)

/-- With as many levels as its document nests, a rule is read back. -/
theorem ofDocument?_of_nesting {r : Rule} (h : r.Faithful) {limit : Nat}
    (hlimit : r.toDocument.nesting ≤ limit) : ofDocument? limit r.toDocument = some r := by
  rw [ofDocument?_toDocument limit h.ordered, if_pos hlimit]

/-- Two faithful rules never share a text. -/
theorem text_injective {r q : Rule} (hr : r.Faithful) (hq : q.Faithful) (h : r.text = q.text) :
    r = q := by
  have hread : some r.toDocument = some q.toDocument := by
    rw [← document_of_text hr, ← document_of_text hq, h]
  have hdocument : r.toDocument = q.toDocument := Option.some.inj hread
  -- The texts are compared through a limit that both keep, however deep they nest.
  have hback : some r = some q := by
    rw [← ofDocument?_of_nesting hr (Nat.le_refl _),
      ← ofDocument?_of_nesting hq (Nat.le_of_eq (congrArg Document.nesting hdocument.symm)),
      hdocument]
  exact Option.some.inj hback

end Rule

/-! ## From the cache and back -/

namespace Repository

variable {repo : Repository} {σ : Type} {S : RuleStore σ} {hz : Hazards} {w w₁ w₂ : World σ}
  {trace trace' : List Exchange}

/-- What is recalled under the identifier of a rule that has just been cached is what its text is
read as. -/
theorem recalled_of_cached (hcached : repo.cached = true) (hz' : hz.Reliable) {r : Rule} {id : Uuid}
    {found : Option Rule} (hid : r.id = some id)
    (hcaches : Reaches S hz (repo.cacheRule r) w trace (.done ()) w₁)
    (hrecalls : Reaches S hz (repo.cachedRule id) w₁ trace' (.done found) w₂) :
    found = Rule.read? r.text := by
  rw [cacheRule, hid] at hcaches
  have hput : w₁ = w.put (ruleKey id) r.text := of_keep hcached hz' hcaches
  have hfound : found = w₁.cached id := (of_cachedRule hcached hz' hrecalls).1
  rw [hfound, World.cached, hput, World.entries_put_self, Option.bind_some]

/-- **A cached rule comes back.** The text of a faithful rule says what its document says. If that
nests at most `maxNesting` deep, the very rule is read from it, and each part of its condition is
read at its place as that part; otherwise nothing is read. No other faithful rule has that text. So
the repository recalls a rule that it has cached, or finds nothing. -/
theorem cached_rule_comes_back {r : Rule} (h : r.Faithful) :
    Document.read? r.text = some r.toDocument ∧
    (r.toDocument.nesting ≤ maxNesting → Rule.read? r.text = some r ∧
      ∀ level c, Condition.StandsIn level c r.condition →
        Condition.ofDocument? (maxNesting - 1 - 2 * level) c.toDocument = some c) ∧
    (maxNesting < r.toDocument.nesting → Rule.read? r.text = none) ∧
    (∀ q : Rule, q.Faithful → q.text = r.text → q = r) ∧
    ∀ {σ : Type} {S : RuleStore σ} {hz : Hazards} {repo : Repository} {id : Uuid}
      {w w₁ w₂ : World σ} {trace trace' : List Exchange} {found : Option Rule}, hz.Reliable →
      repo.cached = true → r.id = some id →
      Reaches S hz (repo.cacheRule r) w trace (.done ()) w₁ →
      Reaches S hz (repo.cachedRule id) w₁ trace' (.done found) w₂ →
        found = if r.toDocument.nesting ≤ maxNesting then some r else none := by
  have hread := Rule.read?_text h
  refine ⟨Rule.document_of_text h, fun hnest => ⟨?_, fun level c hc => ?_⟩, fun hnest => ?_,
    fun q hq htext => Rule.text_injective hq h htext, ?_⟩
  · rw [hread, if_pos hnest]
  · exact hc.readBack h.ordered.1 (Rule.shallow_iff.mpr hnest).1
  · rw [hread, if_neg (Nat.not_le_of_lt hnest)]
  · intro σ S hz repo id w w₁ w₂ trace trace' found hz' hcached hid hcaches hrecalls
    rw [recalled_of_cached hcached hz' hid hcaches hrecalls, hread]

/-- A rule whose condition has a node of every shape, one of which expects null. -/
def motley : Rule :=
  { Service.packed with condition := .allOf [Service.packed.condition, .empty] }

theorem faithful_motley : motley.Faithful := by
  obtain ⟨⟨hordered, hconfigs⟩, hsurvives, hconfigs'⟩ := Service.faithful_packed
  exact ⟨⟨⟨hordered, trivial, trivial⟩, hconfigs⟩, ⟨hsurvives, trivial, trivial⟩, hconfigs'⟩

/-- The motley rule, cached in a memory without rules, is recalled, and its empty node is read as
one; a rule of 64 groups, one in another, is not read. -/
theorem cached_rule_comes_back_motley :
    motley.Faithful ∧ motley.toDocument.nesting ≤ maxNesting ∧
    Rule.read? motley.text = some motley ∧ Condition.StandsIn 1 .empty motley.condition ∧
    Condition.ofDocument? 124 Condition.empty.toDocument = some .empty ∧
    Rule.read? (Rule.ofCondition "deep" (.chain 64)).text = none ∧
    ∃ w₁ w₂ trace trace', Hazards.calm.Reliable ∧
      Reaches Memory.store .calm (({ cached := true } : Repository).cacheRule motley)
        ⟨Memory.empty, fun _ => none⟩ trace (.done ()) w₁ ∧
      Reaches Memory.store .calm (({ cached := true } : Repository).cachedRule (.ofNat 7)) w₁ trace'
        (.done (some motley)) w₂ := by
  have hnest : motley.toDocument.nesting ≤ maxNesting := by decide
  have hplace : Condition.StandsIn 1 .empty motley.condition :=
    .allOf (List.mem_cons_of_mem _ (List.mem_singleton.mpr rfl)) (.root _)
  obtain ⟨-, hread, -, -, hrun⟩ := cached_rule_comes_back faithful_motley
  obtain ⟨hback, hplaces⟩ := hread hnest
  have hchain : (Rule.ofCondition "deep" (.chain 64)).Faithful :=
    ⟨⟨Condition.eachValue_chain trivial 64, fun _ h => nomatch h⟩,
      Condition.eachValue_chain trivial 64, fun _ h => nomatch h⟩
  have hdeep : maxNesting < (Rule.ofCondition "deep" (.chain 64)).toDocument.nesting := by
    apply Nat.lt_of_not_le
    intro hshallow
    have hcondition : (Condition.chain 64).toDocument.nesting ≤ 126 :=
      (Rule.shallow_iff.mpr hshallow).1
    rw [Condition.nesting_chain] at hcondition
    omega
  have hlost := (cached_rule_comes_back hchain).2.2.1 hdeep
  obtain ⟨trace, _, w₁, hcaches⟩ := Reaches.exists_run Memory.store .calm
    (({ cached := true } : Repository).cacheRule motley) ⟨Memory.empty, fun _ => none⟩
  obtain ⟨trace', found, w₂, hrecalls⟩ := Reaches.exists_run Memory.store .calm
    (({ cached := true } : Repository).cachedRule (.ofNat 7)) w₁
  have hfound := hrun reliable_calm rfl rfl hcaches hrecalls
  rw [if_pos hnest] at hfound
  subst hfound
  exact ⟨faithful_motley, hnest, hback, hplace, hplaces 1 .empty hplace, hlost, w₁, w₂,
    trace, trace', reliable_calm, hcaches, hrecalls⟩

end Repository

end AlertRules
