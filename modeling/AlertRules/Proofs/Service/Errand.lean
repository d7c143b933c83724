import AlertRules.Service
import AlertRules.Proofs.Codec.Message
import AlertRules.Proofs.Repository.Interruption
import AlertRules.Proofs.Repository.Transparency

/-!
# Requests as errands

A request to the service comes to one operation of the repository, and what is told of its answer
(`Errand`); a request that is not in order, one that needs no rules from a store, and every request
without a repository come to none (`Service.Alone`), and only note something or ask whether the
store is there (`Idle`). So what holds of operations holds of requests, and of requests one after
the other (`Service.handleAll`).

> `Service.tidy_of_handleAll`: if reads of the store and deletions succeed, then after any requests
> all entries of the cache fit the rules of the store, and these are faithful, if they were so
> before.
-/

namespace AlertRules

open Json

/-! ## Programs that ask nothing of importance -/

/-- Requests that note something, or ask whether the store is there. -/
def Request.isIdle : Request → Bool
  | .observe _ | .store .ping => true
  | _ => false

/-- That a program makes no other requests. -/
def Idle {α : Type} : Work α → Prop
  | .done _ => True
  | .ask r rest => r.isIdle = true ∧ ∀ x, Idle (rest x)

namespace Idle

variable {α β : Type}

theorem andThen {p : Work α} {f : α → Work β} (hp : Idle p) (hf : ∀ a, Idle (f a)) :
    Idle (p.andThen f) := by
  induction p with
  | done a => exact hf a
  | ask r rest ih => exact ⟨hp.1, fun x => ih x (hp.2 x)⟩

theorem observeAll (os : List Observation) : Idle (Work.observeAll os) := by
  induction os with
  | nil => trivial
  | cons o rest ih => exact ⟨rfl, fun _ => ih⟩

/-- On terms that allow to ask whether the store is there, such a program is sound. -/
theorem sound {T : Terms} (hping : T.asks .ping) {p : Work α} (hp : Idle p) :
    Sound T (fun _ => True) p := by
  induction p with
  | done a => trivial
  | ask r rest ih =>
    obtain ⟨hidle, hrest⟩ := hp
    cases r with
    | observe o => exact fun x => ih x (hrest x)
    | cache c => exact nomatch hidle
    | store c =>
      cases c with
      | ping => exact ⟨hping, fun x _ => ih x (hrest x)⟩
      | fetchEnabled => exact nomatch hidle
      | fetchById id => exact nomatch hidle
      | fetchByIds ids => exact nomatch hidle
      | insert r => exact nomatch hidle
      | update r => exact nomatch hidle
      | remove id => exact nomatch hidle

end Idle

/-- A program that only passes its result on is as sound as the rest of it. -/
theorem Sound.of_passedOn {T : Terms} {α β : Type} {good : β → Prop} {g : α → β} {p : Work α}
    (h : Sound T good (p.andThen fun a => .done (g a))) : Sound T (fun a => good (g a)) p := by
  induction p with
  | done a => exact h
  | ask r rest ih => exact Terms.Admits.mono h fun x hx => ih x hx

/-! ## Errands -/

/-- What a request comes to: an operation of the repository, and what is done with its answer. -/
structure Errand where
  Answer : Type
  work : Repository → Work (Except RuleFault Answer)
  operation : RuleOperation
  reply : Except RuleFault Answer → RuleReply
  perform_eq : ∀ repo, repo.perform operation = (work repo).andThen fun x => .done (reply x)
  respond : Answer → Work (Except Status ServiceResponse)
  idle_respond : ∀ a, Idle (respond a)

/-- Goes on with an answer of the repository, or tells its fault. -/
def Service.orTell {α β : Type} (next : α → Work (Except Status β)) :
    Except RuleFault α → Work (Except Status β)
  | .ok a => next a
  | .error f => .done (.error f.toStatus)

/-- What is done with the answer of the operation, or with its fault. -/
def Errand.conclude (e : Errand) : Except RuleFault e.Answer →
    Work (Except Status ServiceResponse) :=
  Service.orTell e.respond

theorem Errand.idle_conclude (e : Errand) (x : Except RuleFault e.Answer) :
    Idle (e.conclude x) := by
  cases x with
  | ok a => exact e.idle_respond a
  | error f => trivial

namespace Service

variable (s : Service)

/-- Evaluating an event. -/
def evaluation (event : Value) : Errand where
  Answer := List Rule
  work := (·.enabledRules)
  operation := .enabledRules
  reply := .rules
  perform_eq _ := rfl
  respond rules := do
    Work.observeAll (s.engine.observations event rules)
    return .ok (.found ((s.engine.evaluate event rules).map RuleMatch.toMessage))
  idle_respond _ := Idle.andThen (Idle.observeAll _) fun _ => trivial

/-- Storing a new rule. -/
def creation (r : Rule) : Errand where
  Answer := Rule
  work := (·.create r)
  operation := .create r
  reply := .created
  perform_eq _ := rfl
  respond created := return .ok (.rule created.toMessage)
  idle_respond _ := trivial

/-- Finding a rule. -/
def finding (id : Uuid) : Errand where
  Answer := Option Rule
  work := (·.byId id)
  operation := .byId id
  reply := .rule
  perform_eq _ := rfl
  respond
    | some r => return .ok (.rule r.toMessage)
    | none => return .error (noSuchRule id)
  idle_respond found := by cases found <;> trivial

/-- Changing a rule. -/
def change (id : Uuid) (r : Rule) : Errand where
  Answer := Option Rule
  work := (·.update r)
  operation := .update r
  reply := .updated
  perform_eq _ := rfl
  respond
    | some r => return .ok (.rule r.toMessage)
    | none => return .error (noSuchRule id)
  idle_respond updated := by cases updated <;> trivial

/-- Taking out a rule. -/
def removal (id : Uuid) : Errand where
  Answer := Bool
  work := (·.delete id)
  operation := .delete id
  reply := .deleted
  perform_eq _ := rfl
  respond deleted := return .ok (.deleted deleted)
  idle_respond _ := trivial

/-- Listing the enabled rules. -/
def listing : Errand where
  Answer := List Rule
  work := (·.enabledRules)
  operation := .enabledRules
  reply := .rules
  perform_eq _ := rfl
  respond rules := return .ok (.rules (rules.map Rule.toMessage))
  idle_respond _ := trivial

/-- The errand a request comes to, if it is in order and needs the repository. -/
def errand? : ServiceRequest → Option Errand
  | .evaluateEvent event => (requiredEvent event).toOption.map s.evaluation
  | .createRule m => (s.ruleToCreate m).toOption.map creation
  | .getRule raw => (requiredId raw).toOption.map finding
  | .updateRule m => (s.ruleToUpdate m).toOption.map fun (id, r) => change id r
  | .deleteRule raw => (requiredId raw).toOption.map removal
  | .listEnabledRules => some listing
  | .testRule _ _ | .healthCheck => none

variable {s}

theorem stored_orFail {repo : Repository} (hrepo : s.repository = some repo) {α β : Type}
    (work : Repository → Work (Except RuleFault α)) (next : α → Work (Except Status β)) :
    Program.orFail (s.stored work) next = (work repo).andThen (orTell next) := by
  rw [stored, hrepo]
  show ((work repo).andThen fun x => .done (x.mapError RuleFault.toStatus)).andThen _ = _
  rw [Program.andThen_assoc]
  congr 1
  funext x
  cases x <;> rfl

theorem of_toOption {α : Type} {x : Except Status α} {a : α} (h : x.toOption = some a) :
    x = .ok a := by
  cases x with
  | error e => exact nomatch h
  | ok b => rw [Option.some.inj h]

theorem rulesInForce_eq {repo : Repository} (hrepo : s.repository = some repo) :
    s.rulesInForce = s.stored (·.enabledRules) := by
  rw [rulesInForce, hrepo]

/-- **A request is its errand**, where there is a repository. -/
theorem carryOut_eq {repo : Repository} (hrepo : s.repository = some repo) {q : ServiceRequest}
    {e : Errand} (h : s.errand? q = some e) :
    s.carryOut q = (e.work repo).andThen e.conclude := by
  cases q with
  | evaluateEvent event =>
    obtain ⟨v, hv, rfl⟩ := Option.map_eq_some_iff.mp h
    rw [carryOut, evaluateEvent, of_toOption hv, accepted, rulesInForce_eq hrepo,
      stored_orFail hrepo]
    rfl
  | createRule m =>
    obtain ⟨r, hr, rfl⟩ := Option.map_eq_some_iff.mp h
    rw [carryOut, createRule, of_toOption hr, accepted, stored_orFail hrepo]
    rfl
  | getRule raw =>
    obtain ⟨id, hid, rfl⟩ := Option.map_eq_some_iff.mp h
    rw [carryOut, getRule, of_toOption hid, accepted, stored_orFail hrepo]
    rfl
  | updateRule m =>
    obtain ⟨⟨id, r⟩, hr, rfl⟩ := Option.map_eq_some_iff.mp h
    rw [carryOut, updateRule, of_toOption hr, accepted]
    dsimp only
    rw [stored_orFail hrepo]
    rfl
  | deleteRule raw =>
    obtain ⟨id, hid, rfl⟩ := Option.map_eq_some_iff.mp h
    rw [carryOut, deleteRule, of_toOption hid, accepted, stored_orFail hrepo]
    rfl
  | listEnabledRules =>
    cases h
    rw [carryOut, listEnabledRules, stored_orFail hrepo]
    rfl
  | testRule m event => exact nomatch h
  | healthCheck => exact nomatch h

/-! ## Requests without an errand -/

variable (s) in
/-- What a request without an errand comes to: it is answered at once, the store is asked whether it
is there, or rules are evaluated that are not stored, which are none or the one that is tried. -/
inductive Alone : Work (Except Status ServiceResponse) → Prop
  | answered (a : Except Status ServiceResponse) : Alone (.done a)
  | asked (tell : Except RuleFault Unit → Except Status ServiceResponse) :
    Alone ((Work.askStore .ping).andThen fun x => .done (tell x))
  | evaluated (event : Value) (a : Except Status ServiceResponse) :
    Alone ((Work.observeAll (s.engine.observations event [])).andThen fun _ => .done a)
  | tried {rule : Option RuleMessage} {event : Option EventMessage} {r : Rule} {x : Value}
    (h : s.ruleToTest rule event = .ok (r, x)) (a : Except Status ServiceResponse) :
    Alone ((Work.observeAll (s.engine.evaluateRule x r).observations).andThen fun _ => .done a)

theorem Alone.idle {p : Work (Except Status ServiceResponse)} (h : s.Alone p) : Idle p := by
  cases h with
  | answered a => trivial
  | asked tell => exact ⟨rfl, fun _ => trivial⟩
  | evaluated event a => exact (Idle.observeAll _).andThen fun _ => trivial
  | tried h a => exact (Idle.observeAll _).andThen fun _ => trivial

/-- What is in order is stored or read, and without a repository it is not. -/
theorem alone_accepted {α β : Type} {checked : Except Status α} {work : α → Repository →
    Work (Except RuleFault β)} {next : α → β → Work (Except Status ServiceResponse)}
    (h : ∀ a, checked = .ok a → s.repository = none) :
    s.Alone (accepted checked fun a => Program.orFail (s.stored (work a)) (next a)) := by
  cases checked with
  | error status => exact .answered _
  | ok a =>
    rw [accepted, stored, h a rfl]
    exact .answered _

/-- **A request without an errand, or without a repository, is alone.** -/
theorem alone_carryOut {q : ServiceRequest} (h : s.repository = none ∨ s.errand? q = none) :
    s.Alone (s.carryOut q) := by
  -- What is in order has an errand, so for that there is no repository.
  have hnone : ∀ {α : Type} {checked : Except Status α} {f : α → Errand},
      s.errand? q = checked.toOption.map f → ∀ a, checked = .ok a → s.repository = none := by
    intro α checked f heq a hok
    refine h.resolve_right fun hnothing => ?_
    rw [heq, hok] at hnothing
    exact nomatch hnothing
  cases q with
  | evaluateEvent event =>
    rw [carryOut, evaluateEvent]
    cases hevent : requiredEvent event with
    | error status => exact .answered _
    | ok x =>
      rw [accepted, rulesInForce, hnone (f := s.evaluation) rfl x hevent]
      exact .evaluated x _
  | createRule m => exact alone_accepted (hnone (f := creation) rfl)
  | getRule raw => exact alone_accepted (hnone (f := finding) rfl)
  | updateRule m => exact alone_accepted (hnone (f := fun (id, r) => change id r) rfl)
  | deleteRule raw => exact alone_accepted (hnone (f := removal) rfl)
  | listEnabledRules =>
    rw [carryOut, listEnabledRules, stored, h.resolve_right fun hnothing => nomatch hnothing]
    exact .answered _
  | testRule rule event =>
    rw [carryOut, testRule]
    cases htest : s.ruleToTest rule event with
    | error status => exact .answered _
    | ok found => exact .tried htest _
  | healthCheck =>
    rw [carryOut, healthCheck, storeIsHealthy]
    split
    · exact .asked _
    · exact .answered _

/-- Such a request asks nothing of importance. -/
theorem idle_carryOut {q : ServiceRequest} (h : s.repository = none ∨ s.errand? q = none) :
    Idle (s.carryOut q) := (alone_carryOut h).idle

/-! ## Requests one after the other -/

variable (s) in
/-- Answers requests one after the other. -/
def handleAll : List ServiceRequest → Work (List (Except Status ServiceResponse))
  | [] => .done []
  | q :: rest => (s.handle q).andThen fun answer =>
    (handleAll rest).andThen fun answers => .done (answer :: answers)

/-! ## Rules in requests -/

theorem of_mapError {ε δ α : Type} {x : Except ε α} {f : ε → δ} {a : α}
    (h : x.mapError f = .ok a) : x = .ok a := by
  cases x with
  | error e => exact nomatch h
  | ok b => rw [Except.ok.inj h]

theorem of_requiredRule {m : Option RuleMessage} {r : Rule} (h : requiredRule m = .ok r) :
    ∃ msg, m = some msg ∧ msg.toRule = .ok r := by
  cases m with
  | none => exact nomatch h
  | some msg => exact ⟨msg, rfl, of_mapError h⟩

/-- The rule of a request to create one is sent in it, and valid. -/
theorem of_ruleToCreate {m : Option RuleMessage} {r : Rule} (h : s.ruleToCreate m = .ok r) :
    ∃ msg sent, m = some msg ∧ msg.toRule = .ok sent ∧ r = { sent with id := none } ∧
      s.validator.check r = .ok () := by
  obtain ⟨sent, hsent, h⟩ := bind_eq_ok h
  obtain ⟨⟨⟩, hvalid, h⟩ := bind_eq_ok h
  cases h
  obtain ⟨msg, hmsg, hread⟩ := of_requiredRule hsent
  exact ⟨msg, sent, hmsg, hread, rfl, of_mapError hvalid⟩

/-- The rule of a request to update one is sent in it, valid, and has the identifier. -/
theorem of_ruleToUpdate {m : Option RuleMessage} {id : Uuid} {r : Rule}
    (h : s.ruleToUpdate m = .ok (id, r)) :
    ∃ msg, m = some msg ∧ msg.toRule = .ok r ∧ r.id = some id ∧ s.validator.check r = .ok () := by
  obtain ⟨sent, hsent, h⟩ := bind_eq_ok h
  split at h
  next => exact nomatch h
  next id' hid =>
    obtain ⟨⟨⟩, hvalid, h⟩ := bind_eq_ok h
    cases h
    obtain ⟨msg, hmsg, hread⟩ := of_requiredRule hsent
    exact ⟨msg, hmsg, hread, hid, of_mapError hvalid⟩

/-- The rule of a request to try one is sent in it, and valid. -/
theorem of_ruleToTest {m : Option RuleMessage} {event : Option EventMessage} {r : Rule} {v : Value}
    (h : s.ruleToTest m event = .ok (r, v)) :
    ∃ msg sent, m = some msg ∧ msg.toRule = .ok sent ∧
      r = { sent with id := some (sent.id.getD .nil) } ∧ requiredEvent event = .ok v ∧
      s.validator.check sent = .ok () := by
  obtain ⟨sent, hsent, h⟩ := bind_eq_ok h
  obtain ⟨v', hv, h⟩ := bind_eq_ok h
  obtain ⟨⟨⟩, hvalid, h⟩ := bind_eq_ok h
  cases h
  obtain ⟨msg, hmsg, hread⟩ := of_requiredRule hsent
  exact ⟨msg, sent, hmsg, hread, rfl, hv, of_mapError hvalid⟩

end Service

/-- The rule message in a request, if there is any. -/
def ServiceRequest.message? : ServiceRequest → Option RuleMessage
  | createRule m | updateRule m | testRule m _ => m
  | evaluateEvent _ | getRule _ | deleteRule _ | listEnabledRules | healthCheck => none

/-- That the numbers of the rule in a request survive. -/
def ServiceRequest.Survives (q : ServiceRequest) : Prop :=
  ∀ m r, q.message? = some m → m.toRule = .ok r → r.EachValue Value.Survives

namespace Service

variable {s : Service} {repo : Repository}

/-- The rule that an errand brings along is valid, and the one that was sent but for its
identifier. -/
theorem sent_of_errand {q : ServiceRequest} {e : Errand} (h : s.errand? q = some e) :
    e.operation.Brings fun r => s.validator.check r = .ok () ∧
      ∃ m sent id, q.message? = some m ∧ m.toRule = .ok sent ∧ r = { sent with id := id } := by
  cases q with
  | evaluateEvent event =>
    obtain ⟨v, -, rfl⟩ := Option.map_eq_some_iff.mp h
    trivial
  | createRule m =>
    obtain ⟨r, hr, rfl⟩ := Option.map_eq_some_iff.mp h
    obtain ⟨msg, sent, hmsg, hread, hr', hvalid⟩ := of_ruleToCreate (of_toOption hr)
    exact ⟨hvalid, msg, sent, none, hmsg, hread, hr'⟩
  | getRule raw =>
    obtain ⟨id, -, rfl⟩ := Option.map_eq_some_iff.mp h
    trivial
  | updateRule m =>
    obtain ⟨⟨id, r⟩, hr, rfl⟩ := Option.map_eq_some_iff.mp h
    obtain ⟨msg, hmsg, hread, -, hvalid⟩ := of_ruleToUpdate (of_toOption hr)
    exact ⟨hvalid, msg, r, r.id, hmsg, hread, rfl⟩
  | deleteRule raw =>
    obtain ⟨id, -, rfl⟩ := Option.map_eq_some_iff.mp h
    trivial
  | listEnabledRules =>
    cases h
    trivial
  | testRule m event => exact nomatch h
  | healthCheck => exact nomatch h

/-- A request whose numbers survive comes to an operation with a faithful rule. -/
theorem faithful_errand {q : ServiceRequest} {e : Errand} (h : s.errand? q = some e)
    (hq : q.Survives) : e.operation.Faithful := by
  refine RuleOperation.faithful_iff_brings.mpr ((sent_of_errand h).mono ?_)
  rintro r ⟨-, m, sent, id, hm, hread, rfl⟩
  have hordered := RuleMessage.ordered_of_toRule hread
  have hsurvives := hq m sent hm hread
  exact ⟨⟨hordered.1, hordered.2⟩, hsurvives.1, hsurvives.2⟩

end Service

/-! ## What requests leave behind -/

/-- That all entries fit the rules of the store, and these are faithful. -/
structure World.Tidy {σ : Type} (S : RuleStore σ) (w : World σ) : Prop where
  agrees : w.Agrees S
  faithful : ∀ r ∈ S.rules w.store, r.Faithful

variable {σ : Type} {S : RuleStore σ} {hz : Hazards} {w w' : World σ}

theorem World.Tidy.fades (hw : w.Tidy S) (h : w.Fades hz w') : w'.Tidy S := by
  constructor
  · intro key text hkey
    rw [h.store_eq]
    exact hw.agrees key text (h.entries hkey)
  · rw [h.store_eq]
    exact hw.faithful

/-- A program that asks nothing of importance leaves the store as it is, and all tidy. -/
theorem Idle.tidy (havail : S.Available) {α : Type} {p p' : Work α} {trace : List Exchange}
    (hp : Idle p) (hrun : Reaches S hz p w trace p' w') (hw : w.Tidy S) :
    w'.Tidy S ∧ w'.store = w.store := by
  obtain ⟨hholds, -, hstore⟩ := Sound.reaches (K := fun s => s = w.store)
    (havail.reading w.store) hrun (hp.sound (T := .reading _ _) rfl) hw.agrees rfl
  refine ⟨⟨fun key text hkey => ?_, ?_⟩, hstore⟩
  · rw [hstore]
    exact hholds key text hkey
  · rw [hstore]
    exact hw.faithful

namespace Service

variable {s : Service} {repo : Repository}

/-- A request that has been answered has been carried out. -/
theorem of_handle {q : ServiceRequest} {trace : List Exchange} {a : Except Status ServiceResponse}
    (hrun : Reaches S hz (s.handle q) w trace (.done a) w') :
    ∃ trace₁ w₁, Reaches S hz (s.carryOut q) w trace₁ (.done a) w₁ ∧ w₁.Fades hz w' := by
  obtain ⟨trace₁, answer, w₁, trace₂, hcarry, hnoted, -⟩ := Reaches.of_andThen_done hrun
  obtain ⟨w₂, ⟨⟩, w₃, trace₃, hfade, hstep, hdone, -⟩ := Reaches.of_ask_done hnoted
  obtain rfl := hstep.of_observe
  obtain ⟨-, hanswer, rfl⟩ := Reaches.of_done hdone
  cases hanswer
  exact ⟨trace₁, w₁, hcarry, hfade⟩

/-- A request with an errand that has been answered has carried out its operation, and concluded. -/
theorem of_errand (hrepo : s.repository = some repo) {q : ServiceRequest} {e : Errand}
    (h : s.errand? q = some e) {trace : List Exchange} {a : Except Status ServiceResponse}
    (hrun : Reaches S hz (s.handle q) w trace (.done a) w') :
    ∃ trace₁ x w₁ trace₂ w₂,
      Reaches S hz (repo.perform e.operation) w trace₁ (.done (e.reply x)) w₁ ∧
      Reaches S hz (e.conclude x) w₁ trace₂ (.done a) w₂ ∧ w₂.Fades hz w' := by
  obtain ⟨trace', w₂, hcarry, hfade⟩ := of_handle hrun
  rw [carryOut_eq hrepo h] at hcarry
  obtain ⟨trace₁, x, w₁, trace₂, hwork, hconclude, -⟩ := Reaches.of_andThen_done hcarry
  refine ⟨trace₁, x, w₁, trace₂, w₂, ?_, hconclude, hfade⟩
  rw [e.perform_eq]
  exact hwork.andThen fun x => .done (e.reply x)

/-- **One request** leaves all tidy, if deletions succeed. -/
theorem tidy_of_handle (havail : S.Available) (hrepo : s.repository = some repo)
    (hcached : repo.cached = true) (hdelete : ¬ hz.fails .delete) {q : ServiceRequest}
    (hq : q.Survives) {trace : List Exchange} {a : Except Status ServiceResponse}
    (hrun : Reaches S hz (s.handle q) w trace (.done a) w') (hw : w.Tidy S) : w'.Tidy S := by
  cases herrand : s.errand? q with
  | none =>
    obtain ⟨trace₁, w₁, hcarry, hfade⟩ := of_handle hrun
    exact ((idle_carryOut (.inr herrand)).tidy havail hcarry hw).1.fades hfade
  | some e =>
    obtain ⟨trace₁, x, w₁, trace₂, w₂, hperform, hconclude, hfade⟩ := of_errand hrepo herrand hrun
    obtain ⟨-, hagrees, hrules⟩ := Repository.perform_transparent havail hcached hdelete hw.agrees
      hw.faithful (faithful_errand herrand hq) hperform
    exact ((e.idle_conclude x).tidy havail hconclude ⟨hagrees, hrules⟩).1.fades hfade

/-- **Any requests** leave all tidy. -/
theorem tidy_of_handleAll (havail : S.Available) (hrepo : s.repository = some repo)
    (hcached : repo.cached = true) (hdelete : ¬ hz.fails .delete) :
    ∀ {requests : List ServiceRequest} {w w' : World σ} {trace : List Exchange}
      {answers : List (Except Status ServiceResponse)}, (∀ q ∈ requests, q.Survives) →
        Reaches S hz (s.handleAll requests) w trace (.done answers) w' → w.Tidy S → w'.Tidy S
  | [], w, w', trace, answers, _, hrun, hw => by
    obtain ⟨-, -, rfl⟩ := Reaches.of_done hrun
    exact hw
  | q :: rest, w, w', trace, answers, hrequests, hrun, hw => by
    rw [List.forall_mem_cons] at hrequests
    obtain ⟨trace₁, a, w₁, trace₂, hfirst, hmore, -⟩ := Reaches.of_andThen_done hrun
    obtain ⟨trace₃, others, w₂, trace₄, hothers, hdone, -⟩ := Reaches.of_andThen_done hmore
    obtain ⟨-, -, rfl⟩ := Reaches.of_done hdone
    have hw₁ := tidy_of_handle havail hrepo hcached hdelete hrequests.1 hfirst hw
    exact tidy_of_handleAll havail hrepo hcached hdelete hrequests.2 hothers hw₁

/-- A store and a cache that are empty are tidy. -/
theorem tidy_of_empty {s₀ : σ} (h : S.rules s₀ = []) : World.Tidy S ⟨s₀, fun _ => none⟩ := by
  refine ⟨World.agrees_of_empty, fun r hr => ?_⟩
  have hmem : r ∈ S.rules s₀ := hr
  rw [h] at hmem
  exact nomatch hmem

end Service

end AlertRules
