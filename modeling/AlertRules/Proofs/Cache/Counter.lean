import AlertRules.Cache.Keyspace
import AlertRules.Proofs.Program

/-!
# Counters and their time to live

A counter is to get its time to live when it is new. Whether it is new is told from its value, which
is then what it was increased by. But that is so whenever the counter stood at zero before, and a
counter comes back to zero when what it was increased by adds up to nothing. So its time to live is
set anew at every increase that finds it at zero (`Increase.step`), by induction over a run from its
value (`sent_eq`).

Of the server it is relied on only that it increases counters as words, from zero if there is
nothing under the key, and that no key expires (`CounterServer`). The keys of `Keyspace` are one.

> `expiry_renewed_iff`: of a new counter, the time to live is set by the first increase and by no
> other if and only if the counter does not stand at zero before any other.
-/

namespace AlertRules

/-! ## Texts of counters -/

namespace Text

theorem takeSign_toDigits (m : Nat) :
    takeSign (Nat.toDigits 10 m) = (false, Nat.toDigits 10 m) := by
  cases hds : Nat.toDigits 10 m with
  | nil => exact absurd hds Nat.toDigits_ne_nil
  | cons c cs =>
    have hdigit : c.isDigit = true :=
      Nat.isDigit_of_mem_toDigits (by decide) (by decide) (hds ▸ List.mem_cons_self ..)
    unfold takeSign
    split
    next heq =>
      cases heq
      exact absurd hdigit (by decide)
    next heq =>
      cases heq
      exact absurd hdigit (by decide)
    next => rfl

theorem areDigits_toDigits (m : Nat) : areDigits (Nat.toDigits 10 m) = true := by
  have hall : (Nat.toDigits 10 m).all Char.isDigit = true := List.all_eq_true.mpr fun c hc =>
    Nat.isDigit_of_mem_toDigits (by decide) (by decide) hc
  have hne : (Nat.toDigits 10 m).isEmpty = false :=
    List.isEmpty_eq_false_iff.mpr Nat.toDigits_ne_nil
  rw [areDigits, hall, hne]
  rfl

theorem natOfDigits_toDigits (m : Nat) : natOfDigits (Nat.toDigits 10 m) = m := by
  rw [natOfDigits, ← Nat.ofDigitChars_eq_foldl, Nat.ofDigitChars_ten_toDigits]

/-- An integer is read from its decimal. -/
theorem intOfText?_toString (n : Int) : intOfText? (toString n) = some n := by
  cases n with
  | ofNat m =>
    have hlist : (toString (Int.ofNat m)).toList = Nat.toDigits 10 m := Nat.toList_repr
    rw [intOfText?, hlist, takeSign_toDigits]
    simp [areDigits_toDigits, natOfDigits_toDigits]
  | negSucc m =>
    have hlist : (toString (Int.negSucc m)).toList = '-' :: Nat.toDigits 10 (m + 1) := by
      show ("-" ++ (m + 1).repr).toList = _
      rw [String.toList_append, Nat.toList_repr]
      rfl
    rw [intOfText?, hlist]
    simp [takeSign, areDigits_toDigits, natOfDigits_toDigits]
    omega

end Text

namespace Keyspace

theorem lookup_put_self {α : Type} (key : String) (a : α) (entries : List (String × α)) :
    (put key a entries).lookup key = some a := by
  induction entries with
  | nil => simp [put]
  | cons e rest ih =>
    obtain ⟨k, b⟩ := e
    unfold put
    split
    next => simp
    next hne =>
      have hdiffer : (key == k) = false := beq_eq_false_iff_ne.mpr fun heq => hne heq.symm
      rw [List.lookup_cons, hdiffer]
      exact ih

theorem counterAt_new {key : String} {ks : Keyspace} (h : ks.lookup key = none) :
    counterAt key ks = .ok 0 := by
  rw [counterAt, textAt, h]
  rfl

/-- A counter has the value that was put under its key. -/
theorem counterAt_put {n : Int} (h : FitsInt64 n) (key : String) (ks : Keyspace) :
    counterAt key (put key (.text (toString n)) ks) = .ok n := by
  have hcounter : counterOf? (toString n) = some n := by
    rw [counterOf?, Text.intOfText?_toString]
    exact if_pos ⟨rfl, h⟩
  rw [counterAt, textAt, lookup_put_self]
  simp only [bind, Except.bind, hcounter]
  rfl

end Keyspace

/-! ## Servers -/

/-- A server of the cache with states of type `σ`, and what is relied on of it: how it increases
counters, and that no key expires while it does. -/
structure CounterServer (σ : Type) where
  answer : (c : CacheCommand) → σ → c.Answer × σ
  /-- Whether there is anything under a key. -/
  has : String → σ → Bool
  /-- The value of the counter under a key, unless something else is there. -/
  counter? : String → σ → Option Int
  /-- A counter starts from zero. -/
  counter?_new : ∀ {key : String} {s : σ}, has key s = false → counter? key s = some 0
  /-- An increase within the range of a word is made. -/
  increases : ∀ {key : String} {s : σ} {n delta : Int}, counter? key s = some n →
    FitsInt64 (n + delta) → (answer (.increase key delta) s).1 = .ok (n + delta) ∧
      counter? key (answer (.increase key delta) s).2 = some (n + delta)
  /-- One that would leave it is refused. -/
  refuses : ∀ {key : String} {s : σ} {n delta : Int}, counter? key s = some n →
    ¬ FitsInt64 (n + delta) → (∃ f, (answer (.increase key delta) s).1 = .error f) ∧
      counter? key (answer (.increase key delta) s).2 = some n
  /-- A counter that is given a time to live, whatever that is, does not expire. -/
  keeps : ∀ {key : String} {s : σ} {n ttl : Int}, counter? key s = some n →
    counter? key (answer (.expire key ttl) s).2 = some n

namespace Keyspace

theorem increased_eq {key : String} {ks : Keyspace} {n : Int} (hn : counterAt key ks = .ok n)
    (delta : Int) : increased key delta ks =
      if FitsInt64 (n + delta) then .ok (n + delta)
      else .error (.redis "the counter would overflow") := by
  rw [increased, hn]
  rfl

theorem counterAt_of_toOption {key : String} {ks : Keyspace} {n : Int}
    (h : (counterAt key ks).toOption = some n) : counterAt key ks = .ok n := by
  cases hcounter : counterAt key ks with
  | error f =>
    rw [hcounter] at h
    exact nomatch h
  | ok m =>
    rw [hcounter] at h
    exact congrArg _ (Option.some.inj h)

/-- **Keys as a server of counters.** -/
def server : CounterServer Keyspace where
  answer := answer
  has := has
  counter? key ks := (counterAt key ks).toOption
  counter?_new h := congrArg Except.toOption
    (counterAt_new (Option.isNone_iff_eq_none.mp (Option.isSome_eq_false_iff.mp h)))
  increases hn hfits := by
    have hn := counterAt_of_toOption hn
    rw [answer, increased_eq hn, if_pos hfits]
    exact ⟨rfl, congrArg Except.toOption (counterAt_put hfits _ _)⟩
  refuses hn hfits := by
    have hn' := counterAt_of_toOption hn
    rw [answer, increased_eq hn', if_neg hfits]
    exact ⟨⟨_, rfl⟩, hn⟩
  keeps := id

end Keyspace

/-! ## One increase -/

/-- An increase of a counter by what a word holds, and the time that a new counter is to live, which
is a second at least. -/
structure Increase where
  delta : Int
  ttl : Nat
  fits : FitsInt64 delta
  lasting : 0 < ttl

namespace Increase

variable (c : Increase)

/-- The increase of the counter under a key. -/
def work (key : String) : CacheWork (Except BackendFault Int) :=
  CacheWork.increase key c.delta (some c.ttl)

/-- The value of a counter after the increase. One that would leave the range of a word is not
made. -/
def applyTo (n : Int) : Int := if FitsInt64 (n + c.delta) then n + c.delta else n

/-- What is sent to increase a counter with a value: its time to live is set if that is zero. -/
def commandsAt (key : String) (n : Int) : List CacheCommand :=
  .increase key c.delta :: if n = 0 then [.expire key (signedWord c.ttl)] else []

/-- What is left to do when the counter has been taken for a new one. -/
def renewal (key : String) (n : Int) : CacheWork (Except BackendFault Int) :=
  (CacheWork.send (.expire key (signedWord c.ttl))).orFail fun _ => .done (.ok n)

/-- What is left to do when the counter has been increased, or could not be. -/
def rest (key : String) : Except BackendFault Int → CacheWork (Except BackendFault Int)
  | .ok n => if n = c.delta then c.renewal key n else .done (.ok n)
  | .error f => .done (.error f)

theorem work_eq (key : String) : c.work key = .ask (.increase key c.delta) (c.rest key) := by
  show Program.ask (CacheCommand.increase key c.delta) _ = _
  congr 1
  funext x
  cases x <;> rfl

variable {σ : Type} (D : CounterServer σ)

/-- A time to live is all that is sent for a new counter, whatever is answered to it. -/
theorem renewal_spec (key : String) (n : Int) (s : σ) :
    ((c.renewal key n).transcript D.answer s).map (·.1) = [.expire key (signedWord c.ttl)] ∧
      ((c.renewal key n).run D.answer s).2 = (D.answer (.expire key (signedWord c.ttl)) s).2 := by
  have hsend : (CacheWork.send (.expire key (signedWord c.ttl))).run D.answer s =
    D.answer (.expire key (signedWord c.ttl)) s := rfl
  rw [renewal, Program.orFail, Program.transcript_andThen, Program.run_andThen, hsend]
  cases (D.answer (.expire key (signedWord c.ttl)) s).1 <;> exact ⟨rfl, rfl⟩

/-- **One increase** of a counter sets its time to live if it stands at zero, and changes it by what
it says. -/
theorem step {key : String} {s : σ} {n : Int} (hn : D.counter? key s = some n) :
    ((c.work key).transcript D.answer s).map (·.1) = c.commandsAt key n ∧
      D.counter? key ((c.work key).run D.answer s).2 = some (c.applyTo n) := by
  have hsent : (c.work key).transcript D.answer s =
      ⟨_, (D.answer (.increase key c.delta) s).1⟩ ::
        (c.rest key (D.answer (.increase key c.delta) s).1).transcript D.answer
          (D.answer (.increase key c.delta) s).2 :=
    congrArg (·.transcript D.answer s) (c.work_eq key)
  have hrun : (c.work key).run D.answer s =
      (c.rest key (D.answer (.increase key c.delta) s).1).run D.answer
        (D.answer (.increase key c.delta) s).2 := congrArg (·.run D.answer s) (c.work_eq key)
  rw [hsent, hrun, List.map_cons, commandsAt, applyTo]
  by_cases hfits : FitsInt64 (n + c.delta)
  · obtain ⟨hanswer, hafter⟩ := D.increases hn hfits
    rw [if_pos hfits, hanswer, rest]
    -- The new value is what the counter was increased by exactly if it stood at zero.
    by_cases hzero : n = 0
    · rw [if_pos hzero, if_pos (by omega)]
      obtain ⟨hexpire, hlast⟩ := c.renewal_spec D key (n + c.delta)
        (D.answer (.increase key c.delta) s).2
      rw [hexpire, hlast]
      exact ⟨rfl, D.keeps hafter⟩
    · rw [if_neg hzero, if_neg (by omega)]
      exact ⟨rfl, hafter⟩
  · -- A counter at zero takes every increase that a word holds.
    have hzero : n ≠ 0 := by
      rintro rfl
      rw [Int.zero_add] at hfits
      exact hfits c.fits
    obtain ⟨⟨f, hanswer⟩, hafter⟩ := D.refuses hn hfits
    rw [if_neg hfits, if_neg hzero, hanswer]
    exact ⟨rfl, hafter⟩

end Increase

/-! ## Increases one after the other -/

/-- The value of a counter after some increases. -/
def Increase.total (n : Int) (calls : List Increase) : Int :=
  calls.foldl (fun n c => c.applyTo n) n

namespace CounterServer

variable {σ : Type} (D : CounterServer σ)

/-- The commands that each of some increases sends, made one after the other. -/
def sent (key : String) : List Increase → σ → List (List CacheCommand)
  | [], _ => []
  | c :: rest, s =>
    ((c.work key).transcript D.answer s).map (·.1) ::
      sent key rest ((c.work key).run D.answer s).2

/-- That the increase with a number sets the time to live of the counter. -/
def Renews (key : String) (calls : List Increase) (s : σ) (i : Nat) : Prop :=
  ∃ commands, (D.sent key calls s)[i]? = some commands ∧ ∃ ttl, .expire key ttl ∈ commands

variable {D} {key : String} {calls : List Increase} {s : σ} {n : Int}

/-- **A run of increases** sends what each of them sends to a counter with the value that those
before have left. -/
theorem sent_eq (hn : D.counter? key s = some n) (i : Nat) :
    (D.sent key calls s)[i]? =
      calls[i]?.map fun c => c.commandsAt key (Increase.total n (calls.take i)) := by
  induction calls generalizing s n i with
  | nil => rfl
  | cons c rest ih =>
    obtain ⟨hsent, hafter⟩ := c.step D hn
    cases i with
    | zero => exact congrArg some hsent
    | succ i => exact ih hafter i

theorem renews_iff (hn : D.counter? key s = some n) {i : Nat} (hi : i < calls.length) :
    D.Renews key calls s i ↔ Increase.total n (calls.take i) = 0 := by
  have hsome : (D.sent key calls s)[i]? =
      some (calls[i].commandsAt key (Increase.total n (calls.take i))) := by
    rw [sent_eq hn, List.getElem?_eq_getElem hi]
    rfl
  rw [Renews, hsome]
  by_cases hzero : Increase.total n (calls.take i) = 0 <;> simp [Increase.commandsAt, hzero]

/-- **When the time to live of a new counter is renewed.** Each increase is sent as such, and after
it the time to live if the counter stood at zero before, and so for the first one. No later one sets
it if and only if the counter does not stand at zero before any of them. -/
theorem expiry_renewed_iff (D : CounterServer σ) {key : String} {s : σ} (hnew : D.has key s = false)
    (calls : List Increase) :
    (∀ i : Nat, (D.sent key calls s)[i]? =
      calls[i]?.map fun c => c.commandsAt key (Increase.total 0 (calls.take i))) ∧
    ((∀ i < calls.length, D.Renews key calls s i ↔ i = 0) ↔
      ∀ i < calls.length, 0 < i → Increase.total 0 (calls.take i) ≠ 0) := by
  have hzero := D.counter?_new hnew
  refine ⟨sent_eq hzero, ⟨fun honce i hi hpos htotal => ?_, fun hnonzero i hi => ?_⟩⟩
  · have hfirst := (honce i hi).mp ((renews_iff hzero hi).mpr htotal)
    omega
  · rw [renews_iff hzero hi]
    constructor
    · intro htotal
      by_cases hpos : 0 < i
      · exact absurd htotal (hnonzero i hi hpos)
      · omega
    · rintro rfl
      rfl

end CounterServer

/-- A counter that is increased to five, taken back to zero and increased again. -/
def Increase.returning : List Increase :=
  [⟨5, 30, by decide, by decide⟩, ⟨-5, 30, by decide, by decide⟩, ⟨3, 30, by decide, by decide⟩]

/-- A counter that only grows. -/
def Increase.growing : List Increase :=
  [⟨2, 30, by decide, by decide⟩, ⟨3, 30, by decide, by decide⟩]

namespace CounterServer

/-- Among no keys, the time to live of the first is set by its third increase too, but not by its
second; that of the other by its first increase alone. -/
theorem expiry_renewed_iff_returning :
    Keyspace.server.has "n" [] = false ∧
    (Keyspace.server.sent "n" Increase.returning [])[1]? = some [.increase "n" (-5)] ∧
    (Keyspace.server.sent "n" Increase.returning [])[2]? =
      some [.increase "n" 3, .expire "n" 30] ∧
    ∀ i < Increase.growing.length, Keyspace.server.Renews "n" Increase.growing [] i ↔ i = 0 := by
  have hnew : Keyspace.server.has "n" [] = false := rfl
  obtain ⟨hsent, -⟩ := expiry_renewed_iff Keyspace.server hnew Increase.returning
  refine ⟨hnew, hsent 1, hsent 2, ?_⟩
  refine (expiry_renewed_iff Keyspace.server hnew Increase.growing).2.mpr fun i hi hpos => ?_
  obtain rfl : i = 1 := Nat.le_antisymm (Nat.le_of_lt_succ hi) hpos
  decide

/-- Not of every new counter the time to live is set by the first increase alone. -/
theorem expiry_pushed_back :
    ¬ ∀ (ks : Keyspace) (key : String) (calls : List Increase), Keyspace.server.has key ks = false →
      ∀ i < calls.length, Keyspace.server.Renews key calls ks i ↔ i = 0 := by
  intro honce
  have hthird : Keyspace.server.Renews "n" Increase.returning [] 2 :=
    ⟨[.increase "n" 3, .expire "n" 30], by decide +kernel, 30, by decide⟩
  have hfirst : (2 : Nat) = 0 := (honce [] "n" Increase.returning rfl 2 (by decide)).mp hthird
  exact absurd hfirst (by decide)

end CounterServer

end AlertRules
