import AlertRules.Database
import AlertRules.Proofs.Program

/-!
# Transactions

What a transaction has done counts once it is committed, and not at all if it is given up. So a
connection keeps the rows as they were before each transaction that is open on it
(`Connection.earlier`), to go back to; nothing else is assumed of the database (`DatabaseServer`),
which may fail on any call, and on a statement that it fails on may leave any rows.

A program may open transactions inside a transaction, as long as it has closed them all when it is
done (`Closes`). Then it leaves the transactions around it open as they were (`Closes.earlier_run`),
and what it has done is kept or given up with the one it runs in.

> `all_or_nothing`: a transaction keeps what its program has done if that succeeds and is committed,
> and in no other case leaves anything behind. Statements carried out in one take effect all
> together, once for each list of parameters and in order, or none of them does.
-/

namespace AlertRules

/-! ## Databases -/

/-- A database with rows of type `σ`. Its answers may depend on anything else (`ω`): on what has
been asked before, on the time, or on what has gone wrong. -/
structure DatabaseServer (ω σ : Type) where
  /-- What is answered to a statement, and the rows that it leaves. -/
  carryOut : Statement → ω → σ → Except BackendFault Reply × ω × σ
  start : ω → σ → Except BackendFault Unit × ω
  commit : ω → σ → Except BackendFault Unit × ω
  rollback : ω → σ → Except BackendFault Unit × ω

/-- A connection: the rows as it sees them, and as they were before each transaction that is open,
the innermost first. -/
structure Connection (ω σ : Type) where
  beyond : ω
  rows : σ
  earlier : List σ := []

namespace Connection

variable {ω σ : Type}

/-- That the rows are the same, and the same transactions are open. -/
structure Same (conn conn' : Connection ω σ) : Prop where
  rows : conn'.rows = conn.rows
  earlier : conn'.earlier = conn.earlier

/-- The connection with one more transaction open. -/
def opened (conn : Connection ω σ) : Connection ω σ :=
  { conn with earlier := conn.rows :: conn.earlier }

/-- The connection after the innermost transaction has been committed. -/
def committed (conn : Connection ω σ) : Connection ω σ := { conn with earlier := conn.earlier.tail }

/-- The connection after the innermost transaction has been given up. -/
def givenUp (conn : Connection ω σ) : Connection ω σ :=
  { conn with rows := conn.earlier.headD conn.rows, earlier := conn.earlier.tail }

end Connection

namespace DatabaseServer

variable {ω σ : Type} (D : DatabaseServer ω σ)

/-- Answers a call. A transaction that could not be started is not open, one that could not be
committed still is, and one that is rolled back is not, whatever the database says to that. -/
def answer : (c : DatabaseCall) → Connection ω σ → c.Answer × Connection ω σ
  | .carryOut s, conn =>
    let (x, w, rows) := D.carryOut s conn.beyond conn.rows
    (x, { conn with beyond := w, rows := rows })
  | .start, conn =>
    let (x, w) := D.start conn.beyond conn.rows
    let conn := { conn with beyond := w }
    (x, if x.isOk then conn.opened else conn)
  | .commit, conn =>
    let (x, w) := D.commit conn.beyond conn.rows
    let conn := { conn with beyond := w }
    (x, if x.isOk then conn.committed else conn)
  | .rollback, conn =>
    let (x, w) := D.rollback conn.beyond conn.rows
    (x, { conn with beyond := w }.givenUp)

/-- The connection after a statement has been carried out for each list of parameters, one after the
other. -/
def afterEach (sql : String) (parameters : List (List Cell)) (conn : Connection ω σ) :
    Connection ω σ :=
  parameters.foldl (fun conn ps => (D.answer (.carryOut ⟨sql, some ps⟩) conn).2) conn

variable {D} {conn conn' : Connection ω σ} {f : BackendFault}

theorem same_of_start (h : D.answer .start conn = (.error f, conn')) : conn.Same conn' := by
  unfold answer at h
  obtain ⟨hx, rfl⟩ := Prod.mk.inj h
  rw [hx]
  exact ⟨rfl, rfl⟩

theorem opened_of_start (h : D.answer .start conn = (.ok (), conn')) :
    conn'.rows = conn.rows ∧ conn'.earlier = conn.rows :: conn.earlier := by
  unfold answer at h
  obtain ⟨hx, rfl⟩ := Prod.mk.inj h
  rw [hx]
  exact ⟨rfl, rfl⟩

theorem same_of_commit (h : D.answer .commit conn = (.error f, conn')) : conn.Same conn' := by
  unfold answer at h
  obtain ⟨hx, rfl⟩ := Prod.mk.inj h
  rw [hx]
  exact ⟨rfl, rfl⟩

theorem committed_of_commit (h : D.answer .commit conn = (.ok (), conn')) :
    conn'.rows = conn.rows ∧ conn'.earlier = conn.earlier.tail := by
  unfold answer at h
  obtain ⟨hx, rfl⟩ := Prod.mk.inj h
  rw [hx]
  exact ⟨rfl, rfl⟩

/-- A transaction that is rolled back has not been. -/
theorem same_of_rollback {before : Connection ω σ}
    (h : conn.earlier = before.rows :: before.earlier) :
    before.Same (D.answer .rollback conn).2 := by
  constructor
  · show conn.earlier.headD conn.rows = _
    rw [h]
    rfl
  · show conn.earlier.tail = _
    rw [h]
    rfl

end DatabaseServer

namespace Session

variable {ω σ : Type} {D : DatabaseServer ω σ} {ε α β : Type}

/-! ## Transactions step by step -/

/-- What is left of a transaction once its commit has been answered. -/
def settled (ofFault : BackendFault → ε) (a : α) : Except BackendFault Unit → Session (Except ε α)
  | .error f => giveUp (ofFault f)
  | .ok () => .done (.ok a)

/-- What is left of a transaction once its program is done. -/
def concluded (ofFault : BackendFault → ε) : Except ε α → Session (Except ε α)
  | .error e => giveUp e
  | .ok a => .ask .commit (settled ofFault a)

/-- What is left of a transaction once its start has been answered. -/
def entered (ofFault : BackendFault → ε) (body : Session (Except ε α)) :
    Except BackendFault Unit → Session (Except ε α)
  | .error f => .done (.error (ofFault f))
  | .ok () => body.andThen (concluded ofFault)

theorem transaction_eq (ofFault : BackendFault → ε) (body : Session (Except ε α)) :
    transaction ofFault body = .ask .start (entered ofFault body) := rfl

/-- What is left of carrying out a statement for each list of parameters once the first has been
answered. -/
def onward (sql : String) (rest : List (List Cell)) :
    Except BackendFault Reply → Session (Except BackendFault Nat)
  | .error f => .done (.error f)
  | .ok reply =>
    (executeEach sql rest).andThen fun others => .done (others.map (reply.affected + ·))

theorem executeEach_cons (sql : String) (ps : List Cell) (rest : List (List Cell)) :
    executeEach sql (ps :: rest) = .ask (.carryOut ⟨sql, some ps⟩) (onward sql rest) := by
  show Program.ask (DatabaseCall.carryOut ⟨sql, some ps⟩) _ = _
  congr 1
  funext x
  cases x with
  | error f => rfl
  | ok reply =>
    show Program.andThen (executeEach sql rest) _ = Program.andThen (executeEach sql rest) _
    congr 1
    funext others
    cases others <;> rfl

/-! ## Transactions inside transactions -/

/-- That a program, begun with so many transactions of its own open, has closed them all when it is
done. -/
def Closes : (own : Nat) → Session α → Prop
  | own, .done _ => own = 0
  | own, .ask (.carryOut _) next => ∀ x, Closes own (next x)
  | own, .ask .start next => Closes (own + 1) (next (.ok ())) ∧ ∀ f, Closes own (next (.error f))
  | own, .ask .commit next =>
    ∃ others, own = others + 1 ∧ Closes others (next (.ok ())) ∧ ∀ f, Closes own (next (.error f))
  | own, .ask .rollback next => ∃ others, own = others + 1 ∧ ∀ x, Closes others (next x)

/-- **The transactions around a program** that closes its own are open as before when it is done. -/
theorem Closes.earlier_run : ∀ {own : Nat} {p : Session α} {conn : Connection ω σ} (inner : List σ)
    {outer : List σ}, Closes own p → conn.earlier = inner ++ outer → inner.length = own →
      (p.run D.answer conn).2.earlier = outer
  | own, .done a, conn, inner, outer, hp, hconn, hown => by
    obtain rfl : own = 0 := hp
    obtain rfl : inner = [] := List.eq_nil_of_length_eq_zero hown
    exact hconn
  | own, .ask (.carryOut s) next, conn, inner, outer, hp, hconn, hown => by
    have hearlier : (D.answer (.carryOut s) conn).2.earlier = inner ++ outer := hconn
    show ((next _).run D.answer _).2.earlier = outer
    exact Closes.earlier_run inner (hp (D.answer (.carryOut s) conn).1) hearlier hown
  | own, .ask .start next, conn, inner, outer, hp, hconn, hown => by
    rw [Program.run]
    cases hstart : D.answer .start conn with
    | mk x conn₁ =>
      cases x with
      | error f =>
        have hsame := DatabaseServer.same_of_start hstart
        exact Closes.earlier_run inner (hp.2 f) (hsame.earlier.trans hconn) hown
      | ok =>
        obtain ⟨-, hearlier⟩ := DatabaseServer.opened_of_start hstart
        rw [hconn] at hearlier
        exact Closes.earlier_run (conn.rows :: inner) hp.1 hearlier (congrArg (· + 1) hown)
  | own, .ask .commit next, conn, inner, outer, hp, hconn, hown => by
    obtain ⟨others, rfl, hok, herror⟩ := hp
    obtain ⟨rows, rest, rfl⟩ := List.exists_cons_of_length_eq_add_one hown
    rw [Program.run]
    cases hcommit : D.answer .commit conn with
    | mk x conn₁ =>
      cases x with
      | error f =>
        have hsame := DatabaseServer.same_of_commit hcommit
        exact Closes.earlier_run (rows :: rest) (herror f) (hsame.earlier.trans hconn) hown
      | ok =>
        obtain ⟨-, hearlier⟩ := DatabaseServer.committed_of_commit hcommit
        rw [hconn] at hearlier
        exact Closes.earlier_run rest hok hearlier (Nat.succ.inj hown)
  | own, .ask .rollback next, conn, inner, outer, hp, hconn, hown => by
    obtain ⟨others, rfl, hnext⟩ := hp
    obtain ⟨rows, rest, rfl⟩ := List.exists_cons_of_length_eq_add_one hown
    have hearlier : (D.answer .rollback conn).2.earlier = rest ++ outer := by
      show conn.earlier.tail = _
      rw [hconn]
      rfl
    show ((next _).run D.answer _).2.earlier = outer
    exact Closes.earlier_run rest (hnext (D.answer .rollback conn).1) hearlier (Nat.succ.inj hown)

/-- A program leaves alone the transactions around it, for the rest to close. -/
theorem Closes.andThen {more : Nat} : ∀ {own : Nat} {p : Session α} {f : α → Session β},
    Closes own p → (∀ a, Closes more (f a)) → Closes (own + more) (p.andThen f)
  | own, .done a, f, hp, hf => by
    obtain rfl : own = 0 := hp
    rw [Nat.zero_add]
    exact hf a
  | own, .ask (.carryOut s) next, f, hp, hf => fun x => (hp x).andThen hf
  | own, .ask .start next, f, hp, hf => by
    refine ⟨?_, fun e => (hp.2 e).andThen hf⟩
    rw [Nat.add_right_comm]
    exact hp.1.andThen hf
  | own, .ask .commit next, f, hp, hf => by
    obtain ⟨others, rfl, hok, herror⟩ := hp
    exact ⟨others + more, Nat.add_right_comm .., hok.andThen hf, fun e => (herror e).andThen hf⟩
  | own, .ask .rollback next, f, hp, hf => by
    obtain ⟨others, rfl, hnext⟩ := hp
    exact ⟨others + more, Nat.add_right_comm .., fun x => (hnext x).andThen hf⟩

theorem closes_giveUp (e : ε) : Closes 1 (giveUp e : Session (Except ε α)) :=
  ⟨0, rfl, fun _ => rfl⟩

/-- A transaction is closed when it is done, if its program closes its own. -/
theorem Closes.transaction (ofFault : BackendFault → ε) {body : Session (Except ε α)}
    (h : Closes 0 body) : Closes 0 (transaction ofFault body) := by
  have hsettled : ∀ a f, Closes 1 (settled (α := α) ofFault a (.error f)) :=
    fun _ _ => closes_giveUp _
  have hconcluded : ∀ r, Closes 1 (concluded (α := α) ofFault r) := by
    intro r
    cases r with
    | error e => exact closes_giveUp e
    | ok a => exact ⟨0, rfl, rfl, hsettled a⟩
  rw [transaction_eq]
  exact ⟨h.andThen hconcluded, fun _ => rfl⟩

theorem closes_executeEach (sql : String) (parameters : List (List Cell)) :
    Closes 0 (executeEach sql parameters) := by
  induction parameters with
  | nil => rfl
  | cons ps rest ih =>
    rw [executeEach_cons]
    intro x
    cases x with
    | error f => rfl
    | ok reply =>
      show Closes (0 + 0) (Program.andThen _ _)
      exact ih.andThen fun _ => rfl

/-! ## Statements one after the other -/

/-- What is asked and answered while a statement is carried out for lists of parameters and does not
fail. -/
def granted (sql : String) (done : List (List Cell × Reply)) :
    List ((c : DatabaseCall) × c.Answer) :=
  done.map fun (ps, reply) => ⟨.carryOut ⟨sql, some ps⟩, .ok reply⟩

/-- How many rows were affected in all. -/
def affected : List (List Cell × Reply) → Nat
  | [] => 0
  | (_, reply) :: rest => reply.affected + affected rest

/-- What may be asked and answered on the way to a failure of `executeMany`: the start of the
transaction fails, or the statement for one list of parameters, after which no other is carried out,
or the commit. -/
inductive Broken (sql : String) (parameters : List (List Cell)) (f : BackendFault) :
    List ((c : DatabaseCall) × c.Answer) → Prop
  | start : Broken sql parameters f [⟨.start, .error f⟩]
  | row (done : List (List Cell × Reply)) (ps : List Cell) (rest : List (List Cell))
      (x : Except BackendFault Unit) :
      parameters = done.map (·.1) ++ ps :: rest →
        Broken sql parameters f (⟨.start, .ok ()⟩ ::
          granted sql done ++ [⟨.carryOut ⟨sql, some ps⟩, .error f⟩, ⟨.rollback, x⟩])
  | commit (done : List (List Cell × Reply)) (x : Except BackendFault Unit) :
      parameters = done.map (·.1) →
        Broken sql parameters f (⟨.start, .ok ()⟩ ::
          granted sql done ++ [⟨.commit, .error f⟩, ⟨.rollback, x⟩])

/-- Either each statement is carried out, or one fails and is the last. -/
theorem run_executeEach (sql : String) (parameters : List (List Cell)) (conn : Connection ω σ) :
    (∃ done, parameters = done.map (·.1) ∧
      (executeEach sql parameters).transcript D.answer conn = granted sql done ∧
      (executeEach sql parameters).run D.answer conn =
        (.ok (affected done), D.afterEach sql parameters conn)) ∨
    ∃ done ps rest f conn', parameters = done.map (·.1) ++ ps :: rest ∧
      (executeEach sql parameters).transcript D.answer conn =
        granted sql done ++ [⟨.carryOut ⟨sql, some ps⟩, .error f⟩] ∧
      (executeEach sql parameters).run D.answer conn = (.error f, conn') := by
  induction parameters generalizing conn with
  | nil => exact .inl ⟨[], rfl, rfl, rfl⟩
  | cons ps rest ih =>
    rw [executeEach_cons, Program.run, Program.transcript]
    cases hfirst : D.answer (.carryOut ⟨sql, some ps⟩) conn with
    | mk x conn₁ =>
      cases x with
      | error f => exact .inr ⟨[], ps, rest, f, conn₁, rfl, rfl, rfl⟩
      | ok reply =>
        have hafter : D.afterEach sql (ps :: rest) conn = D.afterEach sql rest conn₁ := by
          show D.afterEach sql rest (D.answer _ conn).2 = _
          rw [hfirst]
        show (∃ done, _ ∧ _ :: (onward sql rest (.ok reply)).transcript D.answer conn₁ = _ ∧
            (onward sql rest (.ok reply)).run D.answer conn₁ = _) ∨
          ∃ done ps' rest' f conn', _ ∧
            _ :: (onward sql rest (.ok reply)).transcript D.answer conn₁ = _ ∧
            (onward sql rest (.ok reply)).run D.answer conn₁ = _
        simp only [onward, Program.run_andThen, Program.transcript_andThen, hafter]
        obtain ⟨done, hdone, hlog, hrun⟩ | ⟨done, ps', rest', f, conn', hdone, hlog, hrun⟩ :=
          ih conn₁
        · refine .inl ⟨(ps, reply) :: done, ?_, ?_, ?_⟩
          · rw [hdone]
            rfl
          · rw [hlog]
            exact congrArg (List.cons _) (List.append_nil _)
          · rw [hrun]
            rfl
        · refine .inr ⟨(ps, reply) :: done, ps', rest', f, conn', ?_, ?_, ?_⟩
          · rw [hdone]
            rfl
          · rw [hlog]
            exact congrArg (List.cons _) (List.append_nil _)
          · rw [hrun]
            rfl

/-! ## All or nothing -/

variable {conn conn₁ conn₂ conn₃ : Connection ω σ} {body : Session (Except ε α)}
variable (ofFault : BackendFault → ε)

/-- Giving up a transaction leaves the connection as it was before. -/
theorem run_giveUp {before : Connection ω σ} (h : conn.earlier = before.rows :: before.earlier)
    (e : ε) :
    ∃ conn', (giveUp e : Session (Except ε α)).run D.answer conn = (.error e, conn') ∧
      before.Same conn' :=
  ⟨(D.answer .rollback conn).2, rfl, DatabaseServer.same_of_rollback h⟩

theorem run_transaction_not_started (body : Session (Except ε α)) {f : BackendFault}
    (hstart : D.answer .start conn = (.error f, conn₁)) :
    ∃ conn', (transaction ofFault body).run D.answer conn = (.error (ofFault f), conn') ∧
      conn.Same conn' := by
  refine ⟨conn₁, ?_, DatabaseServer.same_of_start hstart⟩
  rw [transaction_eq, Program.run, hstart]
  rfl

theorem run_transaction_started {r : Except ε α} (hstart : D.answer .start conn = (.ok (), conn₁))
    (hrun : body.run D.answer conn₁ = (r, conn₂)) :
    (transaction ofFault body).run D.answer conn = (concluded ofFault r).run D.answer conn₂ := by
  rw [transaction_eq, Program.run, hstart]
  show (body.andThen (concluded ofFault)).run D.answer conn₁ = _
  rw [Program.run_andThen, hrun]

/-- When its program is done, a transaction is still open, and has the rows from before it to go
back to. -/
theorem Closes.earlier_of_started (hbody : Closes 0 body) {r : Except ε α}
    (hstart : D.answer .start conn = (.ok (), conn₁))
    (hrun : body.run D.answer conn₁ = (r, conn₂)) : conn₂.earlier = conn.rows :: conn.earlier := by
  obtain ⟨-, hearlier⟩ := DatabaseServer.opened_of_start hstart
  have h : (body.run D.answer conn₁).2.earlier = conn.rows :: conn.earlier :=
    hbody.earlier_run [] hearlier rfl
  rwa [hrun] at h

theorem run_transaction_failed (hbody : Closes 0 body) {e : ε}
    (hstart : D.answer .start conn = (.ok (), conn₁))
    (hrun : body.run D.answer conn₁ = (.error e, conn₂)) :
    ∃ conn', (transaction ofFault body).run D.answer conn = (.error e, conn') ∧
      conn.Same conn' := by
  rw [run_transaction_started ofFault hstart hrun]
  exact run_giveUp (hbody.earlier_of_started hstart hrun) e

theorem run_transaction_not_committed (hbody : Closes 0 body) {a : α} {f : BackendFault}
    (hstart : D.answer .start conn = (.ok (), conn₁))
    (hrun : body.run D.answer conn₁ = (.ok a, conn₂))
    (hcommit : D.answer .commit conn₂ = (.error f, conn₃)) :
    ∃ conn', (transaction ofFault body).run D.answer conn = (.error (ofFault f), conn') ∧
      conn.Same conn' := by
  rw [run_transaction_started ofFault hstart hrun, concluded, Program.run, hcommit]
  have hsame := DatabaseServer.same_of_commit hcommit
  exact run_giveUp (hsame.earlier.trans (hbody.earlier_of_started hstart hrun)) (ofFault f)

theorem run_transaction_committed (hbody : Closes 0 body) {a : α}
    (hstart : D.answer .start conn = (.ok (), conn₁))
    (hrun : body.run D.answer conn₁ = (.ok a, conn₂))
    (hcommit : D.answer .commit conn₂ = (.ok (), conn₃)) :
    ∃ conn', (transaction ofFault body).run D.answer conn = (.ok a, conn') ∧
      conn'.rows = conn₂.rows ∧ conn'.earlier = conn.earlier := by
  rw [run_transaction_started ofFault hstart hrun, concluded, Program.run, hcommit]
  obtain ⟨hrows, hearlier⟩ := DatabaseServer.committed_of_commit hcommit
  rw [hbody.earlier_of_started hstart hrun] at hearlier
  exact ⟨conn₃, rfl, hrows, hearlier⟩

/-- **Statements for each list of parameters** are carried out all together, each once and in order,
or the connection is left as it was. -/
theorem run_executeMany (D : DatabaseServer ω σ) (sql : String) (parameters : List (List Cell))
    (conn : Connection ω σ) :
    (∃ done conn', parameters = done.map (·.1) ∧
      (executeMany sql parameters).transcript D.answer conn =
        ⟨.start, .ok ()⟩ :: granted sql done ++ [⟨.commit, .ok ()⟩] ∧
      (executeMany sql parameters).run D.answer conn = (.ok (affected done), conn') ∧
      conn'.rows = (D.afterEach sql parameters (D.answer .start conn).2).rows ∧
      conn'.earlier = conn.earlier) ∨
    ∃ f conn', Broken sql parameters f ((executeMany sql parameters).transcript D.answer conn) ∧
      (executeMany sql parameters).run D.answer conn = (.error f, conn') ∧ conn.Same conn' := by
  have hcloses := closes_executeEach sql parameters
  unfold executeMany
  have hlog : ((transaction id (executeEach sql parameters)).transcript D.answer conn) =
      ⟨.start, (D.answer .start conn).1⟩ :: (entered id (executeEach sql parameters)
        (D.answer .start conn).1).transcript D.answer (D.answer .start conn).2 := rfl
  cases hstart : D.answer .start conn with
  | mk x conn₁ =>
    rw [hstart] at hlog
    cases x with
    | error f =>
      obtain ⟨conn', hrun, hsame⟩ :=
        run_transaction_not_started id (executeEach sql parameters) hstart
      refine .inr ⟨f, conn', ?_, hrun, hsame⟩
      rw [hlog]
      exact .start
    | ok =>
      change _ =
        _ :: ((executeEach sql parameters).andThen (concluded id)).transcript D.answer conn₁ at hlog
      rw [Program.transcript_andThen] at hlog
      obtain ⟨done, hdone, heach, hbody⟩ | ⟨done, ps, rest, f, conn₂, hdone, heach, hbody⟩ :=
        run_executeEach (D := D) sql parameters conn₁
      · rw [heach, hbody] at hlog
        cases hcommit : D.answer .commit (D.afterEach sql parameters conn₁) with
        | mk y conn₃ =>
          simp only [concluded, Program.transcript, hcommit] at hlog
          cases y with
          | error f =>
            obtain ⟨conn', hrun, hsame⟩ :=
              run_transaction_not_committed id hcloses hstart hbody hcommit
            refine .inr ⟨f, conn', ?_, hrun, hsame⟩
            rw [hlog]
            exact .commit done _ hdone
          | ok =>
            obtain ⟨conn', hrun, hrows, hearlier⟩ :=
              run_transaction_committed id hcloses hstart hbody hcommit
            exact .inl ⟨done, conn', hdone, hlog, hrun, hrows, hearlier⟩
      · obtain ⟨conn', hrun, hsame⟩ := run_transaction_failed id hcloses hstart hbody
        refine .inr ⟨f, conn', ?_, hrun, hsame⟩
        rw [hlog, heach, hbody, List.append_assoc]
        exact .row done ps rest _ hdone

/-- **All or nothing**, whatever fails. A statement is carried out for each list of parameters, once
and in order, and all of that is kept and counted; or there is an error, nothing is asked after the
call that failed but to roll back, and the connection is as it was. A transaction keeps what its
program has done, and yields its result, if the program succeeds and the commit does; if the program
fails, the transaction fails with that very error; and where it fails, with whatever answer to the
rollback, the connection is as it was. -/
theorem all_or_nothing (D : DatabaseServer ω σ) (conn : Connection ω σ) :
    (∀ sql parameters,
      (∃ done conn', parameters = done.map (·.1) ∧
        (executeMany sql parameters).transcript D.answer conn =
          ⟨.start, .ok ()⟩ :: granted sql done ++ [⟨.commit, .ok ()⟩] ∧
        (executeMany sql parameters).run D.answer conn = (.ok (affected done), conn') ∧
        conn'.rows = (D.afterEach sql parameters (D.answer .start conn).2).rows ∧
        conn'.earlier = conn.earlier) ∨
      ∃ f conn', Broken sql parameters f ((executeMany sql parameters).transcript D.answer conn) ∧
        (executeMany sql parameters).run D.answer conn = (.error f, conn') ∧ conn.Same conn') ∧
    ∀ {ε α : Type} (ofFault : BackendFault → ε) (body : Session (Except ε α)), Closes 0 body →
      match D.answer .start conn with
      | (.error f, _) =>
        ∃ conn', (transaction ofFault body).run D.answer conn = (.error (ofFault f), conn') ∧
          conn.Same conn'
      | (.ok (), conn₁) => conn₁.rows = conn.rows ∧
        match body.run D.answer conn₁ with
        | (.error e, _) =>
          ∃ conn', (transaction ofFault body).run D.answer conn = (.error e, conn') ∧
            conn.Same conn'
        | (.ok a, conn₂) =>
          match D.answer .commit conn₂ with
          | (.error f, _) =>
            ∃ conn', (transaction ofFault body).run D.answer conn = (.error (ofFault f), conn') ∧
              conn.Same conn'
          | (.ok (), _) =>
            ∃ conn', (transaction ofFault body).run D.answer conn = (.ok a, conn') ∧
              conn'.rows = conn₂.rows ∧ conn'.earlier = conn.earlier := by
  refine ⟨fun sql parameters => run_executeMany D sql parameters conn, fun ofFault body hbody => ?_⟩
  cases hstart : D.answer .start conn with
  | mk x conn₁ =>
    cases x with
    | error f => exact run_transaction_not_started ofFault body hstart
    | ok =>
      refine ⟨(DatabaseServer.opened_of_start hstart).1, ?_⟩
      cases hrun : body.run D.answer conn₁ with
      | mk r conn₂ =>
        cases r with
        | error e => exact run_transaction_failed ofFault hbody hstart hrun
        | ok a =>
          dsimp only
          cases hcommit : D.answer .commit conn₂ with
          | mk y conn₃ =>
            cases y with
            | error f => exact run_transaction_not_committed ofFault hbody hstart hrun hcommit
            | ok => exact run_transaction_committed ofFault hbody hstart hrun hcommit

/-- A table of numbers in which none may stand twice. It answers every rollback with a fault. -/
def numbers : DatabaseServer Unit (List Int) where
  carryOut s _ rows := match s.parameters with
    | some [.int n] => if n ∈ rows then (.error (.database "duplicate key"), (), rows)
      else (.ok { affected := 1 }, (), rows ++ [n])
    | _ => (.ok {}, (), rows)
  start _ _ := (.ok (), ())
  commit _ _ := (.ok (), ())
  rollback _ _ := (.error (.database "connection lost"), ())

/-- A program that puts two numbers into a table, in a transaction of its own, and then fails. -/
def aborted : Session (Except String Nat) :=
  (executeMany "INSERT INTO numbers VALUES ($1)" [[.int 5], [.int 6]]).andThen fun _ =>
    .done (.error "no more")

/-- Of three numbers of which the second is there already none is put into the table, two others are
put into it, and a transaction that puts two into it and then fails leaves none of them. -/
theorem all_or_nothing_numbers :
    (∃ f conn',
      (executeMany "INSERT INTO numbers VALUES ($1)" [[.int 2], [.int 1], [.int 3]]).run
        numbers.answer ⟨(), [1], []⟩ = (.error f, conn') ∧ conn'.rows = [1]) ∧
    (∃ conn',
      (executeMany "INSERT INTO numbers VALUES ($1)" [[.int 2], [.int 3]]).run
        numbers.answer ⟨(), [1], []⟩ = (.ok 2, conn') ∧ conn'.rows = [1, 2, 3]) ∧
    Closes 0 aborted ∧
    ∃ conn', (transaction BackendFault.message aborted).run numbers.answer ⟨(), [1], []⟩ =
      (.error "no more", conn') ∧ conn'.rows = [1] := by
  obtain ⟨hmany, htransaction⟩ := all_or_nothing numbers ⟨(), [1], []⟩
  have hcloses : Closes (0 + 0) aborted :=
    ((closes_executeEach _ _).transaction id).andThen fun _ => rfl
  refine ⟨?_, ?_, hcloses, ?_⟩
  · obtain ⟨done, conn', -, -, hrun, -⟩ | ⟨f, conn', -, hrun, hsame⟩ :=
      hmany "INSERT INTO numbers VALUES ($1)" [[.int 2], [.int 1], [.int 3]]
    · cases hrun
    · exact ⟨f, conn', hrun, hsame.rows⟩
  · obtain ⟨done, conn', -, -, hrun, hrows, -⟩ | ⟨f, conn', -, hrun, -⟩ :=
      hmany "INSERT INTO numbers VALUES ($1)" [[.int 2], [.int 3]]
    · have haffected : affected done = 2 := (Except.ok.inj (congrArg Prod.fst hrun)).symm
      rw [haffected] at hrun
      exact ⟨conn', hrun, hrows⟩
    · cases hrun
  · obtain ⟨-, conn', hrun, hsame⟩ := htransaction BackendFault.message aborted hcloses
    exact ⟨conn', hrun, hsame.rows⟩

end Session

end AlertRules
