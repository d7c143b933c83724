import AlertRules.Fault
import AlertRules.Program
import AlertRules.Timestamp
import AlertRules.Uuid

/-!
# The database

A session asks a database to carry out statements, one by one or in a transaction. What the
statements of a transaction did counts only once the database has committed it.

`Session.executeMany` and `Session.transaction` leave no transaction open: each that was started is
either committed, or it is rolled back and the fault that ended it is the answer.
-/

namespace AlertRules

/-- A value in a column of a row or in a parameter of a statement. -/
inductive Cell
  | uuid (id : Uuid)
  | uuids (ids : List Uuid)
  | text (s : String)
  | bool (b : Bool)
  | int (n : Int)
  /-- The text of a JSON value. -/
  | json (text : String)
  | instant (t : Timestamp)
deriving DecidableEq

/-- A row: its cells in the order of the columns that were asked for. -/
abbrev Row := List Cell

/-- A statement. One that is prepared goes along with its parameters, of which there may be none. -/
structure Statement where
  sql : String
  parameters : Option (List Cell)
deriving DecidableEq

/-- What a database answers to a statement that it carried out. -/
structure Reply where
  rows : List Row := []
  affected : Nat := 0
deriving DecidableEq

/-- What a database can be asked. -/
inductive DatabaseCall
  | carryOut (s : Statement)
  /-- To start a transaction. -/
  | start
  | commit
  | rollback
deriving DecidableEq

/-- What a database answers. -/
abbrev DatabaseCall.Answer : DatabaseCall → Type
  | carryOut _ => Except BackendFault Reply
  | start | commit | rollback => Except BackendFault Unit

/-- The answer of a database that fails on a call. -/
def DatabaseCall.refusal (f : BackendFault) : (c : DatabaseCall) → c.Answer
  | carryOut _ => .error f
  | start | commit | rollback => .error f

/-- A program that asks a database and yields an `α`. -/
abbrev Session (α : Type) := Program DatabaseCall DatabaseCall.Answer α

namespace Session

/-- Asks for a statement. -/
def carryOut (s : Statement) : Session (Except BackendFault Reply) := .ask (.carryOut s) .done

/-- Asks for a prepared statement. -/
def query (sql : String) (parameters : List Cell) : Session (Except BackendFault Reply) :=
  carryOut ⟨sql, some parameters⟩

/-- Asks whether the database answers at all. -/
def probe : Session (Except BackendFault Unit) :=
  (query "SELECT 1" []).orFail fun _ => return .ok ()

/-- Carries out a statement as it stands, and yields the number of rows it affected. -/
def execute (sql : String) : Session (Except BackendFault Nat) :=
  (carryOut ⟨sql, none⟩).orFail fun reply => return .ok reply.affected

/-- Gives a transaction up. Whether the database takes note does not matter: what is not committed
does not count. -/
def giveUp {ε α : Type} (e : ε) : Session (Except ε α) := do
  let _ ← Program.request DatabaseCall.rollback
  return .error e

/-- Runs a program in a transaction, which is committed if the program does not fail. A fault of the
database is told as `ofFault` says. -/
def transaction {ε α : Type} (ofFault : BackendFault → ε) (body : Session (Except ε α)) :
    Session (Except ε α) := do
  match ← Program.request DatabaseCall.start with
  | .error f => return .error (ofFault f)
  | .ok () =>
    match ← body with
    | .error e => giveUp e
    | .ok a =>
      match ← Program.request DatabaseCall.commit with
      | .error f => giveUp (ofFault f)
      | .ok () => return .ok a

/-- Carries out a statement once for each list of parameters, and yields how many rows were affected
in all; it stops at the first failure. -/
def executeEach (sql : String) : List (List Cell) → Session (Except BackendFault Nat)
  | [] => return .ok 0
  | parameters :: rest =>
    (query sql parameters).orFail fun reply =>
      (executeEach sql rest).orFail fun others => return .ok (reply.affected + others)

/-- Carries out a statement once for each list of parameters, all or none of them. -/
def executeMany (sql : String) (parameters : List (List Cell)) :
    Session (Except BackendFault Nat) :=
  transaction id (executeEach sql parameters)

end Session

end AlertRules
