/-!
# Programs

A program says what is asked of the outside world, in which order, and what is done with the
answers. It is a tree: either it is done, or it asks something and goes on with the answer. Because
it is data, one program can be run against a store in memory, against a database, interleaved with
others, or be cut off after any of its requests.
-/

namespace AlertRules

/-- A program that makes requests of type `Req`, each with its type of answers, and yields an
`α`. -/
inductive Program (Req : Type) (Ans : Req → Type) (α : Type) : Type
  | done (a : α)
  | ask (r : Req) (next : Ans r → Program Req Ans α)

namespace Program

variable {Req : Type} {Ans : Req → Type} {α β : Type}

/-- Goes on with the result of a program. -/
def andThen : Program Req Ans α → (α → Program Req Ans β) → Program Req Ans β
  | done a, f => f a
  | ask r next, f => ask r fun a => andThen (next a) f

instance : Monad (Program Req Ans) where
  pure := done
  bind := andThen

/-- The program that makes one request and yields its answer. -/
def request (r : Req) : Program Req Ans (Ans r) := ask r done

/-- Goes on with the result of a program unless it failed. -/
def orFail {ε : Type} (p : Program Req Ans (Except ε α)) (next : α → Program Req Ans (Except ε β)) :
    Program Req Ans (Except ε β) :=
  p.andThen fun
    | .ok a => next a
    | .error e => done (.error e)

/-- Runs a program where each request is answered from a state, which it may change. -/
def run {σ : Type} (answer : (r : Req) → σ → Ans r × σ) : Program Req Ans α → σ → α × σ
  | done a, s => (a, s)
  | ask r next, s =>
    let (a, s) := answer r s
    run answer (next a) s

/-- Carries each request out by a program that makes requests of another type. -/
def translate {Req' : Type} {Ans' : Req' → Type}
    (carryOut : (r : Req) → Program Req' Ans' (Ans r)) : Program Req Ans α → Program Req' Ans' α
  | done a => done a
  | ask r next => (carryOut r).andThen fun a => translate carryOut (next a)

end Program

end AlertRules
