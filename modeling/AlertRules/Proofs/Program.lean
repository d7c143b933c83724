import AlertRules.Program

/-!
# Programs one after the other

What a program does where its requests are answered from a state: its result, the state it leaves
(`run`), and what it has asked and been told on the way (`transcript`). Of a program that goes on
with the result of another both are put together from those of its parts.
-/

namespace AlertRules.Program

variable {Req : Type} {Ans : Req → Type} {α β γ σ : Type}

theorem andThen_assoc (p : Program Req Ans α) (f : α → Program Req Ans β)
    (g : β → Program Req Ans γ) :
    (p.andThen f).andThen g = p.andThen fun a => (f a).andThen g := by
  induction p with
  | done a => rfl
  | ask r rest ih =>
    show ask r _ = ask r _
    congr 1
    funext x
    exact ih x

theorem orFail_andThen {ε : Type} (p : Program Req Ans (Except ε α))
    (f : α → Program Req Ans (Except ε β)) (g : Except ε β → Program Req Ans γ) :
    (p.orFail f).andThen g = p.andThen fun
      | .ok a => (f a).andThen g
      | .error e => g (.error e) := by
  unfold orFail
  rw [andThen_assoc]
  congr 1
  funext x
  cases x <;> rfl

theorem run_andThen (answer : (r : Req) → σ → Ans r × σ) (p : Program Req Ans α)
    (f : α → Program Req Ans β) (s : σ) :
    (p.andThen f).run answer s = (f (p.run answer s).1).run answer (p.run answer s).2 := by
  induction p generalizing s with
  | done a => rfl
  | ask r rest ih => exact ih _ _

/-- What a program asks, in order, and what it is answered from a state. -/
def transcript (answer : (r : Req) → σ → Ans r × σ) :
    Program Req Ans α → σ → List ((r : Req) × Ans r)
  | done _, _ => []
  | ask r next, s =>
    ⟨r, (answer r s).1⟩ :: transcript answer (next (answer r s).1) (answer r s).2

theorem transcript_andThen (answer : (r : Req) → σ → Ans r × σ) (p : Program Req Ans α)
    (f : α → Program Req Ans β) (s : σ) :
    (p.andThen f).transcript answer s =
      p.transcript answer s ++ (f (p.run answer s).1).transcript answer (p.run answer s).2 := by
  induction p generalizing s with
  | done a => rfl
  | ask r rest ih => exact congrArg (List.cons _) (ih _ _)

end AlertRules.Program
