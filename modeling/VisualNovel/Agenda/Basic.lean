/-!
# Agendas

An agenda is a list of tasks for one worker. Taking up the first task changes the
state of things and may put further tasks in front of the rest, so that what a
task asks for is done before anything that was planned after it. A run takes at
most as many tasks as its budget allows. That the budget did not suffice is an
outcome of its own.
-/

set_option autoImplicit false

namespace VisualNovel.Agenda

variable {τ σ : Type}

/-- Does the tasks of an agenda and all that they lead to. No state means that the budget ran
out. -/
def run (step : τ → σ → σ × List τ) : Nat → List τ → σ → Option σ
  | _, [], state => some state
  | 0, _ :: _, _ => none
  | budget + 1, task :: rest, state =>
      run step budget ((step task state).2 ++ rest) (step task state).1

@[simp] theorem run_nil (step : τ → σ → σ × List τ) (budget : Nat) (state : σ) :
    run step budget [] state = some state := by
  cases budget <;> rfl

theorem run_cons (step : τ → σ → σ × List τ) (budget : Nat) (task : τ) (rest : List τ)
    (state : σ) :
    run step (budget + 1) (task :: rest) state =
      run step budget ((step task state).2 ++ rest) (step task state).1 := rfl

theorem run_mono {step : τ → σ → σ × List τ} {budget larger : Nat} {tasks : List τ}
    {state final : σ} (enough : budget ≤ larger)
    (finished : run step budget tasks state = some final) :
    run step larger tasks state = some final := by
  induction budget generalizing larger tasks state with
  | zero =>
      cases tasks with
      | nil => simpa using finished
      | cons task rest => simp [run] at finished
  | succ budget ih =>
      cases tasks with
      | nil => simpa using finished
      | cons task rest =>
          obtain ⟨larger, rfl⟩ : ∃ fewer, larger = fewer + 1 := ⟨larger - 1, by omega⟩
          rw [run_cons] at finished ⊢
          exact ih (by omega) finished

end VisualNovel.Agenda
