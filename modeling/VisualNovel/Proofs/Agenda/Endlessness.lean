import VisualNovel.Proofs.Agenda.Completion

/-!
# Agendas that need not come to an end

What is seen of a run with some budget is the beginning of what is seen with a larger
one. Tasks that come to an end show so much and no more; others may show one thing
over and over.
-/

set_option autoImplicit false

namespace VisualNovel.Agenda

variable {τ σ ω : Type} {look : τ → σ → List ω} {step : τ → σ → σ × List τ} {count budget : Nat}
  {tasks left : List τ} {state next final : σ}

/-- What becomes others in some steps goes on as those do. -/
theorem Steps.goesOn (steps : Steps step count tasks state left next) (look : τ → σ → List ω) :
    ∃ spent seen, ∀ budget,
      watch look step (spent + budget) tasks state = seen ++ watch look step budget left next ∧
        Agenda.run step (spent + budget) tasks state = Agenda.run step budget left next := by
  induction steps with
  | refl => exact ⟨0, [], fun budget => by simp⟩
  | @cons count task rest left state next _ hypothesis =>
      obtain ⟨spent, seen, goesOn⟩ := hypothesis
      refine ⟨spent + 1, look task state ++ seen, fun budget => ?_⟩
      obtain ⟨watched, ran⟩ := goesOn budget
      rw [Nat.add_right_comm]
      exact ⟨by rw [watch, watched, List.append_assoc], ran⟩

theorem steps_of_run (finished : run step budget tasks state = some final) :
    Steps step budget tasks state [] final := by
  induction budget generalizing tasks state with
  | zero =>
      cases tasks with
      | nil =>
          cases finished
          exact .refl
      | cons task rest => simp [run] at finished
  | succ budget hypothesis =>
      cases tasks with
      | nil =>
          cases finished
          exact .refl
      | cons task rest => exact .cons (hypothesis finished)

/-- A larger budget shows more of the same. -/
theorem watch_prefix (budget more : Nat) :
    watch look step budget tasks state <+: watch look step (budget + more) tasks state := by
  induction budget generalizing tasks state with
  | zero => cases tasks <;> simp [watch]
  | succ budget hypothesis =>
      cases tasks with
      | nil => simp [watch]
      | cons task rest =>
          rw [Nat.add_right_comm, watch, watch]
          exact List.prefix_append_right_inj _ |>.mpr hypothesis

private theorem watch_of_run (finished : run step budget tasks state = some final) (more : Nat) :
    watch look step (budget + more) tasks state = watch look step budget tasks state := by
  induction budget generalizing tasks state with
  | zero =>
      cases tasks with
      | nil => cases more <;> rfl
      | cons task rest => simp [run] at finished
  | succ budget hypothesis =>
      cases tasks with
      | nil => simp [watch]
      | cons task rest =>
          rw [Nat.add_right_comm, watch, watch, hypothesis finished]

/-- Whatever the budget, no more is seen than of what comes to an end. -/
theorem watch_prefix_of_run (finished : run step budget tasks state = some final) (other : Nat) :
    watch look step other tasks state <+: watch look step budget tasks state := by
  rcases Nat.le_total other budget with less | enough
  · obtain ⟨more, rfl⟩ := Nat.exists_eq_add_of_le less
    exact watch_prefix other more
  · obtain ⟨more, rfl⟩ := Nat.exists_eq_add_of_le enough
    exact watch_of_run finished more ▸ List.prefix_rfl

def Halts (step : τ → σ → σ × List τ) (tasks : List τ) (state : σ) : Prop :=
  ∃ budget final, run step budget tasks state = some final

def Recurs [BEq ω] (look : τ → σ → List ω) (step : τ → σ → σ × List τ) (sight : ω)
    (tasks : List τ) (state : σ) : Prop :=
  ∀ count, ∃ budget, count ≤ (watch look step budget tasks state).count sight

theorem Steps.halts_iff (steps : Steps step count tasks state left next) :
    Halts step tasks state ↔ Halts step left next := by
  obtain ⟨spent, _, goesOn⟩ := steps.goesOn fun _ _ => ([] : List Unit)
  constructor
  · rintro ⟨budget, final, finished⟩
    exact ⟨budget, final, (goesOn budget).2 ▸ run_mono (Nat.le_add_left _ _) finished⟩
  · rintro ⟨budget, final, finished⟩
    exact ⟨spent + budget, final, (goesOn budget).2.trans finished⟩

theorem Steps.recurs [BEq ω] {sight : ω} (steps : Steps step count tasks state left next)
    (recurs : Recurs look step sight left next) : Recurs look step sight tasks state := by
  intro many
  obtain ⟨budget, enough⟩ := recurs many
  obtain ⟨spent, seen, goesOn⟩ := steps.goesOn look
  refine ⟨spent + budget, ?_⟩
  rw [(goesOn budget).1, List.count_append]
  omega

/-- Of what comes to an end nothing is seen as often as one likes. -/
theorem Halts.count_le [BEq ω] (halts : Halts step tasks state) (look : τ → σ → List ω)
    (sight : ω) :
    ∃ most, ∀ budget, (watch look step budget tasks state).count sight ≤ most := by
  obtain ⟨enough, final, finished⟩ := halts
  exact ⟨_, fun budget => (watch_prefix_of_run finished budget).sublist.count_le sight⟩

/-- Tasks that lead to others of their kind again never come to an end. -/
theorem not_halts_of_returns (Again : List τ → σ → Prop)
    (returns : ∀ tasks state, Again tasks state → ∃ task rest, tasks = task :: rest ∧
      ∃ count left next, Steps step count ((step task state).2 ++ rest) (step task state).1
        left next ∧ Again left next)
    (again : Again tasks state) : ¬ Halts step tasks state := by
  rintro ⟨budget, final, finished⟩
  induction budget generalizing tasks state with
  | zero =>
      obtain ⟨task, rest, rfl, _⟩ := returns tasks state again
      simp [run] at finished
  | succ budget hypothesis =>
      obtain ⟨task, rest, rfl, _, left, next, steps, more⟩ := returns tasks state again
      obtain ⟨spent, _, goesOn⟩ := steps.goesOn fun _ _ => ([] : List Unit)
      rw [run_cons] at finished
      exact hypothesis more ((goesOn budget).2 ▸ run_mono (Nat.le_add_left _ _) finished)

end VisualNovel.Agenda
