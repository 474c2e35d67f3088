import VisualNovel.Agenda.Basic
import VisualNovel.Agenda.Script

/-!
# Agendas that come to an end

A run of an agenda, told without its budget: which tasks come to an end in which
state, and what an observer who looks at every task sees on the way. Runs can be
put one after another, and each has one outcome only.
-/

set_option autoImplicit false

namespace VisualNovel.Agenda

variable {τ σ ω : Type}

def watch (look : τ → σ → List ω) (step : τ → σ → σ × List τ) : Nat → List τ → σ → List ω
  | _, [], _ => []
  | 0, _ :: _, _ => []
  | budget + 1, task :: rest, state =>
      look task state ++ watch look step budget ((step task state).2 ++ rest) (step task state).1

/-- A sight is the one that is seen last, or was seen before it. -/
theorem first_of_concat {seen earlier : List ω} {sight last : ω}
    (first : earlier ++ [sight] <+: seen ++ [last]) :
    earlier = seen ∧ sight = last ∨ earlier ++ [sight] <+: seen := by
  rcases List.prefix_concat_iff.mp first with whole | first
  · exact .inl (List.append_singleton_inj.mp whole)
  · exact .inr first

/-- Tasks come to an end in a state, with what is seen on the way. -/
inductive Completes (look : τ → σ → List ω) (step : τ → σ → σ × List τ) :
    List τ → σ → List ω → σ → Prop where
  | nil {state : σ} : Completes look step [] state [] state
  | cons {task : τ} {rest : List τ} {state final : σ} {seen : List ω} :
      Completes look step ((step task state).2 ++ rest) (step task state).1 seen final →
      Completes look step (task :: rest) state (look task state ++ seen) final

variable {look : τ → σ → List ω} {step : τ → σ → σ × List τ} {tasks more : List τ}
  {state middle final : σ} {seen later : List ω}

/-- Tasks come to an end just where a run of them ends within some budget. -/
theorem completes_iff :
    Completes look step tasks state seen final ↔
      ∃ budget, run step budget tasks state = some final ∧
        watch look step budget tasks state = seen := by
  constructor
  · intro completes
    induction completes with
    | nil => exact ⟨0, rfl, rfl⟩
    | cons _ ih =>
        obtain ⟨budget, finished, watched⟩ := ih
        exact ⟨budget + 1, finished, by rw [watch, watched]⟩
  · rintro ⟨budget, finished, watched⟩
    induction budget generalizing tasks state seen with
    | zero =>
        cases tasks with
        | nil =>
            simp only [run_nil, Option.some.injEq] at finished
            rw [← watched, finished]
            exact .nil
        | cons task rest => simp [run] at finished
    | succ budget ih =>
        cases tasks with
        | nil =>
            simp only [run_nil, Option.some.injEq] at finished
            rw [← watched, finished]
            exact .nil
        | cons task rest =>
            rw [run_cons] at finished
            rw [← watched, watch]
            exact .cons (ih finished rfl)

/-- What is given of the state in which tasks come to an end. -/
theorem completes_given_iff {α : Type} {read : σ → α} {given : α} :
    (∃ budget, (run step budget tasks state).map (fun last => (read last, last)) =
        some (given, final) ∧ watch look step budget tasks state = seen) ↔
      Completes look step tasks state seen final ∧ read final = given := by
  rw [completes_iff]
  constructor
  · rintro ⟨budget, performed, watched⟩
    obtain ⟨last, finished, same⟩ := Option.map_eq_some_iff.mp performed
    obtain ⟨rfl, rfl⟩ := Prod.mk.inj same
    exact ⟨⟨budget, finished, watched⟩, rfl⟩
  · rintro ⟨⟨budget, finished, watched⟩, rfl⟩
    exact ⟨budget, by rw [finished]; rfl, watched⟩

theorem Completes.of_step {task : τ} {next : σ} {made : List τ}
    (done : step task state = (next, made))
    (rest : Completes look step (made ++ more) next seen final) :
    Completes look step (task :: more) state (look task state ++ seen) final := by
  apply Completes.cons
  rw [done]
  exact rest

theorem Completes.uncons {task : τ} {next : σ} {made : List τ}
    (completes : Completes look step (task :: more) state seen final)
    (done : step task state = (next, made)) :
    ∃ rest, seen = look task state ++ rest ∧ Completes look step (made ++ more) next rest final := by
  cases completes with
  | cons rest =>
      rw [done] at rest
      exact ⟨_, rfl, rest⟩

theorem Completes.append (first : Completes look step tasks state seen middle)
    (second : Completes look step more middle later final) :
    Completes look step (tasks ++ more) state (seen ++ later) final := by
  induction first with
  | nil => simpa using second
  | cons _ ih =>
      have rest := ih second
      rw [List.append_assoc] at rest
      rw [List.append_assoc]
      exact .cons rest

theorem Completes.unique {other : σ} {otherwise : List ω}
    (first : Completes look step tasks state seen final)
    (second : Completes look step tasks state otherwise other) :
    seen = otherwise ∧ final = other := by
  induction first generalizing otherwise other with
  | nil =>
      cases second with
      | nil => exact ⟨rfl, rfl⟩
  | cons _ ih =>
      cases second with
      | cons second =>
          obtain ⟨same, sameState⟩ := ih second
          exact ⟨by rw [same], sameState⟩

/-- A run of tasks that have others after them does them first, and the others with what is left of
the budget. -/
theorem run_append (look : τ → σ → List ω) {budget : Nat}
    (finished : run step budget (tasks ++ more) state = some final) :
    ∃ spent left middle, spent + left = budget ∧ run step spent tasks state = some middle ∧
      run step left more middle = some final ∧
      watch look step budget (tasks ++ more) state =
        watch look step spent tasks state ++ watch look step left more middle := by
  induction budget generalizing tasks state with
  | zero =>
      cases tasks with
      | nil => exact ⟨0, 0, state, rfl, rfl, finished, rfl⟩
      | cons task rest => simp [run] at finished
  | succ budget hypothesis =>
      cases tasks with
      | nil => exact ⟨0, budget + 1, state, Nat.zero_add _, rfl, finished, rfl⟩
      | cons task rest =>
          rw [List.cons_append, run_cons, ← List.append_assoc] at finished
          obtain ⟨spent, left, middle, enough, first, second, watched⟩ := hypothesis finished
          refine ⟨spent + 1, left, middle, by omega, first, second, ?_⟩
          rw [List.cons_append, watch, ← List.append_assoc, watched, watch, List.append_assoc]

/-- What comes to an end is its first tasks, which do, followed by the others. -/
theorem Completes.split (completes : Completes look step (tasks ++ more) state seen final) :
    ∃ middle earlier later, Completes look step tasks state earlier middle ∧
      Completes look step more middle later final ∧ seen = earlier ++ later := by
  obtain ⟨budget, finished, rfl⟩ := completes_iff.mp completes
  obtain ⟨spent, left, middle, _, first, second, watched⟩ := run_append look finished
  exact ⟨middle, _, _, completes_iff.mpr ⟨spent, first, rfl⟩,
    completes_iff.mpr ⟨left, second, rfl⟩, watched⟩

/-- What comes to an end is its first task with all that comes of it, followed by the others. -/
theorem Completes.head {task : τ}
    (completes : Completes look step (task :: more) state seen final) :
    ∃ middle earlier later, Completes look step [task] state earlier middle ∧
      Completes look step more middle later final ∧ seen = earlier ++ later :=
  split completes

variable {request answer memory : Type}

/-- Whatever a script asks for is allowed. -/
def Script.Asks (allowed : request → Prop) : Script request answer memory → Prop
  | .done => True
  | .fail => True
  | .note _ next => next.Asks allowed
  | .recall next => ∀ notes, (next notes).Asks allowed
  | .ask made next => allowed made ∧ ∀ given, (next given).Asks allowed

/-- Where a script pauses at a request, that is allowed, and so is whatever it asks for later. -/
theorem Script.Asks.proceed {allowed : request → Prop} {script : Script request answer memory}
    (asks : script.Asks allowed) {notes left : memory} {made : request}
    {next : answer → Script request answer memory}
    (pauses : script.proceed notes = (.asks made next, left)) :
    allowed made ∧ ∀ given, (next given).Asks allowed := by
  induction script generalizing notes with
  | done | fail => simp [Script.proceed] at pauses
  | note change rest hypothesis => exact hypothesis asks pauses
  | «recall» rest hypothesis => exact hypothesis notes (asks notes) pauses
  | ask asked rest _ =>
      obtain ⟨same, rfl⟩ := Prod.mk.inj pauses
      cases same
      exact asks

end VisualNovel.Agenda

/-!
## How long tasks take

Tasks of an agenda become others in at most so many steps, whatever else is on the
agenda after them. Tasks that come to nothing are done by every run with so large a
budget.
-/

namespace VisualNovel.Agenda

variable {τ σ ω : Type}

/-- The first tasks become others in at most so many steps. -/
inductive Steps (step : τ → σ → σ × List τ) : Nat → List τ → σ → List τ → σ → Prop where
  | refl {count : Nat} {tasks : List τ} {state : σ} : Steps step count tasks state tasks state
  | cons {count : Nat} {task : τ} {rest left : List τ} {state next : σ} :
      Steps step count ((step task state).2 ++ rest) (step task state).1 left next →
      Steps step (count + 1) (task :: rest) state left next

namespace Steps

variable {step : τ → σ → σ × List τ} {first second count larger : Nat}
  {tasks between left more : List τ} {state middle next final : σ}

theorem mono (steps : Steps step count tasks state left next) (enough : count ≤ larger) :
    Steps step larger tasks state left next := by
  induction steps generalizing larger with
  | refl => exact .refl
  | cons _ hypothesis =>
      obtain ⟨larger, rfl⟩ : ∃ fewer, larger = fewer + 1 := ⟨larger - 1, by omega⟩
      exact .cons (hypothesis (by omega))

theorem trans (earlier : Steps step first tasks state between middle)
    (later : Steps step second between middle left next) :
    Steps step (first + second) tasks state left next := by
  induction earlier with
  | refl => exact later.mono (Nat.le_add_left _ _)
  | @cons count _ _ _ _ _ _ hypothesis =>
      have rest := Steps.cons (hypothesis later)
      rwa [Nat.add_right_comm] at rest

/-- What comes after the tasks is left as it is. -/
theorem frame (steps : Steps step count tasks state left next) (more : List τ) :
    Steps step count (tasks ++ more) state (left ++ more) next := by
  induction steps with
  | refl => exact .refl
  | cons _ hypothesis =>
      rw [List.append_assoc] at hypothesis
      exact .cons hypothesis

theorem append (earlier : Steps step first tasks state [] middle)
    (later : Steps step second more middle left next) :
    Steps step (first + second) (tasks ++ more) state left next :=
  (earlier.frame more).trans later

theorem run (steps : Steps step count tasks state [] final) :
    Agenda.run step count tasks state = some final := by
  generalize done : ([] : List τ) = left at steps
  induction steps with
  | refl =>
      subst done
      exact run_nil step _ _
  | cons _ hypothesis => exact hypothesis done

/-- Tasks that come to nothing in some steps come to an end in one way only. -/
theorem completes_iff (steps : Steps step count tasks state [] next) {look : τ → σ → List ω}
    {seen : List ω} :
    Completes look step tasks state seen final ↔
      next = final ∧ watch look step count tasks state = seen := by
  have finished := Agenda.completes_iff.mpr ⟨count, steps.run, Eq.refl (watch look step count _ _)⟩
  constructor
  · intro completes
    obtain ⟨same, state⟩ := finished.unique completes
    exact ⟨state, same⟩
  · rintro ⟨rfl, rfl⟩
    exact finished

end Steps

end VisualNovel.Agenda
