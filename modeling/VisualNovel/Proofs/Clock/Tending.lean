import VisualNovel.Proofs.Clock.Draining
import VisualNovel.Proofs.Clock.Orderly

/-!
# Timelines that are tended

Whoever sets and cancels timers on a timeline makes none of them go off: only the
clock does. On a timeline that is closed nothing comes of it at all.
-/

set_option autoImplicit false

namespace VisualNovel.Clock.Timeline

variable {ρ : Type}

/-- What comes of a timeline by setting and cancelling timers. -/
inductive Tends (timeline : Timeline ρ) : Timeline ρ → Prop where
  | refl : Tends timeline timeline
  | later {next : Timeline ρ} (delay : Int) (label : String) (payload : ρ) :
      Tends timeline next → Tends timeline (next.later delay label payload).2
  | cancel {next : Timeline ρ} (number : Nat) :
      Tends timeline next → Tends timeline (next.cancel number)

/-- A closed timeline with no timers left, on which certain timers went off. -/
structure Shut (timeline : Timeline ρ) (fired : List Firing) : Prop where
  closed : timeline.closed = true
  idle : timeline.pending = []
  same : timeline.fired = fired

variable {timeline middle next after : Timeline ρ} {fired : List Firing} {timer : Timer ρ}
  {time : Int}

theorem Tends.cancel? (tends : timeline.Tends next) (number : Option Nat) :
    timeline.Tends (next.cancel? number) := by
  cases number with
  | none => exact tends
  | some number => exact tends.cancel number

theorem Tends.trans (first : timeline.Tends middle) (second : middle.Tends next) :
    timeline.Tends next := by
  induction second with
  | refl => exact first
  | later delay label payload _ hypothesis => exact hypothesis.later delay label payload
  | cancel number _ hypothesis => exact hypothesis.cancel number

theorem Tends.fired_eq (tends : timeline.Tends next) : next.fired = timeline.fired := by
  induction tends with
  | refl => rfl
  | later delay label payload _ hypothesis =>
      rw [← hypothesis]
      unfold Timeline.later
      dsimp only
      split <;> rfl
  | cancel number _ hypothesis => exact hypothesis

theorem Numbered.tends (numbered : timeline.Numbered) (tends : timeline.Tends next) :
    next.Numbered := by
  induction tends with
  | refl => exact numbered
  | later delay label payload _ hypothesis => exact hypothesis.later delay label payload
  | cancel number _ hypothesis => exact hypothesis.cancel number

/-- Taking a timer leaves the others, of which none has its number. -/
theorem Numbered.takeDue (numbered : timeline.Numbered)
    (taken : timeline.takeDue? time = some (timer, after)) :
    timeline.pending = timer :: after.pending ∧ after.Numbered ∧
      ∀ other ∈ after.pending, other.number ≠ timer.number := by
  obtain ⟨rest, waiting, _, rfl⟩ := takeDue?_eq_some.mp taken
  have known := numbered.known
  have distinct := numbered.distinct
  rw [waiting] at known distinct
  obtain ⟨apart, distinctRest⟩ := List.nodup_cons.mp distinct
  refine ⟨waiting, ⟨fun other member => known other (List.mem_cons_of_mem _ member),
    distinctRest⟩, ?_⟩
  intro other member same
  exact apart (List.mem_map.mpr ⟨other, member, same⟩)

theorem shut_close (timeline : Timeline ρ) : timeline.close.Shut timeline.fired :=
  ⟨rfl, rfl, rfl⟩

theorem Shut.tends (shut : timeline.Shut fired) (tends : timeline.Tends next) :
    next.Shut fired := by
  induction tends with
  | refl => exact shut
  | later delay label payload _ hypothesis =>
      unfold later
      dsimp only
      rw [if_pos hypothesis.closed]
      exact ⟨hypothesis.closed, hypothesis.idle, hypothesis.same⟩
  | cancel number _ hypothesis =>
      refine ⟨hypothesis.closed, ?_, hypothesis.same⟩
      unfold cancel
      rw [hypothesis.idle]
      rfl

theorem Shut.takeDue (shut : timeline.Shut fired) (time : Int) :
    timeline.takeDue? time = none := by
  unfold takeDue?
  rw [shut.idle]

end VisualNovel.Clock.Timeline

/-!
## Timers of a kind

Whoever sets at most one timer of a kind at a time, and keeps its number, can cancel
it by that number and knows that none of the kind is left. The number is kept until
the timer is cancelled or goes off; other timers make no difference.
-/

namespace VisualNovel.Clock.Timeline

variable {ρ : Type}

/-- Every pending timer of a kind has the number that is kept; without one there are none. -/
def Keeps (timeline : Timeline ρ) (kind : ρ → Bool) (kept : Option Nat) : Prop :=
  ∀ timer ∈ timeline.pending, kind timer.payload = true → kept = some timer.number

variable {timeline next after : Timeline ρ} {kind : ρ → Bool} {kept : Option Nat}
  {timer : Timer ρ} {time : Int}

theorem keeps_of_idle (idle : timeline.pending = []) : timeline.Keeps kind kept := by
  intro timer member
  rw [idle] at member
  contradiction

theorem idle_cancel? (idle : timeline.pending = []) (number : Option Nat) :
    (timeline.cancel? number).pending = [] := by
  cases number with
  | none => exact idle
  | some number => simp [Timeline.cancel?, cancel, idle]

theorem Keeps.of_pending (keeps : timeline.Keeps kind kept)
    (fewer : ∀ timer ∈ next.pending, timer ∈ timeline.pending) : next.Keeps kind kept :=
  fun timer member => keeps timer (fewer timer member)

theorem Keeps.any (free : timeline.Keeps kind none) (kept : Option Nat) :
    timeline.Keeps kind kept := by
  intro timer member mine
  cases free timer member mine

theorem Keeps.cancel? (keeps : timeline.Keeps kind kept) (number : Option Nat) :
    (timeline.cancel? number).Keeps kind kept := by
  cases number with
  | none => exact keeps
  | some number => exact keeps.of_pending fun timer member => (List.mem_filter.mp member).1

/-- Cancelling by the number that is kept leaves no timer of the kind. -/
theorem Keeps.cleared (keeps : timeline.Keeps kind kept) :
    (timeline.cancel? kept).Keeps kind none := by
  cases kept with
  | none => exact keeps
  | some number =>
      intro timer member mine
      obtain ⟨listed, apart⟩ := List.mem_filter.mp member
      have same := Option.some.inj (keeps timer listed mine)
      simp [same] at apart

theorem mem_pending_later {delay : Int} {label : String} {payload : ρ}
    (member : timer ∈ (timeline.later delay label payload).2.pending) :
    timer ∈ timeline.pending ∨ timer.number = timeline.issued ∧ timer.payload = payload := by
  unfold later at member
  dsimp only at member
  split at member
  · exact .inl member
  · rcases mem_insertTimer.mp member with rfl | listed
    · exact .inr ⟨rfl, rfl⟩
    · exact .inl listed

/-- Where there is no timer of a kind, the number of the one that is set is to be kept. -/
theorem Keeps.later (free : timeline.Keeps kind none) (delay : Int) (label : String)
    (payload : ρ) :
    (timeline.later delay label payload).2.Keeps kind (some timeline.issued) := by
  intro timer member mine
  rcases mem_pending_later member with listed | ⟨number, _⟩
  · exact free.any _ timer listed mine
  · rw [number]

theorem Keeps.later_other (keeps : timeline.Keeps kind kept) (delay : Int) (label : String)
    {payload : ρ} (other : kind payload = false) :
    (timeline.later delay label payload).2.Keeps kind kept := by
  intro timer member mine
  rcases mem_pending_later member with listed | ⟨_, made⟩
  · exact keeps timer listed mine
  · rw [made, other] at mine
    contradiction

theorem Keeps.takeDue (keeps : timeline.Keeps kind kept)
    (taken : timeline.takeDue? time = some (timer, after)) : after.Keeps kind kept := by
  obtain ⟨rest, waiting, _, rfl⟩ := takeDue?_eq_some.mp taken
  apply keeps.of_pending
  intro other member
  rw [waiting]
  exact List.mem_cons_of_mem _ member

/-- Once the timer of a kind has gone off there is none left. -/
theorem Keeps.gone (keeps : timeline.Keeps kind kept) (numbered : timeline.Numbered)
    (taken : timeline.takeDue? time = some (timer, after)) (mine : kind timer.payload = true) :
    after.Keeps kind none := by
  obtain ⟨waiting, _, apart⟩ := numbered.takeDue taken
  intro other member alike
  have first := keeps timer (waiting ▸ List.mem_cons_self) mine
  have second := keeps other (waiting ▸ List.mem_cons_of_mem _ member) alike
  rw [first] at second
  exact absurd (Option.some.inj second).symm (apart other member)

end VisualNovel.Clock.Timeline
