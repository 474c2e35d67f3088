import VisualNovel.Clock.Timeline

/-!
# Orderly timelines

An open timeline whose pending timers are in the order in which they go off, are
not due before the time the clock shows, and have numbers of their own that were
given out. Setting, cancelling and taking timers keeps a timeline orderly, and so
does leaving the clock at a time when nothing more is due.
-/

set_option autoImplicit false

namespace VisualNovel.Clock

variable {ρ : Type}

theorem insertTimer_perm (timer : Timer ρ) (timers : List (Timer ρ)) :
    (insertTimer timer timers).Perm (timer :: timers) := by
  induction timers with
  | nil => exact .refl _
  | cons first rest ih =>
      unfold insertTimer
      split
      · exact .refl _
      · exact (ih.cons first).trans (.swap timer first rest)

private theorem Timer.precedes_of_not_precedes {first second : Timer ρ}
    (apart : first.number ≠ second.number) (not_before : ¬ first.precedes second) :
    second.precedes first := by
  unfold Timer.precedes at *
  omega

private theorem Timer.precedes_trans {first second third : Timer ρ}
    (before : first.precedes second) (between : second.precedes third) :
    first.precedes third := by
  unfold Timer.precedes at *
  omega

/-- A timer put before the first that it precedes leaves all of them in order. -/
private theorem pairwise_insertTimer {timer : Timer ρ} {timers : List (Timer ρ)}
    (sorted : timers.Pairwise Timer.precedes)
    (apart : ∀ other ∈ timers, timer.number ≠ other.number) :
    (insertTimer timer timers).Pairwise Timer.precedes := by
  induction timers with
  | nil => simp [insertTimer]
  | cons first rest ih =>
      obtain ⟨ahead, sortedRest⟩ := List.pairwise_cons.mp sorted
      unfold insertTimer
      split
      · next before =>
          refine List.pairwise_cons.mpr ⟨?_, sorted⟩
          intro other member
          rcases List.mem_cons.mp member with rfl | member
          · exact before
          · exact Timer.precedes_trans before (ahead other member)
      · next not_before =>
          have sortedTail := ih sortedRest fun other member => apart other (.tail _ member)
          refine List.pairwise_cons.mpr ⟨?_, sortedTail⟩
          intro other member
          rcases mem_insertTimer.mp member with rfl | member
          · exact Timer.precedes_of_not_precedes (apart first (.head _)) not_before
          · exact ahead other member

namespace Timeline

/-- An open timeline with its timers in order, none overdue, each with a number of its own. -/
structure Orderly (timeline : Timeline ρ) : Prop where
  isOpen : timeline.closed = false
  sorted : timeline.pending.Pairwise Timer.precedes
  ahead : ∀ timer ∈ timeline.pending, timeline.now ≤ timer.due
  known : ∀ timer ∈ timeline.pending, timer.number < timeline.issued
  distinct : (timeline.pending.map (·.number)).Nodup

/-- A timeline whose timers have numbers of their own that were given out. -/
structure Numbered (timeline : Timeline ρ) : Prop where
  known : ∀ timer ∈ timeline.pending, timer.number < timeline.issued
  distinct : (timeline.pending.map (·.number)).Nodup

theorem Orderly.numbered {timeline : Timeline ρ} (orderly : timeline.Orderly) :
    timeline.Numbered :=
  ⟨orderly.known, orderly.distinct⟩

def cancel? (timeline : Timeline ρ) : Option Nat → Timeline ρ
  | none => timeline
  | some number => timeline.cancel number

variable {timeline after : Timeline ρ}

theorem later_eq (isOpen : timeline.closed = false) (delay : Int) (label : String)
    (payload : ρ) :
    timeline.later delay label payload =
      ((timeline.issued, timeline.now + max 0 delay),
        { timeline with
          issued := timeline.issued + 1
          pending := insertTimer
            ⟨timeline.now + max 0 delay, timeline.issued, label, payload⟩ timeline.pending }) := by
  simp [later, isOpen]

@[simp] theorem later_now (delay : Int) (label : String) (payload : ρ) :
    (timeline.later delay label payload).2.now = timeline.now := by
  unfold later
  dsimp only
  split <;> rfl

@[simp] theorem later_closed (delay : Int) (label : String) (payload : ρ) :
    (timeline.later delay label payload).2.closed = timeline.closed := by
  unfold later
  dsimp only
  split <;> rfl

@[simp] theorem cancel?_now (number : Option Nat) :
    (timeline.cancel? number).now = timeline.now := by
  cases number <;> rfl

@[simp] theorem cancel?_closed (number : Option Nat) :
    (timeline.cancel? number).closed = timeline.closed := by
  cases number <;> rfl

@[simp] theorem cancel?_issued (number : Option Nat) :
    (timeline.cancel? number).issued = timeline.issued := by
  cases number <;> rfl

theorem Numbered.fresh (numbered : timeline.Numbered) :
    ∀ other ∈ timeline.pending, timeline.issued ≠ other.number := by
  intro other member same
  have issued := numbered.known other member
  omega

theorem Numbered.later (numbered : timeline.Numbered) (delay : Int) (label : String)
    (payload : ρ) : (timeline.later delay label payload).2.Numbered := by
  have known := numbered.known
  unfold Timeline.later
  dsimp only
  split
  · exact ⟨fun timer member => Nat.lt_succ_of_lt (known timer member), numbered.distinct⟩
  · refine ⟨?_, ?_⟩
    · intro timer member
      rcases mem_insertTimer.mp member with rfl | member
      · exact Nat.lt_succ_self _
      · exact Nat.lt_succ_of_lt (known timer member)
    · refine ((insertTimer_perm _ _).map (·.number)).nodup_iff.mpr ?_
      refine List.nodup_cons.mpr ⟨?_, numbered.distinct⟩
      intro member
      obtain ⟨other, otherMember, same⟩ := List.mem_map.mp member
      exact numbered.fresh other otherMember same.symm

theorem Numbered.cancel (numbered : timeline.Numbered) (number : Nat) :
    (timeline.cancel number).Numbered :=
  ⟨fun timer member => numbered.known timer (List.mem_filter.mp member).1,
    numbered.distinct.sublist (List.filter_sublist.map _)⟩

theorem Orderly.later (orderly : timeline.Orderly) (delay : Int) (label : String)
    (payload : ρ) : (timeline.later delay label payload).2.Orderly := by
  have numbered := orderly.numbered.later delay label payload
  rw [later_eq orderly.isOpen] at numbered ⊢
  refine ⟨orderly.isOpen, pairwise_insertTimer orderly.sorted orderly.numbered.fresh, ?_,
    numbered.known, numbered.distinct⟩
  intro timer member
  rcases mem_insertTimer.mp member with rfl | member
  · dsimp only
    omega
  · exact orderly.ahead timer member

theorem Orderly.cancel (orderly : timeline.Orderly) (number : Nat) :
    (timeline.cancel number).Orderly := by
  have numbered := orderly.numbered.cancel number
  exact ⟨orderly.isOpen, orderly.sorted.filter _,
    fun timer member => orderly.ahead timer (List.mem_filter.mp member).1,
    numbered.known, numbered.distinct⟩

theorem Orderly.cancel? (orderly : timeline.Orderly) (number : Option Nat) :
    (timeline.cancel? number).Orderly := by
  cases number with
  | none => exact orderly
  | some number => exact orderly.cancel number

/-- Of two timers that may be pending, the first is cancelled by its number and the second is
left. -/
theorem Orderly.cancel?_pending {first second : Option (Timer ρ)} (orderly : timeline.Orderly)
    (pending : timeline.pending.Perm (first.toList ++ second.toList)) :
    (timeline.cancel? (first.map (·.number))).pending.Perm second.toList := by
  cases first with
  | none => simpa [Timeline.cancel?] using pending
  | some timer =>
      have distinct := (pending.map (·.number)).nodup_iff.mp orderly.distinct
      simp only [Option.toList_some, List.singleton_append, List.map_cons,
        List.nodup_cons] at distinct
      have kept : second.toList.filter (fun other => other.number ≠ timer.number) =
          second.toList := by
        refine List.filter_eq_self.mpr fun other member => ?_
        have apart : other.number ≠ timer.number := fun same =>
          distinct.1 (List.mem_map.mpr ⟨other, member, same⟩)
        simpa using apart
      have filtered := pending.filter fun other => other.number ≠ timer.number
      rw [Option.toList_some, List.singleton_append, List.filter_cons_of_neg (by simp),
        kept] at filtered
      exact filtered

theorem Orderly.later_pending (orderly : timeline.Orderly) (delay : Int) (label : String)
    (payload : ρ) :
    (timeline.later delay label payload).2.pending.Perm
      (⟨timeline.now + max 0 delay, timeline.issued, label, payload⟩ :: timeline.pending) := by
  rw [later_eq orderly.isOpen]
  exact insertTimer_perm _ _

/-- What is taken is the first timer, and the clock shows when it was due. -/
theorem Orderly.takeDue {time : Int} {timer : Timer ρ} (orderly : timeline.Orderly)
    (taken : timeline.takeDue? time = some (timer, after)) :
    timeline.pending = timer :: after.pending ∧ timer.due ≤ time ∧ after.now = timer.due ∧
      after.Orderly := by
  unfold takeDue? at taken
  cases waiting : timeline.pending with
  | nil => simp [waiting] at taken
  | cons first rest =>
      by_cases due : first.due ≤ time
      · simp only [waiting, due, if_true, Option.some.injEq, Prod.mk.injEq] at taken
        obtain ⟨rfl, rfl⟩ := taken
        have sorted := orderly.sorted
        have ahead := orderly.ahead
        have known := orderly.known
        have distinct := orderly.distinct
        rw [waiting] at sorted ahead known distinct
        obtain ⟨before, sortedRest⟩ := List.pairwise_cons.mp sorted
        have now : max timeline.now first.due = first.due :=
          Int.max_eq_right (ahead first (.head _))
        refine ⟨rfl, due, now, orderly.isOpen, sortedRest, ?_, ?_, ?_⟩
        · intro other member
          have precedes := before other member
          unfold Timer.precedes at precedes
          show max timeline.now first.due ≤ other.due
          omega
        · exact fun other member => known other (.tail _ member)
        · exact (List.nodup_cons.mp distinct).2
      · simp [waiting, due] at taken

/-- Where no timer can be taken, all of them are due later. -/
theorem Orderly.due_of_takeDue_eq_none {time : Int} (orderly : timeline.Orderly)
    (idle : timeline.takeDue? time = none) :
    ∀ timer ∈ timeline.pending, time < timer.due := by
  intro timer member
  unfold takeDue? at idle
  cases waiting : timeline.pending with
  | nil => simp [waiting] at member
  | cons first rest =>
      have late : ¬ first.due ≤ time := by
        intro due
        simp [waiting, due] at idle
      rw [waiting] at member
      rcases List.mem_cons.mp member with rfl | member
      · omega
      · have precedes := (List.pairwise_cons.mp (waiting ▸ orderly.sorted)).1 timer member
        unfold Timer.precedes at precedes
        omega

theorem Orderly.settle {time : Int} (orderly : timeline.Orderly)
    (idle : timeline.takeDue? time = none) : { timeline with now := time }.Orderly :=
  ⟨orderly.isOpen, orderly.sorted,
    fun timer member => Int.le_of_lt (orderly.due_of_takeDue_eq_none idle timer member),
    orderly.known, orderly.distinct⟩

/-- A timer that is next is taken when the clock is moved on to when it is due, or further. -/
theorem exists_takeDue {due time : Int} (next : timeline.nextDue? = some due) (past : due ≤ time) :
    ∃ timer after, timeline.takeDue? time = some (timer, after) := by
  unfold nextDue? at next
  unfold takeDue?
  cases waiting : timeline.pending with
  | nil => simp [waiting] at next
  | cons timer rest =>
      have same : timer.due = due := by simpa [waiting] using next
      exact ⟨timer, _, if_pos (same ▸ past)⟩

end Timeline

end VisualNovel.Clock
