import VisualNovel.Clock.Schedule
import VisualNovel.Proofs.Clock.Tending

/-!
# What is cancelled and what is closed

Callbacks may do anything to their schedule, also while moves of its clock are under
way within one another. A record says in order which timers are set and cancelled,
whose callbacks start and when the schedule is closed. A pending timer is one whose
callback may still start, and only such a callback ever does.
-/

set_option autoImplicit false

namespace VisualNovel.Clock

open VisualNovel.Agenda

inductive Deed where
  | set (number : Nat)
  | cancel (number : Nat)
  | start (number : Nat)
  | close
  deriving DecidableEq

def Deed.number? : Deed → Option Nat
  | .set number | .cancel number | .start number => some number
  | .close => none

/-- The callback of a timer may start: the timer was set and not cancelled, the callback has not
started before and the schedule was not closed. -/
structure MayStart (record : List Deed) (number : Nat) : Prop where
  set : .set number ∈ record
  uncancelled : .cancel number ∉ record
  unstarted : .start number ∉ record
  unclosed : .close ∉ record

def Lawful (record : List Deed) : Prop :=
  ∀ earlier number, earlier ++ [.start number] <+: record → MayStart earlier number

variable {record more : List Deed} {number : Nat}

theorem MayStart.append (may : MayStart record number) (uncancelled : .cancel number ∉ more)
    (unstarted : .start number ∉ more) (unclosed : .close ∉ more) :
    MayStart (record ++ more) number where
  set := List.mem_append_left _ may.set
  uncancelled := by simp [may.uncancelled, uncancelled]
  unstarted := by simp [may.unstarted, unstarted]
  unclosed := by simp [may.unclosed, unclosed]

theorem Lawful.append (lawful : Lawful record) (quiet : ∀ number, .start number ∉ more) :
    Lawful (record ++ more) := by
  rintro earlier number ⟨rest, same⟩
  rcases List.append_eq_append_iff.mp same with ⟨between, whole, rfl⟩ | ⟨between, whole, rfl⟩
  · exact lawful earlier number ⟨between, whole.symm⟩
  · rcases List.eq_nil_or_concat between with rfl | ⟨between, last, rfl⟩
    · exact lawful earlier number ⟨[], by simpa using whole⟩
    · rw [List.concat_eq_append, ← List.append_assoc] at whole
      obtain ⟨_, rfl⟩ := List.append_singleton_inj.mp whole
      exact absurd (by simp) (quiet number)

theorem Lawful.start (lawful : Lawful record) (may : MayStart record number) :
    Lawful (record ++ [.start number]) := by
  intro earlier other first
  rcases first_of_concat first with ⟨rfl, same⟩ | first
  · cases same
    exact may
  · exact lawful earlier other first

namespace Timeline

variable {ρ : Type}

/-- A timer is pending, was cancelled or went off. -/
def Accounts (timeline : Timeline ρ) (number : Nat) : Prop :=
  timeline.isPending number = true ∨ timeline.isCancelled number = true ∨
    timeline.hasFired number = true

end Timeline

/-- A timeline to which was done what a record says. -/
structure Accounted {ρ : Type} (record : List Deed) (timeline : Timeline ρ) : Prop where
  numbered : timeline.Numbered
  lawful : Lawful record
  issued : ∀ deed ∈ record, ∀ number ∈ deed.number?, number < timeline.issued
  awaited : ∀ timer ∈ timeline.pending, MayStart record timer.number
  closed : .close ∈ record → timeline.closed = true
  settled : ∀ number < timeline.issued, timeline.Accounts number

namespace Timeline

variable {ρ : Type} {timeline after : Timeline ρ} {number : Nat}

theorem Accounts.cancel (accounts : timeline.Accounts number) (other : Nat) :
    (timeline.cancel other).Accounts number := by
  by_cases same : number = other
  · exact .inr (.inl (by simp [isCancelled, Timeline.cancel, same]))
  · refine accounts.imp (fun pending => ?_) (.imp_left fun cancelled => ?_)
    · obtain ⟨timer, member, named⟩ := List.any_eq_true.mp pending
      have kept : timer.number ≠ other := by rwa [beq_iff_eq.mp named]
      exact List.any_eq_true.mpr ⟨timer, List.mem_filter.mpr ⟨member, by simpa using kept⟩, named⟩
    · simp only [isCancelled, Timeline.cancel, List.contains_cons, Bool.or_eq_true] at cancelled ⊢
      exact .inr cancelled

theorem Accounts.cancelAll (accounts : timeline.Accounts number) :
    timeline.cancelAll.Accounts number := by
  unfold Accounts isPending isCancelled hasFired Timeline.cancelAll at *
  simp only [List.any_eq_true, List.contains_eq_mem, beq_iff_eq, decide_eq_true_eq] at *
  rcases accounts with ⟨timer, pending, same⟩ | cancelled | fired
  · exact .inr (.inl (by simpa using .inl ⟨timer, pending, same⟩))
  · exact .inr (.inl (List.mem_append_right _ cancelled))
  · exact .inr (.inr fired)

theorem Accounts.takeDue {time : Int} {timer : Timer ρ} (accounts : timeline.Accounts number)
    (taken : timeline.takeDue? time = some (timer, after)) : after.Accounts number := by
  obtain ⟨rest, waiting, _, rfl⟩ := takeDue?_eq_some.mp taken
  unfold Accounts isPending isCancelled hasFired at *
  rw [waiting] at accounts
  simp only [List.any_cons, Bool.or_eq_true] at accounts ⊢
  rcases accounts with (first | pending) | cancelled | fired
  · exact .inr (.inr (.inl first))
  · exact .inl pending
  · exact .inr (.inl cancelled)
  · exact .inr (.inr (.inr fired))

/-- The number that is given out next is pending, or cancelled at once. -/
theorem accounts_issued (timeline : Timeline ρ) (delay : Int) (label : String) (payload : ρ) :
    (timeline.later delay label payload).2.Accounts timeline.issued := by
  unfold Accounts isPending isCancelled later
  dsimp only
  split
  · exact .inr (.inl (by simp))
  · refine .inl (List.any_eq_true.mpr ⟨_, mem_insertTimer.mpr (.inl rfl), ?_⟩)
    simp

theorem Accounts.later (accounts : timeline.Accounts number) (delay : Int) (label : String)
    (payload : ρ) : (timeline.later delay label payload).2.Accounts number := by
  unfold Accounts isPending isCancelled hasFired Timeline.later at *
  dsimp only
  split
  · simp only [List.contains_cons, Bool.or_eq_true]
    exact accounts.imp_right (.imp_left .inr)
  · refine accounts.imp_left fun pending => ?_
    obtain ⟨timer, member, same⟩ := List.any_eq_true.mp pending
    exact List.any_eq_true.mpr ⟨timer, mem_insertTimer.mpr (.inr member), same⟩

private theorem later_issued (timeline : Timeline ρ) (delay : Int) (label : String) (payload : ρ) :
    (timeline.later delay label payload).2.issued = timeline.issued + 1 := by
  unfold later
  dsimp only
  split <;> rfl

theorem Numbered.cancelAll (timeline : Timeline ρ) : timeline.cancelAll.Numbered :=
  ⟨by simp [Timeline.cancelAll], by simp [Timeline.cancelAll]⟩

end Timeline

namespace Accounted

variable {ρ : Type} {timeline after : Timeline ρ} {timer : Timer ρ}

theorem new (now : Int) : Accounted [] ({ now } : Timeline ρ) where
  numbered := ⟨by simp, by simp⟩
  lawful := by simp [Lawful]
  issued := by simp
  awaited := by simp
  closed := by simp
  settled := by simp

/-- The number that is given out next is on no record. -/
theorem fresh (accounted : Accounted record timeline) (deed : Deed)
    (named : deed.number? = some timeline.issued) : deed ∉ record :=
  fun member => Nat.lt_irrefl _ (accounted.issued deed member _ named)

/-- A timer that is set while the schedule is open may go off. -/
theorem mayStart_issued (accounted : Accounted record timeline)
    (isOpen : timeline.closed = false) :
    MayStart (record ++ [.set timeline.issued]) timeline.issued where
  set := by simp
  uncancelled := by simpa using accounted.fresh (.cancel timeline.issued) rfl
  unstarted := by simpa using accounted.fresh (.start timeline.issued) rfl
  unclosed := by
    have unclosed : .close ∉ record := fun closed => by simp [accounted.closed closed] at isOpen
    simpa using unclosed

/-- What is done without a callback starting. -/
theorem append (accounted : Accounted record timeline) (numbered : after.Numbered)
    (given : timeline.issued ≤ after.issued) (quiet : ∀ number, .start number ∉ more)
    (issued : ∀ deed ∈ more, ∀ number ∈ deed.number?, number < after.issued)
    (awaited : ∀ timer ∈ after.pending, MayStart (record ++ more) timer.number)
    (closed : .close ∈ record ++ more → after.closed = true)
    (settled : ∀ number < after.issued, after.Accounts number) :
    Accounted (record ++ more) after where
  numbered := numbered
  lawful := accounted.lawful.append quiet
  issued := by
    intro deed member number named
    rcases List.mem_append.mp member with member | member
    · exact Nat.lt_of_lt_of_le (accounted.issued deed member number named) given
    · exact issued deed member number named
  awaited := awaited
  closed := closed
  settled := settled

/-- Setting a timer is accounted for; on a closed timeline it counts as cancelled at once. -/
theorem later (accounted : Accounted record timeline) (delay : Int) (label : String)
    (payload : ρ) :
    Accounted (record ++ .set timeline.issued ::
        if timeline.closed then [.cancel timeline.issued] else [])
      (timeline.later delay label payload).2 := by
  have issued := Timeline.later_issued timeline delay label payload
  refine accounted.append (accounted.numbered.later delay label payload) (by omega) ?_ ?_ ?_ ?_ ?_
  · intro number
    split <;> simp
  · intro deed member number named
    have same : deed.number? = some timeline.issued := by
      rcases List.mem_cons.mp member with rfl | member
      · rfl
      · split at member
        · rw [List.mem_singleton.mp member]
          rfl
        · contradiction
    obtain rfl := Option.some.inj (same.symm.trans named)
    omega
  · intro timer member
    cases closed : timeline.closed with
    | true =>
        have same : (timeline.later delay label payload).2.pending = timeline.pending := by
          simp [Timeline.later, closed]
        rw [same] at member
        have known := accounted.numbered.known timer member
        exact (accounted.awaited timer member).append (by simp; omega) (by simp) (by simp)
    | false =>
        rw [Timeline.later_eq closed] at member
        rcases mem_insertTimer.mp member with rfl | member
        · exact accounted.mayStart_issued closed
        · exact (accounted.awaited timer member).append (by simp) (by simp) (by simp)
  · intro shut
    rw [Timeline.later_closed]
    refine accounted.closed ?_
    split at shut <;> simpa using shut
  · intro number known
    rw [issued] at known
    rcases Nat.lt_succ_iff_lt_or_eq.mp known with known | rfl
    · exact (accounted.settled number known).later delay label payload
    · exact timeline.accounts_issued delay label payload

/-- Cancelling is accounted for if there was such a timer. -/
theorem cancel (accounted : Accounted record timeline) (number : Nat) :
    Accounted (record ++ if number < timeline.issued then [.cancel number] else [])
      (timeline.cancel number) := by
  refine accounted.append (accounted.numbered.cancel number) (Nat.le_refl _) ?_ ?_ ?_ ?_ ?_
  · intro other
    split <;> simp
  · intro deed member other named
    split at member
    · next known =>
        obtain rfl := List.mem_singleton.mp member
        cases named
        exact known
    · contradiction
  · intro timer member
    obtain ⟨pending, kept⟩ := List.mem_filter.mp member
    have apart : timer.number ≠ number := by simpa using kept
    split
    · exact (accounted.awaited timer pending).append (by simpa using apart) (by simp) (by simp)
    · exact (accounted.awaited timer pending).append (by simp) (by simp) (by simp)
  · intro closed
    refine accounted.closed ?_
    split at closed <;> simpa using closed
  · exact fun other known => (accounted.settled other known).cancel number

theorem cancelAll (accounted : Accounted record timeline) :
    Accounted (record ++ timeline.pending.map fun timer => .cancel timer.number)
      timeline.cancelAll := by
  refine accounted.append (.cancelAll timeline) (Nat.le_refl _) (by simp) ?_ ?_ ?_ ?_
  · intro deed member number named
    obtain ⟨timer, pending, rfl⟩ := List.mem_map.mp member
    cases named
    exact accounted.numbered.known timer pending
  · simp [Timeline.cancelAll]
  · exact fun closed => accounted.closed (by simpa using closed)
  · exact fun number known => (accounted.settled number known).cancelAll

theorem close (accounted : Accounted record timeline) :
    Accounted (record ++ ((timeline.pending.map fun timer => .cancel timer.number) ++ [.close]))
      timeline.close := by
  have all := accounted.cancelAll
  have numbered : timeline.close.Numbered := ⟨all.numbered.known, all.numbered.distinct⟩
  rw [← List.append_assoc]
  exact all.append numbered (Nat.le_refl _) (by simp) (by simp [Deed.number?]) nofun
    (fun _ => rfl) all.settled

theorem moved (accounted : Accounted record timeline) (now : Int) :
    Accounted record { timeline with now } :=
  ⟨⟨accounted.numbered.known, accounted.numbered.distinct⟩, accounted.lawful, accounted.issued,
    accounted.awaited, accounted.closed, accounted.settled⟩

/-- Once it was closed nothing is pending, since nothing that is could still go off. -/
theorem idle (accounted : Accounted record timeline) (closed : .close ∈ record) :
    timeline.pending = [] :=
  List.eq_nil_iff_forall_not_mem.mpr fun timer pending =>
    (accounted.awaited timer pending).unclosed closed

/-- The callback that starts is that of the timer that was next. -/
theorem takeDue {time : Int} (accounted : Accounted record timeline)
    (taken : timeline.takeDue? time = some (timer, after)) :
    Accounted (record ++ [.start timer.number]) after := by
  obtain ⟨waiting, numbered, apart⟩ := accounted.numbered.takeDue taken
  have settled := fun number known => (accounted.settled number known).takeDue taken
  have may := accounted.awaited timer (by simp [waiting])
  obtain ⟨_, _, _, rfl⟩ := Timeline.takeDue?_eq_some.mp taken
  refine ⟨numbered, accounted.lawful.start may, ?_, ?_, ?_, settled⟩
  · intro deed member number named
    rcases List.mem_append.mp member with member | member
    · exact accounted.issued deed member number named
    · obtain rfl := List.mem_singleton.mp member
      cases named
      exact accounted.numbered.known timer (by simp [waiting])
  · intro other member
    have apart := apart other member
    have pending : other ∈ timeline.pending := by simp [waiting, member]
    exact (accounted.awaited other pending).append (by simp) (by simpa) (by simp)
  · exact fun closed => accounted.closed (by simpa using closed)

end Accounted

namespace Schedule

variable {κ η : Type}

def deeds : Job (ScheduleTask κ η) → Schedule κ η → List Deed
  | .work (.request (.later _ _ _)), schedule =>
      .set schedule.timeline.issued ::
        if schedule.timeline.closed then [.cancel schedule.timeline.issued] else []
  | .work (.request (.cancel number)), schedule =>
      if number < schedule.timeline.issued then [.cancel number] else []
  | .work (.request .cancelAll), schedule =>
      schedule.timeline.pending.map fun timer => .cancel timer.number
  | .work (.request .close), schedule =>
      (schedule.timeline.pending.map fun timer => .cancel timer.number) ++ [.close]
  | .drain time _, schedule =>
      (schedule.timeline.takeDue? time).toList.map fun (timer, _) => .start timer.number
  | _, _ => []

/-- The moments that come of one, with what is done to timers until then: jobs are taken up, and
when none is left the host asks for something. -/
inductive Proceeds (callbacks : κ → ScheduleScript κ η) (first : Schedule κ η) :
    List Deed → List (Job (ScheduleTask κ η)) → Schedule κ η → Prop where
  | refl : Proceeds callbacks first [] [] first
  | works {record : List Deed} {job : Job (ScheduleTask κ η)}
      {rest : List (Job (ScheduleTask κ η))} {schedule : Schedule κ η} :
      Proceeds callbacks first record (job :: rest) schedule →
      Proceeds callbacks first (record ++ deeds job schedule)
        (((clockwork callbacks).step job schedule).2 ++ rest)
        ((clockwork callbacks).step job schedule).1
  | asks {record : List Deed} {schedule : Schedule κ η} (made : ScheduleRequest κ) :
      Proceeds callbacks first record [] schedule →
      Proceeds callbacks first record [.work (.request made)] schedule

variable {callbacks : κ → ScheduleScript κ η} {first schedule : Schedule κ η}
  {jobs : List (Job (ScheduleTask κ η))}

private theorem accounted_begin (made : ScheduleRequest κ)
    (accounted : Accounted record schedule.timeline) :
    Accounted (record ++ deeds (.work (.request made)) schedule)
      (schedule.begin made).1.timeline := by
  cases made with
  | later delay label cue => exact accounted.later delay label cue
  | cancel number => exact accounted.cancel number
  | cancelAll => exact accounted.cancelAll
  | close => exact accounted.close
  | update | flush | now | nextDue | isClosed =>
      simp only [deeds, List.append_nil]
      exact accounted

private theorem accounted_act (task : ScheduleTask κ η)
    (accounted : Accounted record schedule.timeline) :
    Accounted (record ++ deeds (.work task) schedule) (schedule.act task).1.timeline := by
  cases task with
  | request made => exact accounted_begin made accounted
  | count | resume =>
      simp only [deeds, List.append_nil]
      exact accounted
  | script timer rest =>
      simp only [deeds, List.append_nil, act]
      cases rest.proceed schedule.world.notes with
      | mk pause notes => cases pause <;> exact accounted

/-- Whatever is taken up, a timeline agrees with its record. -/
theorem accounted_step (job : Job (ScheduleTask κ η))
    (accounted : Accounted record schedule.timeline) :
    Accounted (record ++ deeds job schedule)
      ((clockwork callbacks).step job schedule).1.timeline := by
  cases job with
  | work task => exact accounted_act task accounted
  | drain time ran =>
      cases taken : schedule.timeline.takeDue? time with
      | none =>
          rw [Clockwork.step_drain_idle taken, deeds, taken, Option.toList_none, List.map_nil,
            List.append_nil]
          exact accounted.moved time
      | some found =>
          rw [Clockwork.step_drain_fire taken, deeds, taken]
          exact accounted.takeDue taken
  | update time =>
      simp only [deeds, List.append_nil, Clockwork.step]
      split <;> exact accounted
  | drained time ran =>
      simp only [deeds, List.append_nil, Clockwork.step]
      split
      · exact accounted.moved time
      · exact accounted
  | flush limit ran =>
      simp only [deeds, List.append_nil, Clockwork.step]
      split
      · exact accounted
      · split <;> exact accounted
  | flushed limit ran =>
      simp only [deeds, List.append_nil]
      exact accounted

theorem Proceeds.accounted {now : Int} {notes : η}
    (proceeds : Proceeds callbacks (new now notes) record jobs schedule) :
    Accounted record schedule.timeline := by
  induction proceeds with
  | refl => exact .new now
  | works _ hypothesis => exact accounted_step _ hypothesis
  | asks made _ hypothesis => exact hypothesis

/-- Whatever callbacks do within one another, none starts twice, or once its timer was cancelled or
the schedule closed. What is cancelled is not pending, and when a schedule is closed no timer ever
set is, nor will be. -/
theorem Proceeds.revoked_for_good {now : Int} {notes : η}
    (proceeds : Proceeds callbacks (new now notes) record jobs schedule) :
    Lawful record ∧
    (∀ number, .cancel number ∈ record → schedule.timeline.isPending number = false) ∧
    (.close ∈ record → schedule.timeline.closed = true ∧ schedule.timeline.pending = [] ∧
      schedule.timeline.nextDue? = none ∧ ∀ number, .set number ∈ record →
        schedule.timeline.isPending number = false ∧
          (schedule.timeline.isCancelled number = true ∨
            schedule.timeline.hasFired number = true)) := by
  have accounted := proceeds.accounted
  refine ⟨accounted.lawful, ?_, ?_⟩
  · intro number cancelled
    refine List.any_eq_false.mpr fun timer pending same => ?_
    obtain rfl := by simpa using same
    exact (accounted.awaited timer pending).uncancelled cancelled
  · intro closed
    have idle := accounted.idle closed
    refine ⟨accounted.closed closed, idle, by rw [Timeline.nextDue?, idle]; rfl, ?_⟩
    intro number set
    have unpending : schedule.timeline.isPending number = false := by
      rw [Timeline.isPending, idle]
      rfl
    refine ⟨unpending, ?_⟩
    have settled := accounted.settled number (accounted.issued _ set number rfl)
    exact settled.resolve_left (by simp [unpending])

private theorem proceeds_of_completes {seen : List Deed} {tasks : List (Job (ScheduleTask κ η))}
    {final : Schedule κ η} (begun : Proceeds callbacks first record tasks schedule)
    (completes : Completes deeds (clockwork callbacks).step tasks schedule seen final) :
    Proceeds callbacks first (record ++ seen) [] final := by
  induction completes generalizing record with
  | nil => simpa using begun
  | cons _ hypothesis =>
      rw [← List.append_assoc]
      exact hypothesis begun.works

/-- An operation that comes to its end, with what it does to timers. -/
theorem Proceeds.perform {answer : ScheduleAnswer} {seen : List Deed} {after : Schedule κ η}
    (proceeds : Proceeds callbacks first record [] schedule) (budget : Nat)
    (made : ScheduleRequest κ)
    (performed : perform? callbacks budget made schedule = some (answer, after))
    (watched : watch deeds (clockwork callbacks).step budget [.work (.request made)] schedule =
      seen) : Proceeds callbacks first (record ++ seen) [] after := by
  obtain ⟨completes, _⟩ := completes_given_iff.mp ⟨budget, performed, watched⟩
  exact proceeds_of_completes (proceeds.asks made) completes

def hasty : Bool → ScheduleScript Bool Unit
  | true => .ask (.update 20) fun _ => .ask (.later 0 "after" true) fun _ => .done
  | false => .ask (.cancel 2) fun _ => .ask .close fun _ => .ask (.later 1 "late" false) fun _ =>
      .done

theorem revoked_for_good_hasty :
    ∃ record after, Proceeds hasty (new 0 ()) record [] after ∧
      record = [.set 0, .set 1, .set 2, .set 3, .start 0, .start 1, .cancel 2, .cancel 3, .close,
        .set 4, .cancel 4, .set 5, .cancel 5] ∧
      after.timeline.closed = true ∧ after.timeline.pending = [] ∧
      after.timeline.nextDue? = none ∧ after.timeline.isPending 3 = false ∧
      after.timeline.isPending 5 = false := by
  have proceeds : Proceeds hasty (new 0 ()) _ [] _ :=
    ((((Proceeds.refl.perform 1 (.later 5 "outer" true) rfl rfl).perform 1
      (.later 6 "inner" false) rfl rfl).perform 1 (.later 7 "second" true) rfl rfl).perform 1
      (.later 8 "third" true) rfl rfl).perform 40 (.update 10) rfl rfl
  obtain ⟨_, _, revoked⟩ := proceeds.revoked_for_good
  obtain ⟨closed, idle, next, unpending⟩ := revoked (by decide)
  exact ⟨_, _, proceeds, rfl, closed, idle, next, (unpending 3 (by decide)).1,
    (unpending 5 (by decide)).1⟩

end Schedule

end VisualNovel.Clock
