import VisualNovel.Clock.Schedule
import VisualNovel.Proofs.Clock.Draining
import VisualNovel.Proofs.Clock.Orderly

/-!
# What happens to timers

A record says in order what happens to the timers of a schedule: which are set and
cancelled, which go off, and what the clock shows when a callback is taken up or
reads it. A timeline agrees with its record, and goes on to do so whatever is done
to it, as long as nothing goes off but the first timer at the time it is due.
-/

set_option autoImplicit false

namespace VisualNovel.Clock

inductive Happening where
  | set (number : Nat) (due : Int)
  | cancel (number : Nat)
  | fire (number : Nat) (due : Int)
  | read (reading : Int)
  deriving DecidableEq

def Happening.number? : Happening → Option Nat
  | .set number _ | .cancel number | .fire number _ => some number
  | .read _ => none

def Happening.firing? : Happening → Option (Int × Nat)
  | .fire number due => some (due, number)
  | _ => none

def firings (record : List Happening) : List (Int × Nat) :=
  record.filterMap Happening.firing?

/-- Whether what goes off is due before something else, or at the same time and set before. -/
def Sooner (first second : Int × Nat) : Prop :=
  first.1 < second.1 ∨ first.1 = second.1 ∧ first.2 < second.2

/-- Timers go off as they should: in order, each at most once, as it was set and unless it was
cancelled before. Whoever reads the clock finds it at the time when the timer was due that went
off last. -/
structure Disciplined (record : List Happening) : Prop where
  ordered : (firings record).Pairwise Sooner
  once : ((firings record).map Prod.snd).Nodup
  expected : ∀ {earlier number due}, earlier ++ [.fire number due] <+: record →
    .set number due ∈ earlier
  spared : ∀ {earlier number due}, earlier ++ [.fire number due] <+: record →
    .cancel number ∉ earlier
  punctual : ∀ {earlier reading}, earlier ++ [.read reading] <+: record →
    ∃ number, (firings earlier).getLast? = some (reading, number)

variable {record more earlier : List Happening} {number : Nat} {due reading : Int}

theorem firings_append (record more : List Happening) :
    firings (record ++ more) = firings record ++ firings more :=
  List.filterMap_append

private theorem mem_firings : (due, number) ∈ firings record ↔ .fire number due ∈ record := by
  unfold firings
  rw [List.mem_filterMap]
  constructor
  · rintro ⟨happening, member, fires⟩
    cases happening <;> simp_all [Happening.firing?]
  · intro member
    exact ⟨_, member, rfl⟩

theorem firings_singleton (happening : Happening) :
    firings [happening] = happening.firing?.toList := by
  cases happening <;> rfl

private theorem Happening.firing?_eq_some {happening : Happening} :
    happening.firing? = some (due, number) ↔ happening = .fire number due := by
  cases happening <;> simp [firing?, and_comm]

def Permits (record : List Happening) : Happening → Prop
  | .set _ _ | .cancel _ => True
  | .fire number due =>
      (∀ firing ∈ firings record, Sooner firing (due, number) ∧ firing.2 ≠ number) ∧
        .set number due ∈ record ∧ .cancel number ∉ record
  | .read reading => ∃ number, (firings record).getLast? = some (reading, number)

theorem Permits.concat {happening : Happening} (permits : Permits record (.fire number due))
    (quiet : happening.firing? = none) (other : happening ≠ .cancel number) :
    Permits (record ++ [happening]) (.fire number due) := by
  obtain ⟨last, expected, spared⟩ := permits
  refine ⟨?_, List.mem_append_left _ expected, ?_⟩
  · rw [firings_append, firings_singleton, quiet]
    simpa using last
  · simpa [spared] using other.symm

private theorem disciplined_nil : Disciplined [] where
  ordered := .nil
  once := .nil
  expected := by simp
  spared := by simp
  punctual := by simp

/-- Timers go on as they should where only what is permitted happens. -/
theorem Disciplined.concat {happening : Happening} (disciplined : Disciplined record)
    (permits : Permits record happening) : Disciplined (record ++ [happening]) := by
  constructor
  · rw [firings_append, firings_singleton]
    cases fires : happening.firing? with
    | none => simpa using disciplined.ordered
    | some last =>
        obtain rfl := Happening.firing?_eq_some.mp fires
        refine List.pairwise_append.mpr ⟨disciplined.ordered, List.pairwise_singleton _ _, ?_⟩
        intro firing fired other same
        obtain rfl := List.mem_singleton.mp same
        exact (permits.1 firing fired).1
  · rw [firings_append, firings_singleton, List.map_append]
    cases fires : happening.firing? with
    | none => simpa using disciplined.once
    | some last =>
        obtain rfl := Happening.firing?_eq_some.mp fires
        refine List.nodup_append.mpr ⟨disciplined.once, List.pairwise_singleton _ _, ?_⟩
        intro number listed other same
        obtain ⟨firing, fired, rfl⟩ := List.mem_map.mp listed
        obtain rfl := List.mem_singleton.mp same
        exact (permits.1 firing fired).2
  · intro earlier number due first
    rcases Agenda.first_of_concat first with ⟨rfl, rfl⟩ | first
    · exact permits.2.1
    · exact disciplined.expected first
  · intro earlier number due first
    rcases Agenda.first_of_concat first with ⟨rfl, rfl⟩ | first
    · exact permits.2.2
    · exact disciplined.spared first
  · intro earlier reading first
    rcases Agenda.first_of_concat first with ⟨rfl, rfl⟩ | first
    · exact permits
    · exact disciplined.punctual first

/-- A timeline to which happened what a record says. -/
structure Recorded {ρ : Type} (record : List Happening) (timeline : Timeline ρ) : Prop where
  orderly : timeline.Orderly
  disciplined : Disciplined record
  issued : ∀ happening ∈ record, ∀ number ∈ happening.number?, number < timeline.issued
  passed : ∀ firing ∈ firings record, firing.1 ≤ timeline.now
  awaited : ∀ timer ∈ timeline.pending, Permits record (.fire timer.number timer.due)
  settled : ∀ number due, .set number due ∈ record →
    (∃ timer ∈ timeline.pending, timer.number = number ∧ timer.due = due) ∨
      .fire number due ∈ record ∨ .cancel number ∈ record

variable {ρ : Type} {timeline after : Timeline ρ} {timer : Timer ρ}

theorem recorded_nil (now : Int) : Recorded [] ({ now } : Timeline ρ) where
  orderly := ⟨rfl, .nil, by simp, by simp, .nil⟩
  disciplined := disciplined_nil
  issued := by simp
  passed := by simp [firings]
  awaited := by simp
  settled := by simp

/-- What happens to a timeline is put on record, as long as it is permitted. -/
theorem Recorded.concat {happening : Happening} (recorded : Recorded record timeline)
    (permits : Permits record happening) (orderly : after.Orderly)
    (later : timeline.issued ≤ after.issued) (on : timeline.now ≤ after.now)
    (issued : ∀ number ∈ happening.number?, number < after.issued)
    (passed : ∀ firing ∈ happening.firing?, firing.1 ≤ after.now)
    (awaited : ∀ timer ∈ after.pending, Permits (record ++ [happening])
      (.fire timer.number timer.due))
    (set : ∀ number due, happening = .set number due →
      ∃ timer ∈ after.pending, timer.number = number ∧ timer.due = due)
    (kept : ∀ timer ∈ timeline.pending, timer ∈ after.pending ∨
      happening = .fire timer.number timer.due ∨ happening = .cancel timer.number) :
    Recorded (record ++ [happening]) after := by
  refine ⟨orderly, recorded.disciplined.concat permits, ?_, ?_, awaited, ?_⟩
  · intro other member number numbered
    rcases List.mem_append.mp member with member | member
    · exact Nat.lt_of_lt_of_le (recorded.issued other member number numbered) later
    · obtain rfl := List.mem_singleton.mp member
      exact issued number numbered
  · intro firing fired
    rw [firings_append, firings_singleton] at fired
    rcases List.mem_append.mp fired with fired | fired
    · exact Int.le_trans (recorded.passed firing fired) on
    · exact passed firing (Option.mem_toList.mp fired)
  · intro number due member
    rcases List.mem_append.mp member with member | member
    · rcases recorded.settled number due member with ⟨timer, pending, rfl, rfl⟩ | settled
      · rcases kept timer pending with pending | rfl | rfl
        · exact .inl ⟨timer, pending, rfl, rfl⟩
        · exact .inr (.inl (by simp))
        · exact .inr (.inr (by simp))
      · exact .inr (settled.imp (List.mem_append_left _) (List.mem_append_left _))
    · exact .inl (set number due (List.mem_singleton.mp member).symm)

/-- The number given out next may be set and go off. -/
theorem Recorded.permits_issued (recorded : Recorded record timeline)
    (ahead : timeline.now ≤ due) :
    Permits (record ++ [.set timeline.issued due]) (.fire timeline.issued due) := by
  refine ⟨?_, by simp, ?_⟩
  · intro firing fired
    rw [firings_append, firings_singleton] at fired
    have fired : firing ∈ firings record := by simpa [Happening.firing?] using fired
    have passed := recorded.passed firing fired
    have issued := recorded.issued _ (mem_firings.mp fired) _ rfl
    unfold Sooner
    omega
  · intro cancelled
    have cancelled : .cancel timeline.issued ∈ record := by simpa using cancelled
    exact Nat.lt_irrefl _ (recorded.issued _ cancelled _ rfl)

/-- Setting a timer is put on record. -/
theorem Recorded.later (recorded : Recorded record timeline) (delay : Int) (label : String)
    (payload : ρ) :
    Recorded (record ++ [.set timeline.issued (timeline.now + max 0 delay)])
      (timeline.later delay label payload).2 := by
  have orderly := recorded.orderly.later delay label payload
  rw [Timeline.later_eq recorded.orderly.isOpen] at orderly ⊢
  refine recorded.concat trivial orderly (Nat.le_succ _) (Int.le_refl _) ?_ nofun ?_ ?_ ?_
  · rintro number ⟨⟩
    exact Nat.lt_succ_self _
  · intro timer member
    rcases mem_insertTimer.mp member with rfl | member
    · exact recorded.permits_issued (by omega)
    · exact (recorded.awaited timer member).concat rfl Happening.noConfusion
  · rintro number due ⟨⟩
    exact ⟨_, mem_insertTimer.mpr (.inl rfl), rfl, rfl⟩
  · exact fun timer member => .inl (mem_insertTimer.mpr (.inr member))

theorem Recorded.cancel (recorded : Recorded record timeline) (known : number < timeline.issued) :
    Recorded (record ++ [.cancel number]) (timeline.cancel number) := by
  refine recorded.concat trivial (recorded.orderly.cancel number) (Nat.le_refl _) (Int.le_refl _)
    ?_ nofun ?_ nofun ?_
  · rintro _ ⟨⟩
    exact known
  · intro timer member
    obtain ⟨pending, kept⟩ := List.mem_filter.mp member
    refine (recorded.awaited timer pending).concat rfl ?_
    rintro ⟨⟩
    simp at kept
  · intro timer pending
    by_cases same : timer.number = number
    · exact .inr (.inr (congrArg _ same.symm))
    · exact .inl (List.mem_filter.mpr ⟨pending, by simpa using same⟩)

/-- What was not given out yet is not pending and can be cancelled to no effect. -/
theorem Recorded.cancel_unknown (recorded : Recorded record timeline)
    (unknown : timeline.issued ≤ number) : Recorded record (timeline.cancel number) := by
  have same : (timeline.cancel number).pending = timeline.pending := by
    refine List.filter_eq_self.mpr fun timer member => ?_
    have known := recorded.orderly.known timer member
    simpa using (by omega : timer.number ≠ number)
  refine ⟨recorded.orderly.cancel number, recorded.disciplined, recorded.issued, recorded.passed,
    ?_, ?_⟩
  · rw [same]
    exact recorded.awaited
  · rw [same]
    exact recorded.settled

private theorem Recorded.cancel_each (recorded : Recorded record timeline) {numbers : List Nat}
    (known : ∀ number ∈ numbers, number < timeline.issued) :
    Recorded (record ++ numbers.map .cancel) (numbers.foldl Timeline.cancel timeline) := by
  induction numbers generalizing record timeline with
  | nil => simpa using recorded
  | cons number rest hypothesis =>
      have cancelled := recorded.cancel (known number (.head _))
      have rest := hypothesis cancelled fun other member => known other (.tail _ member)
      rwa [List.append_assoc] at rest

/-- Calling off all timers is cancelling one after the other. -/
private theorem Timeline.cancelAll_eq_foldl (timeline : Timeline ρ) :
    timeline.cancelAll = (timeline.pending.map (·.number)).foldl Timeline.cancel timeline := by
  have each (numbers : List Nat) (timeline : Timeline ρ) :
      numbers.foldl Timeline.cancel timeline =
        { timeline with
          pending := timeline.pending.filter fun timer => timer.number ∉ numbers
          cancelled := numbers.reverse ++ timeline.cancelled } := by
    induction numbers generalizing timeline with
    | nil =>
        have all : (timeline.pending.filter fun timer => timer.number ∉ []) = timeline.pending :=
          List.filter_eq_self.mpr (by simp)
        rw [all]
        rfl
    | cons number rest hypothesis =>
        rw [List.foldl_cons, hypothesis]
        simp [Timeline.cancel, List.filter_filter, Bool.and_comm]
  have none : timeline.pending.filter
      (fun timer => timer.number ∉ timeline.pending.map (·.number)) = [] := by
    refine List.filter_eq_nil_iff.mpr fun timer member => ?_
    simpa using ⟨timer, member, rfl⟩
  rw [each, none]
  simp [Timeline.cancelAll]

theorem Recorded.cancelAll (recorded : Recorded record timeline) :
    Recorded (record ++ timeline.pending.map fun timer => .cancel timer.number)
      timeline.cancelAll := by
  have known : ∀ number ∈ timeline.pending.map (·.number), number < timeline.issued := by
    intro number member
    obtain ⟨timer, pending, rfl⟩ := List.mem_map.mp member
    exact recorded.orderly.known timer pending
  have cancelled := recorded.cancel_each known
  rwa [← Timeline.cancelAll_eq_foldl, List.map_map] at cancelled

/-- The timer that goes off is the last one on record, due at the time that the clock shows. -/
theorem Recorded.takeDue {time : Int} (recorded : Recorded record timeline)
    (taken : timeline.takeDue? time = some (timer, after)) :
    Recorded (record ++ [.fire timer.number timer.due]) after ∧
      (firings (record ++ [.fire timer.number timer.due])).getLast? =
        some (after.now, timer.number) := by
  obtain ⟨waiting, _, now, orderly⟩ := recorded.orderly.takeDue taken
  obtain ⟨_, _, _, made⟩ := Timeline.takeDue?_eq_some.mp taken
  have issued : timeline.issued = after.issued := by rw [← made]
  have next : timer ∈ timeline.pending := by simp [waiting]
  have ahead := recorded.orderly.ahead timer next
  have permits := recorded.awaited timer next
  refine ⟨recorded.concat permits orderly ?_ (by omega) ?_ ?_ ?_ nofun ?_, ?_⟩
  · exact Nat.le_of_eq issued
  · rintro _ ⟨⟩
    exact issued ▸ recorded.orderly.known timer next
  · rintro _ ⟨⟩
    exact Int.le_of_eq now.symm
  · intro other member
    have pending : other ∈ timeline.pending := by simp [waiting, member]
    have sorted := recorded.orderly.sorted
    have distinct := recorded.orderly.distinct
    rw [waiting] at sorted distinct
    obtain ⟨last, expected, spared⟩ := recorded.awaited other pending
    refine ⟨?_, List.mem_append_left _ expected, by simpa using spared⟩
    intro firing fired
    rw [firings_append, firings_singleton] at fired
    rcases List.mem_append.mp fired with fired | fired
    · exact last firing fired
    · obtain rfl : firing = (timer.due, timer.number) := by
        simpa [Happening.firing?] using fired
      have precedes := (List.pairwise_cons.mp sorted).1 other member
      have apart := (List.nodup_cons.mp distinct).1
      refine ⟨precedes, fun same => apart ?_⟩
      exact List.mem_map.mpr ⟨other, member, same.symm⟩
  · intro other member
    rcases List.mem_cons.mp (waiting ▸ member) with rfl | member
    · exact .inr (.inl rfl)
    · exact .inl member
  · rw [firings_append, firings_singleton, now]
    simp [Happening.firing?]

theorem Recorded.read (recorded : Recorded record timeline)
    (last : (firings record).getLast? = some (timeline.now, number)) :
    Recorded (record ++ [.read timeline.now]) timeline :=
  recorded.concat ⟨number, last⟩ recorded.orderly (Nat.le_refl _) (Int.le_refl _) nofun nofun
    (fun timer member => (recorded.awaited timer member).concat rfl Happening.noConfusion)
    nofun fun _ member => .inl member

theorem Recorded.settle {time : Int} (recorded : Recorded record timeline)
    (past : timeline.now ≤ time) (idle : timeline.takeDue? time = none) :
    Recorded record { timeline with now := time } :=
  ⟨recorded.orderly.settle idle, recorded.disciplined, recorded.issued,
    fun firing fired => Int.le_trans (recorded.passed firing fired) past, recorded.awaited,
    recorded.settled⟩

end VisualNovel.Clock
