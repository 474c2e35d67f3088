import VisualNovel.Proofs.Playback.Player.Along
import VisualNovel.Proofs.Playback.Standing

/-!
# Playing a novel without menus

A session of a novel without menus that is asked to go on whenever nothing is waited
for plays the novel from its first scene to its end: it goes on once for every stop,
tells the whole rundown and nothing else of its place, and then refuses to go on.
-/

set_option autoImplicit false

namespace VisualNovel.Playback

open VisualNovel.Agenda VisualNovel.Clock VisualNovel.Novel VisualNovel.Sound

variable {β κ η : Type}

/-- A request that moves the clock on, or leaves the player alone. -/
inductive Request.Lingers : Request κ → Prop where
  | update (time : Int) : Lingers (.update time)
  | flush (limit : Int) : Lingers (.flush limit)
  | quiet {made : Request κ} : made.Quiet → Lingers made

theorem Request.Lingers.ordinary {made : Request κ} (lingers : made.Lingers) :
    made.Plays ∨ made.Quiet := by
  cases lingers with
  | update time => exact .inl trivial
  | flush limit => exact .inl trivial
  | quiet reads => exact .inr reads

theorem Player.Along.lingers {novel : Novel} {player : Player κ} {left : Nat} {made : Request κ}
    (along : Along novel player left) (lingers : made.Lingers) :
    Along novel (player.respond made).2 left := by
  cases lingers with
  | update time => exact along.drain (le_max_left ..)
  | flush limit => exact along.flush limit 0
  | quiet reads =>
      rw [Player.respond_quiet reads]
      exact along

namespace Session

variable [Device β] [DecidableEq κ] {callbacks : Callbacks κ η}
  {first session before after rested : Session β κ η} {seen sights more : List Sight}
  {count : Nat}

/-- The clock is moved on to the time of the next timer, again and again until none is left. -/
inductive RunsDown (callbacks : Callbacks κ η) :
    Session β κ η → List Sight → Session β κ η → Prop where
  | rest {session : Session β κ η} :
      session.timeline.nextDue? = none → RunsDown callbacks session [] session
  | update {before middle last : Session β κ η} {sights more : List Sight} {answer : Answer}
      {time : Int} :
      before.timeline.nextDue? = some time →
      Performs callbacks before (.update time) sights answer middle →
      RunsDown callbacks middle more last → RunsDown callbacks before (sights ++ more) last

/-- A session is started, and goes on a number of times, each time when nothing is waited for. -/
inductive Alternates (callbacks : Callbacks κ η) (first : Session β κ η) :
    Nat → List Sight → Session β κ η → Prop where
  | start {sights : List Sight} {answer : Answer} {begun : Session β κ η} :
      Performs callbacks first .start sights answer begun →
      Alternates callbacks first 0 sights begun
  | linger {count : Nat} {before after : Session β κ η} {sights more : List Sight}
      {answer : Answer} {made : Request κ} :
      Alternates callbacks first count sights before → made.Lingers →
      Performs callbacks before made more answer after →
      Alternates callbacks first count (sights ++ more) after
  | advance {count : Nat} {before after : Session β κ η} {sights more : List Sight}
      {answer : Answer} :
      Alternates callbacks first count sights before → before.timeline.nextDue? = none →
      Performs callbacks before .advance more answer after →
      Alternates callbacks first (count + 1) (sights ++ more) after

/-- However a session stands, running it down comes to an end. -/
theorem Stands.runsDown (stands : session.Stands seen) (quiet : callbacks.Quiet) :
    ∃ sights rested, RunsDown callbacks session sights rested := by
  generalize rank : (session.player seen).rank = bound
  -- each timer that goes off leaves less to come
  induction bound using WellFoundedLT.induction generalizing session seen with
  | ind bound hypothesis =>
      subst rank
      cases due : session.timeline.nextDue? with
      | none => exact ⟨[], session, .rest due⟩
      | some time =>
          have plays : (Request.update time : Request κ).Plays := trivial
          obtain ⟨sights, middle, performs, _⟩ := stands.responds quiet plays
          obtain ⟨same, standing⟩ := stands.turn quiet (.inl plays) performs
          have waits : (session.player seen).timeline.nextDue? = some time := due
          have fewer : (middle.player (sights.reverse ++ seen)).rank <
              (session.player seen).rank := by
            rw [same]
            exact Player.rank_drain_lt waits
          obtain ⟨more, rested, runsDown⟩ := hypothesis _ fewer standing rfl
          exact ⟨sights ++ more, rested, .update due performs runsDown⟩

theorem RunsDown.alternates (runsDown : RunsDown callbacks session more rested)
    (alternates : Alternates callbacks first count sights session) :
    Alternates callbacks first count (sights ++ more) rested := by
  induction runsDown generalizing sights with
  | rest _ => simpa using alternates
  | update _ performs _ hypothesis =>
      rw [← List.append_assoc]
      exact hypothesis (alternates.linger (.update _) performs)

/-- After so many turns so many stops of the novel lie behind. -/
theorem Alternates.along (alternates : Alternates callbacks first count sights session)
    (fresh : first.Fresh) (quiet : callbacks.Quiet) (nonempty : first.world.novel.scenes ≠ [])
    (linear : first.world.novel.Linear) :
    session.Stands sights.reverse ∧
      (session.player sights.reverse).Along first.world.novel
        (first.world.novel.stops - count) := by
  induction alternates with
  | start performed =>
      have plays : (Request.start : Request κ).Plays := trivial
      obtain ⟨same, stands⟩ := fresh.stands.turn quiet (.inl plays) performed
      rw [List.append_nil] at same stands
      refine ⟨stands, ?_⟩
      rw [same]
      exact (fresh.player_unstarted.along rfl nonempty).2
  | linger _ lingers performed hypothesis =>
      obtain ⟨stands, along⟩ := hypothesis
      obtain ⟨same, after⟩ := stands.turn quiet lingers.ordinary performed
      rw [List.reverse_append]
      refine ⟨after, ?_⟩
      rw [same]
      exact along.lingers lingers
  | advance _ idle performed hypothesis =>
      obtain ⟨stands, along⟩ := hypothesis
      have plays : (Request.advance : Request κ).Plays := trivial
      obtain ⟨same, after⟩ := stands.turn quiet (.inl plays) performed
      rw [List.reverse_append, ← Nat.sub_sub]
      refine ⟨after, ?_⟩
      rw [same]
      exact (along.advance linear idle).2

/-- A session of a novel that has scenes and no menus, whatever its typing interval and its
timings, starts, and goes on once for every stop and no more. It is finished when it has and not
before, and has told by then the whole rundown. -/
theorem plays_linear_novel (fresh : first.Fresh) (quiet : callbacks.Quiet)
    (nonempty : first.world.novel.scenes ≠ []) (linear : first.world.novel.Linear) :
    Would callbacks first .start true ∧
    ∀ count sights session, Alternates callbacks first count sights session →
      (∃ more rested, RunsDown callbacks session more rested ∧
        Alternates callbacks first count (sights ++ more) rested) ∧
      (session.timeline.nextDue? = none →
        Would callbacks session .advance (decide (count < first.world.novel.stops))) ∧
      (session.world.position.finished = true ↔ first.world.novel.stops ≤ count) ∧
      (sights.map (·.event)).filter Event.isPlaced <+: rundown first.world.novel ∧
      (first.world.novel.stops ≤ count →
        (sights.map (·.event)).filter Event.isPlaced = rundown first.world.novel) := by
  refine ⟨?_, ?_⟩
  · refine fresh.stands.would quiet .start trivial ?_
    exact congrArg Answer.flag (fresh.player_unstarted.along rfl nonempty).1
  intro count sights session alternates
  obtain ⟨stands, along⟩ := alternates.along fresh quiet nonempty linear
  have told : utterances sights.reverse = (sights.map (·.event)).filter Event.isPlaced := by
    simp [utterances]
  refine ⟨?_, ?_, ?_, ?_, ?_⟩
  · obtain ⟨more, rested, runsDown⟩ := stands.runsDown quiet
    exact ⟨more, rested, runsDown, runsDown.alternates alternates⟩
  · intro idle
    refine stands.would quiet .advance trivial ?_
    have answers := (along.advance linear idle).1
    simp only [Nat.sub_pos_iff_lt] at answers
    exact congrArg Answer.flag answers
  · rw [← Nat.sub_eq_zero_iff_le]
    exact along.finished_iff
  · rw [← told]
    exact along.said_prefix
  · intro enough
    rw [Nat.sub_eq_zero_of_le enough] at along
    rw [← told]
    exact along.said

end Session

namespace Sample

def pantomime : Novel where
  id := "pantomime"
  scenes := [
    { id := "dark" },
    { id := "stage"
      dialogues := [{ id := "bow", text := "Hm." }, { id := "pause" }] },
    { id := "curtain" }]

end Sample

namespace Session

open Sample

theorem plays_linear_novel_pantomime :
    nobody.Quiet ∧ pantomime.scenes ≠ [] ∧ pantomime.Linear ∧ pantomime.stops = 4 ∧
      ∃ sights session,
        Alternates nobody (new pantomime {} Rehearsal.willing 0 ()) 4 sights session ∧
        session.world.position.finished = true ∧
        (sights.map (·.event)).filter Event.isPlaced = rundown pantomime ∧
        (rundown pantomime).map Event.name = ["scene.enter", "scene.enter", "dialogue.enter",
          "dialogue.enter", "scene.enter", "playback.finished"] ∧
        Would nobody session .advance false := by
  have linear : pantomime.Linear := by
    simp [Linear, pantomime]
  have fresh : (new pantomime {} Rehearsal.willing 0 () : Session Rehearsal String Unit).Fresh :=
    fresh_new pantomime {} Rehearsal.willing 0 ()
  have begun : Alternates nobody (new pantomime {} Rehearsal.willing 0 ()) 0 _ _ :=
    .start ⟨60, rfl, rfl⟩
  have leaving := (begun.advance rfl ⟨60, rfl, rfl⟩).linger (.update 2000) ⟨60, rfl, rfl⟩
  have pausing := (leaving.advance rfl ⟨60, rfl, rfl⟩).advance rfl ⟨60, rfl, rfl⟩
  have alternates := (pausing.linger (.update 4000) ⟨60, rfl, rfl⟩).advance rfl ⟨60, rfl, rfl⟩
  obtain ⟨_, plays⟩ := plays_linear_novel fresh nobody_quiet (List.cons_ne_nil _ _) linear
  obtain ⟨_, answers, finished, _, said⟩ := plays _ _ _ alternates
  exact ⟨nobody_quiet, List.cons_ne_nil _ _, linear, rfl, _, _, alternates,
    finished.mpr (Nat.le_refl 4), said (Nat.le_refl 4), rfl, answers rfl⟩

end Session

end VisualNovel.Playback
