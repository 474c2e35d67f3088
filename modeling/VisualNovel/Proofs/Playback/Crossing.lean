import VisualNovel.Proofs.Playback.Player.Course
import VisualNovel.Proofs.Playback.Standing

/-!
# Transitions keep to the clock

A request that leaves for another scene begins a transition of two phases. However
the clock is moved on and whatever else is asked for, the new scene is put in place
when the first phase is over and the transition ends when the second is, to the
reading; until then nothing leads anywhere else.
-/

set_option autoImplicit false

namespace VisualNovel.Playback

open VisualNovel.Agenda VisualNovel.Clock VisualNovel.Sound VisualNovel.Novel

variable {β κ η : Type}

/-! ## Leaving for another scene -/

namespace Session

structure AtEnd (session : Session β κ η) : Prop where
  started : session.world.started = true
  unfinished : session.world.position.finished = false
  still : session.world.position.transitioning = false
  revealed : session.world.position.isTyping = false
  noMenu : session.world.dialogue?.any Dialogue.hasChoices = false

def hasNextLine (session : Session β κ η) : Bool :=
  session.world.scene?.any fun scene =>
    session.world.position.dialogue + 1 < scene.dialogues.length

/-- A request leaves for a scene: for the next one from the last line of a scene, or for the one
that a choice leads to. -/
inductive SetsOut (session : Session β κ η) : Request κ → Int → Prop where
  | advance : session.AtEnd → session.hasNextLine = false →
      session.world.position.scene + 1 < session.world.novel.scenes.length →
      SetsOut session .advance (session.world.position.scene + 1)
  | choose {choiceId : String} {dialogue : Dialogue} {choice : Choice} {target : Nat} :
      session.world.started = true → session.world.position.finished = false →
      session.world.position.transitioning = false →
      session.world.dialogue? = some dialogue → dialogue.choice? choiceId = some choice →
      session.world.novel.sceneIndex? choice.targetSceneId = some target →
      SetsOut session (.choose choiceId) target

def styleOf (session : Session β κ η) (target : Int) : Transition :=
  ((session.world.novel.sceneAt? target).bind fun scene => scene.transition).getD .fade

def departureTo (session : Session β κ η) (target : Int) : Departure where
  clock := session.timeline.now
  origin := session.world.position.place
  target := target
  timing := session.world.timings.timingFor (some (session.styleOf target))

variable {session before after first last : Session β κ η} {made : Request κ} {target : Int}
  {seen sights since : List Sight} {departure : Departure}

theorem SetsOut.started (setsOut : session.SetsOut made target) :
    session.world.started = true := by
  cases setsOut with
  | advance ended _ _ => exact ended.started
  | choose started _ _ _ _ _ => exact started

theorem SetsOut.plays (setsOut : session.SetsOut made target) : made.Plays := by
  cases setsOut <;> trivial

theorem SetsOut.leaves (setsOut : session.SetsOut made target) (seen : List Sight) :
    (session.player seen).position.finished = false ∧
      (session.player seen).position.transitioning = false ∧
      ∃ ready, (session.player seen).Leaves made target ready := by
  cases setsOut with
  | advance ended last further =>
      exact ⟨ended.unfinished, ended.still, _, .advance
        ⟨ended.unfinished, ended.still, ended.revealed, ended.noMenu⟩ last further⟩
  | choose _ unfinished still line chosen led =>
      exact ⟨unfinished, still, _, .choose line chosen led⟩

theorem setsOut_of_leaves {ready : Player κ} (started : session.world.started = true)
    (unfinished : session.world.position.finished = false)
    (still : session.world.position.transitioning = false)
    (leaves : (session.player seen).Leaves made target ready) : session.SetsOut made target := by
  cases leaves with
  | advance ended last further =>
      exact .advance ⟨started, ended.unfinished, ended.still, ended.revealed, ended.noMenu⟩ last
        further
  | choose line chosen led => exact .choose started unfinished still line chosen led

/-! ## From the beginning of a transition to its end -/

def Underway (departure : Departure) (session : Session β κ η) (seen since : List Sight) : Prop :=
  ∃ strike phase, (session.player seen).Coherent strike phase ∧
    (session.player seen).Rested phase ∧
    Player.Course departure session.world.novel (session.player seen) phase since.reverse

variable [DecidableEq κ] [Device β] {callbacks : Callbacks κ η} {turns more : List (Turn β κ η)}
  {answer : Answer}

/-- A request on which a transition begins leaves for a scene. -/
theorem Stands.setsOut_of_begins (stands : before.Stands seen) (quiet : callbacks.Quiet)
    (ordinary : made.Plays ∨ made.Quiet)
    (performed : Performs callbacks before made sights answer after)
    (begins : ∃ sight ∈ sights, sight.event.begins = true) :
    ∃ target, before.SetsOut made target := by
  obtain ⟨same, afterwards⟩ := stands.turn quiet ordinary performed
  have told : ((before.player seen).respond made).2.seen = sights.reverse ++ seen := by
    rw [← same]
    rfl
  obtain ⟨sight, member, begins⟩ := begins
  have excluded : ¬ Player.Continues (before.player seen)
      ((before.player seen).respond made).2 := by
    rintro ⟨more, seenToo, fine⟩
    obtain rfl := List.append_cancel_right (told.symm.trans seenToo)
    have other := fine sight (List.mem_reverse.mpr member)
    exact absurd (other.symm.trans begins) Bool.false_ne_true
  cases stands.resting with
  | unstarted unstarted =>
      rcases unstarted.comes made with ⟨time, still⟩ | ⟨_, nonempty, started⟩
      · rw [still] at excluded
        exact absurd (Player.Continues.refl (before.player seen)) excluded
      · obtain ⟨_, _, _, continues⟩ := unstarted.start nonempty
        rw [started] at excluded
        exact absurd continues excluded
  | coherent coherent rested =>
      obtain ⟨_, _, _, _, turned⟩ := coherent.comes rested made
      rcases turned.goesOn.2 with continues | ⟨unfinished, still, _, target, ready, leaves, _⟩
      · exact absurd continues excluded
      · exact ⟨target, setsOut_of_leaves coherent.started unfinished still leaves⟩

/-- A request that leaves for a scene tells first that a transition begins, and puts it on its way.
-/
theorem Stands.begins (stands : before.Stands seen) (quiet : callbacks.Quiet)
    (setsOut : before.SetsOut made target)
    (performed : Performs callbacks before made sights answer after) :
    answer = .flag true ∧ ∃ ahead start rest, sights = ahead ++ start :: rest ∧
      start.event =
        .transitionStart before.world.position.scene target (before.styleOf target) ∧
      start.At before.timeline.now before.world.position.place true ∧
      (∀ sight ∈ ahead ++ rest, sight.event.begins = false) ∧
      Underway (before.departureTo target) after (sights.reverse ++ seen) rest := by
  obtain ⟨unfinished, still, ready, leaves⟩ := setsOut.leaves seen
  obtain ⟨_, _, coherent, _⟩ := stands.coherent setsOut.started
  obtain ⟨same, _⟩ := stands.turn quiet (.inl setsOut.plays) performed
  have responds := leaves.respond coherent.started unfinished still
  have given := stands.answers quiet setsOut.plays performed
  obtain ⟨begun, following, coherentNext, departs⟩ := leaves.departs coherent unfinished
  rw [responds] at same given
  have left : after.player (sights.reverse ++ seen) = ready.beginTransition target := same
  rw [← left] at coherentNext departs
  obtain ⟨ahead, start, rest, told, event, there, fine, course⟩ := leaves.begins departs
  have split : sights = ahead ++ start :: rest := by
    have reversed : sights.reverse = (ahead ++ start :: rest).reverse :=
      List.append_cancel_right told
    simpa using congrArg List.reverse reversed
  have novel := (stands.constant quiet (.inl setsOut.plays) performed).1
  refine ⟨given, ahead, start, rest, split, event, there, fine, begun, following, coherentNext,
    departs.rested, ?_⟩
  rw [novel]
  exact course

theorem Underway.turn (underway : Underway departure before seen since)
    (stands : before.Stands seen) (quiet : callbacks.Quiet)
    (ordinary : made.Plays ∨ made.Quiet)
    (performed : Performs callbacks before made sights answer after) :
    Underway departure after (sights.reverse ++ seen) (since ++ sights) := by
  obtain ⟨strike, phase, coherent, rested, course⟩ := underway
  obtain ⟨same, _⟩ := stands.turn quiet ordinary performed
  have novel := (stands.constant quiet ordinary performed).1
  obtain ⟨begun, following, coherentNext, restedNext, turned⟩ := coherent.comes rested made
  obtain ⟨more, told, courseNext⟩ := coherent.course turned course
  rw [← same] at coherentNext restedNext courseNext told
  obtain rfl : sights.reverse = more := List.append_cancel_right told
  refine ⟨begun, following, coherentNext, restedNext, ?_⟩
  rw [novel, List.reverse_append]
  exact courseNext

theorem Underway.history (history : History callbacks first turns last)
    (underway : Underway departure first seen since) (stands : first.Stands seen)
    (quiet : callbacks.Quiet) :
    Underway departure last ((seenIn turns).reverse ++ seen) (since ++ seenIn turns) := by
  -- by induction on the turns: each leaves the transition under way or ended in time
  induction history with
  | nil => simpa [seenIn] using underway
  | snoc history ordinary performed ih =>
      have next := ih.turn (history.stands quiet stands) quiet ordinary performed
      simpa [seenIn] using next

def Refuses (callbacks : Callbacks κ η) (session : Session β κ η) : Prop :=
  Would callbacks session .advance false ∧
    ∀ choiceId, Would callbacks session (.choose choiceId) false

theorem Stands.refuses (stands : session.Stands seen) (quiet : callbacks.Quiet)
    (transitioning : session.world.position.transitioning = true) :
    Refuses callbacks session := by
  have under : (session.player seen).position.transitioning = true := transitioning
  have refuses := Player.refuses_of_transitioning under
  refine ⟨stands.would quiet .advance trivial refuses.1, ?_⟩
  intro choiceId
  exact stands.would quiet (.choose choiceId) trivial (refuses.2 choiceId)

/-- A session stands where a departure and the clock say, and so did all that was seen since. -/
structure OnCourse (callbacks : Callbacks κ η) (departure : Departure) (session : Session β κ η)
    (since : List Sight) : Prop where
  waiting : session.timeline.now < departure.arrival →
    session.world.position.place = departure.origin ∧
      session.world.position.transitioning = true ∧ Refuses callbacks session ∧
      Departure.Calm departure.origin since
  showing : departure.arrival ≤ session.timeline.now →
    session.timeline.now < departure.ending →
    session.world.position.place = (departure.target, 0) ∧
      session.world.position.transitioning = true ∧ Refuses callbacks session ∧
      departure.Shown session.world.novel since
  ended : departure.ending ≤ session.timeline.now →
    ∃ shown ending after, since = shown ++ ending :: after ∧
      departure.Shown session.world.novel shown ∧
      ending.event = .transitionEnd departure.target ∧
      ending.At departure.ending (departure.target, 0) false

/-- A transition on its way is where the clock says. -/
theorem Underway.onCourse (underway : Underway departure session seen since)
    (stands : session.Stands seen) (quiet : callbacks.Quiet) :
    OnCourse callbacks departure session since := by
  obtain ⟨strike, phase, coherent, rested, course⟩ := underway
  have apart : departure.arrival ≤ departure.ending := by
    unfold Departure.ending
    omega
  have backwards : since = since.reverse.reverse := (List.reverse_reverse since).symm
  generalize since.reverse = sights at course backwards
  subst backwards
  -- between requests no phase is due, so the clock tells which stage the transition is in
  cases course with
  | @waiting timer _ _ here transitioning due _ calm =>
      have early : session.timeline.now < departure.arrival := due ▸ rested timer rfl
      refine ⟨fun _ => ⟨here, transitioning, stands.refuses quiet transitioning, calm.reverse⟩,
        fun late => ?_, fun late => ?_⟩ <;> omega
  | @showing timer _ here transitioning late due _ shown =>
      have early : session.timeline.now < departure.ending := due ▸ rested timer rfl
      have lateToo : departure.arrival ≤ session.timeline.now := late
      refine ⟨fun early => ?_, fun _ _ => ⟨here, transitioning,
        stands.refuses quiet transitioning, shown⟩, fun late => ?_⟩ <;> omega
  | @ended _ after before ending late event there shown =>
      have lateToo : departure.ending ≤ session.timeline.now := late
      refine ⟨fun early => ?_, fun _ early => ?_, fun _ => ?_⟩
      · omega
      · omega
      · exact ⟨before.reverse, ending, after.reverse, by simp, shown, event, there⟩

/-- A transition begins exactly where a request leaves for a scene, and keeps to its course from
then on, through every history. -/
theorem History.transition_commits_and_clears_in_time
    (history : History callbacks first turns before) (quiet : callbacks.Quiet)
    (fresh : first.Fresh) (ordinary : made.Plays ∨ made.Quiet)
    (performed : Performs callbacks before made sights answer after) :
    ((∃ sight ∈ sights, sight.event.begins = true) → ∃ target, before.SetsOut made target) ∧
      ∀ target, before.SetsOut made target → answer = .flag true ∧
        ∃ ahead start rest, sights = ahead ++ start :: rest ∧
          start.event =
            .transitionStart before.world.position.scene target (before.styleOf target) ∧
          start.At before.timeline.now before.world.position.place true ∧
          (∀ sight ∈ ahead ++ rest, sight.event.begins = false) ∧
          ∀ more last, History callbacks after more last →
            OnCourse callbacks (before.departureTo target) last (rest ++ seenIn more) := by
  have stands := history.stands quiet fresh.stands
  refine ⟨stands.setsOut_of_begins quiet ordinary performed, ?_⟩
  intro target setsOut
  obtain ⟨given, ahead, start, rest, split, event, there, fine, underway⟩ :=
    stands.begins quiet setsOut performed
  refine ⟨given, ahead, start, rest, split, event, there, fine, ?_⟩
  intro more last further
  have standsAfter := (stands.turn quiet ordinary performed).2
  exact (underway.history further standsAfter quiet).onCourse
    (further.stands quiet standsAfter) quiet

theorem transition_to_ferry_commits_and_clears : ∃ turns before sights after,
    History Sample.nobody Sample.opened turns before ∧
      Performs Sample.nobody before (.choose "yes") sights (.flag true) after ∧
      ∃ ahead start rest, sights = ahead ++ start :: rest ∧
        start.event = .transitionStart 0 1 .slide ∧
        ∀ more last, History Sample.nobody after more last →
          OnCourse Sample.nobody ⟨500, (0, 1), 1, ⟨300, 100⟩⟩ last (rest ++ seenIn more) := by
  obtain ⟨turns, before, sights, answer, after, ran, performs, setsOut, scene, style, departure⟩ :
      ∃ turns before sights answer after,
        run? Sample.nobody 100 Sample.opened [.start, .skipTyping, .advance, .update 500] =
            some (turns, before) ∧
          Performs Sample.nobody before (.choose "yes") sights answer after ∧
          before.SetsOut (.choose "yes") 1 ∧ before.world.position.scene = 0 ∧
          before.styleOf 1 = .slide ∧
          before.departureTo 1 = ⟨500, (0, 1), 1, ⟨300, 100⟩⟩ :=
    ⟨_, _, _, _, _, rfl, ⟨100, rfl, rfl⟩, .choose rfl rfl rfl rfl rfl rfl, rfl, rfl, rfl⟩
  have history := history_of_run? (by simp [Request.Plays]) ran
  have crosses := history.transition_commits_and_clears_in_time Sample.nobody_quiet
    Sample.opened_fresh (.inl (by trivial)) performs
  obtain ⟨rfl, ahead, start, rest, split, event, _, _, course⟩ := crosses.2 1 setsOut
  rw [scene, style] at event
  rw [departure] at course
  exact ⟨turns, before, sights, after, history, performs, ahead, start, rest, split, event, course⟩

end Session

end VisualNovel.Playback
