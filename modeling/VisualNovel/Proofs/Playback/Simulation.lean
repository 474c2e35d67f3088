import VisualNovel.Proofs.Playback.History
import VisualNovel.Proofs.Playback.Player.Clock

/-!
# Sessions show their players

An open session whose callbacks make no moves of their own does what its player
does in direct style: whatever is on the agenda comes to an end, and leaves the
session showing the player it should. Listeners that are told an event leave no
trace on the player.
-/

set_option autoImplicit false

namespace VisualNovel.Playback.Session

open VisualNovel.Agenda VisualNovel.Clock VisualNovel.Sound

variable {β κ η : Type}

def player (session : Session β κ η) (seen : List Sight) : Player κ where
  novel := session.world.novel
  timings := session.world.timings
  timeline := session.timeline
  position := session.world.position
  typewriter := session.world.typewriter
  generation := session.world.generation
  transition := session.world.transition
  started := session.world.started
  seen := seen

structure Shows (session : Session β κ η) (player : Player κ) : Prop where
  isOpen : session.world.closed = false
  playing : session.world.stopped = false
  same : ∃ seen, session.player seen = player

/-- Sessions, maybe on different devices, that differ in nothing that their players have. -/
structure Alike {γ θ : Type} (first : Session β κ η) (second : Session γ κ θ) : Prop where
  player : first.player [] = second.player []
  closed : first.world.closed = second.world.closed
  stopped : first.world.stopped = second.world.stopped

theorem Alike.refl (session : Session β κ η) : session.Alike session :=
  ⟨rfl, rfl, rfl⟩

theorem Alike.trans {γ δ θ ι : Type} {first : Session β κ η} {second : Session γ κ θ}
    {third : Session δ κ ι} (alike : first.Alike second) (next : second.Alike third) :
    first.Alike third :=
  ⟨alike.player.trans next.player, alike.closed.trans next.closed,
    alike.stopped.trans next.stopped⟩

theorem Alike.player_eq {γ θ : Type} {first : Session β κ η} {second : Session γ κ θ}
    (alike : first.Alike second) (seen : List Sight) : first.player seen = second.player seen :=
  congrArg (fun player : Player κ => { player with seen }) alike.player

theorem Shows.alike {session next : Session β κ η} {player : Player κ}
    (shows : session.Shows player) (alike : next.Alike session) : next.Shows player := by
  obtain ⟨isOpen, playing, told, rfl⟩ := shows
  exact ⟨alike.closed.trans isOpen, alike.stopped.trans playing, told, alike.player_eq told⟩

theorem Shows.isActive {session : Session β κ η} {player : Player κ}
    (shows : session.Shows player) :
    session.world.isActive = player.started := by
  obtain ⟨_, playing, told, rfl⟩ := shows
  simp [Stage.isActive, playing, Session.player]

theorem Shows.timeline {session : Session β κ η} {player : Player κ}
    (shows : session.Shows player) : session.timeline = player.timeline := by
  obtain ⟨_, _, told, rfl⟩ := shows
  rfl

theorem Shows.withTimeline {session : Session β κ η} {player : Player κ}
    (shows : session.Shows player) (timeline : Timeline (Alarm κ)) :
    Shows { session with timeline } { player with timeline } := by
  obtain ⟨isOpen, playing, told, rfl⟩ := shows
  exact ⟨isOpen, playing, told, rfl⟩

theorem Shows.isStale {session : Session β κ η} {player : Player κ}
    (shows : session.Shows player) (generation : Nat) :
    session.world.isStale generation = true ↔ ¬ generation = player.generation := by
  obtain ⟨_, playing, told, rfl⟩ := shows
  simp [Stage.isStale, playing, Session.player]

theorem Shows.whenOpen {session : Session β κ η} {player : Player κ}
    (shows : session.Shows player) (move : Move β κ η) : whenOpen session move = move := by
  unfold Session.whenOpen
  rw [shows.isOpen]
  rfl

theorem Shows.setPhase {session : Session β κ η} {player : Player κ}
    (shows : session.Shows player) (delay : Int) (label : String) (alarm : Alarm κ) :
    (session.setPhase delay label alarm).Shows (player.setPhase delay label alarm) := by
  obtain ⟨isOpen, playing, told, rfl⟩ := shows
  exact ⟨isOpen, playing, told, rfl⟩

def Tidy : List Signal → Prop
  | [] => True
  | .progress _ :: signals => Tidy signals
  | .complete _ :: signals => signals = []

theorem tidy_singleton (signal : Signal) : Tidy [signal] := by
  cases signal <;> trivial

theorem tidy_start (typewriter : Typewriter) (timeline : Timeline (Alarm κ)) (text : String) :
    Tidy (typewriter.start .strike text timeline).1 := by
  unfold Typewriter.start
  dsimp only
  split
  · rfl
  · split
    · rfl
    · trivial

theorem tidy_strike (typewriter : Typewriter) (timeline : Timeline (Alarm κ))
    (generation : Nat) : Tidy (typewriter.strike .strike generation timeline).1 := by
  unfold Typewriter.strike
  split
  · dsimp only
    split
    · rfl
    · trivial
  · trivial

variable [Device β] [DecidableEq κ] {callbacks : Callbacks κ η} {session : Session β κ η}
  {player middle next : Player κ} {task : Task κ η} {tasks more : List (Job (Task κ η))}
  {seen : List Sight} {post : Session β κ η → Prop}

def Leads (callbacks : Callbacks κ η) (session : Session β κ η) (tasks : List (Job (Task κ η)))
    (seen : List Sight) (next : Player κ) (post : Session β κ η → Prop := fun _ => True) : Prop :=
  ∃ sights final, Completes sighting (clockwork callbacks).step tasks session sights final ∧
    final.Shows next ∧ next.seen = sights.reverse ++ seen ∧ post final

variable (β) in
def Carries (callbacks : Callbacks κ η) (tasks : List (Job (Task κ η))) (player next : Player κ)
    (post : Session β κ η → Prop := fun _ => True) : Prop :=
  ∀ session : Session β κ η, session.Shows player →
    Leads callbacks session tasks player.seen next post

theorem Leads.nil (shows : session.Shows player) :
    Leads callbacks session [] player.seen player :=
  ⟨[], session, .nil, shows, rfl, trivial⟩

theorem Leads.cons {job : Job (Task κ η)}
    (leads : Leads callbacks ((clockwork callbacks).step job session).1
      (((clockwork callbacks).step job session).2 ++ tasks)
      ((sighting job session).reverse ++ seen) next post) :
    Leads callbacks session (job :: tasks) seen next post := by
  obtain ⟨sights, final, completes, shows, told, holds⟩ := leads
  refine ⟨_, final, .cons completes, shows, ?_, holds⟩
  rw [told, List.reverse_append, List.append_assoc]

theorem Leads.work
    (silent : sighting (.work task) session = [])
    (leads : Leads callbacks (act callbacks task session).1
      ((act callbacks task session).2 ++ tasks) seen next post) :
    Leads callbacks session (.work task :: tasks) seen next post := by
  apply Leads.cons
  rw [silent]
  exact leads

/-- What follows may make use of what holds where the first jobs come to an end. -/
theorem Leads.bind {between : Session β κ η → Prop}
    (first : Leads callbacks session tasks seen middle between)
    (second : ∀ state, state.Shows middle → between state →
      Leads callbacks state more middle.seen next post) :
    Leads callbacks session (tasks ++ more) seen next post := by
  obtain ⟨sights, state, completes, shows, told, reached⟩ := first
  obtain ⟨later, final, completesToo, showsNext, toldLater, holds⟩ := second state shows reached
  refine ⟨_, final, completes.append completesToo, showsNext, ?_, holds⟩
  rw [toldLater, told, List.reverse_append, List.append_assoc]

theorem Leads.append (first : Leads callbacks session tasks seen middle)
    (second : Carries β callbacks more middle next post) :
    Leads callbacks session (tasks ++ more) seen next post :=
  first.bind fun state shows _ => second state shows

theorem Carries.append (first : Carries β callbacks tasks player middle)
    (second : Carries β callbacks more middle next post) :
    Carries β callbacks (tasks ++ more) player next post :=
  fun session shows => (first session shows).append second

theorem Carries.cons {job : Job (Task κ η)}
    (first : Carries β callbacks [job] player middle)
    (second : Carries β callbacks more middle next post) :
    Carries β callbacks (job :: more) player next post :=
  first.append second

theorem carries_reply (answer : Answer) :
    Carries β callbacks [.work (.reply answer)] player player
      (fun final => final.world.answer = answer) := by
  intro session shows
  refine .work rfl ⟨[], _, .nil, ?_, rfl, rfl⟩
  exact ⟨shows.isOpen, shows.playing, shows.same⟩

/-! ## Listeners -/

def Overheard (callbacks : Callbacks κ η) (tasks : List (Job (Task κ η)))
    (session : Session β κ η) : Prop :=
  ∃ final, Completes sighting (clockwork callbacks).step tasks session [] final ∧
    final.Alike session

theorem overheard_nil (session : Session β κ η) : Overheard callbacks [] session :=
  ⟨session, .nil, .refl session⟩

theorem Overheard.cons {job : Job (Task κ η)} (silent : sighting job session = [])
    (same : Alike ((clockwork callbacks).step job session).1 session)
    (rest : Overheard callbacks (((clockwork callbacks).step job session).2 ++ tasks)
      ((clockwork callbacks).step job session).1) :
    Overheard callbacks (job :: tasks) session := by
  obtain ⟨final, completes, alike⟩ := rest
  have whole := Completes.cons completes
  rw [silent] at whole
  exact ⟨final, whole, alike.trans same⟩

theorem Overheard.append (first : Overheard callbacks tasks session)
    (second : ∀ middle : Session β κ η, Overheard callbacks more middle) :
    Overheard callbacks (tasks ++ more) session := by
  obtain ⟨middle, completes, alike⟩ := first
  obtain ⟨final, rest, alikeToo⟩ := second middle
  exact ⟨final, completes.append rest, alikeToo.trans alike⟩

theorem Overheard.leads (overheard : Overheard callbacks tasks session)
    (shows : session.Shows player) : Leads callbacks session tasks player.seen player := by
  obtain ⟨final, completes, alike⟩ := overheard
  exact ⟨[], final, completes, shows.alike alike, rfl, trivial⟩

theorem begin_quiet (session : Session β κ η) {made : Request κ} (quiet : made.Quiet) :
    (begin session made).1.Alike session ∧ (begin session made).2 = [] := by
  cases made with
  | toggleMute =>
      refine ⟨?_, rfl⟩
      simp only [begin]
      split <;> exact ⟨rfl, rfl, rfl⟩
  | setMuted | frame | statistics | isClosed => exact ⟨⟨rfl, rfl, rfl⟩, rfl⟩
  | start | advance | choose | restart | update | close | startTyping | skipTyping | stop | flush
  | cancelTimers | later | gesture => exact absurd quiet id

theorem overheard_quiet {made : Request κ} (quiet : made.Quiet) (session : Session β κ η) :
    Overheard callbacks [.work (.request made)] session := by
  obtain ⟨same, nothing⟩ := begin_quiet session quiet
  refine .cons rfl same ?_
  show Overheard callbacks ((begin session made).2 ++ []) (begin session made).1
  rw [nothing]
  exact overheard_nil _

private theorem overheard_script {script : SessionScript κ η} (asks : script.Asks Request.Quiet)
    (caller : Caller) (session : Session β κ η) :
    Overheard callbacks [.work (.script caller script)] session := by
  induction script generalizing session with
  | done | fail => exact .cons rfl ⟨rfl, rfl, rfl⟩ (overheard_nil _)
  | note change next ih =>
      -- the step of the script is that of its rest on the session with the note made
      obtain ⟨final, completes, alike⟩ := ih asks
        (withStage session fun stage => { stage with notes := change stage.notes })
      cases completes with
      | cons completes => exact ⟨final, .cons completes, alike.trans ⟨rfl, rfl, rfl⟩⟩
  | «recall» next ih =>
      obtain ⟨final, completes, alike⟩ := ih session.world.notes (asks session.world.notes) session
      cases completes with
      | cons completes => exact ⟨final, .cons completes, alike⟩
  | ask made next ih =>
      refine .cons rfl ⟨rfl, rfl, rfl⟩ ((overheard_quiet asks.1 _).append fun middle => ?_)
      exact .cons rfl (.refl middle) (ih middle.world.answer (asks.2 _) middle)

private theorem overheard_deliver (quiet : callbacks.Quiet) (event : Event) (listener : Listener κ)
    (session : Session β κ η) : Overheard callbacks [.work (.deliver event listener)] session := by
  cases listener with
  | sound => exact .cons rfl (by cases event <;> exact ⟨rfl, rfl, rfl⟩) (overheard_nil _)
  | cue cue => exact .cons rfl (.refl session) (overheard_script (quiet cue event) _ session)

theorem overheard_deliveries (quiet : callbacks.Quiet) (event : Event)
    (listeners : List (Listener κ)) (session : Session β κ η) :
    Overheard callbacks ((listeners.map (Task.deliver event)).map .work) session := by
  induction listeners generalizing session with
  | nil => exact overheard_nil session
  | cons listener rest ih => exact (overheard_deliver quiet event listener session).append ih

theorem carries_quiet {made : Request κ} (quiet : made.Quiet) :
    Carries β callbacks [.work (.request made)] player player :=
  fun session shows => (overheard_quiet quiet session).leads shows

/-- Telling an event is seen, whoever listens. -/
theorem carries_emit (quiet : callbacks.Quiet) (event : Event) :
    Carries β callbacks [.work (.emit event)] player (player.emit event) := by
  intro session shows
  obtain ⟨isOpen, playing, told, rfl⟩ := shows
  have shows : (emit session event).1.Shows ((session.player told).emit event) :=
    ⟨isOpen, playing, _, rfl⟩
  obtain ⟨sights, final, completes, showsNext, seen, _⟩ :=
    (overheard_deliveries quiet event (session.world.bus.heard event.name) _).leads shows
  refine .cons ⟨sights, final, ?_, showsNext, seen, trivial⟩
  rw [List.append_nil]
  exact completes

/-! ## The line -/

def Moves (callbacks : Callbacks κ η) (move : Move β κ η) (seen : List Sight)
    (next : Player κ) (post : Session β κ η → Prop := fun _ => True) : Prop :=
  Leads callbacks move.1 (move.2.map .work) seen next post

theorem Shows.heed {signals : List Signal} (shows : session.Shows player)
    (quiet : callbacks.Quiet) (tidy : Tidy signals) :
    Moves callbacks (heed session signals) player.seen (player.heed signals) := by
  induction signals generalizing session player with
  | nil => exact .nil shows
  | cons signal signals ih =>
      cases signal with
      | progress revealed =>
          obtain ⟨isOpen, playing, told, rfl⟩ := shows
          exact ih ⟨isOpen, playing, told, rfl⟩ tidy
      | complete skipped =>
          obtain rfl : signals = [] := tidy
          obtain ⟨isOpen, playing, told, rfl⟩ := shows
          exact carries_emit quiet _ _ ⟨isOpen, playing, told, rfl⟩

theorem carries_task {move : Session β κ η → Move β κ η}
    (acts : ∀ session, act callbacks task session = jobs (move session))
    (silent : ∀ session : Session β κ η, sighting (.work task) session = [])
    (moves : ∀ session, session.Shows player →
      Moves callbacks (move session) player.seen next post) :
    Carries β callbacks [.work task] player next post := by
  intro session shows
  refine .work (silent session) ?_
  rw [acts, List.append_nil]
  exact moves session shows

/-- A session types its line where its player does. -/
theorem Shows.typeLine? (shows : session.Shows player) (quiet : callbacks.Quiet) :
    (session.typeLine? = none ∧ player.typeLine? = none) ∨
      ∃ move next, session.typeLine? = some move ∧ player.typeLine? = some next ∧
        Moves callbacks move player.seen next := by
  unfold Session.typeLine? Player.typeLine?
  dsimp only
  rw [shows.isActive]
  obtain ⟨isOpen, playing, told, rfl⟩ := shows
  have line : (session.player told).dialogue? = session.world.dialogue? := rfl
  have finished : (session.player told).position.finished = session.world.position.finished := rfl
  rw [line, finished]
  cases session.world.dialogue? with
  | none => exact .inl ⟨rfl, rfl⟩
  | some dialogue =>
      dsimp only
      split
      · exact .inl ⟨rfl, rfl⟩
      · exact .inr ⟨_, _, rfl, rfl, Shows.heed ⟨isOpen, playing, told, rfl⟩ quiet
          (tidy_start _ _ _)⟩

private theorem carries_typeLine (quiet : callbacks.Quiet) :
    Carries β callbacks [.work .typeLine] player (player.typeLine?.getD player) := by
  refine carries_task (fun _ => rfl) (fun _ => rfl) ?_
  intro session shows
  rcases shows.typeLine? quiet with ⟨none, noneToo⟩ | ⟨move, next, some, someToo, moves⟩
  · rw [none, noneToo]
    exact .nil shows
  · rw [some, someToo]
    exact moves

theorem Shows.enterDialogue (shows : session.Shows player) (quiet : callbacks.Quiet) :
    Moves callbacks session.enterDialogue player.seen player.enterDialogue := by
  obtain ⟨isOpen, playing, told, rfl⟩ := shows
  unfold Session.enterDialogue Player.enterDialogue
  have line : (session.player told).dialogue? = session.world.dialogue? := rfl
  rw [line]
  cases session.world.dialogue? with
  | none => exact .nil ⟨isOpen, playing, told, rfl⟩
  | some dialogue =>
      exact ((carries_emit quiet _).cons (carries_typeLine quiet)) _
        ⟨isOpen, playing, told, rfl⟩

theorem carries_enterDialogue (quiet : callbacks.Quiet) :
    Carries β callbacks [.work .enterDialogue] player player.enterDialogue :=
  carries_task (fun _ => rfl) (fun _ => rfl) fun _ shows => shows.enterDialogue quiet

theorem carries_strike (quiet : callbacks.Quiet) (generation : Nat) :
    Carries β callbacks [.work (.strike generation)] player (player.strike generation) := by
  refine carries_task (fun _ => rfl) (fun _ => rfl) ?_
  rintro session ⟨isOpen, playing, told, rfl⟩
  exact Shows.heed ⟨isOpen, playing, told, rfl⟩ quiet (tidy_strike _ _ _)

/-! ## Transitions -/

theorem carries_enterScene (quiet : callbacks.Quiet) :
    Carries β callbacks [.work .enterScene] player player.enterScene := by
  refine carries_task (fun _ => rfl) (fun _ => rfl) ?_
  rintro session ⟨isOpen, playing, told, rfl⟩
  exact ((carries_emit quiet _).cons (carries_enterDialogue quiet)) _
    ⟨isOpen, playing, told, rfl⟩

theorem carries_clear (quiet : callbacks.Quiet) (generation : Nat) :
    Carries β callbacks [.work (.clear generation)] player (player.clear generation) := by
  refine carries_task (fun _ => rfl) (fun _ => rfl) ?_
  intro session shows
  have stale := shows.isStale generation
  obtain ⟨isOpen, playing, told, rfl⟩ := shows
  unfold Session.clear Player.clear
  by_cases current : generation = (session.player told).generation
  · rw [if_neg (stale.not.mpr (not_not.mpr current)), if_pos current]
    exact carries_emit quiet _ _ ⟨isOpen, playing, told, rfl⟩
  · rw [if_pos (stale.mpr current), if_neg current]
    exact .nil ⟨isOpen, playing, told, rfl⟩

private theorem carries_awaitClear (quiet : callbacks.Quiet) (generation : Nat) (timing : Timing) :
    Carries β callbacks [.work (.awaitClear generation timing)] player
      (player.awaitClear generation timing) := by
  refine carries_task (fun _ => rfl) (fun _ => rfl) ?_
  intro session shows
  have stale := shows.isStale generation
  unfold Session.awaitClear Player.awaitClear
  by_cases current : generation = player.generation
  · rw [if_neg (stale.not.mpr (not_not.mpr current)), if_pos current]
    by_cases instant : timing.clear ≤ 0
    · rw [if_pos instant, if_pos instant]
      exact carries_clear quiet generation session shows
    · rw [if_neg instant, if_neg instant]
      exact .nil (shows.setPhase _ _ _)
  · rw [if_pos (stale.mpr current), if_neg current]
    exact .nil shows

theorem carries_commit (quiet : callbacks.Quiet) (generation : Nat) (target : Int)
    (timing : Timing) :
    Carries β callbacks [.work (.commit generation target timing)] player
      (player.commit generation target timing) := by
  refine carries_task (fun _ => rfl) (fun _ => rfl) ?_
  intro session shows
  have stale := shows.isStale generation
  obtain ⟨isOpen, playing, told, rfl⟩ := shows
  unfold Session.commit Player.commit
  by_cases current : generation = (session.player told).generation
  · rw [if_neg (stale.not.mpr (not_not.mpr current)), if_pos current]
    exact ((carries_emit quiet _).cons ((carries_enterScene quiet).cons
      (carries_awaitClear quiet generation timing))) _ ⟨isOpen, playing, told, rfl⟩
  · rw [if_pos (stale.mpr current), if_neg current]
    exact .nil ⟨isOpen, playing, told, rfl⟩

private theorem carries_awaitCommit (quiet : callbacks.Quiet) (generation : Nat) (target : Int)
    (timing : Timing) :
    Carries β callbacks [.work (.awaitCommit generation target timing)] player
      (player.awaitCommit generation target timing) := by
  refine carries_task (fun _ => rfl) (fun _ => rfl) ?_
  intro session shows
  unfold Session.awaitCommit Player.awaitCommit
  by_cases instant : timing.commit ≤ 0
  · rw [if_pos instant, if_pos instant]
    exact carries_commit quiet generation target timing session shows
  · rw [if_neg instant, if_neg instant]
    exact .nil (shows.setPhase _ _ _)

theorem carries_beginTransition (quiet : callbacks.Quiet) (target : Int) :
    Carries β callbacks [.work (.beginTransition target)] player
      (player.beginTransition target) := by
  refine carries_task (fun _ => rfl) (fun _ => rfl) ?_
  rintro session ⟨isOpen, playing, told, rfl⟩
  exact ((carries_emit quiet _).cons (carries_awaitCommit quiet _ target _)) _
    ⟨isOpen, playing, told, rfl⟩

end VisualNovel.Playback.Session
