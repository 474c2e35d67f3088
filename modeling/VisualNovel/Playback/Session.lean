import VisualNovel.Playback.Gesture
import VisualNovel.Playback.Moves
import VisualNovel.Settings.Preferences

/-!
# Sessions

A session takes requests from its host and from its callbacks. Every event goes to
those who listen at that moment, the sound first. A callback that fails is
reported, and nothing else comes of it. Closing a session cancels every timer and
gives up the sound; afterwards it refuses everything.
-/

set_option autoImplicit false

namespace VisualNovel.Playback.Session

open VisualNovel.Agenda VisualNovel.Clock VisualNovel.Sound

variable {β κ η : Type}

def jobs (move : Move β κ η) : Session β κ η × List (Job (Task κ η)) :=
  (move.1, move.2.map .work)

/-- An operation of the session itself, refused when it is closed. -/
def whenOpen (session : Session β κ η) (move : Move β κ η) : Move β κ η :=
  if session.world.closed then refuse session else move

/-- Counts an event and notes it, and sends it to those who listen. -/
def emit (session : Session β κ η) (event : Event) : Move β κ η :=
  (withStage session fun stage =>
      { stage with
        bus := stage.bus.count event.name
        chronicle := (session.timeline.now, event) :: stage.chronicle },
    (session.world.bus.heard event.name).map (.deliver event))

/-- Carries a script on. A request it makes comes before its continuation. -/
def proceed (session : Session β κ η) (caller : Caller) (script : SessionScript κ η) :
    Move β κ η :=
  let (pause, notes) := script.proceed session.world.notes
  let session := withStage session fun stage => { stage with notes }
  match pause with
  | .done => (session, [])
  | .failed =>
      (withStage session fun stage =>
        { stage with warnings := caller.failure :: stage.warnings }, [])
  | .asks made next => (session, [.request made, .resume caller next])

variable [Device β] [DecidableEq κ]

def attachSound (session : Session β κ η) : Session β κ η :=
  withStage session fun stage =>
    { stage with
      bus := soundEventNames.foldl (fun bus name => bus.subscribe name .sound) stage.bus }

def closeSound (session : Session β κ η) : Session β κ η :=
  withStage session fun stage =>
    if stage.sound.closed then stage
    else
      { stage with
        bus := soundEventNames.foldl (fun bus name => bus.unsubscribe name .sound) stage.bus
        }.withSound stage.sound.close

/-- Closes the session. Its last event is told before the listeners are forgotten. -/
def close (session : Session β κ η) : Move β κ η :=
  if session.world.closed then (session, [.reply .nothing])
  else
    let session := withStage session fun stage => { stage with closed := true }
    let session := (stopPlayer session).2
    let session := closeSound { session with timeline := session.timeline.close }
    (session, [.emit .closed, .forgetListeners, .reply .nothing])

def setMuted (session : Session β κ η) (muted : Bool) : Session β κ η :=
  withStage session fun stage => stage.withSound (stage.sound.setMuted muted)

def begin (session : Session β κ η) : Request κ → Session β κ η × List (Job (Task κ η))
  | .start => jobs (whenOpen session (start session))
  | .advance => jobs (whenOpen session (advance session))
  | .choose choiceId => jobs (whenOpen session (choose session choiceId))
  | .restart => jobs (whenOpen session (restart session))
  | .toggleMute =>
      let session :=
        if session.world.closed then session else setMuted session (!session.world.sound.muted)
      (reply session (.flag session.world.sound.muted), [])
  | .update time =>
      if session.world.closed then (reply session (.count 0), [])
      else (session, [.update time, .work .replyCount])
  | .close => jobs (close session)
  | .startTyping => jobs (startTyping session)
  | .skipTyping => jobs (skipTyping session)
  | .stop =>
      let (stopped, session) := stopPlayer session
      (reply session (.flag stopped), [])
  | .flush limit => (session, [.flush limit 0, .work .replyCount])
  | .cancelTimers =>
      (reply { session with timeline := session.timeline.cancelAll } .nothing, [])
  | .later delay label cue =>
      let ((number, _), timeline) := session.timeline.later delay label (.ring cue)
      (reply { session with timeline } (.flag (timeline.isPending number)), [])
  | .setMuted muted => (reply (setMuted session muted) .nothing, [])
  | .frame => (reply session (.frame session.world.frame), [])
  | .statistics => (reply session (.statistics session.world.bus.statistics), [])
  | .isClosed => (reply session (.flag session.world.closed), [])
  | .gesture made =>
      if session.world.closed then (reply session made.ignored, [])
      else jobs (session, meaning session made)

def act (callbacks : Callbacks κ η) (task : Task κ η) (session : Session β κ η) :
    Session β κ η × List (Job (Task κ η)) :=
  match task with
  | .request made => begin session made
  | .reply answer => (reply session answer, [])
  | .replyCount => (reply session (.count session.ran), [])
  | .emit event => jobs (emit session event)
  | .deliver event .sound => (withStage session fun stage => stage.hear event, [])
  | .deliver event (.cue cue) =>
      (session, [.work (.script (.listener event.name) (callbacks.hears cue event))])
  | .script caller rest => jobs (proceed session caller rest)
  | .resume caller next => (session, [.work (.script caller (next session.world.answer))])
  | .enterScene => jobs (enterScene session)
  | .enterDialogue => jobs (enterDialogue session)
  | .typeLine => jobs ((typeLine? session).getD (session, []))
  | .beginTransition target => jobs (beginTransition session target)
  | .awaitCommit generation target timing =>
      jobs (awaitCommit session generation target timing)
  | .commit generation target timing => jobs (commit session generation target timing)
  | .awaitClear generation timing => jobs (awaitClear session generation timing)
  | .clear generation => jobs (clear session generation)
  | .strike generation => jobs (strike session generation)
  | .forgetListeners =>
      (withStage session fun stage => { stage with bus := stage.bus.clear }, [])

def ring (callbacks : Callbacks κ η) (timer : Timer (Alarm κ)) : List (Task κ η) :=
  match timer.payload with
  | .strike generation => [.strike generation]
  | .commit generation target timing => [.commit generation target timing]
  | .clear generation => [.clear generation]
  | .ring cue => [.script (.timer timer.name) (callbacks.rings cue)]

def clockwork (callbacks : Callbacks κ η) :
    Clockwork (Alarm κ) (Stage β κ η) (Task κ η) where
  start := ring callbacks
  act := act callbacks

/-- A session that has not started. Its sound listens already. -/
def new (novel : Novel) (preferences : Preferences) (device : β) (now : Int) (notes : η) :
    Session β κ η :=
  attachSound {
    timeline := { now }
    world := {
      novel
      timings := preferences.timings
      typewriter := { interval := preferences.typingInterval }
      sound := Coordinator.new device preferences.musicVolume preferences.voiceVolume
        preferences.sfxVolume preferences.muted
      notes } }

def listen (session : Session β κ η) (name : String) (cue : κ) : Session β κ η :=
  withStage session fun stage => { stage with bus := stage.bus.subscribe name (.cue cue) }

def perform? (callbacks : Callbacks κ η) (budget : Nat) (made : Request κ)
    (session : Session β κ η) : Option (Answer × Session β κ η) :=
  ((clockwork callbacks).run budget [.work (.request made)] session).map fun session =>
    (session.world.answer, session)

end VisualNovel.Playback.Session
