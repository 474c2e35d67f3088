import VisualNovel.Json.Value
import VisualNovel.Novel.Writing
import VisualNovel.Playback.Stage
import VisualNovel.Playback.Typing

/-!
# Playbacks as data values

Frames, events, answers and counts for hosts that are told of a playback by data.
Scenes, lines and choices are told by their identifiers.
-/

set_option autoImplicit false

namespace VisualNovel.Event

open VisualNovel.Json

def countsValue (counts : List (String × Nat)) : Value :=
  .object (counts.map fun (name, count) => (name, .integer count))

def Statistics.fields (statistics : Statistics) : Entries :=
  [("events", countsValue statistics.events), ("listeners", countsValue statistics.listeners),
    ("total_emits", .integer statistics.total)]

end VisualNovel.Event

namespace VisualNovel.Playback

open VisualNovel.Event VisualNovel.Json VisualNovel.Novel

def BackgroundStyle.toValue (style : BackgroundStyle) : Value :=
  .object
    [("image_url", .ofText? style.imageUrl), ("size", .text style.size),
      ("position", .text style.position)]

def FullTheme.toValue (theme : FullTheme) : Value :=
  Theme.toValue ⟨some theme.fontFamily, some theme.fontSize⟩

def Speaker.toValue (speaker : Speaker) : Value :=
  .object
    [("name", .text speaker.name), ("color", .text speaker.color),
      ("character_id", .ofText? speaker.characterId)]

def Frame.fields (frame : Frame) : Entries :=
  [("status", .text frame.status.word), ("scene_index", .integer frame.sceneIndex),
    ("dialogue_index", .integer frame.dialogueIndex), ("novel_title", .text frame.novelTitle),
    ("scene_id", .ofText? frame.sceneId), ("scene_name", .text frame.sceneName),
    ("background", (frame.background.map BackgroundStyle.toValue).getD .null),
    ("speaker", frame.speaker.toValue), ("sprite_url", .ofText? frame.spriteUrl),
    ("expression", .ofText? frame.expression), ("text", .text frame.text),
    ("revealed_chars", .integer frame.revealed), ("text_effect", wordValue frame.textEffect),
    ("theme", frame.theme.toValue), ("choices", .list (frame.choices.map Choice.toValue)),
    ("show_choices", .bool frame.showChoices),
    ("transition_visible", .bool frame.transitionVisible),
    ("transition_style", wordValue frame.transitionStyle), ("finished", .bool frame.finished),
    ("muted", .bool frame.muted), ("visible_text", .text frame.visibleText),
    ("fully_revealed", .bool frame.fullyRevealed), ("renderable", .bool frame.renderable),
    ("is_narrator", .bool frame.speaker.isNarrator)]

def Event.fields : Event → Entries
  | .sceneEnter index scene =>
      [("scene_index", .integer index), ("scene", .ofText? (scene.map (·.id)))]
  | .dialogueEnter scene index dialogue =>
      [("scene_index", .integer scene), ("dialogue_index", .integer index),
        ("dialogue", .text dialogue.id)]
  | .typingComplete scene index skipped =>
      [("scene_index", .integer scene), ("dialogue_index", .integer index),
        ("skipped", .bool skipped)]
  | .transitionStart origin target style =>
      [("from_index", .integer origin), ("to_index", .integer target),
        ("style", .text (word style))]
  | .transitionCommit index | .transitionEnd index => [("scene_index", .integer index)]
  | .choiceSelect choice target =>
      [("choice", .text choice.id), ("target_index", .integer target)]
  | .finished scene index =>
      [("scene_index", .integer scene), ("dialogue_index", .integer index)]
  | .restarted | .closed => []

def Position.toValue (position : Position) : Value :=
  .list
    [.integer position.scene, .integer position.dialogue, .integer position.revealed,
      .integer position.textLength, .bool position.transitioning, wordValue position.style,
      .bool position.finished, .bool position.isTyping]

/-- What can be seen of a session between its operations: the state, the identifiers of the scene
and the line, whether the player was started, whether it was stopped, whether the session takes no
more requests and no more gestures, whether it is muted, and the clock with the number of timers. -/
def Session.fields {β κ η : Type} (session : Session β κ η) : Entries :=
  let stage := session.world
  [("state", stage.position.toValue),
    ("at",
      .list
        [.ofText? (stage.scene?.map fun scene => scene.id),
          .ofText? (stage.dialogue?.map fun dialogue => dialogue.id)]),
    ("flags",
      .list ([stage.started, stage.stopped, stage.closed, stage.closed, stage.sound.muted].map
        .bool)),
    ("clock",
      .list [.integer session.timeline.now, .integer session.timeline.pending.length])]

/-- An answer of a session as a data value. Statistics leave out who listens. -/
def Answer.toValue : Answer → Value
  | .nothing => .null
  | .flag value => .bool value
  | .count ran => .integer ran
  | .frame shown => .object shown.fields
  | .statistics taken =>
      .object
        [("events", countsValue taken.events), ("total_emits", .integer taken.total)]

def Reveal.fields (reveal : Reveal) : Entries :=
  [("revealed", .integer reveal.revealed), ("complete", .bool reveal.complete),
    ("text", .text reveal.visible), ("total", .integer reveal.total)]

def Typing.fields (typing : Typing) : Entries :=
  let typewriter := typing.world.typewriter
  [("typing", .bool typewriter.isTyping), ("revealed", .integer typewriter.reveal.revealed),
    ("text", .text typewriter.reveal.visible), ("gen", .integer typewriter.generation),
    ("pending", .integer typing.timeline.pending.length), ("now", .integer typing.timeline.now)]

def Signal.toValue : Signal → Value
  | .progress revealed => .list [.text "progress", .integer revealed]
  | .complete skipped => .list [.text "complete", .bool skipped]

end VisualNovel.Playback
