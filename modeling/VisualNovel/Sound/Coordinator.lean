import VisualNovel.Novel.Basic
import VisualNovel.Sound.Slot

/-!
# Sound that follows a playback

Three slots follow the position of a playback. The music is that of the scene: it
loops, goes on where the next scene has the same, and pauses at the end. Voice and
effects are those of the line: they are stopped and started anew with every line.
One flag mutes all three.
-/

set_option autoImplicit false

namespace VisualNovel.Sound

open VisualNovel.Novel

/-- The three slots on one desk. -/
structure Coordinator (β : Type) where
  desk : Desk β
  music : Slot
  voice : Slot
  sfx : Slot
  muted : Bool := false
  closed : Bool := false

namespace Coordinator

variable {β : Type}

def new (device : β) (music voice sfx : Float) (muted : Bool) : Coordinator β where
  desk := { device }
  music := { channel := .music, volume := music, muted }
  voice := { channel := .voice, volume := voice, muted }
  sfx := { channel := .sfx, volume := sfx, muted }
  muted

def slot (coordinator : Coordinator β) : Channel → Slot
  | .music => coordinator.music
  | .voice => coordinator.voice
  | .sfx => coordinator.sfx

def put (coordinator : Coordinator β) (channel : Channel) (used : Slot × Desk β) :
    Coordinator β :=
  match channel with
  | .music => { coordinator with music := used.1, desk := used.2 }
  | .voice => { coordinator with voice := used.1, desk := used.2 }
  | .sfx => { coordinator with sfx := used.1, desk := used.2 }

variable [Device β]

def release (coordinator : Coordinator β) (channel : Channel) : Coordinator β :=
  coordinator.put channel ((coordinator.slot channel).release coordinator.desk)

/-- Opens and starts a clip in the slot of a channel. The flag tells whether it plays. -/
def acquire (coordinator : Coordinator β) (channel : Channel) (url : String) (looping : Bool) :
    Bool × Coordinator β :=
  let (started, used) := (coordinator.slot channel).acquire url looping coordinator.desk
  (started, coordinator.put channel used)

def pause (coordinator : Coordinator β) (channel : Channel) : Coordinator β :=
  coordinator.put channel ((coordinator.slot channel).pause coordinator.desk)

def resume (coordinator : Coordinator β) (channel : Channel) : Coordinator β :=
  coordinator.put channel ((coordinator.slot channel).resume coordinator.desk)

def setSlotMuted (coordinator : Coordinator β) (channel : Channel) (muted : Bool) :
    Coordinator β :=
  coordinator.put channel ((coordinator.slot channel).setMuted muted coordinator.desk)

def setSlotVolume (coordinator : Coordinator β) (channel : Channel) (volume : Float) :
    Coordinator β :=
  coordinator.put channel ((coordinator.slot channel).setVolume volume coordinator.desk)

/-- Follows a playback into a scene. A scene without lines has no voice and no effects. -/
def enterScene (coordinator : Coordinator β) (scene : Option Scene) : Coordinator β :=
  if coordinator.closed then coordinator
  else
    let coordinator :=
      if (scene.map (·.dialogues)).getD [] |>.isEmpty then
        (coordinator.release .voice).release .sfx
      else coordinator
    match named? (scene.bind (·.bgmUrl)) with
    | none => coordinator.release .music
    | some url =>
        if coordinator.music.url? = some url then coordinator.resume .music
        else (coordinator.acquire .music url true).2

def replace (coordinator : Coordinator β) (channel : Channel) (url : Option String) :
    Coordinator β :=
  let coordinator := coordinator.release channel
  match named? url with
  | none => coordinator
  | some url => (coordinator.acquire channel url false).2

def enterDialogue (coordinator : Coordinator β) (dialogue : Option Dialogue) : Coordinator β :=
  if coordinator.closed then coordinator
  else
    (coordinator.replace .voice (dialogue.bind (·.voiceUrl))).replace .sfx
      (dialogue.bind (·.sfxUrl))

def finish (coordinator : Coordinator β) : Coordinator β :=
  if coordinator.closed then coordinator
  else ((coordinator.pause .music).release .voice).release .sfx

def setMuted (coordinator : Coordinator β) (muted : Bool) : Coordinator β :=
  ((({ coordinator with muted }).setSlotMuted .music muted).setSlotMuted .voice muted).setSlotMuted
    .sfx muted

def toggleMute (coordinator : Coordinator β) : Coordinator β :=
  coordinator.setMuted (!coordinator.muted)

/-- Empties all slots and gives up the device. -/
def close (coordinator : Coordinator β) : Coordinator β :=
  if coordinator.closed then coordinator
  else
    let coordinator := { coordinator with closed := true }
    let coordinator := ((coordinator.release .music).release .voice).release .sfx
    { coordinator with desk := coordinator.desk.shutDown }

end Coordinator

end VisualNovel.Sound
