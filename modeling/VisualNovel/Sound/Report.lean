import VisualNovel.Json.Value
import VisualNovel.Sound.Coordinator
import VisualNovel.Sound.Mixer
import VisualNovel.Sound.Rehearsal

/-!
# Sound as data values

What was asked of a device, the calls to a mixer and the state of the slots, each
call as a list of its name and what it was given.
-/

set_option autoImplicit false

namespace VisualNovel.Sound

open VisualNovel.Json

def Order.name : Order → String
  | .play _ => "play"
  | .pause => "pause"
  | .resume => "resume"
  | .stop => "stop"
  | .setVolume _ => "volume"
  | .setMuted _ => "mute"

def Order.given : Order → List Value
  | .play looping => [.bool looping]
  | .setVolume volume => [.number volume]
  | .setMuted muted => [.bool muted]
  | .pause | .resume | .stop => []

def Action.toValue : Action → Value
  | .openClip track => .ofTexts ["open", track.channel.word, track.url]
  | .order track made =>
      .list ([.text made.name, .text track.channel.word, .text track.url] ++ made.given)
  | .shutDown => .ofTexts ["close"]

def MixerCall.given : MixerCall → List Value
  | .init | .stop | .musicPause | .musicUnpause | .musicStop | .musicUnload => []
  | .setReserved number | .channel number | .channelPause number | .channelUnpause number
  | .channelStop number => [.integer number]
  | .sound source => [.text source]
  | .soundVolume source volume => [.text source, .number volume]
  | .channelPlay number source loops => [.integer number, .text source, .integer loops]
  | .musicLoad source hint => .text source :: hint.toList.map .text
  | .musicPlay loops => [.integer loops]
  | .musicVolume volume => [.number volume]

def MixerCall.toValue (call : MixerCall) : Value :=
  .list (.text ("mixer." ++ call.name) :: call.given)

def Slot.fields (slot : Slot) : Entries :=
  [("url", .ofText? slot.url?), ("active", .bool slot.clip.isSome),
    ("paused", .bool slot.isPaused), ("muted", .bool slot.muted),
    ("volume", .number slot.volume)] ++
    slot.clip.toList.map fun clip => ("effective_volume", .number clip.effectiveVolume)

def Slot.allFields (slot : Slot) : Entries :=
  slot.fields ++
    slot.clip.toList.flatMap fun clip =>
      [("playing", .bool clip.playing), ("looping", .bool clip.looping)]

/-- How what is asked of a kind of device is told: what was asked since the last time, and the
fields of a slot. -/
structure Exhibit (β : Type) where
  take : Coordinator β → List Value × Coordinator β
  fields : Slot → Entries

def Coordinator.slotsValue {β : Type} (coordinator : Coordinator β) (fields : Slot → Entries) :
    Value :=
  .object (([.music, .voice, .sfx] : List Channel).map fun channel =>
    (channel.word, .object (fields (coordinator.slot channel))))

namespace Exhibit

def recorded : Exhibit Rehearsal where
  take coordinator :=
    let desk := coordinator.desk
    (desk.journal.reverse.map Action.toValue,
      { coordinator with desk := { desk with journal := [] } })
  fields := Slot.allFields

def silent : Exhibit Rehearsal where
  take coordinator := ([], coordinator)
  fields := Slot.allFields

def mixed : Exhibit Mixer where
  take coordinator :=
    let desk := coordinator.desk
    (desk.device.calls.reverse.map MixerCall.toValue,
      { coordinator with desk := { desk with device := { desk.device with calls := [] } } })
  fields := Slot.fields

end Exhibit

end VisualNovel.Sound
