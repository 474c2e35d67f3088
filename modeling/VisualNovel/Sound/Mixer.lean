import VisualNovel.Media.Reference
import VisualNovel.Sound.Desk

/-!
# Mixers

A mixer streams one piece of music and plays other sounds on numbered channels. It
is described by the calls that are made to it, each of which it may refuse. The
mixer is set up when the first clip is opened.
-/

set_option autoImplicit false

namespace VisualNovel.Sound

open VisualNovel.Files VisualNovel.Media VisualNovel.Numeric

/-- A call to a mixer. Sounds and music are named by what they were loaded from. -/
inductive MixerCall where
  | init
  | setReserved (channels : Nat)
  | sound (source : String)
  | channel (number : Nat)
  | soundVolume (source : String) (volume : Float)
  | channelPlay (number : Nat) (source : String) (loops : Int)
  | channelPause (number : Nat)
  | channelUnpause (number : Nat)
  | channelStop (number : Nat)
  | stop
  | musicLoad (source : String) (hint : Option String)
  | musicPlay (loops : Int)
  | musicPause
  | musicUnpause
  | musicStop
  | musicUnload
  | musicVolume (volume : Float)

def MixerCall.name : MixerCall → String
  | .init => "init"
  | .setReserved _ => "set_reserved"
  | .sound _ => "Sound"
  | .channel _ => "Channel"
  | .soundVolume _ _ => "sound.set_volume"
  | .channelPlay _ _ _ => "channel.play"
  | .channelPause _ => "channel.pause"
  | .channelUnpause _ => "channel.unpause"
  | .channelStop _ => "channel.stop"
  | .stop => "stop"
  | .musicLoad _ _ => "music.load"
  | .musicPlay _ => "music.play"
  | .musicPause => "music.pause"
  | .musicUnpause => "music.unpause"
  | .musicStop => "music.stop"
  | .musicUnload => "music.unload"
  | .musicVolume _ => "music.set_volume"

/-- A mixer, the files it loads from, and the calls that were made to it. -/
structure Mixer where
  tree : Tree
  assets : Option GivenPath := none
  /-- The names of the calls that are refused. -/
  refused : List String := []
  /-- Whether the mixer itself is set up. -/
  running : Bool := false
  /-- Whether it is ready for clips. -/
  ready : Bool := false
  /-- The calls that were made, the latest first. -/
  calls : List MixerCall := []

namespace Mixer

/-- Makes calls one after another, up to the first that is refused, which is the reason for
failure. -/
def make (mixer : Mixer) : List MixerCall → Option String × Mixer
  | [] => (none, mixer)
  | call :: rest =>
      let mixer := { mixer with calls := call :: mixer.calls }
      if call.name ∈ mixer.refused then (some s!"{call.name} failed", mixer) else mixer.make rest

def prepare (mixer : Mixer) : Option String × Mixer :=
  if mixer.ready then (none, mixer)
  else
    let (failure, mixer) :=
      if mixer.running then (none, mixer)
      else
        match mixer.make [.init] with
        | (none, mixer) => (none, { mixer with running := true })
        | refused => refused
    let (failure, mixer) :=
      match failure with
      | some reason => (some reason, mixer)
      | none => mixer.make [.setReserved 2]
    match failure with
    | some reason => (some s!"audio device unavailable: {reason}", mixer)
    | none => (none, { mixer with ready := true })

def channelNumber : Channel → Nat
  | .voice => 0
  | .music | .sfx => 1

def loading (channel : Channel) (source : Source) : List MixerCall :=
  match channel, source.content with
  | .music, .data _ _ => [.musicLoad source.label (some source.hint)]
  | .music, .file _ => [.musicLoad source.label none]
  | channel, _ => [.sound source.label, .channel (channelNumber channel)]

def loops (looping : Bool) : Int :=
  if looping then -1 else 0

/-- The calls that an order to a clip takes, given the clip with its new volume. -/
def callsFor (clip : Clip) (order : Order) : List MixerCall :=
  let number := channelNumber clip.track.channel
  match clip.track.channel, order with
  | .music, .play looping => [.musicVolume clip.effectiveVolume, .musicPlay (loops looping)]
  | .music, .pause => [.musicPause]
  | .music, .resume => [.musicUnpause]
  | .music, .stop => [.musicStop, .musicUnload]
  | .music, .setVolume _ | .music, .setMuted _ => [.musicVolume clip.effectiveVolume]
  | _, .play looping =>
      [.soundVolume clip.label clip.effectiveVolume,
        .channelPlay number clip.label (loops looping)]
  | _, .pause => [.channelPause number]
  | _, .resume => [.channelUnpause number]
  | _, .stop => [.channelStop number]
  | _, .setVolume _ | _, .setMuted _ => [.soundVolume clip.label clip.effectiveVolume]

/-- A clip with the volume that an order sets. It holds even if the mixer refuses the call. -/
def adjusted (clip : Clip) : Order → Clip
  | .setVolume volume => { clip with volume := clampUnit volume }
  | .setMuted muted => { clip with muted }
  | .play _ | .pause | .resume | .stop => clip

def settled (clip : Clip) : Order → Clip
  | .play _ | .resume | .stop => { clip with paused := false }
  | .pause => { clip with paused := true }
  | .setVolume _ | .setMuted _ => clip

instance : Device Mixer where
  openClip clip mixer :=
    match mixer.prepare with
    | (some reason, mixer) => (.error reason, mixer)
    | (none, mixer) =>
        match openReference mixer.tree mixer.assets clip.track.url with
        | .error error => (.error error.message, mixer)
        | .ok source =>
            match mixer.make (loading clip.track.channel source) with
            | (none, mixer) => (.ok { clip with label := source.label }, mixer)
            | (some reason, mixer) =>
                let url := String.ofList (clip.track.url.toList.take 60)
                (.error (s!"cannot load {url}: " ++ reason), mixer)
  order order clip mixer :=
    let clip := adjusted clip order
    match mixer.make (callsFor clip order) with
    | (none, mixer) => ⟨none, settled clip order, mixer⟩
    | (some reason, mixer) => ⟨some reason, clip, mixer⟩
  shutDown mixer :=
    if mixer.ready then
      let (_, mixer) := mixer.make [.stop, .musicStop]
      (none, { mixer with ready := false })
    else (none, mixer)

end Mixer

end VisualNovel.Sound
