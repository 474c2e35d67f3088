import VisualNovel.Numeric.Range

/-!
# Clips

A clip is a sound that was opened for a channel. It can be played, paused and
resumed, stopped for good, and made louder, softer or mute.
-/

set_option autoImplicit false

namespace VisualNovel.Sound

open VisualNovel.Numeric

inductive Channel where
  | music
  | voice
  | sfx
  deriving DecidableEq, Repr

def Channel.word : Channel → String
  | .music => "music"
  | .voice => "voice"
  | .sfx => "sfx"

/-- The identity of a clip: its place in the order of opening, the channel it was opened for and
the reference it was opened by. -/
structure Track where
  number : Nat
  channel : Channel
  url : String
  deriving DecidableEq, Repr

/-- A clip with its state. The label tells what was given to the device. -/
structure Clip where
  track : Track
  label : String := ""
  volume : Float := 1.0
  muted : Bool := false
  paused : Bool := false
  playing : Bool := false
  looping : Bool := false

inductive Order where
  | play (looping : Bool)
  | pause
  | resume
  | stop
  | setVolume (volume : Float)
  | setMuted (muted : Bool)

def Clip.effectiveVolume (clip : Clip) : Float :=
  if clip.muted then 0.0 else clip.volume

/-- A clip after it has done what it was told. Only a clip that plays can be paused. -/
def Clip.obey (clip : Clip) : Order → Clip
  | .play looping => { clip with playing := true, looping, paused := false }
  | .pause => if clip.playing then { clip with paused := true } else clip
  | .resume => { clip with paused := false }
  | .stop => { clip with playing := false, paused := false }
  | .setVolume volume => { clip with volume := clampUnit volume }
  | .setMuted muted => { clip with muted }

end VisualNovel.Sound
