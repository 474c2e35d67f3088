import VisualNovel.Json.Coercion
import VisualNovel.Numeric.Range
import VisualNovel.Settings.Sections

/-!
# Preferences

The settings as the player uses them: numbers of the right kind within their
bounds, and a table of timings. A setting without a number has its default, with
a warning. A number out of all range is an error.
-/

set_option autoImplicit false

namespace VisualNovel

open VisualNovel.Json VisualNovel.Playback VisualNovel.Novel VisualNovel.Numeric

/-- The settings in use. -/
structure Preferences where
  typingInterval : Int := 30
  musicVolume : Float := 0.3
  voiceVolume : Float := 0.8
  sfxVolume : Float := 0.5
  muted : Bool := false
  timings : TimingTable := defaultTimings
  windowWidth : Int := 1280
  windowHeight : Int := 720
  framesPerSecond : Int := 60
  /-- Any value that counts as true, though only a text names a font. -/
  fontPath : Option Value := none

namespace Preferences

/-- Reading of a setting: a number out of range stops it, and warnings are left either way. -/
abbrev Reading := ExceptT RangeError (StateM (List Settings.Warning))

def warn (warning : Settings.Warning) : Reading Unit :=
  modify fun warnings => warnings ++ [warning]

/-- The volume that a value stands for, with its default in hundredths. -/
def volumeOf (value : Value) (hundredths : Nat) : Reading Float :=
  match value.toFloat with
  | .ok volume => return clampUnit volume
  | .error reason =>
      match reason.overflow? with
      | some error => throw error
      | none => do
          warn (.badVolume value.quoted hundredths)
          return nearest false hundredths 100

def integerOf (value : Value) (fallback least : Int) : Reading Int :=
  match value.toInteger with
  | .ok integer => return max least integer
  | .error reason =>
      match reason.overflow? with
      | some error => throw error
      | none => do
          warn (.badInteger value.quoted fallback)
          return fallback

/-- The parts of a value that hold the phases of a timing: the items of a list, the characters of
a text, the keys of an object. -/
def phaseValues? : Value → Option (List Value)
  | .list items => some items
  | .text text => some (text.toList.map fun character => .text (String.singleton character))
  | .object entries => some (entries.map fun entry => .text entry.1)
  | .null | .bool _ | .integer _ | .number _ => none

/-- The numbers of the values up to the third, which already is one too many. -/
def phaseNumbers : List Value → Nat → Except CoercionError (List Int)
  | [], _ => .ok []
  | _, 0 => .ok []
  | value :: values, count + 1 => do
      let number ← value.toInteger
      return max 0 number :: (← phaseNumbers values count)

/-- The timing that a value stands for, none if it has another number of parts. -/
def timingOf (value : Value) : Except CoercionError (Option Timing) := do
  match phaseValues? value with
  | none => return none
  | some values =>
      match ← phaseNumbers values 3 with
      | [commit, clear] => return some ⟨commit, clear⟩
      | _ => return none

def timingsFrom (table : TimingTable) : Entries → Reading TimingTable
  | [] => return table
  | (key, value) :: rest =>
      match Vocabulary.find? (α := Transition) key with
      | none => do
          warn (.unknownTransition key)
          timingsFrom table rest
      | some style =>
          let skip := do
            warn (.badTiming key value.quoted)
            timingsFrom table rest
          match timingOf value with
          | .ok (some timing) => timingsFrom (table.set style timing) rest
          | .ok none => skip
          | .error reason =>
              match reason.overflow? with
              | some error => throw error
              | none => skip

def read (settings : Settings) : Reading Preferences := do
  let typingInterval ← integerOf (settings.playback.get "typing_interval_ms") 30 0
  let musicVolume ← volumeOf (settings.audio.get "music_volume") 30
  let voiceVolume ← volumeOf (settings.audio.get "voice_volume") 80
  let sfxVolume ← volumeOf (settings.audio.get "sfx_volume") 50
  let timings ← timingsFrom defaultTimings settings.transitions
  let windowWidth ← integerOf (settings.window.get "width") 1280 1
  let windowHeight ← integerOf (settings.window.get "height") 720 1
  let framesPerSecond ← integerOf (settings.window.get "fps") 60 1
  let fontPath := settings.window.get "font_path"
  return {
    typingInterval, musicVolume, voiceVolume, sfxVolume
    muted := (settings.audio.get "muted").truthy
    timings, windowWidth, windowHeight, framesPerSecond
    fontPath := if fontPath.truthy then some fontPath else none }

/-- The preferences that a value gives, and the warnings from reading it. -/
def ofValue (value : Value) : Except RangeError Preferences × List Settings.Warning :=
  let (settings, warnings) := Settings.merge value
  (read settings).run.run warnings

def timingValue (timing : Timing) : Value :=
  .object [("commit_ms", .integer timing.commit), ("clear_ms", .integer timing.clear)]

def toValue (preferences : Preferences) : Value :=
  .object
    [("typing_interval_ms", .integer preferences.typingInterval),
      ("music_volume", .number preferences.musicVolume),
      ("voice_volume", .number preferences.voiceVolume),
      ("sfx_volume", .number preferences.sfxVolume),
      ("muted", .bool preferences.muted),
      ("transition_timings",
        .object (preferences.timings.map fun (style, timing) => (word style, timingValue timing))),
      ("window_width", .integer preferences.windowWidth),
      ("window_height", .integer preferences.windowHeight),
      ("fps", .integer preferences.framesPerSecond),
      ("font_path", preferences.fontPath.getD .null)]

end Preferences

end VisualNovel
