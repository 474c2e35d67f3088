import VisualNovel.Sound.Desk

/-!
# Slots

A slot holds at most one clip. A new clip takes the place of the old one, which is
stopped before the new one is opened. Whatever the device refuses is reported, and
the slot stays usable: a clip that could not be started is kept, one that could
not be opened leaves the slot empty.
-/

set_option autoImplicit false

namespace VisualNovel.Sound

open VisualNovel.Numeric

/-- A place for one clip. -/
structure Slot where
  channel : Channel
  volume : Float
  muted : Bool := false
  clip : Option Clip := none

namespace Slot

def url? (slot : Slot) : Option String :=
  slot.clip.map fun clip => clip.track.url

def isPaused (slot : Slot) : Bool :=
  slot.clip.any fun clip => clip.paused

variable {β : Type} [Device β]

/-- Stops the clip in a slot and takes it out. -/
def release (slot : Slot) (desk : Desk β) : Slot × Desk β :=
  match slot.clip with
  | none => (slot, desk)
  | some clip =>
      match desk.order clip .stop with
      | (none, _, desk) => ({ slot with clip := none }, desk)
      | (some reason, _, desk) =>
          ({ slot with clip := none },
            desk.report (.stopFailed slot.channel clip.track.url reason))

/-- Opens and starts a clip in place of the one in the slot. The flag tells whether it plays. -/
def acquire (slot : Slot) (url : String) (looping : Bool) (desk : Desk β) :
    Bool × Slot × Desk β :=
  let (slot, desk) := slot.release desk
  match desk.openClip slot.channel url with
  | (.error reason, desk) => (false, slot, desk.report (.openFailed slot.channel url reason))
  | (.ok clip, desk) =>
      match desk.orders clip [.setVolume slot.volume, .setMuted slot.muted, .play looping] with
      | (none, clip, desk) => (true, { slot with clip := some clip }, desk)
      | (some reason, clip, desk) =>
          (false, { slot with clip := some clip },
            desk.report (.playFailed slot.channel url reason))

def order (slot : Slot) (clip : Clip) (order : Order) (refused : Channel → String → Report)
    (desk : Desk β) : Slot × Desk β :=
  match desk.order clip order with
  | (none, clip, desk) => ({ slot with clip := some clip }, desk)
  | (some reason, clip, desk) =>
      ({ slot with clip := some clip }, desk.report (refused slot.channel reason))

def pause (slot : Slot) (desk : Desk β) : Slot × Desk β :=
  match slot.clip with
  | none => (slot, desk)
  | some clip =>
      if clip.paused then (slot, desk) else slot.order clip .pause .pauseFailed desk

def resume (slot : Slot) (desk : Desk β) : Slot × Desk β :=
  match slot.clip with
  | none => (slot, desk)
  | some clip =>
      if clip.paused then slot.order clip .resume .resumeFailed desk else (slot, desk)

def setMuted (slot : Slot) (muted : Bool) (desk : Desk β) : Slot × Desk β :=
  let slot := { slot with muted }
  match slot.clip with
  | none => (slot, desk)
  | some clip => slot.order clip (.setMuted muted) .muteFailed desk

def setVolume (slot : Slot) (volume : Float) (desk : Desk β) : Slot × Desk β :=
  let slot := { slot with volume := clampUnit volume }
  match slot.clip with
  | none => (slot, desk)
  | some clip => slot.order clip (.setVolume slot.volume) .volumeFailed desk

end Slot

end VisualNovel.Sound
