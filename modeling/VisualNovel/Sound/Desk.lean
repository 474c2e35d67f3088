import VisualNovel.Sound.Clip

/-!
# Sound desks

Sounds are played by a device that may refuse anything it is asked. The desk
passes on what is asked of the device, numbers the clips it opens, keeps a journal
of everything asked, whether it was refused or not, and collects reports for those
who listen.
-/

set_option autoImplicit false

namespace VisualNovel.Sound

structure Obeyed (β : Type) where
  failure : Option String
  clip : Clip
  device : β

/-- Something that plays clips. What it cannot do it refuses with a reason. -/
class Device (β : Type) where
  /-- Opens a clip, given as it is before anything was done to it. -/
  openClip : Clip → β → Except String Clip × β
  order : Order → Clip → β → Obeyed β
  /-- Gives up the device. The reason is there if that failed. -/
  shutDown : β → Option String × β

inductive Action where
  | openClip (track : Track)
  | order (track : Track) (order : Order)
  | shutDown

/-- A report about sound that is not heard as it should be. -/
inductive Report where
  | openFailed (channel : Channel) (url reason : String)
  | playFailed (channel : Channel) (url reason : String)
  | stopFailed (channel : Channel) (url reason : String)
  | pauseFailed (channel : Channel) (reason : String)
  | resumeFailed (channel : Channel) (reason : String)
  | muteFailed (channel : Channel) (reason : String)
  | volumeFailed (channel : Channel) (reason : String)
  | shutDownFailed (reason : String)
  deriving DecidableEq, Repr

def shortened (url : String) : String :=
  if url.length ≤ 60 then url else String.ofList (url.toList.take 60) ++ "..."

def Report.message : Report → String
  | .openFailed channel url reason =>
      s!"{channel.word}: cannot open " ++ shortened url ++ s!": {reason}"
  | .playFailed channel url reason =>
      s!"{channel.word}: playback of " ++ shortened url ++ s!" failed: {reason}"
  | .stopFailed channel url reason =>
      s!"{channel.word}: stopping " ++ shortened url ++ s!" failed: {reason}"
  | .pauseFailed channel reason => s!"{channel.word}: pause failed: {reason}"
  | .resumeFailed channel reason => s!"{channel.word}: resume failed: {reason}"
  | .muteFailed channel reason => s!"{channel.word}: mute failed: {reason}"
  | .volumeFailed channel reason => s!"{channel.word}: volume change failed: {reason}"
  | .shutDownFailed reason => s!"Audio backend close failed: {reason}"

/-- A device with the journal of what was asked of it. -/
structure Desk (β : Type) where
  device : β
  opened : Nat := 0
  /-- What was asked, the latest first. -/
  journal : List Action := []
  /-- The reports not yet taken up, the latest first. -/
  reports : List Report := []

namespace Desk

variable {β : Type}

def report (desk : Desk β) (made : Report) : Desk β :=
  { desk with reports := made :: desk.reports }

variable [Device β]

def openClip (desk : Desk β) (channel : Channel) (url : String) : Except String Clip × Desk β :=
  let track : Track := ⟨desk.opened, channel, url⟩
  let (result, device) := Device.openClip { track } desk.device
  (result,
    { desk with
      device
      opened := desk.opened + 1
      journal := .openClip track :: desk.journal })

def order (desk : Desk β) (clip : Clip) (order : Order) : Option String × Clip × Desk β :=
  let obeyed := Device.order order clip desk.device
  (obeyed.failure, obeyed.clip,
    { desk with
      device := obeyed.device
      journal := .order clip.track order :: desk.journal })

/-- Gives orders to a clip one after another, up to the first that is refused. -/
def orders (desk : Desk β) (clip : Clip) : List Order → Option String × Clip × Desk β
  | [] => (none, clip, desk)
  | first :: rest =>
      match desk.order clip first with
      | (none, clip, desk) => desk.orders clip rest
      | refused => refused

def shutDown (desk : Desk β) : Desk β :=
  let (failure, device) := Device.shutDown desk.device
  let desk := { desk with device, journal := .shutDown :: desk.journal }
  match failure with
  | none => desk
  | some reason => desk.report (.shutDownFailed reason)

end Desk

end VisualNovel.Sound
