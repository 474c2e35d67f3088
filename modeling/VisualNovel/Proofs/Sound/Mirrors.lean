import VisualNovel.Sound.Coordinator

/-!
# Desks that mirror each other

A change of desks that goes along with everything a desk is used for makes no
difference to those who use it: a coordinator on the changed desk answers every
call as it did before, and leaves the desk changed in the same way.
-/

set_option autoImplicit false

namespace VisualNovel.Sound

open VisualNovel.Novel

variable {β γ : Type}

inductive Coordinator.Call where
  | enterScene (scene : Option Scene)
  | enterDialogue (dialogue : Option Dialogue)
  | finish
  | setMuted (muted : Bool)
  | toggleMute
  | close

def Coordinator.answer [Device β] (coordinator : Coordinator β) : Call → Coordinator β
  | .enterScene scene => coordinator.enterScene scene
  | .enterDialogue dialogue => coordinator.enterDialogue dialogue
  | .finish => coordinator.finish
  | .setMuted muted => coordinator.setMuted muted
  | .toggleMute => coordinator.toggleMute
  | .close => coordinator.close

def Coordinator.run [Device β] (coordinator : Coordinator β) (calls : List Call) :
    Coordinator β :=
  calls.foldl answer coordinator

def Coordinator.mirrored (mirror : Desk β → Desk γ) (coordinator : Coordinator β) :
    Coordinator γ :=
  { coordinator with desk := mirror coordinator.desk }

/-- A change of desks that goes along with what they are used for. -/
structure Mirrors [Device β] [Device γ] (mirror : Desk β → Desk γ) : Prop where
  report (desk : Desk β) (made : Report) : (mirror desk).report made = mirror (desk.report made)
  order (desk : Desk β) (clip : Clip) (order : Order) :
    (mirror desk).order clip order =
      ((desk.order clip order).1, (desk.order clip order).2.1,
        mirror (desk.order clip order).2.2)
  openClip (desk : Desk β) (channel : Channel) (url : String) :
    (mirror desk).openClip channel url =
      ((desk.openClip channel url).1, mirror (desk.openClip channel url).2)
  shutDown (desk : Desk β) : (mirror desk).shutDown = mirror desk.shutDown

variable [Device β] [Device γ] {mirror : Desk β → Desk γ}

namespace Mirrors

theorem orders (mirrors : Mirrors mirror) (desk : Desk β) (clip : Clip) (orders : List Order) :
    (mirror desk).orders clip orders =
      ((desk.orders clip orders).1, (desk.orders clip orders).2.1,
        mirror (desk.orders clip orders).2.2) := by
  induction orders generalizing desk clip with
  | nil => rfl
  | cons first rest hypothesis =>
      simp only [Desk.orders, mirrors.order]
      obtain ⟨failure, after, left⟩ := desk.order clip first
      cases failure with
      | none => exact hypothesis left after
      | some reason => rfl

/-! ## Slots -/

theorem release_slot (mirrors : Mirrors mirror) (slot : Slot) (desk : Desk β) :
    slot.release (mirror desk) = ((slot.release desk).1, mirror (slot.release desk).2) := by
  cases loaded : slot.clip with
  | none => simp only [Slot.release, loaded]
  | some clip =>
      simp only [Slot.release, loaded, mirrors.order]
      obtain ⟨failure, after, left⟩ := desk.order clip .stop
      cases failure with
      | none => rfl
      | some reason => exact congrArg _ (mirrors.report _ _)

private theorem acquire_slot (mirrors : Mirrors mirror) (slot : Slot) (url : String)
    (looping : Bool)
    (desk : Desk β) :
    slot.acquire url looping (mirror desk) =
      ((slot.acquire url looping desk).1, (slot.acquire url looping desk).2.1,
        mirror (slot.acquire url looping desk).2.2) := by
  simp only [Slot.acquire, mirrors.release_slot]
  obtain ⟨emptied, desk⟩ := slot.release desk
  simp only [mirrors.openClip]
  obtain ⟨result, desk⟩ := desk.openClip emptied.channel url
  cases result with
  | error reason => simp only [mirrors.report]
  | ok clip =>
      simp only [mirrors.orders]
      obtain ⟨failure, after, left⟩ := desk.orders clip
        [.setVolume emptied.volume, .setMuted emptied.muted, .play looping]
      cases failure with
      | none => rfl
      | some reason => simp only [mirrors.report]

theorem order_slot (mirrors : Mirrors mirror) (slot : Slot) (clip : Clip) (order : Order)
    (refused : Channel → String → Report) (desk : Desk β) :
    slot.order clip order refused (mirror desk) =
      ((slot.order clip order refused desk).1,
        mirror (slot.order clip order refused desk).2) := by
  simp only [Slot.order, mirrors.order]
  obtain ⟨failure, after, left⟩ := desk.order clip order
  cases failure with
  | none => rfl
  | some reason => exact congrArg _ (mirrors.report _ _)

private theorem pause_slot (mirrors : Mirrors mirror) (slot : Slot) (desk : Desk β) :
    slot.pause (mirror desk) = ((slot.pause desk).1, mirror (slot.pause desk).2) := by
  simp only [Slot.pause, mirrors.order_slot]
  repeat' split
  all_goals rfl

private theorem resume_slot (mirrors : Mirrors mirror) (slot : Slot) (desk : Desk β) :
    slot.resume (mirror desk) = ((slot.resume desk).1, mirror (slot.resume desk).2) := by
  simp only [Slot.resume, mirrors.order_slot]
  repeat' split
  all_goals rfl

private theorem setMuted_slot (mirrors : Mirrors mirror) (slot : Slot) (muted : Bool)
    (desk : Desk β) :
    slot.setMuted muted (mirror desk) =
      ((slot.setMuted muted desk).1, mirror (slot.setMuted muted desk).2) := by
  simp only [Slot.setMuted, mirrors.order_slot]
  split <;> rfl

/-! ## Coordinators -/

omit [Device β] [Device γ] in
/-- Where a use of a slot is the same on a changed desk, so it is for the slots of a
coordinator. -/
theorem put_mirrored {use : Slot → Desk β → Slot × Desk β} {used : Slot → Desk γ → Slot × Desk γ}
    (same : ∀ slot desk, used slot (mirror desk) = ((use slot desk).1, mirror (use slot desk).2))
    (coordinator : Coordinator β) (channel : Channel) :
    (coordinator.mirrored mirror).put channel
        (used ((coordinator.mirrored mirror).slot channel) (coordinator.mirrored mirror).desk) =
      (coordinator.put channel (use (coordinator.slot channel) coordinator.desk)).mirrored
        mirror := by
  cases channel <;> exact congrArg (Coordinator.put (coordinator.mirrored mirror) _) (same _ _)

theorem release (mirrors : Mirrors mirror) (coordinator : Coordinator β) (channel : Channel) :
    (coordinator.mirrored mirror).release channel =
      (coordinator.release channel).mirrored mirror :=
  put_mirrored mirrors.release_slot coordinator channel

theorem acquire (mirrors : Mirrors mirror) (coordinator : Coordinator β) (channel : Channel)
    (url : String) (looping : Bool) :
    ((coordinator.mirrored mirror).acquire channel url looping).2 =
      (coordinator.acquire channel url looping).2.mirrored mirror :=
  @put_mirrored β γ mirror (fun slot desk => (slot.acquire url looping desk).2)
    (fun slot desk => (slot.acquire url looping desk).2)
    (fun slot desk => congrArg Prod.snd (mirrors.acquire_slot slot url looping desk))
    coordinator channel

theorem pause (mirrors : Mirrors mirror) (coordinator : Coordinator β) (channel : Channel) :
    (coordinator.mirrored mirror).pause channel = (coordinator.pause channel).mirrored mirror :=
  put_mirrored mirrors.pause_slot coordinator channel

theorem resume (mirrors : Mirrors mirror) (coordinator : Coordinator β) (channel : Channel) :
    (coordinator.mirrored mirror).resume channel = (coordinator.resume channel).mirrored mirror :=
  put_mirrored mirrors.resume_slot coordinator channel

theorem setSlotMuted (mirrors : Mirrors mirror) (coordinator : Coordinator β) (channel : Channel)
    (muted : Bool) :
    (coordinator.mirrored mirror).setSlotMuted channel muted =
      (coordinator.setSlotMuted channel muted).mirrored mirror :=
  put_mirrored (fun slot desk => mirrors.setMuted_slot slot muted desk) coordinator channel

omit [Device β] [Device γ] in
@[simp] theorem closed_mirrored (mirror : Desk β → Desk γ) (coordinator : Coordinator β) :
    (coordinator.mirrored mirror).closed = coordinator.closed :=
  rfl

omit [Device β] [Device γ] in
@[simp] theorem music_mirrored (mirror : Desk β → Desk γ) (coordinator : Coordinator β) :
    (coordinator.mirrored mirror).music = coordinator.music :=
  rfl

theorem enterScene (mirrors : Mirrors mirror) (coordinator : Coordinator β)
    (scene : Option Scene) :
    (coordinator.mirrored mirror).enterScene scene =
      (coordinator.enterScene scene).mirrored mirror := by
  simp only [Coordinator.enterScene, closed_mirrored, mirrors.release,
    ← apply_ite (Coordinator.mirrored mirror)]
  cases named? (scene.bind (·.bgmUrl)) with
  | none => simp only [← apply_ite (Coordinator.mirrored mirror)]
  | some url =>
      simp only [music_mirrored, mirrors.resume, mirrors.acquire,
        ← apply_ite (Coordinator.mirrored mirror)]

theorem replace (mirrors : Mirrors mirror) (coordinator : Coordinator β) (channel : Channel)
    (url : Option String) :
    (coordinator.mirrored mirror).replace channel url =
      (coordinator.replace channel url).mirrored mirror := by
  simp only [Coordinator.replace, mirrors.release]
  cases named? url with
  | none => rfl
  | some url => exact mirrors.acquire _ _ _ _

theorem setMuted (mirrors : Mirrors mirror) (coordinator : Coordinator β) (muted : Bool) :
    (coordinator.mirrored mirror).setMuted muted =
      (coordinator.setMuted muted).mirrored mirror := by
  simp only [Coordinator.setMuted, ← mirrors.setSlotMuted]
  rfl

theorem close (mirrors : Mirrors mirror) (coordinator : Coordinator β) :
    (coordinator.mirrored mirror).close = coordinator.close.mirrored mirror := by
  have shut : ({ coordinator.mirrored mirror with closed := true } : Coordinator γ) =
      ({ coordinator with closed := true } : Coordinator β).mirrored mirror := rfl
  have left (emptied : Coordinator β) :
      ({ emptied.mirrored mirror with desk := (emptied.mirrored mirror).desk.shutDown } :
          Coordinator γ) =
        ({ emptied with desk := emptied.desk.shutDown } : Coordinator β).mirrored mirror :=
    congrArg (fun desk : Desk γ => ({ emptied.mirrored mirror with desk } : Coordinator γ))
      (mirrors.shutDown _)
  by_cases closed : coordinator.closed = true
  · rw [Coordinator.close, Coordinator.close, if_pos closed]
    exact if_pos closed
  · rw [Coordinator.close, Coordinator.close, if_neg closed]
    exact (if_neg closed).trans (by simp only [shut, mirrors.release, left])

theorem answer (mirrors : Mirrors mirror) (coordinator : Coordinator β) (call : Coordinator.Call) :
    (coordinator.mirrored mirror).answer call = (coordinator.answer call).mirrored mirror := by
  cases call with
  | enterScene scene => exact mirrors.enterScene coordinator scene
  | enterDialogue dialogue =>
      simp only [Coordinator.answer, Coordinator.enterDialogue, closed_mirrored, mirrors.replace,
        ← apply_ite (Coordinator.mirrored mirror)]
  | finish =>
      simp only [Coordinator.answer, Coordinator.finish, closed_mirrored, mirrors.pause,
        mirrors.release, ← apply_ite (Coordinator.mirrored mirror)]
  | setMuted muted => exact mirrors.setMuted coordinator muted
  | toggleMute => exact mirrors.setMuted coordinator (!coordinator.muted)
  | close => exact mirrors.close coordinator

theorem run (mirrors : Mirrors mirror) (coordinator : Coordinator β)
    (calls : List Coordinator.Call) :
    (coordinator.mirrored mirror).run calls = (coordinator.run calls).mirrored mirror := by
  induction calls generalizing coordinator with
  | nil => rfl
  | cons call calls hypothesis =>
      simp only [Coordinator.run, List.foldl_cons, mirrors.answer]
      exact hypothesis _

end Mirrors

end VisualNovel.Sound
