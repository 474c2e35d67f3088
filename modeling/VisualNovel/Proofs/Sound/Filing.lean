import VisualNovel.Proofs.Sound.Ownership

/-!
# Coordinators whose reports are taken up

Those who use a coordinator take up its reports from time to time. That changes
nothing in who owns which clip, and a coordinator that is closed with its slots
empty asks its device for nothing more, whatever it is called for.
-/

set_option autoImplicit false

namespace VisualNovel.Sound

variable {β : Type}

def Desk.filed (earlier : List Report) (desk : Desk β) : Desk β :=
  { desk with reports := desk.reports ++ earlier }

theorem Desk.mirrors_filed [Device β] (earlier : List Report) :
    Mirrors (Desk.filed earlier : Desk β → Desk β) where
  report _ _ := rfl
  order _ _ _ := rfl
  openClip _ _ _ := rfl
  shutDown desk := by
    cases refused : (Device.shutDown desk.device).1 with
    | none => simp only [Desk.shutDown, Desk.filed, refused]
    | some reason =>
        simp only [Desk.shutDown, Desk.filed, refused]
        rfl

namespace Coordinator

def cleared (coordinator : Coordinator β) : Coordinator β :=
  { coordinator with desk := { coordinator.desk with reports := [] } }

@[simp] theorem slot_cleared (coordinator : Coordinator β) (channel : Channel) :
    coordinator.cleared.slot channel = coordinator.slot channel := by
  cases channel <;> rfl

/-- A coordinator whose slots hold what was opened and is not stopped, with its reports and those
that were taken up. -/
def Keeping (coordinator : Coordinator (Watched β)) : Prop :=
  ∃ earlier, (coordinator.mirrored (Desk.filed earlier)).Owns

theorem keeping_new (device : β) (music voice sfx : Float) (muted : Bool) :
    (new (Watched.mk device []) music voice sfx muted).Keeping :=
  ⟨[], owns_new device music voice sfx muted⟩

namespace Keeping

variable {coordinator : Coordinator (Watched β)}

theorem cleared (keeping : coordinator.Keeping) : coordinator.cleared.Keeping := by
  obtain ⟨earlier, owns⟩ := keeping
  exact ⟨coordinator.desk.reports ++ earlier, owns⟩

theorem answer [Device β] [Faithful β] (keeping : coordinator.Keeping) (call : Call) :
    (coordinator.answer call).Keeping := by
  obtain ⟨earlier, owns⟩ := keeping
  refine ⟨earlier, ?_⟩
  rw [← (Desk.mirrors_filed earlier).answer]
  exact owns.answer call

/-- With all slots empty, no clip is left that was opened and not stopped. -/
theorem stopped_of_empty (keeping : coordinator.Keeping)
    (empty : ∀ channel, (coordinator.slot channel).clip = none) :
    ∀ track ∈ openedIn coordinator.desk.device.deeds,
      track ∈ stoppedIn coordinator.desk.device.deeds := by
  obtain ⟨earlier, owns⟩ := keeping
  intro track opened
  by_contra going
  have holds : Slot.track? (coordinator.slot track.channel) = some track :=
    owns.accounts.ledger.held_of_opened opened going
  rw [Slot.track?, empty] at holds
  contradiction

end Keeping

theorem Emptied.cleared {coordinator : Coordinator β} (emptied : coordinator.Emptied) :
    coordinator.cleared.Emptied := by
  intro closed channel
  rw [slot_cleared]
  exact emptied closed channel

structure Silent (coordinator : Coordinator β) : Prop where
  closed : coordinator.closed = true
  empty (channel : Channel) : (coordinator.slot channel).clip = none

namespace Silent

variable {coordinator : Coordinator β}

theorem cleared (silent : coordinator.Silent) : coordinator.cleared.Silent where
  closed := silent.closed
  empty channel := by
    rw [slot_cleared]
    exact silent.empty channel

variable [Device β]

theorem answer (silent : coordinator.Silent) (call : Call) :
    (coordinator.answer call).Silent := by
  have emptied : (coordinator.answer call).Emptied :=
    Emptied.answer (fun _ => silent.empty) call
  have closed : (coordinator.answer call).closed = true := by
    by_cases last : call = .close
    · subst last
      exact closed_close coordinator
    · rw [closed_answer coordinator last]
      exact silent.closed
  exact ⟨closed, emptied closed⟩

private theorem desk_setMuted (silent : coordinator.Silent) (muted : Bool) :
    (coordinator.setMuted muted).desk = coordinator.desk := by
  have music : coordinator.music.clip = none := silent.empty .music
  have voice : coordinator.voice.clip = none := silent.empty .voice
  have sfx : coordinator.sfx.clip = none := silent.empty .sfx
  simp only [setMuted, setSlotMuted, slot, put, Slot.setMuted, music, voice, sfx]

theorem desk_answer (silent : coordinator.Silent) (call : Call) :
    (coordinator.answer call).desk = coordinator.desk := by
  cases call with
  | enterScene scene => simp only [Coordinator.answer, enterScene, if_pos silent.closed]
  | enterDialogue dialogue => simp only [Coordinator.answer, enterDialogue, if_pos silent.closed]
  | finish => simp only [Coordinator.answer, finish, if_pos silent.closed]
  | setMuted muted => exact silent.desk_setMuted muted
  | toggleMute => exact silent.desk_setMuted (!coordinator.muted)
  | close => simp only [Coordinator.answer, close, if_pos silent.closed]

end Silent

structure Hushed (coordinator : Coordinator β) : Prop where
  voice : (coordinator.slot .voice).clip = none
  sfx : (coordinator.slot .sfx).clip = none

theorem Silent.hushed {coordinator : Coordinator β} (silent : coordinator.Silent) :
    coordinator.Hushed :=
  ⟨silent.empty .voice, silent.empty .sfx⟩

theorem Hushed.cleared {coordinator : Coordinator β} (hushed : coordinator.Hushed) :
    coordinator.cleared.Hushed :=
  ⟨hushed.voice, hushed.sfx⟩

theorem Hushed.setMuted [Device β] {coordinator : Coordinator β} (hushed : coordinator.Hushed)
    (muted : Bool) : (coordinator.setMuted muted).Hushed := by
  have keeps {channel : Channel} (empty : (coordinator.slot channel).clip = none) :
      ((coordinator.setMuted muted).slot channel).clip = none :=
    setSlotMuted_keeps _ muted (setSlotMuted_keeps _ muted
      (setSlotMuted_keeps { coordinator with muted } muted empty))
  exact ⟨keeps hushed.voice, keeps hushed.sfx⟩

theorem hushed_finish [Device β] {coordinator : Coordinator β} (emptied : coordinator.Emptied) :
    coordinator.finish.Hushed := by
  unfold finish
  split
  · next closed => exact ⟨emptied closed .voice, emptied closed .sfx⟩
  · exact ⟨release_keeps _ (release_emptied _ _), release_emptied _ _⟩

end Coordinator

end VisualNovel.Sound
