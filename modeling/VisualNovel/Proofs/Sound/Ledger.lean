import Mathlib.Data.List.Nodup
import Mathlib.Logic.Function.Basic
import VisualNovel.Proofs.Sound.Mirrors
import VisualNovel.Sound.Mixer
import VisualNovel.Sound.Rehearsal

/-!
# Ledgers of clips

A ledger is a list of what was asked of a device in which every clip is opened for
a channel that holds none, is used only while its channel holds it, and is given
up when it is stopped. What holds of all ledgers is told by the tracks alone.
-/

set_option autoImplicit false

/-!
## Devices under watch

A watched device is any device with the list of everything it was asked for and
whether it refused. Watching changes nothing for those who use the device.
-/

namespace VisualNovel.Sound

open VisualNovel.Novel

variable {β : Type}

/-- A device whose clips stay what they were opened as, whatever it is asked or refuses. -/
class Faithful (β : Type) [Device β] : Prop where
  openClip_track {clip opened : Clip} {device : β} :
    (Device.openClip clip device).1 = .ok opened → opened.track = clip.track
  order_track (order : Order) (clip : Clip) (device : β) :
    (Device.order order clip device).clip.track = clip.track

instance : Faithful Rehearsal where
  openClip_track {clip opened device} made := by
    cases considered : device.refusal device.asked (.openClip clip.track) with
    | none =>
        simp only [Device.openClip, Rehearsal.consider, considered, Except.ok.injEq] at made
        rw [made]
    | some reason =>
        simp [Device.openClip, Rehearsal.consider, considered] at made
  order_track order clip device := by
    cases considered : device.refusal device.asked (.order clip.track order) with
    | none =>
        simp only [Device.order, Rehearsal.consider, considered]
        cases order <;> simp only [Clip.obey]
        split <;> rfl
    | some reason => simp only [Device.order, Rehearsal.consider, considered]

private theorem Mixer.openClip_ok {clip opened : Clip} {mixer : Mixer}
    (made : (Device.openClip clip mixer).1 = .ok opened) :
    ∃ label, opened = { clip with label } := by
  simp only [Device.openClip] at made
  split at made
  · cases made
  · split at made
    · cases made
    · split at made
      · cases made
        exact ⟨_, rfl⟩
      · cases made

instance : Faithful Mixer where
  openClip_track made := by
    obtain ⟨_, rfl⟩ := Mixer.openClip_ok made
    rfl
  order_track order clip mixer := by
    simp only [Device.order]
    split <;> cases order <;> rfl

structure Deed where
  action : Action
  refusal : Option String

structure Watched (β : Type) where
  device : β
  deeds : List Deed := []

def refusal? : Except String Clip → Option String
  | .ok _ => none
  | .error reason => some reason

instance [Device β] : Device (Watched β) where
  openClip clip watched :=
    let (result, device) := Device.openClip clip watched.device
    (result, ⟨device, ⟨.openClip clip.track, refusal? result⟩ :: watched.deeds⟩)
  order order clip watched :=
    let obeyed := Device.order order clip watched.device
    ⟨obeyed.failure, obeyed.clip,
      ⟨obeyed.device, ⟨.order clip.track order, obeyed.failure⟩ :: watched.deeds⟩⟩
  shutDown watched :=
    let (failure, device) := Device.shutDown watched.device
    (failure, ⟨device, ⟨.shutDown, failure⟩ :: watched.deeds⟩)

instance [Device β] [Faithful β] : Faithful (Watched β) where
  openClip_track {_ _ watched} made := @Faithful.openClip_track β _ _ _ _ watched.device made
  order_track order clip watched := Faithful.order_track order clip watched.device

def Desk.unwatched (desk : Desk (Watched β)) : Desk β :=
  { desk with device := desk.device.device }

def Coordinator.unwatched (coordinator : Coordinator (Watched β)) : Coordinator β :=
  { coordinator with desk := coordinator.desk.unwatched }

private theorem Desk.mirrors_unwatched [Device β] :
    Mirrors (Desk.unwatched : Desk (Watched β) → Desk β) where
  report _ _ := rfl
  order _ _ _ := rfl
  openClip _ _ _ := rfl
  shutDown desk := by
    cases refused : (Device.shutDown desk.device.device).1 with
    | none =>
        simp only [Desk.shutDown, Desk.unwatched, Device.shutDown, refused]
    | some reason =>
        simp only [Desk.shutDown, Desk.unwatched, Device.shutDown, refused]
        rfl

/-- Watching a device changes nothing in how a coordinator answers calls. -/
theorem Coordinator.run_unwatched [Device β] (coordinator : Coordinator (Watched β))
    (calls : List Call) : coordinator.unwatched.run calls = (coordinator.run calls).unwatched :=
  Desk.mirrors_unwatched.run coordinator calls

end VisualNovel.Sound

/-! ## Ledgers of clips -/

namespace VisualNovel.Sound

def Deed.opened? : Deed → Option Track
  | ⟨.openClip track, none⟩ => some track
  | _ => none

def Deed.stopped? : Deed → Option Track
  | ⟨.order track .stop, _⟩ => some track
  | _ => none

def openedIn (deeds : List Deed) : List Track :=
  deeds.filterMap Deed.opened?

def stoppedIn (deeds : List Deed) : List Track :=
  deeds.filterMap Deed.stopped?

/-- The rules of owning clips, for a list of what was asked with the latest first. -/
structure Disciplined (deeds : List Deed) : Prop where
  /-- Whenever a clip is asked for, those that were opened before for the channel were stopped. -/
  opensAlone {later earlier : List Deed} {track old : Track} {refusal : Option String} :
    deeds = later ++ ⟨.openClip track, refusal⟩ :: earlier → old ∈ openedIn earlier →
      old.channel = track.channel → old ∈ stoppedIn earlier
  /-- No two clips of a channel are ever opened and not yet stopped. -/
  single {later earlier : List Deed} {first second : Track} :
    deeds = later ++ earlier → first ∈ openedIn earlier → second ∈ openedIn earlier →
      first ∉ stoppedIn earlier → second ∉ stoppedIn earlier → first.channel = second.channel →
        first = second
  /-- A clip is told to do something only after it was opened and before it was stopped. -/
  usesOwn {later earlier : List Deed} {track : Track} {order : Order} {refusal : Option String} :
    deeds = later ++ ⟨.order track order, refusal⟩ :: earlier →
      track ∈ openedIn earlier ∧ track ∉ stoppedIn earlier
  opensOnce : (openedIn deeds).Nodup
  stopsOnce : (stoppedIn deeds).Nodup

/-- What was asked, with the clip that each channel holds and the number of clips asked for. -/
inductive Ledger : (Channel → Option Track) → Nat → List Deed → Prop where
  | empty : Ledger (fun _ => none) 0 []
  | opens {held : Channel → Option Track} {next : Nat} {deeds : List Deed} {channel : Channel}
      (url : String) : Ledger held next deeds → held channel = none →
        Ledger (Function.update held channel (some ⟨next, channel, url⟩)) (next + 1)
          (⟨.openClip ⟨next, channel, url⟩, none⟩ :: deeds)
  | refused {held : Channel → Option Track} {next : Nat} {deeds : List Deed} {channel : Channel}
      (url reason : String) : Ledger held next deeds → held channel = none →
        Ledger held (next + 1) (⟨.openClip ⟨next, channel, url⟩, some reason⟩ :: deeds)
  | orders {held : Channel → Option Track} {next : Nat} {deeds : List Deed} {track : Track}
      {order : Order} (refusal : Option String) : Ledger held next deeds →
        held track.channel = some track → order ≠ .stop →
          Ledger held next (⟨.order track order, refusal⟩ :: deeds)
  | stops {held : Channel → Option Track} {next : Nat} {deeds : List Deed} {track : Track}
      (refusal : Option String) : Ledger held next deeds → held track.channel = some track →
        Ledger (Function.update held track.channel none) next
          (⟨.order track .stop, refusal⟩ :: deeds)
  | shutsDown {held : Channel → Option Track} {next : Nat} {deeds : List Deed}
      (refusal : Option String) : Ledger held next deeds →
        Ledger held next (⟨.shutDown, refusal⟩ :: deeds)

section Reading

variable {track : Track} {order : Order} {refusal : Option String} {reason : String}
variable {deeds : List Deed}

@[simp] theorem openedIn_opens :
    openedIn (⟨.openClip track, none⟩ :: deeds) = track :: openedIn deeds :=
  rfl

@[simp] theorem openedIn_refused :
    openedIn (⟨.openClip track, some reason⟩ :: deeds) = openedIn deeds :=
  rfl

@[simp] theorem openedIn_order :
    openedIn (⟨.order track order, refusal⟩ :: deeds) = openedIn deeds :=
  rfl

@[simp] theorem openedIn_shutDown : openedIn (⟨.shutDown, refusal⟩ :: deeds) = openedIn deeds :=
  rfl

@[simp] theorem stoppedIn_openClip :
    stoppedIn (⟨.openClip track, refusal⟩ :: deeds) = stoppedIn deeds :=
  rfl

@[simp] theorem stoppedIn_stop :
    stoppedIn (⟨.order track .stop, refusal⟩ :: deeds) = track :: stoppedIn deeds :=
  rfl

theorem stoppedIn_order (other : order ≠ .stop) :
    stoppedIn (⟨.order track order, refusal⟩ :: deeds) = stoppedIn deeds := by
  cases order <;> first | rfl | contradiction

@[simp] theorem stoppedIn_shutDown :
    stoppedIn (⟨.shutDown, refusal⟩ :: deeds) = stoppedIn deeds :=
  rfl

end Reading

namespace Ledger

variable {held : Channel → Option Track} {next : Nat} {deeds later earlier : List Deed}
variable {track : Track} {channel : Channel}

theorem number_lt (ledger : Ledger held next deeds) (opened : track ∈ openedIn deeds) :
    track.number < next := by
  induction ledger with
  | empty => contradiction
  | opens url _ _ hypothesis =>
      rcases List.mem_cons.mp opened with rfl | before
      · exact Nat.lt_succ_self _
      · exact Nat.lt_succ_of_lt (hypothesis before)
  | refused url reason _ _ hypothesis => exact Nat.lt_succ_of_lt (hypothesis opened)
  | orders refusal _ _ _ hypothesis => exact hypothesis opened
  | stops refusal _ _ hypothesis => exact hypothesis opened
  | shutsDown refusal _ hypothesis => exact hypothesis opened

/-- What is held was opened, on the channel that holds it. -/
theorem opened_of_held (ledger : Ledger held next deeds) (holds : held channel = some track) :
    track ∈ openedIn deeds ∧ track.channel = channel := by
  induction ledger with
  | empty => contradiction
  | @opens held next deeds loaded url _ _ hypothesis =>
      by_cases same : channel = loaded
      · subst same
        rw [Function.update_self] at holds
        cases holds
        exact ⟨List.mem_cons_self, rfl⟩
      · rw [Function.update_of_ne same] at holds
        exact (hypothesis holds).imp_left (List.mem_cons_of_mem _)
  | refused url reason _ _ hypothesis => exact hypothesis holds
  | orders refusal _ _ _ hypothesis => exact hypothesis holds
  | @stops held next deeds stopped refusal _ _ hypothesis =>
      by_cases same : channel = stopped.channel
      · rw [same, Function.update_self] at holds
        contradiction
      · rw [Function.update_of_ne same] at holds
        exact hypothesis holds
  | shutsDown refusal _ hypothesis => exact hypothesis holds

private theorem opened_of_stopped (ledger : Ledger held next deeds)
    (stopped : track ∈ stoppedIn deeds) :
    track ∈ openedIn deeds := by
  induction ledger with
  | empty => contradiction
  | opens url _ _ hypothesis => exact List.mem_cons_of_mem _ (hypothesis stopped)
  | refused url reason _ _ hypothesis => exact hypothesis stopped
  | orders refusal _ _ other hypothesis =>
      rw [stoppedIn_order other] at stopped
      exact hypothesis stopped
  | stops refusal before holds hypothesis =>
      rcases List.mem_cons.mp stopped with rfl | earlier
      · exact (before.opened_of_held holds).1
      · exact hypothesis earlier
  | shutsDown refusal _ hypothesis => exact hypothesis stopped

/-- What is held was not stopped. -/
private theorem not_stopped_of_held (ledger : Ledger held next deeds)
    (holds : held channel = some track) : track ∉ stoppedIn deeds := by
  induction ledger with
  | empty => contradiction
  | @opens held next deeds loaded url before _ hypothesis =>
      by_cases same : channel = loaded
      · subst same
        rw [Function.update_self] at holds
        cases holds
        exact fun stopped => Nat.lt_irrefl _ (before.number_lt (before.opened_of_stopped stopped))
      · rw [Function.update_of_ne same] at holds
        exact hypothesis holds
  | refused url reason _ _ hypothesis => exact hypothesis holds
  | orders refusal _ _ other hypothesis =>
      rw [stoppedIn_order other]
      exact hypothesis holds
  | @stops held next deeds stopped refusal before _ hypothesis =>
      by_cases same : channel = stopped.channel
      · rw [same, Function.update_self] at holds
        contradiction
      · rw [Function.update_of_ne same] at holds
        have kept : track.channel ≠ stopped.channel :=
          (before.opened_of_held holds).2 ▸ same
        rw [stoppedIn_stop, List.mem_cons, not_or]
        exact ⟨fun equal => kept (congrArg _ equal), hypothesis holds⟩
  | shutsDown refusal _ hypothesis => exact hypothesis holds

/-- A clip that was opened and not stopped is the one that its channel holds. -/
theorem held_of_opened (ledger : Ledger held next deeds) (opened : track ∈ openedIn deeds)
    (going : track ∉ stoppedIn deeds) : held track.channel = some track := by
  induction ledger with
  | empty => contradiction
  | @opens held next deeds loaded url _ free hypothesis =>
      rcases List.mem_cons.mp opened with rfl | before
      · exact Function.update_self _ _ _
      · have holds := hypothesis before going
        have other : track.channel ≠ loaded := by
          rintro rfl
          rw [free] at holds
          contradiction
        rw [Function.update_of_ne other]
        exact holds
  | refused url reason _ _ hypothesis => exact hypothesis opened going
  | orders refusal _ _ other hypothesis =>
      rw [stoppedIn_order other] at going
      exact hypothesis opened going
  | @stops held next deeds stopped refusal _ holding hypothesis =>
      rw [stoppedIn_stop, List.mem_cons, not_or] at going
      have holds := hypothesis opened going.2
      have other : track.channel ≠ stopped.channel := by
        intro same
        rw [same, holding] at holds
        exact going.1 (Option.some.inj holds).symm
      rw [Function.update_of_ne other]
      exact holds
  | shutsDown refusal _ hypothesis => exact hypothesis opened going

private theorem opened_nodup (ledger : Ledger held next deeds) : (openedIn deeds).Nodup := by
  induction ledger with
  | empty => exact List.nodup_nil
  | opens url before _ hypothesis =>
      exact List.nodup_cons.mpr
        ⟨fun opened => Nat.lt_irrefl _ (before.number_lt opened), hypothesis⟩
  | refused url reason _ _ hypothesis => exact hypothesis
  | orders refusal _ _ _ hypothesis => exact hypothesis
  | stops refusal _ _ hypothesis => exact hypothesis
  | shutsDown refusal _ hypothesis => exact hypothesis

private theorem stopped_nodup (ledger : Ledger held next deeds) : (stoppedIn deeds).Nodup := by
  induction ledger with
  | empty => exact List.nodup_nil
  | opens url _ _ hypothesis => exact hypothesis
  | refused url reason _ _ hypothesis => exact hypothesis
  | orders refusal _ _ other hypothesis =>
      rw [stoppedIn_order other]
      exact hypothesis
  | stops refusal before holds hypothesis =>
      exact List.nodup_cons.mpr ⟨before.not_stopped_of_held holds, hypothesis⟩
  | shutsDown refusal _ hypothesis => exact hypothesis

/-- What was asked up to any time is a ledger too. -/
theorem before (ledger : Ledger held next (later ++ earlier)) :
    ∃ held next, Ledger held next earlier := by
  induction later generalizing held next with
  | nil => exact ⟨held, next, ledger⟩
  | cons last later hypothesis =>
      cases ledger with
      | opens url before _ => exact hypothesis before
      | refused url reason before _ => exact hypothesis before
      | orders refusal before _ _ => exact hypothesis before
      | stops refusal before _ => exact hypothesis before
      | shutsDown refusal before => exact hypothesis before

/-- What is on the books follows the rules of owning clips. -/
theorem disciplined (ledger : Ledger held next deeds) : Disciplined deeds where
  opensAlone := by
    rintro later earlier track old refusal rfl opened same
    obtain ⟨held, next, asked⟩ := ledger.before
    obtain ⟨held, next, before, free⟩ :
        ∃ held next, Ledger held next earlier ∧ held track.channel = none := by
      cases asked with
      | opens url before free => exact ⟨_, _, before, free⟩
      | refused url reason before free => exact ⟨_, _, before, free⟩
    by_contra going
    have holds := before.held_of_opened opened going
    rw [same, free] at holds
    contradiction
  single := by
    rintro later earlier first second rfl opened alsoOpened going alsoGoing same
    obtain ⟨held, next, before⟩ := ledger.before
    have holds := before.held_of_opened opened going
    rw [same, before.held_of_opened alsoOpened alsoGoing] at holds
    exact (Option.some.inj holds).symm
  usesOwn := by
    rintro later earlier track order refusal rfl
    obtain ⟨held, next, asked⟩ := ledger.before
    obtain ⟨held, next, before, holds⟩ :
        ∃ held next, Ledger held next earlier ∧ held track.channel = some track := by
      cases asked with
      | orders refusal before holds _ => exact ⟨_, _, before, holds⟩
      | stops refusal before holds => exact ⟨_, _, before, holds⟩
    exact ⟨(before.opened_of_held holds).1, before.not_stopped_of_held holds⟩
  opensOnce := ledger.opened_nodup
  stopsOnce := ledger.stopped_nodup

end Ledger

end VisualNovel.Sound
