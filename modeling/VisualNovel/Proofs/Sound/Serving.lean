import VisualNovel.Proofs.Sound.Attunement
import VisualNovel.Proofs.Sound.Demands

/-!
# Calls that are served

As long as the device refuses nothing, every call has each channel meet what the call
demands of it, and nothing else is opened or stopped.
-/

set_option autoImplicit false

namespace VisualNovel.Sound

open VisualNovel.Novel

variable {β : Type}

/-- What was asked of a desk from one moment to another, the first thing first. -/
structure Desk.Adds (before after : Desk β) (made : List Action) : Prop where
  journal : after.journal = made.reverse ++ before.journal
  later : before.opened ≤ after.opened
  fresh (track : Track) : .openClip track ∈ made → before.opened ≤ track.number

namespace Desk

variable {desk middle after : Desk β} {made more : List Action}

theorem adds_refl (desk : Desk β) : desk.Adds desk [] :=
  ⟨rfl, Nat.le_refl _, fun _ opened => by cases opened⟩

theorem Adds.trans (first : desk.Adds middle made) (second : middle.Adds after more) :
    desk.Adds after (made ++ more) where
  journal := by rw [second.journal, first.journal, List.reverse_append, List.append_assoc]
  later := Nat.le_trans first.later second.later
  fresh track opened := by
    rcases List.mem_append.mp opened with early | late
    · exact first.fresh track early
    · exact Nat.le_trans first.later (second.fresh track late)

variable [Device β]

theorem adds_order (desk : Desk β) (clip : Clip) (order : Order) :
    desk.Adds (desk.order clip order).2.2 [.order clip.track order] :=
  ⟨rfl, Nat.le_refl _, by simp⟩

private theorem adds_orders [Faithful β] {clean : β → Prop} (candid : Candid clean) {desk : Desk β}
    {clip : Clip} {orders : List Order} (still : clean (desk.orders clip orders).2.2.device) :
    desk.Adds (desk.orders clip orders).2.2 (orders.map (.order clip.track)) := by
  induction orders generalizing desk clip with
  | nil => exact adds_refl desk
  | cons first rest hypothesis =>
      have same := candid.orders_cons still
      rw [same] at still ⊢
      have later := hypothesis still
      have track : (desk.order clip first).2.1.track = clip.track :=
        Faithful.order_track first clip desk.device
      rw [track] at later
      exact (adds_order desk clip first).trans later

private theorem adds_openClip (desk : Desk β) (channel : Channel) (url : String) :
    desk.Adds (desk.openClip channel url).2 [.openClip ⟨desk.opened, channel, url⟩] :=
  ⟨rfl, Nat.le_succ _, by simp⟩

private theorem adds_shutDown (desk : Desk β) : desk.Adds desk.shutDown [.shutDown] := by
  cases refused : (Device.shutDown desk.device).1 with
  | none =>
      simp only [shutDown, refused]
      exact ⟨rfl, Nat.le_refl _, by simp⟩
  | some reason =>
      simp only [shutDown, refused]
      exact ⟨rfl, Nat.le_refl _, by simp⟩

end Desk

/-! ## Slots -/

namespace Slot

/-- What a slot holds is a clip of its channel that was opened on the desk. -/
def Bound (slot : Slot) (desk : Desk β) : Prop :=
  ∀ track, slot.track? = some track → track.channel = slot.channel ∧ track.number < desk.opened

/-- A slot was used so that it meets a demand. -/
structure Serves (slot : Slot) (desk : Desk β) (demand : Demand) (used : Slot × Desk β) :
    Prop where
  channel : used.1.channel = slot.channel
  bound : used.1.Bound used.2
  asks : ∃ made, desk.Adds used.2 made ∧
    (∀ action ∈ made, ∀ channel, action.marks channel = true → channel = slot.channel) ∧
    Meets slot.track? demand (made.filter (Action.marks slot.channel)) used.1.track?

/-- Using a slot meets a demand where the device is clean afterwards. -/
structure Leads (clean : β → Prop) (slot : Slot) (desk : Desk β) (demand : Demand)
    (used : Slot × Desk β) : Prop where
  back : clean used.2.device → clean desk.device
  serves : clean used.2.device → slot.Bound desk → slot.Serves desk demand used

variable {clean : β → Prop} {slot : Slot} {desk : Desk β} {clip : Clip}

private theorem track?_of_loaded (loaded : slot.clip = some clip) :
    slot.track? = some clip.track := by
  rw [track?, loaded, Option.map_some]

theorem leads_still (clean : β → Prop) (slot : Slot) (desk : Desk β) :
    slot.Leads clean desk .leave (slot, desk) :=
  ⟨id, fun _ bound => ⟨rfl, bound, [], Desk.adds_refl desk, by simp, .leaves⟩⟩

variable [Device β] (candid : Candid clean)

include candid

theorem leads_release (slot : Slot) (desk : Desk β) :
    slot.Leads clean desk .silence (slot.release desk) where
  back := clean_of_release candid slot
  serves still bound := by
    cases loaded : slot.clip with
    | none =>
        have empty : slot.track? = none := by rw [track?, loaded, Option.map_none]
        simp only [release, loaded]
        refine ⟨rfl, bound, [], Desk.adds_refl desk, by simp, ?_⟩
        rw [empty]
        exact .silences
    | some clip =>
        have device : (slot.release desk).2.device =
            (Device.order .stop clip desk.device).device := by
          simp only [release, loaded, Desk.order]
          cases (Device.order .stop clip desk.device).failure <;> rfl
        obtain ⟨-, accepted⟩ := candid.order (device ▸ still)
        have used : slot.release desk =
            ({ slot with clip := none }, (desk.order clip .stop).2.2) := by
          simp only [release, loaded, Desk.order, accepted]
        have holds := track?_of_loaded loaded
        obtain ⟨place, _⟩ := bound clip.track holds
        rw [used]
        refine ⟨rfl, ?_, _, Desk.adds_order desk clip .stop, ?_, ?_⟩
        · intro track held
          cases held
        · simp [Action.marks, place]
        · rw [holds, List.filter_cons_of_pos (by simp [Action.marks, place])]
          exact .silences

variable [Faithful β]

/-- An order that does not stop the clip leaves what the slot holds. -/
theorem leads_order (loaded : slot.clip = some clip) {order : Order} (other : order ≠ .stop)
    (refused : Channel → String → Report) :
    slot.Leads clean desk .leave (slot.order clip order refused desk) where
  back still := by
    rw [order_device] at still
    exact (candid.order still).1
  serves still bound := by
    rw [order_device] at still
    obtain ⟨-, accepted⟩ := candid.order still
    have used : slot.order clip order refused desk =
        ({ slot with clip := some (desk.order clip order).2.1 }, (desk.order clip order).2.2) := by
      simp only [Slot.order, Desk.order, accepted]
    have holds : ({ slot with clip := some (desk.order clip order).2.1 } : Slot).track? =
        slot.track? := by
      rw [track?_of_loaded loaded, track?, Option.map_some]
      exact congrArg some (Faithful.order_track order clip desk.device)
    have unmarked (channel : Channel) :
        (Action.order clip.track order).marks channel = false := by
      cases order <;> first | rfl | contradiction
    rw [used]
    refine ⟨rfl, ?_, _, Desk.adds_order desk clip order, ?_, ?_⟩
    · intro track held
      rw [holds] at held
      exact bound track held
    · simp [unmarked]
    · rw [holds, List.filter_cons_of_neg (by simp [unmarked])]
      exact .leaves

theorem leads_pause (slot : Slot) (desk : Desk β) :
    slot.Leads clean desk .leave (slot.pause desk) := by
  unfold pause
  cases loaded : slot.clip with
  | none => exact leads_still clean slot desk
  | some clip =>
      dsimp only
      split
      · exact leads_still clean slot desk
      · exact leads_order candid loaded (by simp) _

theorem leads_resume (slot : Slot) (desk : Desk β) :
    slot.Leads clean desk .leave (slot.resume desk) := by
  unfold resume
  cases loaded : slot.clip with
  | none => exact leads_still clean slot desk
  | some clip =>
      dsimp only
      split
      · exact leads_order candid loaded (by simp) _
      · exact leads_still clean slot desk

theorem leads_setMuted (slot : Slot) (desk : Desk β) (muted : Bool) :
    slot.Leads clean desk .leave (slot.setMuted muted desk) := by
  have other : Order.setMuted muted ≠ .stop := by simp
  unfold setMuted
  dsimp only
  split
  · exact ⟨id, fun _ bound => ⟨rfl, bound, [], Desk.adds_refl desk, by simp, .leaves⟩⟩
  · next clip loaded =>
      have held : ({ slot with muted } : Slot).clip = some clip := loaded
      have leads : Leads clean { slot with muted } desk .leave
          (order { slot with muted } clip (.setMuted muted) .muteFailed desk) :=
        leads_order candid held other .muteFailed
      refine ⟨leads.back, fun still bound => ?_⟩
      obtain ⟨channel, bound, asks⟩ := leads.serves still bound
      exact ⟨channel, bound, asks⟩

omit [Device β] candid [Faithful β] in
def starting (slot : Slot) (looping : Bool) : List Order :=
  [.setVolume slot.volume, .setMuted slot.muted, .play looping]

/-- What is acquired is opened once the clip before it was released, and then started. -/
theorem acquire_of_clean {empty : Slot} {released : Desk β} {url : String} {looping : Bool}
    (released_eq : slot.release desk = (empty, released))
    (still : clean (slot.acquire url looping desk).2.2.device) :
    clean released.device ∧ ∃ (clip : Clip) (after : Desk β),
      clip.track = ⟨released.opened, empty.channel, url⟩ ∧
        (slot.acquire url looping desk).2 = ({ empty with clip := some clip }, after) ∧
        released.opened < after.opened ∧
        released.Adds after
          (.openClip clip.track :: (empty.starting looping).map (.order clip.track)) := by
  simp only [acquire, released_eq] at still ⊢
  have opens (left : clean (released.openClip empty.channel url).2.device) :
      clean released.device ∧ ∃ clip, (released.openClip empty.channel url).1 = .ok clip :=
    candid.openClip left
  have track {clip : Clip} (opened : (released.openClip empty.channel url).1 = .ok clip) :
      clip.track = ⟨released.opened, empty.channel, url⟩ := Faithful.openClip_track opened
  have begins := Desk.adds_openClip released empty.channel url
  have newer : released.opened < (released.openClip empty.channel url).2.opened :=
    Nat.lt_succ_self _
  generalize released.openClip empty.channel url = answered at still opens track begins newer ⊢
  obtain ⟨result, left⟩ := answered
  cases result with
  | error reason => simpa using (opens still).2
  | ok clip =>
      have starts (still : clean (left.orders clip (empty.starting looping)).2.2.device) :=
        Desk.adds_orders candid still
      have orders (still : clean (left.orders clip (empty.starting looping)).2.2.device) :=
        candid.orders still
      have same := left.orders_track clip (empty.starting looping)
      rw [starting] at starts orders same
      dsimp only at still ⊢
      generalize left.orders clip _ = ordered at still starts orders same ⊢
      obtain ⟨failure, last, after⟩ := ordered
      cases failure with
      | some reason => simpa using (orders still).2
      | none =>
          have begun := (opens (orders still).1).1
          have opened := track rfl
          have whole := begins.trans (starts still)
          have named : last.track = clip.track := same
          rw [← opened, ← named] at whole
          exact ⟨begun, last, after, named.trans opened, rfl,
            Nat.lt_of_lt_of_le newer (starts still).later, whole⟩

theorem leads_acquire (slot : Slot) (desk : Desk β) (url : String) (looping : Bool) :
    slot.Leads clean desk (.anew url) (slot.acquire url looping desk).2 := by
  cases released_eq : slot.release desk with
  | mk empty released =>
      have releases := leads_release candid slot desk
      rw [released_eq] at releases
      refine ⟨fun still => releases.back (acquire_of_clean candid released_eq still).1, ?_⟩
      intro still bound
      obtain ⟨between, clip, after, opened, used, newer, starts⟩ :=
        acquire_of_clean candid released_eq still
      obtain ⟨channel, -, made, adds, about, meets⟩ := releases.serves between bound
      have place : clip.track.channel = slot.channel := (congrArg (·.channel) opened).trans channel
      have number : clip.track.number = released.opened := congrArg (·.number) opened
      have named : clip.track.url = url := congrArg (·.url) opened
      -- the orders to start a clip neither open nor stop anything
      have silent (channel : Channel) : ((empty.starting looping).map
          (Action.order clip.track)).filter (Action.marks channel) = [] := rfl
      rw [used]
      refine ⟨channel, ?_, _, adds.trans starts, ?_, ?_⟩
      · intro other held
        cases held
        exact ⟨place.trans channel.symm, number ▸ newer⟩
      · intro action listed other marked
        rcases List.mem_append.mp listed with stopped | begun
        · exact about action stopped other marked
        · have kept := List.mem_filter.mpr ⟨begun, marked⟩
          rw [List.filter_cons, silent] at kept
          split at kept
          · next here => exact (of_decide_eq_true here).symm.trans place
          · cases kept
      · have marked : (Action.openClip clip.track).marks slot.channel = true :=
          decide_eq_true place
        rw [List.filter_append, List.filter_cons_of_pos marked, silent, ← named]
        exact meets.anew clip.track

end Slot

/-! ## Coordinators -/

def Demand.onlyOn (channel : Channel) (demand : Demand) (other : Channel) : Demand :=
  if other = channel then demand else .leave

/-- Two demands in a row that come to a single one. -/
inductive Demand.Joins : Demand → Demand → Demand → Prop where
  | first (demand : Demand) : Joins demand .leave demand
  | second (demand : Demand) : Joins .leave demand demand
  | both (url : String) : Joins .silence (.anew url) (.anew url)

theorem Meets.trans {first second whole : Demand} {held between after : Option Track}
    {early late : List Action} (joins : Demand.Joins first second whole)
    (meets : Meets held first early between) (next : Meets between second late after) :
    Meets held whole (early ++ late) after := by
  cases joins with
  | first =>
      cases next
      rwa [List.append_nil]
  | second =>
      cases meets
      exact next
  | both =>
      cases meets
      cases next
      exact .plays

namespace Coordinator

structure Ready (coordinator : Coordinator β) : Prop where
  placed (channel : Channel) : (coordinator.slot channel).channel = channel
  bound (channel : Channel) : (coordinator.slot channel).Bound coordinator.desk

structure Grants (before : Coordinator β) (demands : Channel → Demand) (made : List Action)
    (after : Coordinator β) : Prop where
  adds : before.desk.Adds after.desk made
  meets (channel : Channel) :
    Meets (before.held channel) (demands channel) (made.filter (Action.marks channel))
      (after.held channel)

/-- Every channel met a demand, and the slots are as ready as they were. -/
structure Serves (before : Coordinator β) (demands : Channel → Demand) (after : Coordinator β) :
    Prop where
  ready : after.Ready
  grants : ∃ made, before.Grants demands made after

/-- Every channel meets a demand where the device is clean afterwards. -/
structure Leads (clean : β → Prop) (before : Coordinator β) (demands : Channel → Demand)
    (after : Coordinator β) : Prop where
  back : clean after.desk.device → clean before.desk.device
  serves : clean after.desk.device → before.Ready → before.Serves demands after

variable {clean : β → Prop} {coordinator before between after : Coordinator β}
  {demands : Channel → Demand} {channel : Channel}

theorem ready_new (device : β) (music voice sfx : Float) (muted : Bool) :
    (new device music voice sfx muted).Ready where
  placed channel := by cases channel <;> rfl
  bound channel := by
    cases channel <;>
    · intro track held
      cases held

theorem Grants.trans {first second : Channel → Demand} {made more : List Action}
    (grants : before.Grants first made between) (next : between.Grants second more after)
    (joins : ∀ channel, Demand.Joins (first channel) (second channel) (demands channel)) :
    before.Grants demands (made ++ more) after where
  adds := grants.adds.trans next.adds
  meets channel := by
    rw [List.filter_append]
    exact .trans (joins channel) (grants.meets channel) (next.meets channel)

/-- What was done in two steps was done in the first if the device is clean after both. -/
theorem Leads.trans {first second : Channel → Demand} (leads : before.Leads clean first between)
    (next : between.Leads clean second after)
    (joins : ∀ channel, Demand.Joins (first channel) (second channel) (demands channel)) :
    before.Leads clean demands after where
  back still := leads.back (next.back still)
  serves still ready := by
    obtain ⟨ready, _, grants⟩ := leads.serves (next.back still) ready
    obtain ⟨ready, _, later⟩ := next.serves still ready
    exact ⟨ready, _, grants.trans later joins⟩

theorem Leads.mono {weaker : Channel → Demand} (leads : before.Leads clean demands after)
    (implied : ∀ channel actions,
      Meets (before.held channel) (demands channel) actions (after.held channel) →
        Meets (before.held channel) (weaker channel) actions (after.held channel)) :
    before.Leads clean weaker after where
  back := leads.back
  serves still ready := by
    obtain ⟨ready, made, adds, meets⟩ := leads.serves still ready
    exact ⟨ready, made, adds, fun channel => implied channel _ (meets channel)⟩

/-- A slot that meets a demand leaves the other channels as they are. -/
theorem leads_put (coordinator : Coordinator β) {demand : Demand} {used : Slot × Desk β}
    (leads : (coordinator.slot channel).Leads clean coordinator.desk demand used) :
    coordinator.Leads clean (Demand.onlyOn channel demand) (coordinator.put channel used) where
  back := by
    rw [desk_put]
    exact leads.back
  serves still ready := by
    rw [desk_put] at still
    obtain ⟨same, bound, made, adds, about, meets⟩ := leads.serves still (ready.bound channel)
    rw [ready.placed] at same about meets
    refine ⟨⟨?_, ?_⟩, made, ?_, ?_⟩
    · intro other
      rw [slot_put]
      by_cases here : other = channel
      · rw [here, Function.update_self, same]
      · rw [Function.update_of_ne here, ready.placed]
    · intro other
      rw [slot_put, desk_put]
      by_cases here : other = channel
      · rw [here, Function.update_self]
        exact bound
      · rw [Function.update_of_ne here]
        intro track held
        obtain ⟨place, earlier⟩ := ready.bound other track held
        exact ⟨place, Nat.lt_of_lt_of_le earlier adds.later⟩
    · rw [desk_put]
      exact adds
    · intro other
      rw [held_put]
      by_cases here : other = channel
      · rw [here, Function.update_self, Demand.onlyOn, if_pos rfl]
        exact meets
      · rw [Function.update_of_ne here, Demand.onlyOn, if_neg here, List.filter_eq_nil_iff.mpr]
        · exact .leaves
        · intro action listed marked
          exact here (about action listed other marked)

variable [Device β] (candid : Candid clean)

include candid

theorem leads_release (coordinator : Coordinator β) (channel : Channel) :
    coordinator.Leads clean (Demand.onlyOn channel .silence) (coordinator.release channel) :=
  leads_put coordinator (Slot.leads_release candid _ _)

/-- The channels of a line are silenced together. -/
theorem leads_hush (coordinator : Coordinator β) :
    coordinator.Leads clean (fun channel => if channel = .music then .leave else .silence)
      ((coordinator.release .voice).release .sfx) := by
  refine (leads_release candid coordinator .voice).trans (leads_release candid _ .sfx) ?_
  intro channel
  cases channel with
  | music | sfx => exact .second _
  | voice => exact .first _

/-- Closing silences every channel. -/
private theorem leads_close (isOpen : coordinator.closed = false) :
    coordinator.Leads clean (fun channel => Call.close.demand channel) coordinator.close := by
  have joins (channel : Channel) : Demand.Joins (Demand.onlyOn .music .silence channel)
      (if channel = .music then .leave else .silence) (Call.close.demand channel) := by
    cases channel with
    | music => exact .first _
    | voice | sfx => exact .second _
  have silenced := (leads_release candid { coordinator with closed := true } .music).trans
    (leads_hush candid _) joins
  unfold Coordinator.close
  rw [isOpen, if_neg Bool.false_ne_true]
  dsimp only
  generalize ((({ coordinator with closed := true } : Coordinator β).release .music).release
    .voice).release .sfx = hushed at silenced ⊢
  have device : hushed.desk.shutDown.device = (Device.shutDown hushed.desk.device).2 := by
    unfold Desk.shutDown
    dsimp only
    split <;> rfl
  have back (still : clean hushed.desk.shutDown.device) : clean hushed.desk.device :=
    candid.shutDown (device ▸ still)
  refine ⟨fun still => silenced.back (back still), fun still ready => ?_⟩
  obtain ⟨⟨placed, bound⟩, made, adds, meets⟩ := silenced.serves (back still)
    ⟨ready.placed, ready.bound⟩
  have gives := Desk.adds_shutDown hushed.desk
  refine ⟨⟨placed, fun channel track held => ?_⟩, made ++ [.shutDown], adds.trans gives,
    fun channel => ?_⟩
  · exact (bound channel track held).imp_right fun earlier =>
      Nat.lt_of_lt_of_le earlier gives.later
  · have unmarked : [Action.shutDown].filter (Action.marks channel) = [] := rfl
    rw [List.filter_append, unmarked, List.append_nil]
    exact meets channel

variable [Faithful β]

theorem leads_acquire (coordinator : Coordinator β) (channel : Channel) (url : String)
    (looping : Bool) :
    coordinator.Leads clean (Demand.onlyOn channel (.anew url))
      (coordinator.acquire channel url looping).2 :=
  leads_put coordinator (Slot.leads_acquire candid _ _ url looping)

theorem leads_pause (coordinator : Coordinator β) (channel : Channel) :
    coordinator.Leads clean (Demand.onlyOn channel .leave) (coordinator.pause channel) :=
  leads_put coordinator (Slot.leads_pause candid _ _)

theorem leads_resume (coordinator : Coordinator β) (channel : Channel) :
    coordinator.Leads clean (Demand.onlyOn channel .leave) (coordinator.resume channel) :=
  leads_put coordinator (Slot.leads_resume candid _ _)

theorem leads_setSlotMuted (coordinator : Coordinator β) (channel : Channel) (muted : Bool) :
    coordinator.Leads clean (fun _ => .leave) (coordinator.setSlotMuted channel muted) := by
  apply (leads_put coordinator (Slot.leads_setMuted candid _ _ muted)).mono
  intro other actions meets
  rwa [Demand.onlyOn, ite_self] at meets

private theorem leads_replace (coordinator : Coordinator β) (channel : Channel)
    (url : Option String) :
    coordinator.Leads clean (Demand.onlyOn channel (.ofLine url))
      (coordinator.replace channel url) := by
  have silenced := leads_release candid coordinator channel
  unfold Coordinator.replace Demand.ofLine
  cases named? url with
  | none => exact silenced
  | some url =>
      refine silenced.trans (leads_acquire candid _ channel url false) ?_
      intro other
      unfold Demand.onlyOn
      split
      · exact .both url
      · exact .first .leave

/-- The music of a scene goes on where it is the one that is held. -/
theorem leads_score (coordinator : Coordinator β) (url : Option String) :
    coordinator.Leads clean (Demand.onlyOn .music (.ofScene url))
      (match named? url with
      | none => coordinator.release .music
      | some url =>
          if coordinator.music.url? = some url then coordinator.resume .music
          else (coordinator.acquire .music url true).2) := by
  have holds : (coordinator.held .music).map (·.url) = coordinator.music.url? :=
    Option.map_map _ _ _
  unfold Demand.ofScene
  cases named? url with
  | none => exact leads_release candid coordinator .music
  | some url =>
      dsimp only
      split
      · next same =>
          apply (leads_resume candid coordinator .music).mono
          intro channel actions meets
          cases channel with
          | music => exact meets.stay (holds.trans same)
          | voice | sfx => exact meets
      · next apart =>
          apply (leads_acquire candid coordinator .music url true).mono
          intro channel actions meets
          cases channel with
          | music => exact meets.turn (holds.symm ▸ apart)
          | voice | sfx => exact meets

/-- Every channel meets what a scene asks of it. -/
private theorem leads_enterScene (isOpen : coordinator.closed = false) (scene : Option Scene) :
    coordinator.Leads clean (fun channel => (Call.enterScene scene).demand channel)
      (coordinator.enterScene scene) := by
  -- the channels of a line are silenced first, so the music is seen to from there as well
  have score (between : Coordinator β) :=
    leads_score candid between (scene.bind (·.bgmUrl))
  unfold Coordinator.enterScene
  rw [isOpen, if_neg Bool.false_ne_true]
  cases bare : isBare scene with
  | true =>
      rw [show ((scene.map (·.dialogues)).getD []).isEmpty = true from bare, if_pos rfl]
      refine (leads_hush candid coordinator).trans (score _) ?_
      intro channel
      cases channel with
      | music => exact .second _
      | voice | sfx =>
          simp only [Call.demand, bare, if_true]
          exact .first _
  | false =>
      rw [show ((scene.map (·.dialogues)).getD []).isEmpty = false from bare,
        if_neg Bool.false_ne_true]
      apply (score coordinator).mono
      intro channel actions meets
      cases channel with
      | music => exact meets
      | voice | sfx =>
          simp only [Call.demand, bare, Bool.false_eq_true, if_false]
          exact meets

private theorem leads_enterDialogue (isOpen : coordinator.closed = false)
    (dialogue : Option Dialogue) :
    coordinator.Leads clean (fun channel => (Call.enterDialogue dialogue).demand channel)
      (coordinator.enterDialogue dialogue) := by
  have voice := leads_replace candid coordinator .voice (dialogue.bind (·.voiceUrl))
  unfold Coordinator.enterDialogue
  rw [isOpen, if_neg Bool.false_ne_true]
  refine voice.trans (leads_replace candid _ .sfx (dialogue.bind (·.sfxUrl))) ?_
  intro channel
  cases channel with
  | music | sfx => exact .second _
  | voice => exact .first _

private theorem leads_finish (isOpen : coordinator.closed = false) :
    coordinator.Leads clean (fun channel => Call.finish.demand channel) coordinator.finish := by
  unfold Coordinator.finish
  rw [isOpen, if_neg Bool.false_ne_true]
  refine (leads_pause candid coordinator .music).trans (leads_hush candid _) ?_
  intro channel
  cases channel <;> exact .second _

theorem leads_setMuted (coordinator : Coordinator β) (muted : Bool) :
    coordinator.Leads clean (fun _ => .leave) (coordinator.setMuted muted) := by
  have joins (_ : Channel) : Demand.Joins .leave .leave .leave := .first .leave
  have slots := ((leads_setSlotMuted candid { coordinator with muted } .music muted).trans
    (leads_setSlotMuted candid _ .voice muted) joins).trans
      (leads_setSlotMuted candid _ .sfx muted) joins
  refine ⟨slots.back, fun still ready => ?_⟩
  obtain ⟨ready, made, adds, meets⟩ := slots.serves still ⟨ready.placed, ready.bound⟩
  exact ⟨ready, made, adds, meets⟩

/-- Every call has each channel meet what it demands, whatever it is. -/
theorem leads_answer (isOpen : coordinator.closed = false) (call : Call) :
    coordinator.Leads clean (fun channel => call.demand channel) (coordinator.answer call) := by
  cases call with
  | enterScene scene => exact leads_enterScene candid isOpen scene
  | enterDialogue dialogue => exact leads_enterDialogue candid isOpen dialogue
  | finish => exact leads_finish candid isOpen
  | setMuted muted => exact leads_setMuted candid coordinator muted
  | toggleMute => exact leads_setMuted candid coordinator (!coordinator.muted)
  | close => exact leads_close candid isOpen

end Coordinator

end VisualNovel.Sound
