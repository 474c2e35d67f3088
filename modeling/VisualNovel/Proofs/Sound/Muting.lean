import VisualNovel.Proofs.Sound.Attunement
import VisualNovel.Proofs.Sound.Ownership

/-!
# One flag for all channels

The mute flag is kept by the coordinator, by each slot and by each clip. Whatever a
device refuses, the three agree: slots always, and a clip as soon as it was told to
play, unless it refused to be muted. No clip is told to play before it was given
the flag, and muting asks for nothing but muting.
-/

set_option autoImplicit false

namespace VisualNovel.Sound

open VisualNovel.Novel

variable {β : Type}

def Order.mutes : Order → Bool
  | .setMuted _ => true
  | _ => false

def Order.plays : Order → Bool
  | .play _ => true
  | _ => false

def Action.plays : Action → Bool
  | .order _ given => given.plays
  | .openClip _ | .shutDown => false

/-- A device that mutes a clip when it is told to, and leaves the flag of the clip alone otherwise.
Nothing is known of a clip that refused to be muted. -/
class Dutiful (β : Type) [Device β] : Prop where
  order_muted {muted : Bool} {clip : Clip} {device : β} :
    (Device.order (.setMuted muted) clip device).failure = none →
      (Device.order (.setMuted muted) clip device).clip.muted = muted
  order_keeps {order : Order} (other : order.mutes = false) (clip : Clip) (device : β) :
    (Device.order order clip device).clip.muted = clip.muted

instance : Dutiful Rehearsal where
  order_muted {muted clip device} accepted := by
    cases considered : device.refusal device.asked (.order clip.track (.setMuted muted)) with
    | none => simp only [Device.order, Rehearsal.consider, considered, Clip.obey]
    | some reason => simp [Device.order, Rehearsal.consider, considered] at accepted
  order_keeps {order} other clip device := by
    cases considered : device.refusal device.asked (.order clip.track order) with
    | some reason => simp only [Device.order, Rehearsal.consider, considered]
    | none =>
        simp only [Device.order, Rehearsal.consider, considered]
        cases order with
        | setMuted muted => contradiction
        | pause =>
            simp only [Clip.obey]
            split <;> rfl
        | play | resume | stop | setVolume => rfl

instance : Dutiful Mixer where
  order_muted _ := by
    simp only [Device.order]
    split <;> rfl
  order_keeps {order} other clip mixer := by
    simp only [Device.order]
    cases order with
    | setMuted muted => contradiction
    | play | pause | resume | stop | setVolume => split <;> rfl

instance [Device β] [Dutiful β] : Dutiful (Watched β) where
  order_muted {_ _ watched} accepted := @Dutiful.order_muted β _ _ _ _ watched.device accepted
  order_keeps other clip watched := Dutiful.order_keeps other clip watched.device

def Played (track : Track) (deeds : List Deed) : Prop :=
  ∃ looping refusal, (⟨.order track (.play looping), refusal⟩ : Deed) ∈ deeds

def Compliant (track : Track) (deeds : List Deed) : Prop :=
  ∀ muted reason, (⟨.order track (.setMuted muted), some reason⟩ : Deed) ∉ deeds

def Cued (muted : Bool) (deeds : List Deed) : Prop :=
  ∀ ⦃later earlier : List Deed⦄ ⦃track : Track⦄ ⦃looping : Bool⦄ ⦃refusal : Option String⦄,
    deeds = later ++ ⟨.order track (.play looping), refusal⟩ :: earlier →
      ∃ rest, earlier = ⟨.order track (.setMuted muted), none⟩ :: rest

def Deed.startsTrack (track : Track) : Deed → Bool
  | ⟨.order told (.play _), _⟩ => told = track
  | _ => false

def Deed.resistsTrack (track : Track) : Deed → Bool
  | ⟨.order told (.setMuted _), some _⟩ => told = track
  | _ => false

instance (track : Track) (deeds : List Deed) : Decidable (Played track deeds) :=
  decidable_of_iff (∃ deed ∈ deeds, deed.startsTrack track = true) <| by
    constructor
    · rintro ⟨⟨action, refusal⟩, listed, starts⟩
      unfold Deed.startsTrack at starts
      split at starts
      · next looping refusal same =>
          cases same
          exact ⟨looping, refusal, of_decide_eq_true starts ▸ listed⟩
      · contradiction
    · rintro ⟨looping, refusal, listed⟩
      exact ⟨_, listed, decide_eq_true rfl⟩

instance (track : Track) (deeds : List Deed) : Decidable (Compliant track deeds) :=
  decidable_of_iff (∀ deed ∈ deeds, deed.resistsTrack track = false) <| by
    constructor
    · intro agrees muted reason listed
      have resists := agrees _ listed
      simp [Deed.resistsTrack] at resists
    · rintro compliant ⟨action, refusal⟩ listed
      unfold Deed.resistsTrack
      split
      · next muted reason same =>
          cases same
          refine decide_eq_false ?_
          rintro rfl
          exact compliant muted reason listed
      · rfl

section Deeds

variable {muted : Bool} {track : Track} {order : Order} {refusal : Option String} {deed : Deed}
variable {made more deeds : List Deed}

theorem played_append : Played track (made ++ deeds) ↔ Played track made ∨ Played track deeds := by
  simp only [Played, List.mem_append, exists_or]

theorem not_played_of_silent (silent : ∀ deed ∈ made, deed.action.plays = false) :
    ¬Played track made := by
  rintro ⟨looping, refusal, listed⟩
  have plays := silent _ listed
  contradiction

theorem not_played_nil : ¬Played track [] :=
  not_played_of_silent fun _ impossible => by contradiction

theorem not_played_singleton (silent : deed.action.plays = false) : ¬Played track [deed] :=
  not_played_of_silent fun _ listed => List.mem_singleton.mp listed ▸ silent

theorem Compliant.before (compliant : Compliant track (made ++ deeds)) : Compliant track deeds :=
  fun muted reason refused => compliant muted reason (List.mem_append_right made refused)

theorem cued_of_not_played (silent : ∀ track, ¬Played track deeds) : Cued muted deeds := by
  rintro later earlier track looping refusal rfl
  exact absurd ⟨looping, refusal, List.mem_append_right _ List.mem_cons_self⟩ (silent track)

theorem Cued.append (second : Cued muted more) (first : Cued muted made) :
    Cued muted (more ++ made) := by
  intro later earlier track looping refusal split
  rcases List.append_eq_append_iff.mp split with ⟨between, -, inner⟩ | ⟨between, inner, same⟩
  · exact first inner
  · -- the order to play is the last of the first deeds, or among the second ones
    cases between with
    | nil => exact @first [] _ _ _ _ same.symm
    | cons played between =>
        obtain ⟨rfl, rfl⟩ := List.cons.inj same
        obtain ⟨rest, rfl⟩ := second inner
        exact ⟨rest ++ made, rfl⟩

private theorem cued_play (muted looping : Bool) (track : Track) (refusal : Option String) :
    Cued muted
      [⟨.order track (.play looping), refusal⟩, ⟨.order track (.setMuted muted), none⟩] := by
  intro later earlier played looping' refusal' split
  cases later with
  | nil =>
      cases split
      exact ⟨[], rfl⟩
  | cons deed later =>
      obtain ⟨-, split⟩ := List.cons.inj split
      have listed : Played played [⟨.order track (.setMuted muted), none⟩] :=
        ⟨looping', refusal', split ▸ List.mem_append_right _ List.mem_cons_self⟩
      exact absurd listed (not_played_singleton rfl)

end Deeds

theorem Desk.deeds_order [Device β] (desk : Desk (Watched β)) (clip : Clip) (order : Order) :
    (desk.order clip order).2.2.device.deeds =
      ⟨.order clip.track order, (desk.order clip order).1⟩ :: desk.device.deeds :=
  rfl

/-- Orders stop at the first that is refused. -/
theorem Desk.orders_cons [Device β] (desk : Desk β) (clip : Clip) (first : Order)
    (rest : List Order) :
    desk.orders clip (first :: rest) = desk.order clip first ∨
      (desk.order clip first).1 = none ∧ desk.orders clip (first :: rest) =
        (desk.order clip first).2.2.orders (desk.order clip first).2.1 rest := by
  simp only [Desk.orders]
  generalize desk.order clip first = ordered
  obtain ⟨failure, after, left⟩ := ordered
  cases failure with
  | none => exact .inr ⟨rfl, rfl⟩
  | some reason => exact .inl rfl

private theorem Desk.orders_singleton [Device β] (desk : Desk β) (clip : Clip) (order : Order) :
    desk.orders clip [order] = desk.order clip order := by
  rcases desk.orders_cons clip order [] with stops | ⟨accepted, goes⟩
  · exact stops
  · rw [goes, orders, ← accepted]

namespace Desk

/-- What a clip did that was given orders, given what was asked of the device: if it was told to
play, it has the flag. -/
structure Cues (muted : Bool) (desk : Desk (Watched β)) (clip : Clip) (made : List Deed)
    (after : Option String × Clip × Desk (Watched β)) : Prop where
  deeds : after.2.2.device.deeds = made ++ desk.device.deeds
  cued : Cued muted made
  plays {track : Track} : Played track made → track = clip.track ∧ after.2.1.muted = muted

variable [Device β] {muted : Bool}

theorem cues_order (desk : Desk (Watched β)) (clip : Clip) {order : Order}
    (silent : order.plays = false) :
    desk.Cues muted clip [⟨.order clip.track order, (desk.order clip order).1⟩]
      (desk.order clip order) where
  deeds := desk.deeds_order clip order
  cued := cued_of_not_played fun _ => not_played_singleton silent
  plays played := absurd played (not_played_singleton silent)

variable [Dutiful β] [Faithful β]

/-- A clip that is told to play right after it was given the flag is cued. -/
private theorem cues_mute_play (desk : Desk (Watched β)) (clip : Clip) (muted looping : Bool) :
    ∃ made, desk.Cues muted clip made (desk.orders clip [.setMuted muted, .play looping]) := by
  rcases desk.orders_cons clip (.setMuted muted) [.play looping] with refused | ⟨accepted, goes⟩
  · rw [refused]
    exact ⟨_, desk.cues_order clip rfl⟩
  · have flag : (desk.order clip (.setMuted muted)).2.1.muted = muted :=
      Dutiful.order_muted accepted
    have same : (desk.order clip (.setMuted muted)).2.1.track = clip.track :=
      Faithful.order_track _ clip desk.device
    have told := desk.deeds_order clip (.setMuted muted)
    rw [goes, orders_singleton]
    rw [accepted] at told
    generalize (desk.order clip (.setMuted muted)).2.1 = clip' at flag same ⊢
    generalize (desk.order clip (.setMuted muted)).2.2 = desk' at told ⊢
    refine ⟨[⟨.order clip.track (.play looping), (desk'.order clip' (.play looping)).1⟩, _],
      ?_, cued_play muted looping clip.track _, ?_⟩
    · rw [desk'.deeds_order, told, same]
      rfl
    · rintro track ⟨looping', refusal, listed⟩
      have keeps : (desk'.order clip' (.play looping)).2.1.muted = clip'.muted :=
        Dutiful.order_keeps rfl clip' desk'.device
      rw [keeps, flag]
      rcases List.mem_cons.mp listed with played | other
      · cases played
        exact ⟨rfl, rfl⟩
      · exact absurd ⟨looping', refusal, other⟩ (not_played_singleton rfl)

/-- A clip that is started is cued. -/
private theorem cues_start (desk : Desk (Watched β)) (clip : Clip) (volume : Float)
    (muted looping : Bool) :
    ∃ made, desk.Cues muted clip made
      (desk.orders clip [.setVolume volume, .setMuted muted, .play looping]) := by
  rcases desk.orders_cons clip (.setVolume volume) [.setMuted muted, .play looping] with
    refused | ⟨-, goes⟩
  · rw [refused]
    exact ⟨_, desk.cues_order clip rfl⟩
  · have same : (desk.order clip (.setVolume volume)).2.1.track = clip.track :=
      Faithful.order_track _ clip desk.device
    have first : desk.Cues muted clip [_] (desk.order clip (.setVolume volume)) :=
      desk.cues_order clip rfl
    obtain ⟨made, rest⟩ := (desk.order clip (.setVolume volume)).2.2.cues_mute_play
      (desk.order clip (.setVolume volume)).2.1 muted looping
    rw [goes]
    refine ⟨made ++ [_], ?_, rest.cued.append first.cued, ?_⟩
    · rw [rest.deeds, first.deeds, List.append_assoc]
    · intro track played
      rcases played_append.mp played with later | earlier
      · rw [← same]
        exact rest.plays later
      · exact absurd earlier (not_played_singleton rfl)

end Desk

namespace Slot

/-- A slot has the flag, and so has the clip in it once it was told to play. -/
structure Heeds (muted : Bool) (slot : Slot) (deeds : List Deed) : Prop where
  flag : slot.muted = muted
  clip {clip : Clip} : slot.clip = some clip → Played clip.track deeds →
    Compliant clip.track deeds → clip.muted = muted

/-- What a slot was used for, given what was asked of the device. -/
structure Minds (muted : Bool) (slot : Slot) (desk : Desk (Watched β)) (made : List Deed)
    (used : Slot × Desk (Watched β)) : Prop where
  deeds : used.2.device.deeds = made ++ desk.device.deeds
  heeds : used.1.Heeds muted used.2.device.deeds
  own {track : Track} : Played track made → track.channel = slot.channel
  cued : Cued muted made

variable {muted : Bool} {slot : Slot} {desk : Desk (Watched β)} {clip : Clip}

theorem minds_of_not_played {made : List Deed} {used : Slot × Desk (Watched β)}
    (deeds : used.2.device.deeds = made ++ desk.device.deeds)
    (heeds : used.1.Heeds muted used.2.device.deeds) (silent : ∀ track, ¬Played track made) :
    slot.Minds muted desk made used where
  deeds := deeds
  heeds := heeds
  own played := absurd played (silent _)
  cued := cued_of_not_played silent

theorem Heeds.still (heeds : slot.Heeds muted desk.device.deeds) :
    slot.Minds muted desk [] (slot, desk) :=
  minds_of_not_played rfl heeds fun _ => not_played_nil

theorem Minds.trans {middle : Slot} {desk' : Desk (Watched β)} {made more : List Deed}
    {used : Slot × Desk (Watched β)} (first : slot.Minds muted desk made (middle, desk'))
    (second : middle.Minds muted desk' more used) (channel : middle.channel = slot.channel) :
    slot.Minds muted desk (more ++ made) used where
  deeds := by rw [second.deeds, first.deeds, List.append_assoc]
  heeds := second.heeds
  own played := by
    rcases played_append.mp played with later | earlier
    · exact (second.own later).trans channel
    · exact first.own earlier
  cued := second.cued.append first.cued

/-- A clip that is opened has a number of its own, so it was not told to play before. -/
theorem Tended.not_played {held : Channel → Option Track} (tended : slot.Tended held desk)
    {track : Track} (new : desk.opened ≤ track.number) : ¬Played track desk.device.deeds := by
  rintro ⟨looping, refusal, listed⟩
  obtain ⟨later, earlier, split⟩ := List.append_of_mem listed
  obtain ⟨opened, -⟩ := tended.ledger.disciplined.usesOwn split
  have known : track ∈ openedIn desk.device.deeds := by
    rw [split, openedIn, List.filterMap_append]
    exact List.mem_append_right _ opened
  exact absurd (tended.ledger.number_lt known) (Nat.not_lt.mpr new)

theorem minds_start {slot : Slot} {desk desk' : Desk (Watched β)} {clip : Clip}
    {opening : Deed} {made : List Deed} {started : Option String × Clip × Desk (Watched β)}
    (opened : desk'.device.deeds = [opening] ++ desk.device.deeds)
    (silent : opening.action.plays = false) (new : ¬Played clip.track desk.device.deeds)
    (channel : clip.track.channel = slot.channel)
    (cues : desk'.Cues slot.muted clip made started) (same : started.2.1.track = clip.track) :
    slot.Minds slot.muted desk (made ++ [opening])
      ({ slot with clip := some started.2.1 }, started.2.2) where
  deeds := by rw [cues.deeds, opened, List.append_assoc]
  heeds := by
    refine ⟨rfl, ?_⟩
    intro kept loaded played _
    obtain rfl := Option.some.inj loaded
    rw [cues.deeds, opened, played_append, played_append, same] at played
    rcases played with now | before | earlier
    · exact (cues.plays now).2
    · exact absurd before (not_played_singleton silent)
    · exact absurd earlier new
  own played := by
    rcases played_append.mp played with now | before
    · rw [(cues.plays now).1, channel]
    · exact absurd before (not_played_singleton silent)
  cued := cues.cued.append (cued_of_not_played fun _ => not_played_singleton silent)

variable [Device β]

theorem deeds_order (slot : Slot) (clip : Clip) (order : Order)
    (refused : Channel → String → Report) (desk : Desk (Watched β)) :
    (slot.order clip order refused desk).2.device.deeds =
      [⟨.order clip.track order, (Device.order order clip desk.device).failure⟩] ++
        desk.device.deeds := by
  rw [order_device]
  rfl

/-- Releasing a slot keeps its flag. -/
theorem Heeds.release (heeds : slot.Heeds muted desk.device.deeds) :
    ∃ made, slot.Minds muted desk made (slot.release desk) := by
  cases loaded : slot.clip with
  | none =>
      simp only [Slot.release, loaded]
      exact ⟨[], heeds.still⟩
  | some clip =>
      have empty (deeds : List Deed) : Heeds muted { slot with clip := none } deeds :=
        ⟨heeds.flag, fun impossible => by contradiction⟩
      have asked := desk.deeds_order clip .stop
      simp only [Slot.release, loaded]
      generalize desk.order clip .stop = ordered at asked ⊢
      obtain ⟨failure, after, left⟩ := ordered
      refine ⟨[⟨.order clip.track .stop, failure⟩], ?_⟩
      cases failure with
      | none => exact minds_of_not_played asked (empty _) fun _ => not_played_singleton rfl
      | some reason => exact minds_of_not_played asked (empty _) fun _ => not_played_singleton rfl

variable [Dutiful β] [Faithful β]

theorem Heeds.order (heeds : slot.Heeds muted desk.device.deeds) (loaded : slot.clip = some clip)
    {order : Order} (other : order.mutes = false) (silent : order.plays = false)
    (refused : Channel → String → Report) :
    ∃ made, slot.Minds muted desk made (slot.order clip order refused desk) := by
  refine ⟨_, minds_of_not_played (deeds_order slot clip order refused desk) ?_
    fun _ => not_played_singleton silent⟩
  rw [order_clip, deeds_order]
  refine ⟨heeds.flag, ?_⟩
  intro after kept played compliant
  obtain rfl := Option.some.inj kept
  rw [Faithful.order_track] at played compliant
  rw [Dutiful.order_keeps other]
  exact heeds.clip loaded ((played_append.mp played).resolve_left (not_played_singleton silent))
    compliant.before

theorem Heeds.pause (heeds : slot.Heeds muted desk.device.deeds) :
    ∃ made, slot.Minds muted desk made (slot.pause desk) := by
  cases loaded : slot.clip with
  | none =>
      simp only [Slot.pause, loaded]
      exact ⟨[], heeds.still⟩
  | some clip =>
      simp only [Slot.pause, loaded]
      split
      · exact ⟨[], heeds.still⟩
      · exact heeds.order loaded rfl rfl _

theorem Heeds.resume (heeds : slot.Heeds muted desk.device.deeds) :
    ∃ made, slot.Minds muted desk made (slot.resume desk) := by
  cases loaded : slot.clip with
  | none =>
      simp only [Slot.resume, loaded]
      exact ⟨[], heeds.still⟩
  | some clip =>
      simp only [Slot.resume, loaded]
      split
      · exact heeds.order loaded rfl rfl _
      · exact ⟨[], heeds.still⟩

/-- Muting a slot gives its clip the flag, whatever flag it had before, and nothing else. -/
theorem minds_setMuted (slot : Slot) (muted : Bool) (desk : Desk (Watched β)) :
    ∃ made, slot.Minds muted desk made (slot.setMuted muted desk) ∧
      made.map Deed.action = slot.track?.toList.map (.order · (.setMuted muted)) := by
  cases loaded : slot.clip with
  | none =>
      simp only [Slot.setMuted, loaded, track?]
      refine ⟨[], ⟨minds_of_not_played rfl ⟨rfl, ?_⟩ fun _ => not_played_nil, rfl⟩⟩
      exact fun impossible => by contradiction
  | some clip =>
      simp only [Slot.setMuted, loaded, track?]
      refine ⟨_, minds_of_not_played (deeds_order _ clip _ _ desk) ?_
        fun _ => not_played_singleton rfl, rfl⟩
      rw [order_clip, deeds_order]
      refine ⟨rfl, ?_⟩
      intro after kept _ compliant
      obtain rfl := Option.some.inj kept
      rw [Faithful.order_track] at compliant
      cases answered : (Device.order (.setMuted muted) clip desk.device).failure with
      | none => exact Dutiful.order_muted answered
      | some reason =>
          rw [answered] at compliant
          exact absurd (List.mem_append_left _ List.mem_cons_self) (compliant muted reason)

/-- What is acquired is given the flag before it plays. -/
theorem Heeds.acquire {held : Channel → Option Track} (tended : slot.Tended held desk)
    (heeds : slot.Heeds muted desk.device.deeds) (url : String) (looping : Bool) :
    ∃ made, slot.Minds muted desk made (slot.acquire url looping desk).2 := by
  obtain ⟨first, released⟩ := heeds.release
  obtain ⟨channel, tended⟩ := tended.release
  have emptied := release_clip slot desk
  simp only [Slot.acquire]
  generalize slot.release desk = used at released channel tended emptied ⊢
  obtain ⟨empty, desk'⟩ := used
  suffices opens : ∃ more, empty.Minds muted desk' more _ by
    obtain ⟨more, second⟩ := opens
    exact ⟨_, released.trans second channel⟩
  have flag : empty.muted = muted := released.heeds.flag
  have told : (desk'.openClip empty.channel url).2.device.deeds =
      [⟨.openClip ⟨desk'.opened, empty.channel, url⟩,
        refusal? (desk'.openClip empty.channel url).1⟩] ++ desk'.device.deeds := rfl
  have track {clip : Clip} (opened : (desk'.openClip empty.channel url).1 = .ok clip) :
      clip.track = ⟨desk'.opened, empty.channel, url⟩ := Faithful.openClip_track opened
  generalize desk'.openClip empty.channel url = answered at told track ⊢
  obtain ⟨result, desk''⟩ := answered
  cases result with
  | error reason =>
      refine ⟨_, minds_of_not_played told ⟨flag, ?_⟩ fun _ => not_played_singleton rfl⟩
      intro clip loaded
      rw [emptied] at loaded
      contradiction
  | ok clip =>
      have new : ¬Played clip.track desk'.device.deeds :=
        tended.not_played (Nat.le_of_eq (congrArg Track.number (track rfl)).symm)
      obtain ⟨made, cues⟩ := desk''.cues_start clip empty.volume empty.muted looping
      have same := desk''.orders_track clip
        [.setVolume empty.volume, .setMuted empty.muted, .play looping]
      have minds := minds_start told rfl new (congrArg Track.channel (track rfl)) cues same
      simp only
      generalize desk''.orders clip _ = started at minds ⊢
      obtain ⟨failure, after, left⟩ := started
      subst flag
      cases failure with
      | none => exact ⟨_, minds⟩
      | some reason => exact ⟨_, minds.deeds, minds.heeds, minds.own, minds.cued⟩

end Slot

namespace Coordinator

/-- Each slot of a coordinator, and the clip in it, has the flag of its channel. -/
structure Heeds (flags : Channel → Bool) (coordinator : Coordinator (Watched β)) : Prop where
  owns : coordinator.Owns
  slots (channel : Channel) :
    (coordinator.slot channel).Heeds (flags channel) coordinator.desk.device.deeds

variable {coordinator : Coordinator (Watched β)} {flags : Channel → Bool} {muted : Bool}

/-- What is asked for one channel says nothing of the clips of the others. -/
theorem Heeds.put (heeds : coordinator.Heeds flags) {channel : Channel} {made : List Deed}
    {used : Slot × Desk (Watched β)} (owns : (coordinator.put channel used).Owns)
    (minds : (coordinator.slot channel).Minds muted coordinator.desk made used) :
    (coordinator.put channel used).Heeds (Function.update flags channel muted) where
  owns := owns
  slots other := by
    rw [slot_put, desk_put]
    by_cases same : other = channel
    · rw [same, Function.update_self, Function.update_self]
      exact minds.heeds
    · rw [Function.update_of_ne same, Function.update_of_ne same, minds.deeds]
      refine ⟨(heeds.slots other).flag, ?_⟩
      intro clip loaded played compliant
      rcases played_append.mp played with now | before
      · have own := minds.own now
        rw [(heeds.owns.tended other).channel_of_loaded loaded, heeds.owns.channel,
          heeds.owns.channel] at own
        contradiction
      · exact (heeds.slots other).clip loaded before compliant.before

/-- What a coordinator did, given what was asked of the device: it has the flag it had, with its
slots and their clips, and what was told to play had been given it. -/
structure Minds (before : Coordinator (Watched β)) (made : List Deed)
    (after : Coordinator (Watched β)) : Prop where
  muted : after.muted = before.muted
  deeds : after.desk.device.deeds = made ++ before.desk.device.deeds
  heeds : after.Heeds fun _ => before.muted
  cued : Cued before.muted made

def Rules (coordinator : Coordinator (Watched β)) : Prop :=
  coordinator.Heeds fun _ => coordinator.muted

private theorem rules_new (device : β) (music voice sfx : Float) (muted : Bool) :
    (new (Watched.mk device []) music voice sfx muted).Rules where
  owns := owns_new device music voice sfx muted
  slots channel := by
    refine ⟨by cases channel <;> rfl, ?_⟩
    intro clip _ played
    exact absurd played not_played_nil

@[simp] theorem muted_put (coordinator : Coordinator β) (channel : Channel)
    (used : Slot × Desk β) : (coordinator.put channel used).muted = coordinator.muted := by
  cases channel <;> rfl

theorem Minds.rules {made : List Deed} {after : Coordinator (Watched β)}
    (minds : coordinator.Minds made after) : after.Rules := by
  rw [Rules, minds.muted]
  exact minds.heeds

theorem Minds.andThen {made : List Deed} {middle after : Coordinator (Watched β)}
    (first : coordinator.Minds made middle)
    (goesOn : middle.Rules → ∃ more, middle.Minds more after) :
    ∃ all, coordinator.Minds all after := by
  obtain ⟨more, second⟩ := goesOn first.rules
  refine ⟨more ++ made, second.muted.trans first.muted, ?_, ?_, ?_⟩
  · rw [second.deeds, first.deeds, List.append_assoc]
  · rw [← first.muted]
    exact second.heeds
  · have cued := second.cued
    rw [first.muted] at cued
    exact cued.append first.cued

namespace Rules

theorem still (rules : coordinator.Rules) : ∃ made, coordinator.Minds made coordinator :=
  ⟨[], rfl, rfl, rules, cued_of_not_played fun _ => not_played_nil⟩

theorem put (rules : coordinator.Rules) {channel : Channel} {made : List Deed}
    {used : Slot × Desk (Watched β)} (owns : (coordinator.put channel used).Owns)
    (minds : (coordinator.slot channel).Minds coordinator.muted coordinator.desk made used) :
    ∃ made, coordinator.Minds made (coordinator.put channel used) := by
  refine ⟨made, muted_put _ _ _, ?_, ?_, minds.cued⟩
  · rw [desk_put, minds.deeds]
  · have heeds := Heeds.put rules owns minds
    rwa [Function.update_eq_self] at heeds

variable [Device β]

theorem release (rules : coordinator.Rules) (channel : Channel) :
    ∃ made, coordinator.Minds made (coordinator.release channel) := by
  obtain ⟨_, minds⟩ := (rules.slots channel).release
  exact rules.put (rules.owns.release channel) minds

private theorem hush (rules : coordinator.Rules) :
    ∃ made, coordinator.Minds made ((coordinator.release .voice).release .sfx) := by
  obtain ⟨_, released⟩ := rules.release .voice
  exact released.andThen fun rules => rules.release .sfx

theorem shutDown (rules : coordinator.Rules) :
    ∃ made, coordinator.Minds made { coordinator with desk := coordinator.desk.shutDown } := by
  have told : coordinator.desk.shutDown.device.deeds =
      [⟨.shutDown, (Device.shutDown coordinator.desk.device.device).1⟩] ++
        coordinator.desk.device.deeds := by
    simp only [Desk.shutDown, Device.shutDown]
    split <;> rfl
  refine ⟨_, rfl, told, ⟨rules.owns.shutDown, ?_⟩,
    cued_of_not_played fun _ => not_played_singleton rfl⟩
  intro channel
  refine ⟨(rules.slots channel).flag, ?_⟩
  intro clip loaded played compliant
  simp only [told] at played compliant
  exact (rules.slots channel).clip loaded
    ((played_append.mp played).resolve_left (not_played_singleton rfl)) compliant.before

theorem close (rules : coordinator.Rules) : ∃ made, coordinator.Minds made coordinator.close := by
  rw [Coordinator.close]
  split
  · exact rules.still
  · have same : ({ coordinator with closed := true } : Coordinator (Watched β)).Rules :=
      ⟨⟨rules.owns.channel, rules.owns.accounts⟩, rules.slots⟩
    obtain ⟨_, first⟩ := same.release .music
    obtain ⟨_, second⟩ := first.andThen fun rules => rules.release .voice
    obtain ⟨_, third⟩ := second.andThen fun rules => rules.release .sfx
    obtain ⟨made, minds⟩ := third.andThen shutDown
    exact ⟨made, minds.muted, minds.deeds, minds.heeds, minds.cued⟩

variable [Dutiful β] [Faithful β]

theorem acquire (rules : coordinator.Rules) (channel : Channel) (url : String) (looping : Bool) :
    ∃ made, coordinator.Minds made (coordinator.acquire channel url looping).2 := by
  obtain ⟨_, minds⟩ :=
    (rules.slots channel).acquire (rules.owns.tended channel) url looping
  exact rules.put (rules.owns.acquire channel url looping) minds

theorem pause (rules : coordinator.Rules) (channel : Channel) :
    ∃ made, coordinator.Minds made (coordinator.pause channel) := by
  obtain ⟨_, minds⟩ := (rules.slots channel).pause
  exact rules.put (rules.owns.pause channel) minds

theorem resume (rules : coordinator.Rules) (channel : Channel) :
    ∃ made, coordinator.Minds made (coordinator.resume channel) := by
  obtain ⟨_, minds⟩ := (rules.slots channel).resume
  exact rules.put (rules.owns.resume channel) minds

theorem replace (rules : coordinator.Rules) (channel : Channel) (url : Option String) :
    ∃ made, coordinator.Minds made (coordinator.replace channel url) := by
  rw [Coordinator.replace]
  obtain ⟨made, released⟩ := rules.release channel
  cases named? url with
  | none => exact ⟨made, released⟩
  | some url => exact released.andThen fun rules => rules.acquire channel url false

/-- Following into a scene keeps the flags. -/
theorem enterScene (rules : coordinator.Rules) (scene : Option Scene) :
    ∃ made, coordinator.Minds made (coordinator.enterScene scene) := by
  rw [Coordinator.enterScene]
  split
  · exact rules.still
  · obtain ⟨made, hushed⟩ : ∃ made, coordinator.Minds made
        (if ((scene.map (·.dialogues)).getD []).isEmpty then
          (coordinator.release .voice).release .sfx else coordinator) := by
      split
      · exact rules.hush
      · exact rules.still
    generalize (if ((scene.map (·.dialogues)).getD []).isEmpty then
        (coordinator.release .voice).release .sfx else coordinator) = left at hushed
    cases named? (scene.bind (·.bgmUrl)) with
    | none => exact hushed.andThen fun rules => rules.release .music
    | some url =>
        simp only
        split
        · exact hushed.andThen fun rules => rules.resume .music
        · exact hushed.andThen fun rules => rules.acquire .music url true

theorem enterDialogue (rules : coordinator.Rules) (dialogue : Option Dialogue) :
    ∃ made, coordinator.Minds made (coordinator.enterDialogue dialogue) := by
  rw [Coordinator.enterDialogue]
  split
  · exact rules.still
  · obtain ⟨_, voiced⟩ := rules.replace .voice (dialogue.bind (·.voiceUrl))
    exact voiced.andThen fun rules => rules.replace .sfx (dialogue.bind (·.sfxUrl))

theorem finish (rules : coordinator.Rules) :
    ∃ made, coordinator.Minds made coordinator.finish := by
  rw [Coordinator.finish]
  split
  · exact rules.still
  · obtain ⟨_, paused⟩ := rules.pause .music
    exact paused.andThen hush

end Rules

def muting (coordinator : Coordinator β) (muted : Bool) : List Action :=
  ([.music, .voice, .sfx] : List Channel).flatMap fun channel =>
    (coordinator.held channel).toList.map (.order · (.setMuted muted))

def Call.flag? (muted : Bool) : Call → Option Bool
  | .setMuted wanted => some wanted
  | .toggleMute => some (!muted)
  | .enterScene _ | .enterDialogue _ | .finish | .close => none

theorem held_setSlotMuted [Device β] (coordinator : Coordinator β) {channel other : Channel}
    (muted : Bool) (apart : other ≠ channel) :
    (coordinator.setSlotMuted channel muted).held other = coordinator.held other := by
  rw [setSlotMuted, held_put, Function.update_of_ne apart]

structure Mutes (before : Coordinator (Watched β)) (flags : Channel → Bool) (actions : List Action)
    (made : List Deed) (after : Coordinator (Watched β)) : Prop where
  muted : after.muted = before.muted
  heeds : after.Heeds flags
  deeds : after.desk.device.deeds = made ++ before.desk.device.deeds
  actions : made.reverse.map Deed.action = actions

structure Takes (before : Coordinator (Watched β)) (wanted : Option Bool)
    (after : Coordinator (Watched β)) : Prop where
  rules : after.Rules
  muted : after.muted = wanted.getD before.muted
  asked : ∃ made, after.desk.device.deeds = made ++ before.desk.device.deeds ∧
    Cued before.muted made ∧ ∀ flag ∈ wanted, made.reverse.map Deed.action = before.muting flag

theorem Minds.takes {made : List Deed} {after : Coordinator (Watched β)}
    (minds : coordinator.Minds made after) : coordinator.Takes none after where
  rules := minds.rules
  muted := minds.muted
  asked := ⟨made, minds.deeds, minds.cued, fun _ impossible => by contradiction⟩

private theorem plays_of_mem_muting {action : Action} (asked : action ∈ coordinator.muting muted) :
    action.plays = false := by
  obtain ⟨channel, -, asked⟩ := List.mem_flatMap.mp asked
  obtain ⟨track, -, given⟩ := List.mem_map.mp asked
  rw [← given]
  rfl

section Muting

variable [Device β] [Dutiful β] [Faithful β]

theorem Heeds.setSlotMuted (heeds : coordinator.Heeds flags) (channel : Channel) (muted : Bool) :
    ∃ made, coordinator.Mutes (Function.update flags channel muted)
      ((coordinator.held channel).toList.map (.order · (.setMuted muted))) made
      (coordinator.setSlotMuted channel muted) := by
  obtain ⟨made, minds, actions⟩ :=
    (coordinator.slot channel).minds_setMuted muted coordinator.desk
  refine ⟨made, muted_put _ _ _, heeds.put (heeds.owns.setSlotMuted channel muted) minds, ?_, ?_⟩
  · rw [Coordinator.setSlotMuted, desk_put, minds.deeds]
  · rw [List.map_reverse, actions, held]
    cases (coordinator.slot channel).track? <;> rfl

/-- Muting gives each slot and its clip the flag, whatever flags they had. -/
theorem Heeds.setMuted (heeds : coordinator.Heeds flags) (muted : Bool) :
    ∃ made, (coordinator.setMuted muted).muted = muted ∧ (coordinator.setMuted muted).Rules ∧
      (coordinator.setMuted muted).desk.device.deeds = made ++ coordinator.desk.device.deeds ∧
      made.reverse.map Deed.action = coordinator.muting muted := by
  have same : ({ coordinator with muted } : Coordinator (Watched β)).Heeds flags :=
    ⟨⟨heeds.owns.channel, heeds.owns.accounts⟩, heeds.slots⟩
  obtain ⟨first, music⟩ := same.setSlotMuted .music muted
  obtain ⟨second, voice⟩ := music.heeds.setSlotMuted .voice muted
  obtain ⟨third, sfx⟩ := voice.heeds.setSlotMuted .sfx muted
  have flag : (coordinator.setMuted muted).muted = muted :=
    sfx.muted.trans (voice.muted.trans music.muted)
  refine ⟨third ++ (second ++ first), flag, ?_, ?_, ?_⟩
  · rw [Rules, flag]
    have all : (fun _ => muted) = Function.update
        (Function.update (Function.update flags .music muted) .voice muted) .sfx muted := by
      funext channel
      cases channel <;> rfl
    rw [all]
    exact sfx.heeds
  · rw [Coordinator.setMuted, sfx.deeds, voice.deeds, music.deeds, List.append_assoc,
      List.append_assoc]
  · rw [List.reverse_append, List.reverse_append, List.map_append, List.map_append, music.actions,
      voice.actions, sfx.actions, held_setSlotMuted _ _ (by decide),
      held_setSlotMuted _ _ (by decide), held_setSlotMuted _ _ (by decide)]
    simp only [Coordinator.muting, List.flatMap_cons, List.flatMap_nil, List.append_nil,
      List.append_assoc]
    rfl

private theorem Rules.takes_setMuted (rules : coordinator.Rules) (muted : Bool) :
    coordinator.Takes (some muted) (coordinator.setMuted muted) := by
  obtain ⟨made, flag, after, deeds, actions⟩ := rules.setMuted muted
  refine ⟨after, flag, made, deeds, ?_, ?_⟩
  · refine cued_of_not_played fun _ => not_played_of_silent fun deed listed => ?_
    exact plays_of_mem_muting (actions ▸ List.mem_map_of_mem (List.mem_reverse.mpr listed))
  · rintro _ ⟨⟩
    exact actions

/-- What a call asks for, and the flag it leaves. -/
theorem Rules.answer (rules : coordinator.Rules) (call : Call) :
    coordinator.Takes (call.flag? coordinator.muted) (coordinator.answer call) := by
  have minding {after : Coordinator (Watched β)} (minds : ∃ made, coordinator.Minds made after) :
      coordinator.Takes none after := by
    obtain ⟨_, minds⟩ := minds
    exact minds.takes
  cases call with
  | enterScene scene => exact minding (rules.enterScene scene)
  | enterDialogue dialogue => exact minding (rules.enterDialogue dialogue)
  | finish => exact minding rules.finish
  | close => exact minding rules.close
  | setMuted muted => exact rules.takes_setMuted muted
  | toggleMute => exact rules.takes_setMuted (!coordinator.muted)

theorem Rules.run (rules : coordinator.Rules) (calls : List Call) :
    (coordinator.run calls).Rules := by
  induction calls generalizing coordinator with
  | nil => exact rules
  | cons call calls hypothesis => exact hypothesis (rules.answer call).rules

/-- Whatever a device refuses, and whatever a coordinator is called for: all slots have the flag of
the coordinator, and so has a clip that was told to play and never refused the flag. A clip that
is told to play was given the flag right before, and did not refuse it. Muting asks for nothing
but the flag, of the clip of each slot. -/
theorem run_rules (device : β) (music voice sfx : Float) (muted : Bool) (calls : List Call) :
    let coordinator := (new (Watched.mk device []) music voice sfx muted).run calls
    let deeds := coordinator.desk.device.deeds
    coordinator.unwatched = (new device music voice sfx muted).run calls ∧
      (∀ channel, (coordinator.slot channel).muted = coordinator.muted) ∧
      (∀ channel clip, (coordinator.slot channel).clip = some clip → Played clip.track deeds →
        Compliant clip.track deeds → clip.muted = coordinator.muted ∧
          (coordinator.muted = true → clip.effectiveVolume = 0.0)) ∧
      ∀ call, (coordinator.answer call).muted =
          (call.flag? coordinator.muted).getD coordinator.muted ∧
        ∃ made, (coordinator.answer call).desk.device.deeds = made ++ deeds ∧
          Cued coordinator.muted made ∧ ∀ flag ∈ call.flag? coordinator.muted,
            made.reverse.map Deed.action = coordinator.muting flag := by
  intro coordinator deeds
  have rules : coordinator.Rules := (rules_new device music voice sfx muted).run calls
  refine ⟨(run_unwatched _ calls).symm, fun channel => (rules.slots channel).flag, ?_,
    fun call => ⟨(rules.answer call).muted, (rules.answer call).asked⟩⟩
  intro channel clip loaded played compliant
  have flag := (rules.slots channel).clip loaded played compliant
  refine ⟨flag, ?_⟩
  intro quiet
  rw [Clip.effectiveVolume, flag, if_pos quiet]

end Muting

def outspoken : Rehearsal where
  refusal _ action :=
    match action with
    | .order ⟨_, .voice, _⟩ (.setMuted true) => some "too loud"
    | _ => none

/-- The voice refuses to be muted and goes on. The music is muted, and so is the coordinator. -/
theorem run_rules_outspoken :
    let scene : Scene := { id := "quay", bgmUrl := some "waves.ogg" }
    let line : Dialogue := { id := "hail", voiceUrl := some "ahoy.ogg" }
    let calls : List Call :=
      [.enterScene (some scene), .enterDialogue (some line), .setMuted true]
    let coordinator := (new (Watched.mk outspoken []) 0.5 1.0 1.0 false).run calls
    Dutiful Rehearsal ∧ Faithful Rehearsal ∧ coordinator.muted = true ∧
      (coordinator.slot .voice).clip.map (·.muted) = some false ∧
      ∃ clip, (coordinator.slot .music).clip = some clip ∧ clip.effectiveVolume = 0.0 := by
  intro scene line calls coordinator
  have muted : coordinator.muted = true := by decide +kernel
  have held : (coordinator.slot .music).clip.map (·.track) = some ⟨0, .music, "waves.ogg"⟩ := by
    decide +kernel
  have played : Played ⟨0, .music, "waves.ogg"⟩ coordinator.desk.device.deeds := by decide +kernel
  have compliant : Compliant ⟨0, .music, "waves.ogg"⟩ coordinator.desk.device.deeds := by
    decide +kernel
  have voice : (coordinator.slot .voice).clip.map (·.muted) = some false := by decide +kernel
  have music (made : Coordinator (Watched Rehearsal))
      (run : made = (new (Watched.mk outspoken []) 0.5 1.0 1.0 false).run calls) (clip : Clip)
      (loaded : (made.slot .music).clip = some clip)
      (played : Played clip.track made.desk.device.deeds)
      (compliant : Compliant clip.track made.desk.device.deeds) (muted : made.muted = true) :
      clip.effectiveVolume = 0.0 := by
    subst run
    exact ((run_rules outspoken 0.5 1.0 1.0 false calls).2.2.1 .music clip loaded played
      compliant).2 muted
  obtain ⟨clip, loaded, track⟩ := Option.map_eq_some_iff.mp held
  rw [← track] at played compliant
  exact ⟨inferInstance, inferInstance, muted, voice, clip, loaded,
    music coordinator rfl clip loaded played compliant muted⟩

end Coordinator

end VisualNovel.Sound
