import Mathlib.Logic.Function.Basic
import VisualNovel.Proofs.Sound.Ownership

/-!
# Slots that sound what they should

A slot that is told to play something holds that or nothing, whatever the device
refuses. As long as the device refuses nothing it is exact: nothing is missing, and
what is held plays or is paused as it was told last.
-/

set_option autoImplicit false

namespace VisualNovel.Sound

open VisualNovel.Novel

variable {β : Type}

/-! ## Devices that refuse nothing -/

/-- What tells that a device has refused nothing so far: it holds after something was asked only
if it held before and that was done. -/
structure Candid [Device β] (clean : β → Prop) : Prop where
  openClip {clip : Clip} {device : β} : clean (Device.openClip clip device).2 →
    clean device ∧ ∃ opened, (Device.openClip clip device).1 = .ok opened
  order {order : Order} {clip : Clip} {device : β} :
    clean (Device.order order clip device).device →
      clean device ∧ (Device.order order clip device).failure = none
  shutDown {device : β} : clean (Device.shutDown device).2 → clean device

/-- Whether a clip that plays is paused after an order. -/
def Order.pausing (paused : Bool) : Order → Bool
  | .play _ | .resume | .stop => false
  | .pause => true
  | .setVolume _ | .setMuted _ => paused

/-- A device whose clips, once told to play, keep account of whether they are paused. -/
structure Paced (β : Type) [Device β] (plays : Clip → Prop) : Prop where
  begins {looping : Bool} {clip : Clip} {device : β} :
    (Device.order (.play looping) clip device).failure = none →
      plays (Device.order (.play looping) clip device).clip ∧
        (Device.order (.play looping) clip device).clip.paused = false
  goes {order : Order} {clip : Clip} {device : β} : order ≠ .stop → plays clip →
    (Device.order order clip device).failure = none →
      plays (Device.order order clip device).clip ∧
        (Device.order order clip device).clip.paused = order.pausing clip.paused

def Watched.Clean (watched : Watched β) : Prop :=
  ∀ deed ∈ watched.deeds, deed.refusal = none

/-- That a watched device has refused nothing is told by its deeds. -/
theorem Watched.candid [Device β] : Candid (Clean : Watched β → Prop) where
  openClip {clip watched} clean := by
    obtain ⟨done, before⟩ := List.forall_mem_cons.mp clean
    refine ⟨before, ?_⟩
    change refusal? (Device.openClip clip watched.device).1 = none at done
    change ∃ opened, (Device.openClip clip watched.device).1 = .ok opened
    cases opened : (Device.openClip clip watched.device).1 with
    | ok clip => exact ⟨clip, rfl⟩
    | error reason =>
        rw [opened] at done
        contradiction
  order clean := (List.forall_mem_cons.mp clean).symm
  shutDown clean := (List.forall_mem_cons.mp clean).2

theorem Paced.watched [Device β] {plays : Clip → Prop} (paced : Paced β plays) :
    Paced (Watched β) plays where
  begins done := paced.begins done
  goes other playing done := paced.goes other playing done

/-- The clips of a rehearsal keep account of whether they are paused. -/
theorem Rehearsal.paced : Paced Rehearsal fun clip => clip.playing = true where
  begins {looping clip rehearsal} done := by
    cases considered : rehearsal.refusal rehearsal.asked (.order clip.track (.play looping)) with
    | none =>
        simp only [Device.order, consider, considered]
        exact ⟨rfl, rfl⟩
    | some reason => simp [Device.order, consider, considered] at done
  goes {order clip rehearsal} other playing done := by
    cases considered : rehearsal.refusal rehearsal.asked (.order clip.track order) with
    | none =>
        simp only [Device.order, consider, considered]
        cases order with
        | stop => contradiction
        | pause => simp [Clip.obey, playing, Order.pausing]
        | play | resume | setVolume | setMuted => simp [Clip.obey, playing, Order.pausing]
    | some reason => simp [Device.order, consider, considered] at done

/-- The clips of a mixer keep account of whether they are paused. -/
theorem Mixer.paced : Paced Mixer fun _ => True where
  begins {looping clip mixer} done := by
    simp only [Device.order] at done ⊢
    split
    · exact ⟨trivial, rfl⟩
    · next refused => simp [refused] at done
  goes {order clip mixer} other _ done := by
    simp only [Device.order] at done ⊢
    split
    · cases order <;> exact ⟨trivial, rfl⟩
    · next refused => simp [refused] at done

/-- A device that has refused nothing, with clips that keep account of whether they are paused. -/
structure Obliging [Device β] (clean : β → Prop) (plays : Clip → Prop) : Prop
    extends Candid clean where
  begins {looping : Bool} {clip : Clip} {device : β} :
    clean (Device.order (.play looping) clip device).device →
      plays (Device.order (.play looping) clip device).clip ∧
        (Device.order (.play looping) clip device).clip.paused = false
  goes {order : Order} {clip : Clip} {device : β} : order ≠ .stop → plays clip →
    clean (Device.order order clip device).device →
      plays (Device.order order clip device).clip ∧
        (Device.order order clip device).clip.paused = order.pausing clip.paused

theorem Candid.obliging [Device β] {clean : β → Prop} {plays : Clip → Prop}
    (candid : Candid clean) (paced : Paced β plays) : Obliging clean plays where
  toCandid := candid
  begins still := paced.begins (candid.order still).2
  goes other playing still := paced.goes other playing (candid.order still).2

/-- Of a device of which nothing is known nothing is claimed. -/
theorem obliging_never [Device β] : Obliging (fun _ : β => False) fun _ => False where
  openClip := False.elim
  order := False.elim
  shutDown := False.elim
  begins := False.elim
  goes _ := False.elim

/-! ## Slots -/

/-- What a slot holds is a reference, which may be missing unless the slot is exact. An exact slot
keeps its clip playing or paused. -/
structure Slot.Sounds (exact : Prop) (plays : Clip → Prop) (reference : Option String)
    (paused : Bool) (slot : Slot) : Prop where
  holds : slot.url? = reference ∨ slot.url? = none ∧ ¬exact
  goes : exact → ∀ clip, slot.clip = some clip → plays clip ∧ clip.paused = paused

section Slots

variable {exact : Prop} {clean : β → Prop} {plays : Clip → Prop} {slot : Slot} {desk : Desk β}
  {clip : Clip} {reference : Option String} {paused : Bool}

theorem Slot.Sounds.of_empty (exact : Prop) (plays : Clip → Prop) (paused : Bool)
    (empty : slot.clip = none) : slot.Sounds exact plays none paused where
  holds := .inl (by rw [url?, empty, Option.map_none])
  goes _ clip loaded := by
    rw [empty] at loaded
    contradiction

theorem Slot.Sounds.mono {weaker : Prop} (sounds : slot.Sounds exact plays reference paused)
    (implied : weaker → exact) : slot.Sounds weaker plays reference paused where
  holds := sounds.holds.imp_right fun ⟨empty, never⟩ => ⟨empty, never ∘ implied⟩
  goes holds := sounds.goes (implied holds)

/-- A slot that was used sounds a reference, exactly if the device is clean afterwards. -/
structure Slot.Leaves (clean : β → Prop) (plays : Clip → Prop) (desk : Desk β)
    (reference : Option String) (paused : Bool) (used : Slot × Desk β) : Prop where
  back : clean used.2.device → clean desk.device
  sounds : used.1.Sounds (clean used.2.device) plays reference paused

variable [Device β]

theorem Desk.orders_track [Faithful β] (desk : Desk β) (clip : Clip) (orders : List Order) :
    (desk.orders clip orders).2.1.track = clip.track := by
  induction orders generalizing desk clip with
  | nil => rfl
  | cons first rest hypothesis =>
      have same : (desk.order clip first).2.1.track = clip.track :=
        Faithful.order_track first clip desk.device
      simp only [Desk.orders]
      generalize desk.order clip first = ordered at same ⊢
      obtain ⟨failure, after, left⟩ := ordered
      cases failure with
      | none => exact (hypothesis left after).trans same
      | some reason => exact same

/-- Where the device is clean after orders, none was left out. -/
theorem Candid.orders_cons (candid : Candid clean) {first : Order} {rest : List Order}
    (still : clean (desk.orders clip (first :: rest)).2.2.device) :
    desk.orders clip (first :: rest) =
      (desk.order clip first).2.2.orders (desk.order clip first).2.1 rest := by
  simp only [Desk.orders] at still ⊢
  cases refused : (desk.order clip first).1 with
  | none =>
      rw [show desk.order clip first = (none, (desk.order clip first).2) from Prod.ext refused rfl]
  | some reason =>
      rw [show desk.order clip first = (some reason, (desk.order clip first).2) from
        Prod.ext refused rfl] at still
      have done : (desk.order clip first).1 = none := (candid.order still).2
      rw [done] at refused
      contradiction

theorem Candid.orders (candid : Candid clean) {orders : List Order}
    (still : clean (desk.orders clip orders).2.2.device) :
    clean desk.device ∧ (desk.orders clip orders).1 = none := by
  induction orders generalizing desk clip with
  | nil => exact ⟨still, rfl⟩
  | cons first rest hypothesis =>
      have same := candid.orders_cons still
      rw [same] at still ⊢
      obtain ⟨between, done⟩ := hypothesis still
      exact ⟨(candid.order between).1, done⟩

private theorem Obliging.orders_play (obliging : Obliging clean plays) {orders : List Order}
    {looping : Bool} (still : clean (desk.orders clip (orders ++ [.play looping])).2.2.device) :
    plays (desk.orders clip (orders ++ [.play looping])).2.1 ∧
      (desk.orders clip (orders ++ [.play looping])).2.1.paused = false := by
  induction orders generalizing desk clip with
  | nil =>
      rw [List.nil_append] at still ⊢
      have same := obliging.orders_cons still
      rw [same] at still ⊢
      exact obliging.begins still
  | cons first rest hypothesis =>
      rw [List.cons_append] at still ⊢
      have same := obliging.orders_cons still
      rw [same] at still ⊢
      exact hypothesis still

namespace Slot

omit [Device β] in
private theorem clip_eq_none (empty : slot.url? = none) : slot.clip = none := by
  simpa only [url?, Option.map_eq_none_iff] using empty

omit [Device β] in
/-- What belongs to a line is not heard when playing is over. -/
theorem Sounds.unless {ended : Bool}
    (sounds : slot.Sounds exact plays (if ended then none else reference) paused) :
    (slot.url? = none ∨ slot.url? = reference) ∧
      (ended = true ∨ reference = none → slot.clip = none) := by
  have held : slot.url? = none ∨ ended = false ∧ slot.url? = reference := by
    rcases sounds.holds with same | ⟨empty, _⟩
    · cases ended with
      | true => exact .inl same
      | false => exact .inr ⟨rfl, same⟩
    · exact .inl empty
  refine ⟨held.imp_right And.right, fun quiet => clip_eq_none ?_⟩
  rcases held with empty | ⟨goesOn, same⟩
  · exact empty
  · rcases quiet with ended | nothing
    · exact absurd (goesOn.symm.trans ended) Bool.false_ne_true
    · exact same.trans nothing

theorem order_clip (slot : Slot) (clip : Clip) (order : Order)
    (refused : Channel → String → Report) (desk : Desk β) :
    (slot.order clip order refused desk).1 =
      { slot with clip := some (Device.order order clip desk.device).clip } := by
  simp only [Slot.order, Desk.order]
  cases (Device.order order clip desk.device).failure <;> rfl

theorem order_device (slot : Slot) (clip : Clip) (order : Order)
    (refused : Channel → String → Report) (desk : Desk β) :
    (slot.order clip order refused desk).2.device =
      (Device.order order clip desk.device).device := by
  simp only [Slot.order, Desk.order]
  cases (Device.order order clip desk.device).failure <;> rfl

private theorem release_device (slot : Slot) (desk : Desk β) :
    (slot.release desk).2.device = desk.device ∨
      ∃ clip, (slot.release desk).2.device = (Device.order .stop clip desk.device).device := by
  cases loaded : slot.clip with
  | none => exact .inl (by simp only [release, loaded])
  | some clip =>
      refine .inr ⟨clip, ?_⟩
      simp only [release, loaded, Desk.order]
      cases (Device.order .stop clip desk.device).failure <;> rfl

theorem clean_of_release (candid : Candid clean) (slot : Slot)
    (still : clean (slot.release desk).2.device) : clean desk.device := by
  rcases slot.release_device desk with same | ⟨clip, asked⟩
  · rwa [same] at still
  · rw [asked] at still
    exact (candid.order still).1

private theorem leaves_release (slot : Slot) (candid : Candid clean) (plays : Clip → Prop)
    (paused : Bool) : Leaves clean plays desk none paused (slot.release desk) where
  back := clean_of_release candid slot
  sounds := .of_empty _ plays paused (release_clip slot desk)

omit [Device β] in
theorem leaves_still (sounds : slot.Sounds (clean desk.device) plays reference paused) :
    Leaves clean plays desk reference paused (slot, desk) :=
  ⟨id, sounds⟩

variable [Faithful β]

/-- An order that does not stop the clip leaves its sound, paused or not as the order says. -/
theorem Sounds.order (sounds : slot.Sounds (clean desk.device) plays reference paused)
    (loaded : slot.clip = some clip) (obliging : Obliging clean plays) {order : Order}
    (other : order ≠ .stop) (refused : Channel → String → Report) :
    Leaves clean plays desk reference (order.pausing paused)
      (slot.order clip order refused desk) := by
  have kept := slot.order_clip clip order refused desk
  have device := slot.order_device clip order refused desk
  have back (still : clean (slot.order clip order refused desk).2.device) :
      clean desk.device := (obliging.order (device ▸ still)).1
  refine ⟨back, ?_, ?_⟩
  · have same : (slot.order clip order refused desk).1.url? = slot.url? := by
      simp only [kept, url?, loaded, Option.map_some, Faithful.order_track]
    rw [same]
    exact (sounds.mono back).holds
  · intro still after loaded_after
    rw [kept, Option.some.injEq] at loaded_after
    obtain ⟨playing, rfl⟩ := sounds.goes (back still) clip loaded
    exact loaded_after ▸ obliging.goes other playing (device ▸ still)

/-- Pausing leaves a slot paused, unless it is empty. -/
theorem Sounds.pause (sounds : slot.Sounds (clean desk.device) plays reference paused)
    (obliging : Obliging clean plays) :
    Leaves clean plays desk reference true (slot.pause desk) := by
  cases loaded : slot.clip with
  | none =>
      simp only [Slot.pause, loaded]
      exact leaves_still ⟨sounds.holds, by simp [loaded]⟩
  | some clip =>
      simp only [Slot.pause, loaded]
      split
      · next already =>
          refine leaves_still ⟨sounds.holds, fun still other other_loaded => ?_⟩
          obtain rfl := Option.some.inj (loaded.symm.trans other_loaded)
          exact ⟨(sounds.goes still clip loaded).1, already⟩
      · have other : Order.pause ≠ .stop := by simp
        exact sounds.order loaded obliging other _

/-- Resuming leaves a slot playing, unless it is empty. -/
theorem Sounds.resume (sounds : slot.Sounds (clean desk.device) plays reference paused)
    (obliging : Obliging clean plays) :
    Leaves clean plays desk reference false (slot.resume desk) := by
  cases loaded : slot.clip with
  | none =>
      simp only [Slot.resume, loaded]
      exact leaves_still ⟨sounds.holds, by simp [loaded]⟩
  | some clip =>
      simp only [Slot.resume, loaded]
      split
      · have other : Order.resume ≠ .stop := by simp
        exact sounds.order loaded obliging other _
      · next going =>
          refine leaves_still ⟨sounds.holds, fun still other other_loaded => ?_⟩
          obtain rfl := Option.some.inj (loaded.symm.trans other_loaded)
          exact ⟨(sounds.goes still clip loaded).1, Bool.eq_false_iff.mpr going⟩

theorem Sounds.setMuted (sounds : slot.Sounds (clean desk.device) plays reference paused)
    (muted : Bool) (obliging : Obliging clean plays) :
    Leaves clean plays desk reference paused (slot.setMuted muted desk) := by
  have same : Sounds (clean desk.device) plays reference paused { slot with muted } :=
    ⟨sounds.holds, sounds.goes⟩
  cases loaded : slot.clip with
  | none =>
      simp only [Slot.setMuted, loaded]
      rw [loaded] at same
      exact leaves_still same
  | some clip =>
      simp only [Slot.setMuted, loaded]
      have other : Order.setMuted muted ≠ .stop := by simp
      exact same.order loaded obliging other _

/-- What is acquired sounds, exactly if the device is clean. -/
private theorem leaves_acquire (obliging : Obliging clean plays) (url : String) (looping : Bool) :
    Leaves clean plays desk (some url) false (slot.acquire url looping desk).2 := by
  have released (still : clean (slot.release desk).2.device) :=
    clean_of_release obliging.toCandid slot still
  have emptied := release_clip slot desk
  simp only [Slot.acquire]
  generalize slot.release desk = used at released emptied ⊢
  obtain ⟨empty, between⟩ := used
  have track {clip : Clip} (opened : (between.openClip empty.channel url).1 = .ok clip) :
      clip.track = ⟨between.opened, empty.channel, url⟩ := Faithful.openClip_track opened
  have opens (still : clean (between.openClip empty.channel url).2.device) :
      clean between.device ∧ ∃ clip, (between.openClip empty.channel url).1 = .ok clip :=
    obliging.openClip still
  generalize between.openClip empty.channel url = answered at track opens ⊢
  obtain ⟨result, left⟩ := answered
  cases result with
  | error reason =>
      have never : ¬clean left.device := fun still => by simpa using (opens still).2
      exact ⟨fun still => absurd still never,
        .inr ⟨by simpa [url?] using emptied, never⟩, fun still => absurd still never⟩
  | ok clip =>
      have orders (still : clean (left.orders clip
          [.setVolume empty.volume, .setMuted empty.muted, .play looping]).2.2.device) :=
        obliging.orders still
      have plays (still : clean (left.orders clip
          ([.setVolume empty.volume, .setMuted empty.muted] ++ [.play looping])).2.2.device) :=
        obliging.orders_play still
      have same := left.orders_track clip
        [.setVolume empty.volume, .setMuted empty.muted, .play looping]
      rw [track rfl] at same
      simp only [List.cons_append, List.nil_append] at plays ⊢
      generalize left.orders clip _ = ordered at orders plays same ⊢
      obtain ⟨failure, after, last⟩ := ordered
      have holds : after.track.url = url := congrArg Track.url same
      cases failure with
      | none =>
          refine ⟨fun still => released (opens (orders still).1).1,
            .inl (congrArg some holds), fun still other loaded => ?_⟩
          exact Option.some.inj loaded ▸ plays still
      | some reason =>
          have never : ¬clean last.device := fun still => by simpa using (orders still).2
          exact ⟨fun still => absurd still never, .inl (congrArg some holds),
            fun still => absurd still never⟩

end Slot

end Slots

namespace Coordinator

/-- A coordinator in use, with what its slots sound: references, and whether they are paused. -/
structure Tuned (clean : β → Prop) (plays : Clip → Prop)
    (references : Channel → Option String) (pauses : Channel → Bool)
    (coordinator : Coordinator β) : Prop where
  isOpen : coordinator.closed = false
  slots (channel : Channel) : (coordinator.slot channel).Sounds (clean coordinator.desk.device)
    plays (references channel) (pauses channel)

variable {clean : β → Prop} {plays : Clip → Prop} {references : Channel → Option String}
  {pauses : Channel → Bool} {coordinator : Coordinator β}

namespace Tuned

theorem mono (tuned : coordinator.Tuned clean plays references pauses)
    {others : Channel → Option String} {pausing : Channel → Bool}
    (implied : ∀ channel, (coordinator.slot channel).Sounds (clean coordinator.desk.device) plays
        (references channel) (pauses channel) →
      (coordinator.slot channel).Sounds (clean coordinator.desk.device) plays (others channel)
        (pausing channel)) :
    coordinator.Tuned clean plays others pausing :=
  ⟨tuned.isOpen, fun channel => implied channel (tuned.slots channel)⟩

theorem put (tuned : coordinator.Tuned clean plays references pauses) (channel : Channel)
    {used : Slot × Desk β} {reference : Option String} {paused : Bool}
    (leaves : Slot.Leaves clean plays coordinator.desk reference paused used) :
    (coordinator.put channel used).Tuned clean plays
      (Function.update references channel reference)
      (Function.update pauses channel paused) where
  isOpen := (closed_put coordinator channel used).trans tuned.isOpen
  slots other := by
    rw [slot_put, desk_put]
    by_cases same : other = channel
    · rw [same, Function.update_self, Function.update_self, Function.update_self]
      exact leaves.sounds
    · rw [Function.update_of_ne same, Function.update_of_ne same, Function.update_of_ne same]
      exact (tuned.slots other).mono leaves.back

variable [Device β]

theorem release (tuned : coordinator.Tuned clean plays references pauses)
    (candid : Candid clean) (channel : Channel) (paused : Bool) :
    (coordinator.release channel).Tuned clean plays
      (Function.update references channel none) (Function.update pauses channel paused) :=
  tuned.put channel (Slot.leaves_release _ candid plays paused)

variable [Faithful β]

theorem acquire (tuned : coordinator.Tuned clean plays references pauses)
    (obliging : Obliging clean plays) (channel : Channel) (url : String) (looping : Bool) :
    (coordinator.acquire channel url looping).2.Tuned clean plays
      (Function.update references channel (some url)) (Function.update pauses channel false) :=
  tuned.put channel (Slot.leaves_acquire obliging url looping)

theorem replace (tuned : coordinator.Tuned clean plays references pauses)
    (obliging : Obliging clean plays) (channel : Channel) (url : Option String) :
    (coordinator.replace channel url).Tuned clean plays
      (Function.update references channel (named? url))
      (Function.update pauses channel false) := by
  have released := tuned.release obliging.toCandid channel false
  unfold Coordinator.replace
  cases named? url with
  | none => exact released
  | some url =>
      have acquired := released.acquire obliging channel url false
      rwa [Function.update_idem, Function.update_idem] at acquired

theorem setSlotMuted (tuned : coordinator.Tuned clean plays references pauses)
    (obliging : Obliging clean plays) (channel : Channel) (muted : Bool) :
    (coordinator.setSlotMuted channel muted).Tuned clean plays references pauses := by
  have muted := tuned.put channel ((tuned.slots channel).setMuted muted obliging)
  rwa [Function.update_eq_self, Function.update_eq_self] at muted

end Tuned

end Coordinator

end VisualNovel.Sound
