import VisualNovel.Proofs.Sound.Ledger

/-!
# Clips owned by their slots

Whatever a device refuses, each slot of a coordinator holds the one clip of its
channel that was opened and is not stopped yet, and every refusal is reported once.
After closing no clip is left.
-/

set_option autoImplicit false

namespace VisualNovel.Sound

open VisualNovel.Novel

variable {β : Type}

def Deed.complaint? : Deed → Option (Option Channel × String)
  | ⟨_, none⟩ => none
  | ⟨.openClip track, some reason⟩ | ⟨.order track _, some reason⟩ =>
      some (some track.channel, reason)
  | ⟨.shutDown, some reason⟩ => some (none, reason)

def complaintsIn (deeds : List Deed) : List (Option Channel × String) :=
  deeds.filterMap Deed.complaint?

theorem complaintsIn_cons (deed : Deed) (deeds : List Deed) :
    complaintsIn (deed :: deeds) = deed.complaint?.toList ++ complaintsIn deeds := by
  cases refused : deed.complaint? <;> simp [complaintsIn, refused]

private theorem Deed.complaint?_openClip (track : Track) (refusal : Option String) :
    complaint? ⟨.openClip track, refusal⟩ = refusal.map (some track.channel, ·) := by
  cases refusal <;> rfl

private theorem Deed.complaint?_order (track : Track) (order : Order) (refusal : Option String) :
    complaint? ⟨.order track order, refusal⟩ = refusal.map (some track.channel, ·) := by
  cases refusal <;> rfl

private theorem Deed.complaint?_shutDown (refusal : Option String) :
    complaint? ⟨.shutDown, refusal⟩ = refusal.map (none, ·) := by
  cases refusal <;> rfl

def Report.complaint : Report → Option Channel × String
  | .openFailed channel _ reason | .playFailed channel _ reason | .stopFailed channel _ reason
  | .pauseFailed channel reason | .resumeFailed channel reason | .muteFailed channel reason
  | .volumeFailed channel reason => (some channel, reason)
  | .shutDownFailed reason => (none, reason)

/-- The books of a desk while the channels hold the given clips. A refusal may still be owed to
those who listen. -/
structure Desk.Accounts (desk : Desk (Watched β)) (held : Channel → Option Track)
    (owed : Option (Option Channel × String)) : Prop where
  ledger : Ledger held desk.opened desk.device.deeds
  reported : owed.toList ++ desk.reports.map Report.complaint =
    complaintsIn desk.device.deeds

def Slot.track? (slot : Slot) : Option Track :=
  slot.clip.map (·.track)

def Slot.Tended (slot : Slot) (held : Channel → Option Track) (desk : Desk (Watched β)) : Prop :=
  desk.Accounts (Function.update held slot.channel slot.track?) none

namespace Desk.Accounts

variable {desk : Desk (Watched β)} {held : Channel → Option Track}

theorem report {owed : Option Channel × String} (accounts : desk.Accounts held (some owed))
    {made : Report} (about : made.complaint = owed) : (desk.report made).Accounts held none where
  ledger := accounts.ledger
  reported := by
    subst about
    exact accounts.reported

variable [Device β]

theorem order (accounts : desk.Accounts held none) {clip : Clip} {order : Order}
    (holds : held clip.track.channel = some clip.track) (other : order ≠ .stop) :
    (desk.order clip order).2.2.Accounts held
      ((desk.order clip order).1.map (some clip.track.channel, ·)) where
  ledger := .orders _ accounts.ledger holds other
  reported := by
    rw [← Deed.complaint?_order clip.track order]
    exact (congrArg _ accounts.reported).trans (complaintsIn_cons _ _).symm

theorem stop (accounts : desk.Accounts held none) {clip : Clip}
    (holds : held clip.track.channel = some clip.track) :
    (desk.order clip .stop).2.2.Accounts (Function.update held clip.track.channel none)
      ((desk.order clip .stop).1.map (some clip.track.channel, ·)) where
  ledger := .stops _ accounts.ledger holds
  reported := by
    rw [← Deed.complaint?_order clip.track .stop]
    exact (congrArg _ accounts.reported).trans (complaintsIn_cons _ _).symm

theorem shutDown (accounts : desk.Accounts held none) : desk.shutDown.Accounts held none := by
  have asked : ({ desk with
      device := (Device.shutDown desk.device).2
      journal := .shutDown :: desk.journal } : Desk (Watched β)).Accounts held
        ((Device.shutDown desk.device).1.map (none, ·)) :=
    { ledger := .shutsDown _ accounts.ledger
      reported := by
        rw [← Deed.complaint?_shutDown]
        exact (congrArg _ accounts.reported).trans (complaintsIn_cons _ _).symm }
  cases refused : (Device.shutDown desk.device).1 with
  | none =>
      rw [refused] at asked
      simpa only [Desk.shutDown, refused, Option.map_none] using asked
  | some reason =>
      rw [refused] at asked
      simpa only [Desk.shutDown, refused] using asked.report rfl

variable [Faithful β]

/-- A clip that is opened is put on the books of a free channel, and one that is not leaves them. -/
theorem openClip (accounts : desk.Accounts held none) {channel : Channel} (url : String)
    (free : held channel = none) :
    (∀ {clip : Clip}, (desk.openClip channel url).1 = .ok clip →
      clip.track.channel = channel ∧ (desk.openClip channel url).2.Accounts
        (Function.update held channel (some clip.track)) none) ∧
    (∀ {reason : String}, (desk.openClip channel url).1 = .error reason →
      (desk.openClip channel url).2.Accounts held (some (some channel, reason))) := by
  have complains (refusal : Option String) :
      (refusal.map (some channel, ·)).toList ++ desk.reports.map Report.complaint =
        complaintsIn (⟨.openClip ⟨desk.opened, channel, url⟩, refusal⟩ :: desk.device.deeds) := by
    rw [complaintsIn_cons, Deed.complaint?_openClip]
    exact congrArg _ accounts.reported
  have noted : (desk.openClip channel url).2.device.deeds =
      ⟨.openClip ⟨desk.opened, channel, url⟩, refusal? (desk.openClip channel url).1⟩ ::
        desk.device.deeds := rfl
  constructor
  · intro clip opened
    have track : clip.track = ⟨desk.opened, channel, url⟩ := Faithful.openClip_track opened
    rw [opened] at noted
    refine ⟨congrArg _ track, ?_, ?_⟩
    · rw [noted, track]
      exact .opens url accounts.ledger free
    · rw [noted]
      exact complains none
  · intro reason refused
    rw [refused] at noted
    constructor
    · rw [noted]
      exact .refused url reason accounts.ledger free
    · rw [noted]
      exact complains (some reason)

/-- Orders that do not stop a clip leave it where it is, whichever of them is refused. -/
theorem orders (accounts : desk.Accounts held none) {clip : Clip} {orders : List Order}
    (holds : held clip.track.channel = some clip.track) (others : ∀ order ∈ orders, order ≠ .stop) :
    (desk.orders clip orders).2.1.track = clip.track ∧
      (desk.orders clip orders).2.2.Accounts held
        ((desk.orders clip orders).1.map (some clip.track.channel, ·)) := by
  induction orders generalizing desk clip with
  | nil => exact ⟨rfl, accounts⟩
  | cons first rest hypothesis =>
      have same : (desk.order clip first).2.1.track = clip.track :=
        Faithful.order_track first clip desk.device
      have asked := accounts.order holds (others first List.mem_cons_self)
      simp only [Desk.orders]
      generalize desk.order clip first = ordered at same asked ⊢
      obtain ⟨failure, after, left⟩ := ordered
      cases failure with
      | none =>
          simp only at same
          rw [← same] at holds ⊢
          exact hypothesis asked holds fun order listed =>
            others order (List.mem_cons_of_mem _ listed)
      | some reason => exact ⟨same, asked⟩

end Desk.Accounts

namespace Slot

variable {slot : Slot} {desk : Desk (Watched β)} {held : Channel → Option Track} {clip : Clip}

theorem Tended.channel_of_loaded (tended : slot.Tended held desk) (loaded : slot.clip = some clip) :
    clip.track.channel = slot.channel := by
  have holds : Function.update held slot.channel slot.track? slot.channel = some clip.track := by
    rw [Function.update_self, track?, loaded, Option.map_some]
  exact (tended.ledger.opened_of_held holds).2

theorem Tended.holds (tended : slot.Tended held desk) (loaded : slot.clip = some clip) :
    Function.update held slot.channel slot.track? clip.track.channel = some clip.track := by
  rw [tended.channel_of_loaded loaded, Function.update_self, track?, loaded, Option.map_some]

variable [Device β]

def Keeps (slot : Slot) (held : Channel → Option Track) (used : Slot × Desk (Watched β)) : Prop :=
  used.1.channel = slot.channel ∧ used.1.Tended held used.2

theorem Tended.release (tended : slot.Tended held desk) : slot.Keeps held (slot.release desk) := by
  cases loaded : slot.clip with
  | none =>
      simp only [Slot.release, loaded]
      exact ⟨rfl, tended⟩
  | some clip =>
      have asked := Desk.Accounts.stop tended (tended.holds loaded)
      rw [tended.channel_of_loaded loaded, Function.update_idem] at asked
      simp only [Slot.release, loaded]
      generalize desk.order clip .stop = ordered at asked ⊢
      obtain ⟨failure, after, left⟩ := ordered
      cases failure with
      | none => exact ⟨rfl, asked⟩
      | some reason => exact ⟨rfl, asked.report rfl⟩

theorem release_clip (slot : Slot) (desk : Desk β) :
    (slot.release desk).1.clip = none := by
  cases loaded : slot.clip with
  | none => simp only [release, loaded]
  | some clip =>
      simp only [release, loaded]
      split <;> rfl

variable [Faithful β]

theorem Tended.order (tended : slot.Tended held desk) (loaded : slot.clip = some clip)
    {order : Order} (other : order ≠ .stop) {refused : Channel → String → Report}
    (about : ∀ channel reason, (refused channel reason).complaint = (some channel, reason)) :
    slot.Keeps held (slot.order clip order refused desk) := by
  have same : (desk.order clip order).2.1.track = clip.track :=
    Faithful.order_track order clip desk.device
  have asked := Desk.Accounts.order tended (tended.holds loaded) other
  have kept : slot.track? = some clip.track := by rw [track?, loaded, Option.map_some]
  rw [tended.channel_of_loaded loaded, kept] at asked
  simp only [Slot.order]
  generalize desk.order clip order = ordered at same asked ⊢
  obtain ⟨failure, after, left⟩ := ordered
  rw [← show after.track = clip.track from same] at asked
  cases failure with
  | none => exact ⟨rfl, asked⟩
  | some reason => exact ⟨rfl, asked.report (about _ _)⟩

theorem Tended.pause (tended : slot.Tended held desk) : slot.Keeps held (slot.pause desk) := by
  cases loaded : slot.clip with
  | none =>
      simp only [Slot.pause, loaded]
      exact ⟨rfl, tended⟩
  | some clip =>
      simp only [Slot.pause, loaded]
      split
      · exact ⟨rfl, tended⟩
      · exact tended.order loaded (by simp) (by intros; rfl)

theorem Tended.resume (tended : slot.Tended held desk) : slot.Keeps held (slot.resume desk) := by
  cases loaded : slot.clip with
  | none =>
      simp only [Slot.resume, loaded]
      exact ⟨rfl, tended⟩
  | some clip =>
      simp only [Slot.resume, loaded]
      split
      · exact tended.order loaded (by simp) (by intros; rfl)
      · exact ⟨rfl, tended⟩

theorem Tended.setMuted (tended : slot.Tended held desk) (muted : Bool) :
    slot.Keeps held (slot.setMuted muted desk) := by
  have same : Tended { slot with muted } held desk := tended
  cases loaded : slot.clip with
  | none =>
      simp only [Slot.setMuted, loaded]
      rw [loaded] at same
      exact ⟨rfl, same⟩
  | some clip =>
      simp only [Slot.setMuted, loaded]
      exact same.order loaded (by simp) (by intros; rfl)

/-- Acquiring keeps a slot tended. -/
theorem Tended.acquire (tended : slot.Tended held desk) (url : String) (looping : Bool) :
    slot.Keeps held (slot.acquire url looping desk).2 := by
  have released := tended.release
  have emptied := release_clip slot desk
  simp only [Slot.acquire]
  generalize slot.release desk = used at released emptied ⊢
  obtain ⟨empty, desk⟩ := used
  obtain ⟨channel, tended⟩ := released
  have free : Function.update held empty.channel empty.track? empty.channel = none := by
    rw [Function.update_self, track?, emptied, Option.map_none]
  obtain ⟨made, failed⟩ := Desk.Accounts.openClip tended url free
  generalize desk.openClip empty.channel url = answered at made failed ⊢
  obtain ⟨result, desk⟩ := answered
  -- a clip that does not start stays in the slot, one that does not open leaves it empty
  cases result with
  | error reason => exact ⟨channel, (failed rfl).report rfl⟩
  | ok clip =>
      obtain ⟨placed, accounts⟩ := made rfl
      rw [Function.update_idem] at accounts
      have holds : Function.update held empty.channel (some clip.track) clip.track.channel =
          some clip.track := by
        rw [placed, Function.update_self]
      have others : ∀ order ∈ [Order.setVolume empty.volume, .setMuted empty.muted, .play looping],
          order ≠ .stop := by simp
      obtain ⟨same, asked⟩ := accounts.orders holds others
      rw [placed] at asked
      simp only
      generalize desk.orders clip _ = ordered at same asked ⊢
      obtain ⟨failure, after, left⟩ := ordered
      rw [← show after.track = clip.track from same] at asked
      cases failure with
      | none => exact ⟨channel, asked⟩
      | some reason => exact ⟨channel, asked.report rfl⟩

end Slot

namespace Coordinator

def held (coordinator : Coordinator β) (channel : Channel) : Option Track :=
  (coordinator.slot channel).track?

/-- A coordinator whose slots hold what was opened and is not stopped. -/
structure Owns (coordinator : Coordinator (Watched β)) : Prop where
  channel (channel : Channel) : (coordinator.slot channel).channel = channel
  accounts : coordinator.desk.Accounts coordinator.held none

def Emptied (coordinator : Coordinator β) : Prop :=
  coordinator.closed = true → ∀ channel, (coordinator.slot channel).clip = none

theorem slot_put (coordinator : Coordinator β) (channel : Channel) (used : Slot × Desk β) :
    (coordinator.put channel used).slot = Function.update coordinator.slot channel used.1 := by
  funext other
  cases channel <;> cases other <;> rfl

theorem held_put (coordinator : Coordinator β) (channel : Channel) (used : Slot × Desk β) :
    (coordinator.put channel used).held =
      Function.update coordinator.held channel used.1.track? := by
  funext other
  cases channel <;> cases other <;> rfl

@[simp] theorem desk_put (coordinator : Coordinator β) (channel : Channel)
    (used : Slot × Desk β) : (coordinator.put channel used).desk = used.2 := by
  cases channel <;> rfl

@[simp] theorem closed_put (coordinator : Coordinator β) (channel : Channel)
    (used : Slot × Desk β) : (coordinator.put channel used).closed = coordinator.closed := by
  cases channel <;> rfl

namespace Owns

variable {coordinator : Coordinator (Watched β)}

theorem tended (owns : coordinator.Owns) (channel : Channel) :
    (coordinator.slot channel).Tended coordinator.held coordinator.desk := by
  have same : Function.update coordinator.held (coordinator.slot channel).channel
      (coordinator.slot channel).track? = coordinator.held := by
    rw [owns.channel]
    exact Function.update_eq_self _ _
  rw [Slot.Tended, same]
  exact owns.accounts

theorem put (owns : coordinator.Owns) {channel : Channel} {used : Slot × Desk (Watched β)}
    (keeps : (coordinator.slot channel).Keeps coordinator.held used) :
    (coordinator.put channel used).Owns where
  channel other := by
    rw [slot_put]
    by_cases same : other = channel
    · subst same
      rw [Function.update_self, keeps.1, owns.channel]
    · rw [Function.update_of_ne same, owns.channel]
  accounts := by
    rw [held_put, desk_put, ← owns.channel channel, ← keeps.1]
    exact keeps.2

variable [Device β]

theorem release (owns : coordinator.Owns) (channel : Channel) :
    (coordinator.release channel).Owns :=
  owns.put (owns.tended channel).release

theorem shutDown (owns : coordinator.Owns) :
    ({ coordinator with desk := coordinator.desk.shutDown } : Coordinator (Watched β)).Owns where
  channel := owns.channel
  accounts := owns.accounts.shutDown

theorem close (owns : coordinator.Owns) : coordinator.close.Owns := by
  rw [Coordinator.close]
  split
  · exact owns
  · have same : ({ coordinator with closed := true } : Coordinator (Watched β)).Owns :=
      ⟨owns.channel, owns.accounts⟩
    exact (((same.release .music).release .voice).release .sfx).shutDown

variable [Faithful β]

theorem acquire (owns : coordinator.Owns) (channel : Channel) (url : String) (looping : Bool) :
    (coordinator.acquire channel url looping).2.Owns :=
  owns.put ((owns.tended channel).acquire url looping)

theorem pause (owns : coordinator.Owns) (channel : Channel) : (coordinator.pause channel).Owns :=
  owns.put (owns.tended channel).pause

theorem resume (owns : coordinator.Owns) (channel : Channel) :
    (coordinator.resume channel).Owns :=
  owns.put (owns.tended channel).resume

theorem setSlotMuted (owns : coordinator.Owns) (channel : Channel) (muted : Bool) :
    (coordinator.setSlotMuted channel muted).Owns :=
  owns.put ((owns.tended channel).setMuted muted)

theorem replace (owns : coordinator.Owns) (channel : Channel) (url : Option String) :
    (coordinator.replace channel url).Owns := by
  rw [Coordinator.replace]
  cases named? url with
  | none => exact owns.release channel
  | some url => exact (owns.release channel).acquire channel url false

theorem enterScene (owns : coordinator.Owns) (scene : Option Scene) :
    (coordinator.enterScene scene).Owns := by
  rw [Coordinator.enterScene]
  split
  · exact owns
  · have hushed : (if ((scene.map (·.dialogues)).getD []).isEmpty then
        (coordinator.release .voice).release .sfx else coordinator).Owns := by
      split
      · exact (owns.release .voice).release .sfx
      · exact owns
    generalize (if ((scene.map (·.dialogues)).getD []).isEmpty then
        (coordinator.release .voice).release .sfx else coordinator) = left at hushed
    cases named? (scene.bind (·.bgmUrl)) with
    | none => exact hushed.release .music
    | some url =>
        simp only
        split
        · exact hushed.resume .music
        · exact hushed.acquire .music url true

theorem setMuted (owns : coordinator.Owns) (muted : Bool) : (coordinator.setMuted muted).Owns :=
  have same : ({ coordinator with muted } : Coordinator (Watched β)).Owns :=
    ⟨owns.channel, owns.accounts⟩
  ((same.setSlotMuted .music muted).setSlotMuted .voice muted).setSlotMuted .sfx muted

/-- Every call leaves the slots with what was opened and not stopped. -/
theorem answer (owns : coordinator.Owns) (call : Call) : (coordinator.answer call).Owns := by
  cases call with
  | enterScene scene => exact owns.enterScene scene
  | enterDialogue dialogue =>
      simp only [Coordinator.answer, enterDialogue]
      split
      · exact owns
      · exact (owns.replace .voice _).replace .sfx _
  | finish =>
      simp only [Coordinator.answer, finish]
      split
      · exact owns
      · exact ((owns.pause .music).release .voice).release .sfx
  | setMuted muted => exact owns.setMuted muted
  | toggleMute => exact owns.setMuted (!coordinator.muted)
  | close => exact owns.close

theorem run (owns : coordinator.Owns) (calls : List Call) : (coordinator.run calls).Owns := by
  induction calls generalizing coordinator with
  | nil => exact owns
  | cons call calls hypothesis => exact hypothesis (owns.answer call)

end Owns

theorem owns_new (device : β) (music voice sfx : Float) (muted : Bool) :
    (new (Watched.mk device []) music voice sfx muted).Owns where
  channel channel := by cases channel <;> rfl
  accounts :=
    have nothing : (new (Watched.mk device []) music voice sfx muted).held = fun _ => none := by
      funext channel
      cases channel <;> rfl
    { ledger := nothing ▸ .empty
      reported := rfl }

section Closing

variable [Device β]

@[simp] theorem closed_release (coordinator : Coordinator β) (channel : Channel) :
    (coordinator.release channel).closed = coordinator.closed :=
  closed_put _ _ _

@[simp] theorem closed_acquire (coordinator : Coordinator β) (channel : Channel) (url : String)
    (looping : Bool) : (coordinator.acquire channel url looping).2.closed = coordinator.closed :=
  closed_put _ _ _

@[simp] theorem closed_pause (coordinator : Coordinator β) (channel : Channel) :
    (coordinator.pause channel).closed = coordinator.closed :=
  closed_put _ _ _

@[simp] theorem closed_resume (coordinator : Coordinator β) (channel : Channel) :
    (coordinator.resume channel).closed = coordinator.closed :=
  closed_put _ _ _

@[simp] theorem closed_setMuted (coordinator : Coordinator β) (muted : Bool) :
    (coordinator.setMuted muted).closed = coordinator.closed := by
  simp only [setMuted, setSlotMuted, closed_put]

@[simp] theorem closed_replace (coordinator : Coordinator β) (channel : Channel)
    (url : Option String) : (coordinator.replace channel url).closed = coordinator.closed := by
  rw [replace]
  cases named? url <;> simp only [closed_release, closed_acquire]

@[simp] theorem closed_enterScene (coordinator : Coordinator β) (scene : Option Scene) :
    (coordinator.enterScene scene).closed = coordinator.closed := by
  rw [enterScene]
  split
  · rfl
  · cases named? (scene.bind (·.bgmUrl)) with
    | none => simp only [closed_release, apply_ite closed, ite_self]
    | some url =>
        simp only [closed_release, closed_resume, closed_acquire, apply_ite closed, ite_self]

theorem closed_close (coordinator : Coordinator β) : coordinator.close.closed = true := by
  rw [close]
  split
  · assumption
  · simp only [closed_release]

theorem closed_answer (coordinator : Coordinator β) {call : Call} (other : call ≠ .close) :
    (coordinator.answer call).closed = coordinator.closed := by
  cases call with
  | enterScene scene => exact closed_enterScene _ _
  | enterDialogue dialogue =>
      simp only [answer, enterDialogue, closed_replace, apply_ite closed, ite_self]
  | finish =>
      simp only [answer, finish, closed_release, closed_pause, apply_ite closed, ite_self]
  | setMuted muted => exact closed_setMuted _ _
  | toggleMute => exact closed_setMuted _ _
  | close => contradiction

private theorem closed_run (coordinator : Coordinator β) {calls : List Call}
    (closes : coordinator.closed = true ∨ .close ∈ calls) :
    (coordinator.run calls).closed = true := by
  induction calls generalizing coordinator with
  | nil => exact closes.resolve_right List.not_mem_nil
  | cons call calls hypothesis =>
      refine hypothesis _ ?_
      by_cases last : call = .close
      · subst last
        exact .inl (closed_close coordinator)
      · rw [closed_answer _ last]
        exact closes.imp_right fun listed => (List.mem_cons.mp listed).resolve_left (Ne.symm last)

theorem release_emptied (coordinator : Coordinator β) (channel : Channel) :
    ((coordinator.release channel).slot channel).clip = none := by
  rw [release, slot_put, Function.update_self, Slot.release_clip]

theorem release_keeps (coordinator : Coordinator β) {channel other : Channel}
    (empty : (coordinator.slot other).clip = none) :
    ((coordinator.release channel).slot other).clip = none := by
  by_cases same : other = channel
  · subst same
    exact release_emptied coordinator other
  · rw [release, slot_put, Function.update_of_ne same]
    exact empty

private theorem released_emptied (coordinator : Coordinator β) (channel : Channel) :
    ((((coordinator.release .music).release .voice).release .sfx).slot channel).clip = none := by
  cases channel with
  | music => exact release_keeps _ (release_keeps _ (release_emptied _ _))
  | voice => exact release_keeps _ (release_emptied _ _)
  | sfx => exact release_emptied _ _

theorem setSlotMuted_keeps (coordinator : Coordinator β) {channel other : Channel} (muted : Bool)
    (empty : (coordinator.slot other).clip = none) :
    ((coordinator.setSlotMuted channel muted).slot other).clip = none := by
  by_cases same : other = channel
  · subst same
    rw [setSlotMuted, slot_put, Function.update_self]
    simp only [Slot.setMuted, empty]
  · rw [setSlotMuted, slot_put, Function.update_of_ne same]
    exact empty

/-- Every call leaves a closed coordinator with nothing in its slots. -/
theorem Emptied.answer {coordinator : Coordinator β} (emptied : coordinator.Emptied)
    (call : Call) : (coordinator.answer call).Emptied := by
  -- once closed, nothing opens a clip any more; before that only closing matters
  by_cases closed : coordinator.closed = true
  · have mutes (muted : Bool) : (coordinator.setMuted muted).Emptied := fun _ channel =>
      setSlotMuted_keeps _ muted (setSlotMuted_keeps _ muted
        (setSlotMuted_keeps { coordinator with muted } muted (emptied closed channel)))
    cases call with
    | enterScene scene => simpa only [Coordinator.answer, enterScene, if_pos closed] using emptied
    | enterDialogue dialogue =>
        simpa only [Coordinator.answer, enterDialogue, if_pos closed] using emptied
    | finish => simpa only [Coordinator.answer, finish, if_pos closed] using emptied
    | setMuted muted => exact mutes muted
    | toggleMute => exact mutes _
    | close => simpa only [Coordinator.answer, close, if_pos closed] using emptied
  · by_cases last : call = .close
    · subst last
      intro _ channel
      have left := released_emptied { coordinator with closed := true } channel
      simp only [Coordinator.answer, close, if_neg closed]
      cases channel <;> exact left
    · intro nowClosed
      rw [closed_answer _ last] at nowClosed
      contradiction

theorem Emptied.run {coordinator : Coordinator β} (emptied : coordinator.Emptied)
    (calls : List Call) : (coordinator.run calls).Emptied := by
  induction calls generalizing coordinator with
  | nil => exact emptied
  | cons call calls hypothesis => exact hypothesis (emptied.answer call)

end Closing

/-- Whatever a device refuses, and whatever a coordinator is called for: clips are owned by the
rules, closing leaves none that was opened and not stopped, and each refusal is reported once. -/
theorem run_disciplined [Device β] [Faithful β] (device : β) (music voice sfx : Float)
    (muted : Bool) (calls : List Call) :
    let coordinator := (new (Watched.mk device []) music voice sfx muted).run calls
    let deeds := coordinator.desk.device.deeds
    coordinator.unwatched = (new device music voice sfx muted).run calls ∧
      Disciplined deeds ∧
      (Call.close ∈ calls → ∀ track ∈ openedIn deeds, (stoppedIn deeds).count track = 1) ∧
      coordinator.desk.reports.map Report.complaint = complaintsIn deeds := by
  intro coordinator deeds
  have owns : coordinator.Owns := (owns_new device music voice sfx muted).run calls
  have disciplined : Disciplined deeds := owns.accounts.ledger.disciplined
  refine ⟨(run_unwatched _ calls).symm, disciplined, ?_, owns.accounts.reported⟩
  intro closes track opened
  have emptied : coordinator.Emptied :=
    Emptied.run (fun impossible => absurd impossible Bool.false_ne_true) calls
  have closed : coordinator.closed = true := closed_run _ (.inr closes)
  refine List.count_eq_one_of_mem disciplined.stopsOnce ?_
  -- a clip that was never stopped would still be in a slot
  by_contra going
  have holds := owns.accounts.ledger.held_of_opened opened going
  rw [held, Slot.track?, emptied closed] at holds
  contradiction

def hoarse : Rehearsal where
  refusal _ action :=
    match action with
    | .openClip track => if track.channel = .voice then some "no voice" else none
    | .order track .stop => if track.channel = .music then some "stuck" else none
    | _ => none

theorem run_disciplined_hoarse :
    let scene : Scene := { id := "quay", bgmUrl := some "waves.ogg" }
    let line : Dialogue := { id := "hail", voiceUrl := some "ahoy.ogg", sfxUrl := some "gull.ogg" }
    let calls : List Call := [.enterScene (some scene), .enterDialogue (some line), .close]
    let deeds := ((new (Watched.mk hoarse []) 0.5 1.0 1.0 false).run calls).desk.device.deeds
    Faithful Rehearsal ∧ Disciplined deeds ∧ Call.close ∈ calls ∧
      openedIn deeds = [⟨2, .sfx, "gull.ogg"⟩, ⟨0, .music, "waves.ogg"⟩] ∧
      ∀ track ∈ openedIn deeds, (stoppedIn deeds).count track = 1 := by
  intro scene line calls deeds
  have closes : Call.close ∈ calls := by simp [calls]
  obtain ⟨_, disciplined, stopped, _⟩ := run_disciplined hoarse 0.5 1.0 1.0 false calls
  exact ⟨inferInstance, disciplined, closes, by decide +kernel, stopped closes⟩

end Coordinator

end VisualNovel.Sound
