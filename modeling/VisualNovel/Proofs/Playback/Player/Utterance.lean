import VisualNovel.Proofs.Playback.Player.Turns

/-!
# What a player says of its place

Of the events that a player tells some say where it is: in which scene, on which
line, or at the end. Each move tells a fixed sequence of them, whatever else is
told of typing and of transitions.
-/

set_option autoImplicit false

namespace VisualNovel.Playback

open VisualNovel.Clock VisualNovel.Novel

def Event.isPlaced : Event → Bool
  | .sceneEnter _ _ | .dialogueEnter _ _ _ | .finished _ _ => true
  | _ => false

def utterances (seen : List Sight) : List Event :=
  (seen.reverse.map (·.event)).filter Event.isPlaced

theorem utterances_append (later earlier : List Sight) :
    utterances (later ++ earlier) = utterances earlier ++ utterances later := by
  simp [utterances]

/-- Who heeds only what is said of the place need not hear the rest. -/
theorem foldl_filter_isPlaced {σ : Type} {after : σ → Event → σ}
    (heedless : ∀ state event, event.isPlaced = false → after state event = state) (state : σ)
    (events : List Event) :
    (events.filter Event.isPlaced).foldl after state = events.foldl after state := by
  rw [List.foldl_filter]
  congr
  funext state event
  cases placed : event.isPlaced with
  | true => rfl
  | false => exact (heedless state event placed).symm

def entryEvents (novel : Novel) (scene : Int) : List Event :=
  .sceneEnter scene (novel.sceneAt? scene) ::
    ((novel.dialogueAt? scene 0).map fun dialogue => .dialogueEnter scene 0 dialogue).toList

private theorem filter_entryEvents (novel : Novel) (scene : Int) :
    (entryEvents novel scene).filter Event.isPlaced = entryEvents novel scene := by
  unfold entryEvents
  cases novel.dialogueAt? scene 0 <;> rfl

namespace Player

variable {κ : Type} {player middle next : Player κ} {strike phase : Option (Timer (Alarm κ))}
  {events later : List Event}

def Utters (player next : Player κ) (events : List Event) : Prop :=
  ∃ more, next.seen = more ++ player.seen ∧ utterances more = events

theorem Utters.silent (silent : next.seen = player.seen) : Utters player next [] :=
  ⟨[], silent, rfl⟩

theorem Utters.trans (first : Utters player middle events) (second : Utters middle next later) :
    Utters player next (events ++ later) := by
  obtain ⟨more, seen, rfl⟩ := first
  obtain ⟨since, seenSince, rfl⟩ := second
  exact ⟨since ++ more, by rw [seenSince, seen, List.append_assoc], utterances_append _ _⟩

/-- Who has seen what a player told meanwhile knows what it said of its place. -/
theorem Utters.foldl {σ : Type} {after : σ → Event → σ} {sights : List Sight}
    (utters : Utters player next events) (told : next.seen = sights.reverse ++ player.seen)
    (heedless : ∀ state event, event.isPlaced = false → after state event = state) (state : σ) :
    sights.foldl (fun state sight => after state sight.event) state =
      events.foldl after state := by
  obtain ⟨more, seen, rfl⟩ := utters
  obtain rfl : sights.reverse = more := List.append_cancel_right (told.symm.trans seen)
  rw [utterances, List.reverse_reverse, foldl_filter_isPlaced heedless, List.foldl_map]

theorem utters_emit (player : Player κ) (event : Event) :
    Utters player (player.emit event) ([event].filter Event.isPlaced) :=
  ⟨[⟨player.timeline.now, event, player.position⟩], rfl, rfl⟩

theorem Typing.utterances_eq {typed : List Sight} (typing : player.Typing typed) :
    utterances typed = [] := by
  refine List.filter_eq_nil_iff.mpr fun event member => ?_
  obtain ⟨sight, seen, rfl⟩ := List.mem_map.mp member
  have typing := (typing sight (List.mem_reverse.mp seen)).1
  cases told : sight.event <;> simp_all [Event.isTyping, Event.isPlaced]

theorem Types.utters (types : Types player next) : Utters player next [] := by
  obtain ⟨typed, seen, typing⟩ := types.told
  exact ⟨typed, seen, typing.utterances_eq⟩

theorem Tells.utters (tells : player.Tells next events) :
    Utters player next (events.filter Event.isPlaced) := by
  obtain ⟨typed, told, seen, typing, names, _⟩ := tells
  refine ⟨typed ++ told, by rw [seen, List.append_assoc], ?_⟩
  rw [utterances_append, typing.utterances_eq, List.append_nil, utterances, List.map_reverse,
    names, List.reverse_reverse]

theorem Arrives.utters {target : Int} {timing : Timing}
    (arrives : Arrives player next target timing phase) :
    Utters player next (entryEvents player.novel target) := by
  obtain ⟨ending, typed, told, seen, onward, typing, names, _⟩ := arrives.told
  have ended : utterances ending = [] := by
    cases onward <;> rfl
  refine ⟨ending ++ (typed ++ told), by rw [seen]; simp, ?_⟩
  have entered : utterances told = entryEvents player.novel target := by
    rw [utterances, List.map_reverse, names, List.reverse_reverse]
    exact filter_entryEvents player.novel target
  rw [utterances_append, utterances_append, ended, typing.utterances_eq, entered,
    List.append_nil, List.append_nil]

theorem Leaves.utters {made : Request κ} {target : Int} {ready : Player κ}
    (leaves : player.Leaves made target ready) : Utters player (ready.embark target) [] := by
  have told : Utters player ready [] := by
    cases leaves with
    | advance _ _ _ => exact .silent rfl
    | choose _ _ _ => exact utters_emit player _
  have begun : Utters ready (ready.embark target) [] :=
    utters_emit (ready.depart target) _
  exact told.trans begun

theorem Departs.utters {target : Int} {timing : Timing}
    (departs : Departs player next target timing phase) :
    Utters player next [] ∧ next.place = player.place ∧
        next.position.finished = player.position.finished ∨
      Utters player next (entryEvents player.novel target) ∧ next.place = (target, 0) ∧
        next.position.finished = false := by
  cases departs with
  | wait _ _ _ same =>
      subst same
      exact .inl ⟨.silent rfl, rfl, rfl⟩
  | arrive _ arrives => exact .inr ⟨arrives.utters, arrives.place, arrives.unfinished⟩

theorem finish_utters (player : Player κ) :
    Utters player player.finish [.finished player.position.scene player.position.dialogue] :=
  utters_emit (player.stopTyping.withPosition fun position => { position with finished := true }) _

theorem Coherent.utters_line (coherent : player.Coherent strike phase)
    (unfinished : player.position.finished = false) :
    Utters player player.nextLine.enterDialogue player.nextLine.lineEvents := by
  have waits : player.nextLine.Waits strike phase := coherent.lined.waits.congr rfl rfl rfl
  obtain ⟨_, _, _, tells⟩ := waits.enterDialogue coherent.started unfinished
  have said := tells.utters
  have all : player.nextLine.lineEvents.filter Event.isPlaced = player.nextLine.lineEvents := by
    unfold lineEvents
    cases player.nextLine.dialogue? <;> rfl
  rwa [all] at said

/-- A player at the beginning that enters the first scene says so. -/
theorem Waits.utters_opening (waits : player.Waits none none) (started : player.started = true)
    (position : player.position = {}) :
    Utters player player.enterScene (entryEvents player.novel 0) := by
  have unfinished : player.position.finished = false := by rw [position]
  obtain ⟨_, _, _, tells⟩ := waits.enterScene started unfinished (by rw [position])
  have events : Event.sceneEnter player.position.scene player.scene? :: player.lineEvents =
      entryEvents player.novel 0 := by
    unfold lineEvents Player.scene? Player.dialogue? Position.scene? Position.dialogue?
    rw [position]
    rfl
  have said := tells.utters
  rwa [events, filter_entryEvents] at said

end Player

end VisualNovel.Playback
