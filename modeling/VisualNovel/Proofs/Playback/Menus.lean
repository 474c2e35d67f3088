import VisualNovel.Proofs.Playback.Crossing
import VisualNovel.Proofs.Playback.Progress
import VisualNovel.Proofs.Playback.Refusals

/-!
# Entries of a menu

A menu lists its entries in order, but an entry is asked for by its identifier, and
the first entry with an identifier is the one that is followed. An entry that no
earlier one shares its identifier with is therefore followed itself, whoever
listens and whatever they make of it.
-/

set_option autoImplicit false

namespace VisualNovel.Playback

open VisualNovel.Agenda VisualNovel.Clock VisualNovel.Novel VisualNovel.Sound

variable {β κ η : Type} {index target : Nat} {choice : Choice}

/-- The first entry of a list that is as wanted is the one that is found. -/
theorem find?_of_first {α : Type} {items : List α} {wanted : α → Bool} {item : α}
    (listed : items[index]? = some item) (fits : wanted item = true)
    (first : ∀ earlier ∈ items.take index, wanted earlier = false) :
    items.find? wanted = some item := by
  obtain ⟨within, rfl⟩ := List.getElem?_eq_some_iff.mp listed
  have split := (List.take_append_drop index items).symm
  rw [List.drop_eq_getElem_cons within] at split
  refine List.find?_eq_some_iff_append.mpr ⟨fits, _, _, split, ?_⟩
  intro earlier member
  rw [first earlier member]
  rfl

private theorem choice?_of_first {dialogue : Dialogue}
    (listed : dialogue.choices[index]? = some choice)
    (first : ∀ earlier ∈ dialogue.choices.take index, earlier.id ≠ choice.id) :
    dialogue.choice? choice.id = some choice :=
  find?_of_first listed (beq_self_eq_true _) fun earlier member =>
    beq_eq_false_iff_ne.mpr (first earlier member)

/-- Where a menu is shown there is a line with these choices, and nothing else is under way. -/
theorem Stage.exists_line {stage : Stage β κ η} (shown : stage.frame.showChoices = true) :
    ∃ dialogue, stage.dialogue? = some dialogue ∧ stage.frame.choices = dialogue.choices ∧
      stage.position.finished = false ∧ stage.position.transitioning = false := by
  have shows := shown
  unfold Stage.frame at shows
  rw [showChoices_compose] at shows
  simp only [Bool.and_eq_true, Bool.not_eq_true', Option.any_eq_true] at shows
  obtain ⟨⟨unfinished, still⟩, dialogue, line, _⟩ := shows
  exact ⟨dialogue, line, choices_compose line _, unfinished, still⟩

namespace Session

/-- An entry of the menu that is shown, which leads to a scene. No entry before it has the same
identifier. -/
structure Offers (session : Session β κ η) (index : Nat) (choice : Choice) (target : Nat) :
    Prop where
  shown : session.world.frame.showChoices = true
  listed : session.world.frame.choices[index]? = some choice
  first : ∀ earlier ∈ session.world.frame.choices.take index, earlier.id ≠ choice.id
  leads : session.world.novel.sceneIndex? choice.targetSceneId = some target

def inPlay (session : Session β κ η) : Bool :=
  !session.world.closed && session.world.isActive

variable {session middle after : Session β κ η} {sights : List Sight} {answer : Answer}

theorem inPlay_iff : session.inPlay = true ↔
    session.world.closed = false ∧ session.world.stopped = false ∧
      session.world.started = true := by
  unfold inPlay Stage.isActive
  cases session.world.closed <;> cases session.world.stopped <;>
    cases session.world.started <;> simp

private theorem whenOpen_choose (offers : session.Offers index choice target) :
    whenOpen session (choose session choice.id) =
      if session.inPlay then
        (session, [.emit (.choiceSelect choice target), .beginTransition target,
          .reply (.flag true)])
      else session.refuse := by
  obtain ⟨dialogue, line, choices, unfinished, still⟩ := Stage.exists_line offers.shown
  have listed := offers.listed
  have first := offers.first
  rw [choices] at listed first
  have found : (session.world.dialogue?.bind fun line => line.choice? choice.id) = some choice := by
    rw [line]
    exact choice?_of_first listed first
  unfold whenOpen choose inPlay
  dsimp only
  rw [found, unfinished, still]
  dsimp only
  rw [offers.leads]
  cases session.world.closed <;> cases session.world.isActive <;> rfl

private theorem setsOut_of_offers (offers : session.Offers index choice target)
    (inPlay : session.inPlay = true) : session.SetsOut (κ := κ) (.choose choice.id) target := by
  obtain ⟨dialogue, line, choices, unfinished, still⟩ := Stage.exists_line offers.shown
  have listed := offers.listed
  have first := offers.first
  rw [choices] at listed first
  exact .choose (inPlay_iff.mp inPlay).2.2 unfinished still line (choice?_of_first listed first)
    offers.leads

/-- What is seen of a choice that is followed: it is told, and once the listeners are done with
that, so is the transition that begins. -/
def Embarks (session : Session β κ η) (choice : Choice) (target : Nat)
    (sights : List Sight) : Prop :=
  ∃ told start rest,
    sights = ⟨session.timeline.now, .choiceSelect choice target, session.world.position⟩ ::
      (told ++ start :: rest) ∧
    start.position.transitioning = true ∧
    ∃ style, start.event = .transitionStart start.position.scene target style

variable [DecidableEq κ] [Device β] {callbacks : Callbacks κ η}

private theorem begins_of_completes {rest : List (Job (Task κ η))} {final : Session β κ η}
    (completes : Completes sighting (clockwork callbacks).step
      (.work (.beginTransition target) :: rest) middle sights final) :
    ∃ start more, sights = start :: more ∧ start.position.transitioning = true ∧
      ∃ style, start.event = .transitionStart start.position.scene target style := by
  obtain ⟨_, rfl, told⟩ := completes.uncons rfl
  obtain ⟨more, rfl, _⟩ := told.uncons rfl
  exact ⟨_, more, rfl, rfl, _, rfl⟩

theorem Offers.refused (offers : session.Offers index choice target)
    (outOfPlay : session.inPlay = false) :
    Completes sighting (clockwork callbacks).step [.work (.request (.choose choice.id))] session
      [] (session.reply (.flag false)) := by
  have begun : (clockwork callbacks).step (.work (.request (.choose choice.id))) session =
      jobs session.refuse := by
    refine congrArg jobs ((whenOpen_choose offers).trans ?_)
    rw [outOfPlay]
    rfl
  exact .of_step begun (.cons .nil)

/-- Where the callbacks make no moves, an entry that is offered can be asked for. -/
theorem Offers.performs (offers : session.Offers index choice target)
    (quiet : callbacks.Quiet) :
    ∃ sights answer after, Performs callbacks session (.choose choice.id) sights answer after := by
  cases playing : session.inPlay with
  | false => exact ⟨_, _, _, performs_iff.mpr ⟨offers.refused playing, rfl⟩⟩
  | true =>
      obtain ⟨isOpen, unstopped, _⟩ := inPlay_iff.mp playing
      have shows : session.Shows (session.player []) := ⟨isOpen, unstopped, [], rfl⟩
      obtain ⟨sights, after, completes, _, _, _⟩ := carries_choose quiet choice.id session shows
      exact ⟨sights, _, after, performs_iff.mpr ⟨completes, rfl⟩⟩

/-- However an entry that is offered is asked for, it is the one that is followed, unless the
session is out of play and refuses. -/
theorem Offers.follows (offers : session.Offers index choice target)
    (performed : Performs callbacks session (.choose choice.id) sights answer after) :
    answer = .flag session.inPlay ∧
      (session.inPlay = true → session.Embarks choice target sights) := by
  obtain ⟨completes, rfl⟩ := performs_iff.mp performed
  cases playing : session.inPlay with
  | false =>
      obtain ⟨_, rfl⟩ := completes.unique (offers.refused playing)
      exact ⟨rfl, fun impossible => absurd impossible Bool.false_ne_true⟩
  | true =>
      have begun : (clockwork callbacks).step (.work (.request (.choose choice.id))) session =
          jobs (session, [.emit (.choiceSelect choice target), .beginTransition target,
            .reply (.flag true)]) := by
        refine congrArg jobs ((whenOpen_choose offers).trans ?_)
        rw [playing]
        rfl
      obtain ⟨_, rfl, whole⟩ := completes.uncons begun
      -- the listeners are done with the choice before the transition begins
      obtain ⟨_, _, _, tells, left, rfl⟩ := whole.head
      obtain ⟨told, rfl, _⟩ := tells.uncons rfl
      obtain ⟨start, rest, rfl, transitioning, style, event⟩ := begins_of_completes left
      obtain ⟨_, _, _, _, replies, _⟩ := left.head
      obtain ⟨_, rfl⟩ := completes_reply replies
      exact ⟨rfl, fun _ => ⟨told, start, rest, rfl, transitioning, style, event⟩⟩

/-- In a history the transition to the scene of the entry then takes its course. -/
theorem Offers.crosses_over {first : Session β κ η} {turns : List (Turn β κ η)}
    (offers : session.Offers index choice target) (inPlay : session.inPlay = true)
    (history : History callbacks first turns session) (fresh : first.Fresh)
    (quiet : callbacks.Quiet)
    (performed : Performs callbacks session (.choose choice.id) sights answer after) :
    ∃ ahead start rest, sights = ahead ++ start :: rest ∧
      start.event =
        .transitionStart session.world.position.scene target (session.styleOf target) ∧
      ∀ more last, History callbacks after more last →
        OnCourse callbacks (session.departureTo target) last (rest ++ seenIn more) := by
  have stands := history.stands quiet fresh.stands
  have setsOut := setsOut_of_offers offers inPlay
  obtain ⟨_, ahead, start, rest, split, event, _, _, underway⟩ :=
    stands.begins quiet setsOut performed
  refine ⟨ahead, start, rest, split, event, ?_⟩
  intro more last further
  have standsAfter := (stands.turn quiet (.inl setsOut.plays) performed).2
  exact (underway.history further standsAfter quiet).onCourse
    (further.stands quiet standsAfter) quiet

/-- An entry that is asked for is followed: whoever listens, to the end where they make no moves of
their own, and in a history by a transition that takes its course to the scene of the entry. -/
structure Heeds (callbacks : Callbacks κ η) (session : Session β κ η) (choice : Choice)
    (target : Nat) : Prop where
  follows : ∀ sights answer after,
    Performs callbacks session (.choose choice.id) sights answer after →
      answer = .flag session.inPlay ∧
        (session.inPlay = true → session.Embarks choice target sights)
  performs : callbacks.Quiet →
    ∃ sights answer after, Performs callbacks session (.choose choice.id) sights answer after
  crosses : callbacks.Quiet → session.inPlay = true →
    ∀ first turns, first.Fresh → History callbacks first turns session →
      ∀ sights answer after, Performs callbacks session (.choose choice.id) sights answer after →
        ∃ ahead start rest, sights = ahead ++ start :: rest ∧
          start.event =
            .transitionStart session.world.position.scene target (session.styleOf target) ∧
          ∀ more last, History callbacks after more last →
            OnCourse callbacks (session.departureTo target) last (rest ++ seenIn more)

theorem Offers.heeds (offers : session.Offers index choice target) :
    session.Heeds callbacks choice target where
  follows _ _ _ performed := offers.follows performed
  performs quiet := offers.performs quiet
  crosses quiet inPlay _ _ fresh history _ _ _ performed :=
    offers.crosses_over inPlay history fresh quiet performed

end Session

namespace Sample

/-- A menu of which two entries have the same identifier, and the first of them leads nowhere. -/
def signpost : Json.Value :=
  .object [("id", .text "crossroads"), ("scenes", .list [
    .object [("id", .text "fork"), ("dialogues", .list [
      .object [("text", .text "Whither?"), ("choices", .list [
        .object [("id", .text "go"), ("text", .text "Inn"), ("targetSceneId", .text "inn")],
        .object [("id", .text "go"), ("text", .text "Ferry"), ("targetSceneId", .text "ferry")],
        .object [("id", .text "rest"), ("text", .text "Rest"),
          ("targetSceneId", .text "fork")]])]])],
    .object [("id", .text "ferry")]])]

def crossroads : Novel where
  id := "crossroads"
  scenes := [
    { id := "fork"
      dialogues := [
        { id := "dialogue-0-0", text := "Whither?"
          choices := [
            { id := "go", text := "Inn", targetSceneId := "inn" },
            { id := "go", text := "Ferry", targetSceneId := "ferry" },
            { id := "rest", text := "Rest", targetSceneId := "fork" }] }] },
    { id := "ferry" }]

end Sample

end VisualNovel.Playback
