import VisualNovel.Novel.Problems
import VisualNovel.Novel.Reading
import VisualNovel.Proofs.Playback.Requests
import VisualNovel.Sound.Rehearsal

/-!
# Sessions between requests

Where a session stands between two requests of a history: it is open, and its
player has not started, or is coherent and waits for no phase that is due. Every
request is performed from there, and leads to where the session stands again.
-/

set_option autoImplicit false

namespace VisualNovel.Playback

open VisualNovel.Agenda VisualNovel.Clock VisualNovel.Sound

variable {β κ η : Type}

inductive Player.Resting (player : Player κ) : Prop where
  | unstarted : player.Unstarted → Resting player
  | coherent {strike phase : Option (Timer (Alarm κ))} : player.Coherent strike phase →
      player.Rested phase → Resting player

theorem Player.Resting.valid {player : Player κ} (resting : player.Resting) : player.Valid := by
  cases resting with
  | unstarted unstarted => exact .unstarted unstarted
  | coherent coherent _ => exact .coherent coherent

theorem Player.Resting.respond {player : Player κ} (resting : player.Resting)
    (made : Request κ) : (player.respond made).2.Resting := by
  cases resting with
  | unstarted unstarted =>
      rcases unstarted.comes made with ⟨time, still⟩ | ⟨_, nonempty, started⟩
      · rw [still]
        exact .unstarted (unstarted.settle time)
      · obtain ⟨begun, coherent, _⟩ := unstarted.start nonempty
        rw [started]
        exact .coherent coherent fun _ impossible => by contradiction
  | coherent coherent rested =>
      obtain ⟨_, _, after, rested, _⟩ := coherent.comes rested made
      exact .coherent after rested

theorem Player.Resting.constant {player : Player κ} (resting : player.Resting)
    (made : Request κ) :
    (player.respond made).2.novel = player.novel ∧
      (player.respond made).2.timings = player.timings := by
  cases resting with
  | unstarted unstarted =>
      rcases unstarted.comes made with ⟨time, still⟩ | ⟨_, nonempty, started⟩
      · rw [still]
        exact ⟨rfl, rfl⟩
      · obtain ⟨_, _, stays, _⟩ := unstarted.start nonempty
        rw [started]
        exact ⟨stays.novel, stays.timings⟩
  | coherent coherent rested =>
      obtain ⟨_, _, _, _, turned⟩ := coherent.comes rested made
      exact turned.constant

theorem Player.respond_quiet {player : Player κ} {made : Request κ} (quiet : made.Quiet) :
    (player.respond made).2 = player := by
  cases made <;> first | rfl | exact absurd quiet id

namespace Session

/-- Where a session stands that has told certain events. -/
structure Stands (session : Session β κ η) (seen : List Sight) : Prop where
  isOpen : session.world.closed = false
  playing : session.world.stopped = false
  resting : (session.player seen).Resting

variable {session before after : Session β κ η} {player next : Player κ} {seen sights : List Sight}
  {made : Request κ} {answer : Answer}

theorem Stands.shows (stands : session.Stands seen) : session.Shows (session.player seen) :=
  ⟨stands.isOpen, stands.playing, seen, rfl⟩

theorem Shows.player_eq (shows : session.Shows player) : session.player player.seen = player := by
  obtain ⟨_, _, seen, rfl⟩ := shows
  rfl

theorem Stands.coherent (stands : session.Stands seen) (started : session.world.started = true) :
    ∃ strike phase, (session.player seen).Coherent strike phase ∧
      (session.player seen).Rested phase := by
  cases stands.resting with
  | unstarted unstarted =>
      exact absurd (unstarted.started.symm.trans started) Bool.false_ne_true
  | coherent coherent rested => exact ⟨_, _, coherent, rested⟩

theorem Fresh.player_unstarted (fresh : session.Fresh) : (session.player []).Unstarted := by
  refine ⟨fresh.unstarted, fresh.position, ?_⟩
  have idle : (session.player []).timeline.pending = [] := fresh.idle
  refine ⟨⟨fresh.ticking, ?_, ?_, ?_, ?_⟩, .of_eq idle, fresh.released, fresh.still, ?_⟩
  · rw [idle]
    exact .nil
  · simp [idle]
  · simp [idle]
  · simp [idle]
  · intro timer impossible
    contradiction

theorem Fresh.stands (fresh : session.Fresh) : session.Stands [] :=
  ⟨fresh.isOpen, fresh.playing, .unstarted fresh.player_unstarted⟩

variable [DecidableEq κ] [Device β] {callbacks : Callbacks κ η}

theorem Stands.responds (stands : before.Stands seen) (quiet : callbacks.Quiet)
    (plays : made.Plays) :
    ∃ sights after,
      Performs callbacks before made sights ((before.player seen).respond made).1 after ∧
      after.Shows ((before.player seen).respond made).2 ∧
      ((before.player seen).respond made).2.seen = sights.reverse ++ seen := by
  obtain ⟨sights, after, completes, shows, told, gives⟩ :=
    carries_request quiet plays stands.resting.valid before stands.shows
  exact ⟨sights, after, performs_iff.mpr ⟨completes, gives⟩, shows, told⟩

/-- Every request is performed, and leaves the session with the player that has responded. -/
theorem Stands.performs (stands : before.Stands seen) (quiet : callbacks.Quiet)
    (ordinary : made.Plays ∨ made.Quiet) :
    ∃ sights answer after, Performs callbacks before made sights answer after ∧
      after.Shows ((before.player seen).respond made).2 ∧
      ((before.player seen).respond made).2.seen = sights.reverse ++ seen := by
  rcases ordinary with plays | reads
  · obtain ⟨sights, after, performs, shows, told⟩ := stands.responds quiet plays
    exact ⟨sights, _, after, performs, shows, told⟩
  · obtain ⟨sights, after, completes, shows, told, _⟩ :=
      carries_quiet reads before stands.shows
    rw [Player.respond_quiet reads]
    exact ⟨sights, _, after, performs_iff.mpr ⟨completes, rfl⟩, shows, told⟩

theorem Stands.turn (stands : before.Stands seen) (quiet : callbacks.Quiet)
    (ordinary : made.Plays ∨ made.Quiet)
    (performed : Performs callbacks before made sights answer after) :
    after.player (sights.reverse ++ seen) = ((before.player seen).respond made).2 ∧
      after.Stands (sights.reverse ++ seen) := by
  -- a request is performed in one way only, so what is known of one is known of this
  obtain ⟨_, _, _, performs, shows, told⟩ := stands.performs quiet ordinary
  obtain ⟨rfl, rfl, rfl⟩ := performed.unique performs
  have same := shows.player_eq
  rw [told] at same
  refine ⟨same, shows.isOpen, shows.playing, ?_⟩
  rw [same]
  exact stands.resting.respond made

theorem Stands.constant (stands : before.Stands seen) (quiet : callbacks.Quiet)
    (ordinary : made.Plays ∨ made.Quiet)
    (performed : Performs callbacks before made sights answer after) :
    after.world.novel = before.world.novel ∧ after.world.timings = before.world.timings := by
  have constant := stands.resting.constant made
  rw [← (stands.turn quiet ordinary performed).1] at constant
  exact constant

theorem Stands.answers (stands : before.Stands seen) (quiet : callbacks.Quiet)
    (plays : made.Plays) (performed : Performs callbacks before made sights answer after) :
    answer = ((before.player seen).respond made).1 := by
  obtain ⟨_, _, performs, _⟩ := stands.responds quiet plays
  exact (performed.unique performs).2.1

def Would (callbacks : Callbacks κ η) (session : Session β κ η) (made : Request κ)
    (flag : Bool) : Prop :=
  ∃ sights after, Performs callbacks session made sights (.flag flag) after

theorem Stands.would (stands : before.Stands seen) (quiet : callbacks.Quiet)
    (made : Request κ) {flag : Bool} (plays : made.Plays)
    (responds : ((before.player seen).respond made).1 = .flag flag) :
    Would callbacks before made flag := by
  obtain ⟨sights, after, performs, _⟩ := stands.responds quiet plays
  rw [responds] at performs
  exact ⟨sights, after, performs⟩

def seenIn (turns : List (Turn β κ η)) : List Sight :=
  turns.flatMap Turn.sights

theorem History.stands {first last : Session β κ η} {turns : List (Turn β κ η)}
    (history : History callbacks first turns last) (quiet : callbacks.Quiet)
    (stands : first.Stands seen) : last.Stands ((seenIn turns).reverse ++ seen) := by
  induction history with
  | nil => exact stands
  | snoc _ ordinary performed ih =>
      have after := (ih.turn quiet ordinary performed).2
      simpa [seenIn] using after

theorem History.constant {first last : Session β κ η} {turns : List (Turn β κ η)}
    (history : History callbacks first turns last) (quiet : callbacks.Quiet)
    (stands : first.Stands seen) :
    last.world.novel = first.world.novel ∧ last.world.timings = first.world.timings := by
  induction history with
  | nil => exact ⟨rfl, rfl⟩
  | snoc history ordinary performed ih =>
      have constant := (history.stands quiet stands).constant quiet ordinary performed
      exact ⟨constant.1.trans ih.1, constant.2.trans ih.2⟩

end Session

end VisualNovel.Playback

/-!
## Runs of requests

Histories that are found by performing requests one after another, each within a
budget. A small novel is at hand to try them on.
-/

namespace VisualNovel.Playback

open VisualNovel.Agenda VisualNovel.Clock VisualNovel.Sound VisualNovel.Novel

variable {β κ η : Type}

namespace Session

variable [DecidableEq κ] [Device β] {callbacks : Callbacks κ η} {budget : Nat}

def turn? (callbacks : Callbacks κ η) (budget : Nat) (before : Session β κ η)
    (made : Request κ) : Option (Turn β κ η) :=
  (perform? callbacks budget made before).map fun (answer, after) =>
    { before, made, answer, after
      sights := watch sighting (clockwork callbacks).step budget
        [.work (.request made)] before }

def run? (callbacks : Callbacks κ η) (budget : Nat) (session : Session β κ η) :
    List (Request κ) → Option (List (Turn β κ η) × Session β κ η)
  | [] => some ([], session)
  | made :: requests => do
      let turn ← turn? callbacks budget session made
      let (turns, last) ← run? callbacks budget turn.after requests
      return (turn :: turns, last)

variable {first between last : Session β κ η} {turns more : List (Turn β κ η)}
  {requests : List (Request κ)}

private theorem performs_of_turn? {before : Session β κ η} {made : Request κ} {turn : Turn β κ η}
    (performed : turn? callbacks budget before made = some turn) :
    ∃ sights answer after, turn = ⟨before, made, sights, answer, after⟩ ∧
      Performs callbacks before made sights answer after := by
  obtain ⟨⟨answer, after⟩, gives, rfl⟩ := Option.map_eq_some_iff.mp performed
  exact ⟨_, answer, after, rfl, budget, gives, rfl⟩

/-- A history goes on with requests that are performed within a budget. -/
theorem History.run (history : History callbacks first turns between)
    (ordinary : ∀ made ∈ requests, made.Plays ∨ made.Quiet)
    (ran : run? callbacks budget between requests = some (more, last)) :
    History callbacks first (turns ++ more) last := by
  induction requests generalizing turns between more with
  | nil =>
      obtain ⟨rfl, rfl⟩ := Prod.mk.inj (Option.some.inj ran)
      rwa [List.append_nil]
  | cons made requests ih =>
      simp only [run?, Option.bind_eq_bind, Option.bind_eq_some_iff] at ran
      obtain ⟨turn, performed, ⟨rest, final⟩, ran, same⟩ := ran
      obtain ⟨rfl, rfl⟩ := Prod.mk.inj (Option.some.inj same)
      obtain ⟨sights, answer, after, rfl, performs⟩ := performs_of_turn? performed
      have next := history.snoc (ordinary made List.mem_cons_self) performs
      have whole := ih next (fun made member => ordinary made (List.mem_cons_of_mem _ member)) ran
      rwa [List.append_assoc] at whole

theorem history_of_run? (ordinary : ∀ made ∈ requests, made.Plays ∨ made.Quiet)
    (ran : run? callbacks budget first requests = some (turns, last)) :
    History callbacks first turns last :=
  History.nil.run ordinary ran

end Session

/-! ## A small novel -/

namespace Sample

def document : Json.Value :=
  .object [("scenes", .list [
    .object [("id", .text "quay"), ("dialogues", .list [
      .object [("text", .text "Fog.")],
      .object [("text", .text "Board?"), ("choices", .list [
        .object [("id", .text "yes"), ("targetSceneId", .text "ferry")]])]])],
    .object [("id", .text "ferry"), ("transition", .text "slide"), ("dialogues", .list [
      .object [("text", .text "Ahoy!")]])]])]

def novel : Novel where
  id := "novel"
  scenes := [
    { id := "quay"
      dialogues := [
        { id := "dialogue-0-0", text := "Fog." },
        { id := "dialogue-0-1", text := "Board?"
          choices := [{ id := "yes", text := "", targetSceneId := "ferry" }] }] },
    { id := "ferry", transition := some .slide
      dialogues := [{ id := "dialogue-1-0", text := "Ahoy!" }] }]

theorem novel_of_document : (Novel.ofValue document).1 = .ok novel :=
  rfl

theorem problems_novel : problems novel = [] := by
  decide +kernel

def nobody : Callbacks String Unit where
  hears _ _ := .done
  rings _ := .done

theorem nobody_quiet : nobody.Quiet :=
  fun _ _ => trivial

def opened : Session Rehearsal String Unit :=
  Session.new novel {} Rehearsal.willing 0 ()

theorem opened_fresh : opened.Fresh :=
  Session.fresh_new novel {} Rehearsal.willing 0 ()

end Sample

end VisualNovel.Playback
