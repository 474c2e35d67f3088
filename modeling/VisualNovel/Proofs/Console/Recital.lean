import VisualNovel.Console.Plan
import VisualNovel.Proofs.Console.Listening
import VisualNovel.Proofs.Console.Presenting
import VisualNovel.Proofs.Playback.Player.Heading

/-!
# Playing without input

A playthrough without input prints what is printed of a walk through the novel. At
every turn it waits for the place that it is on its way to, prints what belongs to
the place, and sets out for where the walk goes on.
-/

set_option autoImplicit false

namespace VisualNovel.Console

open VisualNovel.Agenda VisualNovel.Clock VisualNovel.Novel VisualNovel.Playback

/-- A scene that is entered is to be printed from its beginning. -/
theorem Transcript.ready_of_entry {transcript : Transcript} (unended : transcript.ended = false)
    (novel : Novel) (target : Int) :
    ((entryEvents novel target).foldl Transcript.hear transcript).Ready (target, 0) := by
  unfold entryEvents
  cases novel.dialogueAt? target 0 <;> exact ⟨rfl, rfl, rfl, unended⟩

namespace Playthrough

variable {novel : Novel} {place : Int × Int} {playthrough : Playthrough}

/-- A playthrough on its way to a place of which everything is still to be printed. -/
inductive Nearing (novel : Novel) (place : Int × Int) (playthrough : Playthrough) : Prop where
  | intro {player : Player Cue} {phase : Option (Timer (Alarm Cue))} :
      Portrays playthrough player → player.Bound novel place phase →
      ((player.announced phase).foldl Transcript.hear playthrough.world.notes).Ready place →
      Nearing novel place playthrough

/-- A playthrough at a place of which everything has been printed. -/
inductive Reached (novel : Novel) (place : Int × Int) (playthrough : Playthrough) : Prop where
  | intro {player : Player Cue} :
      Portrays playthrough player → player.Bound novel place none →
      playthrough.world.notes.scene = some place.1 → playthrough.world.notes.ended = false →
      Reached novel place playthrough

inductive Over (playthrough : Playthrough) : Prop where
  | intro {player : Player Cue} :
      Portrays playthrough player → player.Coherent none none → player.Prompt →
      player.position.finished = true → playthrough.world.notes.ended = false →
      Over playthrough

def withNotes (playthrough : Playthrough) (notes : Transcript) : Playthrough :=
  { playthrough with world := { playthrough.world with notes } }

private theorem look_eq {middle : Playthrough} {notes : Transcript} {lines : List String}
    (waited : (perform (.flush flushLimit) playthrough).2 = middle)
    (presents : middle.world.notes.present middle.world.frame = (notes, lines)) :
    look playthrough = (middle.world.frame, lines.map .line, middle.withNotes notes) := by
  unfold look
  rw [waited]
  dsimp only
  rw [presents]
  rfl

theorem Portrays.withNotes {player : Player Cue} (portrays : Portrays playthrough player)
    (notes : Transcript) : Portrays (playthrough.withNotes notes) player :=
  ⟨⟨portrays.shows.isOpen, portrays.shows.playing, portrays.shows.same⟩, portrays.listening⟩

theorem Portrays.frame {player : Player Cue} (portrays : Portrays playthrough player) :
    ∃ muted, playthrough.world.frame = compose player.novel player.position muted := by
  obtain ⟨_, _, _, rfl⟩ := portrays.shows
  exact ⟨_, rfl⟩

/-- At every turn exactly what belongs to the place is printed. -/
theorem Nearing.look (nearing : Nearing novel place playthrough) :
    ∃ next : Playthrough,
      Playthrough.look playthrough = (next.world.frame, (shownAt novel place).map .line, next) ∧
      Reached novel place next ∧ isLast next.world.frame = false := by
  obtain ⟨portrays, bound, ready⟩ := nearing
  obtain ⟨player, portraysThen, coherent, prompt, nears, noted⟩ :=
    portrays.await bound.coherent bound.prompt bound.rested
  -- waiting has ended the transition, so everything of the place is in the frame
  have there : player.Bound novel place none :=
    ⟨nears.novel.trans bound.novel, coherent, prompt, fun _ impossible => by contradiction,
      nears.finished.trans bound.unfinished, nears.goal.trans bound.goal⟩
  rw [← noted] at ready
  generalize waited : (perform (.flush flushLimit) playthrough).2 = middle at portraysThen ready
  obtain ⟨muted, frame⟩ := portraysThen.frame
  obtain ⟨scene, found, _⟩ := coherent.placed
  obtain rfl := there.heading.place_eq
  obtain rfl := there.novel
  obtain ⟨notes, presents, entered, unended⟩ := ready.present_compose there.unfinished there.still
    found (fun _ line => there.revealed_eq line) muted
  rw [← frame] at presents
  have looks := look_eq waited presents
  refine
    ⟨middle.withNotes notes, looks, ⟨portraysThen.withNotes notes, there, entered, unended⟩, ?_⟩
  show isLast middle.world.frame = false
  unfold isLast
  rw [frame, status_compose found there.unfinished]
  split <;> rfl

/-- Past the last line the end is printed, and nothing comes after it. -/
theorem Over.look (past : Over playthrough) :
    ∃ next : Playthrough,
      Playthrough.look playthrough = (next.world.frame, [.line "The End"], next) ∧
      isLast next.world.frame = true := by
  obtain ⟨portrays, coherent, prompt, finished, unended⟩ := past
  obtain ⟨player, portraysThen, _, _, nears, noted⟩ :=
    portrays.await coherent prompt fun _ impossible => by contradiction
  generalize waited : (perform (.flush flushLimit) playthrough).2 = middle at portraysThen noted
  obtain ⟨muted, frame⟩ := portraysThen.frame
  have status : middle.world.frame.status = .finished := by
    rw [frame]
    unfold compose
    rw [nears.finished, finished]
    rfl
  have presents : middle.world.notes.present middle.world.frame =
      ({ middle.world.notes with ended := true }, ["The End"]) := by
    have unendedThen : middle.world.notes.ended = false := by
      rw [noted]
      exact unended
    unfold Transcript.present
    rw [status]
    simp [unendedThen]
  have looks := look_eq waited presents
  refine ⟨middle.withNotes { middle.world.notes with ended := true }, looks, ?_⟩
  show isLast middle.world.frame = true
  unfold isLast
  rw [status]
  rfl

/-! ## Going on -/

/-- The frame shows the menu of the place that was reached. -/
theorem Reached.menu (reached : Reached novel place playthrough) :
    playthrough.world.novel = novel ∧
      playthrough.world.frame.showChoices = !(novel.menuAt place).isEmpty ∧
      (playthrough.world.frame.showChoices = true →
        playthrough.world.frame.choices = novel.menuAt place) := by
  obtain ⟨portrays, bound, _, _⟩ := reached
  obtain ⟨muted, frame⟩ := portrays.frame
  have known : playthrough.world.novel = novel := by
    rw [← bound.novel]
    obtain ⟨_, _, _, rfl⟩ := portrays.shows
    rfl
  obtain rfl := bound.heading.place_eq
  obtain rfl := bound.novel
  have menu :=
    menu_compose bound.unfinished bound.still (fun _ line => bound.revealed_eq line) muted
  rw [frame]
  exact ⟨known, menu⟩

/-- What a turn comes to that goes on as a walk does. -/
inductive Proceeds (novel : Novel) : Way → Turn → Prop where
  | next {onto : Int × Int} {after : Playthrough} :
      Nearing novel onto after → Proceeds novel (.next onto) (.goesOn [] after)
  | past {after : Playthrough} : Over after → Proceeds novel .past (.goesOn [] after)
  | stuck : Proceeds novel .stuck (.stops [.line "(no choice leads anywhere; stopping)"])

private theorem nearing_of_leaves {player ready : Player Cue} {made : Request Cue} {target : Int}
    {after : Playthrough} (bound : player.Bound novel place none)
    (unended : playthrough.world.notes.ended = false) (leaves : player.Leaves made target ready)
    (performed : ∀ events, Player.Utters player (player.respond made).2 events →
      Portrays after (player.respond made).2 ∧
        after.world.notes = events.foldl Transcript.hear playthrough.world.notes) :
    Nearing novel (target, 0) after := by
  obtain ⟨following, events, boundNext, utters, said⟩ := bound.leave leaves
  rw [leaves.respond bound.coherent.started bound.unfinished bound.still] at performed
  obtain ⟨portrays, noted⟩ := performed events utters
  refine ⟨portrays, boundNext, ?_⟩
  rw [noted, ← List.foldl_append, said]
  exact Transcript.ready_of_entry unended novel target

/-- From a place without a menu a turn goes on as the walk does. -/
theorem Reached.advance (reached : Reached novel place playthrough)
    (noMenu : (novel.menuAt place).isEmpty = true) :
    Proceeds novel (novel.onward place) (.goesOn [] (perform .advance playthrough).2) := by
  obtain @⟨player, portrays, bound, entered, unended⟩ := reached
  have resting : player.Resting := .coherent bound.coherent bound.rested
  unfold onward
  rw [if_pos noMenu]
  cases follows : novel.dialogueAt? place.1 (place.2 + 1) with
  | some dialogue =>
      obtain ⟨boundNext, utters⟩ := bound.next_line noMenu follows
      obtain ⟨portraysNext, noted⟩ := portrays.advance resting utters
      have later : place.2 + 1 ≠ 0 := by
        obtain ⟨_, _, within⟩ := bound.coherent.placed
        have here : player.position.dialogue = place.2 := congrArg Prod.snd bound.heading.place_eq
        omega
      have ready : ((perform .advance playthrough).2.world.notes).Ready
          (place.1, place.2 + 1) := by
        rw [noted]
        exact ⟨rfl, rfl, entered.trans (if_neg later).symm, unended⟩
      exact .next ⟨portraysNext, boundNext, ready⟩
  | none =>
      cases further : novel.sceneAt? (place.1 + 1) with
      | some scene =>
          have leaves := bound.heading.next_scene noMenu follows (by rw [further]; rfl)
          exact .next (nearing_of_leaves bound unended leaves fun _ utters =>
            portrays.advance resting utters)
      | none =>
          obtain ⟨finishes, coherent, prompt⟩ := bound.past_end noMenu follows further
          have utters := player.finish_utters
          rw [← finishes] at utters coherent prompt
          obtain ⟨portraysNext, noted⟩ := portrays.advance resting utters
          refine .past ⟨portraysNext, coherent, prompt, ?_, ?_⟩
          · rw [finishes]
            rfl
          · rw [noted]
            exact unended

/-- From any place a turn goes on as the walk does. -/
theorem Reached.goOn (reached : Reached novel place playthrough)
    (distinct : novel.DistinctChoices) :
    Proceeds novel (novel.onward place)
      (Playthrough.goOn playthrough.world.frame playthrough) := by
  obtain ⟨known, shows, choices⟩ := reached.menu
  unfold Playthrough.goOn firstOpenChoice?
  rw [shows, known]
  cases noMenu : (novel.menuAt place).isEmpty with
  | true => exact reached.advance noMenu
  | false =>
      have opened : playthrough.world.frame.showChoices = true := by rw [shows, noMenu]; rfl
      rw [choices opened]
      unfold onward
      rw [noMenu, firstTarget?_eq]
      cases first : (novel.menuAt place).find?
          fun choice => (novel.sceneIndex? choice.targetSceneId).isSome with
      | none => exact .stuck
      | some choice =>
          obtain @⟨player, portrays, bound, _, unended⟩ := reached
          obtain ⟨target, led, leaves⟩ := bound.follow distinct first
          simp only [Option.bind_some, led]
          exact .next (nearing_of_leaves bound unended leaves fun _ utters =>
            portrays.choose (.coherent bound.coherent bound.rested) utters)

/-! ## From the beginning to the end -/

def Recites (recital : Recital) (lines : List String) : Prop :=
  recital.printed = lines.map .line ∧ recital.error = none

theorem playAlone_eq (turns : Nat) (playthrough : Playthrough) :
    Playthrough.playAlone turns playthrough =
      let (frame, shown, playthrough) := Playthrough.look playthrough
      if isLast frame then finish shown none playthrough
      else
        match turns with
        | 0 => finish shown none playthrough
        | turns + 1 =>
            match Playthrough.goOn frame playthrough with
            | .stops printed => finish (shown ++ printed) none playthrough
            | .breaks error => finish shown (some error) playthrough
            | .goesOn printed playthrough =>
                (Playthrough.playAlone turns playthrough).after (shown ++ printed) := by
  cases turns <;> rfl

theorem Over.playAlone (past : Over playthrough) (turns : Nat) :
    Recites (Playthrough.playAlone turns playthrough) ["The End"] := by
  obtain ⟨next, looks, last⟩ := past.look
  rw [playAlone_eq, looks]
  dsimp only
  rw [last]
  exact ⟨rfl, rfl⟩

/-- Playing without input prints what is printed of the walk from the place that is neared. -/
theorem Nearing.playAlone (nearing : Nearing novel place playthrough)
    (distinct : novel.DistinctChoices) (turns : Nat) :
    Recites (Playthrough.playAlone turns playthrough)
      (walkLines novel (novel.walk turns place)) := by
  -- by induction on the turns: each ends on the way to the next place of the walk
  induction turns generalizing place playthrough with
  | zero =>
      obtain ⟨next, looks, _, more⟩ := nearing.look
      rw [playAlone_eq, looks]
      dsimp only
      rw [more]
      simp [Recites, finish, walkLines, walk, endingLines]
  | succ turns hypothesis =>
      obtain ⟨next, looks, reached, more⟩ := nearing.look
      have proceeds := reached.goOn distinct
      rw [playAlone_eq, looks]
      dsimp only
      rw [more, walk]
      generalize novel.onward place = way at proceeds
      generalize Playthrough.goOn next.world.frame next = turn at proceeds
      cases proceeds with
      | @next place after nearing =>
          obtain ⟨printed, error⟩ := hypothesis nearing
          simp [Recites, Recital.after, walkLines, printed, error]
      | @past after past =>
          obtain ⟨printed, error⟩ := past.playAlone turns
          simp [Recites, Recital.after, walkLines, endingLines, printed, error]
      | stuck => simp [Recites, finish, walkLines, endingLines]

def opened (novel : Novel) (preferences : Preferences) : Playthrough :=
  Session.listen (Session.listen (Session.new novel { preferences with typingInterval := 0 }
    Sound.Rehearsal.willing 0 {}) "scene.enter" .sceneEntered) "dialogue.enter" .lineEntered

private theorem start_eq (novel : Novel) (preferences : Preferences) :
    Playthrough.start novel preferences = (perform .start (opened novel preferences)).2 :=
  rfl

theorem fresh_opened (novel : Novel) (preferences : Preferences) :
    Session.Fresh (opened novel preferences) :=
  ((Session.fresh_new novel _ _ _ _).listen _ _).listen _ _

theorem nearing_start (nonempty : novel.scenes ≠ []) (preferences : Preferences) :
    Nearing novel (0, 0) (Playthrough.start novel preferences) := by
  have fresh := fresh_opened novel preferences
  have unstarted := fresh.player_unstarted
  have portrays : Portrays (opened novel preferences) _ := ⟨fresh.stands.shows, rfl⟩
  obtain ⟨bound, utters⟩ := unstarted.set_out nonempty ⟨le_refl 0, rfl⟩
  obtain ⟨portraysNext, noted⟩ := portrays.start (.unstarted unstarted) utters
  rw [start_eq]
  refine ⟨portraysNext, bound, ?_⟩
  have silent : Player.announced (Session.player (opened novel preferences) []).start.2 none =
    [] := rfl
  rw [silent, noted]
  exact Transcript.ready_of_entry rfl novel 0

end Playthrough

/-- Playing a novel without input within a limit of turns prints exactly what is printed of the
walk of so many steps from its beginning, and the last line tells how the walk ended. -/
theorem recite_walk {novel : Novel} (nonempty : novel.scenes ≠ [])
    (distinct : novel.DistinctChoices) (preferences : Preferences) (turns : Nat)
    (inputs : List String) :
    (recite novel preferences true (some (.value turns)) inputs).printed =
        (walkLines novel (novel.walk turns (0, 0))).map .line ∧
      (recite novel preferences true (some (.value turns)) inputs).error = none ∧
      ((recite novel preferences true (some (.value turns)) inputs).printed.getLast? =
          some (.line "The End") ↔ (novel.walk turns (0, 0)).ending = .past) ∧
      ((recite novel preferences true (some (.value turns)) inputs).printed.getLast? =
          some (.line "(no choice leads anywhere; stopping)") ↔
        (novel.walk turns (0, 0)).ending = .stuck) := by
  have recites : Playthrough.Recites (recite novel preferences true (some (.value turns)) inputs)
      (walkLines novel (novel.walk turns (0, 0))) :=
    (Playthrough.nearing_start nonempty preferences).playAlone distinct turns
  obtain ⟨printed, error⟩ := recites
  have closes {ending : Ending} {text : String} (closing : text ∈ endingLines ending) :
      ((walkLines novel (novel.walk turns (0, 0))).map Printed.line).getLast? =
        some (.line text) ↔ (novel.walk turns (0, 0)).ending = ending := by
    rw [← getLast?_walkLines novel closing, List.getLast?_map]
    simp
  rw [printed]
  exact ⟨rfl, error, closes (List.mem_singleton.mpr rfl), closes (List.mem_singleton.mpr rfl)⟩

theorem recite_walk_to_ferry :
    Sample.novel.scenes ≠ [] ∧ Sample.novel.DistinctChoices ∧
      (recite Sample.novel {} true (some (.value 3)) []).printed =
        ["== quay ==", "Narrator: Fog.", "Narrator: Board?", "  1. ", "== ferry ==",
          "Narrator: Ahoy!", "The End"].map .line := by
  have nonempty : Sample.novel.scenes ≠ [] := List.cons_ne_nil _ _
  have distinct : Sample.novel.DistinctChoices := by
    unfold DistinctChoices
    decide
  refine ⟨nonempty, distinct, (recite_walk nonempty distinct {} 3 []).1.trans ?_⟩
  have lines : walkLines Sample.novel (Sample.novel.walk 3 (0, 0)) =
      ["== quay ==", "Narrator: Fog.", "Narrator: Board?", "  1. ", "== ferry ==",
        "Narrator: Ahoy!", "The End"] := by
    decide +kernel
  rw [lines]

end VisualNovel.Console
