import VisualNovel.Proofs.Playback.Player.Heading
import VisualNovel.Proofs.Playback.Rundown

/-!
# Players in a novel without menus

In a novel without menus a player comes to rest on every line, and once in every scene
that has none. Each time it goes on, one stop less is left. What it has said of its
place, what is announced and what lies ahead are always the whole rundown.
-/

set_option autoImplicit false

namespace VisualNovel.Playback.Player

open VisualNovel.Clock VisualNovel.Novel

variable {κ : Type} {novel : Novel} {player next : Player κ} {left : Nat}
  {strike phase following : Option (Timer (Alarm κ))}

theorem Utters.utterances_eq {events : List Event} (utters : Utters player next events) :
    utterances next.seen = utterances player.seen ++ events := by
  obtain ⟨more, seen, rfl⟩ := utters
  rw [seen, utterances_append]

theorem Nears.utterances_eq (nears : player.Nears phase next following) :
    utterances next.seen ++ next.announced following =
      utterances player.seen ++ player.announced phase := by
  obtain ⟨events, utters, said⟩ := nears.tells
  rw [utters.utterances_eq, List.append_assoc, said]

inductive Along (novel : Novel) (player : Player κ) : Nat → Prop where
  | going {index line : Nat} {scene : Scene} {rest : List Scene}
      {strike phase : Option (Timer (Alarm κ))} :
      Heading novel (index, line) player strike phase →
      novel.scenes.drop index = scene :: rest → line < scene.stops →
      utterances player.seen ++ player.announced phase ++
        (ahead index line scene rest ++ [conclusion novel]) = rundown novel →
      Along novel player (scene.stops - line + stopsIn rest)
  | done : player.Coherent none none → player.position.finished = true →
      utterances player.seen = rundown novel → Along novel player 0

/-- A player that starts has all stops of the novel before it. -/
theorem Unstarted.along (unstarted : player.Unstarted) (unseen : player.seen = [])
    (nonempty : player.novel.scenes ≠ []) :
    player.start.1 = true ∧ Along player.novel player.start.2 player.novel.stops := by
  obtain ⟨begun, heading, answered, utters⟩ := unstarted.sets_out nonempty
  obtain ⟨scene, rest, scenes⟩ := List.exists_cons_of_ne_nil nonempty
  have here : player.novel.scenes.drop 0 = scene :: rest := scenes
  have entry : entryEvents player.novel 0 ++ ahead 0 0 scene rest =
      sceneEntries 0 player.novel.scenes := by
    rw [scenes]
    exact entry_ahead here
  refine ⟨answered, ?_⟩
  unfold stops
  rw [scenes]
  refine .going heading here Scene.stops_pos ?_
  rw [utters.utterances_eq, unseen, rundown, ← entry, ← List.append_assoc]
  simp [utterances, announced, awaited?]

namespace Along

theorem finished_iff (along : Along novel player left) :
    player.position.finished = true ↔ left = 0 := by
  cases along with
  | going heading _ within _ =>
      have unfinished := heading.unfinished
      simp only [unfinished, Bool.false_eq_true, false_iff]
      omega
  | done _ finished _ => simp [finished]

theorem said (along : Along novel player 0) : utterances player.seen = rundown novel := by
  generalize none : 0 = left at along
  cases along with
  | going _ _ within _ => omega
  | done _ _ said => exact said

theorem said_prefix (along : Along novel player left) :
    utterances player.seen <+: rundown novel := by
  cases along with
  | going _ _ _ said =>
      rw [List.append_assoc] at said
      exact ⟨_, said⟩
  | done _ _ said => exact said ▸ List.prefix_refl _

/-! ## Letting time go by -/

theorem drain (along : Along novel player left) {time : Int} (later : player.now ≤ time) :
    Along novel (drain time player).2 left := by
  cases along with
  | going heading here within said =>
      obtain ⟨begun, following, after, ticks, rested⟩ := heading.coherent.drain later
      obtain ⟨heading, nears⟩ := heading.ticks ticks after rested
      exact .going heading here within (nears.utterances_eq ▸ said)
  | done coherent finished said =>
      have nothing := coherent.lined.waits.pending.eq_nil
      have idle : player.timeline.takeDue? time = none := by
        simp [Timeline.takeDue?, nothing]
      rw [drain_idle idle]
      exact .done (coherent.settle idle) finished said

theorem flush (along : Along novel player left) (limit : Int) (ran : Nat) :
    Along novel (flush limit ran player).2 left := by
  cases along with
  | going heading here within said =>
      obtain ⟨begun, following, after, ticks, rested⟩ :=
        heading.coherent.flush limit ran heading.rested
      obtain ⟨heading, nears⟩ := heading.ticks ticks after rested
      exact .going heading here within (nears.utterances_eq ▸ said)
  | done coherent finished said =>
      have still : (Player.flush limit ran player).2 = player := by
        by_cases enough : limit ≤ ran
        · rw [flush_enough enough]
        · rw [flush_idle enough coherent.nextDue]
      rw [still]
      exact .done coherent finished said

/-! ## Going on -/

section

variable {index line : Nat} {scene : Scene} {rest : List Scene}

theorem advance_line (heading : Heading novel (index, line) player none none)
    (linear : novel.Linear) (here : novel.scenes.drop index = scene :: rest)
    {dialogue : Dialogue} (follows : scene.dialogues[line + 1]? = some dialogue)
    (said : utterances player.seen ++ (ahead index line scene rest ++ [conclusion novel]) =
      rundown novel) :
    player.advance.1 = true ∧
      Along novel player.advance.2 (scene.stops - (line + 1) + stopsIn rest) := by
  obtain ⟨within, _⟩ := List.getElem?_eq_some_iff.mp follows
  have line_follows := (dialogueAt?_of_drop here (line + 1)).trans follows
  obtain ⟨begun, heading, answered, utters⟩ :=
    heading.next_line (linear.noMenu _) line_follows
  refine ⟨answered, .going heading here (Scene.lt_stops within) ?_⟩
  rw [line_ahead follows] at said
  rw [utters.utterances_eq, ← said]
  simp [announced, awaited?]

private theorem advance_scene (heading : Heading novel (index, line) player none none)
    (linear : novel.Linear) {following : Scene}
    (here : novel.scenes.drop index = scene :: following :: rest)
    (last : scene.dialogues.length ≤ line + 1)
    (said : utterances player.seen ++
      (ahead index line scene (following :: rest) ++ [conclusion novel]) = rundown novel) :
    player.advance.1 = true ∧ Along novel player.advance.2 (following.stops + stopsIn rest) := by
  have past := (dialogueAt?_of_drop here (line + 1)).trans (List.getElem?_eq_none last)
  have there := drop_succ here
  have found := sceneAt?_of_drop there
  have leaves := heading.next_scene (linear.noMenu _) past (Option.isSome_of_eq_some found)
  have responds := leaves.respond heading.coherent.started heading.unfinished heading.still
  obtain ⟨answered, advances⟩ := Prod.mk.inj responds
  obtain ⟨begun, phase, events, onward, utters, told⟩ := heading.leave leaves
  rw [← advances] at onward utters told
  have entry : events ++ player.advance.2.announced phase ++ ahead (index + 1) 0 following rest =
      sceneEntries (index + 1) (following :: rest) := by
    rw [told]
    exact entry_ahead there
  refine ⟨Answer.flag.inj answered, .going onward there Scene.stops_pos ?_⟩
  rw [scene_ahead last, ← entry] at said
  rw [utters.utterances_eq, ← said]
  simp only [List.append_assoc]

private theorem advance_end (heading : Heading novel (index, line) player none none)
    (linear : novel.Linear) (here : novel.scenes.drop index = [scene])
    (within : line < scene.stops) (last : scene.dialogues.length ≤ line + 1)
    (said : utterances player.seen ++ (ahead index line scene [] ++ [conclusion novel]) =
      rundown novel) :
    player.advance.1 = true ∧ Along novel player.advance.2 0 := by
  have past := (dialogueAt?_of_drop here (line + 1)).trans (List.getElem?_eq_none last)
  have further : novel.sceneAt? ((index + 1 : Nat) : Int) = none := by
    rw [sceneAt?, itemAt?_natCast, ← List.head?_drop, drop_succ here]
    rfl
  obtain ⟨advances, coherent⟩ := heading.past_end (linear.noMenu _) past further
  rw [advances]
  obtain ⟨inScene, onLine⟩ := Prod.mk.inj heading.place_eq
  have final : (scene.stops : Int) - 1 = line := by
    have one := Scene.stops_sub within last
    omega
  refine ⟨rfl, .done coherent rfl ?_⟩
  rw [scene_ahead last, conclusion_eq here, final] at said
  rw [player.finish_utters.utterances_eq, ← said, inScene, onLine]
  rfl

end

/-- Each time it goes on there is a stop less, until none is left. -/
theorem advance (along : Along novel player left) (linear : novel.Linear)
    (idle : player.timeline.nextDue? = none) :
    player.advance.1 = decide (0 < left) ∧ Along novel player.advance.2 (left - 1) := by
  cases along with
  | @going index line scene rest _ _ heading here within said =>
      obtain ⟨rfl, rfl⟩ := heading.coherent.still idle
      have more : 0 < scene.stops - line + stopsIn rest := by omega
      rw [decide_eq_true more]
      have bare : utterances player.seen ++ (ahead index line scene rest ++ [conclusion novel]) =
          rundown novel := by
        simpa [announced, awaited?] using said
      -- on to the next line, else to the next scene, else to the end
      cases follows : scene.dialogues[line + 1]? with
      | some dialogue =>
          have less : scene.stops - line + stopsIn rest - 1 =
              scene.stops - (line + 1) + stopsIn rest := by omega
          rw [less]
          exact advance_line heading linear here follows bare
      | none =>
          have last := List.getElem?_eq_none_iff.mp follows
          rw [Scene.stops_sub within last, Nat.add_sub_cancel_left]
          cases rest with
          | nil => exact advance_end heading linear here within last bare
          | cons following rest => exact advance_scene heading linear here last bare
  | done coherent finished said =>
      have refuses : player.advance = (false, player) := by simp [Player.advance, finished]
      rw [refuses]
      exact ⟨rfl, .done coherent finished said⟩

end Along

end VisualNovel.Playback.Player
