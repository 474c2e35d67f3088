import VisualNovel.Console.Transcript

/-!
# Frames presented again

How often a host draws makes no difference to a transcript. Once a frame has been
presented nothing of it is left to be printed or forgotten, whatever it shows, so
presenting it again prints nothing and leaves the transcript as it is.
-/

set_option autoImplicit false

namespace VisualNovel.Console.Transcript

open VisualNovel.Novel VisualNovel.Playback

inductive Call where
  | present (frame : Frame)
  | newLine
  | newScene
  | reset

def call (transcript : Transcript) : Call → Transcript × List String
  | .present frame => transcript.present frame
  | .newLine => (transcript.newLine, [])
  | .newScene => (transcript.newScene, [])
  | .reset => (transcript.reset, [])

def attend : Transcript → List Call → Transcript × List String
  | transcript, [] => (transcript, [])
  | transcript, call :: rest =>
      let (next, lines) := transcript.call call
      let (last, more) := next.attend rest
      (last, lines ++ more)

/-- The same calls, but that frames are presented any number of times on end instead of once. -/
inductive Redraws : List Call → List Call → Prop where
  | nil : Redraws [] []
  | keep {calls more : List Call} (call : Call) :
      Redraws calls more → Redraws (call :: calls) (call :: more)
  | again {calls more : List Call} (frame : Frame) :
      Redraws (.present frame :: calls) more →
      Redraws (.present frame :: calls) (.present frame :: more)

/-- The name of the scene, the line and the menu of a frame are printed as far as they are to
be. -/
structure Told (transcript : Transcript) (frame : Frame) : Prop where
  scene : transcript.scene = some frame.sceneIndex
  line : frame.status = .ready → frame.fullyRevealed = true →
    transcript.line = some (frame.sceneIndex, frame.dialogueIndex)
  menu : frame.showChoices = true →
    transcript.menu = some (frame.sceneIndex, frame.dialogueIndex)

variable {transcript : Transcript} {frame : Frame} {calls more : List Call}

def presentPlace (transcript : Transcript) (frame : Frame) : Transcript × List String :=
  let (transcript, title) := transcript.presentScene frame
  let (transcript, line) := transcript.presentLine frame
  let (transcript, menu) := transcript.presentMenu frame
  (transcript, title ++ line ++ menu)

private theorem scene_presentScene (transcript : Transcript) (frame : Frame) :
    (transcript.presentScene frame).1.scene = some frame.sceneIndex := by
  unfold presentScene
  split
  · next same => exact same
  · rfl

private theorem ended_presentScene (transcript : Transcript) (frame : Frame) :
    (transcript.presentScene frame).1.ended = transcript.ended := by
  unfold presentScene
  split <;> rfl

private theorem presentLine_line (transcript : Transcript) {frame : Frame}
    (ready : frame.status = .ready)
    (revealed : frame.fullyRevealed = true) :
    (transcript.presentLine frame).1.line = some (frame.sceneIndex, frame.dialogueIndex) := by
  unfold presentLine
  by_cases printed : transcript.line = some (frame.sceneIndex, frame.dialogueIndex)
  · simp [printed]
  · simp [ready, revealed, printed]

private theorem presentLine_rest (transcript : Transcript) (frame : Frame) :
    (transcript.presentLine frame).1.scene = transcript.scene ∧
      (transcript.presentLine frame).1.ended = transcript.ended := by
  unfold presentLine
  dsimp only
  split <;> exact ⟨rfl, rfl⟩

private theorem presentMenu_menu (transcript : Transcript) {frame : Frame}
    (shown : frame.showChoices = true) :
    (transcript.presentMenu frame).1.menu = some (frame.sceneIndex, frame.dialogueIndex) := by
  unfold presentMenu
  by_cases printed : transcript.menu = some (frame.sceneIndex, frame.dialogueIndex)
  · simp [printed]
  · simp [shown, printed]

private theorem presentMenu_rest (transcript : Transcript) (frame : Frame) :
    (transcript.presentMenu frame).1.scene = transcript.scene ∧
      (transcript.presentMenu frame).1.line = transcript.line ∧
      (transcript.presentMenu frame).1.ended = transcript.ended := by
  unfold presentMenu
  dsimp only
  split <;> exact ⟨rfl, rfl, rfl⟩

private theorem told_presentPlace (transcript : Transcript) (frame : Frame) :
    (transcript.presentPlace frame).1.Told frame ∧
      (transcript.presentPlace frame).1.ended = transcript.ended := by
  unfold presentPlace
  dsimp only
  obtain ⟨scene, line, ended⟩ := presentMenu_rest
    ((transcript.presentScene frame).1.presentLine frame).1 frame
  obtain ⟨sceneToo, endedToo⟩ := presentLine_rest (transcript.presentScene frame).1 frame
  refine ⟨⟨?_, ?_, presentMenu_menu _⟩, ?_⟩
  · rw [scene, sceneToo, scene_presentScene]
  · intro ready revealed
    rw [line, presentLine_line _ ready revealed]
  · rw [ended, endedToo, ended_presentScene]

/-- Of a frame that is told no part is printed again. -/
theorem Told.presentPlace (told : transcript.Told frame) :
    transcript.presentPlace frame = (transcript, []) := by
  have scene : transcript.presentScene frame = (transcript, []) := if_pos told.scene
  have line : transcript.presentLine frame = (transcript, []) :=
    if_neg fun ⟨ready, revealed, other⟩ => other (told.line ready revealed)
  have menu : transcript.presentMenu frame = (transcript, []) :=
    if_neg fun ⟨shown, other⟩ => other (told.menu shown)
  unfold Transcript.presentPlace
  rw [scene]
  dsimp only
  rw [line]
  dsimp only
  rw [menu]
  rfl

/-- What comes of a frame that shows a place: after the end everything begins anew. -/
theorem present_eq_of_renderable (transcript : Transcript) (renderable : frame.renderable = true) :
    transcript.present frame =
      let begun := if transcript.ended then transcript.reset else transcript
      if frame.transitionStyle.isSome then (begun.newScene, []) else begun.presentPlace frame := by
  unfold present
  cases status : frame.status with
  | noScene | finished => simp [Frame.renderable, status] at renderable
  | ready | noDialogue => rfl

private theorem ended_begun (transcript : Transcript) :
    (if transcript.ended then transcript.reset else transcript).ended = false := by
  cases ended : transcript.ended
  · exact ended
  · rfl

/-- All that is to be printed of a frame is printed, and what it makes one forget is forgotten. -/
inductive Settled (transcript : Transcript) (frame : Frame) : Prop where
  | noScene : frame.status = .noScene → transcript.scene.isSome = true → Settled transcript frame
  | finished : frame.status = .finished → transcript.ended = true → Settled transcript frame
  | passing : frame.renderable = true → frame.transitionStyle.isSome = true →
      transcript.ended = false → transcript.newScene = transcript → Settled transcript frame
  | told : frame.renderable = true → frame.transitionStyle.isSome = false →
      transcript.ended = false → transcript.Told frame → Settled transcript frame

private theorem settled_present (transcript : Transcript) (frame : Frame) :
    (transcript.present frame).1.Settled frame := by
  by_cases renderable : frame.renderable = true
  · rw [present_eq_of_renderable transcript renderable]
    dsimp only
    cases passing : frame.transitionStyle.isSome with
    | true => exact .passing renderable passing (ended_begun transcript) rfl
    | false =>
        obtain ⟨told, ended⟩ := told_presentPlace
          (if transcript.ended then transcript.reset else transcript) frame
        exact .told renderable passing (ended.trans (ended_begun transcript)) told
  · unfold present
    cases status : frame.status with
    | ready | noDialogue => simp [Frame.renderable, status] at renderable
    | noScene =>
        refine .noScene status ?_
        cases printed : transcript.scene <;> simp [printed]
    | finished =>
        refine .finished status ?_
        cases ended : transcript.ended <;> simp [ended]

/-- A frame of which nothing is left to be printed changes nothing. -/
theorem Settled.present (settled : transcript.Settled frame) :
    transcript.present frame = (transcript, []) := by
  cases settled with
  | noScene status printed =>
      unfold Transcript.present
      rw [status]
      exact if_neg (by simp [Option.isSome_iff_ne_none.mp printed])
  | finished status ended =>
      unfold Transcript.present
      rw [status]
      exact if_pos ended
  | passing renderable passing unended forgotten =>
      rw [present_eq_of_renderable transcript renderable]
      simp [unended, passing, forgotten]
  | told renderable passing unended told =>
      rw [present_eq_of_renderable transcript renderable]
      simp [unended, passing, told.presentPlace]

private theorem present_present (transcript : Transcript) (frame : Frame) :
    (transcript.present frame).1.present frame = ((transcript.present frame).1, []) :=
  (settled_present transcript frame).present

theorem attend_cons (transcript : Transcript) (call : Call) (rest : List Call) :
    transcript.attend (call :: rest) =
      (((transcript.call call).1.attend rest).1,
        (transcript.call call).2 ++ ((transcript.call call).1.attend rest).2) := rfl

/-- A frame that is presented twice on end is presented once as far as one can see. -/
theorem attend_present_present (transcript : Transcript) (frame : Frame) (rest : List Call) :
    transcript.attend (.present frame :: .present frame :: rest) =
      transcript.attend (.present frame :: rest) := by
  rw [attend_cons, attend_cons, attend_cons]
  simp only [call, present_present, List.nil_append]

private theorem Redraws.attend_eq (redraws : Redraws calls more) (transcript : Transcript) :
    transcript.attend more = transcript.attend calls := by
  induction redraws generalizing transcript with
  | nil => rfl
  | keep call _ hypothesis => rw [attend_cons, attend_cons, hypothesis]
  | again frame _ hypothesis =>
      rw [attend_cons, hypothesis, ← attend_cons, attend_present_present]

/-- A frame that is presented again at once prints nothing and changes nothing, and however often
frames are presented, all that is printed and what is left is the same. -/
theorem redraws_unseen (transcript : Transcript) :
    (∀ frame, (transcript.present frame).1.present frame = ((transcript.present frame).1, [])) ∧
      ∀ calls more, Redraws calls more → transcript.attend more = transcript.attend calls :=
  ⟨present_present transcript, fun _ _ redraws => redraws.attend_eq transcript⟩

def scenery : Frame × Frame × Frame :=
  let menu : Frame :=
    { status := .ready, sceneName := "Quay", text := "Whither?", revealed := 8,
      choices := [{ id := "go", text := "Ferry", targetSceneId := "ferry" }], showChoices := true }
  (menu, { menu with showChoices := false, transitionStyle := some .fade },
    { status := .finished, finished := true })

theorem redraws_unseen_scenery :
    let (menu, passing, ending) := scenery
    let calls : List Call :=
      [.present menu, .newLine, .present menu, .present passing, .present menu, .present ending]
    let more : List Call :=
      [.present menu, .present menu, .present menu, .newLine, .present menu, .present passing,
        .present passing, .present menu, .present menu, .present ending, .present ending]
    Redraws calls more ∧ attend {} more = attend {} calls ∧
      (attend {} more).2 = ["== Quay ==", "Narrator: Whither?", "  1. Ferry", "Narrator: Whither?",
        "  1. Ferry", "== Quay ==", "Narrator: Whither?", "  1. Ferry", "The End"] := by
  have redraws : Redraws _ _ :=
    .again scenery.1 <| .again scenery.1 <| .keep (.present scenery.1) <| .keep .newLine <|
      .keep (.present scenery.1) <| .again scenery.2.1 <| .keep (.present scenery.2.1) <|
      .again scenery.1 <| .keep (.present scenery.1) <| .again scenery.2.2 <|
      .keep (.present scenery.2.2) .nil
  have same := (redraws_unseen {}).2 _ _ redraws
  exact ⟨redraws, same, same ▸ by decide +kernel⟩

end VisualNovel.Console.Transcript
