import VisualNovel.Console.Transcript
import VisualNovel.Proofs.Novel.Places
import VisualNovel.Proofs.Playback.Progress

/-!
# What is printed at a place

What is printed of a walk through a novel is known from the novel alone. A
transcript that is about to print everything of a place prints just that, once the
frame of the place is presented to it.
-/

set_option autoImplicit false

namespace VisualNovel.Console

open VisualNovel.Novel VisualNovel.Playback

def spoken (novel : Novel) (dialogue : Dialogue) : String :=
  let character := novel.character? dialogue.characterId
  let expression := if character.isSome then dialogue.expression else none
  let tags :=
    ([expression, dialogue.textEffect.map word].filterMap id).filter (!·.isEmpty)
  let manner := if tags.isEmpty then "" else " [" ++ " ".intercalate tags ++ "]"
  (character.map (·.name)).getD narrator.name ++ manner ++ ": " ++ dialogue.text

def numbered (choices : List Choice) : List String :=
  choices.mapIdx fun index choice => "  " ++ toString (index + 1) ++ ". " ++ choice.text

/-- What is printed at a place: the name of the scene where it begins, the line, and the menu. -/
def shownAt (novel : Novel) (place : Int × Int) : List String :=
  (if place.2 = 0 then
    ((novel.sceneAt? place.1).map fun scene => "== " ++ scene.label ++ " ==").toList
  else []) ++
    ((novel.dialogueAt? place.1 place.2).map (spoken novel)).toList ++
    numbered (novel.menuAt place)

def endingLines : Ending → List String
  | .past => ["The End"]
  | .stuck => ["(no choice leads anywhere; stopping)"]
  | .spent => []

def walkLines (novel : Novel) (walk : Walk) : List String :=
  walk.places.flatMap (shownAt novel) ++ endingLines walk.ending

/-- No line that is printed at a place is taken for one that is printed at the end of a walk. -/
theorem not_mem_endingLines {novel : Novel} {place : Int × Int} {text : String}
    (shown : text ∈ shownAt novel place) (ending : Ending) :
    text ∉ endingLines ending := by
  have marked :
      text.toList.head? = some '=' ∨ ':' ∈ text.toList ∨ text.toList.head? = some ' ' := by
    unfold shownAt at shown
    simp only [List.mem_append, Option.mem_toList, Option.map_eq_some_iff] at shown
    rcases shown with (title | ⟨dialogue, _, rfl⟩) | menu
    · split at title
      · obtain ⟨scene, _, rfl⟩ := by simpa using title
        left
        simp
      · contradiction
    · right
      left
      simp [spoken]
    · right
      right
      obtain ⟨index, _, rfl⟩ := List.mem_mapIdx.mp menu
      simp only [String.toList_append, List.append_assoc]
      rfl
  intro closing
  cases ending with
  | past =>
      obtain rfl := List.mem_singleton.mp closing
      exact absurd marked (by decide)
  | stuck =>
      obtain rfl := List.mem_singleton.mp closing
      exact absurd marked (by decide)
  | spent => contradiction

/-- The last line that is printed of a walk tells how it ended. -/
theorem getLast?_walkLines (novel : Novel) {text : String} {walk : Walk} {ending : Ending}
    (closing : text ∈ endingLines ending) :
    (walkLines novel walk).getLast? = some text ↔ walk.ending = ending := by
  have once : endingLines ending = [text] := by
    cases ending with
    | past | stuck => rw [List.mem_singleton.mp closing]; rfl
    | spent => contradiction
  constructor
  · intro last
    unfold walkLines at last
    cases closes : walk.ending with
    | spent =>
        rw [closes, endingLines, List.append_nil] at last
        obtain ⟨place, _, shown⟩ := List.mem_flatMap.mp (List.mem_of_getLast? last)
        exact absurd closing (not_mem_endingLines shown ending)
    | past | stuck =>
        rw [closes, endingLines, List.getLast?_concat, Option.some.injEq] at last
        subst last
        cases ending <;> first | rfl | simp [endingLines] at closing
  · intro same
    rw [walkLines, same, once, List.getLast?_concat]

/-! ## Presenting a place -/

theorem Transcript.menuLines_eq_numbered (choices : List Choice) :
    Transcript.menuLines choices = numbered choices := by
  rw [numbered, List.mapIdx_eq_zipIdx_map]
  rfl

structure Transcript.Ready (transcript : Transcript) (place : Int × Int) : Prop where
  line : transcript.line = none
  menu : transcript.menu = none
  scene : transcript.scene = if place.2 = 0 then none else some place.1
  ended : transcript.ended = false

theorem Transcript.Ready.presentScene {transcript : Transcript} {frame : Frame}
    (ready : transcript.Ready (frame.sceneIndex, frame.dialogueIndex)) :
    transcript.presentScene frame = ({ transcript with scene := some frame.sceneIndex },
      if frame.dialogueIndex = 0 then ["== " ++ sceneTitle frame ++ " =="] else []) := by
  have scene := ready.scene
  unfold Transcript.presentScene
  by_cases beginning : frame.dialogueIndex = 0
  · rw [if_pos beginning] at scene
    rw [if_neg (by simp [scene]), if_pos beginning]
  · rw [if_neg beginning] at scene
    rw [if_pos scene, if_neg beginning, ← scene]

/-- A frame at a new place is printed with the name of the scene where it begins, the line, and the
menu that is open. -/
theorem Transcript.Ready.present {transcript : Transcript} {frame : Frame}
    (ready : transcript.Ready (frame.sceneIndex, frame.dialogueIndex))
    (renderable : frame.renderable = true) (still : frame.transitionStyle = none) :
    ∃ after, transcript.present frame =
        (after, (if frame.dialogueIndex = 0 then ["== " ++ sceneTitle frame ++ " =="] else []) ++
          (if frame.status = .ready ∧ frame.fullyRevealed then [lineText frame] else []) ++
          if frame.showChoices then menuLines frame.choices else []) ∧
      after.scene = some frame.sceneIndex ∧ after.ended = false := by
  have title := ready.presentScene
  have shows : transcript.present frame =
      let titled := transcript.presentScene frame
      let lined := titled.1.presentLine frame
      let menued := lined.1.presentMenu frame
      (menued.1, titled.2 ++ lined.2 ++ menued.2) := by
    unfold Transcript.present
    cases status : frame.status with
    | noScene | finished => simp [Frame.renderable, status] at renderable
    | ready | noDialogue => simp [ready.ended, still]
  rw [shows, title]
  dsimp only
  unfold Transcript.presentLine Transcript.presentMenu
  simp only [ready.line]
  by_cases line : frame.status = .ready ∧ frame.fullyRevealed <;>
    by_cases menu : frame.showChoices <;> simp [line, menu, ready.menu, ready.ended]

/-! ## The frame of a place -/

section

variable {novel : Novel} {position : Position} {scene : Scene} {dialogue : Dialogue}

private theorem index_compose (novel : Novel) (position : Position) (muted : Bool) :
    ((compose novel position muted).sceneIndex, (compose novel position muted).dialogueIndex) =
      position.place := by
  have resolved : ((resolve novel position.scene position.dialogue).sceneIndex,
      (resolve novel position.scene position.dialogue).dialogueIndex) = position.place := by
    unfold resolve
    split
    · rfl
    · dsimp only
      split <;> rfl
  rw [← resolved]
  unfold compose
  dsimp only
  split <;> rfl

private theorem sceneTitle_compose (found : position.scene? novel = some scene) (muted : Bool) :
    Transcript.sceneTitle (compose novel position muted) = scene.label := by
  have resolved : Transcript.sceneTitle (resolve novel position.scene position.dialogue) =
      scene.label := by
    unfold Position.scene? at found
    unfold resolve
    rw [found]
    dsimp only
    split <;> rfl
  rw [← resolved]
  unfold compose
  dsimp only
  split <;> rfl

/-- While the playback goes on, a frame in a scene is ready just where there is a line. -/
theorem status_compose (found : position.scene? novel = some scene)
    (unfinished : position.finished = false) (muted : Bool) :
    (compose novel position muted).status =
      if (position.dialogue? novel).isSome then .ready else .noDialogue := by
  have resolved : (compose novel position muted).status =
      (resolve novel position.scene position.dialogue).status := by
    unfold compose
    rw [unfinished]
    rfl
  unfold Position.scene? at found
  have line : position.dialogue? novel = scene.dialogueAt? position.dialogue := by
    simp [Position.dialogue?, dialogueAt?, found]
  rw [resolved, line]
  unfold resolve
  rw [found]
  dsimp only
  cases scene.dialogueAt? position.dialogue <;> rfl

private theorem transitionStyle_compose (novel : Novel) (unfinished : position.finished = false)
    (still : position.transitioning = false) (muted : Bool) :
    (compose novel position muted).transitionStyle = none := by
  unfold compose
  rw [unfinished, still]
  rfl

private theorem lineText_compose (found : position.dialogue? novel = some dialogue) (muted : Bool) :
    Transcript.lineText (compose novel position muted) = spoken novel dialogue := by
  obtain ⟨scene, here, there⟩ := exists_scene_of_dialogueAt? found
  have same : Transcript.lineText (compose novel position muted) =
      Transcript.lineText (resolve novel position.scene position.dialogue) := by
    unfold compose
    dsimp only
    split <;> rfl
  rw [same]
  simp only [resolve, here, there]
  unfold Transcript.lineText spoken speakerOf
  cases novel.character? dialogue.characterId <;> rfl

private theorem fullyRevealed_compose (found : position.dialogue? novel = some dialogue)
    (unfinished : position.finished = false)
    (revealed : position.revealed = dialogue.text.length) (muted : Bool) :
    (compose novel position muted).fullyRevealed = true := by
  obtain ⟨scene, here, there⟩ := exists_scene_of_dialogueAt? found
  unfold Frame.fullyRevealed compose resolve
  simp only [here, there, unfinished]
  simp [revealed]

theorem menu_compose (unfinished : position.finished = false)
    (still : position.transitioning = false)
    (revealed : ∀ dialogue, position.dialogue? novel = some dialogue →
      position.revealed = dialogue.text.length) (muted : Bool) :
    (compose novel position muted).showChoices = !(novel.menuAt position.place).isEmpty ∧
      ((compose novel position muted).showChoices = true →
        (compose novel position muted).choices = novel.menuAt position.place) := by
  have line : novel.dialogueAt? position.place.1 position.place.2 = position.dialogue? novel := rfl
  rw [showChoices_compose, unfinished, still, menuAt, line]
  cases found : position.dialogue? novel with
  | none => simp
  | some dialogue =>
      refine ⟨?_, fun _ => choices_compose found muted⟩
      simp [revealed dialogue found, Dialogue.hasChoices]

/-- Where the line is wholly revealed, exactly what belongs to the place is printed. -/
theorem Transcript.Ready.present_compose {transcript : Transcript}
    (ready : transcript.Ready position.place) (unfinished : position.finished = false)
    (still : position.transitioning = false) (found : position.scene? novel = some scene)
    (revealed : ∀ dialogue, position.dialogue? novel = some dialogue →
      position.revealed = dialogue.text.length) (muted : Bool) :
    ∃ after, transcript.present (compose novel position muted) =
        (after, shownAt novel position.place) ∧
      after.scene = some position.scene ∧ after.ended = false := by
  have index := index_compose novel position muted
  have status := status_compose found unfinished muted
  obtain ⟨shows, choices⟩ := menu_compose unfinished still revealed muted
  have renderable : (compose novel position muted).renderable = true := by
    unfold Frame.renderable
    rw [status]
    split <;> rfl
  rw [← index] at ready
  obtain ⟨after, presents, entered, unended⟩ :=
    ready.present renderable (transitionStyle_compose novel unfinished still muted)
  obtain ⟨here, there⟩ := Prod.mk.inj index
  refine ⟨after, ?_, entered.trans (congrArg some here), unended⟩
  have line : (if (compose novel position muted).status = .ready ∧
        (compose novel position muted).fullyRevealed then
          [lineText (compose novel position muted)] else []) =
      ((novel.dialogueAt? position.place.1 position.place.2).map (spoken novel)).toList := by
    have same : novel.dialogueAt? position.place.1 position.place.2 =
        position.dialogue? novel := rfl
    rw [status, same]
    cases line : position.dialogue? novel with
    | none => rfl
    | some dialogue =>
        rw [lineText_compose line,
          fullyRevealed_compose line unfinished (revealed dialogue line)]
        rfl
  have menu : (if (compose novel position muted).showChoices then
      menuLines (compose novel position muted).choices else []) =
        numbered (novel.menuAt position.place) := by
    split
    · next open_menu => rw [choices open_menu, menuLines_eq_numbered]
    · next closed_menu =>
        rw [shows] at closed_menu
        have empty : novel.menuAt position.place = [] := by simpa using closed_menu
        rw [empty]
        rfl
  have scene : novel.sceneAt? position.place.1 = some scene := found
  rw [presents, there, sceneTitle_compose found, line, menu]
  unfold shownAt
  rw [scene]
  rfl

end

end VisualNovel.Console
