import VisualNovel.Proofs.Novel.Places
import VisualNovel.Proofs.Playback.Player.Utterance

/-!
# What is said of a novel without menus

The rundown of a novel is what is said of it when it is played from the first scene
to the last: every scene and every line in its order, and at last the end.
-/

set_option autoImplicit false

namespace VisualNovel

namespace Novel

/-- How often a player comes to rest in a scene: on every line, and once if there is none. -/
def Scene.stops (scene : Scene) : Nat :=
  max 1 scene.dialogues.length

def stopsIn : List Scene → Nat
  | [] => 0
  | scene :: rest => scene.stops + stopsIn rest

def stops (novel : Novel) : Nat :=
  stopsIn novel.scenes

def Linear (novel : Novel) : Prop :=
  ∀ scene ∈ novel.scenes, ∀ dialogue ∈ scene.dialogues, dialogue.choices = []

variable {novel : Novel} {scene : Scene} {rest : List Scene} {index line : Nat}

theorem Scene.stops_pos : 0 < scene.stops :=
  Nat.le_max_left 1 _

theorem Scene.lt_stops (within : line < scene.dialogues.length) : line < scene.stops :=
  Nat.lt_of_lt_of_le within (Nat.le_max_right 1 _)

theorem Scene.stops_sub (within : line < scene.stops) (last : scene.dialogues.length ≤ line + 1) :
    scene.stops - line = 1 := by
  unfold stops at within ⊢
  omega

theorem Linear.noMenu (linear : novel.Linear) (place : Int × Int) :
    (novel.menuAt place).isEmpty := by
  unfold menuAt
  cases line : novel.dialogueAt? place.1 place.2 with
  | none => rfl
  | some dialogue =>
      obtain ⟨scene, here, there⟩ := exists_scene_of_dialogueAt? line
      have none := linear scene (List.mem_of_getElem? (getElem?_of_itemAt? here)) dialogue
        (List.mem_of_getElem? (getElem?_of_itemAt? there))
      simp [none]

theorem itemAt?_natCast {α : Type} (items : List α) (index : Nat) :
    itemAt? items index = items[index]? := by
  simp [itemAt?]

theorem sceneAt?_of_drop (here : novel.scenes.drop index = scene :: rest) :
    novel.sceneAt? index = some scene := by
  rw [sceneAt?, itemAt?_natCast, ← List.head?_drop, here]
  rfl

theorem dialogueAt?_of_drop (here : novel.scenes.drop index = scene :: rest) (line : Nat) :
    novel.dialogueAt? index line = scene.dialogues[line]? := by
  unfold dialogueAt? Scene.dialogueAt?
  rw [sceneAt?_of_drop here]
  exact itemAt?_natCast scene.dialogues line

theorem drop_succ (here : novel.scenes.drop index = scene :: rest) :
    novel.scenes.drop (index + 1) = rest := by
  rw [← List.tail_drop, here]
  rfl

end Novel

namespace Playback

open VisualNovel.Novel

def lineEntries (scene line : Int) : List Dialogue → List Event
  | [] => []
  | dialogue :: rest => .dialogueEnter scene line dialogue :: lineEntries scene (line + 1) rest

def sceneEntries (index : Int) : List Scene → List Event
  | [] => []
  | scene :: rest =>
      .sceneEnter index (some scene) :: lineEntries index 0 scene.dialogues ++
        sceneEntries (index + 1) rest

def conclusion (novel : Novel) : Event :=
  .finished (novel.scenes.length - 1) ((novel.scenes.getLast?.map Scene.stops).getD 1 - 1)

def rundown (novel : Novel) : List Event :=
  sceneEntries 0 novel.scenes ++ [conclusion novel]

def ahead (index line : Nat) (scene : Scene) (rest : List Scene) : List Event :=
  lineEntries index (line + 1) (scene.dialogues.drop (line + 1)) ++ sceneEntries (index + 1) rest

variable {novel : Novel} {scene : Scene} {rest : List Scene} {index line : Nat}

theorem entry_ahead (here : novel.scenes.drop index = scene :: rest) :
    entryEvents novel index ++ ahead index 0 scene rest = sceneEntries index (scene :: rest) := by
  have first : novel.dialogueAt? index 0 = scene.dialogues[0]? := dialogueAt?_of_drop here 0
  unfold entryEvents ahead
  rw [sceneEntries, sceneAt?_of_drop here, first]
  cases scene.dialogues with
  | nil => simp [lineEntries]
  | cons dialogue more => simp [lineEntries]

theorem line_ahead {dialogue : Dialogue} (follows : scene.dialogues[line + 1]? = some dialogue) :
    ahead index line scene rest =
      .dialogueEnter index (line + 1) dialogue :: ahead index (line + 1) scene rest := by
  obtain ⟨within, rfl⟩ := List.getElem?_eq_some_iff.mp follows
  unfold ahead
  rw [List.drop_eq_getElem_cons within]
  rfl

theorem scene_ahead (last : scene.dialogues.length ≤ line + 1) :
    ahead index line scene rest = sceneEntries (index + 1) rest := by
  unfold ahead
  rw [List.drop_eq_nil_of_le last]
  rfl

theorem conclusion_eq (here : novel.scenes.drop index = [scene]) :
    conclusion novel = .finished index (scene.stops - 1) := by
  have length := congrArg List.length here
  have last : novel.scenes.getLast? = some scene := by
    rw [← List.take_append_drop index novel.scenes, here]
    simp
  simp only [List.length_drop, List.length_singleton] at length
  unfold conclusion
  rw [last]
  congr 1
  omega

end Playback

end VisualNovel
