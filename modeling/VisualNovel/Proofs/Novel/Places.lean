import Mathlib.Data.List.Nodup
import VisualNovel.Novel.Basic

/-!
# Places in a novel

Which indices are places in a novel. An index that stands for an identifier is one.
-/

set_option autoImplicit false

namespace VisualNovel.Novel

theorem exists_itemAt? {α : Type} {items : List α} {index : Int} :
    (∃ item, itemAt? items index = some item) ↔ 0 ≤ index ∧ index < items.length := by
  unfold itemAt?
  constructor
  · rintro ⟨item, found⟩
    split at found
    · next within =>
        obtain ⟨short, _⟩ := List.getElem?_eq_some_iff.mp found
        omega
    · contradiction
  · rintro ⟨within, short⟩
    rw [if_pos within]
    have bound : index.toNat < items.length := by omega
    exact ⟨items[index.toNat], List.getElem?_eq_getElem bound⟩

theorem getElem?_of_itemAt? {α : Type} {items : List α} {index : Int} {item : α}
    (found : itemAt? items index = some item) : items[index.toNat]? = some item := by
  unfold itemAt? at found
  split at found
  · exact found
  · contradiction

theorem exists_sceneAt? {novel : Novel} {index : Int} :
    (∃ scene, novel.sceneAt? index = some scene) ↔ 0 ≤ index ∧ index < novel.scenes.length :=
  exists_itemAt?

theorem sceneAt?_of_sceneIndex? {novel : Novel} {sceneId : Option String} {target : Nat}
    (found : novel.sceneIndex? sceneId = some target) :
    ∃ scene, novel.sceneAt? target = some scene := by
  unfold sceneIndex? at found
  cases named : named? sceneId with
  | none => simp [named] at found
  | some id =>
      simp only [named, Option.bind_eq_bind, Option.bind_some] at found
      obtain ⟨within, _⟩ := List.findIdx?_eq_some_iff_getElem.mp found
      exact exists_sceneAt?.mpr (by omega)

theorem exists_scene_of_dialogueAt? {novel : Novel} {sceneIndex dialogueIndex : Int}
    {dialogue : Dialogue} (found : novel.dialogueAt? sceneIndex dialogueIndex = some dialogue) :
    ∃ scene, novel.sceneAt? sceneIndex = some scene ∧
      scene.dialogueAt? dialogueIndex = some dialogue :=
  Option.bind_eq_some_iff.mp found

/-!
## Walking through a novel

A walk through a novel knows nothing of players and clocks: from each place it goes
on to the next line, from the last line of a scene to the next scene, and from a
menu to the scene of the first entry that leads anywhere.
-/

def menuAt (novel : Novel) (place : Int × Int) : List Choice :=
  ((novel.dialogueAt? place.1 place.2).map Dialogue.choices).getD []

/-- The scene that the first entry of a menu leads to of those that lead anywhere. -/
def firstTarget? (novel : Novel) (choices : List Choice) : Option Nat :=
  choices.findSome? fun choice => novel.sceneIndex? choice.targetSceneId

theorem firstTarget?_eq (novel : Novel) (choices : List Choice) :
    novel.firstTarget? choices =
      (choices.find? fun choice => (novel.sceneIndex? choice.targetSceneId).isSome).bind
        fun choice => novel.sceneIndex? choice.targetSceneId := by
  unfold firstTarget?
  induction choices with
  | nil => rfl
  | cons choice rest hypothesis =>
      cases led : novel.sceneIndex? choice.targetSceneId with
      | none => simp [led, hypothesis]
      | some target => simp [led]

inductive Way where
  | next (place : Int × Int)
  /-- Past the last line of the last scene. -/
  | past
  /-- Nowhere, since no entry of the menu leads anywhere. -/
  | stuck
  deriving DecidableEq, Repr

def onward (novel : Novel) (place : Int × Int) : Way :=
  if (novel.menuAt place).isEmpty then
    if (novel.dialogueAt? place.1 (place.2 + 1)).isSome then .next (place.1, place.2 + 1)
    else if (novel.sceneAt? (place.1 + 1)).isSome then .next (place.1 + 1, 0)
    else .past
  else
    match novel.firstTarget? (novel.menuAt place) with
    | none => .stuck
    | some target => .next (target, 0)

inductive Ending where
  | past
  | stuck
  /-- The walk has taken all its steps. -/
  | spent
  deriving DecidableEq, Repr

/-- The places that a walk visits, and how it ends. -/
structure Walk where
  places : List (Int × Int)
  ending : Ending
  deriving DecidableEq, Repr

def walk (novel : Novel) : Nat → Int × Int → Walk
  | 0, place => ⟨[place], .spent⟩
  | steps + 1, place =>
      match novel.onward place with
      | .past => ⟨[place], .past⟩
      | .stuck => ⟨[place], .stuck⟩
      | .next next =>
          let rest := novel.walk steps next
          ⟨place :: rest.places, rest.ending⟩

/-- No two entries of a menu have the same identifier. -/
def DistinctChoices (novel : Novel) : Prop :=
  ∀ scene ∈ novel.scenes, ∀ dialogue ∈ scene.dialogues, (dialogue.choices.map (·.id)).Nodup

theorem DistinctChoices.choice?_eq {novel : Novel} (distinct : novel.DistinctChoices)
    {place : Int × Int} {dialogue : Dialogue}
    (line : novel.dialogueAt? place.1 place.2 = some dialogue) {choice : Choice}
    (offered : choice ∈ dialogue.choices) : dialogue.choice? choice.id = some choice := by
  obtain ⟨scene, here, there⟩ := exists_scene_of_dialogueAt? line
  have unique := distinct scene (List.mem_of_getElem? (getElem?_of_itemAt? here)) dialogue
    (List.mem_of_getElem? (getElem?_of_itemAt? there))
  obtain ⟨first, found⟩ : ∃ first, dialogue.choice? choice.id = some first :=
    Option.isSome_iff_exists.mp
      (List.find?_isSome.mpr ⟨choice, offered, beq_self_eq_true _⟩)
  have same : first.id = choice.id := by simpa using List.find?_some found
  rw [found, List.inj_on_of_nodup_map unique (List.mem_of_find?_eq_some found) offered same]

end VisualNovel.Novel
