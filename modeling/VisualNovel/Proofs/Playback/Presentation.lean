import VisualNovel.Playback.Frame
import VisualNovel.Proofs.Novel.Identifiers

/-!
# The presentation of a novel without problems

Where the checks of a novel find nothing, every line is shown as it is written: by its
own speaker, and with the sprite it names. What the checks do not look at is whether
that sprite has an image. One that has none is passed over for the picture of the
character.
-/

set_option autoImplicit false

namespace VisualNovel.Novel

open VisualNovel.Json

/-! ## Who is on the screen -/

/-- What is looked up by an identifier is there and has it. -/
theorem mem_of_lookup {α : Type} {key : α → String} {items : List α} {id : String} {item : α}
    (found : ((named? (some id)).bind fun name => items.find? fun item => key item == name) =
      some item) : item ∈ items ∧ key item = id := by
  obtain ⟨name, named, found⟩ := Option.bind_eq_some_iff.mp found
  obtain ⟨same, -⟩ := Option.filter_eq_some_iff.mp named
  cases same
  exact ⟨List.mem_of_find?_eq_some found, by simpa using List.find?_some found⟩

private theorem character?_eq_some {novel : Novel} {id : String} {character : Character}
    (found : novel.character? (some id) = some character) :
    character ∈ novel.characters ∧ character.id = id :=
  mem_of_lookup found

private theorem sprite?_eq_some {character : Character} {id : String} {sprite : Sprite}
    (found : character.sprite? (some id) = some sprite) :
    sprite ∈ character.sprites ∧ sprite.id = id :=
  mem_of_lookup found

def Dialogue.Cast (dialogue : Dialogue) : Prop :=
  named? dialogue.characterId = dialogue.characterId ∧
    named? dialogue.spriteId = dialogue.spriteId

private theorem yields_readDialogue_cast (scene index : Nat) (value : Value) :
    Yields (readDialogue scene index value) Dialogue.Cast := by
  unfold readDialogue
  exact .after fun fields => .after fun items => .after fun choices => .after fun effect =>
    yields_pure ⟨named?_textField? fields "characterId", named?_textField? fields "spriteId"⟩

private theorem yields_readScene_cast (index : Nat) (value : Value) :
    Yields (readScene index value) fun scene => ∀ dialogue ∈ scene.dialogues, dialogue.Cast := by
  unfold readScene
  exact .after fun fields => .after fun items =>
    (yields_readEach (yields_readDialogue_cast index) 0 items).bind fun dialogues cast =>
    .after fun size => .after fun position => .after fun transition => .after fun theme =>
    yields_pure cast

section

variable {novel : Novel} {index position : Nat} {line : Dialogue}
  (clean : speakerProblems novel index position line = []) (cast : line.Cast)

include clean cast

/-- Without a problem, a line's speaker is found. -/
theorem exists_character {id : String} (spoken : line.characterId = some id) :
    ∃ character, novel.character? (some id) = some character := by
  have known := (List.append_eq_nil_iff.mp clean).1
  have named := cast.1
  rw [spoken] at named
  refine Option.ne_none_iff_exists'.mp fun lost => ?_
  rw [spoken, named, lost] at known
  exact List.cons_ne_nil _ _ known

/-- Without a problem, a line with a sprite has a speaker, and the sprite is found on it. -/
theorem exists_sprite {id : String} (pictured : line.spriteId = some id) :
    ∃ speaker character sprite, line.characterId = some speaker ∧
      novel.character? (some speaker) = some character ∧
      character.sprite? (some id) = some sprite := by
  have drawn := (List.append_eq_nil_iff.mp clean).2
  have named := cast.2
  rw [pictured] at named
  cases spoken : line.characterId with
  | none =>
      rw [pictured, named, spoken] at drawn
      exact absurd drawn (List.cons_ne_nil _ _)
  | some speaker =>
      obtain ⟨character, found⟩ := exists_character clean cast spoken
      obtain ⟨sprite, shown⟩ : ∃ sprite, character.sprite? (some id) = some sprite := by
        refine Option.ne_none_iff_exists'.mp fun lost => ?_
        rw [pictured, named, spoken, found] at drawn
        simp [lost] at drawn
      exact ⟨speaker, character, sprite, rfl, found, shown⟩

end

end VisualNovel.Novel

namespace VisualNovel.Playback

open VisualNovel.Json VisualNovel.Novel

/-- A frame shows a line as it is written. A sprite that has no image gives way to the picture of
the character. -/
structure Depicts (novel : Novel) (dialogue : Dialogue) (frame : Frame) : Prop where
  ready : frame.status = .ready
  narrated : frame.speaker = narrator ↔ dialogue.characterId = none
  spoken : frame.speaker.characterId = dialogue.characterId
  pictured : ∀ id, dialogue.spriteId = some id →
    ∃ character ∈ novel.characters, dialogue.characterId = some character.id ∧
      ∃ sprite ∈ character.sprites, sprite.id = id ∧ character.sprite? id = some sprite ∧
        (sprite.imageUrl ≠ "" → frame.spriteUrl = some sprite.imageUrl) ∧
        (sprite.imageUrl = "" → frame.spriteUrl = named? character.avatarUrl)

private theorem speakerOf_eq_narrator_iff (character : Option Character) :
    speakerOf character = narrator ↔ (speakerOf character).characterId = none := by
  cases character with
  | none => simp [speakerOf, narrator]
  | some character => simp [speakerOf, narrator]

variable {novel : Novel} {index position : Nat} {scene : Scene} {dialogue : Dialogue}

private theorem characterId_speakerOf (clean : speakerProblems novel index position dialogue = [])
    (cast : dialogue.Cast) :
    (speakerOf (novel.character? dialogue.characterId)).characterId = dialogue.characterId := by
  cases spoken : dialogue.characterId with
  | none => rfl
  | some id =>
      obtain ⟨character, found⟩ := exists_character clean cast spoken
      rw [found]
      exact congrArg some (character?_eq_some found).2

/-- The sprite of a line is shown if it has an image, otherwise the picture of its character. -/
theorem spriteUrlOf_sprite {character : Character} {sprite : Sprite}
    (drawn : character.sprite? dialogue.spriteId = some sprite) :
    (sprite.imageUrl ≠ "" → spriteUrlOf (some character) dialogue = some sprite.imageUrl) ∧
      (sprite.imageUrl = "" →
        spriteUrlOf (some character) dialogue = named? character.avatarUrl) := by
  constructor
  · intro imaged
    simp [spriteUrlOf, drawn, named?, Option.filter, imaged]
  · intro blank
    simp [spriteUrlOf, drawn, named?, Option.filter, blank]

private theorem resolve_line (atScene : novel.scenes[index]? = some scene)
    (atLine : scene.dialogues[position]? = some dialogue) :
    (resolve novel index position).status = .ready ∧
      (resolve novel index position).speaker =
        speakerOf (novel.character? dialogue.characterId) ∧
      (resolve novel index position).spriteUrl =
        spriteUrlOf (novel.character? dialogue.characterId) dialogue := by
  have here : novel.sceneAt? index = some scene := by simp [Novel.sceneAt?, itemAt?, atScene]
  have there : scene.dialogueAt? position = some dialogue := by
    simp [Scene.dialogueAt?, itemAt?, atLine]
  simp [resolve, here, there]

/-- A line without a problem, whose speaker and sprite are not empty, is shown as it is written. -/
theorem depicts_of_clean (atScene : novel.scenes[index]? = some scene)
    (atLine : scene.dialogues[position]? = some dialogue)
    (clean : speakerProblems novel index position dialogue = []) (cast : dialogue.Cast) :
    Depicts novel dialogue (resolve novel index position) := by
  obtain ⟨ready, speaker, sprite⟩ := resolve_line atScene atLine
  have spoken := characterId_speakerOf clean cast
  refine ⟨ready, ?_, by rw [speaker, spoken], fun id pictured => ?_⟩
  · rw [speaker, speakerOf_eq_narrator_iff, spoken]
  · obtain ⟨name, character, shown, spoken, found, drawn⟩ := exists_sprite clean cast pictured
    obtain ⟨present, rfl⟩ := character?_eq_some found
    obtain ⟨worn, same⟩ := sprite?_eq_some drawn
    rw [sprite, spoken, found]
    refine ⟨character, present, rfl, shown, worn, same, drawn, ?_⟩
    exact spriteUrlOf_sprite (pictured ▸ drawn)

/-- In a novel that was read and has no problems, every line is shown as it is written. -/
theorem resolve_of_ofValue {document : Value} (read : (Novel.ofValue document).1 = .ok novel)
    (clean : problems novel = []) (atScene : novel.scenes[index]? = some scene)
    (atLine : scene.dialogues[position]? = some dialogue) :
    Depicts novel dialogue (resolve novel index position) := by
  have cast := scenes_of_ofValue yields_readScene_cast read scene (List.mem_of_getElem? atScene)
    dialogue (List.mem_of_getElem? atLine)
  refine depicts_of_clean atScene atLine ?_ cast
  refine List.eq_nil_iff_forall_not_mem.mpr fun diagnostic member => ?_
  have problem := mem_problems_of_line atScene atLine (List.mem_append_left _ member)
  simp [clean] at problem

namespace Sample

def sitting (sprite : Value) : Value :=
  .object [
    ("scenes", .list [.object [("dialogues", .list [
      .object [("characterId", .text "alice"), ("spriteId", .text "happy")]])]]),
    ("characters", .list [.object [("id", .text "alice"), ("avatarUrl", .text "alice.png"),
      ("sprites", .list [sprite])]])]

def portrayed : Value :=
  sitting (.object [("id", .text "happy"), ("imageUrl", .text "happy.png")])

def faceless : Value :=
  sitting (.object [("id", .text "happy")])

end Sample

theorem resolve_of_ofValue_portrayed : ∃ novel line,
    (Novel.ofValue Sample.portrayed).1 = .ok novel ∧ problems novel = [] ∧
      line.spriteId = some "happy" ∧ Depicts novel line (resolve novel 0 0) := by
  obtain ⟨novel, read⟩ : ∃ novel, (Novel.ofValue Sample.portrayed).1 = .ok novel := ⟨_, rfl⟩
  obtain ⟨clean, scene, line, atScene, atLine, drawn⟩ : problems novel = [] ∧
      ∃ scene line, novel.scenes[0]? = some scene ∧ scene.dialogues[0]? = some line ∧
        line.spriteId = some "happy" := by
    cases read
    exact ⟨by decide +kernel, _, _, rfl, rfl, rfl⟩
  exact ⟨novel, line, read, clean, drawn, resolve_of_ofValue read clean atScene atLine⟩

/-- Nothing is reported of a sprite without an image, and another picture takes its place. -/
theorem avatar_for_sprite_without_image : ∃ novel line,
    (Novel.ofValue Sample.faceless).1 = .ok novel ∧ problems novel = [] ∧
      novel.dialogueAt? 0 0 = some line ∧ line.spriteId = some "happy" ∧
      (resolve novel 0 0).spriteUrl = some "alice.png" ∧
      ∀ character ∈ novel.characters, ∀ sprite ∈ character.sprites, sprite.id = "happy" →
        (resolve novel 0 0).spriteUrl ≠ some sprite.imageUrl := by
  obtain ⟨novel, read⟩ : ∃ novel, (Novel.ofValue Sample.faceless).1 = .ok novel := ⟨_, rfl⟩
  cases read
  exact ⟨_, _, rfl, by decide +kernel, rfl, rfl, by decide +kernel, by decide +kernel⟩

end VisualNovel.Playback
