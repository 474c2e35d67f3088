import VisualNovel.Json.Value
import VisualNovel.Novel.Problems

/-!
# Novels as data values

The record of a novel with all its fields, and the problems found in it, for hosts
that are told of a novel by data. What a novel leaves open is null.
-/

set_option autoImplicit false

namespace VisualNovel.Novel

open VisualNovel.Json

def wordValue {α : Type} [Vocabulary α] (member : Option α) : Value :=
  .ofText? (member.map word)

def Theme.toValue (theme : Theme) : Value :=
  .object
    [("font_family", wordValue theme.fontFamily), ("font_size", wordValue theme.fontSize)]

def themeValue (theme : Option Theme) : Value :=
  (theme.map Theme.toValue).getD .null

def Sprite.toValue (sprite : Sprite) : Value :=
  .object
    [("id", .text sprite.id), ("name", .text sprite.name), ("image_url", .text sprite.imageUrl)]

def Character.toValue (character : Character) : Value :=
  .object
    [("id", .text character.id), ("name", .text character.name),
      ("color", .text character.color), ("avatar_url", .ofText? character.avatarUrl),
      ("sprites", .list (character.sprites.map Sprite.toValue))]

def Choice.toValue (choice : Choice) : Value :=
  .object
    [("id", .text choice.id), ("text", .text choice.text),
      ("target_scene_id", .text choice.targetSceneId)]

def Dialogue.toValue (dialogue : Dialogue) : Value :=
  .object
    [("id", .text dialogue.id), ("text", .text dialogue.text),
      ("character_id", .ofText? dialogue.characterId),
      ("expression", .ofText? dialogue.expression), ("sprite_id", .ofText? dialogue.spriteId),
      ("voice_url", .ofText? dialogue.voiceUrl), ("sfx_url", .ofText? dialogue.sfxUrl),
      ("text_effect", wordValue dialogue.textEffect),
      ("choices", .list (dialogue.choices.map Choice.toValue))]

def Scene.toValue (scene : Scene) : Value :=
  .object
    [("id", .text scene.id), ("name", .text scene.name),
      ("background_url", .ofText? scene.backgroundUrl), ("bgm_url", .ofText? scene.bgmUrl),
      ("background_size", wordValue scene.backgroundSize),
      ("background_position", wordValue scene.backgroundPosition),
      ("transition", wordValue scene.transition),
      ("theme_override", themeValue scene.themeOverride), ("notes", .ofText? scene.notes),
      ("dialogues", .list (scene.dialogues.map Dialogue.toValue))]

def toValue (novel : Novel) : Value :=
  .object
    [("id", .text novel.id), ("title", .text novel.title),
      ("description", .text novel.description), ("author_id", .ofText? novel.authorId),
      ("cover_url", .ofText? novel.coverUrl), ("genre", .ofTexts novel.genre),
      ("scenes", .list (novel.scenes.map Scene.toValue)),
      ("characters", .list (novel.characters.map Character.toValue)),
      ("likes", .integer novel.likes), ("plays", .integer novel.plays),
      ("published_at", .ofText? novel.publishedAt), ("theme", themeValue novel.theme)]

def Diagnostic.toValue (diagnostic : Diagnostic) : Value :=
  .object
    [("severity", .text diagnostic.severity.word),
      ("message", .text diagnostic.problem.message),
      ("location", .ofText? (diagnostic.place.map fun place => place.path))]

end VisualNovel.Novel
