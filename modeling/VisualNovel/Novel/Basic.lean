import VisualNovel.Novel.Vocabulary

/-!
# Novels

A novel is a sequence of scenes, a scene a sequence of dialogues, and a dialogue
one line of text with an optional speaker and a menu of choices. A choice names
the scene it leads to by its identifier; where identifiers repeat, the first
scene counts. An empty identifier names nothing.
-/

set_option autoImplicit false

namespace VisualNovel.Novel

/-- Font settings. A scene may leave either of them to the novel. -/
structure Theme where
  fontFamily : Option FontFamily := none
  fontSize : Option FontSize := none
  deriving DecidableEq, Repr

/-- One picture of a character. -/
structure Sprite where
  id : String
  name : String
  imageUrl : String
  deriving DecidableEq, Repr

/-- Somebody who speaks. -/
structure Character where
  id : String
  name : String
  color : String := "#ffffff"
  avatarUrl : Option String := none
  sprites : List Sprite := []
  deriving DecidableEq, Repr

/-- An entry of a menu. -/
structure Choice where
  id : String
  text : String
  targetSceneId : String
  deriving DecidableEq, Repr

/-- A line of text. Without a character it is the narrator's. -/
structure Dialogue where
  id : String
  text : String := ""
  characterId : Option String := none
  expression : Option String := none
  spriteId : Option String := none
  voiceUrl : Option String := none
  sfxUrl : Option String := none
  textEffect : Option TextEffect := none
  choices : List Choice := []
  deriving DecidableEq, Repr

/-- Lines that are played in front of one background. -/
structure Scene where
  id : String
  name : String := ""
  backgroundUrl : Option String := none
  bgmUrl : Option String := none
  backgroundSize : Option BackgroundSize := none
  backgroundPosition : Option BackgroundPosition := none
  transition : Option Transition := none
  themeOverride : Option Theme := none
  notes : Option String := none
  dialogues : List Dialogue := []
  deriving DecidableEq, Repr

end Novel

structure Novel where
  id : String
  title : String := ""
  description : String := ""
  authorId : Option String := none
  coverUrl : Option String := none
  genre : List String := []
  scenes : List Novel.Scene := []
  characters : List Novel.Character := []
  likes : Int := 0
  plays : Int := 0
  publishedAt : Option String := none
  theme : Option Novel.Theme := none
  deriving DecidableEq, Repr

namespace Novel

def itemAt? {α : Type} (items : List α) (index : Int) : Option α :=
  if 0 ≤ index then items[index.toNat]? else none

/-- An identifier that names something, none for a missing or an empty one. -/
def named? (id : Option String) : Option String :=
  id.filter fun id => !id.isEmpty

def Character.sprite? (character : Character) (spriteId : Option String) : Option Sprite := do
  let id ← named? spriteId
  character.sprites.find? fun sprite => sprite.id == id

def Dialogue.hasChoices (dialogue : Dialogue) : Bool :=
  !dialogue.choices.isEmpty

def Dialogue.choice? (dialogue : Dialogue) (choiceId : String) : Option Choice :=
  dialogue.choices.find? fun choice => choice.id == choiceId

def Scene.dialogueAt? (scene : Scene) (index : Int) : Option Dialogue :=
  itemAt? scene.dialogues index

def sceneAt? (novel : Novel) (index : Int) : Option Scene :=
  itemAt? novel.scenes index

def sceneIndex? (novel : Novel) (sceneId : Option String) : Option Nat := do
  let id ← named? sceneId
  novel.scenes.findIdx? fun scene => scene.id == id

def character? (novel : Novel) (characterId : Option String) : Option Character := do
  let id ← named? characterId
  novel.characters.find? fun character => character.id == id

def dialogueAt? (novel : Novel) (sceneIndex dialogueIndex : Int) : Option Dialogue := do
  (← novel.sceneAt? sceneIndex).dialogueAt? dialogueIndex

def label (novel : Novel) : String :=
  if novel.title.isEmpty then novel.id else novel.title

def Scene.label (scene : Scene) : String :=
  if scene.name.isEmpty then scene.id else scene.name

def Character.label (character : Character) : String :=
  if character.name.isEmpty then character.id else character.name

end VisualNovel.Novel
