import VisualNovel.Playback.Position

/-!
# Frames

A frame is everything that a host needs to show one instant of a playback. It is
resolved from the document for a position, with the whole text revealed, and the
state of the playback is then laid over it. A position outside the document gives
a frame that says so.
-/

set_option autoImplicit false

namespace VisualNovel.Playback

open VisualNovel.Novel

/-- What a frame shows. -/
inductive Status where
  | ready
  | noScene
  | noDialogue
  | finished
  deriving DecidableEq, Repr

def Status.word : Status → String
  | .ready => "ready"
  | .noScene => "no_scene"
  | .noDialogue => "no_dialogue"
  | .finished => "finished"

structure Speaker where
  name : String
  color : String
  characterId : Option String
  deriving DecidableEq, Repr

def Speaker.isNarrator (speaker : Speaker) : Bool :=
  speaker.characterId.isNone

/-- The speaker of lines without a character. -/
def narrator : Speaker := ⟨"Narrator", "#64748b", none⟩

structure BackgroundStyle where
  imageUrl : Option String
  size : String
  position : String
  deriving DecidableEq, Repr

structure FullTheme where
  fontFamily : FontFamily := .sans
  fontSize : FontSize := .medium
  deriving DecidableEq, Repr

/-- One instant of a playback, ready to be shown. -/
structure Frame where
  status : Status
  sceneIndex : Int := 0
  dialogueIndex : Int := 0
  novelTitle : String := ""
  sceneId : Option String := none
  sceneName : String := ""
  background : Option BackgroundStyle := none
  speaker : Speaker := narrator
  spriteUrl : Option String := none
  expression : Option String := none
  text : String := ""
  revealed : Int := 0
  textEffect : Option TextEffect := none
  theme : FullTheme := {}
  choices : List Choice := []
  showChoices : Bool := false
  transitionVisible : Bool := false
  transitionStyle : Option Transition := none
  finished : Bool := false
  muted : Bool := false
  deriving DecidableEq, Repr

def Frame.visibleText (frame : Frame) : String :=
  String.ofList (frame.text.toList.take frame.revealed.toNat)

def Frame.fullyRevealed (frame : Frame) : Bool :=
  decide ((frame.text.length : Int) ≤ frame.revealed)

def Frame.renderable (frame : Frame) : Bool :=
  frame.status == .ready || frame.status == .noDialogue

/-- The theme of a scene: its own settings, then the novel's, then the defaults. -/
def mergeThemes (novelTheme sceneTheme : Option Theme) : FullTheme where
  fontFamily := ((sceneTheme.bind (·.fontFamily)).or (novelTheme.bind (·.fontFamily))).getD .sans
  fontSize := ((sceneTheme.bind (·.fontSize)).or (novelTheme.bind (·.fontSize))).getD .medium

/-- How a scene's background is drawn. Stretching has no word of its own: it is the full size in
both directions. -/
def backgroundStyle (scene : Scene) : BackgroundStyle where
  imageUrl := scene.backgroundUrl
  size :=
    match scene.backgroundSize with
    | some .stretch => "100% 100%"
    | some size => word size
    | none => word BackgroundSize.cover
  position := word (scene.backgroundPosition.getD .center)

/-- The speaker of a line. A character that the novel does not have is the narrator. -/
def speakerOf : Option Character → Speaker
  | none => narrator
  | some character => ⟨character.name, character.color, some character.id⟩

/-- The picture of a character for a line: the sprite that the line names if it has an image,
otherwise the character's own picture. -/
def spriteUrlOf (character : Option Character) (dialogue : Dialogue) : Option String := do
  let character ← character
  let sprite := (character.sprite? dialogue.spriteId).bind fun sprite => named? sprite.imageUrl
  sprite.or (named? character.avatarUrl)

/-- The frame for a position of the document, with the whole text revealed. -/
def resolve (novel : Novel) (sceneIndex dialogueIndex : Int) : Frame :=
  match novel.sceneAt? sceneIndex with
  | none => { status := .noScene, sceneIndex, dialogueIndex, novelTitle := novel.title }
  | some scene =>
      let base : Frame :=
        { status := .noDialogue, sceneIndex, dialogueIndex, novelTitle := novel.title
          sceneId := some scene.id
          sceneName := scene.name
          background := some (backgroundStyle scene)
          theme := mergeThemes novel.theme scene.themeOverride }
      match scene.dialogueAt? dialogueIndex with
      | none => base
      | some dialogue =>
          let character := novel.character? dialogue.characterId
          { base with
            status := .ready
            speaker := speakerOf character
            spriteUrl := spriteUrlOf character dialogue
            expression := if character.isSome then dialogue.expression else none
            text := dialogue.text
            revealed := dialogue.text.length
            textEffect := dialogue.textEffect
            choices := dialogue.choices
            showChoices := dialogue.hasChoices }

def compose (novel : Novel) (position : Position) (muted : Bool) : Frame :=
  let frame := resolve novel position.scene position.dialogue
  if position.finished then
    { frame with status := .finished, finished := true, showChoices := false, muted }
  else
    let length : Int := frame.text.length
    let revealed := max 0 (min position.revealed length)
    { frame with
      revealed
      showChoices := frame.showChoices && decide (length ≤ revealed) && !position.transitioning
      transitionVisible := position.transitioning && position.style != some .none
      transitionStyle := if position.transitioning then position.style else none
      muted }

end VisualNovel.Playback
