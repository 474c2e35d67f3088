import VisualNovel.Json.Coercion
import VisualNovel.Json.Shown
import VisualNovel.Novel.Basic
import VisualNovel.Novel.Place
import VisualNovel.Text.Name

/-!
# Novels from data values

A novel is read from the value of its document. Missing and unusable fields get
their defaults, and texts that hold only white space count as missing. Words
outside the vocabulary are left out with a warning. Only a wrong container, or
something else where an object has to be, is an error.
-/

set_option autoImplicit false

namespace VisualNovel.Novel

open VisualNovel.Json VisualNovel.Text

/-- A defect that makes a document unreadable. -/
inductive Defect where
  | notAnObject (place : Place)
  | notAList (key : String) (place : Place)
  deriving DecidableEq, Repr

def Defect.message : Defect → String
  | .notAnObject _ => "Expected an object"
  | .notAList key _ => s!"'{key}' must be a list"

/-- The place of a defect: of the value itself for an object, of what holds it for a list. -/
def Defect.place : Defect → Place
  | .notAnObject place => place
  | .notAList _ place => place

/-- A word that is not in the vocabulary where it stands. -/
structure UnknownWord where
  title : String
  shown : String
  place : Place
  deriving DecidableEq, Repr

def UnknownWord.message (warning : UnknownWord) : String :=
  s!"Unknown {warning.title} '{warning.shown}' at {warning.place.path}; ignoring"

/-- Reading of a part of a document: it may find a defect, and leaves warnings either way. -/
abbrev Reading := ExceptT Defect (StateM (List UnknownWord))

/-- The text of a field, none if it is missing, null or blank. -/
def textField? (fields : Entries) (key : String) : Option String :=
  match fields.get key with
  | .null => none
  | .text text => if allBlank text then none else some text
  | value => some value.asText

def textField (fields : Entries) (key : String) (default : String) : String :=
  (textField? fields key).getD default

def integerField (fields : Entries) (key : String) : Int :=
  let value := fields.get key
  if value.truthy then value.toInteger.toOption.getD 0 else 0

/-- The text of a line, which is kept as it is even if it is blank. -/
def lineText : Value → String
  | .null => ""
  | value => value.asText

def wordOf (α : Type) [Vocabulary α] (value : Value) (place : Place) : Reading (Option α) :=
  match value with
  | .null => return none
  | .text "" => return none
  | value =>
      match Vocabulary.find? (α := α) (wordForm value.asText) with
      | some member => return some member
      | none => do
          modify fun warnings => warnings ++ [⟨Vocabulary.title α, value.asText, place⟩]
          return none

def fieldsOf (value : Value) (place : Place) : Reading Entries :=
  match value with
  | .object fields => return fields
  | _ => throw (.notAnObject place)

def itemsOf (fields : Entries) (key : String) (place : Place) : Reading (List Value) :=
  match fields.get key with
  | .null => return []
  | .list items => return items
  | _ => throw (.notAList key place)

def readEach {α : Type} (readItem : Nat → Value → Reading α) : Nat → List Value → Reading (List α)
  | _, [] => return []
  | index, item :: items => do
      let first ← readItem index item
      let rest ← readEach readItem (index + 1) items
      return first :: rest

def readTheme (value : Value) (place : Place) : Reading (Option Theme) :=
  match value with
  | .null => return none
  | value => do
      let fields ← fieldsOf value place
      let fontFamily ← wordOf FontFamily (fields.get "fontFamily") place
      let fontSize ← wordOf FontSize (fields.get "fontSize") place
      return some ⟨fontFamily, fontSize⟩

def readSprite (character sprite : Nat) (value : Value) : Reading Sprite := do
  let fields ← fieldsOf value (.sprite character sprite)
  return {
    id := textField fields "id" s!"sprite-{character}-{sprite}"
    name := textField fields "name" ""
    imageUrl := textField fields "imageUrl" "" }

def readCharacter (character : Nat) (value : Value) : Reading Character := do
  let place := Place.character character
  let fields ← fieldsOf value place
  let sprites ← readEach (readSprite character) 0 (← itemsOf fields "sprites" place)
  return {
    id := textField fields "id" s!"character-{character}"
    name := textField fields "name" ""
    color := textField fields "color" "#ffffff"
    avatarUrl := textField? fields "avatarUrl"
    sprites }

def readChoice (scene dialogue choice : Nat) (value : Value) : Reading Choice := do
  let fields ← fieldsOf value (.choice scene dialogue choice)
  return {
    id := textField fields "id" s!"choice-{scene}-{dialogue}-{choice}"
    text := textField fields "text" ""
    targetSceneId := textField fields "targetSceneId" "" }

/-- Reads the line at a position of a scene. A line without a voice of its own takes the audio
reference that older documents give. -/
def readDialogue (scene dialogue : Nat) (value : Value) : Reading Dialogue := do
  let place := Place.dialogue scene dialogue
  let fields ← fieldsOf value place
  let choices ← readEach (readChoice scene dialogue) 0 (← itemsOf fields "choices" place)
  let textEffect ← wordOf TextEffect (fields.get "textEffect") place
  return {
    id := textField fields "id" s!"dialogue-{scene}-{dialogue}"
    text := lineText (fields.get "text")
    characterId := textField? fields "characterId"
    expression := textField? fields "expression"
    spriteId := textField? fields "spriteId"
    voiceUrl := (textField? fields "voiceUrl").or (textField? fields "audioUrl")
    sfxUrl := textField? fields "sfxUrl"
    textEffect
    choices }

def readScene (scene : Nat) (value : Value) : Reading Scene := do
  let place := Place.scene scene
  let fields ← fieldsOf value place
  let dialogues ← readEach (readDialogue scene) 0 (← itemsOf fields "dialogues" place)
  let backgroundSize ← wordOf BackgroundSize (fields.get "backgroundSize") place
  let backgroundPosition ← wordOf BackgroundPosition (fields.get "backgroundPosition") place
  let transition ← wordOf Transition (fields.get "transition") place
  let themeOverride ← readTheme (fields.get "themeOverride") (.themeOverride scene)
  return {
    id := textField fields "id" s!"scene-{scene}"
    name := textField fields "name" ""
    backgroundUrl := textField? fields "backgroundUrl"
    bgmUrl := textField? fields "bgmUrl"
    backgroundSize
    backgroundPosition
    transition
    themeOverride
    notes := textField? fields "notes"
    dialogues }

/-- The genres of a document: a list of any values, or a single text. -/
def readGenre (value : Value) : Reading (List String) :=
  if value.truthy then
    match value with
    | .text genre => return [genre]
    | .list genres => return genres.map Value.asText
    | _ => throw (.notAList "genre" .document)
  else return []

end Novel

open Novel in
def Novel.read (document : Json.Value) : Reading Novel := do
  let fields ← fieldsOf document .document
  let genre ← readGenre (fields.get "genre")
  let scenes ← readEach readScene 0 (← itemsOf fields "scenes" .document)
  let characters ← readEach readCharacter 0 (← itemsOf fields "characters" .document)
  let theme ← readTheme (fields.get "theme") .theme
  return {
    id := textField fields "id" "novel"
    title := textField fields "title" ""
    description := textField fields "description" ""
    authorId := textField? fields "authorId"
    coverUrl := textField? fields "coverUrl"
    genre
    scenes
    characters
    likes := integerField fields "likes"
    plays := integerField fields "plays"
    publishedAt := textField? fields "publishedAt"
    theme }

/-- The novel of a document value or the first defect, and the warnings up to there. -/
def Novel.ofValue (document : Json.Value) : Except Novel.Defect Novel × List Novel.UnknownWord :=
  (Novel.read document).run.run []

end VisualNovel
