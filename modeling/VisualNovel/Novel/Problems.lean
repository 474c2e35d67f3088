import VisualNovel.Novel.Basic
import VisualNovel.Novel.Place

/-!
# Problems of a novel

Data defects that playback works around silently: repeated identifiers, scenes
without lines, speakers and sprites that do not exist, and choices that lead
nowhere. Only the last, and a novel without scenes, are errors.
-/

set_option autoImplicit false

namespace VisualNovel.Novel

inductive Severity where
  | error
  | warning
  deriving DecidableEq, Repr

def Severity.word : Severity → String
  | .error => "error"
  | .warning => "warning"

/-- A defect of a novel's data. -/
inductive Problem where
  | noScenes
  | repeatedScene (id : String)
  | repeatedCharacter (id : String)
  | emptyScene (scene : String)
  | repeatedDialogue (id : String)
  | unknownSpeaker (id : String)
  | narratorSprite
  | unknownSprite (id character : String)
  | missingTarget (text target : String)
  deriving DecidableEq, Repr

def Problem.severity : Problem → Severity
  | .noScenes | .missingTarget _ _ => .error
  | _ => .warning

def Problem.message : Problem → String
  | .noScenes => "Novel has no scenes; playback cannot start"
  | .repeatedScene id => s!"Duplicate scene id '{id}'; choices resolve to the first one"
  | .repeatedCharacter id => s!"Duplicate character id '{id}'"
  | .emptyScene scene => s!"Scene '{scene}' has no dialogues"
  | .repeatedDialogue id => s!"Duplicate dialogue id '{id}'"
  | .unknownSpeaker id => s!"Unknown speaker '{id}'; shown as narrator"
  | .narratorSprite => "Sprite set on a narrator line is ignored"
  | .unknownSprite id character =>
      s!"Sprite '{id}' not found on '{character}'; default avatar used"
  | .missingTarget text target => s!"Choice '{text}' targets missing scene '{target}'"

structure Diagnostic where
  problem : Problem
  place : Option Place
  deriving DecidableEq, Repr

abbrev Diagnostic.severity (diagnostic : Diagnostic) : Severity :=
  diagnostic.problem.severity

/-- The identifiers that occur more than once, each one time, in ascending order. -/
def repeated (ids : List String) : List String :=
  (ids.eraseDups.filter fun id => 1 < ids.count id).mergeSort fun left right => left ≤ right

def positioned {α : Type} (items : List α) : List (Nat × α) :=
  items.zipIdx.map fun (item, index) => (index, item)

def choiceProblems (novel : Novel) (scene dialogue : Nat) (line : Dialogue) : List Diagnostic :=
  (positioned line.choices).filterMap fun (index, choice) =>
    if novel.scenes.any fun target => target.id == choice.targetSceneId then none
    else some ⟨.missingTarget choice.text choice.targetSceneId,
      some (.choice scene dialogue index)⟩

def speakerProblems (novel : Novel) (scene dialogue : Nat) (line : Dialogue) : List Diagnostic :=
  let place := some (Place.dialogue scene dialogue)
  let speaker := novel.character? line.characterId
  let unknown :=
    match named? line.characterId, speaker with
    | some id, none => [⟨.unknownSpeaker id, place⟩]
    | _, _ => []
  let sprite :=
    match named? line.spriteId, line.characterId, speaker with
    | some _, none, _ => [⟨.narratorSprite, place⟩]
    | some id, some _, some character =>
        if (character.sprite? line.spriteId).isNone then
          [⟨.unknownSprite id character.label, place⟩]
        else []
    | _, _, _ => []
  unknown ++ sprite

def sceneProblems (novel : Novel) (index : Nat) (scene : Scene) : List Diagnostic :=
  let place := some (Place.scene index)
  (if scene.dialogues.isEmpty then [⟨.emptyScene scene.label, place⟩] else []) ++
    (repeated (scene.dialogues.map (·.id))).map (fun id => ⟨.repeatedDialogue id, place⟩) ++
    (positioned scene.dialogues).flatMap fun (position, line) =>
      speakerProblems novel index position line ++ choiceProblems novel index position line

/-- The problems of a novel, in the order of the document. -/
def problems (novel : Novel) : List Diagnostic :=
  if novel.scenes.isEmpty then [⟨.noScenes, none⟩]
  else
    (repeated (novel.scenes.map (·.id))).map (fun id => ⟨.repeatedScene id, none⟩) ++
      (repeated (novel.characters.map (·.id))).map (fun id => ⟨.repeatedCharacter id, none⟩) ++
      (positioned novel.scenes).flatMap fun (index, scene) => sceneProblems novel index scene

def hasErrors (severities : List Severity) : Bool :=
  severities.any fun severity => severity == .error

end VisualNovel.Novel
