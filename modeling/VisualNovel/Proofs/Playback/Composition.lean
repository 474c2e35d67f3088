import VisualNovel.Playback.Frame
import VisualNovel.Proofs.Novel.Places

/-!
# Frames composed of a document and a state

A frame is put together in two layers: what the document has at a position, and what
the state of the playback adds to that or hides of it. Whatever the indices, the count
of revealed characters and the flags of a state are, the parts of its frame agree with
each other.
-/

set_option autoImplicit false

namespace VisualNovel.Playback

open VisualNovel.Novel

/-! ## Places and speakers -/

def Position.InScenes (position : Position) (novel : Novel) : Prop :=
  0 ≤ position.scene ∧ position.scene < novel.scenes.length

def Position.InDialogues (position : Position) (novel : Novel) : Prop :=
  ∃ scene, novel.scenes[position.scene.toNat]? = some scene ∧
    0 ≤ position.dialogue ∧ position.dialogue < scene.dialogues.length

def FirstNamed (characters : List Character) (id : String) (character : Character) : Prop :=
  ∃ before after, characters = before ++ character :: after ∧ character.id = id ∧
    ∀ other ∈ before, other.id ≠ id

variable {novel : Novel} {position : Position} {scene : Scene} {dialogue : Dialogue}
  {frame : Frame} {sceneIndex dialogueIndex : Int}

private theorem firstNamed_of_character? {id : Option String} {character : Character}
    (found : novel.character? id = some character) :
    ∃ name, id = some name ∧ FirstNamed novel.characters name character := by
  obtain ⟨name, named, first⟩ := Option.bind_eq_some_iff.mp found
  obtain ⟨given, -⟩ := Option.filter_eq_some_iff.mp named
  obtain ⟨same, before, after, split, others⟩ := List.find?_eq_some_iff_append.mp first
  refine ⟨name, given, before, after, split, by simpa using same, fun other member => ?_⟩
  simpa using others other member

private theorem FirstNamed.id_eq {characters : List Character} {id : String} {character : Character}
    (first : FirstNamed characters id character) : character.id = id := by
  obtain ⟨_, _, _, same, _⟩ := first
  exact same

theorem inScenes_iff :
    position.InScenes novel ↔ ∃ scene, novel.sceneAt? position.scene = some scene :=
  exists_sceneAt?.symm

private theorem inDialogues_iff (atScene : novel.sceneAt? position.scene = some scene) :
    position.InDialogues novel ↔
      ∃ dialogue, scene.dialogueAt? position.dialogue = some dialogue := by
  have here := getElem?_of_itemAt? atScene
  constructor
  · rintro ⟨other, found, within⟩
    cases here.symm.trans found
    exact exists_itemAt?.mpr within
  · intro found
    exact ⟨scene, here, exists_itemAt?.mp found⟩

/-! ## The document's layer -/

structure Wordless (frame : Frame) : Prop where
  text : frame.text = ""
  revealed : frame.revealed = 0
  noChoices : frame.showChoices = false
  speaker : frame.speaker = narrator
  spriteUrl : frame.spriteUrl = none
  expression : frame.expression = none
  still : frame.transitionVisible = false ∧ frame.transitionStyle = none

structure Tells (novel : Novel) (dialogue : Dialogue) (frame : Frame) : Prop where
  text : frame.text = dialogue.text
  revealed : frame.revealed = dialogue.text.length
  choices : frame.choices = dialogue.choices
  showChoices : frame.showChoices = dialogue.hasChoices
  speaker : frame.speaker = speakerOf (novel.character? dialogue.characterId)
  spriteUrl : frame.spriteUrl = spriteUrlOf (novel.character? dialogue.characterId) dialogue
  expression : frame.expression =
    if (novel.character? dialogue.characterId).isSome then dialogue.expression else none
  still : frame.transitionVisible = false ∧ frame.transitionStyle = none

inductive Resolves (novel : Novel) (sceneIndex dialogueIndex : Int) (frame : Frame) : Prop where
  | noScene : novel.sceneAt? sceneIndex = none → frame.status = .noScene → Wordless frame →
      Resolves novel sceneIndex dialogueIndex frame
  | noDialogue {scene : Scene} : novel.sceneAt? sceneIndex = some scene →
      scene.dialogueAt? dialogueIndex = none → frame.status = .noDialogue → Wordless frame →
      Resolves novel sceneIndex dialogueIndex frame
  | ready {scene : Scene} {dialogue : Dialogue} : novel.sceneAt? sceneIndex = some scene →
      scene.dialogueAt? dialogueIndex = some dialogue → frame.status = .ready →
      Tells novel dialogue frame → Resolves novel sceneIndex dialogueIndex frame

private theorem resolves_resolve (novel : Novel) (sceneIndex dialogueIndex : Int) :
    Resolves novel sceneIndex dialogueIndex (resolve novel sceneIndex dialogueIndex) := by
  unfold resolve
  cases atScene : novel.sceneAt? sceneIndex with
  | none => exact .noScene atScene rfl ⟨rfl, rfl, rfl, rfl, rfl, rfl, rfl, rfl⟩
  | some scene =>
      dsimp only
      cases atLine : scene.dialogueAt? dialogueIndex with
      | none => exact .noDialogue atScene atLine rfl ⟨rfl, rfl, rfl, rfl, rfl, rfl, rfl, rfl⟩
      | some dialogue =>
          exact .ready atScene atLine rfl ⟨rfl, rfl, rfl, rfl, rfl, rfl, rfl, rfl, rfl⟩

theorem Resolves.revealed (resolves : Resolves novel sceneIndex dialogueIndex frame) :
    frame.revealed = frame.text.length := by
  cases resolves with
  | noScene _ _ wordless | noDialogue _ _ _ wordless => rw [wordless.revealed, wordless.text]; rfl
  | ready _ _ _ tells => rw [tells.revealed, tells.text]

theorem Resolves.still (resolves : Resolves novel sceneIndex dialogueIndex frame) :
    frame.transitionVisible = false ∧ frame.transitionStyle = none := by
  cases resolves with
  | noScene _ _ wordless | noDialogue _ _ _ wordless => exact wordless.still
  | ready _ _ _ tells => exact tells.still

theorem Resolves.narrated (resolves : Resolves novel sceneIndex dialogueIndex frame)
    (narrated : frame.speaker.isNarrator = true) :
    frame.spriteUrl = none ∧ frame.expression = none := by
  cases resolves with
  | noScene _ _ wordless | noDialogue _ _ _ wordless =>
      exact ⟨wordless.spriteUrl, wordless.expression⟩
  | @ready _ dialogue _ _ _ tells =>
      rw [tells.speaker] at narrated
      rw [tells.spriteUrl, tells.expression]
      cases found : novel.character? dialogue.characterId with
      | none => exact ⟨rfl, rfl⟩
      | some character =>
          rw [found] at narrated
          cases narrated

/-- Who is shown to speak is a character of the novel, and the first with its identifier. -/
theorem Resolves.spoken (resolves : Resolves novel sceneIndex dialogueIndex frame)
    (spoken : frame.speaker.isNarrator = false) :
    ∃ dialogue id character, novel.dialogueAt? sceneIndex dialogueIndex = some dialogue ∧
      dialogue.characterId = some id ∧ FirstNamed novel.characters id character ∧
      frame.speaker = ⟨character.name, character.color, some id⟩ := by
  cases resolves with
  | noScene _ _ wordless | noDialogue _ _ _ wordless =>
      rw [wordless.speaker] at spoken
      cases spoken
  | @ready scene dialogue atScene atLine _ tells =>
      rw [tells.speaker] at spoken ⊢
      cases found : novel.character? dialogue.characterId with
      | none =>
          rw [found] at spoken
          cases spoken
      | some character =>
          obtain ⟨id, given, first⟩ := firstNamed_of_character? found
          refine ⟨dialogue, id, character, ?_, given, first, ?_⟩
          · exact Option.bind_eq_some_iff.mpr ⟨scene, atScene, atLine⟩
          · rw [← first.id_eq]
            rfl

theorem Resolves.offers (resolves : Resolves novel sceneIndex dialogueIndex frame) :
    frame.showChoices = true ↔ ∃ dialogue,
      novel.dialogueAt? sceneIndex dialogueIndex = some dialogue ∧ dialogue.choices ≠ [] ∧
        frame.choices = dialogue.choices ∧ frame.status = .ready := by
  cases resolves with
  | noScene atScene _ wordless =>
      simp [wordless.noChoices, dialogueAt?, atScene]
  | noDialogue atScene atLine _ wordless =>
      simp [wordless.noChoices, dialogueAt?, atScene, atLine]
  | @ready scene dialogue atScene atLine ready tells =>
      have found : novel.dialogueAt? sceneIndex dialogueIndex = some dialogue :=
        Option.bind_eq_some_iff.mpr ⟨scene, atScene, atLine⟩
      simp [found, tells.showChoices, tells.choices, ready, Dialogue.hasChoices]

/-! ## The state's layer -/

/-- The parts of a frame agree with each other, with the document and with the state. -/
structure Agrees (novel : Novel) (position : Position) (frame : Frame) : Prop where
  revealed : 0 ≤ frame.revealed ∧ frame.revealed ≤ frame.text.length
  visible : frame.visibleText.toList <+: frame.text.toList ∧
    frame.visibleText.length = frame.revealed
  offers : frame.showChoices = true ↔ frame.status = .ready ∧ frame.fullyRevealed = true ∧
    position.transitioning = false ∧ position.finished = false ∧
    ∃ dialogue, position.dialogue? novel = some dialogue ∧ dialogue.choices ≠ [] ∧
      frame.choices = dialogue.choices
  -- A transition without any style shows, one with the style none does not.
  covered : frame.transitionVisible = true ↔ position.transitioning = true ∧
    position.finished = false ∧ position.style ≠ some .none
  unstyled : position.transitioning = false ∨ position.finished = true →
    frame.transitionStyle = none
  finished : frame.status = .finished ↔ position.finished = true
  ready : position.finished = false →
    (frame.status = .ready ↔ position.InScenes novel ∧ position.InDialogues novel)
  noDialogue : position.finished = false → (frame.status = .noDialogue ↔
    position.InScenes novel ∧ ¬ position.InDialogues novel)
  noScene : position.finished = false → (frame.status = .noScene ↔ ¬ position.InScenes novel)
  narrated : frame.speaker.isNarrator = true → frame.spriteUrl = none ∧ frame.expression = none
  spoken : frame.speaker.isNarrator = false → ∃ dialogue id character,
    position.dialogue? novel = some dialogue ∧ dialogue.characterId = some id ∧
      FirstNamed novel.characters id character ∧
      frame.speaker = ⟨character.name, character.color, some id⟩

private theorem visible_of_revealed (nonneg : 0 ≤ frame.revealed)
    (within : frame.revealed ≤ frame.text.length) :
    frame.visibleText.toList <+: frame.text.toList ∧
      frame.visibleText.length = frame.revealed := by
  unfold Frame.visibleText
  constructor
  · rw [String.toList_ofList]
    exact List.take_prefix _ _
  · rw [String.length_ofList, List.length_take, String.length_toList]
    omega

/-- The status of what is found tells which of the indices are in range. -/
theorem Resolves.statuses (resolves : Resolves novel position.scene position.dialogue frame) :
    (frame.status = .ready ↔ position.InScenes novel ∧ position.InDialogues novel) ∧
    (frame.status = .noDialogue ↔ position.InScenes novel ∧ ¬ position.InDialogues novel) ∧
    (frame.status = .noScene ↔ ¬ position.InScenes novel) ∧ frame.status ≠ .finished := by
  cases resolves with
  | noScene atScene status _ =>
      have outside : ¬ position.InScenes novel := by simp [inScenes_iff, atScene]
      simp [status, outside]
  | noDialogue atScene atLine status _ =>
      have inside : position.InScenes novel := inScenes_iff.mpr ⟨_, atScene⟩
      have beyond : ¬ position.InDialogues novel := by simp [inDialogues_iff atScene, atLine]
      simp [status, inside, beyond]
  | ready atScene atLine status _ =>
      have inside : position.InScenes novel := inScenes_iff.mpr ⟨_, atScene⟩
      have within : position.InDialogues novel := (inDialogues_iff atScene).mpr ⟨_, atLine⟩
      simp [status, inside, within]

private theorem agrees_of_finished (finished : position.finished = true)
    (resolves : Resolves novel position.scene position.dialogue frame) (muted : Bool) :
    Agrees novel position { frame with
      status := .finished, finished := true, showChoices := false, muted } where
  revealed := by
    have whole := resolves.revealed
    dsimp only
    omega
  visible := by
    have whole := resolves.revealed
    exact visible_of_revealed (by dsimp only; omega) (by dsimp only; omega)
  offers := by simp
  covered := by simp [finished, resolves.still.1]
  unstyled := fun _ => resolves.still.2
  finished := by simp [finished]
  ready := by simp [finished]
  noDialogue := by simp [finished]
  noScene := by simp [finished]
  narrated := resolves.narrated
  spoken := resolves.spoken

-- The revealed characters are brought into range first; all else is added to what was found.
/-- While the playback goes on the frame agrees with the document. -/
private theorem agrees_of_running (running : position.finished = false)
    (resolves : Resolves novel position.scene position.dialogue frame) (muted : Bool)
    {revealed : Int} (shown : revealed = max 0 (min position.revealed frame.text.length)) :
    Agrees novel position { frame with
      revealed
      showChoices := frame.showChoices && decide ((frame.text.length : Int) ≤ revealed) &&
        !position.transitioning
      transitionVisible := position.transitioning && position.style != some .none
      transitionStyle := if position.transitioning then position.style else none
      muted } where
  revealed := by
    dsimp only
    omega
  visible := visible_of_revealed (by dsimp only; omega) (by dsimp only; omega)
  offers := by
    simp only [Bool.and_eq_true, resolves.offers, decide_eq_true_eq, Bool.not_eq_true',
      Frame.fullyRevealed, running, Position.dialogue?]
    constructor
    · rintro ⟨⟨⟨dialogue, found, choices, same, ready⟩, whole⟩, still⟩
      exact ⟨ready, whole, still, trivial, dialogue, found, choices, same⟩
    · rintro ⟨ready, whole, still, -, dialogue, found, choices, same⟩
      exact ⟨⟨⟨dialogue, found, choices, same, ready⟩, whole⟩, still⟩
  covered := by simp [running]
  unstyled := by
    rintro (still | ended)
    · simp [still]
    · simp [running] at ended
  finished := by simp [running, resolves.statuses.2.2.2]
  ready := fun _ => resolves.statuses.1
  noDialogue := fun _ => resolves.statuses.2.1
  noScene := fun _ => resolves.statuses.2.2.1
  narrated := resolves.narrated
  spoken := resolves.spoken

/-- Whatever state a frame is composed of, its parts agree. -/
theorem compose_agrees (novel : Novel) (position : Position) (muted : Bool) :
    Agrees novel position (compose novel position muted) := by
  have resolves := resolves_resolve novel position.scene position.dialogue
  unfold compose
  cases ended : position.finished with
  | true => exact agrees_of_finished ended resolves muted
  | false => exact agrees_of_running ended resolves muted rfl

end VisualNovel.Playback
