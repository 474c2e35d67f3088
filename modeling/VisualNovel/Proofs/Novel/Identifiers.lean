import VisualNovel.Novel.Problems
import VisualNovel.Novel.Reading
import VisualNovel.Proofs.Novel.Places

/-!
# Identifiers that name something

Every scene of a novel that was read from a document has an identifier that is not
empty. Where the checks of a novel find no error, the target of every choice is
therefore found by playback as well.
-/

set_option autoImplicit false

namespace VisualNovel

open Json Text Numeric

/-! ## Texts of values -/

/-- A text shows something besides white space. -/
def Text.Visible (text : String) : Prop :=
  ∃ character ∈ text.toList, isBlank character = false

theorem Text.Visible.ne_empty {text : String} (visible : Visible text) : text ≠ "" := by
  rintro rfl
  obtain ⟨character, member, -⟩ := visible
  simp at member

private theorem Text.visible_of_not_allBlank {text : String} (shows : ¬ allBlank text = true) :
    Visible text := by
  simpa [Visible, allBlank] using shows

theorem Text.Visible.append_left {text : String} (visible : Visible text) (rest : String) :
    Visible (text ++ rest) := by
  obtain ⟨character, member, shown⟩ := visible
  exact ⟨character, by simp [member], shown⟩

private theorem Text.Visible.append_right {text : String} (visible : Visible text)
    (before : String) :
    Visible (before ++ text) := by
  obtain ⟨character, member, shown⟩ := visible
  exact ⟨character, by simp [member], shown⟩

private theorem Numeric.Spelling.visible_decimal (spelling : Spelling) (decimal : Decimal) :
    Visible (String.ofList (spelling.decimal decimal)) := by
  have point : isBlank '.' = false := by decide
  have letter : isBlank 'e' = false := by decide
  unfold Spelling.decimal
  dsimp only
  split
  · split
    · exact ⟨'.', by simp, point⟩
    · split <;> exact ⟨'.', by simp, point⟩
  · exact ⟨'e', by simp, letter⟩

private theorem Numeric.visible_write (number : Float) : Visible (shownSpelling.write number) := by
  unfold Spelling.write
  cases Exact.of number with
  | nan => exact ⟨'n', by decide, by decide⟩
  | infinite negative => exact Visible.append_right ⟨'i', by decide, by decide⟩ _
  | finite negative mantissa exponent =>
      refine Visible.append_right ?_ _
      split
      · exact ⟨'0', by decide, by decide⟩
      · exact Spelling.visible_decimal _ _

private theorem Text.isBlank_of_isDigit {character : Char} (digit : character.isDigit = true) :
    isBlank character = false := by
  simp only [Char.isDigit, ge_iff_le, Bool.and_eq_true, decide_eq_true_eq,
    UInt32.le_iff_toNat_le] at digit
  have low : 48 ≤ character.toNat := digit.1
  have high : character.toNat ≤ 57 := digit.2
  simp [isBlank]
  omega

private theorem Text.visible_repr (number : Nat) : Visible (Nat.repr number) := by
  have some : Nat.toDigits 10 number ≠ [] := Nat.toDigits_ne_nil
  obtain ⟨character, member⟩ := List.exists_mem_of_ne_nil _ some
  have digit := Nat.isDigit_of_mem_toDigits (by decide) (by decide) member
  refine ⟨character, ?_, isBlank_of_isDigit digit⟩
  rw [Nat.repr_eq_ofList_toDigits]
  simpa using member

private theorem Json.Value.visible_quoted (value : Value) : Visible value.quoted := by
  cases value with
  | null =>
      unfold Value.quoted
      exact ⟨'N', by decide, by decide⟩
  | bool value =>
      unfold Value.quoted
      cases value
      · exact ⟨'F', by decide, by decide⟩
      · exact ⟨'T', by decide, by decide⟩
  | integer value =>
      unfold Value.quoted
      cases value with
      | ofNat value => exact visible_repr value
      | negSucc value => exact Visible.append_left ⟨'-', by decide, by decide⟩ _
  | number value =>
      unfold Value.quoted
      exact visible_write value
  | text value =>
      unfold Value.quoted Text.quoted
      refine ⟨quoteFor value.toList, by simp, ?_⟩
      unfold quoteFor
      split <;> decide
  | list items =>
      unfold Value.quoted
      exact ((Visible.append_left ⟨'[', by decide, by decide⟩ _).append_left _)
  | object entries =>
      unfold Value.quoted
      exact ((Visible.append_left ⟨'\x7b', by decide, by decide⟩ _).append_left _)

namespace Novel

theorem visible_textField? {fields : Entries} {key text : String}
    (found : textField? fields key = some text) : Visible text := by
  unfold textField? at found
  cases given : fields.get key with
  | null => simp [given] at found
  | text filled =>
      simp only [given, Option.ite_none_left_eq_some, Option.some.injEq] at found
      obtain ⟨shows, rfl⟩ := found
      exact visible_of_not_allBlank shows
  | bool | integer | number | list | object =>
      simp only [given, Option.some.injEq] at found
      rw [← found]
      exact Value.visible_quoted _

theorem visible_textField {fields : Entries} {key default : String} (named : Visible default) :
    Visible (textField fields key default) := by
  unfold textField
  cases found : textField? fields key with
  | none => exact named
  | some text => exact visible_textField? found

/-! ## What a reading yields -/

def Yields {α : Type} (reading : Reading α) (good : α → Prop) : Prop :=
  ∀ before item after, reading.run.run before = (.ok item, after) → good item

variable {α γ : Type} {good : α → Prop}

theorem yields_pure {item : α} (fine : good item) : Yields (pure item) good := by
  intro before found after read
  cases read
  exact fine

theorem Yields.bind {between : γ → Prop} {reading : Reading γ} {next : γ → Reading α}
    (first : Yields reading between) (second : ∀ item, between item → Yields (next item) good) :
    Yields (reading >>= next) good := by
  intro before item after read
  rw [ExceptT.run_bind, StateT.run_bind] at read
  cases made : reading.run.run before with
  | mk result middle =>
      rw [made] at read
      cases result with
      | error defect =>
          have stopped : (Except.error defect : Except Defect α) = .ok item :=
            congrArg Prod.fst read
          contradiction
      | ok found => exact second found (first before found middle made) middle item after read

theorem Yields.after {reading : Reading γ} {next : γ → Reading α}
    (all : ∀ item, Yields (next item) good) : Yields (reading >>= next) good :=
  Yields.bind (fun _ _ _ _ => trivial) fun item (_ : True) => all item

theorem yields_readEach {readItem : Nat → Json.Value → Reading α}
    (fine : ∀ index value, Yields (readItem index value) good) (index : Nat)
    (items : List Json.Value) :
    Yields (readEach readItem index items) fun read => ∀ item ∈ read, good item := by
  induction items generalizing index with
  | nil => exact yields_pure (by simp)
  | cons value items ih =>
      refine (fine index value).bind fun first goodFirst => (ih (index + 1)).bind ?_
      intro rest goodRest
      apply yields_pure
      intro item member
      rcases List.mem_cons.mp member with rfl | member
      · exact goodFirst
      · exact goodRest item member

private theorem yields_readScene (index : Nat) (value : Json.Value) :
    Yields (readScene index value) fun scene => scene.id ≠ "" := by
  unfold readScene
  refine .after fun fields => .after fun items => .after fun dialogues => .after fun size =>
    .after fun position => .after fun transition => .after fun theme => yields_pure ?_
  exact (visible_textField (Visible.append_left ⟨'s', by decide, by decide⟩ _)).ne_empty

/-- The scenes of a novel that was read are as every scene that is read. -/
theorem scenes_of_ofValue {good : Scene → Prop}
    (fine : ∀ index value, Yields (readScene index value) good) {document : Json.Value}
    {novel : Novel} (read : (Novel.ofValue document).1 = .ok novel) :
    ∀ scene ∈ novel.scenes, good scene := by
  have yields : Yields (Novel.read document) fun novel => ∀ scene ∈ novel.scenes, good scene := by
    unfold Novel.read
    refine .after fun fields => .after fun genre => .after fun items =>
      (yields_readEach fine 0 items).bind fun scenes goodScenes => .after fun characters =>
      .after fun characters => .after fun theme => yields_pure goodScenes
  exact yields [] novel (Novel.ofValue document).2 (Prod.ext read rfl)

theorem id_ne_empty_of_ofValue {document : Json.Value} {novel : Novel}
    (read : (Novel.ofValue document).1 = .ok novel) : ∀ scene ∈ novel.scenes, scene.id ≠ "" :=
  scenes_of_ofValue yields_readScene read

/-! ## Targets of choices -/

theorem mem_positioned {items : List α} {item : α} {index : Nat} :
    (index, item) ∈ positioned items ↔ items[index]? = some item := by
  constructor
  · intro member
    obtain ⟨⟨found, position⟩, among, same⟩ := List.mem_map.mp member
    obtain ⟨rfl, rfl⟩ := Prod.mk.inj same
    exact List.mem_zipIdx_iff_getElem?.mp among
  · intro found
    exact List.mem_map.mpr ⟨(item, index), List.mem_zipIdx_iff_getElem?.mpr found, rfl⟩

theorem sceneIndex?_eq_none_iff {novel : Novel} (named : ∀ scene ∈ novel.scenes, scene.id ≠ "")
    {id : String} : novel.sceneIndex? (some id) = none ↔
      (novel.scenes.any fun scene => scene.id == id) = false := by
  by_cases empty : id = ""
  · subst empty
    have nameless : novel.sceneIndex? (some "") = none := rfl
    simpa [nameless] using named
  · have looked : named? (some id) = some id := by simp [named?, Option.filter, empty]
    simp [sceneIndex?, looked]

/-- The problems of a line are among those of its novel. -/
theorem mem_problems_of_line {novel : Novel} {index position : Nat} {scene : Scene}
    {line : Dialogue} (atScene : novel.scenes[index]? = some scene)
    (atLine : scene.dialogues[position]? = some line) {diagnostic : Diagnostic}
    (member : diagnostic ∈ speakerProblems novel index position line ++
      choiceProblems novel index position line) : diagnostic ∈ problems novel := by
  have nonempty : novel.scenes.isEmpty = false := by
    rw [List.isEmpty_eq_false_iff]
    rintro empty
    simp [empty] at atScene
  have ofScene : diagnostic ∈ sceneProblems novel index scene :=
    List.mem_append_right _ (List.mem_flatMap.mpr ⟨_, mem_positioned.mpr atLine, member⟩)
  unfold problems
  rw [nonempty]
  exact List.mem_append_right _ (List.mem_flatMap.mpr ⟨_, mem_positioned.mpr atScene, ofScene⟩)

private theorem missingTarget_mem_problems {novel : Novel} {sceneIndex dialogueIndex index : Nat}
    {scene : Scene} {line : Dialogue} {choice : Choice}
    (atScene : novel.scenes[sceneIndex]? = some scene)
    (atLine : scene.dialogues[dialogueIndex]? = some line)
    (atChoice : line.choices[index]? = some choice)
    (missing : (novel.scenes.any fun target => target.id == choice.targetSceneId) = false) :
    (⟨.missingTarget choice.text choice.targetSceneId,
      some (.choice sceneIndex dialogueIndex index)⟩ : Diagnostic) ∈ problems novel := by
  refine mem_problems_of_line atScene atLine (List.mem_append_right _ ?_)
  refine List.mem_filterMap.mpr ⟨(index, choice), mem_positioned.mpr atChoice, ?_⟩
  simp [missing]

/-- Where the checks find no error, every choice of the novel leads to a scene. -/
theorem exists_target {novel : Novel} (named : ∀ scene ∈ novel.scenes, scene.id ≠ "")
    (sane : ∀ diagnostic ∈ problems novel, diagnostic.severity ≠ .error)
    {sceneIndex dialogueIndex : Int} {line : Dialogue}
    (found : novel.dialogueAt? sceneIndex dialogueIndex = some line)
    {choice : Choice} (offered : choice ∈ line.choices) :
    ∃ target, novel.sceneIndex? choice.targetSceneId = some target := by
  obtain ⟨scene, here, there⟩ := exists_scene_of_dialogueAt? found
  obtain ⟨index, atChoice⟩ := List.mem_iff_getElem?.mp offered
  refine Option.ne_none_iff_exists'.mp fun lost => ?_
  have problem := missingTarget_mem_problems (getElem?_of_itemAt? here)
    (getElem?_of_itemAt? there) atChoice ((sceneIndex?_eq_none_iff named).mp lost)
  exact absurd rfl (sane _ problem)

end Novel

end VisualNovel

/-!
## References to sounds

A reference in a novel that was read from a document is missing or names something:
blank texts count as missing.
-/

namespace VisualNovel.Novel

open VisualNovel.Json

/-- The references of a line are missing or not empty. -/
def Dialogue.Referenced (dialogue : Dialogue) : Prop :=
  named? dialogue.voiceUrl = dialogue.voiceUrl ∧ named? dialogue.sfxUrl = dialogue.sfxUrl

def Scene.Referenced (scene : Scene) : Prop :=
  named? scene.bgmUrl = scene.bgmUrl ∧ ∀ dialogue ∈ scene.dialogues, dialogue.Referenced

private theorem named?_of_ne_empty {url : Option String}
    (filled : ∀ text, url = some text → text ≠ "") :
    named? url = url := by
  cases url with
  | none => rfl
  | some text => simp [named?, Option.filter, filled text rfl]

theorem named?_textField? (fields : Entries) (key : String) :
    named? (textField? fields key) = textField? fields key :=
  named?_of_ne_empty fun _ found => (visible_textField? found).ne_empty

private theorem yields_readDialogue (scene index : Nat) (value : Value) :
    Yields (readDialogue scene index value) Dialogue.Referenced := by
  unfold readDialogue
  refine .after fun fields => .after fun items => .after fun choices => .after fun effect =>
    yields_pure ⟨?_, named?_textField? fields "sfxUrl"⟩
  refine named?_of_ne_empty fun text found => ?_
  rcases Option.or_eq_some_iff.mp found with own | ⟨_, older⟩
  · exact (visible_textField? own).ne_empty
  · exact (visible_textField? older).ne_empty

private theorem yields_readScene_referenced (index : Nat) (value : Value) :
    Yields (readScene index value) Scene.Referenced := by
  unfold readScene
  refine .after fun fields => .after fun items =>
    (yields_readEach (yields_readDialogue index) 0 items).bind fun dialogues referenced =>
    .after fun size => .after fun position => .after fun transition => .after fun theme =>
    yields_pure ⟨named?_textField? fields "bgmUrl", referenced⟩

theorem referenced_of_ofValue {document : Value} {novel : Novel}
    (read : (Novel.ofValue document).1 = .ok novel) :
    ∀ scene ∈ novel.scenes, scene.Referenced :=
  scenes_of_ofValue yields_readScene_referenced read

variable {novel : Novel} {scene line : Int}

theorem named?_bgmUrl (referenced : ∀ scene ∈ novel.scenes, scene.Referenced) (scene : Int) :
    named? ((novel.sceneAt? scene).bind (·.bgmUrl)) = (novel.sceneAt? scene).bind (·.bgmUrl) := by
  cases found : novel.sceneAt? scene with
  | none => rfl
  | some scene =>
      exact (referenced scene (List.mem_of_getElem? (getElem?_of_itemAt? found))).1

theorem dialogue_referenced (referenced : ∀ scene ∈ novel.scenes, scene.Referenced)
    {dialogue : Dialogue} (found : novel.dialogueAt? scene line = some dialogue) :
    dialogue.Referenced := by
  obtain ⟨scene, placed, within⟩ := Option.bind_eq_some_iff.mp found
  exact (referenced scene (List.mem_of_getElem? (getElem?_of_itemAt? placed))).2 dialogue
    (List.mem_of_getElem? (getElem?_of_itemAt? within))

end VisualNovel.Novel
