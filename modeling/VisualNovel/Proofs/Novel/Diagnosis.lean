import VisualNovel.Proofs.Novel.Defects
import VisualNovel.Proofs.Novel.Identifiers

/-!
# The errors of a novel

Among the problems of a novel the errors are the choices for which playback finds no
scene, in the order of the document. The checks look for the identifier of a scene
among those of all scenes, playback looks for the first scene with it unless it is
empty; both come to the same where no scene has an empty identifier.
-/

set_option autoImplicit false

namespace VisualNovel.Novel

def errors (novel : Novel) : List Diagnostic :=
  (problems novel).filter fun diagnostic => diagnostic.severity == .error

/-- Playback finds no scene for the choice at a place. -/
structure DeadEnd (novel : Novel) (scene line entry : Nat) (choice : Choice) : Prop where
  offered : ∃ atScene, novel.scenes[scene]? = some atScene ∧
    ∃ atLine, atScene.dialogues[line]? = some atLine ∧ atLine.choices[entry]? = some choice
  lost : novel.sceneIndex? choice.targetSceneId = none

def Diagnostic.rank (diagnostic : Diagnostic) : List Nat :=
  (diagnostic.place.map Place.rank).getD []

private theorem hasErrors_iff {novel : Novel} :
    hasErrors ((problems novel).map Diagnostic.severity) = true ↔ errors novel ≠ [] := by
  simp [hasErrors, errors, List.filter_eq_nil_iff]

/-! ## Warnings -/

theorem filter_error_of_warnings {diagnostics : List Diagnostic}
    (warnings : ∀ diagnostic ∈ diagnostics, diagnostic.severity = .warning) :
    diagnostics.filter (fun diagnostic => diagnostic.severity == .error) = [] := by
  refine List.filter_eq_nil_iff.mpr fun diagnostic member => ?_
  rw [warnings diagnostic member]
  decide

/-- The warnings about namesakes are no errors. -/
theorem filter_error_map {problem : String → Problem}
    (warning : ∀ id, (problem id).severity = .warning) (place : Option Place)
    (ids : List String) :
    (ids.map fun id => (⟨problem id, place⟩ : Diagnostic)).filter
      (fun diagnostic => diagnostic.severity == .error) = [] := by
  refine filter_error_of_warnings fun diagnostic member => ?_
  obtain ⟨id, -, rfl⟩ := List.mem_map.mp member
  exact warning id

private theorem severity_of_mem_speakerProblems {novel : Novel} {scene position : Nat}
    {line : Dialogue}
    {diagnostic : Diagnostic} (member : diagnostic ∈ speakerProblems novel scene position line) :
    diagnostic.severity = .warning := by
  unfold speakerProblems at member
  rcases List.mem_append.mp member with unknown | sprite
  · split at unknown
    · rw [List.mem_singleton.mp unknown]
      rfl
    · cases unknown
  · split at sprite
    · rw [List.mem_singleton.mp sprite]
      rfl
    · split at sprite
      · rw [List.mem_singleton.mp sprite]
        rfl
      · cases sprite
    · cases sprite

/-! ## Choices without a target -/

/-- The problems of a menu are its entries whose scene is missing. -/
theorem mem_choiceProblems {novel : Novel} {scene position : Nat} {line : Dialogue}
    {diagnostic : Diagnostic} :
    diagnostic ∈ choiceProblems novel scene position line ↔
      ∃ entry choice, line.choices[entry]? = some choice ∧
        (novel.scenes.any fun target => target.id == choice.targetSceneId) = false ∧
        diagnostic = ⟨.missingTarget choice.text choice.targetSceneId,
          some (.choice scene position entry)⟩ := by
  unfold choiceProblems
  rw [List.mem_filterMap]
  constructor
  · rintro ⟨⟨entry, choice⟩, among, found⟩
    simp only [Option.ite_none_left_eq_some, Bool.not_eq_true, Option.some.injEq] at found
    obtain ⟨unknown, rfl⟩ := found
    exact ⟨entry, choice, mem_positioned.mp among, unknown, rfl⟩
  · rintro ⟨entry, choice, offered, unknown, rfl⟩
    refine ⟨(entry, choice), mem_positioned.mpr offered, ?_⟩
    simp only [unknown]
    rfl

private theorem filter_error_choiceProblems (novel : Novel) (scene position : Nat)
    (line : Dialogue) :
    (choiceProblems novel scene position line).filter
      (fun diagnostic => diagnostic.severity == .error) =
        choiceProblems novel scene position line := by
  refine List.filter_eq_self.mpr fun diagnostic member => ?_
  obtain ⟨entry, choice, -, -, rfl⟩ := mem_choiceProblems.mp member
  rfl

private theorem filter_error_sceneProblems (novel : Novel) (index : Nat) (scene : Scene) :
    (sceneProblems novel index scene).filter (fun diagnostic => diagnostic.severity == .error) =
      (positioned scene.dialogues).flatMap fun (position, line) =>
        choiceProblems novel index position line := by
  have bare : (if scene.dialogues.isEmpty then
      [(⟨.emptyScene scene.label, some (.scene index)⟩ : Diagnostic)] else []).filter
        (fun diagnostic => diagnostic.severity == .error) = [] := by
    split <;> rfl
  unfold sceneProblems
  rw [List.filter_append, List.filter_append, bare, filter_error_map fun _ => rfl,
    List.filter_flatMap]
  refine congrArg (fun each => List.flatMap each _) (funext fun (position, line) => ?_)
  rw [List.filter_append, filter_error_choiceProblems,
    filter_error_of_warnings fun _ => severity_of_mem_speakerProblems, List.nil_append]

/-- The errors of a novel with scenes are those of its choices. -/
theorem errors_eq {novel : Novel} (filled : novel.scenes ≠ []) :
    errors novel = (positioned novel.scenes).flatMap fun (index, scene) =>
      (positioned scene.dialogues).flatMap fun (position, line) =>
        choiceProblems novel index position line := by
  have scenes : novel.scenes.isEmpty = false := List.isEmpty_eq_false_iff.mpr filled
  unfold errors problems
  rw [scenes, if_neg Bool.false_ne_true, List.filter_append, List.filter_append,
    filter_error_map fun _ => rfl, filter_error_map fun _ => rfl, List.filter_flatMap]
  exact congrArg (fun each => List.flatMap each _)
    (funext fun (index, scene) => filter_error_sceneProblems novel index scene)

/-- The errors are the choices that playback finds no scene for, each at its place. -/
theorem mem_errors {novel : Novel} (filled : novel.scenes ≠ [])
    (named : ∀ scene ∈ novel.scenes, scene.id ≠ "") {diagnostic : Diagnostic} :
    diagnostic ∈ errors novel ↔ ∃ scene line entry choice,
      DeadEnd novel scene line entry choice ∧
        diagnostic = ⟨.missingTarget choice.text choice.targetSceneId,
          some (.choice scene line entry)⟩ := by
  rw [errors_eq filled]
  constructor
  · intro member
    obtain ⟨⟨scene, atScene⟩, here, member⟩ := List.mem_flatMap.mp member
    obtain ⟨⟨line, atLine⟩, there, member⟩ := List.mem_flatMap.mp member
    obtain ⟨entry, choice, offered, unknown, same⟩ := mem_choiceProblems.mp member
    refine ⟨scene, line, entry, choice, ⟨?_, (sceneIndex?_eq_none_iff named).mpr unknown⟩, same⟩
    exact ⟨atScene, mem_positioned.mp here, atLine, mem_positioned.mp there, offered⟩
  · rintro ⟨scene, line, entry, choice, ⟨⟨atScene, here, atLine, there, offered⟩, lost⟩, same⟩
    refine List.mem_flatMap.mpr ⟨(scene, atScene), mem_positioned.mpr here, ?_⟩
    refine List.mem_flatMap.mpr ⟨(line, atLine), mem_positioned.mpr there, ?_⟩
    exact mem_choiceProblems.mpr
      ⟨entry, choice, offered, (sceneIndex?_eq_none_iff named).mp lost, same⟩

/-! ## The order of errors -/

theorem pairwise_positioned {α : Type} (items : List α) :
    (positioned items).Pairwise fun first next => first.1 < next.1 := by
  unfold positioned
  rw [List.pairwise_map, List.pairwise_iff_getElem]
  intro first next _ _ sooner
  simpa using sooner

theorem rank_of_mem_choiceProblems {novel : Novel} {scene position : Nat} {line : Dialogue}
    {diagnostic : Diagnostic} (member : diagnostic ∈ choiceProblems novel scene position line) :
    [turn "scenes", scene, turn "dialogues"] ++ [position] <+: diagnostic.rank := by
  obtain ⟨entry, choice, -, -, rfl⟩ := mem_choiceProblems.mp member
  exact List.prefix_append _ [turn "choices", entry]

private theorem rank_of_mem_lines {novel : Novel} {index : Nat} {scene : Scene}
    {diagnostic : Diagnostic}
    (member : diagnostic ∈ (positioned scene.dialogues).flatMap fun (position, line) =>
      choiceProblems novel index position line) :
    [turn "scenes"] ++ [index] <+: diagnostic.rank := by
  obtain ⟨⟨position, line⟩, -, member⟩ := List.mem_flatMap.mp member
  exact (List.prefix_append [turn "scenes", index] [turn "dialogues", position]).trans
    (rank_of_mem_choiceProblems member)

private theorem pairwise_choiceProblems (novel : Novel) (scene position : Nat) (line : Dialogue) :
    (choiceProblems novel scene position line).Pairwise fun diagnostic next =>
      diagnostic.rank < next.rank := by
  unfold choiceProblems
  rw [List.pairwise_filterMap]
  refine (pairwise_positioned line.choices).imp fun sooner diagnostic found next foundNext => ?_
  simp only [Option.ite_none_left_eq_some, Bool.not_eq_true, Option.some.injEq] at found foundNext
  obtain ⟨-, rfl⟩ := found
  obtain ⟨-, rfl⟩ := foundNext
  exact rank_lt_of_prefix
    (List.prefix_refl ([turn "scenes", scene, turn "dialogues", position, turn "choices"] ++ [_]))
    (List.prefix_refl _) sooner

/-- The errors are in the order of the places in the document. -/
theorem pairwise_errors {novel : Novel} (filled : novel.scenes ≠ []) :
    (errors novel).Pairwise fun diagnostic next => diagnostic.rank < next.rank := by
  rw [errors_eq filled, List.pairwise_flatMap]
  constructor
  · rintro ⟨index, scene⟩ -
    rw [List.pairwise_flatMap]
    constructor
    · rintro ⟨position, line⟩ -
      exact pairwise_choiceProblems novel index position line
    · refine (pairwise_positioned scene.dialogues).imp fun sooner diagnostic member next after => ?_
      exact rank_lt_of_prefix (rank_of_mem_choiceProblems member)
        (rank_of_mem_choiceProblems after) sooner
  · refine (pairwise_positioned novel.scenes).imp fun sooner diagnostic member next after => ?_
    exact rank_lt_of_prefix (rank_of_mem_lines member) (rank_of_mem_lines after) sooner

/-- What the errors of a novel that was read are: that it has no scenes, or else each choice that
playback finds no scene for, in the order of the document. -/
theorem errors_of_ofValue {document : Json.Value} {novel : Novel}
    (read : (Novel.ofValue document).1 = .ok novel) :
    (novel.scenes = [] →
      problems novel = [⟨.noScenes, none⟩] ∧ errors novel = problems novel) ∧
    (novel.scenes ≠ [] →
      (∀ diagnostic, diagnostic ∈ errors novel ↔ ∃ scene line entry choice,
        DeadEnd novel scene line entry choice ∧
          diagnostic = ⟨.missingTarget choice.text choice.targetSceneId,
            some (.choice scene line entry)⟩ ∧
          diagnostic.place.map Place.path =
            some s!"scenes[{scene}].dialogues[{line}].choices[{entry}]") ∧
      (errors novel).Pairwise fun diagnostic next => diagnostic.rank < next.rank) ∧
    (hasErrors ((problems novel).map Diagnostic.severity) = true ↔
      novel.scenes = [] ∨
        ∃ scene line entry choice, DeadEnd novel scene line entry choice) := by
  have named := id_ne_empty_of_ofValue read
  have only : novel.scenes = [] → problems novel = [⟨.noScenes, none⟩] ∧
      errors novel = problems novel := by
    intro bare
    have only : problems novel = [⟨.noScenes, none⟩] := by simp [problems, bare]
    exact ⟨only, by rw [errors, only]; rfl⟩
  refine ⟨only, fun filled => ⟨fun diagnostic => ?_, pairwise_errors filled⟩, ?_⟩
  · rw [mem_errors filled named]
    constructor
    · rintro ⟨scene, line, entry, choice, deadEnd, rfl⟩
      exact ⟨scene, line, entry, choice, deadEnd, rfl, rfl⟩
    · rintro ⟨scene, line, entry, choice, deadEnd, same, -⟩
      exact ⟨scene, line, entry, choice, deadEnd, same⟩
  · rw [hasErrors_iff]
    by_cases bare : novel.scenes = []
    · obtain ⟨found, same⟩ := only bare
      simp [bare, same, found]
    · rw [or_iff_right bare]
      constructor
      · intro some
        obtain ⟨diagnostic, member⟩ := List.exists_mem_of_ne_nil _ some
        obtain ⟨scene, line, entry, choice, deadEnd, -⟩ := (mem_errors bare named).mp member
        exact ⟨scene, line, entry, choice, deadEnd⟩
      · rintro ⟨scene, line, entry, choice, deadEnd⟩
        exact List.ne_nil_of_mem
          ((mem_errors bare named).mpr ⟨scene, line, entry, choice, deadEnd, rfl⟩)

namespace Sample

def adrift : Json.Value :=
  .object [("scenes", .list [
    .object [("id", .text "raft"), ("dialogues", .list [
      .object [("choices", .list [
        .object [("targetSceneId", .text "raft")],
        .object [("id", .text "swim"), ("text", .text "Swim."), ("targetSceneId", .text "shore")],
        .object [("id", .text "wait"), ("text", .text "Wait.")]])]])]])]

end Sample

theorem errors_of_ofValue_adrift : ∃ novel, (Novel.ofValue Sample.adrift).1 = .ok novel ∧
    (⟨.missingTarget "Swim." "shore", some (.choice 0 0 1)⟩ : Diagnostic) ∈ errors novel ∧
    hasErrors ((problems novel).map Diagnostic.severity) = true := by
  obtain ⟨novel, read⟩ : ∃ novel, (Novel.ofValue Sample.adrift).1 = .ok novel := ⟨_, rfl⟩
  have deadEnd : DeadEnd novel 0 0 1 ⟨"swim", "Swim.", "shore"⟩ := by
    cases read
    exact ⟨⟨_, rfl, _, rfl, rfl⟩, by decide +kernel⟩
  have filled : novel.scenes ≠ [] := by
    cases read
    exact List.cons_ne_nil _ _
  obtain ⟨-, errors, hasErrors⟩ := errors_of_ofValue read
  exact ⟨novel, read, ((errors filled).1 _).mpr ⟨0, 0, 1, _, deadEnd, rfl, rfl⟩,
    hasErrors.mpr (.inr ⟨0, 0, 1, _, deadEnd⟩)⟩

end VisualNovel.Novel
