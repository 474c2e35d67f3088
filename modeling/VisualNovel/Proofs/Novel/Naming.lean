import VisualNovel.Proofs.Novel.Loading

/-!
# Scenes without identifiers

A scene whose element gives no identifier gets one by its position. Where the elements
of a document give identifiers of their own that are all different, two scenes of the
novel have the same identifier only if one gives just what the position of another
makes up. Of two such scenes the first is found by the identifier and the other is not.
-/

set_option autoImplicit false

namespace VisualNovel.Novel

open VisualNovel.Json VisualNovel.Text

/-- The element of a part gives an identifier: a text that is not blank. -/
def Gives (value : Value) (id : String) : Prop :=
  ∃ fields : Entries, value = .object fields ∧ fields.get "id" = .text id ∧ allBlank id = false

/-- The element of a part gives no identifier, or a blank one. -/
def Omits (value : Value) : Prop :=
  ∃ fields : Entries, value = .object fields ∧
    (fields.get "id" = .null ∨ ∃ text, fields.get "id" = .text text ∧ allBlank text = true)

/-- Every scene gives an identifier or none, and no two give the same. -/
structure GivenApart (scenes : List Value) : Prop where
  each : ∀ value ∈ scenes, (∃ id, Gives value id) ∨ Omits value
  apart : ∀ {index other : Nat} {value next : Value} {id : String}, scenes[index]? = some value →
    scenes[other]? = some next → Gives value id → Gives next id → index = other

/-- A scene gives the identifier that the position of another makes up for that one. -/
def Clashes (scenes : List Value) (index other : Nat) : Prop :=
  ∃ value next, scenes[index]? = some value ∧ scenes[other]? = some next ∧
    Omits value ∧ Gives next s!"scene-{index}"

private theorem Omits.not_gives {value : Value} (omits : Omits value) (id : String) :
    ¬ Gives value id := by
  rintro ⟨fields, rfl, given, shows⟩
  obtain ⟨others, same, none | ⟨text, found, blank⟩⟩ := omits
  · cases same
    rw [given] at none
    contradiction
  · cases same
    cases given.symm.trans found
    rw [blank] at shows
    contradiction

private theorem sceneName_inj {index other : Nat} (same : s!"scene-{index}" = s!"scene-{other}") :
    index = other := by
  have texts : index.repr = other.repr := by simpa using same
  rw [Nat.repr_eq_ofList_toDigits, Nat.repr_eq_ofList_toDigits] at texts
  have digits := congrArg (Nat.ofDigitChars 10 · 0) (String.ofList_injective texts)
  simpa [Nat.ofDigitChars_ten_toDigits] using digits

variable {scenes : List Value} {novel : Novel} {fields : Entries}
  {index other : Nat} {value : Value} {scene next : Scene}

private theorem renders_scenes (read : (Novel.ofValue (.object fields)).1 = .ok novel) :
    InOrder Scene.Renders (elements fields "scenes") novel.scenes := by
  obtain ⟨_, entries, same, -, shown, -⟩ := (scans_read (.object fields)).ends read
  cases same
  exact shown

theorem Scene.Renders.id_of_gives (renders : Scene.Renders index value scene) {id : String}
    (gives : Gives value id) : scene.id = id := by
  obtain ⟨entries, rfl, identified, -⟩ := renders
  obtain ⟨fields, same, given, shows⟩ := gives
  cases same
  simp [identified.given, textField, textField?, given, shows]

theorem Scene.Renders.id_of_omits (renders : Scene.Renders index value scene)
    (omits : Omits value) : scene.id = s!"scene-{index}" := by
  obtain ⟨entries, rfl, identified, -⟩ := renders
  obtain ⟨fields, same, none | ⟨text, given, blank⟩⟩ := omits
  · cases same
    simp [identified.given, textField, textField?, none, Place.name]
  · cases same
    simp [identified.given, textField, textField?, given, blank, Place.name]

private theorem Scene.Renders.id_ne_empty (renders : Scene.Renders index value scene) :
    scene.id ≠ "" := by
  obtain ⟨entries, -, identified, -⟩ := renders
  exact identified.filled

section

variable (shown : InOrder Scene.Renders scenes novel.scenes)

include shown

theorem exists_element (found : novel.scenes[index]? = some scene) :
    ∃ value, scenes[index]? = some value ∧ Scene.Renders index value scene := by
  have within := (List.getElem?_eq_some_iff.mp found).1
  rw [shown.1] at within
  exact ⟨scenes[index], List.getElem?_eq_getElem within,
    shown.2 index _ scene (List.getElem?_eq_getElem within) found⟩

private theorem exists_scene (found : scenes[index]? = some value) :
    ∃ scene, novel.scenes[index]? = some scene := by
  have within := (List.getElem?_eq_some_iff.mp found).1
  rw [← shown.1] at within
  exact ⟨novel.scenes[index], List.getElem?_eq_getElem within⟩

theorem Clashes.same_id (clashes : Clashes scenes index other)
    (here : novel.scenes[index]? = some scene) (there : novel.scenes[other]? = some next) :
    scene.id = next.id := by
  obtain ⟨value, following, atIndex, atOther, omits, gives⟩ := clashes
  have renders := shown.2 index value scene atIndex here
  have follows := shown.2 other following next atOther there
  rw [renders.id_of_omits omits, follows.id_of_gives gives]

-- Two given identifiers are apart by assumption and two made up by their positions, so that one is
-- given and the other made up.
private theorem clashes_of_same_id (given : GivenApart scenes) (different : index ≠ other)
    (here : novel.scenes[index]? = some scene) (there : novel.scenes[other]? = some next)
    (same : scene.id = next.id) : Clashes scenes index other ∨ Clashes scenes other index := by
  obtain ⟨value, atIndex, renders⟩ := exists_element shown here
  obtain ⟨following, atOther, follows⟩ := exists_element shown there
  rcases given.each value (List.mem_of_getElem? atIndex) with ⟨id, gives⟩ | omits
  · rcases given.each following (List.mem_of_getElem? atOther) with ⟨name, also⟩ | omits
    · rw [renders.id_of_gives gives, follows.id_of_gives also] at same
      exact absurd (given.apart atIndex atOther gives (same ▸ also)) different
    · rw [renders.id_of_gives gives, follows.id_of_omits omits] at same
      exact .inr ⟨following, value, atOther, atIndex, omits, same ▸ gives⟩
  · rcases given.each following (List.mem_of_getElem? atOther) with ⟨name, gives⟩ | also
    · rw [renders.id_of_omits omits, follows.id_of_gives gives] at same
      exact .inl ⟨value, following, atIndex, atOther, omits, same ▸ gives⟩
    · rw [renders.id_of_omits omits, follows.id_of_omits also] at same
      exact absurd (sceneName_inj same) different

end

/-- A scene is found by its identifier unless an earlier one has the same. -/
theorem sceneIndex?_id (filled : scene.id ≠ "") (found : novel.scenes[index]? = some scene) :
    novel.sceneIndex? scene.id = some index ↔ ∀ (earlier : Nat) (next : Scene),
      earlier < index → novel.scenes[earlier]? = some next → next.id ≠ scene.id := by
  obtain ⟨within, here⟩ := List.getElem?_eq_some_iff.mp found
  have looked : named? (some scene.id) = some scene.id := by simp [named?, Option.filter, filled]
  unfold sceneIndex?
  simp only [looked, Option.bind_eq_bind, Option.bind_some, List.findIdx?_eq_some_iff_getElem,
    beq_iff_eq]
  constructor
  · rintro ⟨_, _, first⟩ earlier next before there
    obtain ⟨reached, rfl⟩ := List.getElem?_eq_some_iff.mp there
    exact first earlier before
  · intro first
    refine ⟨within, by rw [here], fun earlier before => ?_⟩
    exact first earlier _ before (List.getElem?_eq_getElem (Nat.lt_trans before within))

private theorem nodup_ids_iff : (novel.scenes.map Scene.id).Nodup ↔
    ∀ (index other : Nat) (scene next : Scene), index < other →
      novel.scenes[index]? = some scene → novel.scenes[other]? = some next →
        scene.id ≠ next.id := by
  rw [List.Nodup, List.pairwise_map, List.pairwise_iff_getElem]
  constructor
  · intro apart index other scene next before here there
    obtain ⟨_, rfl⟩ := List.getElem?_eq_some_iff.mp here
    obtain ⟨_, rfl⟩ := List.getElem?_eq_some_iff.mp there
    exact apart index other _ _ before
  · intro apart index other within reached before
    exact apart index other _ _ before (List.getElem?_eq_getElem within)
      (List.getElem?_eq_getElem reached)

/-- Where scenes give different identifiers or none, their identifiers in the novel are different
exactly if none gives what the position of another makes up, and a scene is found by its
identifier exactly if it clashes with none before it. -/
theorem scenes_told_apart (read : (Novel.ofValue (.object fields)).1 = .ok novel)
    (given : GivenApart (elements fields "scenes")) :
    ((novel.scenes.map Scene.id).Nodup ↔
      ∀ index other, ¬ Clashes (elements fields "scenes") index other) ∧
    ∀ index scene, novel.scenes[index]? = some scene →
      (novel.sceneIndex? scene.id = some index ↔ ∀ earlier < index,
        ¬ Clashes (elements fields "scenes") earlier index ∧
          ¬ Clashes (elements fields "scenes") index earlier) := by
  have shown := renders_scenes read
  constructor
  · rw [nodup_ids_iff]
    constructor
    · intro apart index other clashes
      have parts := clashes
      obtain ⟨value, following, atIndex, atOther, omits, gives⟩ := parts
      obtain ⟨scene, here⟩ := exists_scene shown atIndex
      obtain ⟨next, there⟩ := exists_scene shown atOther
      have same := clashes.same_id shown here there
      rcases Nat.lt_trichotomy index other with before | rfl | behind
      · exact apart index other scene next before here there same
      · cases atIndex.symm.trans atOther
        exact omits.not_gives _ gives
      · exact apart other index next scene behind there here same.symm
    · intro none index other scene next before here there same
      exact (clashes_of_same_id shown given (Nat.ne_of_lt before) here there same).elim
        (none _ _) (none _ _)
  · intro index scene found
    obtain ⟨value, -, renders⟩ := exists_element shown found
    rw [sceneIndex?_id renders.id_ne_empty found]
    constructor
    · intro first earlier before
      obtain ⟨next, there⟩ : ∃ next, novel.scenes[earlier]? = some next :=
        ⟨_, List.getElem?_eq_getElem
          (Nat.lt_trans before (List.getElem?_eq_some_iff.mp found).1)⟩
      have different := first earlier next before there
      exact ⟨fun clashes => different (clashes.same_id shown there found),
        fun clashes => different (clashes.same_id shown found there).symm⟩
    · intro none earlier next before there same
      exact (clashes_of_same_id shown given (Nat.ne_of_lt before) there found same).elim
        (none earlier before).1 (none earlier before).2

namespace Sample

def numbered (first third : String) : Entries :=
  [("scenes", .list [.object [("id", .text first)], .object [], .object [("id", .text third)]])]

theorem gives_text {text id : String} :
    Gives (.object [("id", .text text)]) id ↔ id = text ∧ allBlank text = false := by
  constructor
  · rintro ⟨fields, same, given, shows⟩
    cases same
    cases given
    exact ⟨rfl, shows⟩
  · rintro ⟨rfl, shows⟩
    exact ⟨_, rfl, rfl, shows⟩

private theorem omits_nothing : Omits (.object []) :=
  ⟨[], rfl, .inl rfl⟩

theorem gives_numbered {first third id : String}
    (here : (elements (numbered first third) "scenes")[index]? = some value)
    (gives : Gives value id) : (index = 0 ∧ id = first) ∨ (index = 2 ∧ id = third) := by
  change [_, _, _][index]? = some value at here
  match index with
  | 0 =>
      cases here
      exact .inl ⟨rfl, (gives_text.mp gives).1⟩
  | 1 =>
      cases here
      exact absurd gives (omits_nothing.not_gives id)
  | 2 =>
      cases here
      exact .inr ⟨rfl, (gives_text.mp gives).1⟩
  | _ + 3 => cases here

private theorem givenApart_numbered {first third : String} (left : allBlank first = false)
    (right : allBlank third = false) (different : first ≠ third) :
    GivenApart (elements (numbered first third) "scenes") where
  each := by
    intro value member
    change value ∈ [_, _, _] at member
    simp only [List.mem_cons, List.not_mem_nil, or_false] at member
    rcases member with rfl | rfl | rfl
    · exact .inl ⟨first, gives_text.mpr ⟨rfl, left⟩⟩
    · exact .inr omits_nothing
    · exact .inl ⟨third, gives_text.mpr ⟨rfl, right⟩⟩
  apart := by
    intro index other value next id here there gives also
    rcases gives_numbered here gives with ⟨rfl, rfl⟩ | ⟨rfl, rfl⟩
    · rcases gives_numbered there also with ⟨rfl, -⟩ | ⟨-, same⟩
      · rfl
      · exact absurd same different
    · rcases gives_numbered there also with ⟨-, same⟩ | ⟨rfl, -⟩
      · exact absurd same.symm different
      · rfl

end Sample

theorem scenes_told_apart_numbered : ∃ novel,
    (Novel.ofValue (.object (Sample.numbered "scene-0" "scene-2"))).1 = .ok novel ∧
      novel.scenes.map Scene.id = ["scene-0", "scene-1", "scene-2"] ∧
      GivenApart (elements (Sample.numbered "scene-0" "scene-2") "scenes") ∧
      ∀ index other,
        ¬ Clashes (elements (Sample.numbered "scene-0" "scene-2") "scenes") index other := by
  have given := Sample.givenApart_numbered (by decide : allBlank "scene-0" = false)
    (by decide : allBlank "scene-2" = false) (by decide)
  refine ⟨_, rfl, rfl, given, ?_⟩
  exact (scenes_told_apart rfl given).1.mp (by decide)

/-- A scene gives the identifier that is made up for the one after it, which is not found by it. -/
theorem made_up_identifier_taken : ∃ novel,
    (Novel.ofValue (.object (Sample.numbered "scene-1" "tower"))).1 = .ok novel ∧
      GivenApart (elements (Sample.numbered "scene-1" "tower") "scenes") ∧
      ¬ (novel.scenes.map Scene.id).Nodup ∧
      ∃ scene, novel.scenes[1]? = some scene ∧ novel.sceneIndex? scene.id = some 0 := by
  refine ⟨_, rfl, Sample.givenApart_numbered (by decide) (by decide) (by decide), by decide, _,
    rfl, by decide⟩

end VisualNovel.Novel
