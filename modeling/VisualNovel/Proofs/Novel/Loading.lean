import VisualNovel.Proofs.Novel.Defects
import VisualNovel.Proofs.Novel.Identifiers

/-!
# What loading a document comes to

Reading a document stops at the first of its defects, and without one it comes to a
novel that renders the document: one part for each element, in order, each with an
identifier.
-/

set_option autoImplicit false

namespace VisualNovel.Novel

open VisualNovel.Json VisualNovel.Text

/-! ## Readings that stop at the first defect -/

/-- A reading stops at the first of the defects that occur, and comes to something good
where none does. -/
structure Scans {α : Type} (reading : Reading α) (occurs : Defect → Prop) (good : α → Prop) :
    Prop where
  stops : ∀ {before defect}, (reading.run.run before).1 = .error defect → First occurs defect
  ends : ∀ {before item}, (reading.run.run before).1 = .ok item →
    (∀ defect, ¬ occurs defect) ∧ good item

variable {α γ : Type} {reading : Reading α} {good : α → Prop} {occurs : Defect → Prop}

theorem Scans.of_iff {same : Defect → Prop} (scans : Scans reading occurs good)
    (iff : ∀ defect, same defect ↔ occurs defect) : Scans reading same good := by
  obtain rfl : same = occurs := funext fun defect => propext (iff defect)
  exact scans

theorem scans_pure {item : α} (fine : good item) : Scans (pure item) (fun _ => False) good := by
  constructor
  · intro before defect stopped
    cases stopped
  · intro before found ended
    cases ended
    exact ⟨fun _ => not_false, fine⟩

theorem scans_throw (defect : Defect) : Scans (throw defect) (· = defect) good := by
  constructor
  · intro before found stopped
    cases stopped
    exact ⟨rfl, fun other same apart => absurd same apart⟩
  · intro before item ended
    cases ended

/-- Of two readings one after the other, the first one finds what comes first. -/
theorem Scans.bind {next : α → Reading γ} {later : Defect → Prop} {fine : γ → Prop}
    (scans : Scans reading occurs good) (follow : ∀ item, good item → Scans (next item) later fine)
    (sooner : ∀ defect other, occurs defect → later other → defect.rank < other.rank) :
    Scans (reading >>= next) (fun defect => occurs defect ∨ later defect) fine := by
  constructor
  · intro before defect stopped
    rw [ExceptT.run_bind, StateT.run_bind] at stopped
    cases made : reading.run.run before with
    | mk result middle =>
        rw [made] at stopped
        cases result with
        | error found =>
            cases stopped
            obtain ⟨here, least⟩ := scans.stops (congrArg Prod.fst made)
            refine ⟨.inl here, ?_⟩
            rintro other (also | behind) apart
            · exact least other also apart
            · exact sooner defect other here behind
        | ok item =>
            obtain ⟨none, fine⟩ := scans.ends (congrArg Prod.fst made)
            obtain ⟨there, least⟩ := (follow item fine).stops stopped
            refine ⟨.inr there, ?_⟩
            rintro other (also | behind) apart
            · exact absurd also (none other)
            · exact least other behind apart
  · intro before item ended
    rw [ExceptT.run_bind, StateT.run_bind] at ended
    cases made : reading.run.run before with
    | mk result middle =>
        rw [made] at ended
        cases result with
        | error found => cases ended
        | ok first =>
            obtain ⟨none, fine⟩ := scans.ends (congrArg Prod.fst made)
            obtain ⟨neither, finer⟩ := (follow first fine).ends ended
            refine ⟨?_, finer⟩
            rintro defect (occurs | later)
            · exact none defect occurs
            · exact neither defect later

/-- A reading that finds no defects may come first. -/
theorem Scans.after {next : α → Reading γ} {fine : γ → Prop}
    (quiet : Scans reading (fun _ => False) good)
    (follow : ∀ item, Scans (next item) occurs fine) : Scans (reading >>= next) occurs fine :=
  (quiet.bind (fun item _ => follow item) (fun _ _ => False.elim)).of_iff fun _ => by simp

theorem Scans.finish {done : α → γ} {fine : γ → Prop} (scans : Scans reading occurs good)
    (fitting : ∀ item, good item → fine (done item)) :
    Scans (reading >>= fun item => pure (done item)) occurs fine :=
  (scans.bind (fun item goodItem => scans_pure (fitting item goodItem))
    (fun _ _ _ => False.elim)).of_iff fun _ => by simp

theorem scans_wordOf [Vocabulary α] (value : Value) (place : Place) :
    Scans (wordOf α value place) (fun _ => False) (fun _ => True) := by
  constructor
  · intro before defect stopped
    unfold wordOf at stopped
    split at stopped
    · cases stopped
    · cases stopped
    · split at stopped <;> cases stopped
  · intro before item ended
    exact ⟨fun _ => not_false, trivial⟩

/-! ## Objects and lists -/

variable {place : Place} {key : String} {part : Nat → Place}

theorem scans_fields {next : Entries → Reading α} (value : Value)
    (follow : ∀ fields, value = .object fields →
      Scans (next fields) (Occurs place (.object fields)) good) :
    Scans (fieldsOf value place >>= next) (Occurs place value) good := by
  cases value with
  | object fields => exact follow fields rfl
  | null | bool | integer | number | text | list =>
      exact (scans_throw _).of_iff fun defect => occurs_of_not_object (by simp)

def elements (fields : Entries) (key : String) : List Value :=
  match fields.get key with
  | .list items => items
  | _ => []

/-- One part for each element, in order, and each part fits its element. -/
def InOrder {α : Type} (fits : Nat → Value → α → Prop) (items : List Value) (parts : List α) :
    Prop :=
  parts.length = items.length ∧ ∀ index value part, items[index]? = some value →
    parts[index]? = some part → fits index value part

private theorem inOrder_nil {fits : Nat → Value → α → Prop} : InOrder fits [] [] :=
  ⟨rfl, fun _ _ _ found => by cases found⟩

theorem InOrder.cons {fits : Nat → Value → α → Prop} {start : Nat} {value : Value} {first : α}
    {items : List Value} {rest : List α} (fitting : fits start value first)
    (inOrder : InOrder (fun index => fits (start + 1 + index)) items rest) :
    InOrder (fun index => fits (start + index)) (value :: items) (first :: rest) := by
  refine ⟨congrArg Nat.succ inOrder.1, fun index found part given made => ?_⟩
  cases index with
  | zero =>
      cases given
      cases made
      exact fitting
  | succ index =>
      have suits : fits (start + 1 + index) found part := inOrder.2 index found part given made
      rwa [Nat.add_right_comm] at suits

variable {readItem : Nat → Value → Reading α} {fits : Nat → Value → α → Prop}

/-- Reading elements one after another finds the first of their defects, if reading one does. -/
private theorem scans_readEach (holds : place.Holds key part)
    (each : ∀ index value, Scans (readItem index value) (Occurs (part index) value)
      (fits index value)) (start : Nat) (items : List Value) :
    Scans (readEach readItem start items)
      (fun defect => ∃ index value, items[index]? = some value ∧
        Occurs (part (start + index)) value defect)
      (InOrder (fun index => fits (start + index)) items) := by
  induction items generalizing start with
  | nil => exact (scans_pure inOrder_nil).of_iff (by simp)
  | cons value items ih =>
      have both := (each start value).bind
        (fun first fitting => (ih (start + 1)).finish fun rest inOrder => inOrder.cons fitting) ?_
      · refine both.of_iff fun defect => ⟨?_, ?_⟩
        · rintro ⟨index, found, given, occurs⟩
          -- the elements after the first are read with their indices counted on from it
          cases index with
          | zero =>
              cases given
              exact .inl occurs
          | succ index =>
              rw [← Nat.add_assoc, Nat.add_right_comm] at occurs
              exact .inr ⟨index, found, given, occurs⟩
        · rintro (occurs | ⟨index, found, given, occurs⟩)
          · exact ⟨0, value, rfl, occurs⟩
          · rw [Nat.add_right_comm] at occurs
            exact ⟨index + 1, found, given, occurs⟩
      · rintro defect other here ⟨index, found, given, there⟩
        -- whatever lies in an element has the index of the element in its way
        have first := here.rank_part
        have second := there.rank_part
        rw [holds.rank_eq] at first second
        exact rank_lt_of_prefix first second (by omega)

/-- Reading the elements under a key finds the first of the defects among them. -/
private theorem scans_items {fields : Entries} (holds : place.Holds key part)
    (each : ∀ index value, Scans (readItem index value) (Occurs (part index) value)
      (fits index value)) :
    Scans (itemsOf fields key place >>= readEach readItem 0) (Among place fields key part)
      (InOrder fits (elements fields key)) := by
  unfold itemsOf elements
  cases given : fields.get key with
  | null =>
      refine (scans_pure inOrder_nil).of_iff fun defect => ⟨fun among => ?_, False.elim⟩
      cases among with
      | notAList filled _ => exact filled given
      | element listed _ _ => simp [given] at listed
  | list items =>
      have scans := scans_readEach holds each 0 items
      simp only [Nat.zero_add] at scans
      refine scans.of_iff fun defect => ⟨fun among => ?_, ?_⟩
      · cases among with
        | notAList _ other => exact absurd given (other items)
        | element listed found occurs =>
            rw [given] at listed
            cases listed
            exact ⟨_, _, found, occurs⟩
      · rintro ⟨index, value, found, occurs⟩
        exact .element given found occurs
  | bool | integer | number | text | object =>
      refine (scans_throw _).of_iff fun defect => ⟨fun among => ?_, ?_⟩
      · cases among with
        | notAList => rfl
        | element listed _ _ => simp [given] at listed
      · rintro rfl
        exact .notAList (by simp [given]) (by simp [given])

/-- The elements under a key are read before what comes next. -/
theorem scans_elements {next : List α → Reading γ} {later : Defect → Prop} {fine : γ → Prop}
    {fields : Entries} (holds : place.Holds key part)
    (each : ∀ index value, Scans (readItem index value) (Occurs (part index) value)
      (fits index value))
    (follow : ∀ parts, InOrder fits (elements fields key) parts → Scans (next parts) later fine)
    (sooner : ∀ defect other, place.Leads key defect → later other → defect.rank < other.rank) :
    Scans (itemsOf fields key place >>= fun items => readEach readItem 0 items >>= next)
      (fun defect => Among place fields key part defect ∨ later defect) fine := by
  rw [← bind_assoc]
  exact (scans_items holds each).bind follow
    fun defect other among => sooner defect other (among.leads holds)

/-! ## The parts of a novel -/

def Place.name : Place → String
  | .document => "novel"
  | .scene first => s!"scene-{first}"
  | .dialogue first second => s!"dialogue-{first}-{second}"
  | .choice first second third => s!"choice-{first}-{second}-{third}"
  | .character first => s!"character-{first}"
  | .sprite first second => s!"sprite-{first}-{second}"
  | .theme | .themeOverride _ => "theme"

private theorem Place.visible_name (place : Place) : Visible place.name := by
  have word (text : String) (letters : ∃ letter ∈ text.toList, isBlank letter = false)
      (number : Nat) : Visible (text ++ toString number) := Visible.append_left letters _
  cases place with
  | document => exact ⟨'n', by decide, by decide⟩
  | scene first => exact word "scene-" ⟨'s', by decide, by decide⟩ first
  | dialogue first second =>
      exact ((word "dialogue-" ⟨'d', by decide, by decide⟩ first).append_left _).append_left _
  | choice first second third =>
      have named := word "choice-" ⟨'c', by decide, by decide⟩ first
      exact (((named.append_left _).append_left _).append_left _).append_left _
  | character first => exact word "character-" ⟨'c', by decide, by decide⟩ first
  | sprite first second =>
      exact ((word "sprite-" ⟨'s', by decide, by decide⟩ first).append_left _).append_left _
  | theme | themeOverride =>
      change Visible "theme"
      exact ⟨'t', by decide, by decide⟩

/-- A part has the identifier that the object at its place gives, or one by its position. -/
structure Identified (place : Place) (fields : Entries) (id : String) : Prop where
  given : id = textField fields "id" place.name
  visible : Visible id
  filled : id ≠ ""

theorem identified (place : Place) (fields : Entries) :
    Identified place fields (textField fields "id" place.name) :=
  have visible := visible_textField place.visible_name
  ⟨rfl, visible, visible.ne_empty⟩

def Tells (place : Place) (value : Value) (id : String) : Prop :=
  ∃ fields, value = .object fields ∧ Identified place fields id

/-- A line has what its element gives: an entry of the menu for each choice, and the text. -/
def Dialogue.Renders (scene line : Nat) (value : Value) (dialogue : Dialogue) : Prop :=
  ∃ fields : Entries, value = .object fields ∧
    Identified (.dialogue scene line) fields dialogue.id ∧
    (∀ text, fields.get "text" = .text text → dialogue.text = text) ∧
    InOrder (fun index value choice => Tells (.choice scene line index) value choice.id)
      (elements fields "choices") dialogue.choices

def Scene.Renders (index : Nat) (value : Value) (scene : Scene) : Prop :=
  ∃ fields, value = .object fields ∧ Identified (.scene index) fields scene.id ∧
    InOrder (Dialogue.Renders index) (elements fields "dialogues") scene.dialogues

def Character.Renders (index : Nat) (value : Value) (character : Character) : Prop :=
  ∃ fields, value = .object fields ∧ Identified (.character index) fields character.id ∧
    InOrder (fun sprite value part => Tells (.sprite index sprite) value part.id)
      (elements fields "sprites") character.sprites

/-- A novel has a part for each element of its document, in order. -/
def Renders (document : Value) (novel : Novel) : Prop :=
  ∃ fields, document = .object fields ∧ Identified .document fields novel.id ∧
    InOrder Scene.Renders (elements fields "scenes") novel.scenes ∧
    InOrder Character.Renders (elements fields "characters") novel.characters

private theorem scans_readSprite (character sprite : Nat) (value : Value) :
    Scans (readSprite character sprite value) (Occurs (.sprite character sprite) value)
      (fun part => Tells (.sprite character sprite) value part.id) := by
  refine scans_fields value fun fields given => ?_
  refine (scans_pure ⟨fields, given, identified _ fields⟩).of_iff fun defect => ?_
  exact iff_false_intro (not_occurs (by rintro _ _ ⟨⟩) (by rintro _ _ ⟨⟩))

private theorem scans_readChoice (scene line choice : Nat) (value : Value) :
    Scans (readChoice scene line choice value) (Occurs (.choice scene line choice) value)
      (fun part => Tells (.choice scene line choice) value part.id) := by
  refine scans_fields value fun fields given => ?_
  refine (scans_pure ⟨fields, given, identified _ fields⟩).of_iff fun defect => ?_
  exact iff_false_intro (not_occurs (by rintro _ _ ⟨⟩) (by rintro _ _ ⟨⟩))

private theorem scans_readDialogue (scene line : Nat) (value : Value) :
    Scans (readDialogue scene line value) (Occurs (.dialogue scene line) value)
      (Dialogue.Renders scene line value) := by
  refine scans_fields value fun fields given => ?_
  refine (scans_elements .choices (scans_readChoice scene line) (fun choices inOrder =>
    (scans_wordOf _ _).finish fun effect _ => ⟨fields, given, identified _ fields, ?_, inOrder⟩)
    fun _ _ _ => False.elim).of_iff fun defect => ?_
  · rw [occurs_list .choices (by rintro _ _ ⟨⟩; exact ⟨rfl, rfl⟩) (by rintro _ _ ⟨⟩), or_false]
  · intro text told
    simp [told, lineText, Value.asText]

private theorem scans_readCharacter (index : Nat) (value : Value) :
    Scans (readCharacter index value) (Occurs (.character index) value)
      (Character.Renders index value) := by
  refine scans_fields value fun fields given => ?_
  refine (scans_elements .sprites (scans_readSprite index) (fun sprites inOrder =>
    scans_pure ⟨fields, given, identified _ fields, inOrder⟩)
    fun _ _ _ => False.elim).of_iff fun defect => ?_
  rw [occurs_list .sprites (by rintro _ _ ⟨⟩; exact ⟨rfl, rfl⟩) (by rintro _ _ ⟨⟩), or_false]

private theorem scans_readTheme {fields : Entries} {place part : Place}
    (carries : place.Carries key part) :
    Scans (readTheme (fields.get key) part) (Upon fields key part) (fun _ => True) := by
  unfold readTheme
  cases given : fields.get key with
  | null => exact (scans_pure trivial).of_iff fun defect => by simp [Upon, given]
  | bool | integer | number | text | list | object =>
      refine (scans_fields _ fun entries _ => ?_).of_iff fun defect => by simp [Upon, given]
      -- the words of a theme may be unknown, but nothing else is looked for in it
      refine ((scans_wordOf _ _).after fun family => (scans_wordOf _ _).finish
        fun _ _ => trivial).of_iff fun defect => iff_false_intro (not_occurs ?_ ?_)
      · intro other parts holds
        cases carries <;> cases holds
      · intro other parts further
        cases carries <;> cases further

private theorem scans_readScene (index : Nat) (value : Value) :
    Scans (readScene index value) (Occurs (.scene index) value) (Scene.Renders index value) := by
  refine scans_fields value fun fields given => ?_
  refine (scans_elements .dialogues (scans_readDialogue index) (fun dialogues inOrder =>
    (scans_wordOf _ _).after fun size => (scans_wordOf _ _).after fun position =>
    (scans_wordOf _ _).after fun transition => (scans_readTheme .themeOverride).finish
    fun theme _ => ⟨fields, given, identified _ fields, inOrder⟩) ?_).of_iff
    fun defect => occurs_scene
  intro defect other leads upon
  exact leads.rank_lt (upon.leads .themeOverride) (by decide)

private theorem scans_readGenre (value : Value) :
    Scans (readGenre value) (OfGenre value) (fun _ => True) := by
  unfold readGenre
  split
  · next truthy =>
      cases value with
      | text | list => exact (scans_pure trivial).of_iff fun defect => by simp [OfGenre]
      | null | bool | integer | number | object =>
          exact (scans_throw _).of_iff fun defect => by simp [OfGenre, truthy]
  · next falsy => exact (scans_pure trivial).of_iff fun defect => by simp [OfGenre, falsy]

/-- Reading a document finds the first of its defects, and gives a novel where there is none. -/
theorem scans_read (document : Value) :
    Scans (Novel.read document) (Occurs .document document) (Renders document) := by
  refine scans_fields document fun fields given => ?_
  refine ((scans_readGenre _).bind (fun genre _ => scans_elements .scenes scans_readScene
    (fun scenes shown => scans_elements .characters scans_readCharacter (fun characters known =>
      (scans_readTheme .theme).finish fun theme _ =>
        ⟨fields, given, identified _ fields, shown, known⟩) ?_) ?_) ?_).of_iff
    fun defect => occurs_document
  · intro defect other leads upon
    exact leads.rank_lt (upon.leads .theme) (by decide)
  · rintro defect other leads (among | upon)
    · exact leads.rank_lt (among.leads .characters) (by decide)
    · exact leads.rank_lt (upon.leads .theme) (by decide)
  · rintro defect other ofGenre (among | among | upon)
    · exact ofGenre.leads.rank_lt (among.leads .scenes) (by decide)
    · exact ofGenre.leads.rank_lt (among.leads .characters) (by decide)
    · exact ofGenre.leads.rank_lt (upon.leads .theme) (by decide)

/-! ## The outcome -/

theorem First.unique {first other : Defect} (least : First occurs first)
    (also : First occurs other) : first = other := by
  by_cases apart : first = other
  · exact apart
  · have below := least.2 other also.1 (Ne.symm apart)
    exact absurd (List.lt_trans below (also.2 first least.1 apart)) (List.lt_irrefl _)

private theorem ofValue_error_iff {document : Value} {defect : Defect} :
    (Novel.ofValue document).1 = .error defect ↔ First (Occurs .document document) defect := by
  constructor
  · exact (scans_read document).stops
  · intro first
    cases outcome : (Novel.ofValue document).1 with
    | error other => rw [first.unique ((scans_read document).stops outcome)]
    | ok novel => exact absurd first.1 (((scans_read document).ends outcome).1 defect)

/-- A document fails to load exactly on its defects, at the first one, and otherwise comes
to a novel that renders it. -/
theorem ofValue_outcome (document : Value) :
    ((∃ error, (Novel.ofValue document).1.mapError DocumentError.defective = .error error) ↔
      ∃ defect, Occurs .document document defect) ∧
    (∀ error, (Novel.ofValue document).1.mapError DocumentError.defective = .error error →
      ∃ defect, First (Occurs .document document) defect ∧ error = .defective defect ∧
        error.location? = some defect.place.path) ∧
    ∀ novel, (Novel.ofValue document).1 = .ok novel → Renders document novel := by
  cases outcome : (Novel.ofValue document).1 with
  | error defect =>
      have first := ofValue_error_iff.mp outcome
      refine ⟨⟨fun _ => ⟨defect, first.1⟩, fun _ => ⟨_, rfl⟩⟩, fun error failed => ?_, ?_⟩
      · cases failed
        exact ⟨defect, first, rfl, rfl⟩
      · intro novel read
        cases read
  | ok novel =>
      obtain ⟨none, renders⟩ := (scans_read document).ends outcome
      refine ⟨⟨?_, fun ⟨defect, occurs⟩ => absurd occurs (none defect)⟩, ?_, ?_⟩
      · rintro ⟨error, failed⟩
        cases failed
      · intro error failed
        cases failed
      · intro other read
        cases read
        exact renders

namespace Sample

def botched : Value :=
  .object [("theme", .list []), ("scenes", .list [
    .object [("themeOverride", .integer 3), ("dialogues", .list [.text "Hm."])]])]

end Sample

/-- What stands in a scene counts before what stands beside it. -/
theorem ofValue_outcome_botched :
    (Occurs .document Sample.botched (.notAnObject (.themeOverride 0))) ∧
    ∃ defect, First (Occurs .document Sample.botched) defect ∧
      defect.place.path = "scenes[0].dialogues[0]" := by
  constructor
  · have number : ∀ fields, Value.integer 3 ≠ .object fields := by simp
    have there : Value.integer 3 ≠ .null := by simp
    have beside := @Occurs.notAnObject (.themeOverride 0) _ number
    exact .element .scenes rfl (List.getElem?_cons_zero ..) (.style .themeOverride there beside)
  · obtain ⟨defect, first, same, -⟩ := (ofValue_outcome Sample.botched).2.1
      (.defective (.notAnObject (.dialogue 0 0))) rfl
    cases same
    exact ⟨_, first, by decide⟩

end VisualNovel.Novel
