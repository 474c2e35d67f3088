import VisualNovel.Novel.Document

/-!
# Defects of a document

What makes a document unreadable, told of the document alone: an element that is no
object, or the elements of an object that are no list. Defects are put in order by
the way that leads to them, field after field and element after element.
-/

set_option autoImplicit false

namespace VisualNovel.Novel

open VisualNovel.Json

/-- The object at a place has a list under a key, and this is where its elements are. -/
inductive Place.Holds : Place → String → (Nat → Place) → Prop where
  | scenes : Holds .document "scenes" .scene
  | dialogues {scene} : Holds (.scene scene) "dialogues" (.dialogue scene)
  | choices {scene line} : Holds (.dialogue scene line) "choices" (.choice scene line)
  | characters : Holds .document "characters" .character
  | sprites {character} : Holds (.character character) "sprites" (.sprite character)

/-- The object at a place may have another object under a key, and this is its place. -/
inductive Place.Carries : Place → String → Place → Prop where
  | theme : Carries .document "theme" .theme
  | themeOverride {scene} : Carries (.scene scene) "themeOverride" (.themeOverride scene)

/-- A defect that lies in the value at a place. -/
inductive Occurs : Place → Value → Defect → Prop where
  | notAnObject {place : Place} {value : Value} : (∀ fields, value ≠ .object fields) →
      Occurs place value (.notAnObject place)
  | notAList {place : Place} {fields : Entries} {key : String} {part : Nat → Place} :
      place.Holds key part → fields.get key ≠ .null → (∀ items, fields.get key ≠ .list items) →
      Occurs place (.object fields) (.notAList key place)
  | genre {fields : Entries} : (fields.get "genre").truthy = true →
      (∀ text, fields.get "genre" ≠ .text text) → (∀ items, fields.get "genre" ≠ .list items) →
      Occurs .document (.object fields) (.notAList "genre" .document)
  | element {place : Place} {fields : Entries} {key : String} {part : Nat → Place}
      {items : List Value} {index : Nat} {value : Value} {defect : Defect} :
      place.Holds key part → fields.get key = .list items → items[index]? = some value →
      Occurs (part index) value defect → Occurs place (.object fields) defect
  | style {place : Place} {fields : Entries} {key : String} {part : Place} {defect : Defect} :
      place.Carries key part → fields.get key ≠ .null →
      Occurs part (fields.get key) defect → Occurs place (.object fields) defect

/-! ## The order of defects -/

/-- The fields that hold other parts of a document, each before those it is read before. -/
def readingOrder : List String :=
  ["genre", "scenes", "dialogues", "choices", "themeOverride", "characters", "sprites", "theme"]

def turn (key : String) : Nat :=
  readingOrder.idxOf key

/-- The way from the document to a place: the turns of fields and the positions in lists. -/
def Place.rank : Place → List Nat
  | .document => []
  | .scene first => [turn "scenes", first]
  | .themeOverride first => [turn "scenes", first, turn "themeOverride"]
  | .dialogue first second => [turn "scenes", first, turn "dialogues", second]
  | .choice first second third =>
      [turn "scenes", first, turn "dialogues", second, turn "choices", third]
  | .character first => [turn "characters", first]
  | .sprite first second => [turn "characters", first, turn "sprites", second]
  | .theme => [turn "theme"]

def Defect.rank : Defect → List Nat
  | .notAnObject place => place.rank
  | .notAList key place => place.rank ++ [turn key]

/-- The first of the defects that occur: the way to any other comes later, entry by entry. -/
def First (occurs : Defect → Prop) (defect : Defect) : Prop :=
  occurs defect ∧ ∀ other, occurs other → other ≠ defect → defect.rank < other.rank

def Place.Leads (place : Place) (key : String) (defect : Defect) : Prop :=
  place.rank ++ [turn key] <+: defect.rank

variable {place : Place} {key : String} {part : Nat → Place} {value : Value} {defect : Defect}

theorem rank_lt_of_prefix {way first later : List Nat} {turn after : Nat}
    (before : way ++ [turn] <+: first) (behind : way ++ [after] <+: later) (sooner : turn < after) :
    first < later := by
  obtain ⟨rest, rfl⟩ := before
  obtain ⟨others, rfl⟩ := behind
  induction way with
  | nil => exact List.Lex.rel sooner
  | cons entry way ih => exact List.Lex.cons ih

theorem Place.Leads.rank_lt {later : String} {other : Defect} (leads : place.Leads key defect)
    (behind : place.Leads later other) (sooner : turn key < turn later) :
    defect.rank < other.rank :=
  rank_lt_of_prefix leads behind sooner

theorem Place.Holds.rank_eq (holds : place.Holds key part) (index : Nat) :
    (part index).rank = place.rank ++ [turn key] ++ [index] := by
  cases holds <;> rfl

theorem Place.Carries.rank_eq {part : Place} (carries : place.Carries key part) :
    part.rank = place.rank ++ [turn key] := by
  cases carries <;> rfl

theorem Occurs.rank_part (occurs : Occurs place value defect) : place.rank <+: defect.rank := by
  induction occurs with
  | notAnObject => exact List.prefix_refl _
  | notAList => exact List.prefix_append _ _
  | genre => exact List.prefix_append _ _
  | @element place fields key part items index value defect holds given at_ inner ih =>
      rw [holds.rank_eq, List.append_assoc] at ih
      exact (List.prefix_append _ _).trans ih
  | style carries given inner ih =>
      rw [carries.rank_eq] at ih
      exact (List.prefix_append _ _).trans ih

/-! ## The defects of one object -/

inductive Among (place : Place) (fields : Entries) (key : String) (part : Nat → Place) :
    Defect → Prop where
  | notAList : fields.get key ≠ .null → (∀ items, fields.get key ≠ .list items) →
      Among place fields key part (.notAList key place)
  | element {items : List Value} {index : Nat} {value : Value} {defect : Defect} :
      fields.get key = .list items →
      items[index]? = some value → Occurs (part index) value defect →
      Among place fields key part defect

def Upon (fields : Entries) (key : String) (part : Place) (defect : Defect) : Prop :=
  fields.get key ≠ .null ∧ Occurs part (fields.get key) defect

def OfGenre (value : Value) (defect : Defect) : Prop :=
  value.truthy = true ∧ (∀ text, value ≠ .text text) ∧ (∀ items, value ≠ .list items) ∧
    defect = .notAList "genre" .document

theorem Among.leads {fields : Entries} (among : Among place fields key part defect)
    (holds : place.Holds key part) : place.Leads key defect := by
  cases among with
  | notAList => exact List.prefix_refl _
  | element _ _ occurs =>
      have further := occurs.rank_part
      rw [holds.rank_eq] at further
      exact (List.prefix_append _ _).trans further

theorem Upon.leads {fields : Entries} {part : Place} (upon : Upon fields key part defect)
    (carries : place.Carries key part) : place.Leads key defect := by
  have further := upon.2.rank_part
  rwa [carries.rank_eq] at further

theorem OfGenre.leads (ofGenre : OfGenre value defect) : Place.document.Leads "genre" defect := by
  obtain ⟨-, -, -, rfl⟩ := ofGenre
  exact List.prefix_refl _

variable {fields : Entries}

theorem occurs_of_not_object (other : ∀ fields, value ≠ .object fields) :
    Occurs place value defect ↔ defect = .notAnObject place := by
  constructor
  · intro occurs
    cases occurs with
    | notAnObject => rfl
    | notAList | genre | element | style => exact absurd rfl (other _)
  · rintro rfl
    exact .notAnObject other

/-- A defect in an object lies in its genres, in the elements under a key, or in the object under a
key. -/
theorem occurs_object :
    Occurs place (.object fields) defect ↔
      (place = .document ∧ OfGenre (fields.get "genre") defect) ∨
      (∃ key part, place.Holds key part ∧ Among place fields key part defect) ∨
      ∃ key part, place.Carries key part ∧ Upon fields key part defect := by
  constructor
  · intro occurs
    cases occurs with
    | notAnObject other => exact absurd rfl (other fields)
    | notAList holds given other => exact .inr (.inl ⟨_, _, holds, .notAList given other⟩)
    | genre truthy noText noList => exact .inl ⟨rfl, truthy, noText, noList, rfl⟩
    | element holds given found occurs =>
        exact .inr (.inl ⟨_, _, holds, .element given found occurs⟩)
    | style carries given occurs => exact .inr (.inr ⟨_, _, carries, given, occurs⟩)
  · rintro (⟨rfl, truthy, noText, noList, rfl⟩ | ⟨key, part, holds, among⟩ |
      ⟨key, part, carries, given, occurs⟩)
    · exact .genre truthy noText noList
    · cases among with
      | notAList given other => exact .notAList holds given other
      | element given found occurs => exact .element holds given found occurs
    · exact .style carries given occurs

/-- A defect in a document lies in its genres, its scenes, its characters or its theme. -/
theorem occurs_document :
    Occurs .document (.object fields) defect ↔ OfGenre (fields.get "genre") defect ∨
      Among .document fields "scenes" .scene defect ∨
      Among .document fields "characters" .character defect ∨
      Upon fields "theme" .theme defect := by
  rw [occurs_object]
  constructor
  · rintro (⟨-, ofGenre⟩ | ⟨key, part, holds, among⟩ | ⟨key, part, carries, upon⟩)
    · exact .inl ofGenre
    · cases holds with
      | scenes => exact .inr (.inl among)
      | characters => exact .inr (.inr (.inl among))
    · cases carries
      exact .inr (.inr (.inr upon))
  · rintro (ofGenre | among | among | upon)
    · exact .inl ⟨rfl, ofGenre⟩
    · exact .inr (.inl ⟨_, _, .scenes, among⟩)
    · exact .inr (.inl ⟨_, _, .characters, among⟩)
    · exact .inr (.inr ⟨_, _, .theme, upon⟩)

theorem occurs_scene {scene : Nat} :
    Occurs (.scene scene) (.object fields) defect ↔
      Among (.scene scene) fields "dialogues" (.dialogue scene) defect ∨
      Upon fields "themeOverride" (.themeOverride scene) defect := by
  rw [occurs_object]
  constructor
  · rintro (⟨root, -⟩ | ⟨key, part, holds, among⟩ | ⟨key, part, carries, upon⟩)
    · cases root
    · cases holds
      exact .inl among
    · cases carries
      exact .inr upon
  · rintro (among | upon)
    · exact .inr (.inl ⟨_, _, .dialogues, among⟩)
    · exact .inr (.inr ⟨_, _, .themeOverride, upon⟩)

/-- An object in which only one list is looked for. -/
theorem occurs_list (holds : place.Holds key part)
    (sole : ∀ other parts, place.Holds other parts → other = key ∧ parts = part)
    (bare : ∀ other part, ¬ place.Carries other part) :
    Occurs place (.object fields) defect ↔ Among place fields key part defect := by
  rw [occurs_object]
  constructor
  · rintro (⟨rfl, -⟩ | ⟨other, parts, held, among⟩ | ⟨other, part, carries, -⟩)
    · exact absurd .theme (bare _ _)
    · obtain ⟨rfl, rfl⟩ := sole other parts held
      exact among
    · exact absurd carries (bare other part)
  · intro among
    exact .inr (.inl ⟨key, part, holds, among⟩)

/-- An object in which no other parts are looked for. -/
theorem not_occurs (empty : ∀ key part, ¬ place.Holds key part)
    (bare : ∀ key part, ¬ place.Carries key part) : ¬ Occurs place (.object fields) defect := by
  rw [occurs_object]
  rintro (⟨rfl, -⟩ | ⟨key, part, holds, -⟩ | ⟨key, part, carries, -⟩)
  · exact bare _ _ .theme
  · exact empty key part holds
  · exact bare key part carries

end VisualNovel.Novel
