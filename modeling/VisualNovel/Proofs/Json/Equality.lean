import VisualNovel.Json.Value

/-!
# Telling values apart

Whether two values are the same is found out part by part. Entries count in their
order, and numbers are the same where all their bits are.
-/

set_option autoImplicit false

namespace VisualNovel.Json

mutual

def Value.same : Value → Value → Bool
  | .null, .null => true
  | .bool first, .bool second => first == second
  | .integer first, .integer second => first == second
  | .number first, .number second => decide (first = second)
  | .text first, .text second => first == second
  | .list first, .list second => sameItems first second
  | .object first, .object second => sameEntries first second
  | _, _ => false

def sameItems : List Value → List Value → Bool
  | [], [] => true
  | first :: items, second :: others => first.same second && sameItems items others
  | _, _ => false

def sameEntries : List (String × Value) → List (String × Value) → Bool
  | [], [] => true
  | (key, first) :: entries, (other, second) :: others =>
      key == other && first.same second && sameEntries entries others
  | _, _ => false

end

mutual

theorem Value.same_self (value : Value) : value.same value = true := by
  cases value with
  | null => rfl
  | bool | integer | number | text => simp [Value.same]
  | list items => exact sameItems_self items
  | object entries => exact sameEntries_self entries

private theorem sameItems_self (items : List Value) : sameItems items items = true := by
  cases items with
  | nil => rfl
  | cons item items => simp [sameItems, Value.same_self item, sameItems_self items]

private theorem sameEntries_self (entries : List (String × Value)) :
    sameEntries entries entries = true := by
  match entries with
  | [] => rfl
  | (key, value) :: entries =>
      simp [sameEntries, Value.same_self value, sameEntries_self entries]

end

mutual

theorem Value.eq_of_same {first second : Value} (same : first.same second = true) :
    first = second := by
  match first, second with
  | .null, .null => rfl
  | .bool _, .bool _ | .integer _, .integer _ | .number _, .number _ | .text _, .text _ =>
      simpa [Value.same] using same
  | .list items, .list others => rw [eq_of_sameItems same]
  | .object entries, .object others => rw [eq_of_sameEntries same]

private theorem eq_of_sameItems {first second : List Value} (same : sameItems first second = true) :
    first = second := by
  match first, second with
  | [], [] => rfl
  | item :: items, other :: others =>
      simp only [sameItems, Bool.and_eq_true] at same
      rw [Value.eq_of_same same.1, eq_of_sameItems same.2]

private theorem eq_of_sameEntries {first second : List (String × Value)}
    (same : sameEntries first second = true) : first = second := by
  match first, second with
  | [], [] => rfl
  | (key, value) :: entries, (other, given) :: others =>
      simp only [sameEntries, Bool.and_eq_true, beq_iff_eq] at same
      obtain ⟨⟨rfl, alike⟩, rest⟩ := same
      rw [Value.eq_of_same alike, eq_of_sameEntries rest]

end

instance : DecidableEq Value := fun first second =>
  decidable_of_iff (first.same second = true)
    ⟨Value.eq_of_same, fun same => same ▸ first.same_self⟩

end VisualNovel.Json
