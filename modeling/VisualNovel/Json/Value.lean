/-!
# Data values

The values that a document or a settings file holds. Integers and floating-point
numbers are told apart, and an object keeps its entries in the order in which
their keys first appeared.
-/

set_option autoImplicit false

namespace VisualNovel.Json

/-- A data value. -/
inductive Value where
  | null
  | bool (value : Bool)
  | integer (value : Int)
  | number (value : Float)
  | text (value : String)
  | list (items : List Value)
  | object (entries : List (String × Value))
  deriving Inhabited

abbrev Entries := List (String × Value)

def Entries.get? (entries : Entries) (key : String) : Option Value :=
  List.lookup key entries

def Entries.get (entries : Entries) (key : String) : Value :=
  (entries.get? key).getD .null

/-- Sets the value of a key. A key that is there keeps its place, a new one comes last. -/
def Entries.insert (entries : Entries) (key : String) (value : Value) : Entries :=
  match entries with
  | [] => [(key, value)]
  | (first, old) :: rest =>
      if first = key then (key, value) :: rest else (first, old) :: Entries.insert rest key value

/-- Sets the values of all keys of the second object in the first. -/
def Entries.update (entries extra : Entries) : Entries :=
  extra.foldl (fun merged entry => merged.insert entry.1 entry.2) entries

def Value.ofText? (text : Option String) : Value :=
  (text.map .text).getD .null

def Value.ofTexts (texts : List String) : Value :=
  .list (texts.map .text)

def Value.kind : Value → String
  | .null => "NoneType"
  | .bool _ => "bool"
  | .integer _ => "int"
  | .number _ => "float"
  | .text _ => "str"
  | .list _ => "list"
  | .object _ => "dict"

/-- Whether a value counts as true: null, false, zero and everything empty do not. -/
def Value.truthy : Value → Bool
  | .null => false
  | .bool value => value
  | .integer value => value ≠ 0
  | .number value => value != 0.0
  | .text value => !value.isEmpty
  | .list items => !items.isEmpty
  | .object entries => !entries.isEmpty

theorem Entries.get?_insert_self (entries : Entries) (key : String) (value : Value) :
    (entries.insert key value).get? key = some value := by
  induction entries with
  | nil => simp [Entries.insert, Entries.get?]
  | cons entry rest ih =>
      obtain ⟨first, old⟩ := entry
      by_cases same : first = key
      · simp [Entries.insert, Entries.get?, same]
      · have different : (key == first) = false := by simpa using fun equal => same equal.symm
        simpa [Entries.insert, Entries.get?, same, List.lookup_cons, different] using ih

theorem Entries.get?_insert_of_ne (entries : Entries) {key other : String} (value : Value)
    (different : other ≠ key) :
    (entries.insert key value).get? other = entries.get? other := by
  induction entries with
  | nil =>
      have apart : (other == key) = false := by simpa using different
      simp [Entries.insert, Entries.get?, List.lookup_cons, apart]
  | cons entry rest ih =>
      obtain ⟨first, old⟩ := entry
      by_cases same : first = key
      · subst same
        have apart : (other == first) = false := by simpa using different
        simp [Entries.insert, Entries.get?, List.lookup_cons, apart]
      · cases found : other == first
        · simpa [Entries.insert, Entries.get?, same, List.lookup_cons, found] using ih
        · simp [Entries.insert, Entries.get?, same, List.lookup_cons, found]

end VisualNovel.Json
