import VisualNovel.Json.Value
import VisualNovel.Numeric.Spelling
import VisualNovel.Text.Quoted

/-!
# Values shown in messages

A value inside a message is shown with its texts quoted, its lists in brackets
and its objects in braces. A value that stands for a text is shown the same way,
except that a text stands for itself.
-/

set_option autoImplicit false

namespace VisualNovel.Json

open VisualNovel.Numeric VisualNovel.Text

mutual

def Value.quoted : Value → String
  | .null => "None"
  | .bool value => if value then "True" else "False"
  | .integer value => toString value
  | .number value => shownSpelling.write value
  | .text value => Text.quoted value
  | .list items => "[" ++ ", ".intercalate (quotedItems items) ++ "]"
  | .object entries => "\x7b" ++ ", ".intercalate (quotedEntries entries) ++ "\x7d"

def quotedItems : List Value → List String
  | [] => []
  | item :: items => item.quoted :: quotedItems items

def quotedEntries : List (String × Value) → List String
  | [] => []
  | (key, value) :: entries => (Text.quoted key ++ ": " ++ value.quoted) :: quotedEntries entries

end

/-- A value as a text: a text itself, anything else as it is shown. -/
def Value.asText : Value → String
  | .text value => value
  | value => value.quoted

end VisualNovel.Json
