/-!
# Places in a document

Reports about a document say where in it something was found.
-/

set_option autoImplicit false

namespace VisualNovel.Novel

/-- A place in a document, by positions counted from zero. -/
inductive Place where
  | document
  | scene (scene : Nat)
  | themeOverride (scene : Nat)
  | dialogue (scene dialogue : Nat)
  | choice (scene dialogue choice : Nat)
  | character (character : Nat)
  | sprite (character sprite : Nat)
  | theme
  deriving DecidableEq, Repr

def Place.path : Place → String
  | .document => "$"
  | .scene first => s!"scenes[{first}]"
  | .themeOverride first => s!"scenes[{first}].themeOverride"
  | .dialogue first second => s!"scenes[{first}].dialogues[{second}]"
  | .choice first second third => s!"scenes[{first}].dialogues[{second}].choices[{third}]"
  | .character first => s!"characters[{first}]"
  | .sprite first second => s!"characters[{first}].sprites[{second}]"
  | .theme => "theme"

end VisualNovel.Novel
