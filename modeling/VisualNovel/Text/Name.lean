import VisualNovel.Text.Blank

/-!
# Names compared without regard to case

Key names, commands and the words of the document vocabulary are all ASCII. They
are compared after lower-casing, for which only the characters with an ASCII
lower-case form matter: the capital letters and the Kelvin sign.
-/

set_option autoImplicit false

namespace VisualNovel.Text

/-- The lower-case form of a character, as far as ASCII forms go. -/
def lowerCharacter (character : Char) : Char :=
  if character = '\u212a' then 'k' else character.toLower

def lower (text : String) : String :=
  String.ofList (text.toList.map lowerCharacter)

/-- The form in which a word of the document vocabulary is recognised. -/
def wordForm (text : String) : String :=
  lower (strip text)

end VisualNovel.Text
