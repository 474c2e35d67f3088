/-!
# Blank characters

The characters that count as white space: the control separators of ASCII, the
next-line control, and every Unicode space and line or paragraph separator. The
zero-width space and the byte order mark are not blank.
-/

set_option autoImplicit false

namespace VisualNovel.Text

def isBlank (character : Char) : Bool :=
  let code := character.toNat
  (9 ≤ code && code ≤ 13) || (0x1c ≤ code && code ≤ 0x20) ||
    code == 0x85 || code == 0xa0 || code == 0x1680 ||
    (0x2000 ≤ code && code ≤ 0x200a) || code == 0x2028 || code == 0x2029 ||
    code == 0x202f || code == 0x205f || code == 0x3000

theorem isBlank_of_isWhitespace {character : Char} (white : character.isWhitespace = true) :
    isBlank character = true := by
  simp only [Char.isWhitespace, Bool.or_eq_true, decide_eq_true_eq] at white
  rcases white with ((rfl | rfl) | rfl) | rfl <;> decide

def trimBoth (drops : Char → Bool) (characters : List Char) : List Char :=
  ((characters.dropWhile drops).reverse.dropWhile drops).reverse

def strip (text : String) : String :=
  String.ofList (trimBoth isBlank text.toList)

def allBlank (text : String) : Bool :=
  text.toList.all isBlank

def cut (limit : Nat) (text : String) : String :=
  String.ofList (text.toList.take limit)

end VisualNovel.Text
