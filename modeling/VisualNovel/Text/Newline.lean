/-!
# Line ends

Text files are read with every line end in one form: a carriage return, alone or
before a line feed, becomes a line feed.
-/

set_option autoImplicit false

namespace VisualNovel.Text

def unifyLineEnds : List Char → List Char
  | [] => []
  | '\r' :: '\n' :: rest => '\n' :: unifyLineEnds rest
  | character :: rest => (if character = '\r' then '\n' else character) :: unifyLineEnds rest

def withLineFeeds (text : String) : String :=
  String.ofList (unifyLineEnds text.toList)

theorem carriageReturn_not_mem_unifyLineEnds (characters : List Char) :
    '\r' ∉ unifyLineEnds characters := by
  fun_induction unifyLineEnds characters <;> grind

end VisualNovel.Text
