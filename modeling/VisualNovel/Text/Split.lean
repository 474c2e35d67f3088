/-!
# Splitting texts

A text is split at every occurrence of a separator, at the first one or at the
last one. The separators themselves are left out.
-/

set_option autoImplicit false

namespace VisualNovel.Text

/-- The pieces of a text between the separators. There is always at least one. -/
def pieces (separator : Char) : List Char → List (List Char)
  | [] => [[]]
  | character :: rest =>
      if character = separator then [] :: pieces separator rest
      else
        match pieces separator rest with
        | [] => [[character]]
        | piece :: others => (character :: piece) :: others

/-- The part of a text before the first separator, everything if there is none. -/
def beforeFirst (separator : Char) (characters : List Char) : List Char :=
  characters.takeWhile (· ≠ separator)

def afterLast (separator : Char) (characters : List Char) : List Char :=
  (beforeFirst separator characters.reverse).reverse

def splitAtFirst? (separator : Char) (characters : List Char) :
    Option (List Char × List Char) :=
  if separator ∈ characters then
    some (beforeFirst separator characters, (characters.dropWhile (· ≠ separator)).drop 1)
  else none

theorem pieces_ne_nil (separator : Char) (characters : List Char) :
    pieces separator characters ≠ [] := by
  cases characters with
  | nil => simp [pieces]
  | cons character rest =>
      simp only [pieces]
      split
      · simp
      · split <;> simp

/-- The pieces with the separators between them are the text. -/
theorem intercalate_pieces (separator : Char) (characters : List Char) :
    List.intercalate [separator] (pieces separator characters) = characters := by
  induction characters with
  | nil => rfl
  | cons character rest ih =>
      rcases found : pieces separator rest with _ | ⟨piece, others⟩
      · exact absurd found (pieces_ne_nil separator rest)
      · rw [found] at ih
        by_cases same : character = separator
        · simp only [pieces, same, if_true, found]
          rw [← ih]
          simp [List.intercalate]
        · simp only [pieces, same, if_false, found]
          rw [← ih]
          cases others <;> simp [List.intercalate]

theorem pieces_of_notMem {separator : Char} {text : List Char} (whole : separator ∉ text) :
    pieces separator text = [text] := by
  induction text with
  | nil => rfl
  | cons character rest hypothesis =>
      obtain ⟨other, whole⟩ := List.ne_and_not_mem_of_not_mem_cons whole
      simp [pieces, Ne.symm other, hypothesis whole]

theorem pieces_append_cons (separator : Char) (first rest : List Char) :
    pieces separator (first ++ separator :: rest) =
      pieces separator first ++ pieces separator rest := by
  induction first with
  | nil => simp [pieces]
  | cons character first hypothesis =>
      by_cases same : character = separator
      · simp [pieces, same, hypothesis]
      · cases found : pieces separator first with
        | nil => exact absurd found (pieces_ne_nil separator first)
        | cons piece others => simp [pieces, same, hypothesis, found]

theorem notMem_of_mem_pieces {separator : Char} {text piece : List Char}
    (member : piece ∈ pieces separator text) : separator ∉ piece := by
  induction text generalizing piece with
  | nil => simp_all [pieces]
  | cons character rest hypothesis =>
      by_cases same : character = separator
      · simp only [pieces, same, if_true, List.mem_cons] at member
        rcases member with rfl | member
        · simp
        · exact hypothesis member
      · cases found : pieces separator rest with
        | nil => exact absurd found (pieces_ne_nil separator rest)
        | cons first others =>
            rw [found] at hypothesis
            simp only [pieces, same, if_false, found, List.mem_cons] at member
            rcases member with rfl | member
            · simpa [Ne.symm same] using hypothesis List.mem_cons_self
            · exact hypothesis (List.mem_cons_of_mem _ member)

/-- The pieces, each with a separator after it, are the text with a separator after it. -/
theorem flatMap_pieces (separator : Char) (text : List Char) :
    (pieces separator text).flatMap (· ++ [separator]) = text ++ [separator] := by
  induction text with
  | nil => rfl
  | cons character rest hypothesis =>
      cases found : pieces separator rest with
      | nil => exact absurd found (pieces_ne_nil separator rest)
      | cons first others =>
          rw [found] at hypothesis
          by_cases same : character = separator
          · simpa [pieces, same, found] using hypothesis
          · simpa [pieces, same, found] using hypothesis

end VisualNovel.Text
