import VisualNovel.Json.Writer
import VisualNovel.Text.Newline

/-!
# Line ends of written values

A written value breaks its lines with line feeds alone: a carriage return inside a
text is escaped, and numbers have none. Such a text is not changed by having its
line ends unified.
-/

set_option autoImplicit false

namespace VisualNovel

namespace Text

private theorem unifyLineEnds_of_notMem {characters : List Char} (unbroken : '\r' ∉ characters) :
    unifyLineEnds characters = characters := by
  fun_induction unifyLineEnds characters with
  | case1 => rfl
  | case2 => simp at unbroken
  | case3 character rest _ hypothesis =>
      obtain ⟨other, rest⟩ := List.ne_and_not_mem_of_not_mem_cons unbroken
      rw [if_neg (Ne.symm other), hypothesis rest]

theorem withLineFeeds_of_notMem {text : String} (unbroken : '\r' ∉ text.toList) :
    withLineFeeds text = text := by
  rw [withLineFeeds, unifyLineEnds_of_notMem unbroken, String.ofList_toList]

private theorem notMem_intercalate {character : Char} {separator : String} {parts : List String}
    (between : character ∉ separator.toList)
    (within : ∀ part ∈ parts, character ∉ part.toList) :
    character ∉ (separator.intercalate parts).toList := by
  rw [String.toList_intercalate]
  induction parts with
  | nil => simp [List.intercalate]
  | cons part parts hypothesis =>
      obtain ⟨first, others⟩ := List.forall_mem_cons.mp within
      cases parts with
      | nil => simpa [List.intercalate] using first
      | cons next parts =>
          have rest := hypothesis others
          simp only [List.intercalate, List.map_cons, List.intersperse_cons_cons, List.flatten_cons,
            List.mem_append, not_or] at rest ⊢
          exact ⟨first, between, rest⟩

private theorem return_notMem_hexDigits (width number : Nat) : '\r' ∉ hexDigits width number := by
  have other : ∀ value < 16, '\r' ≠ hexDigit value := by decide
  induction width generalizing number with
  | zero => simp [hexDigits]
  | succ width hypothesis =>
      have last := other (number % 16) (Nat.mod_lt _ (by decide))
      simp [hexDigits, hypothesis, last]

end Text

namespace Numeric

private theorem isDigit_of_mem_digitsOf {character : Char} {number : Nat}
    (member : character ∈ digitsOf number) : character.isDigit = true := by
  have digit : character ∈ Nat.toDigits 10 number := by simpa [digitsOf] using member
  exact Nat.isDigit_of_mem_toDigits (by decide) (by decide) digit

theorem return_notMem_digitsOf (number : Nat) : '\r' ∉ digitsOf number :=
  fun member => absurd (isDigit_of_mem_digitsOf member) (by decide)

private theorem return_notMem_exponentDigits (width : Nat) (exponent : Int) :
    '\r' ∉ exponentDigits width exponent := by
  have digits := return_notMem_digitsOf exponent.natAbs
  unfold exponentDigits
  split <;> simp [digits]

private theorem return_notMem_decimal (spelling : Spelling) (decimal : Decimal) :
    '\r' ∉ spelling.decimal decimal := by
  have digits := return_notMem_digitsOf decimal.digits
  have taken (count : Nat) : '\r' ∉ (digitsOf decimal.digits).take count :=
    fun member => digits (List.mem_of_mem_take member)
  have dropped (count : Nat) : '\r' ∉ (digitsOf decimal.digits).drop count :=
    fun member => digits (List.mem_of_mem_drop member)
  unfold Spelling.decimal
  dsimp only
  split
  · split
    · simp [digits]
    · split
      · simp [digits]
      · simp [taken, dropped]
  · have exponent := return_notMem_exponentDigits spelling.exponentWidth
    have others : '\r' ∉ (digitsOf decimal.digits).tail := by simpa using dropped 1
    split <;> simp [taken, others, exponent]

private theorem return_notMem_write (spelling : Spelling) (number : Float)
    (word : '\r' ∉ spelling.notANumber.toList) (wordToo : '\r' ∉ spelling.infinity.toList) :
    '\r' ∉ (spelling.write number).toList := by
  unfold Spelling.write
  cases Exact.of number with
  | nan => exact word
  | infinite negative => cases negative <;> simp [wordToo]
  | finite negative mantissa exponent =>
      have digits := return_notMem_decimal spelling (shortest mantissa exponent)
      cases negative <;> by_cases zero : mantissa = 0 <;> simp [zero, digits]

end Numeric

namespace Json

open VisualNovel.Text VisualNovel.Numeric

private theorem return_notMem_writtenCharacter (character : Char) :
    '\r' ∉ writtenCharacter character := by
  have digits := return_notMem_hexDigits 4 character.toNat
  unfold writtenCharacter
  repeat' split
  all_goals simp_all [eq_comm]

private theorem return_notMem_writtenText (text : String) : '\r' ∉ (writtenText text).toList := by
  simp [writtenText, return_notMem_writtenCharacter]

theorem return_notMem_newLine (level : Nat) : '\r' ∉ (newLine level).toList := by
  simp [newLine]

private theorem return_notMem_writtenBlock {opening closing : String} {parts : List String}
    (level : Nat)
    (start : '\r' ∉ opening.toList) (stop : '\r' ∉ closing.toList)
    (within : ∀ part ∈ parts, '\r' ∉ part.toList) :
    '\r' ∉ (writtenBlock level opening closing parts).toList := by
  have between : '\r' ∉ ("," ++ newLine (level + 1)).toList := by
    simp [return_notMem_newLine]
  unfold writtenBlock
  split
  · simp [start, stop]
  · have inner := notMem_intercalate between within
    simp only [String.toList_append, List.mem_append, not_or] at inner ⊢
    exact ⟨⟨⟨⟨start, return_notMem_newLine _⟩, inner⟩, return_notMem_newLine _⟩, stop⟩

mutual

/-- A value is written without carriage returns, at any level. -/
theorem return_notMem_writeAt (level : Nat) (value : Value) :
    '\r' ∉ (value.writeAt level).toList := by
  cases value with
  | null => simp [Value.writeAt]
  | bool value => cases value <;> simp [Value.writeAt]
  | integer value =>
      rw [Value.writeAt, Int.toString_eq_repr, Int.repr_eq_if]
      have digits (number : Nat) : '\r' ∉ Nat.toDigits 10 number := by
        simpa [digitsOf] using return_notMem_digitsOf number
      split <;> simp [digits]
  | number value => exact return_notMem_write fileSpelling value (by decide) (by decide)
  | text value => exact return_notMem_writtenText value
  | list items =>
      exact return_notMem_writtenBlock level (by decide) (by decide)
        (return_notMem_writeItems (level + 1) items)
  | object entries =>
      exact return_notMem_writtenBlock level (by decide) (by decide)
        (return_notMem_writeEntries (level + 1) entries)

private theorem return_notMem_writeItems (level : Nat) (items : List Value) :
    ∀ part ∈ writeItems level items, '\r' ∉ part.toList := by
  cases items with
  | nil => simp [writeItems]
  | cons item items =>
      rw [writeItems]
      exact List.forall_mem_cons.mpr
        ⟨return_notMem_writeAt level item, return_notMem_writeItems level items⟩

private theorem return_notMem_writeEntries (level : Nat) (entries : List (String × Value)) :
    ∀ part ∈ writeEntries level entries, '\r' ∉ part.toList := by
  cases entries with
  | nil => simp [writeEntries]
  | cons entry entries =>
      obtain ⟨key, value⟩ := entry
      rw [writeEntries]
      refine List.forall_mem_cons.mpr ⟨?_, return_notMem_writeEntries level entries⟩
      simp [return_notMem_writtenText, return_notMem_writeAt level value]

end

end Json

end VisualNovel
