/-!
# Hexadecimal digits

Reading and writing the digits 0–9, a–f. Letters are read in either case and
written small.
-/

set_option autoImplicit false

namespace VisualNovel.Text

def hexValue? (character : Char) : Option Nat :=
  if '0' ≤ character ∧ character ≤ '9' then some (character.toNat - '0'.toNat)
  else if 'a' ≤ character ∧ character ≤ 'f' then some (character.toNat - 'a'.toNat + 10)
  else if 'A' ≤ character ∧ character ≤ 'F' then some (character.toNat - 'A'.toNat + 10)
  else none

def hexDigit (value : Nat) : Char :=
  if value < 10 then Char.ofNat ('0'.toNat + value) else Char.ofNat ('a'.toNat + value - 10)

/-- The last digits of a number, as many as the width says, most significant first. -/
def hexDigits : Nat → Nat → List Char
  | 0, _ => []
  | width + 1, number => hexDigits width (number / 16) ++ [hexDigit (number % 16)]

def hexNumber? (characters : List Char) : Option Nat :=
  characters.foldl
    (fun value character => do return (← value) * 16 + (← hexValue? character)) (some 0)

theorem hexValue?_hexDigit {value : Nat} (small : value < 16) :
    hexValue? (hexDigit value) = some value := by
  revert value
  decide

theorem hexValue?_bounds {character : Char} {value : Nat}
    (found : hexValue? character = some value) : character.toNat < 128 ∧ value < 16 := by
  unfold hexValue? at found
  simp only [Char.le_def, UInt32.le_iff_toNat_le, Char.toNat_val, Char.reduceToNat] at found
  split at found
  · cases found
    omega
  split at found
  · cases found
    omega
  split at found
  · cases found
    omega
  · contradiction

theorem ascii_of_hexValue? {character : Char} {value : Nat}
    (found : hexValue? character = some value) : character.toNat < 128 :=
  (hexValue?_bounds found).1

theorem hexValue?_lt {character : Char} {value : Nat}
    (found : hexValue? character = some value) : value < 16 :=
  (hexValue?_bounds found).2

theorem foldl_hexValue?_none (characters : List Char) :
    characters.foldl (fun (value : Option Nat) character =>
      do return (← value) * 16 + (← hexValue? character)) none = none := by
  induction characters with
  | nil => rfl
  | cons character characters ih => exact ih

/-- A hexadecimal number has nothing but hexadecimal digits. -/
theorem hexValue?_of_hexNumber? {characters : List Char} {number : Nat}
    (read : hexNumber? characters = some number) :
    ∀ character ∈ characters, ∃ value, hexValue? character = some value := by
  unfold hexNumber? at read
  generalize 0 = start at read
  induction characters generalizing start with
  | nil => exact nofun
  | cons first characters ih =>
      cases digit : hexValue? first with
      | none =>
          simp only [List.foldl_cons, digit] at read
          exact absurd (read.symm.trans (foldl_hexValue?_none characters)) nofun
      | some value =>
          simp only [List.foldl_cons, digit] at read
          exact List.forall_mem_cons.mpr ⟨⟨value, digit⟩, ih _ read⟩

end VisualNovel.Text
