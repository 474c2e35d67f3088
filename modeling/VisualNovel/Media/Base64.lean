/-!
# Base64

Octets are written in groups of three as four characters of an alphabet of
sixty-four, the last group filled up with padding signs. Decoding drops characters
outside the alphabet and padding signs where no group can end, and stops at
padding that completes a group.
-/

set_option autoImplicit false

namespace VisualNovel.Media.Base64

def digit (value : Nat) : Char :=
  if value < 26 then Char.ofNat ('A'.toNat + value)
  else if value < 52 then Char.ofNat ('a'.toNat + (value - 26))
  else if value < 62 then Char.ofNat ('0'.toNat + (value - 52))
  else if value = 62 then '+'
  else '/'

def value? (character : Char) : Option Nat :=
  if 'A' ≤ character ∧ character ≤ 'Z' then some (character.toNat - 'A'.toNat)
  else if 'a' ≤ character ∧ character ≤ 'z' then some (character.toNat - 'a'.toNat + 26)
  else if '0' ≤ character ∧ character ≤ '9' then some (character.toNat - '0'.toNat + 52)
  else if character = '+' then some 62
  else if character = '/' then some 63
  else none

inductive Error where
  | notAscii
  | strayDigit (count : Nat)
  | padding
  deriving DecidableEq, Repr

def Error.message : Error → String
  | .notAscii => "string argument should contain only ASCII characters"
  | .strayDigit count =>
      s!"Invalid base64-encoded string: number of data characters ({count}) cannot be 1 more " ++
        "than a multiple of 4"
  | .padding => "Incorrect padding"

def encode : List UInt8 → List Char
  | [] => []
  | [first] =>
      [digit (first.toNat / 4), digit (first.toNat % 4 * 16), '=', '=']
  | [first, second] =>
      [digit (first.toNat / 4), digit (first.toNat % 4 * 16 + second.toNat / 16),
        digit (second.toNat % 16 * 4), '=']
  | first :: second :: third :: rest =>
      digit (first.toNat / 4) :: digit (first.toNat % 4 * 16 + second.toNat / 16) ::
        digit (second.toNat % 16 * 4 + third.toNat / 64) :: digit (third.toNat % 64) ::
        encode rest

/-- A group that has been begun: the characters of it so far, the bits left over from them, and
the padding signs since the last of them. -/
structure Group where
  size : Nat := 0
  bits : Nat := 0
  pads : Nat := 0

def decodeFrom (group : Group) (octets : List UInt8) :
    List Char → Except Error (List UInt8)
  | [] =>
      if group.size = 0 then .ok octets.reverse
      else if group.size = 1 then .error (.strayDigit (octets.length / 3 * 4 + 1))
      else .error .padding
  | character :: rest =>
      if character = '=' then
        if 2 ≤ group.size then
          if 4 ≤ group.size + group.pads + 1 then .ok octets.reverse
          else decodeFrom { group with pads := group.pads + 1 } octets rest
        else decodeFrom group octets rest
      else
        match value? character with
        | none => decodeFrom group octets rest
        | some value =>
            match group.size with
            | 0 => decodeFrom ⟨1, value, 0⟩ octets rest
            | 1 =>
                decodeFrom ⟨2, value % 16, 0⟩
                  (UInt8.ofNat (group.bits * 4 + value / 16) :: octets) rest
            | 2 =>
                decodeFrom ⟨3, value % 4, 0⟩
                  (UInt8.ofNat (group.bits * 16 + value / 4) :: octets) rest
            | _ => decodeFrom {} (UInt8.ofNat (group.bits * 64 + value) :: octets) rest

def decode (text : String) : Except Error (List UInt8) :=
  if text.toList.all fun character => character.toNat < 128 then decodeFrom {} [] text.toList
  else .error .notAscii

theorem value?_digit {value : Nat} (small : value < 64) : value? (digit value) = some value := by
  revert value
  decide

end VisualNovel.Media.Base64
