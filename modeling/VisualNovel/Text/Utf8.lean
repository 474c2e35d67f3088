import VisualNovel.Text.Hexadecimal

/-!
# Decoding UTF-8

A sequence of octets is read one character at a time. Where no character can be
read the fault says why, and how many octets it covers: the longest start of a
character that is there, or a single octet. Strict decoding stops at the first
fault with its place; lenient decoding writes a replacement character for each.
-/

set_option autoImplicit false

namespace VisualNovel.Text.Utf8

inductive Fault where
  | startByte
  | continuationByte
  | endOfData
  deriving DecidableEq, Repr

def Fault.message : Fault → String
  | .startByte => "invalid start byte"
  | .continuationByte => "invalid continuation byte"
  | .endOfData => "unexpected end of data"

/-- What the octets begin with. Both cases carry the number of octets after the first that
belong to it. -/
inductive Head where
  | character (read : Char) (more : Nat)
  | fault (reason : Fault) (more : Nat)
  deriving DecidableEq, Repr

def isTail (octet : UInt8) : Bool :=
  0x80 ≤ octet && octet ≤ 0xbf

def tailBits (octet : UInt8) : Nat :=
  octet.toNat % 64

/-- The octets allowed second after a lead octet of three or four. -/
def secondBounds (lead : UInt8) : UInt8 × UInt8 :=
  if lead = 0xe0 then (0xa0, 0xbf)
  else if lead = 0xed then (0x80, 0x9f)
  else if lead = 0xf0 then (0x90, 0xbf)
  else if lead = 0xf4 then (0x80, 0x8f)
  else (0x80, 0xbf)

def isSecond (lead octet : UInt8) : Bool :=
  (secondBounds lead).1 ≤ octet && octet ≤ (secondBounds lead).2

def head (lead : UInt8) (rest : List UInt8) : Head :=
  if lead < 0x80 then .character (Char.ofNat lead.toNat) 0
  else if lead < 0xc2 then .fault .startByte 0
  else if lead < 0xe0 then
    match rest with
    | [] => .fault .endOfData 0
    | second :: _ =>
        if isTail second then
          .character (Char.ofNat (lead.toNat % 32 * 64 + tailBits second)) 1
        else .fault .continuationByte 0
  else if lead < 0xf0 then
    match rest with
    | [] => .fault .endOfData 0
    | second :: rest =>
        if !isSecond lead second then .fault .continuationByte 0
        else
          match rest with
          | [] => .fault .endOfData 1
          | third :: _ =>
              if isTail third then
                .character (Char.ofNat
                  ((lead.toNat % 16 * 64 + tailBits second) * 64 + tailBits third)) 2
              else .fault .continuationByte 1
  else if lead < 0xf5 then
    match rest with
    | [] => .fault .endOfData 0
    | second :: rest =>
        if !isSecond lead second then .fault .continuationByte 0
        else
          match rest with
          | [] => .fault .endOfData 1
          | third :: rest =>
              if !isTail third then .fault .continuationByte 1
              else
                match rest with
                | [] => .fault .endOfData 2
                | fourth :: _ =>
                    if isTail fourth then
                      .character (Char.ofNat
                        (((lead.toNat % 8 * 64 + tailBits second) * 64 + tailBits third) * 64 +
                          tailBits fourth)) 3
                    else .fault .continuationByte 2
  else .fault .startByte 0

/-- Where strict decoding stopped: the octet, its place, the number of octets the fault covers. -/
structure Error where
  reason : Fault
  octet : UInt8
  position : Nat
  width : Nat
  deriving DecidableEq, Repr

def Error.message (error : Error) : String :=
  if error.width = 1 then
    let octet := String.ofList (hexDigits 2 error.octet.toNat)
    s!"'utf-8' codec can't decode byte 0x{octet} in position {error.position}: " ++
      error.reason.message
  else
    let last := error.position + error.width - 1
    s!"'utf-8' codec can't decode bytes in position {error.position}-{last}: " ++
      error.reason.message

/-- Strict decoding from a position, after the characters already read, newest first. -/
def decodeFrom (position : Nat) (characters : List Char) (octets : List UInt8) :
    Except Error (List Char) :=
  match octets with
  | [] => .ok characters.reverse
  | lead :: rest =>
      match head lead rest with
      | .character read more =>
          decodeFrom (position + 1 + more) (read :: characters) (rest.drop more)
      | .fault reason more => .error ⟨reason, lead, position, more + 1⟩
termination_by octets.length
decreasing_by simp only [List.length_cons, List.length_drop]; omega

def decode (octets : List UInt8) : Except Error String :=
  (decodeFrom 0 [] octets).map String.ofList

def decodeLenientFrom (characters : List Char) (octets : List UInt8) : List Char :=
  match octets with
  | [] => characters.reverse
  | lead :: rest =>
      match head lead rest with
      | .character read more => decodeLenientFrom (read :: characters) (rest.drop more)
      | .fault _ more => decodeLenientFrom ('\ufffd' :: characters) (rest.drop more)
termination_by octets.length
decreasing_by all_goals simp only [List.length_cons, List.length_drop]; omega

/-- The text that octets encode, with a replacement character for every fault. -/
def decodeLenient (octets : List UInt8) : String :=
  String.ofList (decodeLenientFrom [] octets)

def encode (text : String) : List UInt8 :=
  text.toUTF8.toList

end VisualNovel.Text.Utf8
