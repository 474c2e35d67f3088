import VisualNovel.Text.Utf8

/-!
# Texts and their octets

What a text is encoded as is decoded to the text again, strictly and leniently. The
octets of one character are told from those of all others by the first of them.
-/

set_option autoImplicit false

namespace VisualNovel.Text.Utf8

private theorem toList_loop (octets : ByteArray) (index : Nat) (passed : List UInt8) :
    ByteArray.toList.loop octets index passed =
      passed.reverse ++ octets.data.toList.drop index := by
  fun_induction ByteArray.toList.loop octets index passed with
  | case1 index passed within hypothesis =>
      have here : index < octets.data.toList.length := by simpa using within
      have taken : octets.get! index = octets.data.toList[index] := by
        have found : octets.get! index = octets.data[index]! := rfl
        rw [found, getElem!_pos octets.data index within, Array.getElem_toList]
      rw [hypothesis, List.drop_eq_getElem_cons here, taken]
      simp
  | case2 index passed beyond =>
      rw [List.drop_eq_nil_of_le (by simpa using Nat.le_of_not_lt beyond), List.append_nil]

theorem encode_ofList (characters : List Char) :
    encode (String.ofList characters) = characters.flatMap String.utf8EncodeChar := by
  have octets : (String.ofList characters).toUTF8 =
      (characters.flatMap String.utf8EncodeChar).toByteArray := String.toByteArray_ofList
  rw [encode, octets, ByteArray.toList, toList_loop, List.data_toByteArray]
  rfl

/-- A character of ASCII is encoded as one octet. -/
theorem utf8EncodeChar_ascii {character : Char} (ascii : character.toNat < 128) :
    String.utf8EncodeChar character = [UInt8.ofNat character.toNat] := by
  have small : character.val.toNat ≤ 127 := Nat.le_of_lt_succ ascii
  simp only [String.utf8EncodeChar, small, if_true]
  rfl

/-! ## Characters -/

theorem toNat_octet {value : Nat} (small : value < 256) : (UInt8.ofNat value).toNat = value := by
  simp; omega

theorem isTail_iff (octet : UInt8) :
    isTail octet = true ↔ 0x80 ≤ octet.toNat ∧ octet.toNat ≤ 0xbf := by
  simp [isTail, UInt8.le_iff_toNat_le]

private theorem isSecond_iff (lead octet : UInt8) : isSecond lead octet = true ↔
    if lead.toNat = 0xe0 then 0xa0 ≤ octet.toNat ∧ octet.toNat ≤ 0xbf
    else if lead.toNat = 0xed then 0x80 ≤ octet.toNat ∧ octet.toNat ≤ 0x9f
    else if lead.toNat = 0xf0 then 0x90 ≤ octet.toNat ∧ octet.toNat ≤ 0xbf
    else if lead.toNat = 0xf4 then 0x80 ≤ octet.toNat ∧ octet.toNat ≤ 0x8f
    else 0x80 ≤ octet.toNat ∧ octet.toNat ≤ 0xbf := by
  unfold isSecond secondBounds
  simp only [← UInt8.toNat_inj, Bool.and_eq_true, decide_eq_true_eq, UInt8.le_iff_toNat_le]
  repeat' split
  all_goals simp_all

section

variable {value : Nat}

private theorem head_one (high : value < 0x80) (rest : List UInt8) :
    head (UInt8.ofNat value) rest = .character (Char.ofNat value) 0 := by
  have lead := toNat_octet (by omega : value < 256)
  unfold head
  simp only [UInt8.lt_iff_toNat_lt, UInt8.reduceToNat, lead]
  rw [if_pos high]

private theorem head_two (low : 0x80 ≤ value) (high : value < 0x800) (rest : List UInt8) :
    head (UInt8.ofNat (value / 64 % 32 + 192)) (UInt8.ofNat (value % 64 + 128) :: rest) =
      .character (Char.ofNat value) 1 := by
  have lead := toNat_octet (by omega : value / 64 % 32 + 192 < 256)
  have second := toNat_octet (by omega : value % 64 + 128 < 256)
  have tail : isTail (UInt8.ofNat (value % 64 + 128)) = true := by
    rw [isTail_iff, second]
    omega
  have same : (value / 64 % 32 + 192) % 32 * 64 + (value % 64 + 128) % 64 = value := by omega
  unfold head
  simp only [UInt8.lt_iff_toNat_lt, UInt8.reduceToNat, lead, tail, if_true, tailBits, second, same]
  rw [if_neg (by omega), if_neg (by omega), if_pos (by omega)]

/-- Three octets are read as the character that they encode. -/
private theorem head_three (low : 0x800 ≤ value) (high : value < 0x10000)
    (whole : value < 0xd800 ∨ 0xdfff < value) (rest : List UInt8) :
    head (UInt8.ofNat (value / 4096 % 16 + 224))
        (UInt8.ofNat (value / 64 % 64 + 128) :: UInt8.ofNat (value % 64 + 128) :: rest) =
      .character (Char.ofNat value) 2 := by
  have lead := toNat_octet (by omega : value / 4096 % 16 + 224 < 256)
  have second := toNat_octet (by omega : value / 64 % 64 + 128 < 256)
  have third := toNat_octet (by omega : value % 64 + 128 < 256)
  have fits : isSecond (UInt8.ofNat (value / 4096 % 16 + 224))
      (UInt8.ofNat (value / 64 % 64 + 128)) = true := by
    rw [isSecond_iff, lead, second]
    grind
  have tail : isTail (UInt8.ofNat (value % 64 + 128)) = true := by
    rw [isTail_iff, third]
    omega
  have same : ((value / 4096 % 16 + 224) % 16 * 64 + (value / 64 % 64 + 128) % 64) * 64 +
      (value % 64 + 128) % 64 = value := by omega
  unfold head
  simp only [UInt8.lt_iff_toNat_lt, UInt8.reduceToNat, lead, fits, tail, if_true, tailBits, second,
    third, same]
  rw [if_neg (by omega), if_neg (by omega), if_neg (by omega), if_pos (by omega)]
  rfl

/-- Four octets are read as the character that they encode. -/
private theorem head_four (low : 0x10000 ≤ value) (high : value < 0x110000) (rest : List UInt8) :
    head (UInt8.ofNat (value / 262144 % 8 + 240))
        (UInt8.ofNat (value / 4096 % 64 + 128) :: UInt8.ofNat (value / 64 % 64 + 128) ::
          UInt8.ofNat (value % 64 + 128) :: rest) =
      .character (Char.ofNat value) 3 := by
  have lead := toNat_octet (by omega : value / 262144 % 8 + 240 < 256)
  have second := toNat_octet (by omega : value / 4096 % 64 + 128 < 256)
  have third := toNat_octet (by omega : value / 64 % 64 + 128 < 256)
  have fourth := toNat_octet (by omega : value % 64 + 128 < 256)
  have fits : isSecond (UInt8.ofNat (value / 262144 % 8 + 240))
      (UInt8.ofNat (value / 4096 % 64 + 128)) = true := by
    rw [isSecond_iff, lead, second]
    grind
  have tail : isTail (UInt8.ofNat (value / 64 % 64 + 128)) = true := by
    rw [isTail_iff, third]
    omega
  have last : isTail (UInt8.ofNat (value % 64 + 128)) = true := by
    rw [isTail_iff, fourth]
    omega
  have same : (((value / 262144 % 8 + 240) % 8 * 64 + (value / 4096 % 64 + 128) % 64) * 64 +
      (value / 64 % 64 + 128) % 64) * 64 + (value % 64 + 128) % 64 = value := by omega
  unfold head
  simp only [UInt8.lt_iff_toNat_lt, UInt8.reduceToNat, lead, fits, tail, last, if_true, tailBits,
    second, third, fourth, same]
  rw [if_neg (by omega), if_neg (by omega), if_neg (by omega), if_neg (by omega),
    if_pos (by omega)]
  rfl

end

/-- The first octet of a character tells how many others belong to it, and with them which
character it is. -/
theorem head_utf8EncodeChar (character : Char) (rest : List UInt8) :
    ∃ lead more, String.utf8EncodeChar character = lead :: more ∧
      head lead (more ++ rest) = .character character more.length := by
  have known : Char.ofNat character.val.toNat = character := Char.ofNat_toNat character
  have valid : character.val.toNat < 0xd800 ∨
      0xdfff < character.val.toNat ∧ character.val.toNat < 0x110000 := character.valid
  unfold String.utf8EncodeChar
  dsimp only
  generalize character.val.toNat = value at known valid
  subst known
  split
  · exact ⟨_, _, rfl, head_one (by omega) rest⟩
  split
  · exact ⟨_, _, rfl, head_two (by omega) (by omega) rest⟩
  split
  · exact ⟨_, _, rfl, head_three (by omega) (by omega) (by omega) rest⟩
  · exact ⟨_, _, rfl, head_four (by omega) (by omega) rest⟩

/-! ## Texts -/

theorem decodeFrom_encoded (characters passed : List Char) (position : Nat) :
    decodeFrom position passed (characters.flatMap String.utf8EncodeChar) =
      .ok (passed.reverse ++ characters) := by
  induction characters generalizing position passed with
  | nil => simp [decodeFrom]
  | cons character characters hypothesis =>
      obtain ⟨lead, more, encoded, read⟩ :=
        head_utf8EncodeChar character (characters.flatMap String.utf8EncodeChar)
      rw [List.flatMap_cons, encoded, List.cons_append, decodeFrom, read]
      simp only [List.drop_left]
      rw [hypothesis]
      simp

private theorem decodeLenientFrom_encoded (characters passed : List Char) :
    decodeLenientFrom passed (characters.flatMap String.utf8EncodeChar) =
      passed.reverse ++ characters := by
  induction characters generalizing passed with
  | nil => simp [decodeLenientFrom]
  | cons character characters hypothesis =>
      obtain ⟨lead, more, encoded, read⟩ :=
        head_utf8EncodeChar character (characters.flatMap String.utf8EncodeChar)
      rw [List.flatMap_cons, encoded, List.cons_append, decodeLenientFrom, read]
      simp only [List.drop_left]
      rw [hypothesis]
      simp

theorem decode_encode (text : String) : decode (encode text) = .ok text := by
  rw [← String.ofList_toList (s := text), encode_ofList, decode, decodeFrom_encoded]
  rfl

theorem decodeLenient_encode (text : String) : decodeLenient (encode text) = text := by
  rw [← String.ofList_toList (s := text), encode_ofList, decodeLenient, decodeLenientFrom_encoded]
  rfl

end VisualNovel.Text.Utf8
