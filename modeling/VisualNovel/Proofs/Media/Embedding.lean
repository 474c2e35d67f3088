import VisualNovel.Media.Percent
import VisualNovel.Media.Reference
import VisualNovel.Proofs.Text.Utf8

/-!
# Data written into references

A reference that has its data written into it is read from the outside in: the
header ends at the first comma, its parts at semicolons, then escapes are resolved,
and what is left is decoded. Whatever was written that way is found again.
-/

set_option autoImplicit false

/-!
## Octets written with escapes

There are many ways to write octets: each may be escaped, with digits of either
case, and those that stand for characters of ASCII other than the percent sign need
not be. However octets are written, they are read back, and so is a text of which
the octets are written.
-/

namespace VisualNovel.Media.Percent

open VisualNovel.Text

inductive Writes : List UInt8 → List Char → Prop where
  | nil : Writes [] []
  | plain {character : Char} {octets : List UInt8} {written : List Char} :
      character.toNat < 128 → character ≠ '%' → Writes octets written →
      Writes (UInt8.ofNat character.toNat :: octets) (character :: written)
  | escaped {octet : UInt8} {high low : Char} {octets : List UInt8} {written : List Char} :
      hexValue? high = some (octet.toNat / 16) → hexValue? low = some (octet.toNat % 16) →
      Writes octets written → Writes (octet :: octets) ('%' :: high :: low :: written)

variable {octet : UInt8} {octets : List UInt8} {written : List Char} {high low : Char}

theorem Writes.ascii (writes : Writes octets written) :
    ∀ character ∈ written, character.toNat < 128 := by
  induction writes with
  | nil => simp
  | plain ascii _ _ hypothesis => simpa using ⟨ascii, hypothesis⟩
  | escaped high low _ hypothesis =>
      simpa using ⟨ascii_of_hexValue? high, ascii_of_hexValue? low, hypothesis⟩

/-! ## Octets -/

theorem resolve_cons (other : octet ≠ sign) (rest : List UInt8) :
    resolve (octet :: rest) = octet :: resolve rest := by
  match rest with
  | [] | [_] => rfl
  | high :: low :: rest => rw [resolve, if_neg other]

private theorem resolve_escape (first : hexValue? high = some (octet.toNat / 16))
    (second : hexValue? low = some (octet.toNat % 16)) (rest : List UInt8) :
    resolve (sign :: UInt8.ofNat high.toNat :: UInt8.ofNat low.toNat :: rest) =
      octet :: resolve rest := by
  have read {digit : Char} {value : Nat} (found : hexValue? digit = some value) :
      hexValue? (Char.ofNat (UInt8.ofNat digit.toNat).toNat) = some value := by
    have ascii := ascii_of_hexValue? found
    rw [Utf8.toNat_octet (by omega), Char.ofNat_toNat, found]
  have whole : octet.toNat / 16 * 16 + octet.toNat % 16 = octet.toNat := by omega
  have stands : escaped? (UInt8.ofNat high.toNat) (UInt8.ofNat low.toNat) = some octet := by
    rw [escaped?, read first, read second]
    show some (UInt8.ofNat (octet.toNat / 16 * 16 + octet.toNat % 16)) = some octet
    rw [whole, UInt8.ofNat_toNat]
  rw [resolve, if_pos rfl, stands]

theorem Writes.resolve (writes : Writes octets written) :
    resolve (written.map fun character => UInt8.ofNat character.toNat) = octets := by
  induction writes with
  | nil => rfl
  | @plain character octets written ascii other _ hypothesis =>
      have apart : UInt8.ofNat character.toNat ≠ sign := by
        intro same
        have code := congrArg UInt8.toNat same
        rw [Utf8.toNat_octet (by omega)] at code
        exact other (Char.toNat_inj.mp code)
      rw [List.map_cons, resolve_cons apart, hypothesis]
  | escaped high low _ hypothesis => exact (resolve_escape high low _).trans (by rw [hypothesis])

theorem encode_ascii (ascii : ∀ character ∈ written, character.toNat < 128) :
    Utf8.encode (String.ofList written) =
      written.map fun character => UInt8.ofNat character.toNat := by
  rw [Utf8.encode_ofList]
  induction written with
  | nil => rfl
  | cons character written hypothesis =>
      obtain ⟨first, others⟩ := List.forall_mem_cons.mp ascii
      rw [List.flatMap_cons, Utf8.utf8EncodeChar_ascii first, hypothesis others]
      rfl

theorem Writes.toOctets (writes : Writes octets written) :
    toOctets (String.ofList written) = octets := by
  rw [Percent.toOctets, encode_ascii writes.ascii, writes.resolve]

/-! ## Texts -/

theorem resolveRuns_ascii (ascii : ∀ character ∈ written, character.toNat < 128)
    (run : List Char) : resolveRuns run written = resolveAscii (run.reverse ++ written) := by
  induction written generalizing run with
  | nil => simp [resolveRuns]
  | cons character written hypothesis =>
      obtain ⟨first, others⟩ := List.forall_mem_cons.mp ascii
      rw [resolveRuns, if_pos first, hypothesis others]
      simp

theorem Writes.toText {text : String} (writes : Writes (Utf8.encode text) written) :
    toText (String.ofList written) = text := by
  rw [Percent.toText, String.toList_ofList, resolveRuns_ascii writes.ascii, List.reverse_nil,
    List.nil_append, resolveAscii, writes.toOctets, Utf8.decodeLenient_encode, String.ofList_toList]

end VisualNovel.Media.Percent

/-! ## Data written into references -/

namespace VisualNovel.Media

open VisualNovel.Files VisualNovel.Text

namespace Base64

/-! ## Groups -/

theorem digit_ne_padding {value : Nat} (small : value < 64) : digit value ≠ '=' := by
  revert value
  decide

theorem digit_ascii {value : Nat} (small : value < 64) : (digit value).toNat < 128 := by
  revert value
  decide

variable {value : Nat}

theorem decodeFrom_first (small : value < 64) (octets : List UInt8) (rest : List Char) :
    decodeFrom {} octets (digit value :: rest) = decodeFrom ⟨1, value, 0⟩ octets rest := by
  rw [decodeFrom, if_neg (digit_ne_padding small), value?_digit small]
  rfl

theorem decodeFrom_second (small : value < 64) (bits : Nat) (octets : List UInt8)
    (rest : List Char) :
    decodeFrom ⟨1, bits, 0⟩ octets (digit value :: rest) =
      decodeFrom ⟨2, value % 16, 0⟩ (UInt8.ofNat (bits * 4 + value / 16) :: octets) rest := by
  rw [decodeFrom, if_neg (digit_ne_padding small), value?_digit small]
  rfl

private theorem decodeFrom_third (small : value < 64) (bits : Nat) (octets : List UInt8)
    (rest : List Char) :
    decodeFrom ⟨2, bits, 0⟩ octets (digit value :: rest) =
      decodeFrom ⟨3, value % 4, 0⟩ (UInt8.ofNat (bits * 16 + value / 4) :: octets) rest := by
  rw [decodeFrom, if_neg (digit_ne_padding small), value?_digit small]
  rfl

private theorem decodeFrom_fourth (small : value < 64) (bits : Nat) (octets : List UInt8)
    (rest : List Char) :
    decodeFrom ⟨3, bits, 0⟩ octets (digit value :: rest) =
      decodeFrom {} (UInt8.ofNat (bits * 64 + value) :: octets) rest := by
  rw [decodeFrom, if_neg (digit_ne_padding small), value?_digit small]
  rfl

theorem octet_of_bits {octet : UInt8} (same : value = octet.toNat) : UInt8.ofNat value = octet := by
  rw [same, UInt8.ofNat_toNat]

/-- The groups of the octets are decoded one after another, the last one to its padding. -/
theorem decodeFrom_encode (octets passed : List UInt8) :
    decodeFrom {} passed (encode octets) = .ok (passed.reverse ++ octets) := by
  induction octets using encode.induct generalizing passed with
  | case1 => simp [encode, decodeFrom]
  | case2 first =>
      have bound := first.toNat_lt
      have again : UInt8.ofNat (first.toNat / 4 * 4 + first.toNat % 4 * 16 / 16) = first :=
        octet_of_bits (by omega)
      rw [encode, decodeFrom_first (by omega), decodeFrom_second (by omega), again]
      simp [decodeFrom]
  | case3 first second =>
      have bound := first.toNat_lt
      have boundNext := second.toNat_lt
      have again : UInt8.ofNat
          (first.toNat / 4 * 4 + (first.toNat % 4 * 16 + second.toNat / 16) / 16) = first :=
        octet_of_bits (by omega)
      have againNext : UInt8.ofNat
          ((first.toNat % 4 * 16 + second.toNat / 16) % 16 * 16 +
            second.toNat % 16 * 4 / 4) = second :=
        octet_of_bits (by omega)
      rw [encode, decodeFrom_first (by omega), decodeFrom_second (by omega),
        decodeFrom_third (by omega), again, againNext]
      simp [decodeFrom]
  | case4 first second third rest hypothesis =>
      have bound := first.toNat_lt
      have boundNext := second.toNat_lt
      have boundLast := third.toNat_lt
      have again : UInt8.ofNat
          (first.toNat / 4 * 4 + (first.toNat % 4 * 16 + second.toNat / 16) / 16) = first :=
        octet_of_bits (by omega)
      have againNext : UInt8.ofNat
          ((first.toNat % 4 * 16 + second.toNat / 16) % 16 * 16 +
            (second.toNat % 16 * 4 + third.toNat / 64) / 4) = second :=
        octet_of_bits (by omega)
      have againLast : UInt8.ofNat
          ((second.toNat % 16 * 4 + third.toNat / 64) % 4 * 64 + third.toNat % 64) = third :=
        octet_of_bits (by omega)
      rw [encode, decodeFrom_first (by omega), decodeFrom_second (by omega),
        decodeFrom_third (by omega), decodeFrom_fourth (by omega), again, againNext, againLast,
        hypothesis]
      simp

theorem encode_ascii (octets : List UInt8) :
    ∀ character ∈ encode octets, character.toNat < 128 := by
  have padding : '='.toNat < 128 := by decide
  induction octets using encode.induct with
  | case1 => simp [encode]
  | case2 first =>
      have bound := first.toNat_lt
      simp only [encode, List.forall_mem_cons]
      exact ⟨digit_ascii (by omega), digit_ascii (by omega), padding, padding, by simp⟩
  | case3 first second =>
      have bound := first.toNat_lt
      have boundNext := second.toNat_lt
      simp only [encode, List.forall_mem_cons]
      exact ⟨digit_ascii (by omega), digit_ascii (by omega), digit_ascii (by omega), padding,
        by simp⟩
  | case4 first second third rest hypothesis =>
      have bound := first.toNat_lt
      have boundNext := second.toNat_lt
      have boundLast := third.toNat_lt
      simp only [encode, List.forall_mem_cons]
      exact ⟨digit_ascii (by omega), digit_ascii (by omega), digit_ascii (by omega),
        digit_ascii (by omega), hypothesis⟩

theorem decode_encode (octets : List UInt8) :
    decode (String.ofList (encode octets)) = .ok octets := by
  rw [decode, String.toList_ofList,
    if_pos (List.all_eq_true.mpr fun character member =>
      decide_eq_true (encode_ascii octets character member)), decodeFrom_encode]
  rfl

end Base64

/-! ## References -/

theorem splitAtFirst?_append {separator : Char} {before : List Char}
    (whole : separator ∉ before) (after : List Char) :
    splitAtFirst? separator (before ++ separator :: after) = some (before, after) := by
  have others : ∀ character ∈ before, decide (character ≠ separator) = true :=
    fun character member => decide_eq_true fun same => whole (same ▸ member)
  rw [splitAtFirst?, if_pos (by simp), beforeFirst, List.takeWhile_append_of_pos others,
    List.dropWhile_append_of_pos others]
  simp

/-- What is written after the first part of a header, each part after a semicolon. -/
theorem pieces_parts (separator : Char) (first : List Char) (parts : List (List Char)) :
    pieces separator (first ++ parts.flatMap (separator :: ·)) =
      pieces separator first ++ parts.flatMap (pieces separator) := by
  induction parts generalizing first with
  | nil => simp
  | cons part parts hypothesis =>
      rw [List.flatMap_cons, List.cons_append, pieces_append_cons, hypothesis,
        List.flatMap_cons]

private theorem scheme?_letters {name : List Char}
    (letters : ∀ character ∈ name, character.isAlpha = true)
    (long : 2 ≤ name.length) (rest : List Char) :
    scheme? (name ++ ':' :: rest) = some (String.ofList (name.map Char.toLower)) := by
  have marks : ∀ character ∈ name, (character.isAlphanum || character = '+' || character = '.' ||
      character = '-') = true := by
    intro character member
    simp [Char.isAlphanum, letters character member]
  have stop : (Char.isAlphanum ':' || ':' = '+' || ':' = '.' || ':' = '-') = false := by decide
  unfold scheme?
  dsimp only
  rw [List.takeWhile_append_of_pos marks, List.dropWhile_append_of_pos marks, List.takeWhile_cons,
    List.dropWhile_cons, stop]
  match name, long with
  | first :: second :: others, _ =>
      simp [letters first List.mem_cons_self]

private theorem isAlpha_of_toLower {character : Char} (small : character.toLower.isAlpha = true) :
    character.isAlpha = true := by
  unfold Char.toLower at small
  split at small
  · next upper =>
      have isUpper : character.isUpper = true := decide_eq_true upper
      show (character.isUpper || character.isLower) = true
      rw [isUpper, Bool.true_or]
  · exact small

/-- Letters that spell a scheme, in either case. -/
theorem scheme?_data {scheme : String} (spelt : scheme.toList.map Char.toLower = "data".toList)
    (rest : List Char) : scheme? (scheme.toList ++ ':' :: rest) = some "data" := by
  have long : scheme.toList.length = 4 := by simpa using congrArg List.length spelt
  have letters : ∀ character ∈ scheme.toList, character.isAlpha = true := by
    intro character member
    have small : character.toLower ∈ "data".toList := spelt ▸ List.mem_map_of_mem member
    have all : ∀ letter ∈ ['d', 'a', 't', 'a'], letter.isAlpha = true := by
      simp only [List.forall_mem_cons, List.not_mem_nil, false_imp_iff, implies_true, and_true]
      decide
    exact isAlpha_of_toLower (all _ small)
  rw [scheme?_letters letters (by omega), spelt]
  rfl

/-- What is opened by a reference of data is what is decoded of it. -/
theorem openReference_data {tree : Tree} {assets : Option GivenPath} {scheme rest : String}
    {content : Content} (spelt : scheme.toList.map Char.toLower = "data".toList)
    (decoded : decodeData rest.toList = .ok content) :
    openReference tree assets (scheme ++ ":" ++ rest) = .ok ⟨scheme ++ ":" ++ rest, content⟩ := by
  have long : scheme.toList.length = 4 := by simpa using congrArg List.length spelt
  have written : (scheme ++ ":" ++ rest).toList = scheme.toList ++ ':' :: rest.toList := by simp
  have dropped : (scheme.toList ++ ':' :: rest.toList).drop 5 = rest.toList := by
    rw [List.drop_append, long]
    simp [List.drop_eq_nil_of_le, long]
  have some : (scheme ++ ":" ++ rest).isEmpty = false := by
    simp
  unfold openReference
  rw [some, if_neg Bool.false_ne_true, written, scheme?_data spelt]
  simp only [dropped, decoded]

variable {mediaType payload : String} {octets : List UInt8} {header : List Char}
  {parameters : List (List Char)}

/-- Data is read as digits where the mark of the digits is among the parts of the header. -/
theorem decodeData_of_marked (noComma : ',' ∉ header) (some : mediaType ≠ "")
    (parts : pieces ';' header = mediaType.toList :: parameters)
    (marked : parameters.contains "base64".toList = true)
    (decoded : Base64.decode (Percent.toText payload) = .ok octets) :
    decodeData (header ++ ',' :: payload.toList) = .ok (.data mediaType octets) := by
  have named : mediaType.toList.isEmpty = false := by simpa using some
  rw [decodeData, splitAtFirst?_append noComma]
  simp only [parts, named, marked, decoded, String.ofList_toList, Bool.false_eq_true, if_false,
    if_true]

/-- Data is read as it is where the mark is not among them. -/
theorem decodeData_of_unmarked (noComma : ',' ∉ header) (some : mediaType ≠ "")
    (parts : pieces ';' header = mediaType.toList :: parameters)
    (unmarked : parameters.contains "base64".toList = false) :
    decodeData (header ++ ',' :: payload.toList) =
      .ok (.data mediaType (Percent.toOctets payload)) := by
  have named : mediaType.toList.isEmpty = false := by simpa using some
  rw [decodeData, splitAtFirst?_append noComma]
  simp only [parts, named, unmarked, String.ofList_toList, Bool.false_eq_true, if_false]

/-- A header with parameters and the mark of the digits ends before the payload, and the mark is
one of its parts. -/
theorem exists_marked_header (payload : String) (noComma : ',' ∉ mediaType.toList)
    (noSemicolon : ';' ∉ mediaType.toList) {parameters : List String}
    (noCommas : ∀ parameter ∈ parameters, ',' ∉ parameter.toList) :
    ∃ header parts, (mediaType ++ String.join (parameters.map (";" ++ ·)) ++ ";base64," ++
        payload).toList = header ++ ',' :: payload.toList ∧
      ',' ∉ header ∧ pieces ';' header = mediaType.toList :: parts ∧
      parts.contains "base64".toList = true := by
  -- the mark is one more parameter
  let parts := parameters.map String.toList ++ ["base64".toList]
  have noCommasAtAll : ∀ part ∈ parts, ',' ∉ part := by
    intro part member
    rcases List.mem_append.mp member with member | member
    · obtain ⟨parameter, listed, rfl⟩ := List.mem_map.mp member
      exact noCommas parameter listed
    · obtain rfl := List.mem_singleton.mp member
      decide
  refine ⟨mediaType.toList ++ parts.flatMap (';' :: ·), parts.flatMap (pieces ';'), ?_, ?_, ?_, ?_⟩
  · simp [parts, List.flatMap_map]
  · simp only [List.mem_append, List.mem_flatMap, List.mem_cons, not_or, not_exists, not_and]
    exact ⟨noComma, fun part member => ⟨by decide, noCommasAtAll part member⟩⟩
  · rw [pieces_parts, pieces_of_notMem noSemicolon]
    rfl
  · rw [List.contains_iff_mem, List.mem_flatMap]
    exact ⟨"base64".toList, List.mem_append_right _ List.mem_cons_self, by decide⟩

/-- Whatever octets are written into a reference, as digits of sixty-four values or as they are,
are what the reference leads to, with the type that was given for them. Every character of either
may be escaped that may be written at all, the letters of the scheme may be of either case, and
any parameters may come before the mark of the digits. -/
theorem embedded_found (tree : Tree) (assets : Option GivenPath) {scheme mediaType : String}
    (spelt : scheme.toList.map Char.toLower = "data".toList) (named : mediaType ≠ "")
    (noComma : ',' ∉ mediaType.toList) (noSemicolon : ';' ∉ mediaType.toList)
    (octets : List UInt8) (payload : String) :
    (∀ parameters : List String, (∀ parameter ∈ parameters, ',' ∉ parameter.toList) →
        Percent.Writes (Utf8.encode (String.ofList (Base64.encode octets))) payload.toList →
        let url := scheme ++ ":" ++
          (mediaType ++ String.join (parameters.map (";" ++ ·)) ++ ";base64," ++ payload)
        openReference tree assets url = .ok ⟨url, .data mediaType octets⟩) ∧
      (Percent.Writes octets payload.toList →
        let url := scheme ++ ":" ++ (mediaType ++ "," ++ payload)
        openReference tree assets url = .ok ⟨url, .data mediaType octets⟩) := by
  constructor
  · intro parameters noCommas writes
    apply openReference_data spelt
    obtain ⟨header, parts, written, ends, split, marked⟩ :=
      exists_marked_header payload noComma noSemicolon noCommas
    have given : Percent.toText payload = String.ofList (Base64.encode octets) := by
      rw [← writes.toText, String.ofList_toList]
    rw [written]
    exact decodeData_of_marked ends named split marked (by rw [given, Base64.decode_encode])
  · intro writes
    apply openReference_data spelt
    have written : (mediaType ++ "," ++ payload).toList =
        mediaType.toList ++ ',' :: payload.toList := by simp
    have given : Percent.toOctets payload = octets := by
      rw [← writes.toOctets, String.ofList_toList]
    rw [written, decodeData_of_unmarked noComma named (pieces_of_notMem noSemicolon) rfl, given]

/-- Four octets written in both ways, with escapes where there need be none. -/
theorem embedded_found_twice :
    openReference ⟨.empty, []⟩ none "DaTa:image/svg+xml;q=%3B;;base64,%2B/%38s%4aQ=%3D" =
        .ok ⟨"DaTa:image/svg+xml;q=%3B;;base64,%2B/%38s%4aQ=%3D",
          .data "image/svg+xml" [0xfb, 0xff, 0x2c, 0x25]⟩ ∧
      openReference ⟨.empty, []⟩ none "DATA:base64,%FB%ff,%25" =
        .ok ⟨"DATA:base64,%FB%ff,%25", .data "base64" [0xfb, 0xff, 0x2c, 0x25]⟩ := by
  have digits : Utf8.encode (String.ofList (Base64.encode [0xfb, 0xff, 0x2c, 0x25])) =
      [0x2b, 0x2f, 0x38, 0x73, 0x4a, 0x51, 0x3d, 0x3d] := by decide +kernel
  have escaped : Percent.Writes [0x2b, 0x2f, 0x38, 0x73, 0x4a, 0x51, 0x3d, 0x3d]
      ['%', '2', 'B', '/', '%', '3', '8', 's', '%', '4', 'a', 'Q', '=', '%', '3', 'D'] :=
    .escaped rfl rfl (@Percent.Writes.plain '/' _ _ (by decide) (by decide)
      (.escaped rfl rfl (@Percent.Writes.plain 's' _ _ (by decide) (by decide)
        (.escaped rfl rfl (@Percent.Writes.plain 'Q' _ _ (by decide) (by decide)
          (@Percent.Writes.plain '=' _ _ (by decide) (by decide) (.escaped rfl rfl .nil)))))))
  have plain : Percent.Writes [0xfb, 0xff, 0x2c, 0x25]
      ['%', 'F', 'B', '%', 'f', 'f', ',', '%', '2', '5'] :=
    .escaped rfl rfl (.escaped rfl rfl (@Percent.Writes.plain ',' _ _ (by decide) (by decide)
      (.escaped rfl rfl .nil)))
  constructor
  · have found := (embedded_found ⟨.empty, []⟩ none
      (by decide : "DaTa".toList.map Char.toLower = "data".toList)
      (by decide : "image/svg+xml" ≠ "") (by decide) (by decide) [0xfb, 0xff, 0x2c, 0x25]
      "%2B/%38s%4aQ=%3D").1 ["q=%3B", ""] (by decide)
    rw [digits] at found
    exact found escaped
  · exact (embedded_found ⟨.empty, []⟩ none
      (by decide : "DATA".toList.map Char.toLower = "data".toList)
      (by decide : "base64" ≠ "") (by decide) (by decide) [0xfb, 0xff, 0x2c, 0x25]
      "%FB%ff,%25").2 plain

end VisualNovel.Media
