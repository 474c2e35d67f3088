import Mathlib.Data.List.TakeWhile
import VisualNovel.Numeric.Numeral
import VisualNovel.Text.Name

/-!
# Words of digits

A word of digits is a numeral if each of its digits has a place value and there are
not too many of them. Case makes no difference to such a word.
-/

set_option autoImplicit false

namespace VisualNovel.Text

def blankCodes : List Nat :=
  [
   0x9, 0xa, 0xb, 0xc, 0xd, 0x1c, 0x1d, 0x1e, 0x1f, 0x20, 0x85, 0xa0, 0x1680, 0x2000, 0x2001,
   0x2002, 0x2003, 0x2004, 0x2005, 0x2006, 0x2007, 0x2008, 0x2009, 0x200a, 0x2028, 0x2029,
   0x202f, 0x205f, 0x3000
  ]

variable {character : Char}

theorem toNat_mem_blankCodes (blank : isBlank character = true) :
    character.toNat ∈ blankCodes := by
  simp only [isBlank, Bool.or_eq_true, Bool.and_eq_true, decide_eq_true_eq, beq_iff_eq] at blank
  simp only [blankCodes, List.mem_cons, List.not_mem_nil, or_false]
  omega

private theorem isBlank_eq_false (digit : isDigit character = true) :
    isBlank character = false := by
  have apart : ∀ code ∈ blankCodes, isDigit (Char.ofNat code) = false := by decide
  cases blank : isBlank character with
  | false => rfl
  | true =>
      have plain := apart _ (toNat_mem_blankCodes blank)
      rw [Char.ofNat_toNat, digit] at plain
      contradiction

private theorem lowerCharacter_of_isDigit
    (digit : isDigit character = true ∨ isDigit (lowerCharacter character) = true) :
    lowerCharacter character = character := by
  unfold lowerCharacter at digit ⊢
  by_cases sign : character = '\u212a'
  · rw [if_pos sign, sign] at digit
    exact absurd digit (by decide)
  · rw [if_neg sign] at digit ⊢
    by_cases capital : 'A'.val ≤ character.val ∧ character.val ≤ 'Z'.val
    · -- letters are no digits, whether capital or small
      have apart : ∀ code ∈ List.range' 65 26, ¬(isDigit (Char.ofNat code) = true ∨
          isDigit (Char.ofNat code).toLower = true) := by
        decide
      have listed : character.toNat ∈ List.range' 65 26 := by
        obtain ⟨lower, upper⟩ := capital
        rw [UInt32.le_iff_toNat_le] at lower upper
        exact List.mem_range'_1.mpr ⟨lower, Nat.lt_succ_of_le upper⟩
      have plain := apart _ listed
      rw [Char.ofNat_toNat] at plain
      exact absurd digit plain
    · exact dif_neg capital

/-- A word that is made of digits was put in as it is. -/
theorem wordForm_of_isDigits {text : String}
    (digits : isDigits (strip text) = true ∨ isDigits (wordForm text) = true) :
    wordForm text = strip text := by
  have same : (strip text).toList.map lowerCharacter = (strip text).toList.map id := by
    refine List.map_congr_left fun character listed => lowerCharacter_of_isDigit ?_
    unfold isDigits wordForm lower at digits
    simp only [String.toList_ofList, Bool.and_eq_true, List.all_eq_true, List.mem_map,
      forall_exists_index, and_imp, forall_apply_eq_imp_iff₂] at digits
    exact digits.imp (fun all => all.2 character listed) fun all => all.2 character listed
  rw [wordForm, lower, same, List.map_id, String.ofList_toList]

private theorem trimBoth_of_none {drops : Char → Bool} {characters : List Char}
    (kept : ∀ character ∈ characters, drops character = false) :
    trimBoth drops characters = characters := by
  have none (listed : List Char) (same : ∀ character ∈ listed, drops character = false) :
      listed.dropWhile drops = listed := by
    cases listed with
    | nil => rfl
    | cons first rest =>
        exact List.dropWhile_cons_of_neg (by simp [same first List.mem_cons_self])
  rw [trimBoth, none characters kept, none, List.reverse_reverse]
  intro character listed
  exact kept character (List.mem_reverse.mp listed)

end VisualNovel.Text

namespace VisualNovel.Numeric

open VisualNovel.Text

structure Countable (word : String) : Prop where
  valued : ∀ character ∈ word.toList, (digitValue? character).isSome = true
  short : word.toList.length ≤ integerDigitLimit

variable {character : Char} {characters : List Char}

private theorem ungroup?_of_valued {afterDigit : Bool}
    (valued : ∀ character ∈ characters, (digitValue? character).isSome = true)
    (goesOn : characters ≠ [] ∨ afterDigit = true) :
    ungroup? afterDigit characters = some (characters.filterMap digitValue?) := by
  induction characters generalizing afterDigit with
  | nil =>
      obtain rfl := goesOn.resolve_left (fun impossible => impossible rfl)
      rfl
  | cons character rest hypothesis =>
      obtain ⟨digit, value⟩ := Option.isSome_iff_exists.mp (valued character List.mem_cons_self)
      have later := @hypothesis true
        (fun next listed => valued next (List.mem_cons_of_mem _ listed)) (.inr rfl)
      have plain : character ≠ '_' := by
        rintro rfl
        have none : digitValue? '_' = none := by decide
        rw [none] at value
        contradiction
      rw [List.filterMap_cons, value]
      simp [ungroup?, value, later]

private theorem splitSign_of_isDigit (digits : ∀ character ∈ characters, isDigit character = true) :
    splitSign characters = (false, characters) := by
  apply splitSign_of_unsigned
  · intro head
    exact absurd (digits '-' (List.mem_of_head? head)) (by decide)
  · intro head
    exact absurd (digits '+' (List.mem_of_head? head)) (by decide)

private theorem isGrouped_of_isDigit (digit : isDigit character = true) :
    isGrouped character = (digitValue? character).isSome := by
  have plain : character ≠ '_' := by
    rintro rfl
    exact absurd digit (by decide)
  rw [isGrouped, decide_eq_false plain, Bool.false_or]

/-- What a word of digits is read as depends on the digits without a place value, and on how many
digits there are. -/
theorem readInteger_of_isDigits {word : String} (digits : isDigits word = true) :
    (Countable word ∧ ∃ number : Nat, readInteger word = .ok number) ∨
      (¬Countable word ∧ ∃ reason, readInteger word = .error reason) := by
  obtain ⟨nonempty, all⟩ := by
    simpa only [isDigits, Bool.and_eq_true, Bool.not_eq_true', List.all_eq_true] using digits
  have trimmed : trimBoth isNumeralBlank word.toList = word.toList := by
    refine trimBoth_of_none fun character listed => ?_
    rw [isNumeralBlank, isBlank_eq_false (all character listed), Bool.false_and]
  have some : word.toList ≠ [] := by
    intro empty
    rw [String.toList_eq_nil_iff] at empty
    rw [empty] at nonempty
    exact absurd nonempty (by decide)
  have grouped : (∀ character ∈ word.toList, isGrouped character = true) ↔
      ∀ character ∈ word.toList, (digitValue? character).isSome = true :=
    forall₂_congr fun character listed => by rw [isGrouped_of_isDigit (all character listed)]
  unfold readInteger
  rw [trimmed, splitSign_of_isDigit all]
  dsimp only
  by_cases valued : ∀ character ∈ word.toList, (digitValue? character).isSome = true
  · have counted : (word.toList.filterMap digitValue?).length = word.toList.length :=
      List.filterMap_length_eq_length.mpr valued
    rw [List.takeWhile_eq_self_iff.mpr (grouped.mpr valued),
      List.dropWhile_eq_nil_iff.mpr (grouped.mpr valued), ungroup?_of_valued valued (.inl some)]
    dsimp only
    rw [counted]
    by_cases short : word.toList.length ≤ integerDigitLimit
    · rw [if_neg (Nat.not_lt.mpr short), if_neg (not_not_intro rfl), if_neg Bool.false_ne_true]
      exact .inl ⟨⟨valued, short⟩, _, rfl⟩
    · rw [if_pos (Nat.lt_of_not_le short)]
      exact .inr ⟨fun countable => short countable.short, _, rfl⟩
  · -- the digits before the first without a place value make no numeral
    have rest : word.toList.dropWhile isGrouped ≠ [] := fun none =>
      valued (grouped.mp (List.dropWhile_eq_nil_iff.mp none))
    refine .inr ⟨fun countable => valued countable.valued, ?_⟩
    cases ungroup? false (word.toList.takeWhile isGrouped) with
    | none => exact ⟨_, rfl⟩
    | some digits =>
        dsimp only
        rw [if_pos rest]
        split <;> exact ⟨_, rfl⟩

end VisualNovel.Numeric
