import VisualNovel.Proofs.Console.Numbers
import VisualNovel.Window.Color

/-!
# The colors that texts spell

A pair of characters is read as a number exactly if it is a numeral: two digits,
or one digit with a sign or a blank beside it. Two hexadecimal digits are a part
of a color that can be drawn. The other numerals are read all the same, and what
comes of them may be out of range.
-/

set_option autoImplicit false

namespace VisualNovel.Window.Rgb

open VisualNovel.Numeric VisualNovel.Text

variable {character first second : Char} {value : Nat}

-- A hexadecimal digit is one of ASCII, and there all digits have the same value either way.
theorem digit?_of_hexValue? (found : hexValue? character = some value) :
    digit? character = some value := by
  have alike : ∀ code < 128, hexValue? (Char.ofNat code) = none ∨
      digit? (Char.ofNat code) = hexValue? (Char.ofNat code) := by
    decide +kernel
  have known := alike _ (ascii_of_hexValue? found)
  rw [Char.ofNat_toNat] at known
  rcases known with none | same
  · rw [found] at none
    contradiction
  · rw [same, found]

theorem digit?_of_blank (blank : isNumeralBlank character = true) : digit? character = none := by
  have apart : ∀ code ∈ blankCodes, digit? (Char.ofNat code) = none := by
    decide +kernel
  have white : isBlank character = true := by
    unfold isNumeralBlank at blank
    exact (Bool.and_eq_true_iff.mp blank).1
  have plain := apart _ (toNat_mem_blankCodes white)
  rwa [Char.ofNat_toNat] at plain

inductive Digits : Char → Char → Int → Prop where
  | digits {first second : Char} {high low : Nat} :
      hexValue? first = some high → hexValue? second = some low →
      Digits first second (high * 16 + low : Nat)

/-- A numeral of two characters: digits of any script, or one of them with a sign before it or a
blank beside it. -/
inductive Numeral : Char → Char → Int → Prop where
  | digits {first second : Char} {high low : Nat} :
      digit? first = some high → digit? second = some low →
      Numeral first second (high * 16 + low : Nat)
  | plus {second : Char} {low : Nat} : digit? second = some low → Numeral '+' second (low : Int)
  | minus {second : Char} {low : Nat} :
      digit? second = some low → Numeral '-' second (-(low : Int))
  | behind {first second : Char} {low : Nat} :
      isNumeralBlank first = true → digit? second = some low → Numeral first second (low : Int)
  | before {first second : Char} {high : Nat} :
      digit? first = some high → isNumeralBlank second = true →
      Numeral first second (high : Int)

theorem Digits.numeral {part : Int} (digits : Digits first second part) :
    Numeral first second part := by
  cases digits with
  | digits high low => exact .digits (digit?_of_hexValue? high) (digit?_of_hexValue? low)

/-- A numeral of two hexadecimal digits is written with those. -/
theorem Numeral.digits_of_hexadecimal {part : Int} (numeral : Numeral first second part)
    (left : (hexValue? first).isSome = true) (right : (hexValue? second).isSome = true) :
    Digits first second part := by
  obtain ⟨high, leftValue⟩ := Option.isSome_iff_exists.mp left
  obtain ⟨low, rightValue⟩ := Option.isSome_iff_exists.mp right
  have leftDigit := digit?_of_hexValue? leftValue
  have rightDigit := digit?_of_hexValue? rightValue
  cases numeral with
  | digits foundHigh foundLow =>
      cases leftDigit.symm.trans foundHigh
      cases rightDigit.symm.trans foundLow
      exact .digits leftValue rightValue
  | plus | minus => contradiction
  | behind blank =>
      rw [digit?_of_blank blank] at leftDigit
      contradiction
  | before _ blank =>
      rw [digit?_of_blank blank] at rightDigit
      contradiction

def signed? (characters : List Char) : Option Int :=
  match (splitSign characters).2.mapM digit? with
  | none | some [] => none
  | some digits =>
      let value : Nat := digits.foldl (fun value digit => value * 16 + digit) 0
      some (if (splitSign characters).1 then -(value : Int) else value)

private theorem part?_eq (first second : Char) :
    part? first second = signed? ([first, second].filter fun other => !isNumeralBlank other) := by
  have trimmed : trimBoth isNumeralBlank [first, second] =
      [first, second].filter fun other => !isNumeralBlank other := by
    cases left : isNumeralBlank first <;> cases right : isNumeralBlank second <;>
      simp [trimBoth, left, right]
  rw [← trimmed]
  unfold part? signed?
  generalize trimBoth isNumeralBlank [first, second] = kept
  rfl

theorem signed?_single {part : Int} :
    signed? [character] = some part ↔ ∃ low : Nat, digit? character = some low ∧ part = low := by
  have noMinus : digit? '-' = none := by decide
  have noPlus : digit? '+' = none := by decide
  by_cases minus : character = '-'
  · subst minus
    simp [signed?, splitSign, noMinus]
  by_cases plus : character = '+'
  · subst plus
    simp [signed?, splitSign, noPlus]
  have whole : splitSign [character] = (false, [character]) :=
    splitSign_of_unsigned (by simpa using minus) (by simpa using plus)
  cases found : digit? character with
  | none => simp [signed?, whole, found]
  | some low => simp [signed?, whole, found, eq_comm]

/-- Of two characters without blanks, the first may be a sign. -/
theorem signed?_pair {part : Int} : signed? [first, second] = some part ↔
    (∃ high low : Nat, digit? first = some high ∧ digit? second = some low ∧
      part = (high * 16 + low : Nat)) ∨
    (first = '+' ∧ ∃ low : Nat, digit? second = some low ∧ part = low) ∨
    (first = '-' ∧ ∃ low : Nat, digit? second = some low ∧ part = -(low : Int)) := by
  have noMinus : digit? '-' = none := by decide
  have noPlus : digit? '+' = none := by decide
  by_cases minus : first = '-'
  · subst minus
    cases low : digit? second <;> simp [signed?, splitSign, noMinus, low, eq_comm]
  by_cases plus : first = '+'
  · subst plus
    cases low : digit? second <;> simp [signed?, splitSign, noPlus, low, eq_comm]
  have whole : splitSign [first, second] = (false, [first, second]) :=
    splitSign_of_unsigned (by simpa using minus) (by simpa using plus)
  cases high : digit? first with
  | none => simp [signed?, whole, high, minus, plus]
  | some high =>
      cases low : digit? second <;> simp [signed?, *, eq_comm]

private theorem isNumeralBlank_of_digit (found : digit? character = some value) :
    isNumeralBlank character = false := by
  cases blank : isNumeralBlank character with
  | false => rfl
  | true =>
      rw [digit?_of_blank blank] at found
      contradiction

/-- Whatever is read as a part of a color is a numeral. -/
private theorem numeral_of_part? {part : Int} (read : part? first second = some part) :
    Numeral first second part := by
  rw [part?_eq] at read
  cases left : isNumeralBlank first with
  | true =>
      cases right : isNumeralBlank second with
      | true =>
          simp only [List.filter_cons, List.filter_nil, left, right] at read
          contradiction
      | false =>
          simp only [List.filter_cons, List.filter_nil, left, right] at read
          obtain ⟨low, found, rfl⟩ := signed?_single.mp read
          exact .behind left found
  | false =>
      cases right : isNumeralBlank second with
      | true =>
          simp only [List.filter_cons, List.filter_nil, left, right] at read
          obtain ⟨high, found, rfl⟩ := signed?_single.mp read
          exact .before found right
      | false =>
          simp only [List.filter_cons, List.filter_nil, left, right] at read
          rcases signed?_pair.mp read with ⟨high, low, foundHigh, foundLow, rfl⟩ |
            ⟨rfl, low, found, rfl⟩ | ⟨rfl, low, found, rfl⟩
          · exact .digits foundHigh foundLow
          · exact .plus found
          · exact .minus found

/-- Every numeral is read as a part of a color. -/
private theorem Numeral.part?_eq_some {part : Int} (numeral : Numeral first second part) :
    part? first second = some part := by
  rw [part?_eq]
  have plain {character : Char} {value : Nat} (found : digit? character = some value) :=
    isNumeralBlank_of_digit found
  have minus : isNumeralBlank '-' = false := by decide
  have plus : isNumeralBlank '+' = false := by decide
  cases numeral with
  | digits high low =>
      simp only [List.filter_cons, List.filter_nil, plain high, plain low]
      exact signed?_pair.mpr (.inl ⟨_, _, high, low, rfl⟩)
  | plus low =>
      simp only [List.filter_cons, List.filter_nil, plus, plain low]
      exact signed?_pair.mpr (.inr (.inl ⟨rfl, _, low, rfl⟩))
  | minus low =>
      simp only [List.filter_cons, List.filter_nil, minus, plain low]
      exact signed?_pair.mpr (.inr (.inr ⟨rfl, _, low, rfl⟩))
  | behind blank low =>
      simp only [List.filter_cons, List.filter_nil, blank, plain low]
      exact signed?_single.mpr ⟨_, low, rfl⟩
  | before high blank =>
      simp only [List.filter_cons, List.filter_nil, blank, plain high]
      exact signed?_single.mpr ⟨_, high, rfl⟩

private theorem part?_eq_some_iff {part : Int} :
    part? first second = some part ↔ Numeral first second part :=
  ⟨numeral_of_part?, Numeral.part?_eq_some⟩

/-! ## Colors -/

/-- A color is spelled by six characters, or by three that each stand for two, where a pair of
characters stands for a number as the relation says. -/
inductive Spells (stands : Char → Char → Int → Prop) : List Char → Rgb → Prop where
  | long {red red' green green' blue blue' : Char} {color : Rgb} :
      stands red red' color.red → stands green green' color.green →
      stands blue blue' color.blue → Spells stands [red, red', green, green', blue, blue'] color
  | short {red green blue : Char} {color : Rgb} :
      stands red red color.red → stands green green color.green → stands blue blue color.blue →
      Spells stands [red, green, blue] color

structure Drawable (color : Rgb) : Prop where
  red : 0 ≤ color.red ∧ color.red ≤ 255
  green : 0 ≤ color.green ∧ color.green ≤ 255
  blue : 0 ≤ color.blue ∧ color.blue ≤ 255

def spelling (text : Option String) : List Char :=
  (trimBoth isBlank (text.getD "").toList).dropWhile (· = '#')

def Misspells (characters : List Char) (color : Rgb) : Prop :=
  Spells Numeral characters color ∧ ∃ character ∈ characters, hexValue? character = none

variable {characters : List Char} {color fallback : Rgb}

theorem ofPairs?_long {red red' green green' blue blue' : Char} :
    ofPairs? [red, red', green, green', blue, blue'] = some color ↔
      Numeral red red' color.red ∧ Numeral green green' color.green ∧
        Numeral blue blue' color.blue := by
  obtain ⟨red, green, blue⟩ := color
  simp only [ofPairs?, ← part?_eq_some_iff, Option.bind_eq_bind, Option.bind_eq_some_iff,
    Option.pure_def, Option.some.injEq, Rgb.mk.injEq]
  constructor
  · rintro ⟨_, first, _, second, _, third, rfl, rfl, rfl⟩
    exact ⟨first, second, third⟩
  · rintro ⟨first, second, third⟩
    exact ⟨_, first, _, second, _, third, rfl, rfl, rfl⟩

private theorem ofPairs?_lengthened :
    ofPairs? (lengthened characters) = some color ↔ Spells Numeral characters color := by
  constructor
  · intro read
    unfold lengthened at read
    split at read
    · obtain ⟨red, green, blue⟩ := ofPairs?_long.mp read
      exact .short red green blue
    · unfold ofPairs? at read
      split at read
      · obtain ⟨red, green, blue⟩ := ofPairs?_long.mp read
        exact .long red green blue
      · contradiction
  · intro spells
    cases spells with
    | long red green blue => exact ofPairs?_long.mpr ⟨red, green, blue⟩
    | short red green blue => exact ofPairs?_long.mpr ⟨red, green, blue⟩

theorem parse_of_spells {text : Option String} (spells : Spells Numeral (spelling text) color)
    (fallback : Rgb) : parse text fallback = color := by
  have read := ofPairs?_lengthened.mpr spells
  unfold spelling at read
  simp [parse, read]

private theorem parse_of_not_spells {text : Option String}
    (none : ∀ color, ¬ Spells Numeral (spelling text) color) (fallback : Rgb) :
    parse text fallback = fallback := by
  have unread : ofPairs? (lengthened (spelling text)) = Option.none :=
    Option.eq_none_iff_forall_ne_some.mpr fun color read => none color (ofPairs?_lengthened.mp read)
  unfold spelling at unread
  simp [parse, unread]

theorem Digits.drawable {part : Int} (digits : Digits first second part) :
    0 ≤ part ∧ part ≤ 255 := by
  cases digits with
  | digits high low =>
      have highLt := hexValue?_lt high
      have lowLt := hexValue?_lt low
      omega

theorem Spells.drawable (spells : Spells Digits characters color) : color.Drawable := by
  cases spells with
  | long red green blue | short red green blue =>
      exact ⟨red.drawable, green.drawable, blue.drawable⟩

theorem Spells.numeral (spells : Spells Digits characters color) :
    Spells Numeral characters color := by
  cases spells with
  | long red green blue => exact .long red.numeral green.numeral blue.numeral
  | short red green blue => exact .short red.numeral green.numeral blue.numeral

theorem Spells.digits (spells : Spells Numeral characters color)
    (plain : ∀ character ∈ characters, (hexValue? character).isSome = true) :
    Spells Digits characters color := by
  cases spells with
  | long red green blue =>
      simp only [List.mem_cons, List.not_mem_nil, or_false, forall_eq_or_imp, forall_eq] at plain
      obtain ⟨first, second, third, fourth, fifth, sixth⟩ := plain
      exact .long (red.digits_of_hexadecimal first second)
        (green.digits_of_hexadecimal third fourth) (blue.digits_of_hexadecimal fifth sixth)
  | short red green blue =>
      simp only [List.mem_cons, List.not_mem_nil, or_false, forall_eq_or_imp, forall_eq] at plain
      obtain ⟨first, second, third⟩ := plain
      exact .short (red.digits_of_hexadecimal first first)
        (green.digits_of_hexadecimal second second) (blue.digits_of_hexadecimal third third)

/-- Three or six hexadecimal digits are the color that they spell, and a misspelled color is read
as well. All else is the color given beforehand. -/
theorem parse_spelled (text : Option String) (drawable : fallback.Drawable) :
    (∀ color, Spells Digits (spelling text) color →
      parse text fallback = color ∧ color.Drawable) ∧
    (∀ color, Misspells (spelling text) color → parse text fallback = color) ∧
    ((∀ color, ¬ Misspells (spelling text) color) →
      (parse text fallback).Drawable ∧
        (parse text fallback ≠ fallback →
          Spells Digits (spelling text) (parse text fallback))) := by
  refine ⟨fun color spells => ⟨parse_of_spells spells.numeral fallback, spells.drawable⟩,
    fun color misspells => parse_of_spells misspells.1 fallback, fun proper => ?_⟩
  by_cases read : ∃ color, Spells Numeral (spelling text) color
  · obtain ⟨color, spells⟩ := read
    have plain : ∀ character ∈ spelling text, (hexValue? character).isSome = true := by
      intro character member
      refine Option.isSome_iff_ne_none.mpr fun odd => ?_
      exact proper color ⟨spells, character, member, odd⟩
    rw [parse_of_spells spells fallback]
    exact ⟨(spells.digits plain).drawable, fun _ => spells.digits plain⟩
  · rw [parse_of_not_spells (fun color spells => read ⟨color, spells⟩) fallback]
    exact ⟨drawable, fun other => absurd rfl other⟩

theorem parse_spelled_short :
    white.Drawable ∧ parse (some " #0f8") white = ⟨0, 255, 136⟩ ∧
      (⟨0, 255, 136⟩ : Rgb).Drawable := by
  have drawable : white.Drawable := ⟨by decide, by decide, by decide⟩
  have spells : Spells Digits (spelling (some " #0f8")) ⟨0, 255, 136⟩ := by
    have spelled : spelling (some " #0f8") = ['0', 'f', '8'] := by decide
    have red : Digits '0' '0' (0 * 16 + 0 : Nat) := .digits rfl rfl
    have green : Digits 'f' 'f' (15 * 16 + 15 : Nat) := .digits rfl rfl
    have blue : Digits '8' '8' (8 * 16 + 8 : Nat) := .digits rfl rfl
    rw [spelled]
    exact .short red green blue
  obtain ⟨proper, -, -⟩ := parse_spelled (some " #0f8") drawable
  exact ⟨drawable, proper _ spells⟩

/-- A sign before one digit passes for a pair of digits, and the parts come out below zero. -/
theorem parse_signed_digits :
    white.Drawable ∧ parse (some "#-1-1-1") white = ⟨-1, -1, -1⟩ ∧
      ¬ (parse (some "#-1-1-1") white).Drawable := by
  have parsed : parse (some "#-1-1-1") white = ⟨-1, -1, -1⟩ := by decide
  refine ⟨⟨by decide, by decide, by decide⟩, parsed, ?_⟩
  intro drawable
  rw [parsed] at drawable
  exact absurd drawable.red.1 (by decide)

end VisualNovel.Window.Rgb
