import VisualNovel.Json.Reader

/-!
# Where a text exceeds the limits of reading

A text is scanned for how deep its lists and objects are nested and for what may
come next, whether it holds a value or not. A reader that takes a value off the
front leaves the scan as deep as it was, so a reader is stopped by a limit only
where the scan finds a bracket too deep or a whole number that is too long. What
stands in quotes counts for neither.
-/

set_option autoImplicit false

namespace VisualNovel.Json

open VisualNovel.Text VisualNovel.Numeric

inductive Mode where
  | ready
  | between
  | quoted
  | escaped
  deriving DecidableEq

/-- Where a scan stands: within how many lists and objects, and what may come next. -/
structure Spot where
  depth : Nat
  mode : Mode
  deriving DecidableEq

namespace Spot

def outside (depth : Nat) (mode : Mode) (character : Char) : Spot :=
  if character = '"' then ⟨depth, .quoted⟩
  else if character = '[' then ⟨depth + 1, .ready⟩
  else if character = '\x7b' then ⟨depth + 1, .between⟩
  else if character = ']' ∨ character = '\x7d' then ⟨depth - 1, .between⟩
  else if character = ',' ∨ character = ':' then ⟨depth, .ready⟩
  else if isSpace character then ⟨depth, mode⟩
  else ⟨depth, .between⟩

def past : Spot → Char → Spot
  | ⟨depth, .escaped⟩, _ => ⟨depth, .quoted⟩
  | ⟨depth, .quoted⟩, character =>
      ⟨depth, if character = '"' then .between else if character = '\\' then .escaped else .quoted⟩
  | ⟨depth, .ready⟩, character => outside depth .ready character
  | ⟨depth, .between⟩, character => outside depth .between character

def after (spot : Spot) (characters : List Char) : Spot :=
  characters.foldl past spot

def Unquoted (spot : Spot) : Prop :=
  spot.mode = .ready ∨ spot.mode = .between

theorem unquoted_ready {depth : Nat} : Unquoted ⟨depth, .ready⟩ := .inl rfl

theorem unquoted_between {depth : Nat} : Unquoted ⟨depth, .between⟩ := .inr rfl

theorem Unquoted.past_eq {spot : Spot} (unquoted : spot.Unquoted) (character : Char) :
    spot.past character = outside spot.depth spot.mode character := by
  obtain ⟨depth, mode⟩ := spot
  obtain rfl | rfl := unquoted <;> rfl

end Spot

/-- What comes first in a text leads from one spot to another, where the rest stands. -/
def Leads (spot : Spot) (text : List Char) (later : Spot) (rest : List Char) : Prop :=
  ∃ piece, text = piece ++ rest ∧ spot.after piece = later

namespace Leads

variable {spot later last : Spot} {text rest remains : List Char}

theorem refl (spot : Spot) (text : List Char) : Leads spot text spot text :=
  ⟨[], rfl, rfl⟩

theorem trans (first : Leads spot text later rest) (second : Leads later rest last remains) :
    Leads spot text last remains := by
  obtain ⟨piece, rfl, rfl⟩ := first
  obtain ⟨next, rfl, rfl⟩ := second
  exact ⟨piece ++ next, (List.append_assoc ..).symm, List.foldl_append⟩

theorem step (spot : Spot) (character : Char) (rest : List Char) :
    Leads spot (character :: rest) (spot.past character) rest :=
  ⟨[character], rfl, rfl⟩

theorem of_stays {piece : List Char} (stays : ∀ character ∈ piece, spot.past character = spot)
    (rest : List Char) : Leads spot (piece ++ rest) spot rest := by
  refine ⟨piece, rfl, ?_⟩
  induction piece with
  | nil => rfl
  | cons character piece ih =>
      rw [Spot.after, List.foldl_cons, stays character List.mem_cons_self]
      exact ih fun other member => stays other (List.mem_cons_of_mem _ member)

theorem skipSpace (unquoted : spot.Unquoted) (text : List Char) :
    Leads spot text spot (skipSpace text) := by
  have stays : ∀ character ∈ text.takeWhile isSpace, spot.past character = spot := by
    intro character member
    have space : isSpace character = true := List.all_eq_true.mp List.all_takeWhile _ member
    have kinds : ∀ other ∈ [' ', '\t', '\n', '\r'], ∀ depth mode,
        Spot.outside depth mode other = ⟨depth, mode⟩ := by
      intro other listed depth mode
      simp only [List.mem_cons, List.not_mem_nil, or_false] at listed
      rcases listed with rfl | rfl | rfl | rfl <;> rfl
    have listed : character ∈ [' ', '\t', '\n', '\r'] := by
      simpa [isSpace, or_assoc] using space
    rw [unquoted.past_eq, kinds character listed]
  have leads := of_stays stays (Json.skipSpace text)
  rwa [Json.skipSpace, List.takeWhile_append_dropWhile] at leads

/-- Past the white space and the character after it. -/
theorem delimiter {character : Char} (unquoted : spot.Unquoted)
    (same : Json.skipSpace text = character :: rest) : Leads spot text (spot.past character) rest :=
  (same ▸ skipSpace unquoted text).trans (step spot character rest)

/-- Past a comma or a colon with the white space around it. -/
theorem separator {depth : Nat} {character : Char} (separates : character = ',' ∨ character = ':')
    (same : Json.skipSpace text = character :: rest) :
    Leads ⟨depth, .between⟩ text ⟨depth, .ready⟩ (Json.skipSpace rest) := by
  have leads : Leads ⟨depth, .between⟩ text _ rest := delimiter Spot.unquoted_between same
  have goal : Spot.past ⟨depth, .between⟩ character = ⟨depth, .ready⟩ := by
    obtain rfl | rfl := separates <;> rfl
  rw [goal] at leads
  exact leads.trans (skipSpace Spot.unquoted_ready rest)

end Leads

/-! ## Characters of scalars -/

def isPlain (character : Char) : Bool :=
  !isSpace character && !List.contains ['"', '[', ']', '\x7b', '\x7d', ',', ':'] character

private theorem isPlain_of_isDigit {character : Char} (digit : character.isDigit = true) :
    isPlain character = true := by
  have marks : List.all [' ', '\t', '\n', '\r', '"', '[', ']', '\x7b', '\x7d', ',', ':']
      (fun other => !other.isDigit) = true := rfl
  have unlisted : character ∉
      [' ', '\t', '\n', '\r', '"', '[', ']', '\x7b', '\x7d', ',', ':'] := by
    intro listed
    have none := List.all_eq_true.mp marks character listed
    rw [digit] at none
    cases none
  simp only [List.mem_cons, List.not_mem_nil, or_false, not_or] at unlisted
  simp [isPlain, isSpace, unlisted]

private theorem Spot.Unquoted.past_plain {spot : Spot} {character : Char} (unquoted : spot.Unquoted)
    (plain : isPlain character = true) : spot.past character = ⟨spot.depth, .between⟩ := by
  rw [unquoted.past_eq]
  simp [isPlain] at plain
  simp [outside, plain]

/-- A text is a piece, all of which stands for itself, and the rest. -/
structure Plainly (piece text rest : List Char) : Prop where
  append : text = piece ++ rest
  plain : ∀ character ∈ piece, isPlain character = true

namespace Plainly

variable {piece next text rest remains : List Char} {character : Char}

theorem nil (text : List Char) : Plainly [] text text :=
  ⟨rfl, nofun⟩

theorem cons (plain : isPlain character = true) (plainly : Plainly piece text rest) :
    Plainly (character :: piece) (character :: text) rest := by
  constructor
  · exact congrArg (character :: ·) plainly.append
  · exact List.forall_mem_cons.mpr ⟨plain, plainly.plain⟩

theorem join (first : Plainly piece text rest) (second : Plainly next rest remains) :
    Plainly (piece ++ next) text remains := by
  constructor
  · rw [first.append, second.append, List.append_assoc]
  · exact List.forall_mem_append.mpr ⟨first.plain, second.plain⟩

theorem digits (text : List Char) : Plainly (text.takeWhile Char.isDigit) text
    (text.drop (text.takeWhile Char.isDigit).length) := by
  constructor
  · exact (List.prefix_iff_eq_append.mp (List.takeWhile_prefix _)).symm
  · exact fun _ member => isPlain_of_isDigit (List.all_eq_true.mp List.all_takeWhile _ member)

theorem leads {spot : Spot} (plainly : Plainly piece text rest) (unquoted : spot.Unquoted)
    (some : piece ≠ []) : Leads spot text ⟨spot.depth, .between⟩ rest := by
  obtain ⟨rfl, plain⟩ := plainly
  cases piece with
  | nil => exact absurd rfl some
  | cons first piece =>
      have stays : ∀ character ∈ piece, Spot.past ⟨spot.depth, .between⟩ character =
          ⟨spot.depth, .between⟩ := fun character member =>
        Spot.unquoted_between.past_plain (plain character (List.mem_cons_of_mem _ member))
      have enters := Leads.step spot first (piece ++ rest)
      rw [unquoted.past_plain (plain first List.mem_cons_self)] at enters
      exact enters.trans (.of_stays stays rest)

end Plainly

private theorem eq_append_of_afterWord? {word text rest : List Char}
    (after : afterWord? word text = some rest) : text = word ++ rest := by
  fun_induction afterWord? word text with
  | case1 text => exact Option.some.inj after
  | case2 => cases after
  | case3 expected word text ih => rw [ih after, List.cons_append]
  | case4 => cases after

/-! ## Numbers -/

theorem plainly_wholeOf (text : List Char) :
    Plainly (wholeOf text) text (text.drop (wholeOf text).length) := by
  unfold wholeOf
  split
  · exact (Plainly.nil _).cons rfl
  · exact .digits text

private theorem plainly_fractionOf (text : List Char) :
    Plainly (fractionOf text) text (text.drop (fractionOf text).length) := by
  unfold fractionOf
  split
  · next rest =>
      dsimp only
      split
      · exact .nil _
      · exact (Plainly.digits rest).cons rfl
  · exact .nil text

private theorem plainly_exponentOf (text : List Char) :
    Plainly (exponentOf text) text (text.drop (exponentOf text).length) := by
  unfold exponentOf
  split
  · next mark rest =>
      split
      · next marks =>
          have plain : isPlain mark = true := by rcases marks with rfl | rfl <;> rfl
          dsimp only
          generalize signed : ((rest.take 1).filter fun character =>
            character = '+' || character = '-') = sign
          have front : Plainly sign rest (rest.drop sign.length) := by
            subst signed
            cases rest with
            | nil => exact .nil []
            | cons first rest =>
                by_cases sign : first = '+' ∨ first = '-'
                · have plain : isPlain first = true := by rcases sign with rfl | rfl <;> rfl
                  simpa [sign] using (Plainly.nil rest).cons plain
                · simpa [sign] using Plainly.nil (first :: rest)
          split
          · exact .nil _
          · have digits := Plainly.digits (rest.drop sign.length)
            simpa [List.drop_drop] using (front.join digits).cons plain
      · exact .nil _
  · exact .nil []

/-- A whole number with some count of digits stands at the front of a text, without a fraction or an
exponent. -/
def WholeNumber (count : Nat) (text : List Char) : Prop :=
  ∃ body, (text = body ∨ text = '-' :: body) ∧ (wholeOf body).length = count ∧
    fractionOf (body.drop count) = [] ∧ exponentOf (body.drop count) = []

/-- A text exceeds a limit: where a value may come, there is a bracket within as many lists and
objects as may be nested, or a whole number that is too long. -/
inductive Exceeds (levels : Nat) (spot : Spot) (text : List Char) : Limit → Prop
  | list {rest : List Char} (leads : Leads spot text ⟨levels, .ready⟩ ('[' :: rest)) :
      Exceeds levels spot text .listNesting
  | object {rest : List Char} (leads : Leads spot text ⟨levels, .ready⟩ ('\x7b' :: rest)) :
      Exceeds levels spot text .objectNesting
  | integer {depth count : Nat} {rest : List Char} (leads : Leads spot text ⟨depth, .ready⟩ rest)
      (number : WholeNumber count rest) (long : integerDigitLimit < count) :
      Exceeds levels spot text (.integerDigits count)

theorem Exceeds.behind {levels : Nat} {spot later : Spot} {text rest : List Char} {limit : Limit}
    (exceeds : Exceeds levels later rest limit) (leads : Leads spot text later rest) :
    Exceeds levels spot text limit := by
  cases exceeds with
  | list further => exact .list (leads.trans further)
  | object further => exact .object (leads.trans further)
  | integer further number long => exact .integer (leads.trans further) number long

/-- What comes of a reader at a spot: what it takes leads to the goal, and a limit that stops it is
exceeded. -/
structure Keeps {α : Type} (levels : Nat) (spot goal : Spot) (text : List Char)
    (result : Except Stop (Taken α)) : Prop where
  takes : ∀ value rest, result = .ok (value, rest) → Leads spot text goal rest
  stops : ∀ limit, result = .error (.limit limit) → Exceeds levels spot text limit

namespace Keeps

variable {α β : Type} {levels : Nat} {spot later goal : Spot} {text rest : List Char}

theorem ok {value : α} (leads : Leads spot text goal rest) :
    Keeps levels spot goal text (.ok (value, rest)) := by
  constructor
  · intro other remains same
    cases same
    exact leads
  · exact nofun

theorem fault {reason : Fault} :
    Keeps levels spot goal text (stopAt reason rest : Except Stop (Taken α)) :=
  ⟨nofun, nofun⟩

theorem limit {exceeded : Limit} (exceeds : Exceeds levels spot text exceeded) :
    Keeps levels spot goal text (.error (.limit exceeded) : Except Stop (Taken α)) := by
  constructor
  · exact nofun
  · intro other same
    cases same
    exact exceeds

theorem behind {result : Except Stop (Taken α)} (keeps : Keeps levels later goal rest result)
    (leads : Leads spot text later rest) : Keeps levels spot goal text result := by
  constructor
  · exact fun value remains same => leads.trans (keeps.takes value remains same)
  · exact fun limit same => (keeps.stops limit same).behind leads

theorem bind {first : Except Stop (Taken α)} {next : Taken α → Except Stop (Taken β)}
    (keeps : Keeps levels spot later text first)
    (follows : ∀ value rest, Keeps levels later goal rest (next (value, rest))) :
    Keeps levels spot goal text (first >>= next) := by
  cases first with
  | error stop =>
      constructor
      · exact nofun
      · intro limit same
        cases same
        exact keeps.stops limit rfl
  | ok taken => exact (follows taken.1 taken.2).behind (keeps.takes taken.1 taken.2 rfl)

end Keeps

private theorem exists_sign (text : List Char) : ∃ sign body, Plainly sign text body ∧
    (text = body ∨ text = '-' :: body) ∧
    (if text.head? = some '-' then text.drop 1 else text) = body := by
  by_cases negative : text.head? = some '-'
  · obtain ⟨body, rfl⟩ := List.head?_eq_some_iff.mp negative
    exact ⟨['-'], body, (Plainly.nil body).cons rfl, .inr rfl, rfl⟩
  · exact ⟨[], text, .nil text, .inl rfl, if_neg negative⟩

/-- A number is read up to its end, or exceeds the limit of digits. -/
private theorem keeps_readNumber? {levels depth : Nat} {text : List Char}
    {result : Except Stop (Taken Value)} (read : readNumber? text = some result) :
    Keeps levels ⟨depth, .ready⟩ ⟨depth, .between⟩ text result := by
  obtain ⟨sign, body, front, signed, same⟩ := exists_sign text
  unfold readNumber? at read
  rw [same] at read
  dsimp only at read
  split at read
  · cases read
  · next whole =>
      have number := ((front.join (plainly_wholeOf body)).join (plainly_fractionOf _)).join
        (plainly_exponentOf _)
      have leads : Leads ⟨depth, .ready⟩ text ⟨depth, .between⟩ _ :=
        number.leads Spot.unquoted_ready (by simp_all)
      split at read
      · next integer =>
          rw [Bool.and_eq_true, List.isEmpty_iff, List.isEmpty_iff] at integer
          obtain ⟨fraction, exponent⟩ := integer
          split at read
          · next long =>
              cases read
              rw [fraction] at exponent
              exact .limit (.integer (.refl _ _) ⟨body, signed, rfl, fraction, exponent⟩ long)
          · cases read
            exact .ok leads
      · obtain ⟨value, -, same⟩ := Option.map_eq_some_iff.mp read
        cases same
        exact .ok leads

private theorem keeps_readScalar (levels depth : Nat) (text : List Char) :
    Keeps levels ⟨depth, .ready⟩ ⟨depth, .between⟩ text (readScalar text) := by
  unfold readScalar
  split
  · next taken found =>
      obtain ⟨⟨word, value⟩, listed, same⟩ := List.exists_of_findSome?_eq_some found
      obtain ⟨rest, after, rfl⟩ := Option.map_eq_some_iff.mp same
      have known : words.all (fun entry =>
          !entry.1.toList.isEmpty && entry.1.toList.all isPlain) = true := rfl
      have word := List.all_eq_true.mp known _ listed
      rw [Bool.and_eq_true, Bool.not_eq_true', List.isEmpty_eq_false_iff] at word
      have plainly : Plainly _ text rest :=
        ⟨eq_append_of_afterWord? after, List.all_eq_true.mp word.2⟩
      exact .ok (plainly.leads Spot.unquoted_ready word.1)
  · split
    · next number => exact keeps_readNumber? number
    · exact .fault

/-! ## Strings -/

theorem past_quoted {depth : Nat} {character : Char} (mark : character ≠ '"')
    (backslash : character ≠ '\\') :
    Spot.past ⟨depth, .quoted⟩ character = ⟨depth, .quoted⟩ := by
  simp [Spot.past, mark, backslash]

/-- An escaped code, its backslash included. -/
theorem leads_code {depth code : Nat} {digits : List Char} (read : codeUnit? digits = some code) :
    Leads ⟨depth, .quoted⟩ ('\\' :: 'u' :: digits) ⟨depth, .quoted⟩ (digits.drop 4) := by
  unfold codeUnit? at read
  split at read
  · cases read
  · have escape : Leads ⟨depth, .quoted⟩ ('\\' :: 'u' :: digits) ⟨depth, .quoted⟩ digits :=
      (Leads.step _ _ _).trans (.step _ _ _)
    have stays : ∀ character ∈ digits.take 4,
        Spot.past ⟨depth, .quoted⟩ character = ⟨depth, .quoted⟩ := by
      intro character member
      obtain ⟨value, digit⟩ := hexValue?_of_hexNumber? read character member
      refine past_quoted ?_ ?_
      · rintro rfl
        cases digit
      · rintro rfl
        cases digit
    have codes := Leads.of_stays stays (digits.drop 4)
    rw [List.take_append_drop] at codes
    exact escape.trans codes

private theorem leads_lowHalf {depth low : Nat} {text : List Char} (read : lowHalf? text = some low)
    (half : isLowHalf low = true) :
    Leads ⟨depth, .quoted⟩ text ⟨depth, .quoted⟩ (text.drop 6) := by
  unfold lowHalf? at read
  split at read
  · split at read
    · cases read
      cases half
    · exact leads_code read
  · cases read
    cases half

/-- A string is read up to its closing quote. -/
private theorem keeps_readString (levels depth : Nat) (opening read text : List Char) :
    Keeps levels ⟨depth, .quoted⟩ ⟨depth, .between⟩ text (readString opening read text) := by
  fun_induction readString opening read text with
  | case1 => exact .fault
  | case2 => exact .ok (.step _ _ _)
  | case3 => exact .fault
  | case4 => exact .fault
  | case5 read digits code unit rest high low half isLow joined ih =>
      -- Either half of a surrogate pair is written as a code of its own.
      exact ih.behind ((leads_code unit).trans (leads_lowHalf half isLow))
  | case6 read digits code unit rest high low half notLow ih => exact ih.behind (leads_code unit)
  | case7 read digits code unit rest notHigh ih => exact ih.behind (leads_code unit)
  | case8 => exact .fault
  | case9 read escape rest notCode character escaped ih =>
      exact ih.behind ((Leads.step _ _ _).trans (.step _ _ _))
  | case10 => exact .fault
  | case11 => exact .fault
  | case12 read character rest notMark notCode notLast notEscape control ih =>
      have backslash : character ≠ '\\' := by
        intro same
        cases rest with
        | nil => exact notLast same rfl
        | cons escape rest => exact notEscape escape rest same rfl
      have leads := Leads.step ⟨depth, .quoted⟩ character rest
      rw [past_quoted notMark backslash] at leads
      exact ih.behind leads

private theorem keeps_quotation (levels : Nat) {spot : Spot} (unquoted : spot.Unquoted)
    (opening rest : List Char) :
    Keeps levels spot ⟨spot.depth, .between⟩ ('"' :: rest) (readString opening [] rest) := by
  have opens := Leads.step spot '"' rest
  rw [unquoted.past_eq] at opens
  exact (keeps_readString levels spot.depth opening [] rest).behind opens

/-! ## Lists, objects and values -/

section

variable {levels depth : Nat} {item : List Char → Except Stop (Taken Value)}
  (keeps : ∀ text, Keeps levels ⟨depth + 1, .ready⟩ ⟨depth + 1, .between⟩ text (item text))

include keeps

private theorem keeps_readItems (count : Nat) (items : List Value) (text : List Char) :
    Keeps levels ⟨depth + 1, .ready⟩ ⟨depth, .between⟩ text (readItems item count items text) := by
  induction count generalizing items text with
  | zero => exact .fault
  | succ count ih =>
      refine (keeps text).bind fun value rest => ?_
      dsimp only
      split
      · next same => exact .ok (Leads.delimiter Spot.unquoted_between same)
      · next same => exact (ih _ _).behind (.separator (.inl rfl) same)
      · exact .fault

-- The first entry comes right after the brace, the others where a value may come after a comma: the
-- induction is over both kinds of spots.
/-- The entries of an object are read up to the closing brace, if values are read as they should be.
-/
private theorem keeps_readEntries (count : Nat) (entries : Entries) {spot : Spot}
    (unquoted : spot.Unquoted) (deep : spot.depth = depth + 1) (text : List Char) :
    Keeps levels spot ⟨depth, .between⟩ text (readEntries item count entries text) := by
  induction count generalizing entries spot text with
  | zero => exact .fault
  | succ count ih =>
      unfold readEntries
      split
      · next rest =>
          refine (keeps_quotation levels unquoted _ rest).bind fun key rest => ?_
          rw [deep]
          dsimp only
          split
          · next same =>
              refine ((keeps _).bind fun value rest => ?_).behind (.separator (.inr rfl) same)
              dsimp only
              split
              · next same => exact .ok (Leads.delimiter Spot.unquoted_between same)
              · next same =>
                  exact (ih _ Spot.unquoted_ready rfl _).behind (.separator (.inl rfl) same)
              · exact .fault
          · exact .fault
      · exact .fault

end

section

variable {levels top depth : Nat}

/-- A value is read to its end, if values within it are. -/
private theorem keeps_readValue_of_inner (deep : depth + levels = top)
    (inner : ∀ fewer, levels = fewer + 1 → ∀ text,
      Keeps top ⟨depth + 1, .ready⟩ ⟨depth + 1, .between⟩ text (readValue fewer text))
    (text : List Char) :
    Keeps top ⟨depth, .ready⟩ ⟨depth, .between⟩ text (readValue levels text) := by
  unfold readValue
  split
  · next rest =>
      exact (keeps_quotation top Spot.unquoted_ready _ rest).bind fun _ _ => .ok (.refl _ _)
  · subst deep
    exact .limit (.list (.refl _ _))
  · subst deep
    exact .limit (.object (.refl _ _))
  · next fewer rest =>
      have opens : Leads ⟨depth, .ready⟩ ('[' :: rest) ⟨depth + 1, .ready⟩ rest := .step _ _ _
      split
      · next same =>
          exact .ok (opens.trans (Leads.delimiter Spot.unquoted_ready same))
      · exact (keeps_readItems (inner fewer rfl) _ _ _).behind
          (opens.trans (.skipSpace Spot.unquoted_ready rest))
  · next fewer rest =>
      have opens : Leads ⟨depth, .ready⟩ ('\x7b' :: rest) ⟨depth + 1, .between⟩ rest :=
        .step _ _ _
      split
      · next same =>
          exact .ok (opens.trans (Leads.delimiter Spot.unquoted_between same))
      · exact (keeps_readEntries (inner fewer rfl) _ _ Spot.unquoted_between rfl _).behind
          (opens.trans (.skipSpace Spot.unquoted_between rest))
  · exact keeps_readScalar top depth text

-- What the levels lose the depth gains, so that their sum stays the limit.
private theorem keeps_readValue (deep : depth + levels = top) (text : List Char) :
    Keeps top ⟨depth, .ready⟩ ⟨depth, .between⟩ text (readValue levels text) := by
  induction levels generalizing depth text with
  | zero => exact keeps_readValue_of_inner deep nofun text
  | succ levels ih =>
      refine keeps_readValue_of_inner deep (fun fewer same text => ?_) text
      cases same
      exact ih (by omega) text

end

/-- Reading stops at a limit only where the text exceeds it. -/
theorem exceeds_of_read {text : String} {limit : Limit}
    (stopped : read text = .error (.limit limit)) :
    Exceeds nestingLimit ⟨0, .ready⟩ text.toList limit := by
  have stopped : readDocument text.toList = .error (.limit limit) := by
    unfold read at stopped
    cases outcome : readDocument text.toList with
    | ok value =>
        rw [outcome] at stopped
        cases stopped
    | error stop =>
        rw [outcome] at stopped
        cases stop with
        | fault reason rest => cases stopped
        | limit exceeded =>
            cases stopped
            rfl
  unfold readDocument at stopped
  split at stopped
  · cases stopped
  · cases outcome : readValue nestingLimit (skipSpace text.toList) with
    | error stop =>
        rw [outcome] at stopped
        cases stopped
        have keeps := keeps_readValue (Nat.zero_add nestingLimit) (skipSpace text.toList)
        exact (keeps.stops limit outcome).behind (.skipSpace Spot.unquoted_ready _)
    | ok taken =>
        rw [outcome] at stopped
        dsimp only [bind, Except.bind] at stopped
        split at stopped <;> cases stopped

/-! ## Texts that exceed a limit at once -/

theorem read_eq_limit {text : String} {limit : Limit} {first : Char} {rest : List Char}
    (same : text.toList = first :: rest) (mark : first ≠ '\ufeff') (solid : isSpace first = false)
    (stopped : readValue nestingLimit (first :: rest) = .error (.limit limit)) :
    read text = .error (.limit limit) := by
  have skipped : skipSpace (first :: rest) = first :: rest := by simp [skipSpace, solid]
  unfold read readDocument
  rw [same]
  split
  · next marked =>
      cases marked
      exact absurd rfl mark
  · rw [skipped, stopped]
    rfl

private theorem readValue_list_error {levels : Nat} {rest : List Char} {stop : Stop}
    (inner : readValue levels ('[' :: rest) = .error stop) :
    readValue (levels + 1) ('[' :: '[' :: rest) = .error stop := by
  have opened : readValue (levels + 1) ('[' :: '[' :: rest) =
      readItems (readValue levels) (rest.length + 2) [] ('[' :: rest) := rfl
  rw [opened]
  simp only [readItems, inner]
  rfl

private theorem readValue_brackets {levels count : Nat} (deep : levels < count) (rest : List Char) :
    readValue levels (List.replicate count '[' ++ rest) = .error (.limit .listNesting) := by
  induction levels generalizing count with
  | zero =>
      obtain ⟨fewer, rfl⟩ := Nat.exists_eq_add_of_lt deep
      rfl
  | succ levels ih =>
      obtain ⟨fewer, rfl⟩ := Nat.exists_eq_add_of_lt deep
      have inner := ih (by omega : levels < levels + fewer + 1)
      simp only [Nat.add_right_comm levels 1 fewer, List.replicate_succ, List.cons_append]
        at inner ⊢
      exact readValue_list_error inner

/-- Opening brackets in front, more than may be nested. -/
theorem read_brackets {count : Nat} (deep : nestingLimit < count) (rest : List Char) :
    read (String.ofList (List.replicate count '[' ++ rest)) = .error (.limit .listNesting) := by
  have stopped := readValue_brackets deep rest
  obtain ⟨fewer, rfl⟩ := Nat.exists_eq_succ_of_ne_zero (Nat.ne_zero_of_lt deep)
  exact read_eq_limit String.toList_ofList (by decide) (by decide) stopped

section

variable {digits : List Char} (digit : ∀ character ∈ digits, character.isDigit = true)
  (leading : digits.head? ≠ some '0')

include digit

theorem ne_of_head_isDigit {first : Char} (head : digits.head? = some first) {mark : Char}
    (none : mark.isDigit = false) : first ≠ mark := by
  rintro rfl
  rw [digit first (List.mem_of_head? head)] at none
  cases none

private theorem wordless_of_isDigit (some : digits ≠ []) :
    words.findSome? (fun (word, value) =>
      (afterWord? word.toList digits).map fun rest => (value, rest)) = none := by
  cases digits with
  | nil => exact absurd rfl some
  | cons first rest =>
      have other {mark : Char} := (ne_of_head_isDigit digit rfl : mark.isDigit = false → _)
      simp [words, afterWord?, (other _).symm]

include leading

private theorem wholeOf_of_isDigit : wholeOf digits = digits := by
  unfold wholeOf
  split
  · exact absurd rfl leading
  · rw [← List.append_nil digits, List.takeWhile_append_of_pos digit, List.takeWhile_nil]

private theorem readNumber?_of_isDigit (long : integerDigitLimit < digits.length) :
    readNumber? digits = some (.error (.limit (.integerDigits digits.length))) := by
  have unsigned : digits.head? ≠ some '-' := fun head => ne_of_head_isDigit digit head rfl rfl
  have some : digits.isEmpty = false := by
    cases digits with
    | nil => cases long
    | cons first rest => rfl
  unfold readNumber?
  simp only [unsigned, if_false, wholeOf_of_isDigit digit leading, some, List.drop_length,
    fractionOf, exponentOf, List.isEmpty_nil, long]
  rfl

/-- Digits alone, more than an integer may have. -/
theorem read_digits (long : integerDigitLimit < digits.length) :
    read (String.ofList digits) = .error (.limit (.integerDigits digits.length)) := by
  have number := readNumber?_of_isDigit digit leading long
  have wordless := wordless_of_isDigit digit (List.ne_nil_of_length_pos (Nat.zero_lt_of_lt long))
  cases digits with
  | nil => cases long
  | cons first rest =>
      have other {mark : Char} := (ne_of_head_isDigit digit rfl : mark.isDigit = false → _)
      have scalar : readValue nestingLimit (first :: rest) = readScalar (first :: rest) := by
        unfold readValue
        split
        · next same => exact absurd (List.cons.inj same).1 (other rfl)
        · next same => exact absurd (List.cons.inj same).1 (other rfl)
        · next same => exact absurd (List.cons.inj same).1 (other rfl)
        · next same => exact absurd (List.cons.inj same).1 (other rfl)
        · next same => exact absurd (List.cons.inj same).1 (other rfl)
        · rfl
      unfold readScalar at scalar
      rw [wordless, number] at scalar
      exact read_eq_limit String.toList_ofList (other rfl) (by simp [isSpace, other]) scalar

end

end VisualNovel.Json
