import VisualNovel.Layout.Wrap

/-!
# The lines of a paragraph

The lines of a paragraph follow each other and leave out nothing but blank
characters: a blank paragraph has one empty line, the lines of any other fill it but
for gaps, which are blank, and without any gap where it is broken between characters.
-/

set_option autoImplicit false

namespace VisualNovel.Layout

open VisualNovel.Text

/-! ## Slices of a text -/

def Span.Holds (span : Span) (position : Nat) : Prop :=
  span.start ≤ position ∧ position < span.stop

/-- A slice ends before another one starts, which starts later even if this one is empty. -/
def Span.Precedes (span next : Span) : Prop :=
  span.start < next.start ∧ span.stop ≤ next.start

/-- Slices one after the other have no position in common. -/
theorem Span.Holds.unique {spans : List Span} (ordered : spans.Pairwise Span.Precedes)
    {position : Nat} {span other : Span} (member : span ∈ spans) (holds : span.Holds position)
    (otherMember : other ∈ spans) (otherHolds : other.Holds position) : span = other := by
  induction ordered with
  | nil => simp at member
  | cons first _ hypothesis =>
      unfold Holds at holds otherHolds
      rcases List.mem_cons.mp member with rfl | later <;>
        rcases List.mem_cons.mp otherMember with rfl | otherLater
      · rfl
      · have := (first other otherLater).2
        omega
      · have := (first span later).2
        omega
      · exact hypothesis later otherLater

theorem getElem?_slice {text : List Char} {span : Span} {offset : Nat}
    (inside : span.start + offset < span.stop) :
    (slice text span)[offset]? = text[span.start + offset]? := by
  have short : offset < span.stop - span.start := by omega
  simp [slice, short]

theorem mem_slice {text : List Char} {span : Span} {character : Char} :
    character ∈ slice text span ↔
      ∃ position, span.Holds position ∧ text[position]? = some character := by
  constructor
  · intro member
    obtain ⟨offset, found⟩ := List.mem_iff_getElem?.mp member
    obtain ⟨short, _⟩ := List.getElem?_eq_some_iff.mp found
    simp only [slice, List.length_take] at short
    have inside : span.start + offset < span.stop := by omega
    rw [getElem?_slice inside] at found
    exact ⟨span.start + offset, ⟨Nat.le_add_right _ _, inside⟩, found⟩
  · rintro ⟨position, ⟨above, below⟩, found⟩
    obtain ⟨offset, rfl⟩ := Nat.exists_eq_add_of_le above
    exact List.mem_of_getElem? ((getElem?_slice below).trans found)

theorem length_slice {text : List Char} {span : Span} (within : span.stop ≤ text.length) :
    (slice text span).length = span.stop - span.start := by
  simp only [slice, List.length_take, List.length_drop]
  omega

theorem slice_append {text more : List Char} {span : Span} (within : span.stop ≤ text.length) :
    slice (text ++ more) span = slice text span := by
  unfold slice
  rcases Nat.le_total span.start text.length with start | start
  · rw [List.drop_append_of_le_length start, List.take_append_of_le_length]
    rw [List.length_drop]
    omega
  · rw [show span.stop - span.start = 0 by omega]
    rfl

theorem slice_append_drop {text : List Char} {span : Span} (ordered : span.start ≤ span.stop) :
    text.drop span.start = slice text span ++ text.drop span.stop := by
  have rest : text.drop span.stop = (text.drop span.start).drop (span.stop - span.start) := by
    rw [List.drop_drop, Nat.add_sub_cancel' ordered]
  rw [rest, slice, List.take_append_drop]

/-! ## Lines that fill a stretch -/

/-- Lines with something on them fill a stretch of positions one after the other, and what they
leave out are gaps. -/
inductive Fills (gap : Nat → Prop) : Nat → List Span → Nat → Prop where
  | nil {first last : Nat} (ordered : first ≤ last)
      (gaps : ∀ position, first ≤ position → position < last → gap position) :
      Fills gap first [] last
  | cons {first last : Nat} {line : Span} {lines : List Span} (ordered : first ≤ line.start)
      (gaps : ∀ position, first ≤ position → position < line.start → gap position)
      (filled : line.start < line.stop) (others : Fills gap line.stop lines last) :
      Fills gap first (line :: lines) last

namespace Fills

variable {gap : Nat → Prop} {first last : Nat} {lines : List Span}

theorem empty (position : Nat) : Fills gap position [] position :=
  .nil (Nat.le_refl position) fun _ _ _ => by omega

theorem line {middle : Nat} (filled : first < middle) (others : Fills gap middle lines last) :
    Fills gap first (⟨first, middle⟩ :: lines) last :=
  .cons (Nat.le_refl first) (fun _ above below => absurd below (Nat.not_lt.mpr above)) filled
    others

private theorem widen {earlier : Nat} (fills : Fills gap first lines last)
    (ordered : earlier ≤ first)
    (gaps : ∀ position, earlier ≤ position → position < first → gap position) :
    Fills gap earlier lines last := by
  have both : ∀ {middle}, (∀ position, first ≤ position → position < middle → gap position) →
      ∀ position, earlier ≤ position → position < middle → gap position := by
    intro middle later position above below
    rcases Nat.lt_or_ge position first with before | after
    · exact gaps position above before
    · exact later position after below
  cases fills with
  | nil ends later => exact .nil (Nat.le_trans ordered ends) (both later)
  | cons starts later filled others =>
      exact .cons (Nat.le_trans ordered starts) (both later) filled others

theorem ordered (fills : Fills gap first lines last) : first ≤ last := by
  induction fills with
  | nil ordered _ => exact ordered
  | cons ordered _ filled _ hypothesis => omega

theorem within (fills : Fills gap first lines last) :
    ∀ line ∈ lines, first ≤ line.start ∧ line.start < line.stop ∧ line.stop ≤ last := by
  induction fills with
  | nil => simp
  | cons ordered _ filled others hypothesis =>
      intro other member
      rcases List.mem_cons.mp member with rfl | member
      · exact ⟨ordered, filled, others.ordered⟩
      · have := hypothesis other member
        omega

theorem pairwise (fills : Fills gap first lines last) :
    lines.Pairwise Span.Precedes := by
  induction fills with
  | nil => exact .nil
  | cons _ _ filled others hypothesis =>
      refine .cons (fun next member => ?_) hypothesis
      have later := (others.within next member).1
      exact ⟨Nat.lt_of_lt_of_le filled later, later⟩

theorem exists_holds_or_gap (fills : Fills gap first lines last) {position : Nat}
    (above : first ≤ position) (below : position < last) :
    (∃ line ∈ lines, line.Holds position) ∨ gap position := by
  induction fills with
  | nil _ gaps => exact .inr (gaps position above below)
  | @cons _ _ line lines _ gaps _ _ hypothesis =>
      rcases Nat.lt_or_ge position line.start with before | reached
      · exact .inr (gaps position above before)
      · rcases Nat.lt_or_ge position line.stop with held | after
        · exact .inl ⟨line, List.mem_cons_self, reached, held⟩
        · refine (hypothesis after below).imp_left ?_
          rintro ⟨other, member, holds⟩
          exact ⟨other, List.mem_cons_of_mem _ member, holds⟩

end Fills

/-- A stretch that is broken between characters is filled, whatever may be a gap. -/
theorem fills_breakCharacters {gap : Nat → Prop} (fits : Span → Bool) {start position : Nat}
    (begun : start ≤ position) (characters : List Char) :
    Fills gap start (breakCharacters fits start position characters)
      (position + characters.length) := by
  induction characters generalizing start position with
  | nil =>
      unfold breakCharacters
      split
      · next some => exact .line some (.empty position)
      · next none =>
          obtain rfl : start = position := by omega
          exact .empty start
  | cons character characters hypothesis =>
      have length : position + (character :: characters).length =
          position + 1 + characters.length := by rw [List.length_cons]; omega
      rw [length, breakCharacters]
      split
      · next full =>
          simp only [Bool.and_eq_true, decide_eq_true_eq] at full
          exact .line full.1 (hypothesis (Nat.le_succ position))
      · exact hypothesis (Nat.le_succ_of_le begun)

/-- The blank ones of the characters that start at a position are gaps. -/
def Blanks (gap : Nat → Prop) (position : Nat) (characters : List Char) : Prop :=
  ∀ offset character, characters[offset]? = some character → isBlank character = true →
    gap (position + offset)

theorem Blanks.head {gap : Nat → Prop} {position : Nat} {character : Char}
    {characters : List Char} (blanks : Blanks gap position (character :: characters))
    (blank : isBlank character = true) : gap position :=
  blanks 0 character rfl blank

theorem Blanks.tail {gap : Nat → Prop} {position : Nat} {character : Char}
    {characters : List Char} (blanks : Blanks gap position (character :: characters)) :
    Blanks gap (position + 1) characters := by
  intro offset character found blank
  have := blanks (offset + 1) character (by simpa using found) blank
  rwa [show position + 1 + offset = position + (offset + 1) by omega]

/-- The words of a paragraph cover everything but its blanks. -/
theorem fills_wordSpans {gap : Nat → Prop} (start? : Option Nat) {position : Nat}
    (begun : ∀ start ∈ start?, start < position) {characters : List Char}
    (blanks : Blanks gap position characters) :
    Fills gap (start?.getD position) (wordSpans start? position characters)
      (position + characters.length) := by
  induction characters generalizing start? position with
  | nil =>
      cases start? with
      | none => exact .empty position
      | some start => exact .line (begun start rfl) (.empty position)
  | cons character characters hypothesis =>
      have length : position + (character :: characters).length =
          position + 1 + characters.length := by rw [List.length_cons]; omega
      rw [length]
      unfold wordSpans
      cases blank : isBlank character with
      | true =>
          -- The word begun ends here, and this position is a gap before the next word.
          have rest : Fills gap position (wordSpans none (position + 1) characters)
              (position + 1 + characters.length) := by
            refine (hypothesis none (by simp) blanks.tail).widen
              (Nat.le_succ position) fun other above below => ?_
            have here : other = position := Nat.le_antisymm (Nat.le_of_lt_succ below) above
            exact here ▸ blanks.head blank
          cases start? with
          | none => exact rest
          | some start => exact rest.line (begun start rfl)
      | false =>
          cases start? with
          | none => exact hypothesis (some position) (by simp) blanks.tail
          | some start =>
              exact hypothesis (some start)
                (fun other same => Nat.lt_succ_of_lt (begun other same)) blanks.tail

private theorem fills_joinWords {gap : Nat → Prop} (fits : Span → Bool) {first last : Nat}
    {line : Span}
    {words : List Span} (fills : Fills gap first (line :: words) last) :
    Fills gap first (joinWords fits line words) last := by
  induction words generalizing first line with
  | nil => exact fills
  | cons word words hypothesis =>
      cases fills with
      | cons ordered gaps filled others =>
          unfold joinWords
          split
          · cases others with
            | cons later _ more others =>
                refine hypothesis (.cons ordered gaps ?_ others)
                exact Nat.lt_trans (Nat.lt_of_lt_of_le filled later) more
          · exact .cons ordered gaps filled (hypothesis others)

/-! ## The lines of a paragraph -/

theorem isBlank_of_isUnspaced {character : Char} (unspaced : isUnspaced character = true) :
    isBlank character = false := by
  simp only [isUnspaced, Bool.or_eq_true, Bool.and_eq_true, decide_eq_true_eq] at unspaced
  simp only [isBlank, Bool.or_eq_false_iff, Bool.and_eq_false_iff, decide_eq_false_iff_not,
    beq_eq_false_iff_ne]
  omega

variable (fits : Span → Bool) (start : Nat) {paragraph : List Char}

theorem wrapParagraph_of_blank (blank : paragraph.all isBlank = true) :
    wrapParagraph fits start paragraph = [⟨start, start⟩] := by
  unfold wrapParagraph
  rw [if_pos blank]

theorem fills_wrapParagraph_of_unspaced (gap : Nat → Prop)
    (unspaced : paragraph.any isUnspaced = true) :
    Fills gap start (wrapParagraph fits start paragraph) (start + paragraph.length) := by
  have shown : ¬ paragraph.all isBlank = true := by
    obtain ⟨character, member, unspaced⟩ := List.any_eq_true.mp unspaced
    intro blank
    have := List.all_eq_true.mp blank character member
    simp [isBlank_of_isUnspaced unspaced] at this
  unfold wrapParagraph
  rw [if_neg shown, if_pos unspaced]
  exact fills_breakCharacters fits (Nat.le_refl start) paragraph

/-- The lines of a paragraph that is not blank leave out nothing but blank characters. -/
theorem fills_wrapParagraph {gap : Nat → Prop} (blanks : Blanks gap start paragraph)
    (shown : ¬ paragraph.all isBlank = true) :
    Fills gap start (wrapParagraph fits start paragraph) (start + paragraph.length) := by
  by_cases unspaced : paragraph.any isUnspaced = true
  · exact fills_wrapParagraph_of_unspaced fits start gap unspaced
  · have words := fills_wordSpans none (by simp) blanks
    unfold wrapParagraph
    rw [if_neg shown, if_neg unspaced]
    cases found : wordSpans none start paragraph with
    | nil => rwa [found] at words
    | cons word others =>
        rw [found] at words
        exact fills_joinWords fits words

structure Lines (start : Nat) (paragraph : List Char) (lines : List Span) : Prop where
  within : ∀ line ∈ lines,
    start ≤ line.start ∧ line.start ≤ line.stop ∧ line.stop ≤ start + paragraph.length
  ordered : lines.Pairwise Span.Precedes
  shown : ∀ offset character, paragraph[offset]? = some character → isBlank character = false →
    ∃ line ∈ lines, line.Holds (start + offset)
  some : lines ≠ []

/-- The lines of a paragraph cover it in order. -/
theorem lines_wrapParagraph (paragraph : List Char) :
    Lines start paragraph (wrapParagraph fits start paragraph) := by
  by_cases blank : paragraph.all isBlank = true
  · rw [wrapParagraph_of_blank fits start blank]
    refine ⟨by simp, by simp, fun offset character found shown => ?_, by simp⟩
    have := List.all_eq_true.mp blank character (List.mem_of_getElem? found)
    simp [this] at shown
  · -- The gaps are the blank characters and nothing else.
    have fills : Fills
        (fun position => ∃ offset character, position = start + offset ∧
          paragraph[offset]? = some character ∧ isBlank character = true)
        start (wrapParagraph fits start paragraph) (start + paragraph.length) :=
      fills_wrapParagraph fits start
        (fun offset character found blank => ⟨offset, character, rfl, found, blank⟩) blank
    have shown : ∀ offset character, paragraph[offset]? = some character →
        isBlank character = false →
        ∃ line ∈ wrapParagraph fits start paragraph, line.Holds (start + offset) := by
      intro offset character found shown
      obtain ⟨short, _⟩ := List.getElem?_eq_some_iff.mp found
      refine (fills.exists_holds_or_gap (Nat.le_add_right start offset) (by omega)).resolve_right ?_
      rintro ⟨same, gap, here, foundGap, blankGap⟩
      obtain rfl : offset = same := by omega
      rw [found] at foundGap
      simp [Option.some.inj foundGap, blankGap] at shown
    refine ⟨fun line member => ?_, fills.pairwise, shown, ?_⟩
    · have := fills.within line member
      omega
    · intro none
      obtain ⟨character, member, blank⟩ : ∃ character ∈ paragraph, isBlank character = false := by
        simpa using blank
      obtain ⟨offset, found⟩ := List.mem_iff_getElem?.mp member
      obtain ⟨line, member, _⟩ := shown offset character found blank
      simp [none] at member

end VisualNovel.Layout
