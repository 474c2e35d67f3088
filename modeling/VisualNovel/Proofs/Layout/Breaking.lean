import Mathlib.Data.List.Chain
import VisualNovel.Proofs.Layout.Wrapping

/-!
# Where lines break

A line is carried on as long as it fits. So a line that is too wide holds nothing
that could be broken, and where one line follows another in a paragraph, the first
would have been too wide with what the second begins with. The measure may be any
function: nothing is taken for granted of the width of a part of a line.
-/

set_option autoImplicit false

namespace VisualNovel.Layout

open VisualNovel.Text

/-! ## Words -/

/-- A word of a text: characters that are not blank, between blank characters or the ends of the
text. -/
structure IsWord (text : List Char) (word : Span) : Prop where
  filled : word.start < word.stop
  shown : ∀ position, word.Holds position →
    ∃ character, text[position]? = some character ∧ isBlank character = false
  opened : ∀ position character, position + 1 = word.start → text[position]? = some character →
    isBlank character = true
  closed : ∀ character, text[word.stop]? = some character → isBlank character = true

/-- What is left of a word when its characters up to a position are known. -/
structure WordBegun (text : List Char) (start position : Nat) : Prop where
  shown : ∀ other, start ≤ other → other < position →
    ∃ character, text[other]? = some character ∧ isBlank character = false
  opened : ∀ other character, other + 1 = start → text[other]? = some character →
    isBlank character = true

variable {text : List Char} {start position : Nat}

theorem WordBegun.isWord (begun : WordBegun text start position) (filled : start < position)
    (closed : ∀ character, text[position]? = some character → isBlank character = true) :
    IsWord text ⟨start, position⟩ where
  filled := filled
  shown other holds := begun.shown other holds.1 holds.2
  opened := begun.opened
  closed := closed

private theorem WordBegun.after_blank {character : Char} (found : text[position]? = some character)
    (blank : isBlank character = true) : WordBegun text (position + 1) (position + 1) where
  shown other above below := absurd above (Nat.not_le.mpr below)
  opened other before next here := by
    obtain rfl : other = position := Nat.succ.inj next
    rw [found] at here
    exact Option.some.inj here ▸ blank

theorem WordBegun.extend {character : Char} (begun : WordBegun text start position)
    (found : text[position]? = some character) (shown : isBlank character = false) :
    WordBegun text start (position + 1) where
  shown other above below := by
    rcases Nat.lt_succ_iff_lt_or_eq.mp below with earlier | rfl
    · exact begun.shown other above earlier
    · exact ⟨character, found, shown⟩
  opened := begun.opened

/-- The words found in a stretch that ends the text or at a blank character are words of the
text. -/
theorem isWord_of_mem_wordSpans (start? : Option Nat) {characters rest : List Char}
    (here : text.drop position = characters ++ rest)
    (ends : ∀ character ∈ rest.head?, isBlank character = true)
    (before : ∀ start ∈ start?, start < position)
    (begun : WordBegun text (start?.getD position) position) :
    ∀ word ∈ wordSpans start? position characters, IsWord text word := by
  induction characters generalizing start? position with
  | nil =>
      cases start? with
      | none => exact fun _ member => absurd member List.not_mem_nil
      | some start =>
          intro word member
          obtain rfl := List.mem_singleton.mp member
          refine begun.isWord (before start rfl) fun character found => ends character ?_
          rw [List.nil_append] at here
          rw [← here, List.head?_drop]
          exact found
  | cons character characters hypothesis =>
      have found : text[position]? = some character := by
        rw [← List.head?_drop, here]
        rfl
      have next : text.drop (position + 1) = characters ++ rest := by
        rw [← List.tail_drop, here]
        rfl
      unfold wordSpans
      cases blank : isBlank character with
      | true =>
          have others : ∀ word ∈ wordSpans none (position + 1) characters, IsWord text word :=
            hypothesis none next (by simp) (.after_blank found blank)
          cases start? with
          | none => exact others
          | some start =>
              have closed : ∀ other, text[position]? = some other → isBlank other = true := by
                intro other same
                rw [found] at same
                exact Option.some.inj same ▸ blank
              exact List.forall_mem_cons.mpr ⟨begun.isWord (before start rfl) closed, others⟩
      | false =>
          cases start? with
          | none => exact hypothesis (some position) next (by simp) (begun.extend found blank)
          | some start =>
              refine hypothesis (some start) next (fun other same => ?_) (begun.extend found blank)
              exact Nat.lt_succ_of_lt (before other same)

/-! ## Lines of words -/

variable {fits : Span → Bool} {line : Span} {words : List Span}

/-- A line of words fits or is a single one of them. -/
theorem fits_or_word_of_mem_joinWords {isWord : Span → Prop}
    (begun : fits line = true ∨ isWord line) (known : ∀ word ∈ words, isWord word) :
    ∀ made ∈ joinWords fits line words, fits made = true ∨ isWord made := by
  induction words generalizing line with
  | nil =>
      intro made member
      obtain rfl := List.mem_singleton.mp member
      exact begun
  | cons word words hypothesis =>
      obtain ⟨first, others⟩ := List.forall_mem_cons.mp known
      unfold joinWords
      split
      · next fit => exact hypothesis (.inl fit) others
      · exact List.forall_mem_cons.mpr ⟨begun, hypothesis (.inr first) others⟩

def Span.EndsBy (span next : Span) : Prop :=
  span.stop ≤ next.stop

private theorem head_joinWords (ordered : (line :: words).Pairwise Span.EndsBy) :
    ∀ made ∈ (joinWords fits line words).head?,
      made.start = line.start ∧ line.stop ≤ made.stop := by
  induction words generalizing line with
  | nil =>
      intro made same
      obtain rfl := Option.some.inj same
      exact ⟨rfl, Nat.le_refl _⟩
  | cons word words hypothesis =>
      obtain ⟨before, others⟩ := List.pairwise_cons.mp ordered
      obtain ⟨beforeOthers, rest⟩ := List.pairwise_cons.mp others
      intro made same
      unfold joinWords at same
      split at same
      · obtain ⟨start, stop⟩ :=
          @hypothesis ⟨line.start, word.stop⟩ (.cons beforeOthers rest) made same
        exact ⟨start, Nat.le_trans (before word (.head _)) stop⟩
      · obtain rfl := Option.some.inj same
        exact ⟨rfl, Nat.le_refl _⟩

/-- A line of words with the first word of the next line would not have fitted. -/
theorem isChain_joinWords {isWord : Span → Prop} (known : ∀ word ∈ words, isWord word)
    (ordered : (line :: words).Pairwise Span.EndsBy) :
    (joinWords fits line words).IsChain fun first second =>
      ∃ stop, isWord ⟨second.start, stop⟩ ∧ stop ≤ second.stop ∧
        fits ⟨first.start, stop⟩ = false := by
  induction words generalizing line with
  | nil => exact .singleton _
  | cons word words hypothesis =>
      obtain ⟨first, others⟩ := List.forall_mem_cons.mp known
      obtain ⟨_, rest⟩ := List.pairwise_cons.mp ordered
      obtain ⟨before, later⟩ := List.pairwise_cons.mp rest
      unfold joinWords
      split
      · exact hypothesis others (.cons before later)
      · next full =>
          refine List.isChain_cons.mpr ⟨fun made head => ?_, hypothesis others rest⟩
          obtain ⟨start, stop⟩ := head_joinWords rest made head
          exact ⟨word.stop, start ▸ first, stop, Bool.not_eq_true _ ▸ full⟩

/-! ## Lines of characters -/

/-- A line that is broken between characters fits or is a single one. -/
theorem fits_or_single_of_mem_breakCharacters (ordered : start ≤ position)
    (begun : start < position → fits ⟨start, position⟩ = true ∨ position = start + 1)
    (characters : List Char) :
    ∀ made ∈ breakCharacters fits start position characters,
      fits made = true ∨ made.stop = made.start + 1 := by
  induction characters generalizing start position with
  | nil =>
      unfold breakCharacters
      split
      · next filled => simpa using begun filled
      · simp
  | cons character characters hypothesis =>
      unfold breakCharacters
      split
      · next full =>
          simp only [Bool.and_eq_true, decide_eq_true_eq] at full
          exact List.forall_mem_cons.mpr
            ⟨begun full.1, hypothesis (Nat.le_succ position) fun _ => .inr rfl⟩
      · next more =>
          refine hypothesis (Nat.le_succ_of_le ordered) fun _ => ?_
          rcases Nat.eq_or_lt_of_le ordered with rfl | filled
          · exact .inr rfl
          · exact .inl (by simpa [filled] using more)

/-- A line that is broken off would not have fitted with one more character. -/
theorem isChain_breakCharacters (fits : Span → Bool) (start position : Nat)
    (characters : List Char) :
    (breakCharacters fits start position characters).IsChain fun first _ =>
      fits ⟨first.start, first.stop + 1⟩ = false := by
  induction characters generalizing start position with
  | nil =>
      unfold breakCharacters
      split
      · exact .singleton _
      · exact .nil
  | cons character characters hypothesis =>
      unfold breakCharacters
      split
      · next full =>
          simp only [Bool.and_eq_true, Bool.not_eq_true'] at full
          exact List.isChain_cons.mpr ⟨fun _ _ => full.2, hypothesis _ _⟩
      · exact hypothesis _ _

/-! ## The lines of a paragraph -/

/-- The words of a stretch end one after the other. -/
theorem endsBy_wordSpans (start : Nat) (characters : List Char) :
    (wordSpans none start characters).Pairwise Span.EndsBy := by
  have fills : Fills (fun _ => True) start (wordSpans none start characters)
      (start + characters.length) :=
    fills_wordSpans none (by simp) fun _ _ _ _ => trivial
  refine fills.pairwise.imp_of_mem fun _ later precedes => ?_
  have filled := (fills.within _ later).2.1
  exact Nat.le_trans precedes.2 (Nat.le_of_lt filled)

/-- The lines of a paragraph of words fit or are single words, and none would have fitted with
the first word of the next. -/
theorem wrapParagraph_of_spaced (fits : Span → Bool) {paragraph rest : List Char}
    (here : text.drop start = paragraph ++ rest)
    (ends : ∀ character ∈ rest.head?, isBlank character = true)
    (opened : WordBegun text start start) (shown : paragraph.all isBlank = false)
    (spaced : paragraph.any isUnspaced = false) :
    (∀ line ∈ wrapParagraph fits start paragraph, fits line = true ∨ IsWord text line) ∧
      (wrapParagraph fits start paragraph).IsChain fun first second =>
        ∃ stop, IsWord text ⟨second.start, stop⟩ ∧ stop ≤ second.stop ∧
          fits ⟨first.start, stop⟩ = false := by
  have known := isWord_of_mem_wordSpans none here ends (by simp) opened
  have ordered := endsBy_wordSpans start paragraph
  unfold wrapParagraph
  rw [if_neg (by simp [shown]), if_neg (by simp [spaced])]
  cases found : wordSpans none start paragraph with
  | nil => exact ⟨by simp, .nil⟩
  | cons word words =>
      rw [found] at known ordered
      obtain ⟨first, others⟩ := List.forall_mem_cons.mp known
      exact ⟨fits_or_word_of_mem_joinWords (.inr first) others, isChain_joinWords others ordered⟩

/-- The lines of a paragraph that is broken between characters fit or are single ones, and none
would have fitted with one more. -/
theorem wrapParagraph_of_unspaced (fits : Span → Bool) (start : Nat) {paragraph : List Char}
    (shown : paragraph.all isBlank = false) (unspaced : paragraph.any isUnspaced = true) :
    (∀ line ∈ wrapParagraph fits start paragraph,
        fits line = true ∨ line.stop = line.start + 1) ∧
      (wrapParagraph fits start paragraph).IsChain fun first _ =>
        fits ⟨first.start, first.stop + 1⟩ = false := by
  unfold wrapParagraph
  rw [if_neg (by simp [shown]), if_pos unspaced]
  exact ⟨fits_or_single_of_mem_breakCharacters (Nat.le_refl start)
    (fun impossible => absurd impossible (Nat.lt_irrefl start)) paragraph,
    isChain_breakCharacters fits start start paragraph⟩

/-! ## The lines of a text -/

theorem isBlank_newline : isBlank '\n' = true := by decide

/-- A paragraph starts where a word may start. -/
theorem IsParagraph.wordBegun {paragraph : Span} (isParagraph : IsParagraph text paragraph) :
    WordBegun text paragraph.start paragraph.start where
  shown other above below := absurd above (Nat.not_le.mpr below)
  opened other character next found := by
    rcases isParagraph.opened with first | broken
    · omega
    · rw [← next, Nat.add_sub_cancel, found] at broken
      exact Option.some.inj broken ▸ isBlank_newline

private theorem IsParagraph.isBlank_after {paragraph : Span}
    (isParagraph : IsParagraph text paragraph) :
    ∀ character ∈ (text.drop paragraph.stop).head?, isBlank character = true := by
  intro character found
  rw [List.head?_drop] at found
  rcases isParagraph.closed with ends | broken
  · simp [ends] at found
  · rw [broken] at found
    exact Option.some.inj found ▸ isBlank_newline

/-- A stretch of a paragraph within which no line is broken: a character where lines are broken
between characters, elsewhere a word. -/
inductive Indivisible (text : List Char) (paragraph piece : Span) : Prop where
  | character : (slice text paragraph).any isUnspaced = true → piece.stop = piece.start + 1 →
      Indivisible text paragraph piece
  | word : (slice text paragraph).any isUnspaced = false → IsWord text piece →
      Indivisible text paragraph piece

/-- Where a line would have ended if it had been carried on: after one more character where lines
are broken between characters, elsewhere after the first word of the next line. -/
inductive CarriedOn (text : List Char) (paragraph first second : Span) : Nat → Prop where
  | character : (slice text paragraph).any isUnspaced = true →
      CarriedOn text paragraph first second (first.stop + 1)
  | word {stop : Nat} : (slice text paragraph).any isUnspaced = false →
      IsWord text ⟨second.start, stop⟩ → stop ≤ second.stop →
      CarriedOn text paragraph first second stop

/-- Each of the lines of a paragraph that shows anything is not too wide or cannot be broken, and
it would have been too wide if it had been carried on before the next line. -/
structure ParagraphFitted (text : List Char) (measure : List Char → Int) (width : Int)
    (paragraph : Span) (lines : List Span) : Prop where
  fits : ∀ line ∈ lines, slice text line ≠ [] →
    measure (slice text line) ≤ width ∨ Indivisible text paragraph line
  forced : lines.IsChain fun first second =>
    ∃ stop, CarriedOn text paragraph first second stop ∧
      width < measure (slice text ⟨first.start, stop⟩)

/-- Every line is in a paragraph, and the lines of every paragraph are fitted. -/
structure Fitted (text : List Char) (measure : List Char → Int) (width : Int)
    (lines : List Span) : Prop where
  placed : ∀ line ∈ lines, ∃ paragraph, IsParagraph text paragraph ∧ line ∈ linesOf paragraph lines
  fitted : ∀ paragraph, IsParagraph text paragraph →
    ParagraphFitted text measure width paragraph (linesOf paragraph lines)

section

variable (text) (measure : List Char → Int) (width : Int)

/-- Within a paragraph every line is broken where it has to be and nowhere else. -/
theorem IsParagraph.fitted {paragraph : Span} (isParagraph : IsParagraph text paragraph) :
    ParagraphFitted text measure width paragraph
      (linesOf paragraph (wrapSpans text measure width)) := by
  rw [isParagraph.linesOf_wrapSpans]
  cases blank : (slice text paragraph).all isBlank with
  | true =>
      rw [wrapParagraph_of_blank _ _ blank]
      refine ⟨fun line member filled => ?_, .singleton _⟩
      obtain rfl := List.mem_singleton.mp member
      simp [slice] at filled
  | false =>
      cases unspaced : (slice text paragraph).any isUnspaced with
      | true =>
          obtain ⟨fits, forced⟩ := wrapParagraph_of_unspaced
            (fun span => measure (slice text span) ≤ width) paragraph.start blank unspaced
          refine ⟨fun line member _ => ?_, forced.imp fun first second full => ?_⟩
          · exact (fits line member).imp of_decide_eq_true (.character unspaced)
          · exact ⟨_, .character unspaced, Int.not_le.mp (of_decide_eq_false full)⟩
      | false =>
          obtain ⟨fits, forced⟩ := wrapParagraph_of_spaced
            (fun span => measure (slice text span) ≤ width)
            (slice_append_drop isParagraph.ordered) isParagraph.isBlank_after
            isParagraph.wordBegun blank unspaced
          refine ⟨fun line member _ => ?_, forced.imp ?_⟩
          · exact (fits line member).imp of_decide_eq_true (.word unspaced)
          · rintro first second ⟨stop, word, within, full⟩
            exact ⟨stop, .word unspaced word within, Int.not_le.mp (of_decide_eq_false full)⟩

/-- Lines fit and breaks are forced, however wide characters are by themselves or together. -/
theorem fitted_wrapSpans : Fitted text measure width (wrapSpans text measure width) where
  placed line member := by
    obtain ⟨paragraph, isParagraph, above, _, below⟩ :=
      exists_isParagraph_of_mem_wrapSpans text measure width member
    exact ⟨paragraph, isParagraph, List.mem_filter.mpr ⟨member, by simp [above, below]⟩⟩
  fitted _ isParagraph := isParagraph.fitted text measure width

example : wrapSpans "a bc defgh i".toList (fun line => line.length) 4 =
    [⟨0, 4⟩, ⟨5, 10⟩, ⟨11, 12⟩] := by decide

end

end VisualNovel.Layout
