import Mathlib.Logic.ExistsUnique
import VisualNovel.Proofs.Layout.Paragraph

/-!
# What wrapped lines are to their text

The lines of a wrapped text follow each other, never run over a line feed and leave
out nothing but blank characters, whatever the measure is. The text is split at its
line feeds, so that the lines within a paragraph are those that wrapping it alone
gives.
-/

set_option autoImplicit false

namespace VisualNovel.Layout

open VisualNovel.Text

/-! ## The lines of several paragraphs -/

variable (fits : Span → Bool) (start : Nat)

def extent : List (List Char) → Nat
  | [] => 0
  | paragraph :: paragraphs => paragraph.length + 1 + extent paragraphs

@[simp]
theorem extent_nil : extent [] = 0 := rfl

@[simp]
theorem extent_cons (paragraph : List Char) (paragraphs : List (List Char)) :
    extent (paragraph :: paragraphs) = paragraph.length + 1 + extent paragraphs := rfl

private theorem extent_append (paragraphs others : List (List Char)) :
    extent (paragraphs ++ others) = extent paragraphs + extent others := by
  induction paragraphs with
  | nil => simp
  | cons paragraph paragraphs hypothesis =>
      rw [List.cons_append, extent_cons, hypothesis, extent_cons, ← Nat.add_assoc]

private theorem length_flatMap_append (paragraphs : List (List Char)) :
    (paragraphs.flatMap (· ++ ['\n'])).length = extent paragraphs := by
  induction paragraphs with
  | nil => rfl
  | cons paragraph paragraphs hypothesis =>
      rw [List.flatMap_cons, List.length_append, hypothesis, extent_cons, List.length_append]
      rfl

private theorem extent_pieces (text : List Char) : extent (pieces '\n' text) = text.length + 1 := by
  rw [← length_flatMap_append, flatMap_pieces]
  simp

private theorem wrapParagraphs_append (paragraphs others : List (List Char)) :
    wrapParagraphs fits start (paragraphs ++ others) =
      wrapParagraphs fits start paragraphs ++
        wrapParagraphs fits (start + extent paragraphs) others := by
  induction paragraphs generalizing start with
  | nil => simp [wrapParagraphs]
  | cons paragraph paragraphs hypothesis =>
      have next : start + paragraph.length + 1 + extent paragraphs =
          start + extent (paragraph :: paragraphs) := by rw [extent_cons]; omega
      simp only [List.cons_append, wrapParagraphs, hypothesis, List.append_assoc, next]

theorem within_wrapParagraphs (paragraphs : List (List Char)) :
    ∀ line ∈ wrapParagraphs fits start paragraphs,
      start ≤ line.start ∧ line.start ≤ line.stop ∧ line.stop < start + extent paragraphs := by
  induction paragraphs generalizing start with
  | nil => simp [wrapParagraphs]
  | cons paragraph paragraphs hypothesis =>
      intro line member
      rw [extent_cons]
      rcases List.mem_append.mp member with own | other
      · have := (lines_wrapParagraph fits start paragraph).within line own
        omega
      · have := hypothesis _ line other
        omega

private theorem pairwise_wrapParagraphs (paragraphs : List (List Char)) :
    (wrapParagraphs fits start paragraphs).Pairwise Span.Precedes := by
  induction paragraphs generalizing start with
  | nil => exact .nil
  | cons paragraph paragraphs hypothesis =>
      have lines := lines_wrapParagraph fits start paragraph
      refine List.pairwise_append.mpr ⟨lines.ordered, hypothesis _, fun line own next other => ?_⟩
      have before := lines.within line own
      have after := within_wrapParagraphs fits _ paragraphs next other
      unfold Span.Precedes
      omega

private theorem exists_of_mem_wrapParagraphs {paragraphs : List (List Char)} {line : Span}
    (member : line ∈ wrapParagraphs fits start paragraphs) :
    ∃ before paragraph after, paragraphs = before ++ paragraph :: after ∧
      line ∈ wrapParagraph fits (start + extent before) paragraph := by
  induction paragraphs generalizing start with
  | nil => simp [wrapParagraphs] at member
  | cons paragraph paragraphs hypothesis =>
      rcases List.mem_append.mp member with own | other
      · exact ⟨[], paragraph, paragraphs, rfl, own⟩
      · obtain ⟨before, found, after, split, within⟩ := hypothesis _ other
        refine ⟨paragraph :: before, found, after, by simp [split], ?_⟩
        rwa [extent_cons, ← Nat.add_assoc, ← Nat.add_assoc]

private theorem exists_paragraph_of_lt {paragraphs : List (List Char)} {position : Nat}
    (below : position < extent paragraphs) :
    ∃ before paragraph after, paragraphs = before ++ paragraph :: after ∧
      extent before ≤ position ∧ position ≤ extent before + paragraph.length := by
  induction paragraphs generalizing position with
  | nil => simp at below
  | cons paragraph paragraphs hypothesis =>
      rcases Nat.lt_or_ge paragraph.length position with past | here
      · have rest : position - (paragraph.length + 1) < extent paragraphs := by
          rw [extent_cons] at below
          omega
        obtain ⟨before, found, after, split, above, below⟩ := hypothesis rest
        refine ⟨paragraph :: before, found, after, by simp [split], ?_⟩
        rw [extent_cons]
        omega
      · exact ⟨[], paragraph, paragraphs, rfl, Nat.zero_le position, by simpa using here⟩

/-! ## The paragraphs of a text -/

/-- A stretch of a text from one line feed, or an end of the text, to the next. -/
structure IsParagraph (text : List Char) (paragraph : Span) : Prop where
  ordered : paragraph.start ≤ paragraph.stop
  within : paragraph.stop ≤ text.length
  whole : '\n' ∉ slice text paragraph
  opened : paragraph.start = 0 ∨ text[paragraph.start - 1]? = some '\n'
  closed : paragraph.stop = text.length ∨ text[paragraph.stop]? = some '\n'

variable {text : List Char}

/-- The pieces of a text between line feeds are its paragraphs. -/
private theorem isParagraph_of_pieces {before after : List (List Char)} {piece : List Char}
    (split : pieces '\n' text = before ++ piece :: after) :
    IsParagraph text ⟨extent before, extent before + piece.length⟩ ∧
      slice text ⟨extent before, extent before + piece.length⟩ = piece := by
  have joined : text ++ ['\n'] =
      before.flatMap (· ++ ['\n']) ++ (piece ++ '\n' :: after.flatMap (· ++ ['\n'])) := by
    rw [← flatMap_pieces, split]
    simp
  have size := length_flatMap_append before
  have within : extent before + piece.length ≤ text.length := by
    have := congrArg List.length joined
    simp only [List.length_append, size, List.length_cons, List.length_nil] at this
    omega
  have found : ∀ position, position < text.length →
      text[position]? = (before.flatMap (· ++ ['\n']) ++
        (piece ++ '\n' :: after.flatMap (· ++ ['\n'])))[position]? := by
    intro position below
    rw [← joined, List.getElem?_append_left below]
  have same : slice text ⟨extent before, extent before + piece.length⟩ = piece := by
    rw [← slice_append within, joined, ← size]
    simp [slice]
  refine ⟨⟨Nat.le_add_right _ _, within, ?_, ?_, ?_⟩, same⟩
  · rw [same]
    have member : piece ∈ pieces '\n' text := by simp [split]
    exact notMem_of_mem_pieces member
  · rcases List.eq_nil_or_concat before with rfl | ⟨earlier, last, ends⟩
    · exact .inl rfl
    · right
      obtain rfl : before = earlier ++ [last] := by simpa using ends
      have some : 0 < extent (earlier ++ [last]) := by
        rw [extent_append, extent_cons]
        omega
      rw [found _ (by simp only; omega), List.getElem?_append_left (by simp only; omega),
        ← size, ← List.getLast?_eq_getElem?]
      simp
  · rcases Nat.eq_or_lt_of_le within with ends | below
    · exact .inl ends
    · right
      rw [found _ below, ← size]
      simp

private theorem IsParagraph.exists_pieces_before {paragraph : Span}
    (isParagraph : IsParagraph text paragraph) :
    ∃ before, extent before = paragraph.start ∧
      ∀ rest, pieces '\n' (text.take paragraph.start ++ rest) = before ++ pieces '\n' rest := by
  have within := Nat.le_trans isParagraph.ordered isParagraph.within
  rcases isParagraph.opened with first | broken
  · exact ⟨[], by simp [first], by simp [first]⟩
  · cases start : paragraph.start with
    | zero => exact ⟨[], by simp, by simp⟩
    | succ position =>
        have broken : text[position]? = some '\n' := by simpa [start] using broken
        refine ⟨pieces '\n' (text.take position), ?_, fun rest => ?_⟩
        · rw [extent_pieces, List.length_take]
          omega
        · rw [List.take_add_one, broken, List.append_assoc]
          exact pieces_append_cons '\n' _ rest

private theorem IsParagraph.exists_pieces_after {paragraph : Span}
    (isParagraph : IsParagraph text paragraph) :
    ∃ after, pieces '\n' (slice text paragraph ++ text.drop paragraph.stop) =
      slice text paragraph :: after := by
  rcases isParagraph.closed with ends | broken
  · exact ⟨[], by simp [ends, pieces_of_notMem isParagraph.whole]⟩
  · obtain ⟨below, newline⟩ := List.getElem?_eq_some_iff.mp broken
    refine ⟨pieces '\n' (text.drop (paragraph.stop + 1)), ?_⟩
    rw [List.drop_eq_getElem_cons below, newline, pieces_append_cons,
      pieces_of_notMem isParagraph.whole]
    rfl

/-- A paragraph is one of the pieces between the line feeds. -/
theorem IsParagraph.exists_pieces {paragraph : Span} (isParagraph : IsParagraph text paragraph) :
    ∃ before after, pieces '\n' text = before ++ slice text paragraph :: after ∧
      extent before = paragraph.start := by
  obtain ⟨before, size, front⟩ := isParagraph.exists_pieces_before
  obtain ⟨after, back⟩ := isParagraph.exists_pieces_after
  refine ⟨before, after, ?_, size⟩
  calc pieces '\n' text
      = pieces '\n' (text.take paragraph.start ++
          (slice text paragraph ++ text.drop paragraph.stop)) := by
        rw [← slice_append_drop isParagraph.ordered, List.take_append_drop]
    _ = before ++ slice text paragraph :: after := by rw [front, back]

/-! ## The lines of a text -/

def linesOf (paragraph : Span) (lines : List Span) : List Span :=
  lines.filter fun line => paragraph.start ≤ line.start && line.stop ≤ paragraph.stop

private theorem linesOf_append (paragraph : Span) (lines others : List Span) :
    linesOf paragraph (lines ++ others) = linesOf paragraph lines ++ linesOf paragraph others :=
  List.filter_append lines others

private theorem linesOf_eq_nil {paragraph : Span} {lines : List Span}
    (apart : ∀ line ∈ lines, line.start < paragraph.start ∨ paragraph.stop < line.stop) :
    linesOf paragraph lines = [] := by
  refine List.filter_eq_nil_iff.mpr fun line member => ?_
  have := apart line member
  simp only [Bool.and_eq_true, decide_eq_true_eq]
  omega

private theorem linesOf_eq_self {paragraph : Span} {lines : List Span}
    (within : ∀ line ∈ lines, paragraph.start ≤ line.start ∧ line.stop ≤ paragraph.stop) :
    linesOf paragraph lines = lines := by
  refine List.filter_eq_self.mpr fun line member => ?_
  simpa using within line member

/-- What the lines of a wrapped text are to it: slices of it that follow each other, so that each
character that is not blank is on exactly one of them. -/
structure Wraps (text : List Char) (lines : List Span) : Prop where
  within : ∀ line ∈ lines, line.start ≤ line.stop ∧ line.stop ≤ text.length
  ordered : lines.Pairwise Span.Precedes
  unbroken : ∀ line ∈ lines, '\n' ∉ slice text line
  once : ∀ position character, text[position]? = some character → isBlank character = false →
    ∃! line, line ∈ lines ∧ line.Holds position
  outside : ∀ position character, text[position]? = some character →
    (∀ line ∈ lines, ¬ line.Holds position) → isBlank character = true
  paragraphs : ∀ paragraph, IsParagraph text paragraph → linesOf paragraph lines ≠ []
  blank : ∀ paragraph, IsParagraph text paragraph → (slice text paragraph).all isBlank = true →
    linesOf paragraph lines = [⟨paragraph.start, paragraph.start⟩]
  unspaced : ∀ paragraph, IsParagraph text paragraph →
    (slice text paragraph).any isUnspaced = true →
    ∀ position, paragraph.Holds position → ∃ line ∈ linesOf paragraph lines, line.Holds position

section

variable (text) (measure : List Char → Int) (width : Int)

/-- The lines within a paragraph are its own. -/
theorem IsParagraph.linesOf_wrapSpans {paragraph : Span}
    (isParagraph : IsParagraph text paragraph) :
    linesOf paragraph (wrapSpans text measure width) =
      wrapParagraph (fun span => measure (slice text span) ≤ width) paragraph.start
        (slice text paragraph) := by
  obtain ⟨before, after, split, size⟩ := isParagraph.exists_pieces
  have length := length_slice isParagraph.within
  have ordered := isParagraph.ordered
  unfold wrapSpans
  rw [split, wrapParagraphs_append, Nat.zero_add, size, wrapParagraphs, linesOf_append,
    linesOf_append]
  generalize (fun span => decide (measure (slice text span) ≤ width)) = fits
  have front : linesOf paragraph (wrapParagraphs fits 0 before) = [] := by
    refine linesOf_eq_nil fun line member => ?_
    have := within_wrapParagraphs fits 0 before line member
    omega
  have own : linesOf paragraph (wrapParagraph fits paragraph.start (slice text paragraph)) =
      wrapParagraph fits paragraph.start (slice text paragraph) := by
    refine linesOf_eq_self fun line member => ?_
    have := (lines_wrapParagraph fits paragraph.start (slice text paragraph)).within line member
    omega
  have back : linesOf paragraph (wrapParagraphs fits
      (paragraph.start + (slice text paragraph).length + 1) after) = [] := by
    refine linesOf_eq_nil fun line member => ?_
    have := within_wrapParagraphs fits _ after line member
    omega
  rw [front, own, back, List.nil_append, List.append_nil]

/-- Every line is one of those of a paragraph. -/
theorem exists_isParagraph_of_mem_wrapSpans {line : Span}
    (member : line ∈ wrapSpans text measure width) :
    ∃ paragraph, IsParagraph text paragraph ∧
      paragraph.start ≤ line.start ∧ line.start ≤ line.stop ∧ line.stop ≤ paragraph.stop := by
  obtain ⟨before, piece, after, split, own⟩ := exists_of_mem_wrapParagraphs _ _ member
  have within := (lines_wrapParagraph _ _ piece).within line own
  rw [Nat.zero_add] at within
  exact ⟨_, (isParagraph_of_pieces split).1, within⟩

/-- Every position is in a paragraph or that of the line feed after one. -/
theorem exists_isParagraph_of_lt {position : Nat} (below : position < text.length) :
    ∃ paragraph, IsParagraph text paragraph ∧
      paragraph.start ≤ position ∧ position ≤ paragraph.stop := by
  obtain ⟨before, piece, after, split, within⟩ :=
    exists_paragraph_of_lt (by rw [extent_pieces]; omega : position < extent (pieces '\n' text))
  exact ⟨_, (isParagraph_of_pieces split).1, within⟩

private theorem exists_holds_of_shown {position : Nat} {character : Char}
    (found : text[position]? = some character) (shown : isBlank character = false) :
    ∃ line ∈ wrapSpans text measure width, line.Holds position := by
  obtain ⟨short, _⟩ := List.getElem?_eq_some_iff.mp found
  obtain ⟨paragraph, isParagraph, above, below⟩ := exists_isParagraph_of_lt text short
  have inside : position < paragraph.stop := by
    refine Nat.lt_of_le_of_ne below ?_
    rintro rfl
    rcases isParagraph.closed with ends | broken
    · omega
    · obtain rfl : character = '\n' := Option.some.inj (found.symm.trans broken)
      exact absurd shown (by decide)
  have own := (lines_wrapParagraph (fun span => measure (slice text span) ≤ width)
    paragraph.start (slice text paragraph)).shown (position - paragraph.start) character
  rw [getElem?_slice (by omega), Nat.add_sub_cancel' above,
    ← isParagraph.linesOf_wrapSpans] at own
  obtain ⟨line, member, holds⟩ := own found shown
  exact ⟨line, (List.mem_filter.mp member).1, holds⟩

/-- Wrapped lines partition their text, however wide its characters are and the lines may be. -/
theorem wraps_wrapSpans : Wraps text (wrapSpans text measure width) where
  within line member := by
    obtain ⟨paragraph, isParagraph, _, ordered, below⟩ :=
      exists_isParagraph_of_mem_wrapSpans text measure width member
    exact ⟨ordered, Nat.le_trans below isParagraph.within⟩
  ordered := pairwise_wrapParagraphs _ 0 _
  unbroken line member := by
    obtain ⟨paragraph, isParagraph, above, _, below⟩ :=
      exists_isParagraph_of_mem_wrapSpans text measure width member
    intro broken
    obtain ⟨position, holds, found⟩ := mem_slice.mp broken
    refine isParagraph.whole (mem_slice.mpr ⟨position, ⟨?_, ?_⟩, found⟩)
    · exact Nat.le_trans above holds.1
    · exact Nat.lt_of_lt_of_le holds.2 below
  once position character found shown := by
    obtain ⟨line, member, holds⟩ := exists_holds_of_shown text measure width found shown
    refine ⟨line, ⟨member, holds⟩, fun other ⟨otherMember, otherHolds⟩ => ?_⟩
    exact Span.Holds.unique (pairwise_wrapParagraphs _ 0 _) otherMember otherHolds member holds
  outside position character found free := by
    refine (Bool.not_eq_false _).mp fun shown => ?_
    obtain ⟨line, member, holds⟩ := exists_holds_of_shown text measure width found shown
    exact free line member holds
  paragraphs paragraph isParagraph := by
    rw [isParagraph.linesOf_wrapSpans]
    exact (lines_wrapParagraph _ _ _).some
  blank paragraph isParagraph blank := by
    rw [isParagraph.linesOf_wrapSpans]
    exact wrapParagraph_of_blank _ _ blank
  unspaced paragraph isParagraph unspaced position holds := by
    have ends : paragraph.start + (slice text paragraph).length = paragraph.stop := by
      rw [length_slice isParagraph.within]
      exact Nat.add_sub_cancel' isParagraph.ordered
    have fills := fills_wrapParagraph_of_unspaced
      (fun span => measure (slice text span) ≤ width) paragraph.start (fun _ => False) unspaced
    rw [ends, ← isParagraph.linesOf_wrapSpans] at fills
    exact (fills.exists_holds_or_gap holds.1 holds.2).resolve_right id

example : wrapSpans "one two  \n\n three".toList (fun line => line.length) 5 =
    [⟨0, 3⟩, ⟨4, 7⟩, ⟨10, 10⟩, ⟨12, 17⟩] := by decide

end

end VisualNovel.Layout
