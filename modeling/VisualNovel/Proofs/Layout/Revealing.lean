import Mathlib.Data.List.TakeWhile
import VisualNovel.Proofs.Layout.Wrapping

/-!
# Lines while their text is revealed

A text is wrapped once, as a whole. While it is being revealed each of its lines
shows those of its characters that are revealed, and lines none of whose characters
are do not show yet, so nothing that is visible ever moves. Between a line and a
blank one after it there is a line feed; so no character brings two lines to light.
-/

set_option autoImplicit false

namespace VisualNovel.Layout

open VisualNovel.Text

/-! ## Lines that follow each other -/

/-- A slice ends before another one starts, and a position lies between it and an empty one. -/
structure Span.Clears (span next : Span) : Prop where
  start : span.start < next.start
  stop : span.stop ≤ next.start
  blank : next.stop ≤ next.start → span.stop < next.start

structure Laid (text : List Char) (lines : List Span) : Prop where
  within : ∀ line ∈ lines, line.start ≤ line.stop ∧ line.stop ≤ text.length
  ordered : lines.Pairwise Span.Clears

private theorem clears_wrapParagraph (fits : Span → Bool) (start : Nat) (paragraph : List Char) :
    (wrapParagraph fits start paragraph).Pairwise Span.Clears := by
  by_cases blank : paragraph.all isBlank = true
  · rw [wrapParagraph_of_blank fits start blank]
    exact List.pairwise_singleton _ _
  · have fills : Fills (fun _ => True) start (wrapParagraph fits start paragraph)
        (start + paragraph.length) :=
      fills_wrapParagraph fits start (fun _ _ _ _ => trivial) blank
    refine fills.pairwise.imp_of_mem fun _ later precedes => ?_
    have filled := (fills.within _ later).2.1
    exact ⟨precedes.1, precedes.2, fun empty => absurd filled (Nat.not_lt.mpr empty)⟩

private theorem clears_wrapParagraphs (fits : Span → Bool) (start : Nat)
    (paragraphs : List (List Char)) :
    (wrapParagraphs fits start paragraphs).Pairwise Span.Clears := by
  induction paragraphs generalizing start with
  | nil => exact .nil
  | cons paragraph paragraphs hypothesis =>
      refine List.pairwise_append.mpr
        ⟨clears_wrapParagraph fits start paragraph, hypothesis _, fun line own next other => ?_⟩
      have before := (lines_wrapParagraph fits start paragraph).within line own
      have after := within_wrapParagraphs fits _ paragraphs next other
      exact ⟨by omega, by omega, fun _ => by omega⟩

private theorem laid_wrapSpans (text : List Char) (measure : List Char → Int) (width : Int) :
    Laid text (wrapSpans text measure width) where
  within line member := by
    obtain ⟨paragraph, isParagraph, _, ordered, below⟩ :=
      exists_isParagraph_of_mem_wrapSpans text measure width member
    exact ⟨ordered, Nat.le_trans below isParagraph.within⟩
  ordered := clears_wrapParagraphs _ 0 _

/-! ## What is visible of a line -/

variable {text : List Char} {lines rest : List Span} {line next : Span} {revealed : Nat}

def visible (text : List Char) (revealed : Nat) (line : Span) : List Char :=
  (slice text line).take (revealed - line.start)

private theorem visible_eq_slice (text : List Char) (revealed : Nat) (line : Span) :
    slice text ⟨line.start, min line.stop revealed⟩ = visible text revealed line := by
  have short : min line.stop revealed - line.start =
      min (revealed - line.start) (line.stop - line.start) := by omega
  simp only [visible, slice, List.take_take, short]

theorem isReached_iff :
    line.isReached revealed = true ↔
      line.start < revealed ∨ line.start = revealed ∧ line.stop ≤ line.start := by
  simp only [Span.isReached, Bool.and_eq_true, Bool.not_eq_true', Bool.and_eq_false_iff,
    decide_eq_true_eq, decide_eq_false_iff_not]
  omega

theorem revealedLines_eq (text : List Char) (lines : List Span) (revealed : Nat) :
    revealedLines text lines revealed =
      (lines.takeWhile (·.isReached revealed)).map (visible text revealed) := by
  simp only [revealedLines, Int.toNat_natCast, visible_eq_slice]

theorem revealedLines_cons (reached : line.isReached revealed = true) :
    revealedLines text (line :: rest) revealed =
      visible text revealed line :: revealedLines text rest revealed := by
  simp [revealedLines_eq, reached]

theorem revealedLines_eq_nil (hidden : ∀ line ∈ lines.head?, line.isReached revealed = false) :
    revealedLines text lines revealed = [] := by
  cases lines with
  | nil => rfl
  | cons line rest => simp [revealedLines_eq, hidden line rfl]

theorem revealedLines_cons_of_hidden (hidden : line.isReached revealed = false) :
    revealedLines text (line :: rest) revealed = [] :=
  revealedLines_eq_nil (by simpa using hidden)

private theorem Span.isReached_succ (reached : line.isReached revealed = true) :
    line.isReached (revealed + 1 : Nat) = true := by
  rw [isReached_iff] at reached ⊢
  omega

/-- Where a line has something to show, so have those before it. -/
theorem Span.Clears.isReached (clears : line.Clears next)
    (reached : next.isReached revealed = true) : line.isReached revealed = true := by
  have start := clears.start
  rw [isReached_iff] at reached ⊢
  omega

/-- A line that has something left to show hides those after it, and would with one more
character. -/
theorem Span.Clears.hidden (clears : line.Clears next) (ordered : next.start ≤ next.stop)
    (more : revealed < line.stop ∨ revealed < line.start) :
    next.isReached (revealed + 1 : Nat) = false := by
  obtain ⟨start, stop, blank⟩ := clears
  rw [← Bool.not_eq_true, isReached_iff]
  omega

/-- At each place there is the visible part of the line there, once it has something to show. -/
theorem getElem?_revealedLines (ordered : lines.Pairwise Span.Clears) (index : Nat) :
    (revealedLines text lines revealed)[index]? =
      (lines[index]?.filter (·.isReached revealed)).map (visible text revealed) := by
  induction lines generalizing index with
  | nil => rfl
  | cons line rest hypothesis =>
      obtain ⟨clears, others⟩ := List.pairwise_cons.mp ordered
      cases reached : line.isReached revealed with
      | true =>
          rw [revealedLines_cons reached]
          cases index with
          | zero => simp [Option.filter_some, reached]
          | succ index => simpa using hypothesis others index
      | false =>
          rw [revealedLines_cons_of_hidden reached]
          cases index with
          | zero => simp [Option.filter_some, reached]
          | succ index =>
              cases found : rest[index]? with
              | none => simp [found]
              | some other =>
                  have hidden : other.isReached revealed = false := by
                    refine Bool.eq_false_iff.mpr fun later => ?_
                    rw [(clears other (List.mem_of_getElem? found)).isReached later] at reached
                    contradiction
                  simp [found, Option.filter_some, hidden]

/-! ## One more character -/

/-- Nothing changes, the last line is extended by one character, or one line is appended, of at
most one character. -/
inductive Grows (before : List (List Char)) : List (List Char) → Prop where
  | same : Grows before before
  | extend {earlier : List (List Char)} {last : List Char} (character : Char) :
      before = earlier ++ [last] → Grows before (earlier ++ [last ++ [character]])
  | append {line : List Char} : line.length ≤ 1 → Grows before (before ++ [line])

theorem Grows.cons {before after : List (List Char)} (grows : Grows before after)
    (line : List Char) : Grows (line :: before) (line :: after) := by
  cases grows with
  | same => exact .same
  | @extend earlier last character ends =>
      subst ends
      exact @Grows.extend _ (line :: earlier) last character rfl
  | append short => exact .append short

theorem visible_of_stop_le (within : line.stop ≤ text.length) (whole : line.stop ≤ revealed) :
    visible text revealed line = slice text line := by
  refine List.take_of_length_le ?_
  rw [length_slice within]
  omega

private theorem visible_succ (within : line.stop ≤ text.length) (begun : line.start ≤ revealed)
    (more : revealed < line.stop) :
    ∃ character, visible text (revealed + 1) line = visible text revealed line ++ [character] := by
  have short : revealed - line.start < (slice text line).length := by
    rw [length_slice within]
    omega
  refine ⟨(slice text line)[revealed - line.start], ?_⟩
  unfold visible
  rw [Nat.succ_sub begun, List.take_add_one, List.getElem?_eq_getElem short]
  rfl

/-- While a line has something left to show, nothing shows after it, nor does with one more
character. -/
theorem revealedLines_eq_nil_of_more (clears : ∀ next ∈ rest, line.Clears next)
    (within : ∀ next ∈ rest, next.start ≤ next.stop)
    (more : revealed < line.stop ∨ revealed < line.start) :
    revealedLines text rest revealed = [] ∧ revealedLines text rest (revealed + 1 : Nat) = [] := by
  have hidden : ∀ next ∈ rest.head?, next.isReached (revealed + 1 : Nat) = false := by
    intro next head
    have member := List.mem_of_mem_head? head
    exact (clears next member).hidden (within next member) more
  refine ⟨revealedLines_eq_nil fun next head => ?_, revealedLines_eq_nil hidden⟩
  refine Bool.eq_false_iff.mpr fun reached => ?_
  have := hidden next head
  rw [Span.isReached_succ reached] at this
  contradiction

/-- One more character that is revealed shows at the end of the last line or on a new one. -/
private theorem grows_revealedLines (laid : Laid text lines) (revealed : Nat) :
    Grows (revealedLines text lines revealed) (revealedLines text lines (revealed + 1 : Nat)) := by
  obtain ⟨within, ordered⟩ := laid
  induction lines with
  | nil => exact .same
  | cons line rest hypothesis =>
      obtain ⟨⟨_, inside⟩, others⟩ := List.forall_mem_cons.mp within
      obtain ⟨clears, later⟩ := List.pairwise_cons.mp ordered
      have alone (more : revealed < line.stop ∨ revealed < line.start) :
          revealedLines text rest revealed = [] ∧
            revealedLines text rest (revealed + 1 : Nat) = [] :=
        revealedLines_eq_nil_of_more clears (fun next member => (others next member).1) more
      cases now : line.isReached revealed with
      | true =>
          rw [revealedLines_cons now, revealedLines_cons (Span.isReached_succ now)]
          rw [isReached_iff] at now
          rcases Nat.lt_or_ge revealed line.stop with more | whole
          · obtain ⟨silent, silentNext⟩ := alone (.inl more)
            obtain ⟨character, extended⟩ := visible_succ inside (by omega) more
            rw [silent, silentNext, extended]
            exact @Grows.extend _ [] _ character rfl
          · rw [visible_of_stop_le inside whole, visible_of_stop_le inside (by omega)]
            exact (hypothesis others later).cons _
      | false =>
          rw [revealedLines_cons_of_hidden now]
          cases next : line.isReached (revealed + 1 : Nat) with
          | false =>
              rw [revealedLines_cons_of_hidden next]
              exact .same
          | true =>
              rw [← Bool.not_eq_true, isReached_iff] at now
              rw [revealedLines_cons next]
              rw [isReached_iff] at next
              rw [(alone (by omega)).2]
              refine @Grows.append [] _ ?_
              refine Nat.le_trans (List.length_take_le _ _) ?_
              omega

/-! ## The lines of a text -/

/-- What is visible of a text, given its lines and what they show in the end, stays where it is:
everything is visible in the end, until then each line shows those of its characters that are
revealed and no revealed character is missing, and each character adds to what was visible. -/
structure Unmoved (text : List Char) (lines : List Span) (full : List (List Char)) : Prop where
  complete : revealedLines text lines text.length = full
  shows : ∀ (revealed index : Nat) (shown : List Char),
    (revealedLines text lines revealed)[index]? = some shown →
      ∃ line whole, lines[index]? = some line ∧ full[index]? = some whole ∧ shown <+: whole ∧
        ∀ offset, shown[offset]? =
          if line.start + offset < revealed then whole[offset]? else none
  reveals : ∀ (revealed index position : Nat) (line : Span), lines[index]? = some line →
    line.Holds position → position < revealed →
      ∃ shown character, (revealedLines text lines revealed)[index]? = some shown ∧
        text[position]? = some character ∧ shown[position - line.start]? = some character
  grows : ∀ revealed : Nat,
    Grows (revealedLines text lines revealed) (revealedLines text lines (revealed + 1 : Nat))

private theorem getElem?_visible (text : List Char) (revealed : Nat) (line : Span) (offset : Nat) :
    (visible text revealed line)[offset]? =
      if line.start + offset < revealed then (slice text line)[offset]? else none := by
  unfold visible
  rw [List.getElem?_take]
  split
  · rw [if_pos (by omega)]
  · rw [if_neg (by omega)]

theorem Laid.isReached (laid : Laid text lines) (member : line ∈ lines) :
    line.isReached text.length = true := by
  have := laid.within line member
  rw [isReached_iff]
  omega

/-- Whatever lines a text is laid in, revealing moves nothing that shows already. -/
theorem Laid.unmoved (laid : Laid text lines) : Unmoved text lines (lines.map (slice text)) where
  complete := by
    have all : lines.takeWhile (·.isReached text.length) = lines :=
      List.takeWhile_eq_self_iff.mpr fun line member => laid.isReached member
    rw [revealedLines_eq, all]
    refine List.map_congr_left fun line member => ?_
    exact visible_of_stop_le (laid.within line member).2 (laid.within line member).2
  shows revealed index shown found := by
    rw [getElem?_revealedLines laid.ordered] at found
    obtain ⟨line, reached, rfl⟩ := Option.map_eq_some_iff.mp found
    have there := (Option.filter_eq_some_iff.mp reached).1
    exact ⟨line, slice text line, there, by simp [there], List.take_prefix _ _,
      getElem?_visible text revealed line⟩
  reveals revealed index position line there holds before := by
    have within := laid.within line (List.mem_of_getElem? there)
    have reached : line.isReached revealed = true := by
      rw [isReached_iff]
      exact .inl (Nat.lt_of_le_of_lt holds.1 before)
    have inside : position < text.length := Nat.lt_of_lt_of_le holds.2 within.2
    refine ⟨visible text revealed line, text[position], ?_, List.getElem?_eq_getElem inside, ?_⟩
    · simp [getElem?_revealedLines laid.ordered, there, Option.filter_some, reached]
    · have place : line.start + (position - line.start) = position :=
        Nat.add_sub_cancel' holds.1
      rw [getElem?_visible, place, if_pos before, getElem?_slice (by rw [place]; exact holds.2),
        place, List.getElem?_eq_getElem inside]
  grows := grows_revealedLines laid

/-- Wrapped lines never move while their text is revealed, whatever it is measured by. -/
theorem unmoved_wrapSpans (text : List Char) (measure : List Char → Int) (width : Int) :
    Unmoved text (wrapSpans text measure width) (wrapLines text measure width) :=
  (laid_wrapSpans text measure width).unmoved

end VisualNovel.Layout
