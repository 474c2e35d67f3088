import VisualNovel.Settings.Preferences

/-!
# Readings of settings

A reading stops at a number out of all range and comes to its end otherwise, with
something within the bounds of the setting. Both are known of a setting from the
value that stands there, and are put together in the order in which the settings
are read.
-/

set_option autoImplicit false

namespace VisualNovel

open VisualNovel.Json VisualNovel.Playback VisualNovel.Novel VisualNovel.Numeric

/-! ## Numbers out of all range -/

namespace Json

def Value.IsInfinite (value : Value) : Prop :=
  ∃ number negative, value = .number number ∧ Exact.of number = .infinite negative

def Value.IsImmense (value : Value) : Prop :=
  ∃ integer error, value = .integer integer ∧ floatOfInteger integer = .error error

def Overflows {α : Type} (result : Except CoercionError α) : Prop :=
  ∃ reason error, result = .error reason ∧ reason.overflow? = some error

theorem not_overflows_ok {α : Type} (given : α) :
    ¬ Overflows (.ok given : Except CoercionError α) := by
  rintro ⟨_, _, impossible, _⟩
  cases impossible

theorem overflows_error {α : Type} {reason : CoercionError} :
    Overflows (.error reason : Except CoercionError α) ↔ reason.overflow?.isSome = true := by
  rw [Option.isSome_iff_exists]
  constructor
  · rintro ⟨_, error, same, overflow⟩
    cases same
    exact ⟨error, overflow⟩
  · rintro ⟨error, overflow⟩
    exact ⟨reason, error, rfl, overflow⟩

theorem overflows_bind {α β : Type} {result : Except CoercionError α}
    {next : α → Except CoercionError β} :
    Overflows (result >>= next) ↔
      Overflows result ∨ ∃ given, result = .ok given ∧ Overflows (next given) := by
  cases result with
  | error reason =>
      have stops : Except.error reason >>= next = .error reason := rfl
      rw [stops, overflows_error, overflows_error]
      simp
  | ok given =>
      have goes : Except.ok given >>= next = next given := rfl
      rw [goes]
      simp [not_overflows_ok]

/-- A result out of range is the only reason, and no number at all is none. -/
theorem overflows_mapError_range {α : Type} {result : Except RangeError α} :
    Overflows (result.mapError .range) ↔ ∃ error, result = .error error ∧ error ≠ .notANumber := by
  cases result with
  | ok given => exact ⟨fun overflows => absurd overflows (not_overflows_ok given), nofun⟩
  | error error =>
      have reason : (Except.error error : Except RangeError α).mapError CoercionError.range =
          .error (.range error) := rfl
      rw [reason, overflows_error]
      cases error <;> simp [CoercionError.overflow?]

private theorem infinite_of_integerPart {number : Float} :
    (∃ error, integerPart number = .error error ∧ error ≠ .notANumber) ↔
      ∃ negative, Exact.of number = .infinite negative := by
  unfold integerPart integerBy
  cases Exact.of number <;> simp

variable {value : Value}

/-- Infinity is the only value that overflows as an integer. -/
theorem overflows_toInteger : Overflows value.toInteger ↔ value.IsInfinite := by
  cases value with
  | number number =>
      have coerced : (Value.number number).toInteger = (integerPart number).mapError .range := rfl
      rw [coerced, overflows_mapError_range, infinite_of_integerPart]
      simp [Value.IsInfinite]
  | text text =>
      have coerced : (Value.text text).toInteger =
          (readInteger text).mapError (.badInteger text) := rfl
      rw [coerced]
      cases readInteger text with
      | ok integer =>
          have kept : (Except.ok integer).mapError (CoercionError.badInteger text) =
              .ok integer := rfl
          rw [kept]
          exact iff_of_false (not_overflows_ok integer) (by simp [Value.IsInfinite])
      | error problem =>
          have reason : (Except.error problem : Except _ Int).mapError
              (CoercionError.badInteger text) = .error (.badInteger text problem) := rfl
          rw [reason, overflows_error]
          simp [CoercionError.overflow?, Value.IsInfinite]
  | null | bool | integer | list | object =>
      simp [Value.toInteger, Overflows, CoercionError.overflow?, Value.IsInfinite]

/-- Integers beyond all floating-point numbers are the only values that overflow as one. -/
theorem overflows_toFloat : Overflows value.toFloat ↔ value.IsImmense := by
  cases value with
  | integer integer =>
      have coerced : (Value.integer integer).toFloat =
          (floatOfInteger integer).mapError .range := rfl
      have within (error : RangeError) (failed : floatOfInteger integer = .error error) :
          error ≠ .notANumber := by
        unfold floatOfInteger finiteOr at failed
        split at failed
        · cases failed
          exact nofun
        · cases failed
      rw [coerced, overflows_mapError_range]
      constructor
      · rintro ⟨error, failed, _⟩
        exact ⟨integer, error, rfl, failed⟩
      · rintro ⟨_, error, same, failed⟩
        cases same
        exact ⟨error, failed, within error failed⟩
  | text text =>
      unfold Value.toFloat
      dsimp only
      cases readFloat? text <;> simp [Overflows, CoercionError.overflow?, Value.IsImmense]
  | null | bool | number | list | object =>
      simp [Value.toFloat, Overflows, CoercionError.overflow?, Value.IsImmense]

end Json

namespace Preferences

/-! ## Timings -/

/-- The first of some values that has no integer is infinity. -/
inductive Breaks : List Value → Prop where
  | here {value : Value} {rest : List Value} : value.IsInfinite → Breaks (value :: rest)
  | later {value : Value} {rest : List Value} {integer : Int} :
      value.toInteger = .ok integer → Breaks rest → Breaks (value :: rest)

private theorem breaks_cons {value : Value} {rest : List Value} :
    Breaks (value :: rest) ↔
      value.IsInfinite ∨ ∃ integer, value.toInteger = .ok integer ∧ Breaks rest := by
  constructor
  · rintro (infinite | ⟨given, breaks⟩)
    · exact .inl infinite
    · exact .inr ⟨_, given, breaks⟩
  · rintro (infinite | ⟨_, given, breaks⟩)
    · exact .here infinite
    · exact .later given breaks

private theorem overflows_phaseNumbers {values : List Value} {count : Nat} :
    Overflows (phaseNumbers values count) ↔ Breaks (values.take count) := by
  induction values generalizing count with
  | nil =>
      rw [List.take_nil]
      exact ⟨fun overflows => absurd overflows (not_overflows_ok _), nofun⟩
  | cons value values hypothesis =>
      cases count with
      | zero => exact ⟨fun overflows => absurd overflows (not_overflows_ok _), nofun⟩
      | succ count =>
          have gathers (integer : Int) :
              Overflows (phaseNumbers values count >>= fun rest =>
                (pure (max 0 integer :: rest) : Except CoercionError (List Int))) ↔
              Breaks (values.take count) := by
            rw [overflows_bind, hypothesis]
            simp [pure, Except.pure, not_overflows_ok]
          unfold phaseNumbers
          rw [List.take_succ_cons, overflows_bind, overflows_toInteger, breaks_cons]
          simp only [gathers]

private theorem nonneg_of_phaseNumbers {values : List Value} {count : Nat} {numbers : List Int}
    (read : phaseNumbers values count = .ok numbers) : ∀ number ∈ numbers, 0 ≤ number := by
  induction values generalizing count numbers with
  | nil =>
      cases read
      exact fun _ member => absurd member List.not_mem_nil
  | cons value values hypothesis =>
      cases count with
      | zero =>
          cases read
          exact fun _ member => absurd member List.not_mem_nil
      | succ count =>
          unfold phaseNumbers at read
          cases first : value.toInteger with
          | error reason =>
              rw [first] at read
              cases read
          | ok integer =>
              cases others : phaseNumbers values count with
              | error reason =>
                  rw [first, others] at read
                  cases read
              | ok rest =>
                  rw [first, others] at read
                  cases read
                  intro number member
                  rcases List.mem_cons.mp member with rfl | member
                  · exact Int.le_max_left 0 integer
                  · exact hypothesis others number member

def IsEndless (value : Value) : Prop :=
  ∃ phases, phaseValues? value = some phases ∧ Breaks (phases.take 3)

theorem overflows_timingOf {value : Value} : Overflows (timingOf value) ↔ IsEndless value := by
  unfold timingOf IsEndless
  cases phaseValues? value with
  | none => simp [pure, Except.pure, not_overflows_ok]
  | some phases =>
      dsimp only
      rw [overflows_bind, overflows_phaseNumbers]
      constructor
      · rintro (breaks | ⟨numbers, _, overflows⟩)
        · exact ⟨phases, rfl, breaks⟩
        · refine absurd overflows ?_
          split <;> exact not_overflows_ok _
      · rintro ⟨_, same, breaks⟩
        cases same
        exact .inl breaks

/-- No phase of a timing that was read takes less than no time. -/
theorem nonneg_of_timingOf {value : Value} {timing : Timing}
    (read : timingOf value = .ok (some timing)) : 0 ≤ timing.commit ∧ 0 ≤ timing.clear := by
  unfold timingOf at read
  cases parts : phaseValues? value with
  | none =>
      rw [parts] at read
      cases read
  | some phases =>
      rw [parts] at read
      cases numbers : phaseNumbers phases 3 with
      | error reason =>
          dsimp only at read
          rw [numbers] at read
          cases read
      | ok found =>
          have nonneg := nonneg_of_phaseNumbers numbers
          dsimp only at read
          rw [numbers] at read
          -- only two phases give a timing
          rcases found with _ | ⟨commit, _ | ⟨clear, _ | _⟩⟩
          · cases read
          · cases read
          · cases read
            simpa using nonneg
          · cases read

/-! ## Readings -/

/-- A reading stops in one case only, and gives something fine otherwise. -/
structure Reads {α : Type} (reading : Reading α) (stops : Prop) (fine : α → Prop) : Prop where
  stops_iff : ∀ warnings, (∃ error, (reading.run.run warnings).1 = .error error) ↔ stops
  gives : ∀ warnings given, (reading.run.run warnings).1 = .ok given → fine given

variable {α β : Type} {reading : Reading α} {next : α → Reading β} {stops stopsNext : Prop}
  {fine : α → Prop} {fineNext : β → Prop}

theorem reads_pure {given : α} (isFine : fine given) : Reads (pure given) False fine where
  stops_iff warnings := by
    constructor
    · rintro ⟨_, impossible⟩
      cases impossible
    · exact False.elim
  gives warnings given same := by
    cases same
    exact isFine

private theorem reads_throw (error : RangeError) : Reads (throw error : Reading α) True fine where
  stops_iff warnings := ⟨fun _ => trivial, fun _ => ⟨error, rfl⟩⟩
  gives warnings given impossible := by cases impossible

private theorem reads_warn {warning : Settings.Warning} : Reads (warn warning)
    False fun _ => True where
  stops_iff warnings := by
    constructor
    · rintro ⟨_, impossible⟩
      cases impossible
    · exact False.elim
  gives _ _ _ := trivial

theorem run_bind (reading : Reading α) (next : α → Reading β)
    (warnings : List Settings.Warning) :
    (reading >>= next).run.run warnings =
      match reading.run.run warnings with
      | (.ok given, left) => (next given).run.run left
      | (.error error, left) => (.error error, left) := by
  unfold ExceptT.run StateT.run
  simp only [Bind.bind, ExceptT.bind, ExceptT.mk, StateT.bind]
  generalize (reading : StateM (List Settings.Warning) (Except RangeError α)) warnings = outcome
  obtain ⟨result, left⟩ := outcome
  cases result <;> rfl

/-- A reading after another stops where either does. -/
theorem Reads.bind (first : Reads reading stops fine)
    (rest : ∀ given, fine given → Reads (next given) stopsNext fineNext) :
    Reads (reading >>= next) (stops ∨ stopsNext) fineNext := by
  constructor
  · intro warnings
    have ends := first.stops_iff warnings
    have gives := first.gives warnings
    rw [run_bind]
    generalize reading.run.run warnings = outcome at ends gives
    obtain ⟨result, left⟩ := outcome
    cases result with
    | error error =>
        exact ⟨fun _ => .inl (ends.mp ⟨error, rfl⟩), fun _ => ⟨error, rfl⟩⟩
    | ok given =>
        -- the first reading came to its end, so it is the second one that may stop
        have goes : ¬ stops := fun stopped => by
          obtain ⟨_, impossible⟩ := ends.mpr stopped
          cases impossible
        rw [or_iff_right goes]
        exact (rest given (gives given rfl)).stops_iff left
  · intro warnings given ends
    have gives := first.gives warnings
    rw [run_bind] at ends
    generalize reading.run.run warnings = outcome at ends gives
    obtain ⟨result, left⟩ := outcome
    cases result with
    | error error => cases ends
    | ok middle => exact (rest middle (gives middle rfl)).gives left given ends

theorem Reads.congr {stopsToo : Prop} (reads : Reads reading stops fine)
    (same : stops ↔ stopsToo) : Reads reading stopsToo fine :=
  ⟨fun warnings => (reads.stops_iff warnings).trans same, reads.gives⟩

theorem Reads.ends_iff (reads : Reads reading stops fine) (warnings : List Settings.Warning) :
    (∃ given, (reading.run.run warnings).1 = .ok given) ↔ ¬ stops := by
  rw [← reads.stops_iff warnings]
  cases (reading.run.run warnings).1 <;> simp

/-- What comes of a warning is what comes after it. -/
theorem Reads.warned {warning : Settings.Warning} {rest : Reading α}
    (reads : Reads rest stops fine) : Reads (do warn warning; rest) stops fine :=
  (reads_warn.bind fun _ _ => reads).congr (Iff.of_eq (false_or stops))

/-- Where a default stands in for what gives no number, a reading stops at what overflows alone, or
goes on in the same way. -/
theorem reads_fallback {given : Type} {reason : CoercionError} {fallback : Reading α}
    (stands : Reads fallback stops fine) :
    Reads (match reason.overflow? with
      | some error => throw error
      | none => fallback)
      (Overflows (.error reason : Except CoercionError given) ∨ stops) fine := by
  have overflows : Overflows (.error reason : Except CoercionError given) ↔ _ := overflows_error
  cases overflow : reason.overflow? with
  | some error =>
      rw [overflow] at overflows
      exact (reads_throw error).congr (iff_of_true trivial (.inl (overflows.mpr rfl)))
  | none =>
      rw [overflow] at overflows
      exact stands.congr (or_iff_right (fun some => Bool.false_ne_true (overflows.mp some))).symm

/-- What gives a number does not overflow, so that a reading goes on with it. -/
theorem Reads.settled {given : Type} {number : given} (reads : Reads reading stops fine) :
    Reads reading (Overflows (.ok number : Except CoercionError given) ∨ stops) fine :=
  reads.congr (or_iff_right (not_overflows_ok number)).symm

end Preferences

end VisualNovel
