import VisualNovel.Proofs.Settings.Merging
import VisualNovel.Proofs.Settings.Readings

/-!
# Settings that can be used

Whatever a settings file holds, settings come of it, unless it is nested too deep,
and preferences within all their bounds come of the settings, unless one of them
holds a number out of all range. Both exceptions are told exactly.
-/

set_option autoImplicit false

namespace VisualNovel

open VisualNovel.Files VisualNovel.Json VisualNovel.Numeric VisualNovel.Novel VisualNovel.Playback

namespace Playback

def TimingTable.Complete (table : TimingTable) : Prop :=
  ∀ style, ∃ timing, List.lookup style table = some timing ∧ 0 ≤ timing.commit ∧ 0 ≤ timing.clear

private theorem complete_defaultTimings : TimingTable.Complete defaultTimings := by
  intro style
  cases style <;> exact ⟨_, rfl, by decide, by decide⟩

private theorem TimingTable.lookup_set_of_ne {style other : Transition} (table : TimingTable)
    (timing : Timing) (apart : other ≠ style) :
    List.lookup other (table.set style timing) = List.lookup other table := by
  have differs : (other == style) = false := by simpa using apart
  induction table with
  | nil => simp [TimingTable.set, List.lookup_cons, differs]
  | cons entry rest hypothesis =>
      obtain ⟨first, old⟩ := entry
      by_cases same : first = style
      · subst same
        simp [TimingTable.set, List.lookup_cons, differs]
      · simp only [TimingTable.set, if_neg same, List.lookup_cons, hypothesis]

theorem TimingTable.Complete.set {table : TimingTable} (complete : table.Complete)
    (style : Transition) {timing : Timing} (commit : 0 ≤ timing.commit)
    (clear : 0 ≤ timing.clear) : (table.set style timing).Complete := by
  intro other
  by_cases same : other = style
  · subst same
    exact ⟨timing, TimingTable.lookup_set_self table other timing, commit, clear⟩
  · rw [TimingTable.lookup_set_of_ne table timing same]
    exact complete other

end Playback

namespace Settings

/-- A setting that is read holds a number out of all range. -/
inductive OutOfRange (settings : Settings) : Prop where
  | interval : (settings.playback.get "typing_interval_ms").IsInfinite → OutOfRange settings
  | volume {name : String} : name ∈ ["music_volume", "voice_volume", "sfx_volume"] →
      (settings.audio.get name).IsImmense → OutOfRange settings
  | timing {entry : String × Value} : entry ∈ settings.transitions →
      (Vocabulary.find? (α := Transition) entry.1).isSome = true →
      Preferences.IsEndless entry.2 → OutOfRange settings
  | window {name : String} : name ∈ ["width", "height", "fps"] →
      (settings.window.get name).IsInfinite → OutOfRange settings

def NamesFont (settings : Settings) : Prop :=
  (settings.window.get "font_path").truthy = true →
    ∃ text, settings.window.get "font_path" = .text text

end Settings

namespace Preferences

/-- Preferences within all their bounds. -/
structure Usable (settings : Settings) (preferences : Preferences) : Prop where
  interval : 0 ≤ preferences.typingInterval
  width : 1 ≤ preferences.windowWidth
  height : 1 ≤ preferences.windowHeight
  rate : 1 ≤ preferences.framesPerSecond
  timings : preferences.timings.Complete
  font : (preferences.fontPath = none ∨ ∃ text, preferences.fontPath = some (.text text)) ↔
    settings.NamesFont

variable {settings : Settings} {value : Value}

theorem reads_integerOf {fallback least : Int} (fine : least ≤ fallback) :
    Reads (integerOf value fallback least) value.IsInfinite fun integer => least ≤ integer := by
  rw [← overflows_toInteger, ← or_false (Overflows value.toInteger)]
  unfold integerOf
  cases value.toInteger with
  | ok integer => exact (reads_pure (Int.le_max_left least integer)).settled
  | error reason => exact reads_fallback (reads_pure fine).warned

theorem reads_volumeOf (hundredths : Nat) :
    Reads (volumeOf value hundredths) value.IsImmense fun _ => True := by
  rw [← overflows_toFloat, ← or_false (Overflows value.toFloat)]
  unfold volumeOf
  cases value.toFloat with
  | ok volume => exact (reads_pure trivial).settled
  | error reason => exact reads_fallback (reads_pure trivial).warned

def StopsAt (entries : Entries) : Prop :=
  ∃ entry ∈ entries, (Vocabulary.find? (α := Transition) entry.1).isSome = true ∧
    IsEndless entry.2

private theorem reads_timingsFrom {table : TimingTable} (complete : table.Complete)
    (entries : Entries) :
    Reads (timingsFrom table entries) (StopsAt entries) TimingTable.Complete := by
  induction entries generalizing table with
  | nil => exact (reads_pure complete).congr (by simp [StopsAt])
  | cons entry entries hypothesis =>
      obtain ⟨key, value⟩ := entry
      unfold timingsFrom
      cases named : Vocabulary.find? (α := Transition) key with
      | none => exact (hypothesis complete).warned.congr (by simp [StopsAt, named])
      | some style =>
          have skipped {warning : Settings.Warning} :
              Reads (do warn warning; timingsFrom table entries) (StopsAt entries)
                TimingTable.Complete :=
            (hypothesis complete).warned
          have stops : (Overflows (timingOf value) ∨ StopsAt entries) ↔
              StopsAt ((key, value) :: entries) := by
            simp [StopsAt, named, overflows_timingOf]
          refine Reads.congr ?_ stops
          cases timed : timingOf value with
          | ok found =>
              cases found with
              | some timing =>
                  obtain ⟨commit, clear⟩ := nonneg_of_timingOf timed
                  exact (hypothesis (complete.set style commit clear)).settled
              | none => exact skipped.settled
          | error reason => exact reads_fallback skipped

/-- The settings that are out of range, one by one. -/
private theorem outOfRange_iff (settings : Settings) :
    settings.OutOfRange ↔
      (settings.playback.get "typing_interval_ms").IsInfinite ∨
      (settings.audio.get "music_volume").IsImmense ∨
      (settings.audio.get "voice_volume").IsImmense ∨
      (settings.audio.get "sfx_volume").IsImmense ∨ StopsAt settings.transitions ∨
      (settings.window.get "width").IsInfinite ∨ (settings.window.get "height").IsInfinite ∨
      (settings.window.get "fps").IsInfinite ∨ False := by
  constructor
  · intro outOfRange
    cases outOfRange with
    | interval infinite => exact .inl infinite
    | volume named immense =>
        simp only [List.mem_cons, List.not_mem_nil, or_false] at named
        rcases named with rfl | rfl | rfl <;> simp [immense]
    | timing member known endless =>
        have stops : StopsAt settings.transitions := ⟨_, member, known, endless⟩
        simp [stops]
    | window named infinite =>
        simp only [List.mem_cons, List.not_mem_nil, or_false] at named
        rcases named with rfl | rfl | rfl <;> simp [infinite]
  · rintro (infinite | immense | immense | immense | ⟨entry, member, known, endless⟩ | infinite |
      infinite | infinite | impossible)
    · exact .interval infinite
    · exact .volume (by decide) immense
    · exact .volume (by decide) immense
    · exact .volume (by decide) immense
    · exact .timing member known endless
    · exact .window (by decide) infinite
    · exact .window (by decide) infinite
    · exact .window (by decide) infinite
    · exact impossible.elim

/-- What is kept of a font is none or a text just where a font is named. -/
theorem font_iff (font : Value) :
    ((if font.truthy then some font else none) = none ∨
        ∃ text, (if font.truthy then some font else none) = some (Value.text text)) ↔
      (font.truthy = true → ∃ text, font = .text text) := by
  cases font.truthy <;> simp

private theorem reads_read (settings : Settings) :
    Reads (read settings) settings.OutOfRange (Usable settings) := by
  refine Reads.congr ?_ (outOfRange_iff settings).symm
  refine (reads_integerOf (by decide)).bind fun interval intervalFine => ?_
  refine (reads_volumeOf 30).bind fun music _ => ?_
  refine (reads_volumeOf 80).bind fun voice _ => ?_
  refine (reads_volumeOf 50).bind fun sfx _ => ?_
  refine (reads_timingsFrom complete_defaultTimings _).bind fun timings complete => ?_
  refine (reads_integerOf (by decide)).bind fun width widthFine => ?_
  refine (reads_integerOf (by decide)).bind fun height heightFine => ?_
  refine (reads_integerOf (by decide)).bind fun rate rateFine => ?_
  exact reads_pure ⟨intervalFine, widthFine, heightFine, rateFine, complete, font_iff _⟩

end Preferences

namespace Settings

def NestsTooDeep (text : String) : Prop :=
  Json.read text = .error (.limit .listNesting) ∨ Json.read text = .error (.limit .objectNesting)

private theorem ofText_ok_iff (path text : String) :
    (∃ settings, (ofText path text).1 = .ok settings) ↔ ¬ NestsTooDeep text := by
  unfold ofText NestsTooDeep
  split
  · next same => simp [same]
  · next same => simp [same]
  · next error notList notObject same =>
      simp only [same, Except.error.injEq]
      exact iff_of_true ⟨_, rfl⟩ fun deep => deep.elim notList notObject
  · next same => simp [same]
  · next same => simp [same]

private theorem readText_of_missing {tree : Tree} {path : Path}
    (missing : tree.exists path = .ok false)
    (text : String) : tree.readText path ≠ .ok text := by
  unfold Tree.exists at missing
  unfold Tree.readText Tree.read
  cases found : tree.find path with
  | ok node =>
      rw [found] at missing
      cases missing
  | error error => exact nofun

/-- Settings come of whatever a file holds, or of no file, where the path can be looked up and
nothing is nested too deep. -/
theorem load_ok_iff (tree : Tree) (path : Path) :
    (∃ settings, (load tree path).1 = .ok settings) ↔
      (∃ found, tree.exists path = .ok found) ∧
        ∀ text, tree.readText path = .ok text → ¬ NestsTooDeep text := by
  unfold load
  cases lookup : tree.exists path with
  | error error => simp
  | ok there =>
      cases there with
      | false => simp [readText_of_missing lookup]
      | true =>
          cases content : tree.readText path with
          | error error => simp
          | ok text => simp [ofText_ok_iff]

end Settings

/-- Whatever a settings file holds, preferences come of it that can be used, but for three
exceptions: nothing is loaded of what is nested too deep, no preferences come of a number out of all
range, and a font that is no text stays what it is. -/
theorem usable_of_file (tree : Tree) (path : Path) :
    ((∃ settings, (Settings.load tree path).1 = .ok settings) ↔
      (∃ found, tree.exists path = .ok found) ∧
        ∀ text, tree.readText path = .ok text → ¬ Settings.NestsTooDeep text) ∧
    ∀ settings, (Settings.load tree path).1 = .ok settings →
      ((∃ preferences, (Preferences.ofValue settings.toValue).1 = .ok preferences) ↔
        ¬ settings.OutOfRange) ∧
      ∀ preferences, (Preferences.ofValue settings.toValue).1 = .ok preferences →
        preferences.Usable settings := by
  refine ⟨Settings.load_ok_iff tree path, ?_⟩
  intro settings loaded
  have reads := Preferences.reads_read settings
  have again := (Settings.merged_load loaded).merge_toValue
  have used : Preferences.ofValue settings.toValue = (Preferences.read settings).run.run [] := by
    unfold Preferences.ofValue
    rw [again]
  rw [used]
  exact ⟨reads.ends_iff [], reads.gives []⟩

namespace Settings

/-- What is read of the settings in a file, where both come to their ends. -/
theorem exists_of_load {α : Type} {tree : Tree} {path : Path}
    {read : Settings → α} {result : α}
    (loads : (load tree path).1.toOption.map read = some result) :
    ∃ settings, (load tree path).1 = .ok settings ∧ read settings = result := by
  obtain ⟨settings, loaded, given⟩ := Option.map_eq_some_iff.mp loads
  cases outcome : (load tree path).1 with
  | error error =>
      rw [outcome] at loaded
      cases loaded
  | ok other =>
      rw [outcome] at loaded
      cases loaded
      exact ⟨settings, rfl, given⟩

def cabinet : Tree where
  root := .directory
    [("odd.json", .file (Text.Utf8.encode
        "\x7b\"window\": \x7b\"width\": -5, \"fps\": NaN\x7d, \"transitions\": \x7b\"fade\": [-1, true]\x7d\x7d")),
      ("endless.json", .file (Text.Utf8.encode
        "\x7b\"playback\": \x7b\"typing_interval_ms\": 1e400\x7d\x7d")),
      ("numbered.json", .file (Text.Utf8.encode "\x7b\"window\": \x7b\"font_path\": 5\x7d\x7d"))]
  current := []

end Settings

theorem usable_of_file_odd : ∃ settings preferences,
    (Settings.load Settings.cabinet (.ofString "odd.json")).1 = .ok settings ∧
      (Preferences.ofValue settings.toValue).1 = .ok preferences ∧
      preferences.windowWidth = 1 ∧ preferences.framesPerSecond = 60 ∧
      preferences.timings.timingFor (some .fade) = ⟨0, 1⟩ ∧ preferences.Usable settings := by
  obtain ⟨settings, loaded, numbers⟩ := Settings.exists_of_load
    (by decide +kernel :
      (Settings.load Settings.cabinet (.ofString "odd.json")).1.toOption.map
        (fun settings => (Preferences.ofValue settings.toValue).1.toOption.map fun used =>
          (used.windowWidth, used.framesPerSecond, used.timings.timingFor (some .fade))) =
        some (some (1, 60, ⟨0, 1⟩)))
  obtain ⟨ends, usable⟩ :=
    (usable_of_file Settings.cabinet (.ofString "odd.json")).2 settings loaded
  cases outcome : (Preferences.ofValue settings.toValue).1 with
  | error error =>
      rw [outcome] at numbers
      cases numbers
  | ok preferences =>
      rw [outcome] at numbers
      simp only [Except.toOption, Option.map_some, Option.some.injEq, Prod.mk.injEq] at numbers
      obtain ⟨width, rate, fade⟩ := numbers
      exact ⟨settings, preferences, loaded, outcome, width, rate, fade, usable preferences outcome⟩

/-- A number beyond all others leaves no preferences, and a font that is no text is kept. -/
theorem unusable_of_file :
    (∃ settings, (Settings.load Settings.cabinet (.ofString "endless.json")).1 = .ok settings ∧
      (Preferences.ofValue settings.toValue).1 = .error .infinite) ∧
    ∃ settings preferences,
      (Settings.load Settings.cabinet (.ofString "numbered.json")).1 = .ok settings ∧
      (Preferences.ofValue settings.toValue).1 = .ok preferences ∧
      preferences.fontPath ≠ none ∧ ∀ text, preferences.fontPath ≠ some (.text text) := by
  constructor
  · obtain ⟨settings, loaded, stopped⟩ := Settings.exists_of_load
      (by decide +kernel :
        (Settings.load Settings.cabinet (.ofString "endless.json")).1.toOption.map
          (fun settings => (((Preferences.ofValue settings.toValue).1.map fun _ => none).tryCatch
            fun error => .ok (some error)).toOption) = some (some (some .infinite)))
    refine ⟨settings, loaded, ?_⟩
    cases outcome : (Preferences.ofValue settings.toValue).1 with
    | ok preferences =>
        rw [outcome] at stopped
        cases stopped
    | error error =>
        rw [outcome] at stopped
        cases stopped
        rfl
  · obtain ⟨settings, loaded, kind⟩ := Settings.exists_of_load
      (by decide +kernel :
        (Settings.load Settings.cabinet (.ofString "numbered.json")).1.toOption.map
          (fun settings => (Preferences.ofValue settings.toValue).1.toOption.map fun used =>
            used.fontPath.map Value.kind) = some (some (some "int")))
    cases outcome : (Preferences.ofValue settings.toValue).1 with
    | error error =>
        rw [outcome] at kind
        cases kind
    | ok preferences =>
        rw [outcome] at kind
        have number : preferences.fontPath.map Value.kind = some "int" := Option.some.inj kind
        refine ⟨settings, preferences, loaded, outcome, ?_, ?_⟩
        · intro missing
          rw [missing] at number
          cases number
        · intro text named
          rw [named] at number
          simp [Value.kind] at number

end VisualNovel
