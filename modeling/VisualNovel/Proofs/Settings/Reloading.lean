import VisualNovel.Proofs.Files.Writing
import VisualNovel.Proofs.Json.Breaking
import VisualNovel.Proofs.Json.Equality
import VisualNovel.Proofs.Settings.Merging
import VisualNovel.Proofs.Settings.Readings
import VisualNovel.Proofs.Text.Utf8

/-!
# Settings that were saved

What is saved of a value is the value laid over the defaults, and that is what is
loaded again. Saving it once more changes nothing, and the preferences that come of
it are those that came of the value: which warnings there were before has no part
in them.
-/

set_option autoImplicit false

namespace VisualNovel

open VisualNovel.Files VisualNovel.Json VisualNovel.Novel VisualNovel.Numeric
  VisualNovel.Playback VisualNovel.Text

/-! ## Sections -/

namespace Json

variable {entries extra : Entries}

private theorem Entries.get?_eq_none {key : String} (absent : key ∉ entries.keys) :
    entries.get? key = none := by
  induction entries with
  | nil => rfl
  | cons entry entries hypothesis =>
      obtain ⟨first, value⟩ := entry
      simp only [Entries.keys, List.map_cons, List.mem_cons, not_or] at absent
      have apart : (key == first) = false := by simpa using absent.1
      rw [Entries.get?, List.lookup_cons, apart]
      exact hypothesis absent.2

/-- Setting the keys of an object gives them its values and leaves the others as they were. -/
theorem Entries.get?_update (nodup : extra.keys.Nodup) (entries : Entries) (key : String) :
    (entries.update extra).get? key = (extra.get? key).or (entries.get? key) := by
  induction extra generalizing entries with
  | nil => rfl
  | cons entry extra hypothesis =>
      obtain ⟨first, value⟩ := entry
      obtain ⟨absent, others⟩ := List.nodup_cons.mp nodup
      have rest : (entries.update ((first, value) :: extra)).get? key =
          (Entries.get? extra key).or (Entries.get? (entries.insert first value) key) :=
        hypothesis others (entries.insert first value)
      by_cases same : key = first
      · subst same
        rw [Entries.get?_eq_none absent, Entries.get?_insert_self] at rest
        simpa [Entries.get?, List.lookup_cons] using rest
      · have apart : (key == first) = false := by simpa using same
        rw [Entries.get?_insert_of_ne _ _ same] at rest
        simpa [Entries.get?, List.lookup_cons, apart] using rest

/-- Entries laid over defaults: every key is there once, those of the object that is given with
its values, the others as they were. What is no object counts for nothing. -/
structure Entries.LaidOver (defaults : Entries) (given : Value) (merged : Entries) : Prop where
  nodup : merged.keys.Nodup
  object : ∀ extra : Entries, given = .object extra → extra.keys.Nodup →
    ∀ key, merged.get? key = (extra.get? key).or (defaults.get? key)
  other : (∀ extra, given ≠ .object extra) → merged = defaults

end Json

namespace Settings

theorem laidOver_mergeSection (name : String) {defaults : Entries} (nodup : defaults.keys.Nodup)
    (sections : Entries) :
    defaults.LaidOver (Entries.get sections name)
      (mergeSection name defaults (.object sections)).1 := by
  refine ⟨(covers_mergeSection name nodup _).nodup, fun extra given distinct key => ?_,
    fun other => ?_⟩
  · simp only [mergeSection, given]
    exact Entries.get?_update distinct defaults key
  · unfold mergeSection
    dsimp only
    split
    · next extra given => exact absurd given (other extra)
    · rfl
    · rfl

/-- Settings that are the sections of an object laid over the defaults, and nothing else. -/
structure Overlays (sections : Entries) (settings : Settings) : Prop where
  playback : default.playback.LaidOver (Entries.get sections "playback") settings.playback
  audio : default.audio.LaidOver (Entries.get sections "audio") settings.audio
  transitions :
    default.transitions.LaidOver (Entries.get sections "transitions") settings.transitions
  window : default.window.LaidOver (Entries.get sections "window") settings.window

private theorem overlays_merge (sections : Entries) :
    Overlays sections (merge (.object sections)).1 :=
  ⟨laidOver_mergeSection _ (by decide) sections, laidOver_mergeSection _ (by decide) sections,
    laidOver_mergeSection _ (by decide) sections, laidOver_mergeSection _ (by decide) sections⟩

end Settings

/-! ## Warnings -/

namespace Preferences

variable {α β : Type} {reading : Reading α} {next : α → Reading β}

def Adds (reading : Reading α) : Prop :=
  ∃ result more, ∀ warnings, reading.run.run warnings = (result, warnings ++ more)

theorem adds_pure (given : α) : Adds (pure given) :=
  ⟨.ok given, [], fun warnings => by rw [List.append_nil]; rfl⟩

private theorem adds_throw (error : RangeError) : Adds (throw error : Reading α) :=
  ⟨.error error, [], fun warnings => by rw [List.append_nil]; rfl⟩

private theorem adds_warn (warning : Settings.Warning) : Adds (warn warning) :=
  ⟨.ok (), [warning], fun _ => rfl⟩

theorem Adds.bind (first : Adds reading) (rest : ∀ given, Adds (next given)) :
    Adds (reading >>= next) := by
  obtain ⟨result, more, adds⟩ := first
  cases result with
  | error error => exact ⟨.error error, more, fun warnings => by rw [run_bind, adds]⟩
  | ok given =>
      obtain ⟨final, others, addsThen⟩ := rest given
      refine ⟨final, more ++ others, fun warnings => ?_⟩
      rw [run_bind, adds, ← List.append_assoc, ← addsThen]

theorem adds_fallback {reason : CoercionError} {fallback : Reading α} (adds : Adds fallback) :
    Adds (match reason.overflow? with
      | some error => throw error
      | none => fallback) := by
  cases reason.overflow? with
  | some error => exact adds_throw error
  | none => exact adds

theorem Adds.warned {warning : Settings.Warning} (adds : Adds reading) :
    Adds (do warn warning; reading) :=
  (adds_warn warning).bind fun _ => adds

theorem adds_integerOf (value : Value) (fallback least : Int) :
    Adds (integerOf value fallback least) := by
  unfold integerOf
  cases value.toInteger with
  | ok integer => exact adds_pure _
  | error reason => exact adds_fallback (adds_pure _).warned

theorem adds_volumeOf (value : Value) (hundredths : Nat) : Adds (volumeOf value hundredths) := by
  unfold volumeOf
  cases value.toFloat with
  | ok volume => exact adds_pure _
  | error reason => exact adds_fallback (adds_pure _).warned

private theorem adds_timingsFrom (table : TimingTable) (entries : Entries) :
    Adds (timingsFrom table entries) := by
  induction entries generalizing table with
  | nil => exact adds_pure table
  | cons entry entries hypothesis =>
      obtain ⟨key, value⟩ := entry
      unfold timingsFrom
      cases Vocabulary.find? (α := Transition) key with
      | none => exact (hypothesis table).warned
      | some style =>
          cases timingOf value with
          | ok found =>
              cases found with
              | some timing => exact hypothesis _
              | none => exact (hypothesis table).warned
          | error reason => exact adds_fallback (hypothesis table).warned

private theorem adds_read (settings : Settings) : Adds (read settings) :=
  (adds_integerOf _ _ _).bind fun _ => (adds_volumeOf _ _).bind fun _ =>
    (adds_volumeOf _ _).bind fun _ => (adds_volumeOf _ _).bind fun _ =>
    (adds_timingsFrom _ _).bind fun _ => (adds_integerOf _ _ _).bind fun _ =>
    (adds_integerOf _ _ _).bind fun _ => (adds_integerOf _ _ _).bind fun _ => adds_pure _

/-- The preferences that come of settings are those that came of the value they were merged from. -/
theorem ofValue_merge (value : Value) :
    (ofValue (Settings.merge value).1.toValue).1 = (ofValue value).1 := by
  have again : Settings.merge (Settings.merge value).1.toValue = ((Settings.merge value).1, []) :=
    Settings.Merged.merge_toValue ⟨value, rfl⟩
  obtain ⟨result, more, adds⟩ := adds_read (Settings.merge value).1
  have gives (other : Value) : (ofValue other).1 =
      ((read (Settings.merge other).1).run.run (Settings.merge other).2).1 := rfl
  rw [gives, gives, again, adds, adds]

end Preferences

/-! ## Files -/

namespace Settings

variable {tree middle after : Tree} {path : Path} {value : Value} {settings : Settings}

private theorem write_of_save (saved : (save tree path value).1 = .ok (some after)) :
    ∃ middle, tree.makeDirectories path.parent (path.names.length + 1) = .ok middle ∧
      middle.write path (Utf8.encode (merge value).1.toValue.write) = .ok after := by
  have nothing {warnings : List Warning} {error : FileError} :
      (unwritten path warnings error).1 ≠ .ok (some after) := by
    cases error <;> exact nofun
  unfold save at saved
  split at saved
  · exact absurd saved nothing
  · next middle made =>
      dsimp only at saved
      split at saved
      · exact absurd saved nothing
      · next written =>
          cases saved
          exact ⟨middle, made, written⟩

/-- Settings that were written are loaded, where reading is the inverse of writing. -/
theorem load_of_write (merged : settings.Merged)
    (written : middle.write path (Utf8.encode settings.toValue.write) = .ok after)
    (inverse : Json.read settings.toValue.write = .ok settings.toValue) :
    load after path = (.ok settings, []) := by
  have text : after.readText path = .ok settings.toValue.write := by
    unfold Tree.readText
    rw [Tree.read_write written]
    dsimp only
    rw [Utf8.decode_encode]
    exact congrArg Except.ok (withLineFeeds_of_notMem (return_notMem_writeAt 0 _))
  unfold load
  rw [Tree.exists_write written, text]
  dsimp only
  unfold ofText
  rw [inverse]
  exact congrArg (fun outcome => (Except.ok outcome.1, outcome.2)) merged.merge_toValue

/-- Where settings were written they are written again, without a warning. -/
theorem save_of_write (merged : settings.Merged) {count : Nat}
    (made : tree.makeDirectories path.parent (count + 1) = .ok middle) {octets : List UInt8}
    (written : middle.write path octets = .ok after) :
    ∃ again, after.write path (Utf8.encode settings.toValue.write) = .ok again ∧
      save after path settings.toValue = (.ok (some again), []) := by
  obtain ⟨again, rewritten⟩ := Tree.write_again written (Utf8.encode settings.toValue.write)
  refine ⟨again, rewritten, ?_⟩
  unfold save
  rw [Tree.makeDirectories_write made written, merged.merge_toValue]
  dsimp only
  rw [rewritten]

/-- What is saved of an object is the object laid over the defaults. It is what is loaded, before
and after it is saved once more, and the preferences that come of it are those that came of the
object. -/
theorem reload_of_save {sections : Entries}
    (saved : (save tree path (.object sections)).1 = .ok (some after))
    (inverse : Json.read (merge (.object sections)).1.toValue.write =
      .ok (merge (.object sections)).1.toValue) :
    ∃ settings : Settings, Overlays sections settings ∧ load after path = (.ok settings, []) ∧
      (∃ again, save after path settings.toValue = (.ok (some again), []) ∧
        load again path = (.ok settings, [])) ∧
      (Preferences.ofValue settings.toValue).1 = (Preferences.ofValue (.object sections)).1 := by
  obtain ⟨middle, made, written⟩ := write_of_save saved
  have merged : (merge (.object sections)).1.Merged := ⟨_, rfl⟩
  obtain ⟨again, rewritten, savedAgain⟩ := save_of_write merged made written
  exact ⟨_, overlays_merge sections, load_of_write merged written inverse,
    ⟨again, savedAgain, load_of_write merged rewritten inverse⟩,
    Preferences.ofValue_merge (.object sections)⟩

def mixedSections : Entries :=
  [("window", .object
      [("width", .integer 800), ("theme", .text "dark\r\n"), ("font_path", .list [])]),
    ("audio", .list []), ("playback", .object [("typing_interval_ms", .number 0.1)]),
    ("extra", .null)]

private theorem toValue_mixedSections : (merge (.object mixedSections)).1.toValue = .object
    [("playback", .object [("typing_interval_ms", .number 0.1)]),
      ("audio", .object [("music_volume", .number 0.3), ("voice_volume", .number 0.8),
        ("sfx_volume", .number 0.5), ("muted", .bool false)]),
      ("transitions", .object (timingEntries defaultTimings)),
      ("window", .object [("width", .integer 800), ("height", .integer 720),
        ("fps", .integer 60), ("font_path", .list []), ("theme", .text "dark\r\n")])] :=
  rfl

private theorem read_write_mixedSections :
    Json.read (merge (.object mixedSections)).1.toValue.write =
    .ok (merge (.object mixedSections)).1.toValue := by
  have ok_of_toOption {outcome : Except Json.Error Value} {value : Value}
      (given : outcome.toOption = some value) : outcome = .ok value := by
    cases outcome with
    | ok other => exact congrArg Except.ok (Option.some.inj given)
    | error error => cases given
  rw [toValue_mixedSections]
  apply ok_of_toOption
  unfold Json.read
  -- the texts are put together by rewriting, since they are slow to evaluate
  simp only [Value.write, Value.writeAt, writeEntries, writeItems, writtenBlock,
    String.toList_append, String.toList_intercalate, List.map, newLine, writtenText,
    String.toList_ofList, timingEntries, defaultTimings]
  decide +kernel

theorem reload_of_save_mixedSections :
    ∃ after, (save ⟨.empty, []⟩ defaultPath (.object mixedSections)).1 = .ok (some after) ∧
    ∃ settings : Settings, Overlays mixedSections settings ∧
      load after defaultPath = (.ok settings, []) ∧
      (∃ again, save after defaultPath settings.toValue = (.ok (some again), []) ∧
        load again defaultPath = (.ok settings, [])) ∧
      (Preferences.ofValue settings.toValue).1 =
        (Preferences.ofValue (.object mixedSections)).1 :=
  have saved : (save ⟨.empty, []⟩ defaultPath (.object mixedSections)).1 = .ok (some
      ⟨.directory [("save", .directory [("config.json",
        .file (Utf8.encode (merge (.object mixedSections)).1.toValue.write))])], []⟩) := rfl
  ⟨_, saved, reload_of_save saved read_write_mixedSections⟩

end Settings

end VisualNovel
